import Mathlib.Algebra.Order.BigOperators.Group.List
import Mathlib.Algebra.Order.Ring.Nat
import PrintServer.IppChanges
import PrintServer.JobStates
import PrintServer.PrinterAttributes
/-!
# Every answer is whole (ipp_pcl3_service.cpp:269-323, 388-410, 754-761)

| here | there |
| --- | --- |
| `addJobAttributes` | `addJobAttributes` (:388): the calls on the writer |
| `sendJobResponse`  | `sendJobResponse` (:404): the writer whose bytes are sent |
| `Reply.writer`     | the writer that `sendHttpIpp` is given |

`sendSimple` and `sendJobResponse` do not look at `ok`. What they write is short: a job's name has at
most 127 bytes (:812), its reason is one of six texts, and the rest is of fixed size.
-/
namespace PrintServer

open Lib.Ipp

/-- `addJobAttributes` (:388). -/
def addJobAttributes (site : Site) (j : JobReport) : List WriterOp :=
  let base := site.ippBaseUri
  let jobUri := base ++ ascii "/job/" ++ Site.decimal j.jobId.toNat
  List.flatten
    [[.b 0x02,
      .integer 0x21 "job-id" j.jobId.toNat,
      .str 0x45 "job-uri" jobUri,
      .str 0x45 "job-printer-uri" base,
      .integer 0x23 "job-state" j.jobState.code,
      .str 0x44 "job-state-reasons" (ascii (if j.reason ≠ "" then j.reason else "none"))],
     if j.jobName ≠ [] then [.str 0x42 "job-name" j.jobName] else [],
     [.integer 0x21 "job-printer-up-time" j.upTime],
     if j.processingUp ≠ 0 then [.integer 0x21 "time-at-processing" j.processingUp] else [],
     if j.completedUp ≠ 0 then [.integer 0x21 "time-at-completed" j.completedUp] else []]

/-- `sendJobResponse` (:404). -/
def sendJobResponse (version : IppVersion) (status : Nat) (requestId : UInt32) (site : Site) (j : JobReport) : IppWriter :=
  let w := beginResponse {} version status requestId
  let w := if status = 0x0000 ∧ j.jobId ≠ 0 then w.calls (addJobAttributes site j) else w
  w.b 0x03

/-- The writer behind an answer. -/
def Reply.writer (site : Site) (r : Reply) : IppWriter :=
  match r.answered with
  | .simple status => simpleResponse r.version status r.requestId
  | .job status report => sendJobResponse r.version status r.requestId site report
  | .printer attrs snap => sendPrinterAttributes r.version r.requestId attrs site snap

/-! ## Sizes -/

theorem length_cstr_le (s : Bytes) : (cstr s).length ≤ s.length := (List.takeWhile_sublist _).length_le

theorem length_octets_le (s : Bytes) : (octets s).length ≤ s.length := by
  unfold octets
  rw [List.length_take]
  exact Nat.min_le_right _ _

namespace WriterOp

theorem length_attr_le (tag : UInt8) (name value : Bytes) :
    (attr tag name value).encode.length ≤ 5 + name.length + value.length := by
  have hn := Nat.le_trans (length_octets_le (cstr name)) (length_cstr_le name)
  have hv := length_octets_le value
  have he : (attr tag name value).encode.length = 5 + (octets (cstr name)).length + (octets value).length := by
    simp only [encode, Item.encode, List.length_cons, List.length_append, Lib.Ipp.u16, List.length_nil]
    omega
  rw [he]
  omega

theorem length_str_le (tag : UInt8) (name : String) (value : Bytes) :
    (str tag name value).encode.length ≤ 5 + (ascii name).length + value.length :=
  Nat.le_trans (length_attr_le _ _ _) (Nat.add_le_add_left (length_cstr_le value) _)

theorem length_integer_le (tag : UInt8) (name : String) (value : Int) :
    (integer tag name value).encode.length ≤ 5 + (ascii name).length + 4 := length_attr_le _ _ _

end WriterOp

theorem length_ascii (s : String) : (ascii s).length = s.length := by
  unfold ascii
  rw [List.length_map, String.length_toList]

theorem length_decimal_le {n k : Nat} (hk : 0 < k) (hn : n < 10 ^ k) : (Site.decimal n).length ≤ k := by
  unfold Site.decimal
  rw [length_ascii]
  exact (Nat.length_repr_le_iff hk).2 hn

theorem length_octet_le (b : UInt8) : (Site.decimal b.toNat).length ≤ 3 :=
  length_decimal_le (by decide) (Nat.lt_trans b.toNat_lt (by decide))

theorem length_host_le (site : Site) : site.host.length ≤ 15 := by
  unfold Site.host
  cases site.ip with
  | none => decide
  | some ip =>
    obtain ⟨a, b, c, d⟩ := ip
    have ha := length_octet_le a
    have hb := length_octet_le b
    have hc := length_octet_le c
    have hd := length_octet_le d
    have hdot : (ascii ".").length = 1 := by decide
    simp only [List.length_append, hdot]
    omega

theorem length_ippBaseUri_le (site : Site) : site.ippBaseUri.length ≤ 35 := by
  have hhost := length_host_le site
  have hscheme : (ascii "ipp://").length = 6 := by decide
  have hpath : (ascii ":631/ipp/print").length = 14 := by decide
  unfold Site.ippBaseUri
  simp only [List.length_append, hscheme, hpath]
  omega

/-! ## Short answers -/

namespace IppWriter
variable {w w' : IppWriter} {x : Bytes}

/-- Nothing is lost of what fits. -/
theorem ok_of_wrote (h : Wrote w w' x) (hok : w.ok = true) (hle : w.data.length + x.length ≤ w.cap) :
    w'.ok = true ∧ w'.cap = w.cap ∧ w'.data.length = w.data.length + x.length := by
  have hok' := h.fits hok hle
  refine ⟨hok', h.cap, ?_⟩
  rw [(h.kept hok').2, List.length_append]

end IppWriter

/-- The head and the operation attributes. -/
theorem ok_beginResponse (version : IppVersion) (status : Nat) (requestId : UInt32) :
    (beginResponse {} version status requestId).ok = true ∧
      (beginResponse {} version status requestId).cap = ippResponseMax ∧
      (beginResponse {} version status requestId).data.length = 71 := by
  have h := wrote_beginResponse {} version status requestId
  have hlen : (responseHead version status requestId ++
      (Item.delimiter 0x01 :: operationItems).flatMap Item.encode).length = 71 := by
    rw [List.length_append]
    have hitems : ((Item.delimiter 0x01 :: operationItems).flatMap Item.encode).length = 63 := by decide
    rw [hitems]
    rfl
  obtain ⟨hok, hcap, hdata⟩ := IppWriter.ok_of_wrote h rfl (by rw [hlen]; decide)
  refine ⟨hok, hcap, ?_⟩
  rw [hdata, hlen]
  rfl

theorem ok_simpleResponse (version : IppVersion) (status : Nat) (requestId : UInt32) :
    (simpleResponse version status requestId).ok = true := by
  obtain ⟨hok, hcap, hdata⟩ := ok_beginResponse version status requestId
  refine (IppWriter.wrote_b _ 0x03).fits hok ?_
  rw [hcap, hdata]
  decide

theorem ok_sendPrinterAttributes (version : IppVersion) (requestId : UInt32) (req : RequestAttrs) (site : Site)
    (snap : PrinterSnapshot) : (sendPrinterAttributes version requestId req site snap).ok = true := by
  unfold sendPrinterAttributes
  dsimp only
  split
  · exact ok_simpleResponse version 0x0500 requestId
  · rename_i hok
    simpa using hok

/-! ## The job attributes -/

/-- What an answer can show of a job. -/
structure JobReport.Short (j : JobReport) : Prop where
  jobName : j.jobName.length < 128
  reason : j.reason = "" ∨ j.reason ∈ IppPcl3Service.reasons

theorem length_reason_le {reason : String} (h : reason = "" ∨ reason ∈ IppPcl3Service.reasons) :
    (ascii (if reason ≠ "" then reason else "none")).length ≤ 26 := by
  have hall : ∀ t ∈ "none" :: IppPcl3Service.reasons, (ascii t).length ≤ 26 := by decide
  apply hall
  rcases h with rfl | h
  · exact List.mem_cons_self
  · split
    · exact List.mem_cons_of_mem _ h
    · exact List.mem_cons_self

/-- No call writes more than a name's 127 bytes, the attribute's name and five bytes around them. -/
theorem length_addJobAttributes (site : Site) {j : JobReport} (h : j.Short) :
    ∀ op ∈ addJobAttributes site j, op.encode.length ≤ 151 := by
  have hbase := length_ippBaseUri_le site
  have hid : (Site.decimal j.jobId.toNat).length ≤ 10 :=
    length_decimal_le (by decide) (Nat.lt_trans j.jobId.toNat_lt (by decide))
  have hreason := length_reason_le h.reason
  have hname := h.jobName
  have hint : ∀ (tag : UInt8) (name : String) (value : Int), (ascii name).length ≤ 19 →
      (WriterOp.integer tag name value).encode.length ≤ 151 := by
    intro tag name value hn
    have := WriterOp.length_integer_le tag name value
    omega
  have hstr : ∀ (tag : UInt8) (name : String) (value : Bytes), (ascii name).length ≤ 19 → value.length ≤ 127 →
      (WriterOp.str tag name value).encode.length ≤ 151 := by
    intro tag name value hn hv
    have := WriterOp.length_str_le tag name value
    omega
  intro op hop
  unfold addJobAttributes at hop
  dsimp only at hop
  simp only [List.flatten_cons, List.flatten_nil, List.mem_append, List.append_nil] at hop
  rcases hop with hfixed | hjob | hup | hproc | hdone
  · simp only [List.mem_cons, List.not_mem_nil, or_false] at hfixed
    rcases hfixed with rfl | rfl | rfl | rfl | rfl | rfl
    · decide
    · exact hint _ _ _ (by decide)
    · refine hstr _ _ _ (by decide) ?_
      have hjob : (ascii "/job/").length = 5 := by decide
      simp only [List.length_append, hjob]
      omega
    · exact hstr _ _ _ (by decide) (by omega)
    · exact hint _ _ _ (by decide)
    · exact hstr _ _ _ (by decide) (by omega)
  · split at hjob
    · obtain rfl := List.mem_singleton.1 hjob
      exact hstr _ _ _ (by decide) (by omega)
    · cases hjob
  · obtain rfl := List.mem_singleton.1 hup
    exact hint _ _ _ (by decide)
  · split at hproc
    · obtain rfl := List.mem_singleton.1 hproc
      exact hint _ _ _ (by decide)
    · cases hproc
  · split at hdone
    · obtain rfl := List.mem_singleton.1 hdone
      exact hint _ _ _ (by decide)
    · cases hdone

theorem card_addJobAttributes (site : Site) (j : JobReport) : (addJobAttributes site j).length ≤ 10 := by
  have hone : ∀ (p : Prop) [Decidable p] (op : WriterOp), (if p then [op] else []).length ≤ 1 := by
    intro p _ op
    split
    · exact Nat.le_refl 1
    · exact Nat.zero_le 1
  have hname := hone (j.jobName ≠ []) (.str 0x42 "job-name" j.jobName)
  have hproc := hone (j.processingUp ≠ 0) (.integer 0x21 "time-at-processing" j.processingUp)
  have hdone := hone (j.completedUp ≠ 0) (.integer 0x21 "time-at-completed" j.completedUp)
  unfold addJobAttributes
  dsimp only
  simp only [List.flatten_cons, List.flatten_nil, List.length_append, List.length_cons, List.length_nil]
  omega

theorem ok_sendJobResponse (version : IppVersion) (status : Nat) (requestId : UInt32) (site : Site) {j : JobReport}
    (h : j.Short) : (sendJobResponse version status requestId site j).ok = true := by
  obtain ⟨hok, hcap, hdata⟩ := ok_beginResponse version status requestId
  unfold sendJobResponse
  generalize beginResponse {} version status requestId = w at hok hcap hdata
  dsimp only
  split
  · have hsum : ((addJobAttributes site j).flatMap WriterOp.encode).length ≤ 10 * 151 := by
      rw [List.length_flatMap]
      have hle := List.sum_le_card_nsmul ((addJobAttributes site j).map fun op => op.encode.length) 151 (by
        simpa using length_addJobAttributes site h)
      rw [List.length_map] at hle
      exact Nat.le_trans hle (Nat.mul_le_mul_right 151 (card_addJobAttributes site j))
    have hmax : ippResponseMax = 16384 := rfl
    obtain ⟨hok', hcap', hdata'⟩ := IppWriter.ok_of_wrote (IppWriter.wrote_calls w (addJobAttributes site j)) hok (by omega)
    refine (IppWriter.wrote_b _ 0x03).fits hok' ?_
    rw [hcap', hcap, hdata', hdata, hmax, List.length_singleton]
    omega
  · refine (IppWriter.wrote_b _ 0x03).fits hok ?_
    rw [hcap, hdata]
    decide

/-! ## What the service can show -/

namespace IppPcl3Service
variable {σ : Type}

/-- Names and reasons are short. -/
structure Short (s : IppPcl3Service) : Prop where
  lastJobName : s.lastJobName.length < 128
  lastJobReason : s.lastJobReason = "" ∨ s.lastJobReason ∈ reasons

theorem Short.change {s s' : IppPcl3Service} {now : Nat} (h : s.Short) (hc : Change now s s') : s'.Short := by
  cases hc with
  | error text => exact ⟨h.lastJobName, h.lastJobReason⟩
  | track printer => exact ⟨h.lastJobName, h.lastJobReason⟩
  | newJob jobName pending hn => exact ⟨hn, Or.inr (show "job-incoming" ∈ reasons by decide)⟩
  | document => exact ⟨h.lastJobName, h.lastJobReason⟩
  | block n =>
    unfold Streaming.sent
    split
    · exact ⟨h.lastJobName, h.lastJobReason⟩
    · exact ⟨h.lastJobName, Or.inr (show "job-printing" ∈ reasons by decide)⟩
  | settled => exact ⟨h.lastJobName, h.lastJobReason⟩
  | failed state reason cause hs hr => exact ⟨h.lastJobName, Or.inr hr⟩
  | completed cause => exact ⟨h.lastJobName, Or.inr (show "job-completed-successfully" ∈ reasons by decide)⟩

theorem Leads.short {m m' : IppPcl3Service × Nat} (h : Leads m m') (hs : m.1.Short) : m'.1.Short :=
  Leads.keeps (I := fun s _ => s.Short) (fun _ _ _ hi _ => hi) (fun _ _ _ hi hc => hi.change hc) h hs

theorem short_begin (now : Nat) (buffer : Bool) : (({} : IppPcl3Service).begin now buffer).Short := by
  have h : ({} : IppPcl3Service).Short := ⟨by decide, Or.inl rfl⟩
  unfold begin
  split
  · exact h
  split
  · exact ⟨h.lastJobName, h.lastJobReason⟩
  · exact ⟨h.lastJobName, h.lastJobReason⟩

theorem short_visits (T : Transport σ) (vs : List (Visit σ)) {s : IppPcl3Service} (h : s.Short) :
    (s.visits T vs).Short := by
  induction vs generalizing s with
  | nil => exact h
  | cons v vs ih => exact ih ((leads_poll T v.rawConnected v.client s v.backend).1.short h)

/-- The writers that `sendHttpIpp` is given: by any poll, after any row of polls and requests. -/
inductive HandedOver (T : Transport σ) : IppWriter → Prop
  | intro (now : Nat) (buffer : Bool) (vs : List (Visit σ)) (v : Visit σ) (reply : Reply) (site : Site)
    (h : (((({} : IppPcl3Service).begin now buffer).visits T vs).poll T v.rawConnected v.client v.backend).2.2 = some reply) :
    HandedOver T (reply.writer site)

/-- **No truncated answer is sent.** A writer tells whether everything fitted, and in every answer
everything does. -/
theorem answers_whole (T : Transport σ) :
    (∀ (cap : Nat) (ops : List WriterOp), IppWriter.Truthful cap ops (({ cap } : IppWriter).calls ops)) ∧
      ∀ w, HandedOver T w → w.ok = true := by
  refine ⟨IppWriter.truthful_calls, ?_⟩
  rintro _ ⟨now, buffer, vs, v, reply, site, h⟩
  have hs := short_visits T vs (short_begin now buffer)
  generalize (({} : IppPcl3Service).begin now buffer).visits T vs = s at h hs
  obtain ⟨k, hk, _, hshows⟩ := (leads_poll T v.rawConnected v.client s v.backend).2 reply h
  have hk := hk.short hs
  unfold Reply.writer
  generalize reply.answered = answered at hshows
  cases answered with
  | simple status => exact ok_simpleResponse _ _ _
  | job status report =>
    rw [show report = k.1.report k.2 from hshows]
    exact ok_sendJobResponse _ _ _ site ⟨hk.lastJobName, hk.lastJobReason⟩
  | printer attrs snap => exact ok_sendPrinterAttributes _ _ _ _ _

end IppPcl3Service
end PrintServer
