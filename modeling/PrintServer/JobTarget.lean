import PrintServer.IppAttributes
import PrintServer.JobStates
/-!
# Requests that name another job (ipp_pcl3_service.cpp:797-815, 1174-1248)

| here | there |
| --- | --- |
| `keptId`, `keptUri` | `attrs.jobId`, `attrs.jobUri`, what the parser keeps of the section that the client sent |
| `RefusesAs`         | the target checks of the four operations, as each of them has them |

A client names a job by `job-id` or by a `job-uri` (`Names`). Each operation has its own checks:
only Send-Document looks at the uri, Close-Job looks at neither, and a uri of 256 bytes or more is
not kept at all. `handleClient_ignores_iff` says where that is enough.
-/
namespace PrintServer

open Lib.Ipp

/-! ## What a request names -/

/-- The request's attributes are what the parser makes of `sec`. -/
structure Carries (r : IppRequest) (sec : Section) : Prop where
  wf : sec.Wf
  attrs : r.attrs = RequestAttrs.kept (taken sec)

/-- Whatever the framing of the body, the parser's attributes are those of the section. -/
theorem carries_of_follow {E : Ending} (hc : E.clean) (hm : E.miss = []) {sec : Section} (hw : sec.Wf) {body : BodyReader}
    {doc : Bytes} (hf : Follow E body (sec.encode ++ doc)) {r : IppRequest}
    (hp : parseAttributes body = (some r.attrs, r.body)) : Carries r sec := by
  obtain ⟨r', e, -⟩ := BodyReader.parseAttributes_items hc hm hw hf
  rw [hp] at e
  exact ⟨hw, Option.some.inj (Prod.mk.inj e).1⟩

/-- Some `job-id` or `job-uri` of the section names job `n`. -/
def Names (sec : Section) (n : Nat) : Prop :=
  (∃ v, (ascii "job-id", v) ∈ given sec ∧ v.length = 4 ∧ (be32 v).toNat = n) ∨
    ∃ uri, (ascii "job-uri", uri) ∈ given sec ∧ ascii s!"/job/{n}" <:+ uri

/-- The last `job-id` kept by the parser. -/
def keptId (sec : Section) : Option UInt32 := (valuesOf "job-id" (· == 4) (taken sec)).getLast?.map be32

/-- The last `job-uri` kept by the parser; it has less than 256 bytes. -/
def keptUri (sec : Section) : Option Bytes := (valuesOf "job-uri" (· < 256) (taken sec)).getLast?

/-- The last `job-id`, and the last `job-uri` of less than 256 bytes, that stand outside collections. -/
def sentId (sec : Section) : Option UInt32 := (RequestAttrs.reference (given sec)).jobId
def sentUri (sec : Section) : Option Bytes := (RequestAttrs.reference (given sec)).jobUri

def OtherId (id : Option UInt32) (job : UInt32) : Prop := ∃ n, id = some n ∧ n ≠ job

def OtherUri (uri : Option Bytes) (job : UInt32) : Prop :=
  ∃ u, uri = some u ∧ u ≠ [] ∧ ¬ ascii s!"/job/{job.toNat}" <:+ u

/-- The target checks, on a `job-id` and a `job-uri`: what makes each operation answer 0x0406. -/
def RefusesAs (op : Nat) (s : IppPcl3Service) (id : Option UInt32) (uri : Option Bytes) : Prop :=
  match op with
  | 0x0006 => s.pendingJob = false ∨ s.lastJobId = 0 ∨ OtherId id s.lastJobId ∨ OtherUri uri s.lastJobId
  | 0x0008 => (id ≠ none ∨ uri ≠ none) ∧ (s.lastJobId = 0 ∨ OtherId id s.lastJobId)
  | 0x003B => s.lastJobId = 0
  | _ => s.lastJobId ≠ 0 ∧ OtherId id s.lastJobId

/-- They see what the parser keeps. -/
def Refuses (op : Nat) (s : IppPcl3Service) (sec : Section) : Prop := RefusesAs op s (keptId sec) (keptUri sec)

namespace IppPcl3Service
variable {σ : Type}

theorem otherJob_iff {r : IppRequest} {sec : Section} (h : Carries r sec) (s : IppPcl3Service) :
    s.otherJob r.attrs = true ↔ OtherId (keptId sec) s.lastJobId := by
  have hid : r.attrs.jobId = keptId sec := congrArg RequestAttrs.jobId h.attrs
  unfold otherJob OtherId
  rw [hid]
  cases keptId sec with
  | none => simp
  | some n => simp

theorem uriOk_iff {r : IppRequest} {sec : Section} (h : Carries r sec) (s : IppPcl3Service) :
    s.uriOk r.attrs = false ↔ OtherUri (keptUri sec) s.lastJobId := by
  have huri : r.attrs.jobUri = keptUri sec := congrArg RequestAttrs.jobUri h.attrs
  unfold uriOk OtherUri
  rw [huri]
  cases keptUri sec with
  | none => simp
  | some uri =>
    cases uri with
    | nil => simp
    | cons b bs =>
      simp only [Option.some.injEq, exists_eq_left', ne_eq, reduceCtorEq, not_false_eq_true, true_and]
      rw [← List.isSuffixOf_iff_suffix, Bool.not_eq_true]

/-! ## The operations -/

/-- The operation answers 0x0406, with the job and the backend as they were. -/
structure Denied (s : IppPcl3Service) (b : UsbPrinterBackend σ) (d : Served σ) : Prop where
  answered : d.answered = .simple 0x0406
  service : { d.service with lastError := s.lastError } = s
  backend : d.backend = b

theorem denied_refuse (s : IppPcl3Service) (b : UsbPrinterBackend σ) (error : String) :
    s.Denied b (s.refuse b error 0x0406) := ⟨rfl, rfl, rfl⟩

theorem not_denied_takeDocument (T : Transport σ) (c : IppClient) (body : BodyReader) (s s' : IppPcl3Service)
    (b : UsbPrinterBackend σ) : ¬ s.Denied b (takeDocument T c body s' b) := by
  intro h
  cases h.answered

theorem denied_sendDocument (T : Transport σ) (c : IppClient) {r : IppRequest} {sec : Section} (h : Carries r sec)
    (s : IppPcl3Service) (b : UsbPrinterBackend σ) :
    s.Denied b (sendDocument T c r s b) ↔ Refuses 0x0006 s sec := by
  unfold sendDocument Refuses RefusesAs
  by_cases h1 : s.pendingJob = false ∨ s.lastJobId = 0
  · have hb : (!s.pendingJob || decide (s.lastJobId = 0)) = true := by simpa using h1
    rw [if_pos hb]
    constructor
    · intro _
      rcases h1 with h1 | h1
      · exact Or.inl h1
      · exact Or.inr (Or.inl h1)
    · intro _
      exact denied_refuse ..
  have hb : ¬ (!s.pendingJob || decide (s.lastJobId = 0)) = true := by simpa using h1
  rw [if_neg hb]
  by_cases h2 : s.otherJob r.attrs = true
  · rw [if_pos h2]
    constructor
    · intro _
      exact Or.inr (Or.inr (Or.inl ((otherJob_iff h s).1 h2)))
    · intro _
      exact denied_refuse ..
  rw [if_neg h2]
  by_cases h3 : s.uriOk r.attrs = false
  · rw [if_pos (by rw [h3]; rfl)]
    constructor
    · intro _
      exact Or.inr (Or.inr (Or.inr ((uriOk_iff h s).1 h3)))
    · intro _
      exact denied_refuse ..
  rw [if_neg (by simpa using h3)]
  -- the document is for this job, as far as the checks can tell
  have hnot : ¬ (s.pendingJob = false ∨ s.lastJobId = 0 ∨ OtherId (keptId sec) s.lastJobId ∨
      OtherUri (keptUri sec) s.lastJobId) := by
    rintro (hp | hp | hp | hp)
    · exact h1 (Or.inl hp)
    · exact h1 (Or.inr hp)
    · exact h2 ((otherJob_iff h s).2 hp)
    · exact h3 ((uriOk_iff h s).2 hp)
  constructor
  · intro hd
    split at hd
    · cases hd.answered
    · exact absurd hd (not_denied_takeDocument T c _ _ _ _)
  · intro hr
    exact absurd hr hnot

theorem denied_cancelJob {r : IppRequest} {sec : Section} (h : Carries r sec) (s : IppPcl3Service)
    (b : UsbPrinterBackend σ) : s.Denied b (cancelJob r s b) ↔ Refuses 0x0008 s sec := by
  have hid : r.attrs.jobId = keptId sec := congrArg RequestAttrs.jobId h.attrs
  have huri : r.attrs.jobUri = keptUri sec := congrArg RequestAttrs.jobUri h.attrs
  have hother := otherJob_iff h s
  unfold cancelJob refusesCancel Refuses RefusesAs
  rw [hid, huri]
  by_cases h1 : keptId sec = none ∧ keptUri sec = none
  · obtain ⟨hi, hu⟩ := h1
    constructor
    · intro hd
      rw [hi, hu] at hd
      cases hd.answered
    · rintro ⟨hno | hno, -⟩
      · exact absurd hi hno
      · exact absurd hu hno
  have hb : ¬ ((keptId sec).isNone && (keptUri sec).isNone) = true := by simpa using h1
  rw [if_neg hb]
  by_cases h2 : s.lastJobId = 0 ∨ OtherId (keptId sec) s.lastJobId
  · have hb : (decide (s.lastJobId = 0) || s.otherJob r.attrs) = true := by simpa [hother] using h2
    rw [if_pos hb]
    constructor
    · intro _
      refine ⟨?_, h2⟩
      by_contra hno
      simp only [ne_eq, not_or, not_not] at hno
      exact h1 hno
    · intro _
      exact ⟨rfl, rfl, rfl⟩
  · have hb : ¬ (decide (s.lastJobId = 0) || s.otherJob r.attrs) = true := by simpa [hother] using h2
    rw [if_neg hb]
    constructor
    · intro hd
      split at hd
      · rename_i status hstatus
        split at hstatus
        · cases hstatus
          cases hd.answered
        · cases hstatus
      · cases hd.answered
    · intro hr
      exact absurd hr.2 h2

theorem denied_closeJob (s : IppPcl3Service) (b : UsbPrinterBackend σ) (sec : Section) :
    s.Denied b (closeJob s b) ↔ Refuses 0x003B s sec := by
  unfold closeJob Refuses RefusesAs
  by_cases h : s.lastJobId = 0
  · rw [if_pos h]
    exact ⟨fun _ => h, fun _ => ⟨rfl, rfl, rfl⟩⟩
  · rw [if_neg h]
    constructor
    · intro hd
      cases hd.answered
    · intro hr
      exact absurd hr h

theorem refreshJobState_refreshJobState (s : IppPcl3Service) {b b' : UsbPrinterBackend σ} (hb : b'.state = b.state) :
    (s.refreshJobState b).refreshJobState b' = s.refreshJobState b := by
  unfold refreshJobState
  by_cases h0 : s.lastJobId = 0
  · rw [if_pos h0, if_pos h0]
  by_cases h1 : (s.lastJobState = .pending && !s.jobStartedProcessing) = true
  · rw [if_neg h0, if_pos h1, if_neg h0, if_pos h1]
  by_cases h2 : s.lastJobState ≠ .pending ∧ s.lastJobState ≠ .processing
  · rw [if_neg h0, if_neg h1, if_pos h2, if_neg h0, if_neg h1, if_pos h2]
  rw [if_neg h0, if_neg h1, if_neg h2, hb]
  cases b.state with
  | printing => rw [if_neg h0, if_neg h1, if_neg h2]
  | idle => simp [move, h0]
  | error => simp [move, h0]
  | offline => simp [move, h0]

theorem denied_getJobAttributes {r : IppRequest} {sec : Section} (h : Carries r sec) {s : IppPcl3Service}
    {b : UsbPrinterBackend σ} (hs : s.refreshJobState b = s) (op : Nat) (hop : op = 0x0009) :
    s.Denied b (getJobAttributes r s b) ↔ Refuses op s sec := by
  subst hop
  have hother := otherJob_iff h s
  unfold getJobAttributes Refuses RefusesAs
  rw [hs]
  dsimp only
  by_cases h1 : s.lastJobId ≠ 0 ∧ OtherId (keptId sec) s.lastJobId
  · have hb : (s.otherJob r.attrs && s.lastJobId != 0) = true := by simpa [hother, and_comm] using h1
    rw [if_pos hb]
    exact ⟨fun _ => h1, fun _ => ⟨rfl, rfl, rfl⟩⟩
  · have hb : ¬ (s.otherJob r.attrs && s.lastJobId != 0) = true := by
      intro hno
      rw [Bool.and_eq_true, hother, bne_iff_ne] at hno
      exact h1 ⟨hno.2, hno.1⟩
    rw [if_neg hb]
    constructor
    · intro hd
      split at hd
      · cases hd.answered
      · cases hd.answered
    · intro hr
      exact absurd hr h1

/-! ## Requests -/

/-- The request is answered with 0x0406, and but for `lastError_` and the look at the printer that
every request begins with, the service and the backend are as before. -/
def Ignored (T : Transport σ) (rawConnected : Bool) (c : IppClient) (r : IppRequest) (s : IppPcl3Service)
    (b : UsbPrinterBackend σ) : Prop :=
  let out := s.handleClient T rawConnected c b
  out.2.2 = some ⟨r.version, r.requestId, .simple 0x0406⟩ ∧ out.2.1 = b.pass c.arrival ∧
    { out.1 with lastError := "" } = { s with lastError := "" }.refreshJobState b

theorem refreshJobState_lastError (s : IppPcl3Service) (b : UsbPrinterBackend σ) :
    (s.refreshJobState b).lastError = s.lastError := by
  unfold refreshJobState
  split
  · rfl
  split
  · rfl
  split
  · rfl
  cases b.state <;> rfl

/-- A job that waits for its document is left alone by `refreshJobState`. -/
theorem Sound.refresh_pending {s : IppPcl3Service} (h : s.Sound) (hp : s.pendingJob = true) (b : UsbPrinterBackend σ) :
    s.refreshJobState b = s := by
  obtain ⟨hst, -⟩ := h.pending hp
  unfold refreshJobState
  split
  · rfl
  · rw [if_pos]
    simp [hst, h.begun hst]

/-- The look at the printer keeps the number of the job, and whether it waits for a document. -/
theorem refreshJobState_awaits {s : IppPcl3Service} (h : s.Sound) (b : UsbPrinterBackend σ) :
    (s.refreshJobState b).lastJobId = s.lastJobId ∧ (s.refreshJobState b).pendingJob = s.pendingJob := by
  by_cases hp : s.pendingJob = true
  · rw [h.refresh_pending hp b]
    exact ⟨rfl, rfl⟩
  · have hno : s.pendingJob = false := by simpa using hp
    unfold refreshJobState
    split
    · exact ⟨rfl, rfl⟩
    split
    · exact ⟨rfl, rfl⟩
    split
    · exact ⟨rfl, rfl⟩
    cases b.state with
    | idle => exact ⟨rfl, hno.symm⟩
    | error => exact ⟨rfl, hno.symm⟩
    | offline => exact ⟨rfl, hno.symm⟩
    | printing => exact ⟨rfl, rfl⟩

theorem refuses_congr {s s' : IppPcl3Service} (hid : s'.lastJobId = s.lastJobId) (hp : s'.pendingJob = s.pendingJob)
    (op : Nat) (sec : Section) : Refuses op s' sec ↔ Refuses op s sec := by
  unfold Refuses RefusesAs
  rw [hid, hp]

theorem ignored_iff_denied {T : Transport σ} {rawConnected : Bool} {c : IppClient} {r : IppRequest}
    (hr : parse c.client = .request r) (s : IppPcl3Service) (b : UsbPrinterBackend σ) :
    Ignored T rawConnected c r s b ↔
      ({ s with lastError := "" }.refreshJobState b).Denied (b.pass c.arrival)
        (operation T rawConnected c r ({ s with lastError := "" }.refreshJobState b) (b.pass c.arrival)) := by
  have herr := refreshJobState_lastError { s with lastError := "" } b
  unfold Ignored handleClient
  dsimp only
  generalize { s with lastError := "" }.refreshJobState b = seen at herr
  rw [hr]
  dsimp only
  constructor
  · rintro ⟨h1, h2, h3⟩
    refine ⟨?_, ?_, h2⟩
    · simpa using h1
    · rw [herr]
      exact h3
  · intro h
    refine ⟨by rw [h.answered], h.backend, ?_⟩
    have h3 := h.service
    rw [herr] at h3
    exact h3

theorem ignored_iff {T : Transport σ} {rawConnected : Bool} {c : IppClient} {r : IppRequest} {sec : Section}
    {s : IppPcl3Service} (h : s.Sound) (hr : parse c.client = .request r) (hc : Carries r sec)
    (hop : r.op ∈ [0x0006, 0x0008, 0x003B, 0x0009]) (b : UsbPrinterBackend σ) :
    Ignored T rawConnected c r s b ↔ Refuses r.op s sec := by
  rw [ignored_iff_denied hr]
  obtain ⟨hid, hp⟩ := refreshJobState_awaits (h.withError "") b
  have hagain := refreshJobState_refreshJobState { s with lastError := "" } (show (b.pass c.arrival).state = b.state from rfl)
  generalize { s with lastError := "" }.refreshJobState b = seen at hid hp hagain
  have hsame : Refuses r.op seen sec ↔ Refuses r.op s sec := refuses_congr hid hp r.op sec
  rw [← hsame]
  simp only [List.mem_cons, List.not_mem_nil, or_false] at hop
  unfold operation
  rcases hop with hop | hop | hop | hop
  · rw [hop]
    exact denied_sendDocument T c hc seen _
  · rw [hop]
    exact denied_cancelJob hc seen _
  · rw [hop]
    exact denied_closeJob seen _ sec
  · rw [hop]
    exact denied_getJobAttributes hc hagain 0x0009 rfl

/-- In a section whose collections the loop keeps track of, the checks see what was sent. -/
theorem refuses_sent {sec : Section} (ht : taken sec = given sec) (op : Nat) (s : IppPcl3Service) :
    Refuses op s sec ↔ RefusesAs op s (sentId sec) (sentUri sec) := by
  unfold Refuses keptId keptUri
  rw [ht]
  exact Iff.rfl

/-- **A request for another job is ignored exactly when its operation checks what it is named by**,
in every state that requests and polls lead to; what it is named by is what was sent, where the parser
keeps track of the collections. -/
theorem handleClient_ignores_iff (T : Transport σ) (now : Nat) (buffer : Bool) (vs : List (Visit σ)) (s : IppPcl3Service)
    (hs : s = (({} : IppPcl3Service).begin now buffer).visits T vs) (b : UsbPrinterBackend σ) (rawConnected : Bool)
    (c : IppClient) (r : IppRequest) (hr : parse c.client = .request r)
    (hop : r.op ∈ [0x0006, 0x0008, 0x003B, 0x0009]) (sec : Section) (hc : Carries r sec) :
    (Ignored T rawConnected c r s b ↔ Refuses r.op s sec) ∧
      (taken sec = given sec → (Refuses r.op s sec ↔ RefusesAs r.op s (sentId sec) (sentUri sec))) ∧
      (Tracked sec → taken sec = given sec) := by
  refine ⟨?_, fun ht => refuses_sent ht r.op s, taken_eq_given hc.wf⟩
  apply ignored_iff _ hr hc hop
  rw [hs]
  exact sound_visits T vs (sound_begin now buffer)

/-- The attributes of a request for job 7. -/
def forJobSeven : Section := [⟨0x01, [⟨ascii "job-id", .simple 0x21 [0, 0, 0, 7], []⟩]⟩]

theorem forJobSeven_wf : forJobSeven.Wf := by
  intro g hg
  obtain rfl := List.mem_singleton.1 hg
  refine ⟨by decide, by decide, ?_⟩
  intro a ha
  obtain rfl := List.mem_singleton.1 ha
  refine ⟨by decide, by decide, by decide, ?_⟩
  intro v hv
  obtain rfl : v = .simple 0x21 [0, 0, 0, 7] := by simpa [Attribute.values] using hv
  exact ⟨by decide, by decide⟩

theorem names_forJobSeven : Names forJobSeven 7 := Or.inl ⟨[0, 0, 0, 7], List.mem_singleton_self _, rfl, rfl⟩

/-- A client that asks for it. -/
def askForSeven (op : UInt8) : IppClient :=
  let bytes := ascii "POST /ipp/print HTTP/1.1\r\nContent-Length: 25\r\n\r\n" ++ [2, 0, 0, op, 0, 0, 0, 1] ++ forJobSeven.encode
  { client := { incoming := WiFiClient.unread bytes [], closed := true } }

/-- The operation and the attributes that were read. -/
def asked : Parsed → Option (Nat × RequestAttrs)
  | .request r => some (r.op, r.attrs)
  | _ => none

theorem request_of_asked {c : WiFiClient} {op : Nat} {sec : Section} (hw : sec.Wf)
    (h : asked (parse c) = some (op, RequestAttrs.kept (taken sec))) :
    ∃ r, parse c = .request r ∧ r.op = op ∧ Carries r sec := by
  generalize parse c = parsed at h
  cases parsed with
  | dropped error => cases h
  | malformed version requestId => cases h
  | request r =>
    obtain ⟨h1, h2⟩ := Prod.mk.inj (Option.some.inj h)
    exact ⟨r, rfl, h1, hw, h2⟩

theorem parse_askForSeven {op : UInt8} (h : op ∈ [(0x06 : UInt8), 0x3B]) :
    ∃ r, parse (askForSeven op).client = .request r ∧ r.op = op.toNat ∧ Carries r forJobSeven := by
  have heval : ∀ o ∈ [(0x06 : UInt8), 0x3B],
      asked (parse (askForSeven o).client) = some (o.toNat, RequestAttrs.kept (taken forJobSeven)) := by decide +kernel
  exact request_of_asked forJobSeven_wf (heval op h)

/-- Job 1 waits for its document. -/
def oneWaiting : IppPcl3Service := (({} : IppPcl3Service).begin 0 true).visits .immediate [plainVisit 0x05]

theorem oneWaiting_fields : oneWaiting.lastJobId = 1 ∧ oneWaiting.pendingJob = true := by decide +kernel

theorem handleClient_ignores_sendDocument :
    ∃ r, parse (askForSeven 0x06).client = .request r ∧ Ignored .immediate false (askForSeven 0x06) r oneWaiting
      (UsbPrinterBackend.begin .enumeratedPrinter () 0) := by
  obtain ⟨r, hr, hop, hc⟩ := parse_askForSeven (List.mem_cons_self ..)
  obtain ⟨hid, -⟩ := oneWaiting_fields
  refine ⟨r, hr, ?_⟩
  refine (handleClient_ignores_iff .immediate 0 true [plainVisit 0x05] oneWaiting rfl _ false (askForSeven 0x06) r hr
    (by rw [hop]; decide) forJobSeven hc).1.2 ?_
  rw [hop]
  refine Or.inr (Or.inr (Or.inl ⟨7, by decide +kernel, ?_⟩))
  rw [hid]
  decide

/-- Close-Job for job 7 ends job 1. -/
theorem closeJob_not_ignored :
    ¬ ∀ (vs : List (Visit Unit)) (b : UsbPrinterBackend Unit) (c : IppClient) (r : IppRequest) (sec : Section),
      parse c.client = .request r → r.op ∈ [0x0006, 0x0008, 0x003B, 0x0009] → Carries r sec →
      (∃ n, Names sec n ∧ n ≠ ((({} : IppPcl3Service).begin 0 true).visits .immediate vs).lastJobId.toNat) →
        Ignored .immediate false c r ((({} : IppPcl3Service).begin 0 true).visits .immediate vs) b := by
  intro h
  obtain ⟨r, hr, hop, hc⟩ := parse_askForSeven (List.mem_cons_of_mem _ (List.mem_cons_self ..))
  obtain ⟨hid, -⟩ := oneWaiting_fields
  have hmem : r.op ∈ [0x0006, 0x0008, 0x003B, 0x0009] := by
    rw [hop]
    decide
  have hi := h [plainVisit 0x05] (UsbPrinterBackend.begin .enumeratedPrinter () 0) (askForSeven 0x3B) r forJobSeven hr hmem hc
    ⟨7, names_forJobSeven, by
      show 7 ≠ oneWaiting.lastJobId.toNat
      rw [hid]
      decide⟩
  have hsound : oneWaiting.Sound := sound_visits .immediate [plainVisit 0x05] (sound_begin 0 true)
  have href := (ignored_iff hsound hr hc hmem _).1 hi
  rw [hop] at href
  have hzero : oneWaiting.lastJobId = 0 := href
  rw [hid] at hzero
  cases hzero

end IppPcl3Service
end PrintServer
