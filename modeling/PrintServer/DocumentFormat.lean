import PrintServer.JobTarget
/-!
# Which document formats get to the printer (ipp_pcl3_service.cpp:256-267, 797-811, 1118-1125, 1188)

`lastFormat` is the document-format that a request has; `keptFormat` is what the gate is given. An
empty text stands for "no document-format" there, and `parseAttributes` makes an empty text of a value
of 256 bytes or more, too. `equalsIgnoreCase` in turn stops at a NUL.
-/
namespace PrintServer

open Lib.Ipp

/-- `attrs.documentFormat`. -/
def keptFormat (sec : Section) : Bytes :=
  ((valuesOf "document-format" (fun _ => true) (taken sec)).getLast?.map shorten).getD []

/-- One of the MIME types of `supportedDocumentFormat`, ignoring case. -/
def Supported (format : Bytes) : Prop :=
  ∃ mime ∈ [pcl3Mime, pclmMime, "application/octet-stream"], format.map toLower = (ascii mime).map toLower

/-- The request asks for something else. -/
def Foreign (sec : Section) : Prop := ∃ format, lastFormat sec = some format ∧ ¬ Supported format

/-! ## What slips through the gate -/

theorem mime_spec {mime : String} (h : mime ∈ [pcl3Mime, pclmMime, "application/octet-stream"]) :
    0 < (ascii mime).length ∧ (ascii mime).length < 256 ∧ 0 ∉ (ascii mime).map toLower := by
  simp only [List.mem_cons, List.not_mem_nil, or_false] at h
  rcases h with rfl | rfl | rfl
  · decide +kernel
  · decide +kernel
  · decide +kernel

/-- Up to its first NUL, the text is as one of the MIME types, and it is as long. -/
def Cut (format : Bytes) : Prop := ∃ mime ∈ [pcl3Mime, pclmMime, "application/octet-stream"], CutAt format (ascii mime)

/-- The gate's list takes the MIME types, and texts with a NUL. -/
theorem supportedDocumentFormat_iff (format : Bytes) :
    supportedDocumentFormat format = true ↔ Supported format ∨ Cut format := by
  have hany : supportedDocumentFormat format = true ↔
      ∃ mime ∈ [pcl3Mime, pclmMime, "application/octet-stream"], equalsIgnoreCase format (ascii mime) = true := by
    simp only [supportedDocumentFormat, Bool.or_eq_true, List.mem_cons, List.not_mem_nil, or_false, exists_eq_or_imp,
      exists_eq_left, or_assoc]
  simp only [hany, equalsIgnoreCase_iff, and_or_left, exists_or]
  exact Iff.rfl

theorem Supported.length {format : Bytes} (h : Supported format) : format ≠ [] ∧ format.length < 256 ∧ 0 ∉ format := by
  obtain ⟨mime, hm, he⟩ := h
  obtain ⟨hpos, hlt, h0⟩ := mime_spec hm
  have hlen : format.length = (ascii mime).length := by simpa using congrArg List.length he
  refine ⟨?_, by rwa [hlen], ?_⟩
  · rintro rfl
    rw [← hlen] at hpos
    cases hpos
  · intro hmem
    rw [← he] at h0
    exact h0 (List.mem_map.2 ⟨0, hmem, rfl⟩)

theorem Cut.length {format : Bytes} (h : Cut format) : format.length < 256 ∧ 0 ∈ format := by
  obtain ⟨mime, hm, h0, hlen, -⟩ := h
  exact ⟨hlen ▸ (mime_spec hm).2.1, h0⟩

/-- The gate takes what it does not know only where the text is empty, too long, or has a NUL in it. -/
theorem slips_iff (format : Bytes) : (¬ Supported format ∧ IppPcl3Service.formatOk (shorten format) = true) ↔
    format = [] ∨ 256 ≤ format.length ∨ Cut format := by
  unfold IppPcl3Service.formatOk
  constructor
  · rintro ⟨hno, hok⟩
    by_cases hlen : format.length < 256
    · rw [shorten, if_pos hlen, Bool.or_eq_true] at hok
      rcases hok with hok | hok
      · exact Or.inl (List.isEmpty_iff.1 hok)
      · exact Or.inr (Or.inr (((supportedDocumentFormat_iff format).1 hok).resolve_left hno))
    · exact Or.inr (Or.inl (Nat.le_of_not_lt hlen))
  · rintro (rfl | hlen | hcut)
    · exact ⟨fun hs => hs.length.1 rfl, rfl⟩
    · refine ⟨fun hs => absurd hs.length.2.1 (Nat.not_lt.2 hlen), ?_⟩
      rw [shorten, if_neg (Nat.not_lt.2 hlen)]
      rfl
    · refine ⟨fun hs => hs.length.2.2 hcut.length.2, ?_⟩
      rw [shorten, if_pos hcut.length.1, Bool.or_eq_true]
      exact Or.inr ((supportedDocumentFormat_iff format).2 (Or.inr hcut))

theorem keptFormat_of_some {sec : Section} {format : Bytes} (ht : taken sec = given sec) (h : lastFormat sec = some format) :
    keptFormat sec = shorten format := by
  unfold lastFormat at h
  unfold keptFormat
  rw [ht, h]
  rfl

/-- The kinds of texts that slip through, in a section whose collections the loop keeps track of. -/
theorem foreign_slips_iff {sec : Section} (ht : taken sec = given sec) :
    (Foreign sec ∧ IppPcl3Service.formatOk (keptFormat sec) = true) ↔
      ∃ format, lastFormat sec = some format ∧ (format = [] ∨ 256 ≤ format.length ∨ Cut format) := by
  constructor
  · rintro ⟨⟨format, hl, hno⟩, hok⟩
    rw [keptFormat_of_some ht hl] at hok
    exact ⟨format, hl, (slips_iff format).1 ⟨hno, hok⟩⟩
  · rintro ⟨format, hl, hkind⟩
    obtain ⟨hno, hok⟩ := (slips_iff format).2 hkind
    exact ⟨⟨format, hl, hno⟩, by rw [keptFormat_of_some ht hl]; exact hok⟩

namespace IppPcl3Service
variable {σ : Type}

/-- What the gate of each operation lets through; Send-Document looks at its job first. -/
def LetsThrough (op : Nat) (s : IppPcl3Service) (sec : Section) : Prop :=
  formatOk (keptFormat sec) = true ∧ (op = 0x0006 → ¬ Refuses 0x0006 s sec)

/-- The operation answers with a client error, and has not called the backend. -/
structure TurnedDown (b : UsbPrinterBackend σ) (d : Served σ) : Prop where
  answered : ∃ status, d.answered = .simple status ∧ 0x0400 ≤ status ∧ status < 0x0500
  backend : d.backend = b

theorem turnedDown_refuse (s : IppPcl3Service) (b : UsbPrinterBackend σ) (error : String) {status : Nat}
    (h : 0x0400 ≤ status) (h' : status < 0x0500) : TurnedDown b (s.refuse b error status) :=
  ⟨⟨status, rfl, h, h'⟩, rfl⟩

theorem not_turnedDown_refuse (s : IppPcl3Service) (b : UsbPrinterBackend σ) (error : String) {status : Nat}
    (h : 0x0500 ≤ status) : ¬ TurnedDown b (s.refuse b error status) := by
  rintro ⟨⟨status', ha, _, hlt⟩, _⟩
  cases ha
  omega

theorem not_turnedDown_takeDocument (T : Transport σ) (c : IppClient) (body : BodyReader) (s : IppPcl3Service)
    (b b' : UsbPrinterBackend σ) : ¬ TurnedDown b' (takeDocument T c body s b) := by
  rintro ⟨⟨status, ha, _⟩, _⟩
  cases ha

theorem turnedDown_validateJob {r : IppRequest} (hop : r.op = 0x0004) (T : Transport σ) (rawConnected : Bool)
    (c : IppClient) (s : IppPcl3Service) (b : UsbPrinterBackend σ) :
    TurnedDown b (operation T rawConnected c r s b) ↔ ¬ formatOk r.attrs.documentFormat = true := by
  unfold operation
  rw [hop]
  by_cases hf : formatOk r.attrs.documentFormat = true
  · rw [if_pos hf]
    refine iff_of_false ?_ (not_not_intro hf)
    rintro ⟨⟨status, ha, hge, _⟩, _⟩
    cases ha
    omega
  · rw [if_neg hf]
    exact iff_of_true ⟨⟨0x040A, rfl, by decide, by decide⟩, rfl⟩ hf

theorem turnedDown_printJob (T : Transport σ) (rawConnected : Bool) (c : IppClient) (r : IppRequest) (s : IppPcl3Service)
    (b : UsbPrinterBackend σ) :
    TurnedDown b (printJob T rawConnected c r s b) ↔ ¬ formatOk r.attrs.documentFormat = true := by
  unfold printJob
  by_cases hf : formatOk r.attrs.documentFormat = true
  · rw [hf]
    refine iff_of_false ?_ (not_not_intro rfl)
    split
    · rename_i h
      cases h
    split
    · exact not_turnedDown_refuse s b _ (by decide)
    split
    · exact not_turnedDown_refuse s b _ (by decide)
    split
    · exact not_turnedDown_refuse s b _ (by decide)
    · exact not_turnedDown_takeDocument T c _ _ _ _
  · rw [Bool.eq_false_iff.2 hf]
    exact iff_of_true (turnedDown_refuse s b _ (by decide) (by decide)) Bool.false_ne_true

theorem turnedDown_sendDocument (T : Transport σ) (c : IppClient) {r : IppRequest} {sec : Section} (h : Carries r sec)
    (s : IppPcl3Service) (b : UsbPrinterBackend σ) :
    TurnedDown b (sendDocument T c r s b) ↔ ¬ (formatOk r.attrs.documentFormat = true ∧ ¬ Refuses 0x0006 s sec) := by
  by_cases href : Refuses 0x0006 s sec
  · have hd := (denied_sendDocument T c h s b).2 href
    exact iff_of_true ⟨⟨0x0406, hd.answered, by decide, by decide⟩, hd.backend⟩ fun hno => hno.2 href
  · have hno := href
    unfold Refuses RefusesAs at hno
    simp only [not_or] at hno
    obtain ⟨h1, h2, h3, h4⟩ := hno
    have hb : ¬ (!s.pendingJob || decide (s.lastJobId = 0)) = true := by simp [h1, h2]
    have hid : ¬ s.otherJob r.attrs = true := fun he => h3 ((otherJob_iff h s).1 he)
    have huri : ¬ (!s.uriOk r.attrs) = true := fun he => h4 ((uriOk_iff h s).1 (by simpa using he))
    unfold sendDocument
    rw [if_neg hb, if_neg hid, if_neg huri]
    by_cases hf : formatOk r.attrs.documentFormat = true
    · rw [if_neg (by rw [hf]; exact Bool.false_ne_true)]
      exact iff_of_false (not_turnedDown_takeDocument T c _ _ _ _) (not_not_intro ⟨hf, href⟩)
    · rw [if_pos (by rw [Bool.eq_false_iff.2 hf]; rfl)]
      exact iff_of_true (turnedDown_refuse s b _ (by decide) (by decide)) fun hno => hf hno.1

/-- The gate, for each of the operations that have one. -/
theorem turnedDown_iff (T : Transport σ) (rawConnected : Bool) (c : IppClient) {r : IppRequest} {sec : Section}
    (h : Carries r sec) (hop : r.op ∈ [0x0002, 0x0004, 0x0006]) (s : IppPcl3Service) (b : UsbPrinterBackend σ) :
    TurnedDown b (operation T rawConnected c r s b) ↔ ¬ LetsThrough r.op s sec := by
  have hformat : r.attrs.documentFormat = keptFormat sec := congrArg RequestAttrs.documentFormat h.attrs
  unfold LetsThrough
  rw [← hformat]
  simp only [List.mem_cons, List.not_mem_nil, or_false] at hop
  rcases hop with hop | hop | hop
  · have hrun : operation T rawConnected c r s b = printJob T rawConnected c r s b := by
      unfold operation
      rw [hop]
      rfl
    rw [hrun, turnedDown_printJob, hop]
    simp
  · rw [turnedDown_validateJob hop, hop]
    simp
  · have hrun : operation T rawConnected c r s b = sendDocument T c r s b := by
      unfold operation
      rw [hop]
      rfl
    rw [hrun, turnedDown_sendDocument T c h, hop]
    simp

/-- A request for a foreign format gets a client error, and the backend sees nothing of it. -/
def GateHolds (T : Transport σ) (rawConnected : Bool) (c : IppClient) (r : IppRequest) (sec : Section)
    (s : IppPcl3Service) (b : UsbPrinterBackend σ) : Prop :=
  Foreign sec → (s.handleClient T rawConnected c b).2.1 = b.pass c.arrival ∧
    ∃ status, (s.handleClient T rawConnected c b).2.2 = some ⟨r.version, r.requestId, .simple status⟩ ∧
      0x0400 ≤ status ∧ status < 0x0500

theorem gateHolds_iff {T : Transport σ} {rawConnected : Bool} {c : IppClient} {r : IppRequest} {sec : Section}
    {s : IppPcl3Service} (h : s.Sound) (hr : parse c.client = .request r) (hc : Carries r sec)
    (hop : r.op ∈ [0x0002, 0x0004, 0x0006]) (b : UsbPrinterBackend σ) :
    GateHolds T rawConnected c r sec s b ↔ ¬ (Foreign sec ∧ LetsThrough r.op s sec) := by
  obtain ⟨hid, hp⟩ := refreshJobState_awaits (h.withError "") b
  have hdown := turnedDown_iff T rawConnected c hc hop ({ s with lastError := "" }.refreshJobState b) (b.pass c.arrival)
  unfold GateHolds handleClient
  dsimp only
  generalize { s with lastError := "" }.refreshJobState b = seen at hid hp hdown
  have hsame : LetsThrough r.op seen sec ↔ LetsThrough r.op s sec := by
    unfold LetsThrough
    have href : Refuses 0x0006 seen sec ↔ Refuses 0x0006 s sec := refuses_congr hid hp 0x0006 sec
    rw [href]
  rw [hsame] at hdown
  rw [hr, not_and, ← hdown]
  dsimp only
  refine imp_congr_right fun _ => ?_
  constructor
  · rintro ⟨hb, status, ha, hlt⟩
    exact ⟨⟨status, by simpa using ha, hlt⟩, hb⟩
  · rintro ⟨⟨status, ha, hlt⟩, hb⟩
    exact ⟨hb, status, by rw [ha], hlt⟩

/-- **When the format gate holds**, in every state that requests and polls lead to. The kinds of texts
that slip through are those sent, where collections are nested at most 255 deep and not mixed. -/
theorem foreign_rejected_iff (T : Transport σ) (now : Nat) (buffer : Bool) (vs : List (Visit σ)) (s : IppPcl3Service)
    (hs : s = (({} : IppPcl3Service).begin now buffer).visits T vs) (b : UsbPrinterBackend σ) (rawConnected : Bool)
    (c : IppClient) (r : IppRequest) (hr : parse c.client = .request r) (hop : r.op ∈ [0x0002, 0x0004, 0x0006])
    (sec : Section) (hc : Carries r sec) :
    (GateHolds T rawConnected c r sec s b ↔ ¬ (Foreign sec ∧ LetsThrough r.op s sec)) ∧
      (taken sec = given sec → (Foreign sec ∧ LetsThrough r.op s sec ↔
        (∃ format, lastFormat sec = some format ∧ (format = [] ∨ 256 ≤ format.length ∨ Cut format)) ∧
          (r.op = 0x0006 → ¬ Refuses 0x0006 s sec))) ∧
      (Tracked sec → taken sec = given sec) := by
  refine ⟨?_, ?_, taken_eq_given hc.wf⟩
  · apply gateHolds_iff _ hr hc hop
    rw [hs]
    exact sound_visits T vs (sound_begin now buffer)
  · intro ht
    unfold LetsThrough
    rw [← and_assoc, foreign_slips_iff ht]

/-- A request whose document-format is `format`. -/
def formatted (format : Bytes) : Section := [⟨0x01, [⟨ascii "document-format", .simple 0x49 format, []⟩]⟩]

theorem formatted_wf {format : Bytes} (h : format.length < 2 ^ 16) : (formatted format).Wf := by
  intro g hg
  obtain rfl := List.mem_singleton.1 hg
  refine ⟨(by decide : (0x01 : UInt8) ≤ 0x0F), (by decide : (0x01 : UInt8) ≠ 0x03), ?_⟩
  intro a ha
  obtain rfl := List.mem_singleton.1 ha
  have hname : ascii "document-format" ≠ [] ∧ 0 ∉ ascii "document-format" ∧ (ascii "document-format").length < 2 ^ 16 := by
    decide +kernel
  refine ⟨hname.1, hname.2.1, hname.2.2, ?_⟩
  intro v hv
  obtain rfl : v = .simple 0x49 format := by simpa [Attribute.values] using hv
  exact ⟨by decide, h⟩

/-- Print-Job with a document of two bytes. -/
def printFormatted (contentLength : String) (format : Bytes) : IppClient :=
  let head := ascii "POST /ipp/print HTTP/1.1\r\nContent-Length: " ++ ascii contentLength ++ crlf ++ crlf
  let bytes := List.flatten [head, [2, 0, 0, 2, 0, 0, 0, 1], (formatted format).encode, ascii "hi"]
  { client := { incoming := WiFiClient.unread bytes [], closed := true } }

/-- The service after `begin`, with a printer that is ready. -/
def fresh : IppPcl3Service := ({} : IppPcl3Service).begin 0 true

theorem foreign_rejected_iff_pdf : ∃ r, parse (printFormatted "47" (ascii "application/pdf")).client = .request r ∧
    GateHolds .immediate false (printFormatted "47" (ascii "application/pdf")) r (formatted (ascii "application/pdf")) fresh
      (UsbPrinterBackend.begin .enumeratedPrinter () 0) := by
  obtain ⟨r, hr, hop, hc⟩ := request_of_asked (c := (printFormatted "47" (ascii "application/pdf")).client)
    (formatted_wf (by decide +kernel : (ascii "application/pdf").length < 2 ^ 16))
    (by decide +kernel : asked _ = some (2, _))
  have hmem : r.op ∈ [0x0002, 0x0004, 0x0006] := by
    rw [hop]
    decide
  have hkept : ¬ formatOk (keptFormat (formatted (ascii "application/pdf"))) = true := by decide +kernel
  exact ⟨r, hr, (foreign_rejected_iff .immediate 0 true [] fresh rfl _ false _ r hr hmem _ hc).1.2 fun h => hkept h.2.1⟩

/-- A document-format of 256 bytes is no document-format to the gate, and the document is sent. -/
theorem longFormat_sent : ∃ r, parse (printFormatted "288" (List.replicate 256 120)).client = .request r ∧
    Carries r (formatted (List.replicate 256 120)) ∧ Foreign (formatted (List.replicate 256 120)) ∧
    (fresh.handleClient .immediate false (printFormatted "288" (List.replicate 256 120))
      (UsbPrinterBackend.begin .enumeratedPrinter () 0).followHost).2.1.history.map (·.accepted) =
        [[(.ipp 1, ascii "hi")]] := by
  have hlen : (List.replicate 256 (120 : UInt8)).length = 256 := List.length_replicate
  obtain ⟨r, hr, -, hc⟩ := request_of_asked (c := (printFormatted "288" (List.replicate 256 120)).client)
    (formatted_wf (by rw [hlen]; decide : (List.replicate 256 (120 : UInt8)).length < 2 ^ 16))
    (by decide +kernel : asked _ = some (2, _))
  refine ⟨r, hr, hc, ⟨List.replicate 256 120, rfl, fun hs => ?_⟩, by decide +kernel⟩
  have hlt := hs.length.2.1
  rw [hlen] at hlt
  omega

end IppPcl3Service
end PrintServer
