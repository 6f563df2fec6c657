import PrintServer.JobTarget
/-!
# Requests that are turned away (ipp_pcl3_service.cpp:970-995, 1118-1251)

`rejections` are the statuses of the early exits of `handleClient`. Each exit comes before the first
change of a job field (`untouched_operation`); `lastError_` is not one of these.
-/
namespace PrintServer

/-- The status that the answer begins with; Get-Printer-Attributes has none of the rejections. -/
def Answered.status : Answered → Option Nat
  | .simple status => some status
  | .job status _ => some status
  | .printer .. => none

def rejections : List Nat := [0x0400, 0x0404, 0x0406, 0x040A, 0x0501, 0x0503, 0x0507]

def Answered.rejects (a : Answered) : Bool := a.status.any (· ∈ rejections)

namespace IppPcl3Service
variable {σ : Type}

/-- Service and backend are as they were, but for the text in `lastError_`. -/
structure Untouched (s : IppPcl3Service) (b : UsbPrinterBackend σ) (d : Served σ) : Prop where
  service : { d.service with lastError := s.lastError } = s
  backend : d.backend = b

theorem untouched_refuse (s : IppPcl3Service) (b : UsbPrinterBackend σ) (error : String) (status : Nat) :
    s.Untouched b (s.refuse b error status) := ⟨rfl, rfl⟩

theorem untouched_simple (s : IppPcl3Service) (b : UsbPrinterBackend σ) (status : Nat) :
    s.Untouched b ⟨s, b, .simple status⟩ := ⟨rfl, rfl⟩

/-- A document that is taken is answered with success or with 0x0500. -/
theorem takeDocument_rejects (T : Transport σ) (c : IppClient) (body : BodyReader) (s : IppPcl3Service)
    (b : UsbPrinterBackend σ) : (takeDocument T c body s b).answered.rejects = false := by
  unfold takeDocument endDocument
  dsimp only
  cases (streamDocument T c.reads s b body).ok with
  | true => rfl
  | false => rfl

section operations
variable {T : Transport σ} {c : IppClient} {r : IppRequest} {s : IppPcl3Service} {b : UsbPrinterBackend σ}

theorem untouched_printJob {rawConnected : Bool} (h : (printJob T rawConnected c r s b).answered.rejects = true) :
    s.Untouched b (printJob T rawConnected c r s b) := by
  unfold printJob at h ⊢
  split
  · exact untouched_refuse ..
  split
  · exact untouched_refuse ..
  split
  · exact untouched_refuse ..
  split
  · exact untouched_refuse ..
  · rename_i h1 h2 h3 h4
    rw [if_neg h1, if_neg h2, if_neg h3, if_neg h4, takeDocument_rejects] at h
    cases h

theorem untouched_createJob (h : (createJob r s b).answered.rejects = true) : s.Untouched b (createJob r s b) := by
  unfold createJob at h ⊢
  split
  · exact untouched_refuse ..
  split
  · exact untouched_refuse ..
  · rename_i h1 h2
    rw [if_neg h1, if_neg h2] at h
    cases h

theorem untouched_sendDocument (h : (sendDocument T c r s b).answered.rejects = true) :
    s.Untouched b (sendDocument T c r s b) := by
  unfold sendDocument at h ⊢
  split
  · exact untouched_refuse ..
  split
  · exact untouched_refuse ..
  split
  · exact untouched_refuse ..
  split
  · exact untouched_refuse ..
  · rename_i h1 h2 h3 h4
    rw [if_neg h1, if_neg h2, if_neg h3, if_neg h4, takeDocument_rejects] at h
    cases h

theorem untouched_cancelJob (h : (cancelJob r s b).answered.rejects = true) : s.Untouched b (cancelJob r s b) := by
  unfold cancelJob at h ⊢
  cases hc : s.refusesCancel r.attrs with
  | some status => exact untouched_simple ..
  | none =>
    rw [hc] at h
    cases h

theorem untouched_closeJob (h : (s.closeJob b).answered.rejects = true) : s.Untouched b (s.closeJob b) := by
  unfold closeJob at h ⊢
  split
  · exact untouched_simple ..
  · rename_i h1
    rw [if_neg h1] at h
    cases h

/-- The second look at the printer sees nothing new. -/
theorem untouched_getJobAttributes (hs : s.refreshJobState b = s)
    (h : (getJobAttributes r s b).answered.rejects = true) : s.Untouched b (getJobAttributes r s b) := by
  unfold getJobAttributes at h ⊢
  rw [hs] at h ⊢
  dsimp only at h ⊢
  split
  · exact untouched_simple ..
  split
  · rename_i h1 h2
    rw [if_neg h1, if_pos h2] at h
    cases h
  · exact untouched_simple ..

theorem untouched_operation {rawConnected : Bool} (hs : s.refreshJobState b = s)
    (h : (operation T rawConnected c r s b).answered.rejects = true) :
    s.Untouched b (operation T rawConnected c r s b) := by
  unfold operation at h ⊢
  split
  · exact ⟨rfl, rfl⟩
  · exact untouched_simple ..
  · rename_i ho
    rw [ho] at h
    exact untouched_printJob h
  · rename_i ho
    rw [ho] at h
    exact untouched_createJob h
  · rename_i ho
    rw [ho] at h
    exact untouched_sendDocument h
  · rename_i ho
    rw [ho] at h
    exact untouched_cancelJob h
  · rename_i ho
    rw [ho] at h
    exact untouched_closeJob h
  · rename_i ho
    rw [ho] at h
    exact untouched_getJobAttributes hs h
  · rename_i ho
    rw [ho] at h
    exact untouched_getJobAttributes hs h
  · exact untouched_simple ..

/-- A job that waits for its document takes it. -/
theorem sendDocument_takes (h : s.acceptsDocument r.attrs = true) :
    sendDocument T c r s b = takeDocument T c r.body { s with lastJobBytes := 0, jobStartedProcessing := false } b := by
  unfold acceptsDocument at h
  simp only [Bool.and_eq_true, bne_iff_ne, ne_eq, Bool.not_eq_true'] at h
  obtain ⟨⟨⟨⟨hp, hid⟩, hother⟩, huri⟩, hf⟩ := h
  unfold sendDocument
  rw [if_neg (by simp [hp, hid]), if_neg (by simp [hother]), if_neg (by simp [huri]), if_neg (by simp [hf])]

end operations

theorem handleClient_request {T : Transport σ} {rawConnected : Bool} {c : IppClient} {r : IppRequest} {s : IppPcl3Service}
    {b : UsbPrinterBackend σ} (hr : parse c.client = .request r) :
    s.handleClient T rawConnected c b =
      let d := operation T rawConnected c r ({ s with lastError := "" }.refreshJobState b) (b.pass c.arrival)
      (d.service, d.backend, some ⟨r.version, r.requestId, d.answered⟩) := by
  unfold handleClient
  dsimp only
  rw [hr]

/-- A request that is turned away changes nothing that the look at the printer had not changed. -/
theorem handleClient_untouched {T : Transport σ} {rawConnected : Bool} {c : IppClient} {s : IppPcl3Service}
    {b : UsbPrinterBackend σ} {reply : Reply} (hr : (s.handleClient T rawConnected c b).2.2 = some reply)
    (hst : reply.answered.rejects = true) :
    { (s.handleClient T rawConnected c b).1 with lastError := "" } = { s with lastError := "" }.refreshJobState b ∧
      (s.handleClient T rawConnected c b).2.1 = b.pass c.arrival := by
  have herr := refreshJobState_lastError { s with lastError := "" } b
  have hagain := refreshJobState_refreshJobState { s with lastError := "" } (show (b.pass c.arrival).state = b.state from rfl)
  unfold handleClient at hr ⊢
  dsimp only at hr ⊢
  generalize { s with lastError := "" }.refreshJobState b = seen at herr hagain hr ⊢
  cases hp : parse c.client with
  | dropped error =>
    rw [hp] at hr
    cases hr
  | malformed version requestId =>
    refine ⟨?_, rfl⟩
    have hclear : seen.lastError = "" := herr
    show { seen with lastError := "" } = seen
    rw [← hclear]
  | request r =>
    rw [hp] at hr
    cases hr
    have hd := untouched_operation hagain hst
    have hs := hd.service
    rw [herr] at hs
    exact ⟨hs, hd.backend⟩

/-- **A rejected request leaves no trace**, in every state that requests and polls lead to; and a job that
waits for its document still takes it afterwards. -/
theorem rejected_leaves_no_trace (T : Transport σ) (now : Nat) (buffer : Bool) (vs : List (Visit σ)) (s : IppPcl3Service)
    (hs : s = (({} : IppPcl3Service).begin now buffer).visits T vs) (b : UsbPrinterBackend σ) (rawConnected : Bool)
    (c : IppClient) (reply : Reply) (hr : (s.handleClient T rawConnected c b).2.2 = some reply)
    (hst : reply.answered.rejects = true) :
    let seen := { s with lastError := "" }.refreshJobState b
    let out := s.handleClient T rawConnected c b
    { out.1 with lastError := "" } = seen ∧ out.2.1 = b.pass c.arrival ∧
      ∀ (rawNext : Bool) (next : IppClient) (r : IppRequest) (b' : UsbPrinterBackend σ),
        parse next.client = .request r → r.op = 0x0006 → seen.acceptsDocument r.attrs = true →
        out.1.handleClient T rawNext next b' =
          let d := takeDocument T next r.body { seen with lastJobBytes := 0, jobStartedProcessing := false }
            (b'.pass next.arrival)
          (d.service, d.backend, some ⟨r.version, r.requestId, d.answered⟩) := by
  intro seen out
  obtain ⟨hout, hb⟩ := handleClient_untouched hr hst
  refine ⟨hout, hb, ?_⟩
  intro rawNext next r b' hnext hop hacc
  have hsound : s.Sound := by
    rw [hs]
    exact sound_visits T vs (sound_begin now buffer)
  have hseen : seen.Sound := sound_refreshJobState (hsound.withError "") b
  have hp : seen.pendingJob = true := pending_of_accepts hacc
  rw [handleClient_request hnext]
  dsimp only
  rw [hout, hseen.refresh_pending hp b']
  have hrun : operation T rawNext next r seen (b'.pass next.arrival) = sendDocument T next r seen (b'.pass next.arrival) := by
    unfold operation
    rw [hop]
    rfl
  rw [hrun, sendDocument_takes hacc]

/-- Send-Document names job 7, and job 1 goes on waiting. -/
theorem rejected_leaves_no_trace_sendDocument : ∃ reply,
    (oneWaiting.handleClient .immediate false (askForSeven 0x06) (UsbPrinterBackend.begin .enumeratedPrinter () 0)).2.2 =
      some reply ∧ reply.answered = .simple 0x0406 ∧
    { (oneWaiting.handleClient .immediate false (askForSeven 0x06)
      (UsbPrinterBackend.begin .enumeratedPrinter () 0)).1 with lastError := "" } =
        { oneWaiting with lastError := "" }.refreshJobState (UsbPrinterBackend.begin .enumeratedPrinter () 0) := by
  have hreply : ((oneWaiting.handleClient .immediate false (askForSeven 0x06)
      (UsbPrinterBackend.begin .enumeratedPrinter () 0)).2.2.map (·.answered)) = some (.simple 0x0406) := by
    decide +kernel
  obtain ⟨reply, hr, ha⟩ := Option.map_eq_some_iff.1 hreply
  have hst : reply.answered.rejects = true := by
    rw [ha]
    decide
  exact ⟨reply, hr, ha, (rejected_leaves_no_trace .immediate 0 true [plainVisit 0x05] oneWaiting rfl _ false _ reply hr hst).1⟩

end IppPcl3Service
end PrintServer
