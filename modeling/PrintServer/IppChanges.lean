import PrintServer.IppService
import Mathlib.Logic.Relation
/-!
# What a poll changes in the service (ipp_pcl3_service.cpp:855-1255)

`JobRecord` keeps the fields that decide what an operation does. Names, reasons and times are only
shown, in the answers. `Change` lists every assignment to the service with the second it is made in,
`Leads` is a row of them, and a poll is one (`leads_poll`): what each change keeps holds at the end of a
poll and in the moment that its answer shows (`Told`).
-/
namespace PrintServer

/-! ## The name of a job -/

theorem RequestAttrs.keep_jobName {a : RequestAttrs} (h : a.jobName.length < 128) (name value : Bytes) :
    (a.keep name value).jobName.length < 128 := by
  unfold keep
  dsimp only
  split
  · exact h
  split
  · exact h
  split
  · exact h
  split
  · rename_i hn
    exact hn.2
  split
  · exact h
  split
  · exact h
  · exact h

theorem attributesLoop_jobName : ∀ (n : Nat) (currentName : Bytes) (depth : UInt8) (a : RequestAttrs) (r : BodyReader),
    a.jobName.length < 128 → ∀ a', (attributesLoop n currentName depth a r).1 = some a' → a'.jobName.length < 128
  | 0, _, _, _, _, _, _, h => by cases h
  | n + 1, currentName, depth, a, r, ha, a', h => by
    unfold attributesLoop at h
    split at h
    · cases h
    split at h
    · cases h
      exact ha
    split at h
    · exact attributesLoop_jobName n [] depth a _ ha a' h
    split at h
    · cases h
    split at h
    · cases h
    split at h
    · cases h
    split at h
    · cases h
    split at h
    · exact attributesLoop_jobName n _ _ a _ ha a' h
    · refine attributesLoop_jobName n _ depth _ _ ?_ a' h
      split
      · exact RequestAttrs.keep_jobName ha _ _
      · exact ha

/-- A longer name is read and dropped (:812). -/
theorem jobName_lt {c : WiFiClient} {r : IppRequest} (h : parse c = .request r) : r.attrs.jobName.length < 128 := by
  unfold parse at h
  split at h
  · cases h
  split at h
  · dsimp only at h
    split at h
    · cases h
    · rename_i attrs body hp
      cases h
      exact attributesLoop_jobName _ _ _ _ _ (by decide) attrs (congrArg Prod.fst hp)
  · cases h

namespace IppPcl3Service
variable {σ : Type}

/-! ## Changes -/

/-- The texts that are given for a job's state. -/
def reasons : List String :=
  ["job-incoming", "job-printing", "job-completed-successfully", "aborted-by-system", "printer-stopped",
    "job-canceled-by-user"]

/-- An assignment to the service at `now`. -/
inductive Change (now : Nat) (s : IppPcl3Service) : IppPcl3Service → Prop
  | error (text : String) : Change now s { s with lastError := text }
  | track (printer : PrinterState) :
    Change now s { s with observedPrinterState := some printer, stateChangeUpTime := upTimeSeconds now }
  | newJob (jobName : Bytes) (pending : Bool) (hn : jobName.length < 128) : Change now s (s.newJob jobName pending)
  /-- The document of a Send-Document begins. -/
  | document : Change now s { s with lastJobBytes := 0, jobStartedProcessing := false }
  | block (n : Nat) : Change now s (Streaming.sent s now n)
  | settled : Change now s { s with pendingJob := false }
  | failed (state : JobState) (reason : String) (cause : Cause) (hs : state ≠ .completed) (hr : reason ∈ reasons) :
    Change now s (s.move state reason cause)
  | completed (cause : Cause) :
    Change now s { s.move .completed "job-completed-successfully" cause with jobCompletedUpTime := upTimeSeconds now }

/-- A change, or time. -/
inductive Advance : IppPcl3Service × Nat → IppPcl3Service × Nat → Prop
  | pass {s : IppPcl3Service} {now now' : Nat} (h : now ≤ now') : Advance (s, now) (s, now')
  | change {s s' : IppPcl3Service} {now : Nat} (h : Change now s s') : Advance (s, now) (s', now)

abbrev Leads (m m' : IppPcl3Service × Nat) : Prop := Relation.ReflTransGen Advance m m'

/-- **What every change keeps, a row of changes keeps.** -/
theorem Leads.keeps {I : IppPcl3Service → Nat → Prop} (hpass : ∀ s now now', I s now → now ≤ now' → I s now')
    (hchange : ∀ s now s', I s now → Change now s s' → I s' now) {m m' : IppPcl3Service × Nat} (h : Leads m m')
    (hi : I m.1 m.2) : I m'.1 m'.2 := by
  induction h with
  | refl => exact hi
  | tail _ hstep ih =>
    cases hstep with
    | pass hle => exact hpass _ _ _ ih hle
    | change hc => exact hchange _ _ _ ih hc

theorem Leads.now_le {m m' : IppPcl3Service × Nat} (h : Leads m m') : m.2 ≤ m'.2 :=
  Leads.keeps (I := fun _ now => m.2 ≤ now) (fun _ _ _ hi hle => Nat.le_trans hi hle) (fun _ _ _ hi _ => hi) h
    (Nat.le_refl _)

section Rows
variable {s s' : IppPcl3Service} {m : IppPcl3Service × Nat} {now now' : Nat}

theorem Leads.change (h : Leads m (s, now)) (hc : Change now s s') : Leads m (s', now) := h.tail (.change hc)

theorem Leads.pass (h : Leads m (s, now)) (hle : now ≤ now') : Leads m (s, now') := h.tail (.pass hle)

end Rows

/-- What an answer shows of the service. -/
def Shows (m : IppPcl3Service × Nat) : Answered → Prop
  | .simple _ => True
  | .job _ report => report = m.1.report m.2
  | .printer _ snap =>
    snap.upTime = upTimeSeconds m.2 ∧ snap.stateChangeUp = m.1.stateChangeUpTime ∧
      snap.configChangeUp = m.1.configChangeUpTime

/-- The answer shows a moment on the way. -/
def Told (m m' : IppPcl3Service × Nat) (answered : Answered) : Prop := ∃ k, Leads m k ∧ Leads k m' ∧ Shows k answered

/-! ## Polling -/

theorem leads_refreshJobState (s : IppPcl3Service) (b : UsbPrinterBackend σ) :
    Leads (s, b.now) (s.refreshJobState b, b.now) := by
  unfold refreshJobState
  split
  · exact .refl
  split
  · exact .refl
  split
  · exact .refl
  cases b.state with
  | idle => exact (Leads.change .refl (.completed .refreshJobState)).change .settled
  | error =>
    exact (Leads.change .refl (.failed .aborted "aborted-by-system" .refreshJobState (by decide) (by decide))).change .settled
  | offline =>
    exact (Leads.change .refl (.failed .stopped "printer-stopped" .refreshJobState (by decide) (by decide))).change .settled
  | printing => exact .refl

theorem leads_trackPrinterState (s : IppPcl3Service) (b : UsbPrinterBackend σ) :
    Leads (s, b.now) (s.trackPrinterState b, b.now) := by
  unfold trackPrinterState
  split
  · exact .refl
  · exact Leads.change .refl (.track b.state)

/-! ## A document -/

theorem leads_loop (T : Transport σ) (deadline : Nat) : ∀ (n : Nat) (ticks : List Tick) (d : Streaming σ),
    Leads (d.service, d.backend.now)
      ((Streaming.loop T deadline n ticks d).service, (Streaming.loop T deadline n ticks d).backend.now)
  | 0, _, _ => .refl
  | n + 1, ticks, d => by
    have hpass : Leads (d.service, d.backend.now) (d.service, (d.backend.pass (ticks.headD {})).now) :=
      Leads.pass .refl (Nat.le_add_right _ _)
    have hsend := UsbPrinterBackend.now_le_sendDirect T (d.backend.pass (ticks.headD {})) (.ipp d.service.serial)
      (d.reader.readBlock bodyBufferSize).1
    unfold Streaming.loop
    split
    · exact Leads.change .refl (.error _)
    dsimp only
    split
    · exact hpass
    split
    · rename_i error b hres
      rw [hres] at hsend
      exact (hpass.pass hsend).change (.error error)
    · rename_i b hres
      rw [hres] at hsend
      have hblock : Leads (d.service, d.backend.now)
          (Streaming.sent d.service b.now (d.reader.readBlock bodyBufferSize).1.length, b.now) :=
        (hpass.pass hsend).change (.block _)
      have hrest := leads_loop T deadline n ticks.tail
        { d with
          service := Streaming.sent d.service b.now (d.reader.readBlock bodyBufferSize).1.length, backend := b
          reader := (d.reader.readBlock bodyBufferSize).2
          calls := d.calls ++ [((d.reader.readBlock bodyBufferSize).1, true)] }
      exact hblock.trans hrest

theorem leads_reject (d : Streaming σ) :
    Leads (d.service, d.backend.now) (d.reject.service, d.reject.backend.now) := by
  have hnow : d.reject.backend.now = d.backend.now := by
    unfold Streaming.reject
    dsimp only
    split
    · exact UsbPrinterBackend.now_abortRawJob _ _
    · rfl
  rw [hnow]
  exact (Leads.change .refl (.error _)).change (.failed .aborted "aborted-by-system" .streamDocument (by decide) (by decide))

theorem leads_stream (T : Transport σ) (ticks : List Tick) (s : IppPcl3Service) (b : UsbPrinterBackend σ)
    (body : BodyReader) :
    Leads (s, b.now) ((Streaming.stream T ticks s b body).service, (Streaming.stream T ticks s b body).backend.now) := by
  rw [Streaming.stream]
  exact leads_loop T _ _ ticks { service := s, backend := b, reader := body }

theorem leads_streamDocument (T : Transport σ) (ticks : List Tick) (s : IppPcl3Service) (b : UsbPrinterBackend σ)
    (body : BodyReader) :
    Leads (s, b.now) ((streamDocument T ticks s b body).service, (streamDocument T ticks s b body).backend.now) := by
  have h := leads_stream T ticks s b body
  rw [streamDocument]
  generalize Streaming.stream T ticks s b body = d at h
  split
  · exact h
  · exact h.trans (leads_reject d)

/-! ## The operations -/

section Operations
variable {m : IppPcl3Service × Nat} {s : IppPcl3Service} {b : UsbPrinterBackend σ}

/-- What is served goes on from `m`, and its answer shows a moment since. -/
def Answering (m : IppPcl3Service × Nat) (d : Served σ) : Prop := Told m (d.service, d.backend.now) d.answered

/-- The answer shows the service as it is left. -/
theorem answering_last {d : Served σ} (h : Leads m (d.service, d.backend.now))
    (hs : Shows (d.service, d.backend.now) d.answered) : Answering m d := ⟨_, h, .refl, hs⟩

theorem answering_refuse (h : Leads m (s, b.now)) (error : String) (status : Nat) : Answering m (s.refuse b error status) :=
  answering_last (h.change (.error error)) trivial

theorem now_le_endDocument (T : Transport σ) (c : IppClient) (d : Streaming σ) :
    d.backend.now ≤ (endDocument T c d).backend.now := by
  have hanswer : d.backend.now ≤ (d.backend.pass c.answer).now := Nat.le_add_right _ _
  rw [endDocument]
  generalize d.backend.pass c.answer = b at hanswer
  dsimp only
  split
  · exact Nat.le_trans hanswer (UsbPrinterBackend.now_le_finishRawJob T b)
  · exact hanswer

theorem answering_endDocument (T : Transport σ) (c : IppClient) {d : Streaming σ} (h : Leads m (d.service, d.backend.now)) :
    Answering m (endDocument T c d) := by
  have hend : Leads ({ d.service with pendingJob := false }, d.backend.now)
      ((endDocument T c d).service, (endDocument T c d).backend.now) := Leads.pass .refl (now_le_endDocument T c d)
  exact ⟨_, h.change .settled, hend, rfl⟩

theorem answering_takeDocument (T : Transport σ) (c : IppClient) (body : BodyReader) (h : Leads m (s, b.now)) :
    Answering m (takeDocument T c body s b) := by
  rw [takeDocument]
  exact answering_endDocument T c (h.trans (leads_streamDocument T c.reads s b body))

variable {c : IppClient} {r : IppRequest}

theorem answering_printJob (T : Transport σ) (rawConnected : Bool) (hn : r.attrs.jobName.length < 128)
    (h : Leads m (s, b.now)) : Answering m (printJob T rawConnected c r s b) := by
  unfold printJob
  split
  · exact answering_refuse h _ _
  split
  · exact answering_refuse h _ _
  split
  · exact answering_refuse h _ _
  split
  · exact answering_refuse h _ _
  · exact answering_takeDocument T c r.body (h.change (.newJob _ false hn))

theorem answering_createJob (hn : r.attrs.jobName.length < 128) (h : Leads m (s, b.now)) :
    Answering m (createJob r s b) := by
  unfold createJob
  split
  · exact answering_refuse h _ _
  split
  · exact answering_refuse h _ _
  · exact answering_last (h.change (.newJob _ true hn)) rfl

theorem answering_sendDocument (T : Transport σ) (h : Leads m (s, b.now)) : Answering m (sendDocument T c r s b) := by
  unfold sendDocument
  split
  · exact answering_refuse h _ _
  split
  · exact answering_refuse h _ _
  split
  · exact answering_refuse h _ _
  split
  · exact answering_refuse h _ _
  · exact answering_takeDocument T c r.body (h.change .document)

theorem answering_cancelJob (h : Leads m (s, b.now)) : Answering m (cancelJob r s b) := by
  unfold cancelJob
  split
  · exact answering_last h trivial
  · have hnow : (if b.state = .printing then b.abortRawJob "job-canceled-by-user" else b).now = b.now := by
      split
      · exact UsbPrinterBackend.now_abortRawJob _ _
      · rfl
    dsimp only
    generalize (if b.state = .printing then b.abortRawJob "job-canceled-by-user" else b) = b' at hnow
    rw [← hnow] at h
    exact answering_last ((h.change .settled).change
      (.failed .canceled "job-canceled-by-user" .cancelJob (by decide) (by decide))) rfl

theorem answering_closeJob (h : Leads m (s, b.now)) : Answering m (closeJob s b) := by
  unfold closeJob
  split
  · exact answering_last h trivial
  dsimp only
  split
  · exact answering_last ((h.change .settled).change (.completed .closeJob)) rfl
  · exact answering_last h rfl

theorem answering_getJobAttributes (h : Leads m (s, b.now)) : Answering m (getJobAttributes r s b) := by
  have hr := h.trans (leads_refreshJobState s b)
  unfold getJobAttributes
  dsimp only
  split
  · exact answering_last hr trivial
  split
  · exact answering_last hr rfl
  · exact answering_last hr trivial

/-- **Every operation** is a row of changes. -/
theorem answering_operation (T : Transport σ) (rawConnected : Bool) (hn : r.attrs.jobName.length < 128)
    (h : Leads m (s, b.now)) : Answering m (operation T rawConnected c r s b) := by
  unfold operation
  split
  · exact answering_last h ⟨rfl, rfl, rfl⟩
  · exact answering_last h trivial
  · exact answering_printJob T rawConnected hn h
  · exact answering_createJob hn h
  · exact answering_sendDocument T h
  · exact answering_cancelJob h
  · exact answering_closeJob h
  · exact answering_getJobAttributes h
  · exact answering_getJobAttributes h
  · exact answering_last h trivial

end Operations

/-- **Every poll** is a row of changes, and its answer shows a moment of it. -/
theorem leads_poll (T : Transport σ) (rawConnected : Bool) (client : Option IppClient) (s : IppPcl3Service)
    (b : UsbPrinterBackend σ) :
    Leads (s, b.now) ((s.poll T rawConnected client b).1, (s.poll T rawConnected client b).2.1.now) ∧
      ∀ reply, (s.poll T rawConnected client b).2.2 = some reply →
        Told (s, b.now) ((s.poll T rawConnected client b).1, (s.poll T rawConnected client b).2.1.now) reply.answered := by
  unfold poll
  split
  · exact ⟨.refl, fun _ h => by cases h⟩
  have hseen : Leads (s, b.now) (_, b.now) :=
    (leads_refreshJobState s b).trans (leads_trackPrinterState (s.refreshJobState b) b)
  dsimp only
  generalize (s.refreshJobState b).trackPrinterState b = s' at hseen
  cases client with
  | none => exact ⟨hseen, fun _ h => by cases h⟩
  | some c =>
    have hclear := hseen.change (.error "")
    have hfresh : Leads (s, b.now) (_, b.now) := hclear.trans (leads_refreshJobState { s' with lastError := "" } b)
    dsimp only
    unfold handleClient
    dsimp only
    generalize { s' with lastError := "" }.refreshJobState b = s'' at hfresh
    have hread : Leads (s, b.now) (s'', (b.pass c.arrival).now) := hfresh.pass (Nat.le_add_right _ _)
    cases hp : parse c.client with
    | dropped error => exact ⟨hread.change (.error _), fun _ h => by cases h⟩
    | malformed version requestId =>
      have hbad := hread.change (.error "malformed IPP attributes")
      refine ⟨hbad, ?_⟩
      rintro reply ⟨⟩
      exact ⟨_, hbad, .refl, trivial⟩
    | request r =>
      obtain ⟨k, hk, hend, hs⟩ := answering_operation (c := c) (r := r) T rawConnected (jobName_lt hp) hread
      refine ⟨hk.trans hend, ?_⟩
      rintro reply ⟨⟩
      exact ⟨k, hk, hend, hs⟩

end IppPcl3Service
end PrintServer
