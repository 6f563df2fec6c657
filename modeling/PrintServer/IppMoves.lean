import PrintServer.IppService
import Mathlib.Logic.Relation
/-!
# What an IPP request does

The service is seen as its `JobRecord`, the backend as its `Ledger`. `streamDocument` is a row of
accepted blocks, then a flush or an abort (`taken_takeDocument`); every other operation changes the
record alone, or aborts (`serves_operation`).
-/
namespace PrintServer

/-! ## The record of the current job -/

structure JobRecord where
  started : Bool
  nextId : UInt32
  id : UInt32
  state : JobState
  /-- `jobStartedProcessing_`. -/
  begun : Bool
  pending : Bool
  serial : Nat
  moves : List Move

namespace JobRecord

def set (r : JobRecord) (state : JobState) (cause : Cause) : JobRecord :=
  { r with state, moves := ⟨r.serial, state, cause⟩ :: r.moves }

/-- `refreshJobState`, for a printer in the given state. -/
def refresh (r : JobRecord) (printer : PrinterState) : JobRecord :=
  if r.id = 0 then r
  else if r.state = .pending && !r.begun then r
  else if r.state ≠ .pending ∧ r.state ≠ .processing then r
  else match printer with
    | .idle => { r.set .completed .refreshJobState with pending := false }
    | .error => { r.set .aborted .refreshJobState with pending := false }
    | .offline => { r.set .stopped .refreshJobState with pending := false }
    | .printing => r

def newJob (r : JobRecord) (pending : Bool) : JobRecord :=
  { r with serial := r.serial + 1, nextId := r.nextId + 1, id := r.nextId, begun := false, pending }.set .pending .request

/-- The document is coming. -/
def streaming (r : JobRecord) : JobRecord := { r with begun := false }

/-- The first block was accepted. -/
def processing (r : JobRecord) : JobRecord := { r.set .processing .streamDocument with begun := true }

/-- The same job, after its document. -/
structure Streamed (r r' : JobRecord) : Prop where
  started : r'.started = r.started
  nextId : r'.nextId = r.nextId
  id : r'.id = r.id
  serial : r'.serial = r.serial
  pending : r'.pending = false
  moves : ∃ new, r'.moves = new ++ r.moves ∧ ∀ m ∈ new, m.cause = .streamDocument

end JobRecord

namespace IppPcl3Service
variable {σ : Type}

def record (s : IppPcl3Service) : JobRecord :=
  ⟨s.started, s.nextJobId, s.lastJobId, s.lastJobState, s.jobStartedProcessing, s.pendingJob, s.serial, s.moves⟩

theorem record_refreshJobState (s : IppPcl3Service) (b : UsbPrinterBackend σ) :
    (s.refreshJobState b).record = s.record.refresh b.state := by
  unfold refreshJobState JobRecord.refresh
  by_cases h0 : s.lastJobId = 0
  · rw [if_pos h0, if_pos (show s.record.id = 0 from h0)]
  rw [if_neg h0, if_neg (show ¬ s.record.id = 0 from h0)]
  by_cases h1 : (s.lastJobState = .pending && !s.jobStartedProcessing) = true
  · rw [if_pos h1, if_pos (show (s.record.state = .pending && !s.record.begun) = true from h1)]
  rw [if_neg h1, if_neg (show ¬ (s.record.state = .pending && !s.record.begun) = true from h1)]
  by_cases h2 : s.lastJobState ≠ .pending ∧ s.lastJobState ≠ .processing
  · rw [if_pos h2, if_pos (show s.record.state ≠ .pending ∧ s.record.state ≠ .processing from h2)]
  rw [if_neg h2, if_neg (show ¬ (s.record.state ≠ .pending ∧ s.record.state ≠ .processing) from h2)]
  cases b.state <;> rfl

theorem record_trackPrinterState (s : IppPcl3Service) (b : UsbPrinterBackend σ) :
    (s.trackPrinterState b).record = s.record := by
  unfold trackPrinterState
  split <;> rfl

end IppPcl3Service

/-! ## A document -/

namespace Ledger

/-- One block of `job` is accepted. -/
def Sent (job : JobKey) (l l' : Ledger) : Prop :=
  (l.state = .idle ∨ l.state = .printing) ∧ ∃ data, l' = l.start.accept job data

theorem Sent.printing {job : JobKey} {l l' : Ledger} (h : Sent job l l') : l'.state = .printing := by
  obtain ⟨hs, data, rfl⟩ := h
  exact start_state hs

theorem printing_of_sent {job : JobKey} {l l' : Ledger} (h : Relation.TransGen (Sent job) l l') :
    l'.state = .printing := by
  cases h with
  | single h => exact h.printing
  | tail _ h => exact h.printing

theorem abort_abort (l : Ledger) : l.abort.abort = l.abort := rfl

end Ledger

/-- What a document of `job` does to the backend: nothing, some accepted blocks and an abort, or
accepted blocks and the end of the job. -/
inductive Taken (job : JobKey) (l l' : Ledger) (r' : JobRecord) : Prop where
  | refused (hl : l' = l) (hr : r'.state = .aborted)
  | aborted (m : Ledger) (hm : Relation.ReflTransGen (Ledger.Sent job) l m)
      (hs : m.state = .idle ∨ m.state = .printing) (hl : l' = m.start.abort) (hr : r'.state = .aborted)
  | sent (m : Ledger) (hm : Relation.TransGen (Ledger.Sent job) l m)
      (hl : l' = m ∧ m.drainPending = true ∨ (∃ now, l' = m.flush now) ∨ l' = m.abort) (hr : r'.state = .processing)
      (hb : r'.begun = true)

namespace Streaming
variable {σ : Type} {l : Ledger} {r : JobRecord}

/-- Nothing was accepted yet, or the job is being processed. -/
def Carrying (l : Ledger) (r : JobRecord) (m : Ledger) (s : IppPcl3Service) : Prop :=
  (s.record = r ∧ m = l ∧ s.lastJobBytes = 0) ∨
    (s.record = r.processing ∧ Relation.TransGen (Ledger.Sent (.ipp r.serial)) l m)

theorem Carrying.serial {m : Ledger} {s : IppPcl3Service} (h : Carrying l r m s) : s.serial = r.serial := by
  rcases h with ⟨h, _⟩ | ⟨h, _⟩ <;> exact congrArg JobRecord.serial h

theorem Carrying.sent {m : Ledger} {s : IppPcl3Service} (h : Carrying l r m s) :
    Relation.ReflTransGen (Ledger.Sent (.ipp r.serial)) l m := by
  rcases h with ⟨_, rfl, _⟩ | ⟨_, h⟩
  · exact .refl
  · exact h.to_reflTransGen

/-- The fields that only the answers show are not part of the record. -/
theorem Carrying.of_record {m : Ledger} {s s' : IppPcl3Service} (h : Carrying l r m s) (hr : s'.record = s.record)
    (hb : s'.lastJobBytes = s.lastJobBytes) : Carrying l r m s' := by
  unfold Carrying
  rw [hr, hb]
  exact h

theorem record_sent (s : IppPcl3Service) (now n : Nat) :
    (sent s now n).record = if s.jobStartedProcessing then s.record else s.record.processing := by
  unfold sent
  split <;> rfl

/-- The loop took what it could, or a block failed: it was refused, or the job aborted. -/
inductive LoopEnd (l : Ledger) (r : JobRecord) (s : Streaming σ) : Prop where
  | taken (h : Carrying l r s.backend.ledger s.service)
  | failed (m : Ledger) (h : Carrying l r m s.service) (hok : s.ok = false)
      (hs : m.state = .idle ∨ m.state = .printing) (hl : s.backend.ledger = m.start.abort)

theorem loop_carries (T : Transport σ) (deadline : Nat) (hb : r.begun = false) : ∀ (n : Nat) (ticks : List Tick)
    (s : Streaming σ), Carrying l r s.backend.ledger s.service → LoopEnd l r (loop T deadline n ticks s)
  | 0, _, s, h => .taken h
  | n + 1, ticks, s, h => by
    unfold loop
    split
    · exact .taken (h.of_record rfl rfl)
    dsimp only
    split
    · exact .taken h
    have hcases := UsbPrinterBackend.sendDirect_cases T (s.backend.pass (ticks.headD {})) (.ipp s.service.serial)
      (s.reader.readBlock bodyBufferSize).1
    rw [UsbPrinterBackend.ledger_pass] at hcases
    have hserial := h.serial
    split
    · rename_i error b hsend
      rw [hsend] at hcases
      rcases hcases with ⟨_, rfl⟩ | ⟨_, _, ⟨hno, _⟩ | ⟨_, e⟩⟩
      · exact .taken (h.of_record rfl rfl)
      · cases hno
      · exact .failed _ (h.of_record rfl rfl) rfl ‹_› e
    · rename_i b hsend
      rw [hsend] at hcases
      refine loop_carries T deadline hb n ticks.tail _ ?_
      rcases hcases with ⟨hno, _⟩ | ⟨hs, _, ⟨_, e⟩ | ⟨hno, _⟩⟩
      · exact absurd rfl hno
      · have hstep : Ledger.Sent (.ipp r.serial) s.backend.ledger b.ledger := ⟨hs, _, by rw [← hserial]; exact e⟩
        refine Or.inr ⟨?_, Relation.TransGen.tail' h.sent hstep⟩
        show (Streaming.sent s.service b.now _).record = r.processing
        rw [record_sent]
        rcases h with ⟨hr, _⟩ | ⟨hr, _⟩
        · have hno : s.service.jobStartedProcessing = false := (congrArg JobRecord.begun hr).trans hb
          rw [if_neg (by rw [hno]; exact Bool.false_ne_true), hr]
        · have hyes : s.service.jobStartedProcessing = true := congrArg JobRecord.begun hr
          rw [if_pos hyes, hr]
      · exact absurd rfl hno

/-- What `streamDocument` leaves behind: the row of accepted blocks, or an aborted job. -/
def Ends (l : Ledger) (r : JobRecord) (d : Streaming σ) : Prop :=
  (d.ok = true ∧ Relation.TransGen (Ledger.Sent (.ipp r.serial)) l d.backend.ledger ∧ d.service.record = r.processing) ∨
    (d.ok = false ∧
      (d.backend.ledger = l ∨
        ∃ m, Relation.ReflTransGen (Ledger.Sent (.ipp r.serial)) l m ∧ (m.state = .idle ∨ m.state = .printing) ∧
          d.backend.ledger = m.start.abort) ∧
      (d.service.record = r.set .aborted .streamDocument ∨ d.service.record = r.processing.set .aborted .streamDocument))

theorem ends_accepted {d : Streaming σ} (h : LoopEnd l r d) (hacc : d.accepted = true) : Ends l r d := by
  simp only [accepted, Bool.and_eq_true, decide_eq_true_eq] at hacc
  obtain ⟨⟨⟨hok, _⟩, _⟩, hbytes⟩ := hacc
  rcases h with (⟨_, _, hz⟩ | ⟨hr, hm⟩) | ⟨_, _, hno, _, _⟩
  · rw [hz] at hbytes
    exact absurd hbytes (Nat.lt_irrefl 0)
  · exact Or.inl ⟨hok, hm, hr⟩
  · rw [hno] at hok
    cases hok

theorem ends_reject {d : Streaming σ} (hb : r.begun = false) (h : LoopEnd l r d) : Ends l r d.reject := by
  have hrecord : ∀ m, Carrying l r m d.service →
      d.reject.service.record = r.set .aborted .streamDocument ∨
        d.reject.service.record = r.processing.set .aborted .streamDocument := by
    intro m hm
    rcases hm with ⟨hr, _⟩ | ⟨hr, _⟩
    · exact Or.inl (congrArg (·.set .aborted .streamDocument) hr)
    · exact Or.inr (congrArg (·.set .aborted .streamDocument) hr)
  refine Or.inr ⟨rfl, ?_⟩
  rcases h with h | ⟨m, h, _, hs, hl⟩
  · refine ⟨?_, hrecord _ h⟩
    rcases h with ⟨hr, hm, hz⟩ | ⟨hr, hm⟩
    · -- nothing was accepted: the backend is left alone
      have hno : d.service.jobStartedProcessing = false := (congrArg JobRecord.begun hr).trans hb
      refine Or.inl ?_
      unfold reject
      rw [hno, hz]
      exact hm
    · have hyes : d.service.jobStartedProcessing = true := congrArg JobRecord.begun hr
      have hp := Ledger.printing_of_sent hm
      refine Or.inr ⟨_, hm.to_reflTransGen, Or.inr hp, ?_⟩
      unfold reject
      rw [hyes, Ledger.start_printing hp]
      exact UsbPrinterBackend.ledger_abortRawJob _ _
  · refine ⟨Or.inr ⟨m, h.sent, hs, ?_⟩, hrecord _ h⟩
    unfold reject
    dsimp only
    split
    · rw [UsbPrinterBackend.ledger_abortRawJob, hl, Ledger.abort_abort]
    · exact hl

theorem ends_streamDocument (T : Transport σ) (ticks : List Tick) {s : IppPcl3Service} (b : UsbPrinterBackend σ)
    (body : BodyReader) (h0 : s.lastJobBytes = 0) (hb : s.jobStartedProcessing = false) :
    Ends b.ledger s.record (streamDocument T ticks s b body) := by
  have hend : LoopEnd b.ledger s.record (stream T ticks s b body) :=
    loop_carries T _ hb _ _ { service := s, backend := b, reader := body } (Or.inl ⟨rfl, rfl, h0⟩)
  unfold streamDocument
  dsimp only
  split
  · exact ends_accepted hend ‹_›
  · exact ends_reject hb hend

end Streaming

namespace IppPcl3Service
variable {σ : Type} (T : Transport σ)

theorem streamed_aborted {r r' : JobRecord} (h : r' = r.set .aborted .streamDocument ∨
    r' = r.processing.set .aborted .streamDocument) : r.Streamed { r' with pending := false } ∧ r'.state = .aborted := by
  rcases h with rfl | rfl
  · refine ⟨⟨rfl, rfl, rfl, rfl, rfl, [⟨r.serial, .aborted, .streamDocument⟩], rfl, ?_⟩, rfl⟩
    simp
  · refine ⟨⟨rfl, rfl, rfl, rfl, rfl,
      [⟨r.serial, .aborted, .streamDocument⟩, ⟨r.serial, .processing, .streamDocument⟩], rfl, ?_⟩, rfl⟩
    simp

theorem streamed_processing (r : JobRecord) : r.Streamed { r.processing with pending := false } := by
  refine ⟨rfl, rfl, rfl, rfl, rfl, [⟨r.serial, .processing, .streamDocument⟩], rfl, ?_⟩
  simp

theorem taken_endDocument (c : IppClient) {l : Ledger} {r : JobRecord} {d : Streaming σ} (h : Streaming.Ends l r d) :
    r.Streamed (endDocument T c d).service.record ∧
      Taken (.ipp r.serial) l (endDocument T c d).backend.ledger (endDocument T c d).service.record := by
  have hrec : (endDocument T c d).service.record = { d.service.record with pending := false } := rfl
  rcases h with ⟨hok, hm, hr⟩ | ⟨hok, hl, hr⟩
  · have hb : (endDocument T c d).backend = (d.backend.pass c.answer).finishRawJob T := if_pos hok
    rw [hrec, hb, hr]
    refine ⟨streamed_processing _, .sent _ hm ?_ rfl rfl⟩
    have hp : (d.backend.pass c.answer).state = .printing := Ledger.printing_of_sent hm
    rcases UsbPrinterBackend.finishRawJob_cases T (d.backend.pass c.answer) with ⟨hno, e⟩ | ⟨_, _, _, e | e⟩
    · refine Or.inl ⟨?_, hno.resolve_left fun hne => hne hp⟩
      rw [e]
      rfl
    · exact Or.inr (Or.inl ⟨_, e⟩)
    · exact Or.inr (Or.inr e)
  · have hb : (endDocument T c d).backend = d.backend.pass c.answer :=
      if_neg (by rw [hok]; exact Bool.false_ne_true)
    obtain ⟨hstr, hst⟩ := streamed_aborted hr
    rw [hrec, hb]
    refine ⟨hstr, ?_⟩
    rcases hl with hl | ⟨m, hm, hs, hl⟩
    · exact .refused hl hst
    · exact .aborted m hm hs hl hst

/-- **A document, from the first block to the end of the job.** -/
theorem taken_takeDocument (c : IppClient) (body : BodyReader) {s : IppPcl3Service} (b : UsbPrinterBackend σ)
    (h0 : s.lastJobBytes = 0) (hb : s.jobStartedProcessing = false) :
    s.record.Streamed (takeDocument T c body s b).service.record ∧
      Taken (.ipp s.serial) b.ledger (takeDocument T c body s b).backend.ledger
        (takeDocument T c body s b).service.record :=
  taken_endDocument T c (Streaming.ends_streamDocument T c.reads b body h0 hb)

/-! ## The operations -/

/-- What an operation does to the record of the job and to the backend. -/
inductive Serves (rawConnected : Bool) (c : IppClient) (req : IppRequest) (s : IppPcl3Service) (b : UsbPrinterBackend σ)
    (d : Served σ) : Prop where
  | nothing (hr : d.service.record = s.record) (hl : d.backend = b)
  | refresh (hr : d.service.record = s.record.refresh b.state) (hl : d.backend = b)
  | create (hs : b.state = .idle) (hr : d.service.record = s.record.newJob true) (hl : d.backend = b)
  | print (ho : req.op = 0x0002) (hs : b.state = .idle) (hc : rawConnected = false)
      (hr : (s.record.newJob false).Streamed d.service.record)
      (ht : Taken (.ipp (s.serial + 1)) b.ledger d.backend.ledger d.service.record)
  | send (ho : req.op = 0x0006) (ha : s.acceptsDocument req.attrs = true) (hr : s.record.streaming.Streamed d.service.record)
      (ht : Taken (.ipp s.serial) b.ledger d.backend.ledger d.service.record)
  | cancel (ho : req.op = 0x0008) (ha : s.refusesCancel req.attrs = none)
      (hr : d.service.record = { s.record with pending := false }.set .canceled .cancelJob)
      (hl : d.backend.ledger = if b.state = .printing then b.ledger.abort else b.ledger)
  | close (hp : s.pendingJob = true) (hr : d.service.record = { s.record with pending := false }.set .completed .closeJob)
      (hl : d.backend = b)

variable {rawConnected : Bool} {c : IppClient} {req : IppRequest} {s : IppPcl3Service} {b : UsbPrinterBackend σ}

theorem serves_printJob (ho : req.op = 0x0002) : Serves rawConnected c req s b (printJob T rawConnected c req s b) := by
  unfold printJob
  split
  · exact .nothing rfl rfl
  split
  · exact .nothing rfl rfl
  rename_i hraw
  split
  · exact .nothing rfl rfl
  split
  · exact .nothing rfl rfl
  · rename_i honline
    obtain ⟨hr, ht⟩ := taken_takeDocument T c req.body (s := s.newJob req.attrs.jobName false) b rfl rfl
    exact .print ho (by simpa [UsbPrinterBackend.online] using honline) (by simpa using hraw) hr ht

theorem serves_createJob : Serves rawConnected c req s b (createJob req s b) := by
  unfold createJob
  split
  · exact .nothing rfl rfl
  split
  · exact .nothing rfl rfl
  · rename_i honline
    exact .create (by simpa [UsbPrinterBackend.online] using honline) rfl rfl

theorem serves_sendDocument (ho : req.op = 0x0006) : Serves rawConnected c req s b (sendDocument T c req s b) := by
  unfold sendDocument
  split
  · exact .nothing rfl rfl
  rename_i h1
  split
  · exact .nothing rfl rfl
  rename_i h2
  split
  · exact .nothing rfl rfl
  rename_i h3
  split
  · exact .nothing rfl rfl
  rename_i h4
  have ha : s.acceptsDocument req.attrs = true := by
    unfold acceptsDocument
    simp only [Bool.or_eq_true, Bool.not_eq_true', decide_eq_true_eq, not_or, Bool.not_eq_false] at h1 h2 h3 h4
    simp only [Bool.and_eq_true, Bool.not_eq_true', bne_iff_ne]
    exact ⟨⟨⟨⟨h1.1, h1.2⟩, by simpa using h2⟩, h3⟩, h4⟩
  obtain ⟨hr, ht⟩ := taken_takeDocument T c req.body
    (s := { s with lastJobBytes := 0, jobStartedProcessing := false }) b rfl rfl
  exact .send ho ha hr ht

theorem serves_cancelJob (ho : req.op = 0x0008) : Serves rawConnected c req s b (cancelJob req s b) := by
  unfold cancelJob
  split
  · exact .nothing rfl rfl
  · rename_i ha
    refine .cancel ho ha rfl ?_
    show (if b.state = .printing then _ else b).ledger = _
    split
    · exact UsbPrinterBackend.ledger_abortRawJob b _
    · rfl

theorem serves_closeJob : Serves rawConnected c req s b (closeJob s b) := by
  unfold closeJob
  split
  · exact .nothing rfl rfl
  dsimp only
  split
  · rename_i hp
    exact .close hp rfl rfl
  · exact .nothing rfl rfl

theorem serves_getJobAttributes : Serves rawConnected c req s b (getJobAttributes req s b) := by
  have h := record_refreshJobState s b
  unfold getJobAttributes
  dsimp only
  split
  · exact .refresh h rfl
  split
  · exact .refresh h rfl
  · exact .refresh h rfl

/-- **Every operation** refuses, looks, makes a job, takes a document, or ends a job. -/
theorem serves_operation : Serves rawConnected c req s b (operation T rawConnected c req s b) := by
  unfold operation
  split
  · exact .nothing rfl rfl
  · exact .nothing rfl rfl
  · rename_i ho
    exact serves_printJob T ho
  · exact serves_createJob
  · rename_i ho
    exact serves_sendDocument T ho
  · rename_i ho
    exact serves_cancelJob ho
  · exact serves_closeJob
  · exact serves_getJobAttributes
  · exact serves_getJobAttributes
  · exact .nothing rfl rfl

end IppPcl3Service
end PrintServer
