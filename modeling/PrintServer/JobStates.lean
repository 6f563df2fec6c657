import Mathlib.Data.List.Chain
import PrintServer.IppMoves
/-!
# The states of an IPP job (ipp_pcl3_service.cpp:855-881, 997-1065, 1121-1248)

The service updates seven fields by hand in every branch. `Lawful` is the history that they should
have: jobs are numbered one after the other and each one goes only where `next` lets it. `Sound`
adds what the other fields say of the current job; every poll keeps it, whatever state the backend
is in by then (`sound_poll`).
-/
namespace PrintServer

/-- Where a job may go. -/
def JobState.next : JobState → List JobState
  | pending => [processing, canceled, aborted, completed]
  | processing => [stopped, canceled, aborted, completed]
  | stopped => [canceled]
  | _ => []

/-- A history of moves, newest first, after `n` jobs; the last job is in `state`. -/
inductive Lawful : List Move → Nat → JobState → Prop
  | nothing : Lawful [] 0 .none
  | allocate {ms : List Move} {n : Nat} {state : JobState} (h : Lawful ms n state) :
    Lawful (⟨n + 1, .pending, .request⟩ :: ms) (n + 1) .pending
  | move {ms : List Move} {n : Nat} {state state' : JobState} {cause : Cause} (h : Lawful ms n state)
    (hn : state' ∈ state.next) (hc : cause ≠ .request) : Lawful (⟨n, state', cause⟩ :: ms) n state'

/-- The states of one job, newest first. -/
def statesOf (job : Nat) (ms : List Move) : List JobState := (ms.filter (·.job = job)).map Move.state

/-- The jobs that were made, newest first. -/
def allocated (ms : List Move) : List Nat := (ms.filter (·.cause = .request)).map Move.job

namespace Lawful
variable {ms : List Move} {n : Nat} {state : JobState}

theorem job_le (h : Lawful ms n state) : ∀ m ∈ ms, m.job ≤ n := by
  induction h with
  | nothing => simp
  | allocate h ih =>
    intro m hm
    rcases List.mem_cons.1 hm with rfl | hm
    · exact Nat.le_refl _
    · exact Nat.le_succ_of_le (ih m hm)
  | move h hn hc ih =>
    intro m hm
    rcases List.mem_cons.1 hm with rfl | hm
    · exact Nat.le_refl _
    · exact ih m hm

theorem none_iff (h : Lawful ms n state) : state = .none ↔ n = 0 := by
  induction h with
  | nothing => simp
  | allocate h ih => simp
  | @move ms n state state' cause h hn hc ih =>
    -- nothing follows the initial state, and nothing leads back to it
    cases state <;> cases state' <;> simp_all [JobState.next]

theorem statesOf_head (h : Lawful ms n state) (hn : n ≠ 0) : (statesOf n ms).head? = some state := by
  cases h with
  | nothing => exact absurd rfl hn
  | allocate h => simp [statesOf]
  | move h hs hc => simp [statesOf]

/-- **A job only takes the steps of `next`**, from its first state on. -/
theorem chain (h : Lawful ms n state) (job : Nat) :
    (statesOf job ms).IsChain (fun new old => new ∈ old.next) ∧
      (statesOf job ms = [] ∨ (statesOf job ms).getLast? = some .pending) := by
  induction h with
  | nothing => simp [statesOf]
  | @allocate ms n state h ih =>
    by_cases hj : n + 1 = job
    · -- a number that no job had yet
      have hnone : ms.filter (·.job = job) = [] := by
        apply List.filter_eq_nil_iff.2
        intro m hm
        have := h.job_le m hm
        simp only [decide_eq_true_eq]
        omega
      simp [statesOf, hj, hnone]
    · have hsame : statesOf job (⟨n + 1, .pending, .request⟩ :: ms) = statesOf job ms := by simp [statesOf, hj]
      rwa [hsame]
  | @move ms n state state' cause h hn hc ih =>
    by_cases hj : n = job
    · subst hj
      have hpos : n ≠ 0 := by
        intro h0
        rw [h.none_iff.2 h0] at hn
        cases hn
      have hcons : statesOf n (⟨n, state', cause⟩ :: ms) = state' :: statesOf n ms := by simp [statesOf]
      have hhead := h.statesOf_head hpos
      obtain ⟨hchain, hlast⟩ := ih
      rw [hcons]
      cases hs : statesOf n ms with
      | nil =>
        rw [hs] at hhead
        cases hhead
      | cons old rest =>
        rw [hs] at hhead hchain hlast
        obtain rfl : old = state := by simpa using hhead
        constructor
        · exact List.isChain_cons_cons.2 ⟨hn, hchain⟩
        · simpa using hlast
    · have hsame : statesOf job (⟨n, state', cause⟩ :: ms) = statesOf job ms := by simp [statesOf, hj]
      rwa [hsame]

/-- The jobs are numbered one after the other. -/
theorem allocated_eq (h : Lawful ms n state) : allocated ms = ((List.range n).map (· + 1)).reverse := by
  induction h with
  | nothing => rfl
  | allocate h ih =>
    rw [List.range_succ]
    simpa [allocated] using ih
  | move h hn hc ih => simpa [allocated, hc] using ih

end Lawful

namespace IppPcl3Service
variable {σ : Type}

/-- The history is lawful, and the other fields agree with the state of the current job. -/
structure Sound (s : IppPcl3Service) : Prop where
  lawful : Lawful s.moves s.serial s.lastJobState
  id : s.lastJobId = UInt32.ofNat s.serial
  nextId : s.nextJobId = UInt32.ofNat (s.serial + 1)
  begun : s.lastJobState = .pending → s.jobStartedProcessing = false
  pending : s.pendingJob = true → s.lastJobState = .pending ∧ s.lastJobBytes = 0
  processing : s.lastJobState = .processing → s.jobStartedProcessing = true ∧ 0 < s.lastJobBytes

namespace Sound
variable {s s' : IppPcl3Service}

/-- A change of the fields that the job's state does not rest on. -/
theorem congr (h : s.Sound) (hr : s'.moves = s.moves ∧ s'.serial = s.serial ∧ s'.lastJobState = s.lastJobState)
    (hid : s'.lastJobId = s.lastJobId ∧ s'.nextJobId = s.nextJobId)
    (hdoc : s'.jobStartedProcessing = s.jobStartedProcessing ∧ s'.lastJobBytes = s.lastJobBytes)
    (hp : s'.pendingJob = true → s.pendingJob = true) : s'.Sound := by
  obtain ⟨hm, hser, hst⟩ := hr
  obtain ⟨h1, h2⟩ := hid
  obtain ⟨h3, h4⟩ := hdoc
  refine ⟨?_, ?_, ?_, ?_, ?_, ?_⟩
  · rw [hm, hser, hst]
    exact h.lawful
  · rw [h1, hser]
    exact h.id
  · rw [h2, hser]
    exact h.nextId
  · rw [hst, h3]
    exact h.begun
  · intro hp'
    rw [hst, h4]
    exact h.pending (hp hp')
  · rw [hst, h3, h4]
    exact h.processing

theorem withError (h : s.Sound) (error : String) : ({ s with lastError := error } : IppPcl3Service).Sound :=
  h.congr ⟨rfl, rfl, rfl⟩ ⟨rfl, rfl⟩ ⟨rfl, rfl⟩ fun hp => hp

/-- A number other than 0 has been given out. -/
theorem state_ne_none (h : s.Sound) (hid : s.lastJobId ≠ 0) : s.lastJobState ≠ .none := by
  intro hno
  apply hid
  rw [h.id, h.lawful.none_iff.1 hno]
  rfl

/-- The end of the current job, and the document is no longer awaited. -/
theorem move (h : s.Sound) {state : JobState} (reason : String) (cause : Cause) (hn : state ∈ s.lastJobState.next)
    (hc : cause ≠ .request) (hs : state ≠ .processing) :
    ({ s with pendingJob := false }.move state reason cause).Sound := by
  refine ⟨h.lawful.move hn hc, h.id, h.nextId, ?_, nofun, ?_⟩
  · intro hp
    change state = .pending at hp
    subst hp
    cases hst : s.lastJobState <;> simp [hst, JobState.next] at hn
  · intro hp
    exact absurd hp hs

theorem newJob (h : s.Sound) (jobName : Bytes) (pendingJob : Bool) : (s.newJob jobName pendingJob).Sound := by
  refine ⟨h.lawful.allocate, h.nextId, ?_, fun _ => rfl, fun _ => ⟨rfl, rfl⟩, nofun⟩
  show s.nextJobId + 1 = UInt32.ofNat (s.serial + 1 + 1)
  rw [h.nextId, UInt32.ofNat_add (s.serial + 1) 1]
  rfl

end Sound
/-! ## The backend is polled -/

theorem sound_refreshJobState {s : IppPcl3Service} (h : s.Sound) (b : UsbPrinterBackend σ) : (s.refreshJobState b).Sound := by
  unfold refreshJobState
  split
  · exact h
  split
  · exact h
  rename_i hbegun
  split
  · exact h
  rename_i hstate
  have hproc : s.lastJobState = .processing := by
    by_cases hp : s.lastJobState = .pending
    · simp [hp, h.begun hp] at hbegun
    · by_contra hno
      exact hstate ⟨hp, hno⟩
  have hnext : ∀ state ∈ [JobState.completed, .aborted, .stopped], state ∈ s.lastJobState.next := by
    rw [hproc]
    decide
  cases b.state with
  | idle =>
    exact (h.move "job-completed-successfully" .refreshJobState (hnext .completed (by decide)) nofun nofun).congr
      ⟨rfl, rfl, rfl⟩ ⟨rfl, rfl⟩ ⟨rfl, rfl⟩ nofun
  | error => exact h.move "aborted-by-system" .refreshJobState (hnext .aborted (by decide)) nofun nofun
  | offline => exact h.move "printer-stopped" .refreshJobState (hnext .stopped (by decide)) nofun nofun
  | printing => exact h

theorem sound_trackPrinterState {s : IppPcl3Service} (h : s.Sound) (b : UsbPrinterBackend σ) :
    (s.trackPrinterState b).Sound := by
  unfold trackPrinterState
  split
  · exact h
  · exact h.congr ⟨rfl, rfl, rfl⟩ ⟨rfl, rfl⟩ ⟨rfl, rfl⟩ fun hp => hp

/-! ## A document -/

/-- Nothing was accepted yet, or the job is being processed. -/
structure Printing (s : IppPcl3Service) : Prop where
  sound : ({ s with pendingJob := false } : IppPcl3Service).Sound
  state : s.lastJobState = .pending ∧ s.lastJobBytes = 0 ∨ s.lastJobState = .processing

theorem Printing.congr {s s' : IppPcl3Service} (h : s.Printing) (hr : s'.record = { s.record with pending := s'.pendingJob })
    (hb : s'.lastJobBytes = s.lastJobBytes) : s'.Printing := by
  have hst : s'.lastJobState = s.lastJobState := congrArg JobRecord.state hr
  have hser : s'.serial = s.serial := congrArg JobRecord.serial hr
  refine ⟨h.sound.congr ⟨congrArg JobRecord.moves hr, hser, hst⟩
    ⟨congrArg JobRecord.id hr, congrArg JobRecord.nextId hr⟩ ⟨congrArg JobRecord.begun hr, hb⟩ nofun, ?_⟩
  rw [hst, hb]
  exact h.state

/-- A block is accepted. -/
theorem Printing.sent {s : IppPcl3Service} (h : s.Printing) (now : Nat) {n : Nat} (hn : 0 < n) :
    (Streaming.sent s now n).Printing := by
  unfold Streaming.sent
  by_cases hb : s.jobStartedProcessing = true
  · have hproc : s.lastJobState = .processing := by
      rcases h.state with ⟨hp, -⟩ | hp
      · have hno := h.sound.begun hp
        rw [show s.jobStartedProcessing = false from hno] at hb
        cases hb
      · exact hp
    rw [if_pos hb]
    refine ⟨⟨h.sound.lawful, h.sound.id, h.sound.nextId, h.sound.begun, nofun, ?_⟩, Or.inr hproc⟩
    intro _
    exact ⟨hb, Nat.add_pos_right _ hn⟩
  · have hpend : s.lastJobState = .pending := by
      rcases h.state with ⟨hp, -⟩ | hp
      · exact hp
      · exact absurd (h.sound.processing hp).1 hb
    rw [if_neg hb]
    refine ⟨⟨h.sound.lawful.move ?_ nofun, h.sound.id, h.sound.nextId, nofun, nofun, ?_⟩, Or.inr rfl⟩
    · rw [show _ = JobState.pending from hpend]
      decide
    · intro _
      exact ⟨rfl, Nat.add_pos_right _ hn⟩

theorem printing_loop (T : Transport σ) (deadline : Nat) (n : Nat) (ticks : List Tick) (s : Streaming σ)
    (h : s.service.Printing) : (Streaming.loop T deadline n ticks s).service.Printing := by
  induction n generalizing ticks s with
  | zero => exact h
  | succ n ih =>
    unfold Streaming.loop
    split
    · exact h.congr rfl rfl
    dsimp only
    split
    · exact h
    rename_i hne
    split
    · exact h.congr rfl rfl
    · rename_i b hsend
      apply ih
      exact h.sent b.now (List.length_pos_iff.2 (by simpa using hne))

theorem endDocument_service (T : Transport σ) (c : IppClient) (d : Streaming σ) :
    (endDocument T c d).service = { d.service with pendingJob := false } := rfl

/-- The document is given up. -/
theorem Printing.reject {d : Streaming σ} (h : d.service.Printing) :
    ({ d.reject.service with pendingJob := false } : IppPcl3Service).Sound := by
  have hnext : JobState.aborted ∈ d.service.lastJobState.next := by
    rcases h.state with ⟨hp, -⟩ | hp
    · rw [hp]
      decide
    · rw [hp]
      decide
  have hmove := h.sound.move "aborted-by-system" .streamDocument hnext nofun nofun
  unfold Streaming.reject
  generalize d.failure = error
  exact hmove.congr ⟨rfl, rfl, rfl⟩ ⟨rfl, rfl⟩ ⟨rfl, rfl⟩ nofun

theorem sound_takeDocument (T : Transport σ) (c : IppClient) (body : BodyReader) {s : IppPcl3Service}
    (b : UsbPrinterBackend σ) (h : s.Printing) : (takeDocument T c body s b).service.Sound := by
  have hend : (Streaming.stream T c.reads s b body).service.Printing := printing_loop T _ _ _ _ h
  rw [takeDocument, endDocument_service, streamDocument]
  dsimp only
  split
  · exact hend.sound
  · exact hend.reject

/-! ## The operations -/

theorem Sound.refuse {s : IppPcl3Service} (h : s.Sound) (b : UsbPrinterBackend σ) (error : String) (status : Nat) :
    (s.refuse b error status).service.Sound := h.withError error

theorem sound_printJob (T : Transport σ) (rawConnected : Bool) (c : IppClient) (r : IppRequest) {s : IppPcl3Service}
    (b : UsbPrinterBackend σ) (h : s.Sound) : (printJob T rawConnected c r s b).service.Sound := by
  unfold printJob
  split
  · exact h.refuse ..
  split
  · exact h.refuse ..
  split
  · exact h.refuse ..
  split
  · exact h.refuse ..
  · exact sound_takeDocument T c r.body b ⟨h.newJob _ false, Or.inl ⟨rfl, rfl⟩⟩

theorem sound_createJob (r : IppRequest) {s : IppPcl3Service} (b : UsbPrinterBackend σ) (h : s.Sound) :
    (createJob r s b).service.Sound := by
  unfold createJob
  split
  · exact h.refuse ..
  split
  · exact h.refuse ..
  · exact h.newJob _ true

theorem sound_sendDocument (T : Transport σ) (c : IppClient) (r : IppRequest) {s : IppPcl3Service}
    (b : UsbPrinterBackend σ) (h : s.Sound) : (sendDocument T c r s b).service.Sound := by
  unfold sendDocument
  split
  · exact h.refuse ..
  rename_i hpending
  split
  · exact h.refuse ..
  split
  · exact h.refuse ..
  split
  · exact h.refuse ..
  · have hp : s.pendingJob = true := by
      simp only [Bool.or_eq_true, not_or, Bool.not_eq_true', Bool.not_eq_false] at hpending
      exact hpending.1
    obtain ⟨hst, hbytes⟩ := h.pending hp
    apply sound_takeDocument T c r.body b
    refine ⟨h.congr ⟨rfl, rfl, rfl⟩ ⟨rfl, rfl⟩ ⟨(h.begun hst).symm, hbytes.symm⟩ nofun, Or.inl ⟨hst, rfl⟩⟩

theorem sound_cancelJob (r : IppRequest) {s : IppPcl3Service} (b : UsbPrinterBackend σ) (h : s.Sound) :
    (cancelJob r s b).service.Sound := by
  unfold cancelJob
  split
  · exact h
  · rename_i ha
    refine h.move _ _ ?_ nofun nofun
    unfold refusesCancel at ha
    split at ha
    · cases ha
    split at ha
    · cases ha
    rename_i hid
    split at ha
    · cases ha
    rename_i hover
    have hno : s.lastJobState ≠ .none := h.state_ne_none (by simp at hid; exact hid.1)
    cases hst : s.lastJobState <;> simp_all [JobState.next]

theorem sound_closeJob {s : IppPcl3Service} (b : UsbPrinterBackend σ) (h : s.Sound) : (closeJob s b).service.Sound := by
  unfold closeJob
  split
  · exact h
  dsimp only
  split
  · rename_i hp
    have hnext : JobState.completed ∈ s.lastJobState.next := by
      rw [(h.pending hp).1]
      decide
    exact (h.move "job-completed-successfully" .closeJob hnext nofun nofun).congr
      ⟨rfl, rfl, rfl⟩ ⟨rfl, rfl⟩ ⟨rfl, rfl⟩ nofun
  · exact h

theorem sound_getJobAttributes (r : IppRequest) {s : IppPcl3Service} (b : UsbPrinterBackend σ) (h : s.Sound) :
    (getJobAttributes r s b).service.Sound := by
  have hr := sound_refreshJobState h b
  unfold getJobAttributes
  dsimp only
  split
  · exact hr
  split
  · exact hr
  · exact hr

/-- **Every operation** keeps the job's fields in agreement. -/
theorem sound_operation (T : Transport σ) (rawConnected : Bool) (c : IppClient) (r : IppRequest) {s : IppPcl3Service}
    (b : UsbPrinterBackend σ) (h : s.Sound) : (operation T rawConnected c r s b).service.Sound := by
  unfold operation
  split
  · exact h
  · exact h
  · exact sound_printJob T rawConnected c r b h
  · exact sound_createJob r b h
  · exact sound_sendDocument T c r b h
  · exact sound_cancelJob r b h
  · exact sound_closeJob b h
  · exact sound_getJobAttributes r b h
  · exact sound_getJobAttributes r b h
  · exact h

theorem sound_poll (T : Transport σ) (rawConnected : Bool) (client : Option IppClient) {s : IppPcl3Service}
    (b : UsbPrinterBackend σ) (h : s.Sound) : (s.poll T rawConnected client b).1.Sound := by
  unfold poll
  split
  · exact h
  have hseen := sound_trackPrinterState (sound_refreshJobState h b) b
  cases client with
  | none => exact hseen
  | some c =>
    dsimp only
    generalize (s.refreshJobState b).trackPrinterState b = s at hseen
    have hfresh := sound_refreshJobState (hseen.withError "") b
    unfold handleClient
    dsimp only
    cases parse c.client with
    | dropped error => exact hfresh.withError error
    | malformed version requestId => exact hfresh.withError _
    | request r => exact sound_operation T rawConnected c r _ hfresh

theorem sound_begin (now : Nat) (buffer : Bool) : (({} : IppPcl3Service).begin now buffer).Sound := by
  have h : ({} : IppPcl3Service).Sound := ⟨.nothing, rfl, rfl, nofun, nofun, nofun⟩
  unfold begin
  split
  · exact h
  split
  · exact h.congr ⟨rfl, rfl, rfl⟩ ⟨rfl, rfl⟩ ⟨rfl, rfl⟩ fun hp => hp
  · exact h.congr ⟨rfl, rfl, rfl⟩ ⟨rfl, rfl⟩ ⟨rfl, rfl⟩ fun hp => hp

/-! ## Runs of the service -/

/-- One poll, with the backend and the RAW server as they are by then. -/
structure Visit (σ : Type) where
  client : Option IppClient
  rawConnected : Bool
  backend : UsbPrinterBackend σ

def visit (T : Transport σ) (s : IppPcl3Service) (v : Visit σ) : IppPcl3Service :=
  (s.poll T v.rawConnected v.client v.backend).1

def visits (T : Transport σ) (s : IppPcl3Service) (vs : List (Visit σ)) : IppPcl3Service := vs.foldl (visit T) s

theorem sound_visits (T : Transport σ) (vs : List (Visit σ)) {s : IppPcl3Service} (h : s.Sound) : (s.visits T vs).Sound := by
  induction vs generalizing s with
  | nil => exact h
  | cons v vs ih => exact ih (sound_poll T v.rawConnected v.client v.backend h)

/-- **The job state machine is sound**, after every row of polls and requests, whatever they ask for
and whatever the backend does in between. -/
theorem visits_sound (T : Transport σ) (now : Nat) (buffer : Bool) (vs : List (Visit σ)) (s : IppPcl3Service)
    (hs : s = (({} : IppPcl3Service).begin now buffer).visits T vs) (hlt : s.serial < 2 ^ 32) :
    s.lastJobId.toNat = s.serial ∧ (allocated s.moves).Pairwise (· > ·) ∧ (allocated s.moves).headD 0 = s.serial ∧
      (∀ job, (statesOf job s.moves).IsChain (fun new old => new ∈ old.next) ∧
        (statesOf job s.moves = [] ∨ (statesOf job s.moves).getLast? = some .pending)) ∧
      (s.lastJobId ≠ 0 → (statesOf s.serial s.moves).head? = some s.lastJobState) ∧
      (s.pendingJob = true →
        s.lastJobId ≠ 0 ∧ s.lastJobState = .pending ∧ s.jobStartedProcessing = false ∧ s.lastJobBytes = 0) ∧
      (s.lastJobState = .processing → s.jobStartedProcessing = true ∧ 0 < s.lastJobBytes) := by
  have h : s.Sound := by
    rw [hs]
    exact sound_visits T vs (sound_begin now buffer)
  have hid : s.lastJobId.toNat = s.serial := by
    rw [h.id, UInt32.toNat_ofNat']
    exact Nat.mod_eq_of_lt hlt
  have hzero : s.lastJobId = 0 → s.serial = 0 := by
    intro h0
    rw [← hid, h0]
    rfl
  refine ⟨hid, ?_, ?_, h.lawful.chain, ?_, ?_, h.processing⟩
  · rw [h.lawful.allocated_eq, List.pairwise_reverse, List.pairwise_map]
    exact List.pairwise_lt_range.imp fun hlt => Nat.succ_lt_succ hlt
  · rw [h.lawful.allocated_eq]
    cases s.serial with
    | zero => rfl
    | succ n => simp [List.range_succ]
  · intro hne
    apply h.lawful.statesOf_head
    intro h0
    apply hne
    rw [h.id, h0]
    rfl
  · intro hp
    obtain ⟨hst, hbytes⟩ := h.pending hp
    refine ⟨?_, hst, h.begun hst, hbytes⟩
    intro h0
    rw [h.lawful.none_iff.2 (hzero h0)] at hst
    cases hst

/-- A request without attributes, on an idle printer. -/
def plainVisit (op : UInt8) : Visit Unit :=
  let bytes := ascii "POST /ipp/print HTTP/1.1\r\nContent-Length: 9\r\n\r\n" ++ [2, 0, 0, op, 0, 0, 0, 1, 0x03]
  { client := some { client := { incoming := WiFiClient.unread bytes [], closed := true } }, rawConnected := false
    backend := { UsbPrinterBackend.begin .enumeratedPrinter () 0 with state := .idle } }

/-- Create-Job and Close-Job, and then another job. -/
def threeVisits : List (Visit Unit) := [plainVisit 0x05, plainVisit 0x3B, plainVisit 0x05]

theorem visits_sound_three :
    let s := (({} : IppPcl3Service).begin 0 true).visits .immediate threeVisits
    statesOf 1 s.moves = [.completed, .pending] ∧ s.pendingJob = true ∧ s.lastJobId.toNat = 2 ∧ s.lastJobBytes = 0 := by
  have heval : (({} : IppPcl3Service).begin 0 true |>.visits .immediate threeVisits).serial = 2 ∧
      statesOf 1 (({} : IppPcl3Service).begin 0 true |>.visits .immediate threeVisits).moves = [.completed, .pending] ∧
      (({} : IppPcl3Service).begin 0 true |>.visits .immediate threeVisits).pendingJob = true := by decide +kernel
  obtain ⟨hserial, hstates, hpending⟩ := heval
  obtain ⟨hid, -, -, -, -, hp, -⟩ := visits_sound .immediate 0 true threeVisits _ rfl (by rw [hserial]; decide)
  exact ⟨hstates, hpending, hid.trans hserial, (hp hpending).2.2.2⟩

end IppPcl3Service
end PrintServer
