import PrintServer.Backend
/-!
# The ledger: what the backend's calls do to print episodes

A backend holds a `Ledger`: its state, the drain timer, the episodes and the two counters. Each
call changes it by at most one of six moves (after a `start`, for `sendDirect`); the lemmas of
the last section say which. Everything about whole runs is proved of ledgers.
-/
namespace PrintServer

structure Ledger where
  state : PrinterState
  drainPending : Bool
  drainStartedMs : Nat
  history : List Episode
  jobsCompleted : UInt32
  jobsFailed : UInt32

namespace Ledger

/-- A job begins: a new episode. -/
def start (l : Ledger) : Ledger :=
  if l.state = .idle then { l with state := .printing, drainPending := false, history := {} :: l.history } else l

def accept (l : Ledger) (job : JobKey) (data : Bytes) : Ledger :=
  { l with history := l.history.modifyHead (Episode.accept job data) }

/-- Every accepted byte was flushed: the drain timer runs. -/
def flush (l : Ledger) (now : Nat) : Ledger :=
  { l with
    drainPending := true, drainStartedMs := millis now
    history := l.history.modifyHead (Episode.flush now) }

/-- Leave `PRINTING` for `s`. -/
def close (l : Ledger) (how : JobEnding) (s : PrinterState) : Ledger :=
  { l with drainPending := false, state := s, history := l.history.modifyHead (Episode.close how) }

def complete (l : Ledger) (now : Nat) : Ledger :=
  { l.close (.completed now) .idle with jobsCompleted := l.jobsCompleted + 1 }

/-- The drain ends without success; only some of these endings count as a failed job. -/
def stop (l : Ledger) (counted : Bool) (s : PrinterState) : Ledger :=
  { l.close .stopped s with jobsFailed := if counted then l.jobsFailed + 1 else l.jobsFailed }

def abort (l : Ledger) : Ledger :=
  { l with
    drainPending := false, state := .error
    history := if l.state = .printing then l.history.modifyHead (Episode.close .aborted) else l.history
    jobsFailed := if l.state = .error then l.jobsFailed else l.jobsFailed + 1 }

theorem start_idle {l : Ledger} (h : l.state = .idle) :
    l.start = { l with state := .printing, drainPending := false, history := {} :: l.history } := by
  simp only [start, h, if_true]

theorem start_printing {l : Ledger} (h : l.state = .printing) : l.start = l := by
  simp [start, h]

/-- A job can only start from `IDLE` or go on in `PRINTING`. -/
theorem start_state {l : Ledger} (h : l.state = .idle ∨ l.state = .printing) : l.start.state = .printing := by
  rcases h with h | h
  · rw [start_idle h]
  · rw [start_printing h, h]

end Ledger

/-! ## What each call does -/

namespace UsbPrinterBackend
variable {σ : Type}

def ledger (b : UsbPrinterBackend σ) : Ledger :=
  ⟨b.state, b.drainPending, b.drainStartedMs, b.history, b.jobsCompleted, b.jobsFailed⟩

@[simp] theorem ledger_pass (b : UsbPrinterBackend σ) (t : Tick) : (b.pass t).ledger = b.ledger := rfl

@[simp] theorem ledger_after (b : UsbPrinterBackend σ) (a : Answer σ) : (b.after a).ledger = b.ledger := rfl

theorem now_le_after (b : UsbPrinterBackend σ) (a : Answer σ) : b.now ≤ (b.after a).now := Nat.le_add_right _ _

@[simp] theorem ledger_abortRawJob (b : UsbPrinterBackend σ) (reason : String) :
    (b.abortRawJob reason).ledger = b.ledger.abort := by
  unfold abortRawJob
  by_cases hp : b.state = .printing
  · simp [hp, ledger, record, Ledger.abort]
  · by_cases he : b.state = .error
    · simp [he, ledger, Ledger.abort]
    · simp [hp, he, ledger, Ledger.abort]

@[simp] theorem now_abortRawJob (b : UsbPrinterBackend σ) (reason : String) :
    (b.abortRawJob reason).now = b.now := by
  unfold abortRawJob
  by_cases hp : b.state = .printing
  · simp [hp, record]
  · by_cases he : b.state = .error <;> simp [hp, he]

theorem ledger_startJob (T : Transport σ) (b : UsbPrinterBackend σ) : (b.startJob T).ledger = b.ledger.start := by
  unfold startJob
  split
  · rename_i h
    rw [Ledger.start_idle h]
    rfl
  · rename_i h
    simp only [Ledger.start, ledger, h, if_false]

theorem now_le_startJob (T : Transport σ) (b : UsbPrinterBackend σ) : b.now ≤ (b.startJob T).now := by
  unfold startJob
  split
  · exact Nat.le_add_right _ _
  · exact Nat.le_refl _

theorem offer_frame (T : Transport σ) (b : UsbPrinterBackend σ) (data : Bytes) :
    (offer T b data).2.ledger = b.ledger ∧ b.now ≤ (offer T b data).2.now := by
  unfold offer
  split <;> exact ⟨rfl, Nat.le_add_right _ _⟩

/-- The three attempts end with the block accepted, or with the job aborted. -/
theorem sendLoop_cases (T : Transport σ) (job : JobKey) (data : Bytes) :
    ∀ (n : Nat) (error : String) (b : UsbPrinterBackend σ), b.now ≤ (sendLoop T job data n error b).2.now ∧
      (((sendLoop T job data n error b).1 = none ∧
          (sendLoop T job data n error b).2.ledger = b.ledger.accept job data) ∨
        ((sendLoop T job data n error b).1 ≠ none ∧
          (sendLoop T job data n error b).2.ledger = b.ledger.abort))
  | 0, error, b => by simp [sendLoop]
  | n + 1, error, b => by
    obtain ⟨hl, hn⟩ := offer_frame T b data
    simp only [sendLoop]
    cases h : offer T b data with
    | mk r m =>
      rw [h] at hl hn
      cases r with
      | none => exact ⟨hn, Or.inl ⟨rfl, by rw [← hl]; rfl⟩⟩
      | some e =>
        obtain ⟨hn', hc⟩ := sendLoop_cases T job data n e { m with now := m.now + 100 }
        have hm : ({ m with now := m.now + 100 } : UsbPrinterBackend σ).ledger = b.ledger := hl
        rw [hm] at hc
        refine ⟨Nat.le_trans (Nat.le_trans hn ?_) hn', hc⟩
        exact Nat.le_add_right _ _

/-- `sendDirect` refuses and changes nothing, or starts the job if need be and then accepts the
block or aborts. -/
theorem sendDirect_cases (T : Transport σ) (b : UsbPrinterBackend σ) (job : JobKey) (data : Bytes) :
    ((b.sendDirect T job data).1 ≠ none ∧ (b.sendDirect T job data).2 = b) ∨
    ((b.state = .idle ∨ b.state = .printing) ∧ b.now ≤ (b.sendDirect T job data).2.now ∧
      (((b.sendDirect T job data).1 = none ∧
          (b.sendDirect T job data).2.ledger = b.ledger.start.accept job data) ∨
        ((b.sendDirect T job data).1 ≠ none ∧
          (b.sendDirect T job data).2.ledger = b.ledger.start.abort))) := by
  unfold sendDirect
  by_cases h1 : data.isEmpty = true
  · exact Or.inl (by simp [h1])
  by_cases h2 : (!b.host.selectedInterfaceUsable) = true
  · exact Or.inl (by simp only [h1, h2]; simp)
  by_cases h3 : b.state ≠ .idle ∧ b.state ≠ .printing
  · refine Or.inl ?_
    simp only [h1, h2, if_pos h3]
    simp
  · simp only [h1, h2, if_neg h3]
    obtain ⟨hn, hc⟩ := sendLoop_cases T job data 3 "" (b.startJob T)
    rw [ledger_startJob] at hc
    refine Or.inr ⟨?_, Nat.le_trans (now_le_startJob T b) hn, hc⟩
    by_cases hi : b.state = .idle
    · exact Or.inl hi
    · exact Or.inr (Classical.not_not.1 fun hp => h3 ⟨hi, hp⟩)

theorem now_le_sendDirect (T : Transport σ) (b : UsbPrinterBackend σ) (job : JobKey) (data : Bytes) :
    b.now ≤ (b.sendDirect T job data).2.now := by
  rcases b.sendDirect_cases T job data with ⟨_, h⟩ | ⟨_, h, _⟩
  · exact Nat.le_of_eq (congrArg UsbPrinterBackend.now h).symm
  · exact h

/-- `finishRawJob` does nothing unless a job prints and its drain has not begun; then it flushes
or aborts. -/
theorem finishRawJob_cases (T : Transport σ) (b : UsbPrinterBackend σ) :
    ((b.state ≠ .printing ∨ b.drainPending = true) ∧ b.finishRawJob T = b) ∨
    (b.state = .printing ∧ b.drainPending = false ∧ b.now ≤ (b.finishRawJob T).now ∧
      ((b.finishRawJob T).ledger = b.ledger.flush (b.finishRawJob T).now ∨
        (b.finishRawJob T).ledger = b.ledger.abort)) := by
  unfold finishRawJob
  by_cases h : b.state ≠ .printing ∨ b.drainPending = true
  · exact Or.inl ⟨h, by rw [if_pos h]⟩
  · obtain ⟨hp, hd⟩ := not_or.1 h
    rw [if_neg h]
    refine Or.inr ⟨Classical.not_not.1 hp, by simpa using hd, ?_⟩
    simp only
    generalize (if T.ready b.link then T.flush b.link else T.waitForBulkOut b.link) = a
    by_cases ho : a.ok = true
    · rw [if_neg (by simp [ho])]
      exact ⟨Nat.le_add_right _ _, Or.inl rfl⟩
    · rw [if_pos (by simpa using ho)]
      refine ⟨by simpa using now_le_after b a, Or.inr ?_⟩
      rw [ledger_abortRawJob, ledger_after]

theorem now_le_finishRawJob (T : Transport σ) (b : UsbPrinterBackend σ) : b.now ≤ (b.finishRawJob T).now := by
  rcases b.finishRawJob_cases T with ⟨_, h⟩ | ⟨_, _, h, _⟩
  · exact Nat.le_of_eq (congrArg UsbPrinterBackend.now h).symm
  · exact h

/-- `completeDrainIfReady` waits, or ends the episode it drains; it counts the job as completed
only when the guard time has passed, and stops it only when the port status is not ready. -/
theorem completeDrainIfReady_cases (b : UsbPrinterBackend σ) :
    b.completeDrainIfReady.now = b.now ∧ b.completeDrainIfReady.host = b.host ∧
    (b.completeDrainIfReady.ledger = b.ledger ∨
      (b.state = .printing ∧ b.drainPending = true ∧
        ((postJobMinGuardMs ≤ sub32 (millis b.now) b.drainStartedMs ∧
            b.completeDrainIfReady.ledger = b.ledger.complete b.now) ∨
          (b.statusSaysReady = false ∧
            ∃ counted s, s ≠ .printing ∧ s ≠ .idle ∧ b.completeDrainIfReady.ledger = b.ledger.stop counted s)))) := by
  unfold completeDrainIfReady
  by_cases h0 : (!b.drainPending) = true ∨ b.state ≠ .printing
  · rw [if_pos h0]
    exact ⟨rfl, rfl, Or.inl rfl⟩
  rw [if_neg h0]
  have hp : b.state = .printing := Classical.not_not.1 (not_or.1 h0).2
  have hd : b.drainPending = true := by simpa using (not_or.1 h0).1
  simp only
  split
  · rename_i hs
    have hno : b.statusSaysReady = false := by
      rw [Bool.and_eq_true] at hs
      simp [statusSaysReady, hs]
    exact ⟨rfl, rfl, Or.inr ⟨hp, hd, Or.inr ⟨hno, true, .offline, by simp, by simp, rfl⟩⟩⟩
  split
  · rename_i hs
    have hno : b.statusSaysReady = false := by
      rw [Bool.and_eq_true] at hs
      simp [statusSaysReady, hs]
    exact ⟨rfl, rfl, Or.inr ⟨hp, hd, Or.inr ⟨hno, true, .error, by simp, by simp, rfl⟩⟩⟩
  split
  · rename_i hs
    have hno : b.statusSaysReady = false := by
      rw [Bool.and_eq_true, Bool.not_eq_true'] at hs
      simp [statusSaysReady, hs]
    split
    · exact ⟨rfl, rfl, Or.inl rfl⟩
    · exact ⟨rfl, rfl, Or.inr ⟨hp, hd, Or.inr ⟨hno, false, .offline, by simp, by simp, rfl⟩⟩⟩
  split
  · exact ⟨rfl, rfl, Or.inl rfl⟩
  rename_i hg
  split
  · exact ⟨rfl, rfl, Or.inl rfl⟩
  · exact ⟨rfl, rfl, Or.inr ⟨hp, hd, Or.inl ⟨Nat.le_of_not_lt hg, rfl⟩⟩⟩

/-- `followHost` leaves a printing backend alone, and never makes one. -/
theorem followHost_cases (b : UsbPrinterBackend σ) :
    b.followHost.now = b.now ∧ b.followHost.host = b.host ∧
    ((b.state = .printing ∧ b.followHost = b) ∨
      (b.state ≠ .printing ∧ ∃ s, s ≠ .printing ∧ b.followHost.ledger = { b.ledger with state := s })) := by
  unfold followHost
  by_cases hp : b.state = .printing
  · rw [if_pos hp]
    exact ⟨rfl, rfl, Or.inl ⟨hp, rfl⟩⟩
  rw [if_neg hp]
  split
  · split
    · exact ⟨rfl, rfl, Or.inr ⟨hp, .error, by simp, rfl⟩⟩
    split
    · refine ⟨rfl, rfl, Or.inr ⟨hp, (if b.usbStatusError then .error else .offline), ?_, rfl⟩⟩
      split <;> simp
    · exact ⟨rfl, rfl, Or.inr ⟨hp, .idle, by simp, rfl⟩⟩
  · exact ⟨rfl, rfl, Or.inr ⟨hp, .offline, by simp, rfl⟩⟩
  · exact ⟨rfl, rfl, Or.inr ⟨hp, .offline, by simp, rfl⟩⟩
  · exact ⟨rfl, rfl, Or.inr ⟨hp, .error, by simp, rfl⟩⟩
  · exact ⟨rfl, rfl, Or.inr ⟨hp, .offline, by simp, rfl⟩⟩

end UsbPrinterBackend
end PrintServer
