import PrintServer.Drain
/-!
# The job counters (usb_printer_backend.cpp:193-204, 494-577, 628-711)

Every episode that a `sendDirect` begins should end in one of the two counters. `Balanced` says so.
Two calls break it: a drain that ends because the printer was not selected in time counts nothing
(:548), and `abortRawJob` counts a failed job in every state but `ERROR`, although `poll` may have
left `ERROR` since the job was counted. `balanced_call` is about one call, `jobs_counted_iff` about
whole runs.
-/
namespace PrintServer

namespace UsbPrinterBackend
variable {σ : Type}

/-- Every episode was counted, or is still printing. -/
def Balanced (b : UsbPrinterBackend σ) : Prop :=
  b.jobsCompleted.toNat + b.jobsFailed.toNat + (if b.state = .printing then 1 else 0) = b.history.length

/-- The drain ends here without a count (:536-553). -/
def dropsJob (b : UsbPrinterBackend σ) : Bool :=
  b.drainPending && b.state = .printing && b.usbStatusValid && !b.usbPaperEmpty && !b.usbStatusError &&
    !b.usbStatusSelected && postJobStatusWaitMaxMs ≤ sub32 (millis b.now) b.drainStartedMs

/-- The call counts what it ends. -/
def Counts (b : UsbPrinterBackend σ) : Call → Prop
  | .abortRawJob _ => b.state = .printing ∨ b.state = .error
  | .completeDrainIfReady => b.dropsJob = false
  | _ => True

instance (b : UsbPrinterBackend σ) (c : Call) : Decidable (b.Counts c) :=
  match c with
  | .abortRawJob _ => inferInstanceAs (Decidable (_ ∨ _))
  | .completeDrainIfReady => inferInstanceAs (Decidable (_ = false))
  | .sendDirect .. | .finishRawJob | .followHost | .pass _ => inferInstanceAs (Decidable True)

end UsbPrinterBackend

/-! ## Ledgers -/

namespace Ledger
variable {l l' : Ledger}

def Balanced (l : Ledger) : Prop :=
  l.jobsCompleted.toNat + l.jobsFailed.toNat + (if l.state = .printing then 1 else 0) = l.history.length

theorem toNat_succ {n : UInt32} (h : n.toNat + 1 < 2 ^ 32) : (n + 1).toNat = n.toNat + 1 := by
  rw [UInt32.toNat_add]
  exact Nat.mod_eq_of_lt h

theorem toNat_succ_ne (n : UInt32) : (n + 1).toNat ≠ n.toNat := by
  rw [UInt32.toNat_add]
  have hlt := n.toNat_lt
  show (n.toNat + 1) % 2 ^ 32 ≠ n.toNat
  omega

theorem length_start (l : Ledger) : l.history.length ≤ l.start.history.length := by
  unfold start
  split
  · exact Nat.le_succ _
  · exact Nat.le_refl _

theorem length_abort (l : Ledger) : l.abort.history.length = l.history.length := by
  show (if l.state = .printing then l.history.modifyHead (Episode.close .aborted) else l.history).length = _
  split <;> simp

theorem Balanced.start (h : l.Balanced) : l.start.Balanced := by
  by_cases hs : l.state = .idle
  · rw [start_idle hs]
    unfold Balanced at *
    simp only [hs, reduceCtorEq, if_false, if_true, List.length_cons] at *
    omega
  · rw [Ledger.start, if_neg hs]
    exact h

theorem Balanced.accept (h : l.Balanced) (job : JobKey) (data : Bytes) : (l.accept job data).Balanced := by
  unfold Balanced at *
  simp only [Ledger.accept, List.length_modifyHead]
  exact h

theorem Balanced.flush (h : l.Balanced) (now : Nat) : (l.flush now).Balanced := by
  unfold Balanced at *
  simp only [Ledger.flush, List.length_modifyHead]
  exact h

theorem Balanced.complete (h : l.Balanced) (hp : l.state = .printing) (hlt : l.history.length < 2 ^ 32) (now : Nat) :
    (l.complete now).Balanced := by
  unfold Balanced at *
  simp only [hp, if_true] at h
  have hn := toNat_succ (n := l.jobsCompleted) (by omega)
  simp only [Ledger.complete, Ledger.close, List.length_modifyHead, reduceCtorEq, if_false, hn]
  omega

/-- A drain that stops is balanced exactly when it is counted. -/
theorem balanced_stop (h : l.Balanced) (hp : l.state = .printing) (hlt : l.history.length < 2 ^ 32) {s : PrinterState}
    (hs : s ≠ .printing) (counted : Bool) : (l.stop counted s).Balanced ↔ counted = true := by
  unfold Balanced at *
  simp only [hp, if_true] at h
  have hn := toNat_succ (n := l.jobsFailed) (by omega)
  simp only [Ledger.stop, Ledger.close, List.length_modifyHead, hs, if_false]
  cases counted with
  | true =>
    simp only [if_true, hn, iff_true]
    omega
  | false =>
    simp only [Bool.false_eq_true, if_false, iff_false]
    omega

/-- An abort is balanced exactly when it ends an episode, or finds the failure counted. -/
theorem balanced_abort (h : l.Balanced) (hlt : l.history.length < 2 ^ 32) :
    l.abort.Balanced ↔ l.state = .printing ∨ l.state = .error := by
  have hlen := l.length_abort
  unfold Balanced at *
  rw [hlen]
  simp only [Ledger.abort, reduceCtorEq, if_false]
  by_cases hp : l.state = .printing
  · simp only [hp, if_true] at h
    have hn := toNat_succ (n := l.jobsFailed) (by omega)
    simp only [hp, reduceCtorEq, if_false, hn, true_or, iff_true]
    omega
  · simp only [hp, if_false] at h
    by_cases he : l.state = .error
    · simp only [he, if_true, or_true, iff_true]
      omega
    · have hne := toNat_succ_ne l.jobsFailed
      simp only [he, hp, if_false, or_self, iff_false]
      omega

theorem Balanced.moved (h : l.Balanced) (hp : l.state ≠ .printing) {s : PrinterState} (hs : s ≠ .printing) :
    ({ l with state := s } : Ledger).Balanced := by
  unfold Balanced at *
  simpa [hp, hs] using h

end Ledger

namespace UsbPrinterBackend
variable {σ : Type} {T : Transport σ}

/-! ## One call -/

/-- Which endings of the drain are counted. -/
theorem completeDrainIfReady_counted (b : UsbPrinterBackend σ) :
    (b.dropsJob = false ∧ (b.completeDrainIfReady.ledger = b.ledger ∨
        b.state = .printing ∧ (b.completeDrainIfReady.ledger = b.ledger.complete b.now ∨
          ∃ s, s ≠ .printing ∧ b.completeDrainIfReady.ledger = b.ledger.stop true s))) ∨
      (b.dropsJob = true ∧ b.state = .printing ∧ b.completeDrainIfReady.ledger = b.ledger.stop false .offline) := by
  unfold completeDrainIfReady dropsJob
  by_cases h0 : (!b.drainPending) = true ∨ b.state ≠ .printing
  · rw [if_pos h0]
    refine Or.inl ⟨?_, Or.inl rfl⟩
    rcases h0 with h0 | h0
    · simp at h0
      simp [h0]
    · simp [h0]
  rw [if_neg h0]
  obtain ⟨hd, hp⟩ := not_or.1 h0
  have hd : b.drainPending = true := by simpa using hd
  have hp : b.state = .printing := Classical.not_not.1 hp
  dsimp only
  split
  · rename_i hs
    simp only [Bool.and_eq_true] at hs
    exact Or.inl ⟨by simp [hs.2], Or.inr ⟨hp, Or.inr ⟨.offline, nofun, rfl⟩⟩⟩
  rename_i h1
  split
  · rename_i hs
    simp only [Bool.and_eq_true] at hs
    exact Or.inl ⟨by simp [hs.2], Or.inr ⟨hp, Or.inr ⟨.error, nofun, rfl⟩⟩⟩
  rename_i h2
  split
  · rename_i hs
    simp only [Bool.and_eq_true, Bool.not_eq_true'] at hs
    simp only [hs.1, Bool.true_and, Bool.not_eq_true] at h1 h2
    split
    · rename_i hage
      exact Or.inl ⟨by simp [Nat.not_le_of_lt hage], Or.inl rfl⟩
    · rename_i hage
      exact Or.inr ⟨by simp [hd, hp, hs, h1, h2, Nat.le_of_not_lt hage], hp, rfl⟩
  rename_i h3
  have hno : (b.drainPending && decide (b.state = .printing) && b.usbStatusValid && !b.usbPaperEmpty &&
      !b.usbStatusError && !b.usbStatusSelected &&
      decide (postJobStatusWaitMaxMs ≤ sub32 (millis b.now) b.drainStartedMs)) = false := by
    cases hv : b.usbStatusValid with
    | false => simp
    | true => simp_all
  split
  · exact Or.inl ⟨hno, Or.inl rfl⟩
  split
  · exact Or.inl ⟨hno, Or.inl rfl⟩
  · exact Or.inl ⟨hno, Or.inr ⟨hp, Or.inl rfl⟩⟩

theorem balanced_ledger {b : UsbPrinterBackend σ} {l : Ledger} (h : b.ledger = l) : b.Balanced ↔ l.Balanced := by
  rw [← h]
  rfl

/-- Episodes are only added. -/
theorem length_call (b : UsbPrinterBackend σ) (c : Call) : b.history.length ≤ (b.call T c).history.length := by
  show b.ledger.history.length ≤ (b.call T c).ledger.history.length
  cases c with
  | sendDirect job data =>
    show _ ≤ (b.sendDirect T job data).2.ledger.history.length
    rcases sendDirect_cases T b job data with ⟨-, e⟩ | ⟨-, -, ⟨-, e⟩ | ⟨-, e⟩⟩
    · rw [e]
    · rw [e]
      simpa [Ledger.accept] using b.ledger.length_start
    · rw [e, Ledger.length_abort]
      exact b.ledger.length_start
  | finishRawJob =>
    show _ ≤ (b.finishRawJob T).ledger.history.length
    rcases finishRawJob_cases T b with ⟨-, e⟩ | ⟨-, -, -, e | e⟩
    · rw [e]
    · rw [e]
      simp [Ledger.flush]
    · rw [e, Ledger.length_abort]
  | abortRawJob reason =>
    show _ ≤ (b.abortRawJob reason).ledger.history.length
    rw [ledger_abortRawJob, Ledger.length_abort]
  | completeDrainIfReady =>
    show _ ≤ b.completeDrainIfReady.ledger.history.length
    rcases b.completeDrainIfReady_cases.2.2 with e | ⟨-, -, ⟨-, e⟩ | ⟨-, counted, s, -, -, e⟩⟩
    · rw [e]
    · rw [e]
      simp [Ledger.complete, Ledger.close]
    · rw [e]
      simp [Ledger.stop, Ledger.close]
  | followHost =>
    show _ ≤ b.followHost.ledger.history.length
    obtain ⟨-, -, ⟨-, e⟩ | ⟨-, s, -, e⟩⟩ := b.followHost_cases
    · rw [e]
    · rw [e]
  | pass t => exact Nat.le_refl _

/-- **A call keeps the balance exactly when it counts what it ends.** -/
theorem balanced_call {b : UsbPrinterBackend σ} {c : Call} (h : b.Balanced) (hlt : (b.call T c).history.length < 2 ^ 32) :
    (b.call T c).Balanced ↔ b.Counts c := by
  have hold : b.ledger.history.length < 2 ^ 32 := Nat.lt_of_le_of_lt (length_call b c) hlt
  have hl : b.ledger.Balanced := h
  cases c with
  | sendDirect job data =>
    show (b.sendDirect T job data).2.Balanced ↔ True
    rw [iff_true]
    rcases sendDirect_cases T b job data with ⟨-, e⟩ | ⟨hs, -, ⟨-, e⟩ | ⟨-, e⟩⟩
    · rw [e]
      exact h
    · exact (balanced_ledger e).2 (hl.start.accept job data)
    · refine (balanced_ledger e).2 ((Ledger.balanced_abort hl.start ?_).2 (Or.inl (Ledger.start_state hs)))
      have hlen : (b.sendDirect T job data).2.ledger.history.length < 2 ^ 32 := hlt
      rwa [e, Ledger.length_abort] at hlen
  | finishRawJob =>
    show (b.finishRawJob T).Balanced ↔ True
    rw [iff_true]
    rcases finishRawJob_cases T b with ⟨-, e⟩ | ⟨hp, -, -, e | e⟩
    · rw [e]
      exact h
    · exact (balanced_ledger e).2 (hl.flush _)
    · exact (balanced_ledger e).2 ((Ledger.balanced_abort hl hold).2 (Or.inl hp))
  | abortRawJob reason =>
    rw [show b.call T (.abortRawJob reason) = b.abortRawJob reason from rfl,
      balanced_ledger (ledger_abortRawJob b reason)]
    exact Ledger.balanced_abort hl hold
  | completeDrainIfReady =>
    show b.completeDrainIfReady.Balanced ↔ b.dropsJob = false
    rcases b.completeDrainIfReady_counted with ⟨hd, e | ⟨hp, e | ⟨s, hs, e⟩⟩⟩ | ⟨hd, hp, e⟩
    · rw [balanced_ledger e]
      exact ⟨fun _ => hd, fun _ => hl⟩
    · rw [balanced_ledger e]
      exact ⟨fun _ => hd, fun _ => hl.complete hp hold _⟩
    · rw [balanced_ledger e, Ledger.balanced_stop hl hp hold hs]
      exact ⟨fun _ => hd, fun _ => rfl⟩
    · rw [balanced_ledger e, Ledger.balanced_stop hl hp hold (by decide : PrinterState.offline ≠ .printing), hd]
      exact ⟨nofun, nofun⟩
  | followHost =>
    show b.followHost.Balanced ↔ True
    rw [iff_true]
    obtain ⟨-, -, ⟨-, e⟩ | ⟨hp, s, hs, e⟩⟩ := b.followHost_cases
    · rw [e]
      exact h
    · exact (balanced_ledger e).2 (hl.moved hp hs)
  | pass t => exact ⟨fun _ => trivial, fun _ => h⟩

/-! ## Runs -/

theorem length_run {calls : List Call} {b b' : UsbPrinterBackend σ} (hr : Lib.run (step T) b calls = some b') :
    b.history.length ≤ b'.history.length := by
  induction calls generalizing b with
  | nil =>
    cases hr
    exact Nat.le_refl _
  | cons c calls ih =>
    obtain ⟨m, hm, hr⟩ := Lib.run_cons hr
    obtain rfl : b.call T c = m := Option.some.inj hm
    exact (length_call b c).trans (ih hr)

theorem balanced_run {calls : List Call} {b b' : UsbPrinterBackend σ} (h : b.Balanced)
    (hr : Lib.run (step T) b calls = some b') (hlt : b'.history.length < 2 ^ 32) :
    (∀ pre, pre <+: calls → ∀ m, Lib.run (step T) b pre = some m → m.Balanced) ↔ Lib.Meets (step T) Counts b calls := by
  induction calls generalizing b with
  | nil =>
    constructor
    · intro _
      trivial
    · intro _ pre hpre m hm
      rw [List.prefix_nil.1 hpre] at hm
      cases hm
      exact h
  | cons c calls ih =>
    obtain ⟨m, hm, hr⟩ := Lib.run_cons hr
    obtain rfl : b.call T c = m := Option.some.inj hm
    have hcall := balanced_call (T := T) (c := c) h (Nat.lt_of_le_of_lt (length_run hr) hlt)
    constructor
    · intro hall
      have hnext : (b.call T c).Balanced := hall [c] ⟨calls, rfl⟩ _ rfl
      refine ⟨hcall.1 hnext, ?_⟩
      intro s' hs'
      obtain rfl : b.call T c = s' := Option.some.inj hs'
      refine (ih hnext hr).1 ?_
      intro pre hpre m hm
      exact hall (c :: pre) (List.cons_prefix_cons.2 ⟨rfl, hpre⟩) m hm
    · rintro ⟨hc, hrest⟩ pre hpre m hpm
      cases pre with
      | nil =>
        cases hpm
        exact h
      | cons d pre =>
        obtain ⟨rfl, hpre'⟩ := List.cons_prefix_cons.1 hpre
        have hnext := hcall.2 hc
        exact (ih hnext hr).2 (hrest _ rfl) pre hpre' m hpm

/-- **Every started job is counted exactly once**, all along a run, exactly when every call of the
run counts what it ends. -/
theorem jobs_counted_iff (T : Transport σ) (host : UsbHostManager) (link : σ) (now : Nat) {calls : List Call}
    {b : UsbPrinterBackend σ} (hr : Lib.run (step T) (begin host link now) calls = some b)
    (hlt : b.history.length < 2 ^ 32) :
    (∀ pre, pre <+: calls → ∀ m, Lib.run (step T) (begin host link now) pre = some m →
      m.jobsCompleted.toNat + m.jobsFailed.toNat + (if m.state = .printing then 1 else 0) = m.history.length) ↔
        Lib.Meets (step T) Counts (begin host link now) calls :=
  balanced_run (b := begin host link now) rfl hr hlt

theorem jobs_counted_rawJob :
    ∃ b, Lib.run (step .immediate) (begin .enumeratedPrinter () 0) rawJob = some b ∧ b.history.length = 1 ∧
      b.jobsCompleted.toNat + b.jobsFailed.toNat + (if b.state = .printing then 1 else 0) = 1 := by
  have hc : Lib.Meets (step .immediate) Counts (begin .enumeratedPrinter () 0) rawJob := by decide +kernel
  have hr : (Lib.run (step .immediate) (begin .enumeratedPrinter () 0) rawJob).map (·.history.length) = some 1 := by
    decide +kernel
  obtain ⟨b, hb, hn⟩ := Option.map_eq_some_iff.1 hr
  have hall := (jobs_counted_iff .immediate .enumeratedPrinter () 0 hb (by rw [hn]; decide)).2 hc
  refine ⟨b, hb, hn, ?_⟩
  rw [hall rawJob (List.prefix_refl _) b hb, hn]

/-- A job that the printer, no longer selected, does not confirm in time. -/
def notSelected : List Call :=
  [.followHost, .sendDirect (.raw 1) [66], .finishRawJob,
    .pass { ms := 10000, events := [.portStatusTransfer true 0x08 ""] }, .completeDrainIfReady]

theorem notSelected_uncounted :
    ¬ ∀ (calls : List Call) (b : UsbPrinterBackend Unit),
      Lib.run (step .immediate) (begin .enumeratedPrinter () 0) calls = some b → b.history.length < 2 ^ 32 →
        b.jobsCompleted.toNat + b.jobsFailed.toNat + (if b.state = .printing then 1 else 0) = b.history.length := by
  intro h
  have hr : (Lib.run (step .immediate) (begin .enumeratedPrinter () 0) notSelected).map (fun b =>
      (b.history.length, b.jobsCompleted, b.jobsFailed, b.state)) = some (1, 0, 0, .offline) := by decide +kernel
  obtain ⟨b, hb, he⟩ := Option.map_eq_some_iff.1 hr
  simp only [Prod.mk.injEq] at he
  obtain ⟨h1, h2, h3, h4⟩ := he
  have hall := h notSelected b hb (by rw [h1]; decide)
  rw [h1, h2, h3, h4] at hall
  exact absurd hall (by decide)

end UsbPrinterBackend
end PrintServer
