import PrintServer.StreamRing
/-!
# No wake-up is lost (usb_stream.cpp:83-130, 155-212)

`push` queues a block piece by piece and gives `wake_` once, at its end; on a failure not at all. So
the writer may fall asleep over bytes of a block that is still being pushed. `WakeInv` says that the
rest of the block then fits, as long as no block is longer than the ring: the writer has seen
the ring empty after the block was begun. None of this needs the indices to be right: it also holds
behind a `reset` that overtook `copyOut`.

| here | there |
| --- | --- |
| `blocked` | `xSemaphoreTake(wake_, portMAX_DELAY)` (:158, :168) |
| `waiting` | the loops of `push` (:105-113) and of `flush` (:192-209) |
-/
namespace PrintServer

/-- How much of its block `push` has still to queue before it gives `wake_`. -/
def Producer.pending : Producer → Option Nat
  | pushCheck data | pushLook data | pushCopy data _ _ | pushPublish data _ _ => some data.length
  | pushGive => some 0
  | _ => none

/-- A push that looks for space has something left to queue. -/
def Producer.Left : Producer → Prop
  | pushCheck data | pushLook data => 0 < data.length
  | _ => True

/-- `copyOut` has found the ring empty, or `failed_` is set: the next thing is to wait. -/
def Writer.asleep : Writer → Bool
  | empty | park => true
  | _ => false

namespace UsbStream

/-- The writer waits, and there is no token. -/
def blocked (s : UsbStream) : Bool := s.writer = .park && !s.wake

/-- The loop task waits for space, or for the ring to empty. -/
def waiting (s : UsbStream) : Bool :=
  match s.producer with
  | .pushCheck _ | .pushLook _ => s.space = 0
  | .pushTimeout | .flushCheck | .flushLook | .flushBusy _ => true
  | _ => false

/-- A block that is pushed fits into the ring. -/
def Fits (s : UsbStream) : StreamAct → Prop
  | .push data => data.length ≤ s.capacity
  | _ => True

instance (s : UsbStream) (a : StreamAct) : Decidable (s.Fits a) :=
  match a with
  | .push _ => inferInstanceAs (Decidable (_ ≤ _))
  | .flush | .reset | .producer _ | .drained _ | .writer _ => inferInstanceAs (Decidable True)

/-- Only a token can get the writer going. -/
def Quiet (s : UsbStream) : Prop := s.failed = false ∧ s.wake = false ∧ s.writer.asleep = true

/-- The ring is empty, and the loop task is outside its calls or at the end of `reset`. The writer may be anywhere. -/
structure Cleared (s : UsbStream) : Prop where
  capacity_lt : s.capacity < 2 ^ 32
  used : s.used = 0
  producer : s.producer = .resetUnfail ∨ ∃ ok, s.producer = .idle ok

/-- `begin` starts with a cleared ring. -/
theorem cleared_begin {capacity : Nat} (h : capacity < 2 ^ 32) : Cleared (begin capacity) :=
  ⟨h, rfl, Or.inr ⟨true, rfl⟩⟩

/-- So does what follows a `reset`, whatever came before it. -/
theorem cleared_reset {s s' : UsbStream} {late : Bool} (h : s.capacity < 2 ^ 32) (hp : s.producer = .resetClear)
    (hs : s.step (.producer late) = some s') : Cleared s' := by
  simp only [step, producerStep, hp] at hs
  cases hs
  exact ⟨h, rfl, Or.inl rfl⟩

structure WakeInv (s : UsbStream) : Prop where
  capacity_lt : s.capacity < 2 ^ 32
  left : s.producer.Left
  small : ∀ m, s.producer.pending = some m → m ≤ s.capacity
  /-- The token of `reset` is still to come. -/
  outside : s.Quiet → s.producer.pending = none → s.used = 0 ∨ s.producer = .resetGive
  inside : s.Quiet → ∀ m, s.producer.pending = some m → s.used + m ≤ s.capacity

namespace WakeInv
variable {s : UsbStream}

theorem cleared (h : Cleared s) : WakeInv s where
  capacity_lt := h.capacity_lt
  left := by rcases h.producer with hp | ⟨ok, hp⟩ <;> rw [hp] <;> trivial
  small := by
    intro m hm
    rcases h.producer with hp | ⟨ok, hp⟩ <;> rw [hp] at hm <;> cases hm
  outside := fun _ _ => Or.inl h.used
  inside := by
    intro _ m hm
    rcases h.producer with hp | ⟨ok, hp⟩ <;> rw [hp] at hm <;> cases hm

/-- The loop task moves on inside its call, or outside. -/
theorem go (h : WakeInv s) {p : Producer} (hp : p.pending = s.producer.pending) (hl : p.Left)
    (hg : s.producer ≠ .resetGive) {mem : Nat → UInt8} {error : String} :
    WakeInv { s with producer := p, mem, error } where
  capacity_lt := h.capacity_lt
  left := hl
  small := fun m hm => h.small m (hp.symm.trans hm)
  outside := fun hq hn => Or.inl ((h.outside hq (hp.symm.trans hn)).resolve_right hg)
  inside := fun hq m hm => h.inside hq m (hp.symm.trans hm)

/-- It leaves its call with the writer awake, or bound to wake up. -/
theorem leave (hc : s.capacity < 2 ^ 32) (h : ¬ s.Quiet) (hp : s.producer.pending = none) (hl : s.producer.Left) :
    WakeInv s where
  capacity_lt := hc
  left := hl
  small := fun m hm => (by cases hp.symm.trans hm)
  outside := fun hq => absurd hq h
  inside := fun hq => absurd hq h

/-- The writer is awake after its step. -/
theorem up (h : WakeInv s) {w : Writer} (hw : w.asleep = false) {tail used : Nat} {busy failed wake : Bool}
    {error : String} {taken : Bytes} {submitted : List (Nat × Bytes)} {returned : List (Bytes × Bool)}
    {failedBy : Option Nat} :
    WakeInv { s with writer := w, tail, used, busy, failed, wake, error, taken, submitted, returned, failedBy } where
  capacity_lt := h.capacity_lt
  left := h.left
  small := h.small
  outside := fun hq => (by cases hq.2.2.symm.trans hw)
  inside := fun hq => (by cases hq.2.2.symm.trans hw)

end WakeInv

/-! ## Every step between two resets -/

theorem wake_producerStep {s s' : UsbStream} {late : Bool} (h : WakeInv s) (hc : s.producer ≠ .resetClear)
    (hs : s.producerStep late = some s') : WakeInv s' := by
  unfold producerStep at hs
  have hleft := h.left
  have hlt := h.capacity_lt
  cases hp : s.producer with
  | idle ok => rw [hp] at hs; cases hs
  | flushWait => rw [hp] at hs; cases hs
  | resetClear => exact absurd hp hc
  | pushCheck data =>
    rw [hp] at hs hleft
    cases hs
    by_cases hfail : s.failed = true
    · rw [if_pos hfail]
      refine WakeInv.leave hlt (fun hq => ?_) rfl trivial
      cases hq.1.symm.trans hfail
    · rw [if_neg hfail]
      exact h.go (by rw [hp]; rfl) (by exact hleft) (by simp [hp])
  | pushLook data =>
    rw [hp] at hs hleft
    cases hs
    by_cases hsp : s.space = 0
    · rw [if_pos hsp]
      cases late with
      | false => exact h.go (by rw [hp]; rfl) (by exact hleft) (by simp [hp])
      | true =>
        -- the rest of the block would fit if the writer slept
        refine WakeInv.leave hlt (fun hq => ?_) rfl trivial
        have hin := h.inside hq data.length (by rw [hp]; rfl)
        have hpos : 0 < data.length := hleft
        rw [space, sub32_of_le (by omega) hlt] at hsp
        omega
    · rw [if_neg hsp]
      exact h.go (by rw [hp]; rfl) (by trivial) (by simp [hp])
  | pushTimeout =>
    rw [hp] at hs
    cases hs
    exact h.go (by rw [hp]; rfl) (by trivial) (by simp [hp])
  | pushCopy data head n =>
    rw [hp] at hs
    cases hs
    exact h.go (by rw [hp]; rfl) (by trivial) (by simp [hp])
  | pushPublish data head n =>
    rw [hp] at hs
    cases hs
    have hlen : (data.take n).length = min n data.length := List.length_take
    have hrest : (if n < data.length then Producer.pushCheck (data.drop n) else .pushGive).pending =
        some (data.length - n) := by
      split
      · exact congrArg some List.length_drop
      · exact congrArg some (by omega)
    have hsmall := h.small data.length (by rw [hp]; rfl)
    refine ⟨hlt, ?_, ?_, ?_, ?_⟩
    · show Producer.Left (if n < data.length then _ else _)
      split
      · show 0 < (data.drop n).length
        rw [List.length_drop]
        omega
      · trivial
    · intro m hm
      cases hrest.symm.trans hm
      show data.length - n ≤ s.capacity
      omega
    · intro _ hm
      cases hrest.symm.trans hm
    · intro hq m hm
      cases hrest.symm.trans hm
      show (s.used + (data.take n).length) % 2 ^ 32 + (data.length - n) ≤ s.capacity
      have hin := h.inside hq data.length (by rw [hp]; rfl)
      omega
  | pushGive =>
    rw [hp] at hs
    cases hs
    refine WakeInv.leave hlt (fun hq => ?_) rfl trivial
    cases hq.2.1
  | flushCheck =>
    rw [hp] at hs
    cases hs
    exact h.go (by rw [hp]; split <;> rfl) (by split <;> trivial) (by simp [hp])
  | flushLook =>
    rw [hp] at hs
    cases hs
    exact h.go (by rw [hp]; rfl) (by trivial) (by simp [hp])
  | flushBusy used =>
    rw [hp] at hs
    cases hs
    refine h.go ?_ ?_ (by simp [hp])
    · rw [hp]
      split
      · rfl
      · split <;> rfl
    · split
      · trivial
      · split <;> trivial
  | resetWait =>
    rw [hp] at hs
    cases hs
    exact h.go (by rw [hp]; split <;> rfl) (by split <;> trivial) (by simp [hp])
  | resetUnfail =>
    rw [hp] at hs
    cases hs
    exact ⟨hlt, trivial, fun m hm => (by cases hm), fun _ _ => Or.inr rfl, fun _ m hm => (by cases hm)⟩
  | resetGive =>
    rw [hp] at hs
    cases hs
    refine WakeInv.leave hlt (fun hq => ?_) rfl trivial
    cases hq.2.1

theorem wake_writerStep {s s' : UsbStream} {outcome : Option String} (h : WakeInv s)
    (hs : s.writerStep outcome = some s') : WakeInv s' := by
  unfold writerStep at hs
  cases hw : s.writer with
  | check =>
    rw [hw] at hs
    cases hs
    by_cases hfail : s.failed = true
    · rw [if_pos hfail]
      have hq : ¬ Quiet { s with writer := .park } := fun hq => (by cases hq.1.symm.trans hfail)
      exact ⟨h.capacity_lt, h.left, h.small, fun hq' => absurd hq' hq, fun hq' => absurd hq' hq⟩
    · rw [if_neg hfail]
      exact h.up rfl
  | park =>
    rw [hw] at hs
    dsimp only at hs
    split at hs
    · cases hs
      exact h.up rfl
    · cases hs
  | snap =>
    rw [hw] at hs
    cases hs
    by_cases h0 : s.used = 0
    · -- falling asleep: what is left of the block fits into the empty ring
      rw [if_pos h0]
      refine ⟨h.capacity_lt, h.left, h.small, fun _ _ => Or.inl h0, fun _ m hm => ?_⟩
      show s.used + m ≤ s.capacity
      have hm := h.small m hm
      omega
    · rw [if_neg h0]
      exact h.up rfl
  | empty =>
    rw [hw] at hs
    cases hs
    have hq : Quiet { s with busy := false, writer := .park } → s.Quiet := fun hq => ⟨hq.1, hq.2.1, by rw [hw]; rfl⟩
    exact ⟨h.capacity_lt, h.left, h.small, fun hq' => h.outside (hq hq'), fun hq' => h.inside (hq hq')⟩
  | lower e result =>
    rw [hw] at hs
    cases hs
    exact h.up (by cases result <;> rfl)
  | _ => rw [hw] at hs; cases hs; exact h.up rfl

theorem wake_step {s s' : UsbStream} {a : StreamAct} (h : WakeInv s) (hb : s.Between a) (ha : s.Fits a)
    (hs : s.step a = some s') : WakeInv s' := by
  cases a with
  | push data =>
    obtain ⟨⟨ok, hp⟩, rfl⟩ := enter_eq hs
    cases data with
    | nil => exact h.go (by rw [hp]; rfl) (by trivial) (by simp [hp])
    | cons b data =>
      have hlen : (b :: data).length ≤ s.capacity := ha
      refine ⟨h.capacity_lt, Nat.succ_pos _, ?_, fun _ hm => (by cases hm), ?_⟩
      · rintro m ⟨⟩
        exact hlen
      · rintro hq m ⟨⟩
        have h0 := (h.outside hq (by rw [hp]; rfl)).resolve_right (by simp [hp])
        show s.used + (b :: data).length ≤ s.capacity
        omega
  | flush =>
    obtain ⟨⟨ok, hp⟩, rfl⟩ := enter_eq hs
    exact h.go (by rw [hp]; rfl) (by trivial) (by simp [hp])
  | reset =>
    obtain ⟨⟨ok, hp⟩, rfl⟩ := enter_eq hs
    exact h.go (by rw [hp]; rfl) (by trivial) (by simp [hp])
  | producer late => exact wake_producerStep h (hb late rfl) hs
  | drained ok =>
    obtain ⟨hp, rfl⟩ := leaveFlush_eq hs
    exact h.go (by rw [hp]; rfl) (by trivial) (by simp [hp])
  | writer outcome => exact wake_writerStep h hs

/-- A task that waits is not left alone with a ring that is not empty. -/
theorem WakeInv.awake {s : UsbStream} (h : WakeInv s) (hfail : s.failed = false) (hu : 0 < s.used)
    (hb : s.blocked = true) : s.waiting = false := by
  simp only [blocked, Bool.and_eq_true, decide_eq_true_eq, Bool.not_eq_true'] at hb
  have hq : s.Quiet := ⟨hfail, hb.2, by rw [hb.1]; rfl⟩
  have hout : s.producer.pending = none → s.producer ≠ .resetGive → False := by
    intro hn hg
    have := (h.outside hq hn).resolve_right hg
    omega
  have hspace : ∀ data : Bytes, 0 < data.length → s.producer.pending = some data.length → decide (s.space = 0) = false := by
    intro data hpos hm
    have hin := h.inside hq data.length hm
    rw [space, sub32_of_le (by omega) h.capacity_lt]
    exact decide_eq_false (by omega)
  have hleft := h.left
  unfold waiting
  cases hp : s.producer with
  | pushCheck data =>
    rw [hp] at hleft
    exact hspace data hleft (by rw [hp]; rfl)
  | pushLook data =>
    rw [hp] at hleft
    exact hspace data hleft (by rw [hp]; rfl)
  | pushTimeout => exact (hout (by rw [hp]; rfl) (by simp [hp])).elim
  | flushCheck => exact (hout (by rw [hp]; rfl) (by simp [hp])).elim
  | flushLook => exact (hout (by rw [hp]; rfl) (by simp [hp])).elim
  | flushBusy used => exact (hout (by rw [hp]; rfl) (by simp [hp])).elim
  | _ => rfl

/-- **No lost wake-up.** Between two resets, with blocks that fit into the ring, the writer is never
blocked without a token over a ring that the loop task waits for. Where the writer was when the
ring was cleared does not matter. -/
theorem no_lost_wakeup {s s' : UsbStream} {acts : List StreamAct} (h : Cleared s)
    (hb : Lib.Meets step (fun s a => s.Between a ∧ s.Fits a) s acts) (hr : Lib.run step s acts = some s') :
    ¬ (s'.blocked = true ∧ s'.failed = false ∧ 0 < s'.used ∧ s'.waiting = true) := by
  have hstep : ∀ s a s', WakeInv s → s.Between a ∧ s.Fits a → s.step a = some s' → WakeInv s' := by
    rintro s a s' hw ⟨hc, ha⟩ hs
    exact wake_step hw hc ha hs
  have hw := Lib.run_inv hstep (WakeInv.cleared h) hb hr
  rintro ⟨hblocked, hfail, hu, hwait⟩
  cases hwait.symm.trans (hw.awake hfail hu hblocked)

/-- Behind a `reset`: the writer uses its token up and falls asleep, then a block fills the ring;
`wake_` is not given yet. -/
def fullAsleep : List StreamAct := List.flatten
  [List.replicate 2 (.producer false), List.replicate 9 (.writer none), [.push [1, 2, 3]],
    List.replicate 4 (.producer false)]

theorem no_lost_wakeup_fullAsleep : ∃ s s₁ s', Lib.run step (begin 3) oneBlock = some s ∧
    s.step (.producer false) = some s₁ ∧ Lib.run step s₁ fullAsleep = some s' ∧ s'.blocked = true ∧ s'.used = 3 ∧
    ¬ (s'.blocked = true ∧ s'.failed = false ∧ 0 < s'.used ∧ s'.waiting = true) := by
  have h : ((Lib.run step (begin 3) oneBlock).bind fun s => (s.step (.producer false)).bind fun s₁ =>
      (Lib.run step s₁ fullAsleep).map fun s' => decide (s.producer = .resetClear ∧ s.capacity = 3 ∧
        Lib.Meets step (fun s a => s.Between a ∧ s.Fits a) s₁ fullAsleep ∧ s'.blocked = true ∧ s'.used = 3)) =
      some true := by decide +kernel
  obtain ⟨s, hs, h⟩ := Option.bind_eq_some_iff.1 h
  obtain ⟨s₁, hs₁, h⟩ := Option.bind_eq_some_iff.1 h
  obtain ⟨s', hs', h⟩ := Option.map_eq_some_iff.1 h
  obtain ⟨hp, hc, hb, hblocked, hu⟩ := of_decide_eq_true h
  have hcleared : Cleared s₁ := cleared_reset (by rw [hc]; decide) hp hs₁
  exact ⟨s, s₁, s', hs, hs₁, hs', hblocked, hu, no_lost_wakeup hcleared hb hs'⟩

end UsbStream
end PrintServer
