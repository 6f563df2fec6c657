import PrintServer.StreamFifo
/-!
# Between two resets the ring loses nothing (usb_stream.cpp:83-153)

Both tasks work on snapshots: `push` copies to the `head_` and into the space it read, `copyOut`
from the `tail_` and the count it read, while the other side moves on. `Lossless` is what this
leaves true in any interleaving up to the next clearing of the indices, and it is lost exactly where
`reset` clears them under `copyOut` (`ring_lossless_iff`).
-/
namespace PrintServer

namespace UsbStream

/-- Nothing else of the ring changes in the `memcpy`s of `push`. -/
theorem copyIn_off {s : UsbStream} {head i : Nat} {data : Bytes} (h : ¬ Lib.Ring.Spans s.capacity head data.length i) :
    (s.copyIn head data).mem i = s.mem i := Lib.Ring.writeWrap_of_not_spans h

/-- No step clears the ring. -/
def Between (s : UsbStream) (a : StreamAct) : Prop := ∀ late, a = .producer late → s.producer ≠ .resetClear

instance (s : UsbStream) (a : StreamAct) : Decidable (s.Between a) :=
  inferInstanceAs (Decidable (∀ late, a = .producer late → s.producer ≠ .resetClear))

theorem between_writer {s : UsbStream} {outcome : Option String} : s.Between (.writer outcome) :=
  fun _ he => (by cases he)

structure Lossless (s : UsbStream) : Prop where
  used_le : s.used ≤ s.capacity
  head_eq : s.head = (s.tail + s.used) % s.capacity
  fifo : s.pushed = s.taken ++ s.queue
  /-- The slots that `push` copies to hold no unread byte, … -/
  unread : ∀ head n, s.producer.copying = some (head, n) → ∀ k < s.used,
    ¬ Lib.Ring.Spans s.capacity head n ((s.tail + k) % s.capacity)
  /-- … and none that `copyOut` is copying. -/
  copying : ∀ head n tail m, s.producer.copying = some (head, n) → s.writer.copying = some (tail, m) → ∀ i,
    Lib.Ring.Spans s.capacity head n i → ¬ Lib.Ring.Spans s.capacity tail m i

/-- So is every state up to the next clearing of the indices. -/
def LosslessFrom (s : UsbStream) : Prop :=
  ∀ acts s', Lib.Meets step Between s acts → Lib.run step s acts = some s' → Lossless s'

theorem LosslessFrom.step {s s' : UsbStream} {a : StreamAct} (h : s.LosslessFrom) (hb : s.Between a)
    (hs : s.step a = some s') : s'.LosslessFrom :=
  fun acts t hm hr => h (a :: acts) t ((Lib.meets_cons hs).2 ⟨hb, hm⟩) ((Lib.run_of_step hs).trans hr)

theorem LosslessFrom.now {s : UsbStream} (h : s.LosslessFrom) : Lossless s := h [] s trivial rfl

namespace StreamFifo
variable {s : UsbStream}

/-- The producer's snapshot is still good: it writes behind the queue, where there is room. -/
theorem copying_fits (h : StreamFifo s) {head n : Nat} (hp : s.producer.copying = some (head, n)) :
    head = (s.tail + s.used) % s.capacity ∧ s.used + n ≤ s.capacity := by
  have hf := h.producer
  cases hs : s.producer with
  | pushCopy data head' n' =>
    rw [hs] at hp hf
    cases hp
    exact ⟨hf.1.trans h.head_eq, hf.2.2.1⟩
  | pushPublish data head' n' =>
    rw [hs] at hp hf
    cases hp
    exact ⟨hf.1.trans h.head_eq, hf.2.2.1⟩
  | _ => rw [hs] at hp; cases hp

/-- The consumer's snapshot is still good: it reads the front of the queue. -/
theorem reading_fits (h : StreamFifo s) {tail m : Nat} (hw : s.writer.copying = some (tail, m)) :
    tail = s.tail ∧ m ≤ s.used := by
  have hf := h.writer
  cases hs : s.writer with
  | copy tail' m' e =>
    rw [hs] at hw hf
    cases hw
    exact ⟨hf.2.1, hf.2.2.2⟩
  | commit tail' m' data e =>
    rw [hs] at hw hf
    cases hw
    exact ⟨hf.2.1, hf.2.2.2.1⟩
  | _ => rw [hs] at hw; cases hw

theorem lossless (h : StreamFifo s) : Lossless s where
  used_le := h.used_le
  head_eq := h.head_eq
  fifo := h.fifo
  unread := by
    intro head n hp k hk
    obtain ⟨rfl, hfit⟩ := h.copying_fits hp
    exact Lib.Ring.spans_behind h.tail_lt hfit hk
  copying := by
    intro head n tail m hp hw i hi
    obtain ⟨rfl, hfit⟩ := h.copying_fits hp
    obtain ⟨rfl, hm⟩ := h.reading_fits hw
    have hle := h.used_le
    rw [Lib.Ring.spans_iff h.tail_lt (by omega)]
    rintro ⟨k, hk, rfl⟩
    exact Lib.Ring.spans_behind h.tail_lt hfit (Nat.lt_of_lt_of_le hk hm) hi

/-- A FIFO stays one until the indices are cleared. -/
theorem losslessFrom (h : StreamFifo s) : s.LosslessFrom := by
  intro acts s' hb hr
  have hstep : ∀ s a s', StreamFifo s → Between s a → s.step a = some s' → StreamFifo s' := by
    intro s a s' hi hc hs
    exact fifo_step hi (fun late ha hp => absurd hp (hc late ha)) hs
  exact (Lib.run_inv hstep h hb hr).lossless

end StreamFifo

/-! ## Whatever came before the reset -/

/-- What is left of the invariant behind a reset that overtook `copyOut`. -/
structure Reached (capacity : Nat) (s : UsbStream) : Prop where
  capacity : s.capacity = capacity
  /-- `copyOut` goes on only with bytes in hand. -/
  copy : ∀ tail n e, s.writer = .copy tail n e → 0 < n
  commit : ∀ tail n data e, s.writer = .commit tail n data e → data ≠ []

namespace Reached
variable {s s' : UsbStream} {capacity : Nat}

/-- The writer moves on, to a place outside `copyOut`. -/
theorem off (hc : s.capacity = capacity) (hw : s.writer.copying = none) : Reached capacity s where
  capacity := hc
  copy := fun _ _ _ he => (by rw [he] at hw; cases hw)
  commit := fun _ _ _ _ he => (by rw [he] at hw; cases hw)

theorem writer {outcome : Option String} (h : Reached capacity s) (hs : s.writerStep outcome = some s') :
    Reached capacity s' := by
  unfold writerStep at hs
  cases hw : s.writer with
  | check =>
    rw [hw] at hs
    cases hs
    refine off h.capacity ?_
    show (if s.failed = true then Writer.park else .raise).copying = none
    split <;> rfl
  | park =>
    rw [hw] at hs
    dsimp only at hs
    split at hs
    · cases hs
      exact off h.capacity rfl
    · cases hs
  | snap =>
    rw [hw] at hs
    cases hs
    by_cases h0 : s.used = 0
    · rw [if_pos h0]
      exact off h.capacity rfl
    · rw [if_neg h0]
      have hchunk : 0 < bulkOutChunkSize := by decide
      refine ⟨h.capacity, fun tail n e he => ?_, fun _ _ _ _ he => (by cases he)⟩
      cases he
      omega
  | copy tail n e =>
    rw [hw] at hs
    cases hs
    refine ⟨h.capacity, fun _ _ _ he => (by cases he), fun _ _ data _ he => ?_⟩
    cases he
    have hn := h.copy tail n e hw
    rw [← List.length_pos_iff, Lib.Ring.length_readWrap]
    exact hn
  | lower e result =>
    rw [hw] at hs
    cases hs
    refine off h.capacity ?_
    cases result <;> rfl
  | _ => rw [hw] at hs; cases hs; exact off h.capacity rfl

theorem step {a : StreamAct} (h : Reached capacity s) (hs : s.step a = some s') : Reached capacity s' := by
  cases hb : a.byWriter with
  | true =>
    cases a with
    | writer outcome => exact h.writer hs
    | _ => cases hb
  | false =>
    obtain ⟨hw, hc⟩ := loop_step hb hs
    refine ⟨hc.trans h.capacity, ?_, ?_⟩
    · rw [hw]
      exact h.copy
    · rw [hw]
      exact h.commit

theorem run {acts : List StreamAct} (hr : Lib.run UsbStream.step (begin capacity) acts = some s) : Reached capacity s :=
  Lib.run_inv' (fun _ _ _ => step) (off rfl rfl) hr

/-- What `copyOut` has in hand is handed out, though nothing was pushed since the ring was cleared. -/
theorem lossy (h : Reached capacity s) (hp : s.pushed = []) (ht : s.taken = []) (hin : s.inCopyOut = true) :
    ¬ s.LosslessFrom := by
  have hcommit : ∀ {t : UsbStream} {tail n e : Nat} {data : Bytes}, t.writer = .commit tail n data e → data ≠ [] →
      t.pushed = [] → t.taken = [] → ¬ t.LosslessFrom := by
    intro t tail n e data hw hne hp ht hl
    have hs : t.step (.writer none) = some { t.take tail data with writer := .call data e } := by
      simp only [UsbStream.step, writerStep, hw]
    have hf : t.pushed = t.taken ++ data ++ _ := (hl.step between_writer hs).now.fifo
    rw [hp, ht] at hf
    exact hne (List.append_eq_nil_iff.1 hf.symm).1
  unfold inCopyOut at hin
  cases hw : s.writer with
  | copy tail n e =>
    intro hl
    have hs : s.step (.writer none) =
        some { s with writer := .commit tail n (Lib.Ring.readWrap s.mem s.capacity tail n) e } := by
      simp only [UsbStream.step, writerStep, hw]
    have hcopied := h.step hs
    refine hcommit rfl (hcopied.commit _ _ _ _ rfl) ?_ ?_ (hl.step between_writer hs)
    · exact hp
    · exact ht
  | commit tail n data e => exact hcommit hw (h.commit tail n data e hw) hp ht
  | _ => rw [hw] at hin; cases hin

end Reached

/-- **The ring is a lossless FIFO between two resets**, whatever is pushed and however the two tasks
interleave, exactly if the reset that opens the interval does not overtake `copyOut`. What happened
before that reset does not matter. -/
theorem ring_lossless_iff {capacity : Nat} (h0 : 0 < capacity) (hc : capacity < 2 ^ 32) :
    (begin capacity).LosslessFrom ∧
      ∀ acts s late s', Lib.run step (begin capacity) acts = some s → s.producer = .resetClear →
        s.step (.producer late) = some s' → (s'.LosslessFrom ↔ s.inCopyOut = false) := by
  refine ⟨(StreamFifo.begin h0 hc).losslessFrom, fun acts s late s' hr hp hs => ?_⟩
  have h := Reached.run hr
  have h' := h.step hs
  simp only [step, producerStep, hp] at hs
  cases hs
  constructor
  · intro hl
    by_contra hin
    exact h'.lossy rfl rfl (Bool.of_not_eq_false hin) hl
  · intro hout
    rw [← h.capacity] at h0 hc
    exact (fifo_clear h0 hc hout).losslessFrom

/-- A block through a ring of three slots; the next job calls `reset`. -/
def oneBlock : List StreamAct := List.flatten
  [[.push [9, 9]], List.replicate 5 (.producer false), List.replicate 8 (.writer none), [.reset, .producer false]]

/-- The rest of `reset`, then three blocks; the last copies of both tasks overlap in time. -/
def threeBlocks : List StreamAct := List.flatten
  [List.replicate 2 (.producer false),
    [.push [1, 2]], List.replicate 5 (.producer false), List.replicate 8 (.writer none),
    [.push [3, 4]], List.replicate 5 (.producer false), List.replicate 3 (.writer none),
    [.push [5]], List.replicate 2 (.producer false)]

theorem ring_lossless_threeBlocks : ∃ s s₁ s', Lib.run step (begin 3) oneBlock = some s ∧ s.taken = [9, 9] ∧
    s.step (.producer false) = some s₁ ∧ Lib.run step s₁ threeBlocks = some s' ∧
    s'.producer.copying = some (1, 1) ∧ s'.writer.copying = some (2, 2) ∧ s'.taken = [1, 2] ∧ Lossless s' := by
  have h : ((Lib.run step (begin 3) oneBlock).bind fun s => (s.step (.producer false)).bind fun s₁ =>
      (Lib.run step s₁ threeBlocks).map fun s' => decide (s.producer = .resetClear ∧ s.inCopyOut = false ∧
        s.taken = [9, 9] ∧ Lib.Meets step Between s₁ threeBlocks ∧ s'.producer.copying = some (1, 1) ∧
        s'.writer.copying = some (2, 2) ∧ s'.taken = [1, 2])) = some true := by decide +kernel
  obtain ⟨s, hs, h⟩ := Option.bind_eq_some_iff.1 h
  obtain ⟨s₁, hs₁, h⟩ := Option.bind_eq_some_iff.1 h
  obtain ⟨s', hs', h⟩ := Option.map_eq_some_iff.1 h
  obtain ⟨hp, hin, ht, hb, hpush, hcopy, ht'⟩ := of_decide_eq_true h
  have hl := ((ring_lossless_iff (by decide) (by decide)).2 oneBlock s false s₁ hs hp hs₁).2 hin
  exact ⟨s, s₁, s', hs, ht, hs₁, hs', hpush, hcopy, ht', hl threeBlocks s' hb hs'⟩

/-- A byte is pushed. The writer has looked at `failed_` and is about to raise `busy_` when the next
job calls `reset`, which finds `busy_` down; then the writer reads the indices. -/
def justAwake : List StreamAct := List.flatten
  [[.push [7]], List.replicate 5 (.producer false), [.writer none], [.reset, .producer false],
    List.replicate 2 (.writer none)]

/-- `reset` returns; `copyOut` takes what it has read. -/
def thenCopied : List StreamAct := List.replicate 2 (.producer false) ++ List.replicate 2 (.writer none)

/-- The ring is cleared under `copyOut`: with nothing pushed since, `used_` is `2^32 - 1`. -/
theorem used_underflows : ∃ s s₁ s', Lib.run step (begin usbStreamBufferSize) justAwake = some s ∧
    s.producer = .resetClear ∧ s.step (.producer false) = some s₁ ∧ Lib.Meets step Between s₁ thenCopied ∧
    Lib.run step s₁ thenCopied = some s' ∧ s'.producer = .idle true ∧ s'.pushed = [] ∧ s'.taken = [7] ∧
    s'.used = 2 ^ 32 - 1 ∧ ¬ Lossless s' := by
  have h : ((Lib.run step (begin usbStreamBufferSize) justAwake).bind fun s => (s.step (.producer false)).bind fun s₁ =>
      (Lib.run step s₁ thenCopied).map fun s' => decide (s.producer = .resetClear ∧
        Lib.Meets step Between s₁ thenCopied ∧ s'.producer = .idle true ∧ s'.pushed = [] ∧ s'.taken = [7] ∧
        s'.used = 2 ^ 32 - 1 ∧ s'.capacity = usbStreamBufferSize)) = some true := by decide +kernel
  obtain ⟨s, hs, h⟩ := Option.bind_eq_some_iff.1 h
  obtain ⟨s₁, hs₁, h⟩ := Option.bind_eq_some_iff.1 h
  obtain ⟨s', hs', h⟩ := Option.map_eq_some_iff.1 h
  obtain ⟨hp, hb, hidle, hpushed, ht, hu, hc⟩ := of_decide_eq_true h
  refine ⟨s, s₁, s', hs, hp, hs₁, hb, hs', hidle, hpushed, ht, hu, fun hl => ?_⟩
  have hle := hl.used_le
  rw [hu, hc] at hle
  exact absurd hle (by decide)

end UsbStream
end PrintServer
