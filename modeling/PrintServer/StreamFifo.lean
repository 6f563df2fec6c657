import PrintServer.UsbStream
/-!
# The ring is a FIFO, as long as no reset overtakes `copyOut`

`StreamFifo` holds after every step except the clearing of the indices while the writer is between
its two critical sections (`fifo_step`). `taken`, then what the ring holds, is what was pushed.
-/
namespace PrintServer

theorem sub32_of_le {a b : Nat} (h : b ≤ a) (ha : a < 2 ^ 32) : sub32 a b = a - b := by
  unfold sub32
  omega

/-- The bytes that the `memcpy`s of `push` (:114-117) go over: from its snapshot until it publishes. -/
def Producer.copying : Producer → Option (Nat × Nat)
  | pushCopy _ head n | pushPublish _ head n => some (head, n)
  | _ => none

/-- The same for `copyOut` (:142-146). -/
def Writer.copying : Writer → Option (Nat × Nat)
  | copy tail n _ | commit tail n _ _ => some (tail, n)
  | _ => none

namespace UsbStream

/-- What the ring holds. -/
def queue (s : UsbStream) : Bytes := Lib.Ring.slice s.mem s.capacity s.tail s.used

/-- What the loop task knows about the ring between two of its steps. -/
def ProducerFits (s : UsbStream) : Producer → Prop
  | .pushCheck data | .pushLook data => 0 < data.length
  | .pushCopy data head n => head = s.head ∧ 0 < n ∧ s.used + n ≤ s.capacity ∧ n ≤ data.length
  | .pushPublish data head n =>
    head = s.head ∧ 0 < n ∧ s.used + n ≤ s.capacity ∧ n ≤ data.length ∧
      Lib.Ring.slice s.mem s.capacity s.head n = data.take n
  | .flushBusy used => used = 0 → s.used = 0
  | _ => True

/-- What the writer task knows about it. -/
def WriterFits (s : UsbStream) : Writer → Prop
  | .copy tail n epoch => epoch = s.epoch ∧ tail = s.tail ∧ 0 < n ∧ n ≤ s.used
  | .commit tail n data epoch =>
    epoch = s.epoch ∧ tail = s.tail ∧ 0 < n ∧ n ≤ s.used ∧ data = Lib.Ring.slice s.mem s.capacity s.tail n
  | _ => True

/-- The writer is between the two critical sections of `copyOut`. -/
def inCopyOut (s : UsbStream) : Bool := s.writer.copying.isSome

/-- Nor is it before the call of `bulkWriteAll` that follows. -/
def settled (s : UsbStream) : Bool :=
  match s.writer with
  | .copy .. | .commit .. | .call .. => false
  | _ => true

theorem inCopyOut_of_settled {s : UsbStream} (h : s.settled = true) : s.inCopyOut = false := by
  unfold settled at h
  unfold inCopyOut
  cases hw : s.writer with
  | copy => rw [hw] at h; cases h
  | commit => rw [hw] at h; cases h
  | _ => rfl

structure StreamFifo (s : UsbStream) : Prop where
  capacity_pos : 0 < s.capacity
  capacity_lt : s.capacity < 2 ^ 32
  tail_lt : s.tail < s.capacity
  used_le : s.used ≤ s.capacity
  head_eq : s.head = (s.tail + s.used) % s.capacity
  fifo : s.pushed = s.taken ++ s.queue
  producer : s.ProducerFits s.producer
  writer : s.WriterFits s.writer

namespace StreamFifo
variable {s : UsbStream}

theorem begin {capacity : Nat} (h0 : 0 < capacity) (h : capacity < 2 ^ 32) : StreamFifo (begin capacity) where
  capacity_pos := h0
  capacity_lt := h
  tail_lt := h0
  used_le := Nat.zero_le _
  head_eq := (Nat.zero_mod _).symm
  fifo := rfl
  producer := trivial
  writer := trivial

theorem head_lt (h : StreamFifo s) : s.head < s.capacity := by
  rw [h.head_eq]
  exact Nat.mod_lt _ h.capacity_pos

theorem used_lt (h : StreamFifo s) : s.used < 2 ^ 32 := Nat.lt_of_le_of_lt h.used_le h.capacity_lt

theorem space_eq (h : StreamFifo s) : s.space = s.capacity - s.used := sub32_of_le h.used_le h.capacity_lt

/-- The ring is not touched. -/
theorem keep (h : StreamFifo s) {p : Producer} {w : Writer} (hp : s.ProducerFits p) (hw : s.WriterFits w)
    {busy failed wake : Bool} {error : String} {submitted : List (Nat × Bytes)} {returned : List (Bytes × Bool)}
    {failedBy : Option Nat} :
    StreamFifo { s with producer := p, writer := w, busy, failed, wake, error, submitted, returned, failedBy } :=
  ⟨h.capacity_pos, h.capacity_lt, h.tail_lt, h.used_le, h.head_eq, h.fifo, hp, hw⟩

/-- The loop task moves on. -/
theorem go (h : StreamFifo s) {p : Producer} (hp : s.ProducerFits p) : StreamFifo { s with producer := p } :=
  h.keep hp h.writer

/-- The writer task moves on. -/
theorem goWriter (h : StreamFifo s) {w : Writer} (hw : s.WriterFits w) : StreamFifo { s with writer := w } :=
  h.keep h.producer hw

/-- The first `memcpy`s write only behind the queue. -/
theorem copyIn {head n : Nat} {data : Bytes} (h : StreamFifo s) (hp : s.ProducerFits (.pushCopy data head n)) :
    StreamFifo { s.copyIn head (data.take n) with producer := .pushPublish data head n } := by
  obtain ⟨hh, hn, hu, hd⟩ := hp
  have hlen : (data.take n).length = n := List.length_take_of_le hd
  have hslice : ∀ k ≤ s.used, Lib.Ring.slice (Lib.Ring.writeWrap s.mem s.capacity head (data.take n)) s.capacity s.tail k =
      Lib.Ring.slice s.mem s.capacity s.tail k := by
    intro k hk
    rw [hh, h.head_eq]
    exact Lib.Ring.slice_writeWrap_disjoint h.tail_lt (Nat.le_refl s.used) (by rw [hlen]; exact hu) hk
  refine ⟨h.capacity_pos, h.capacity_lt, h.tail_lt, h.used_le, h.head_eq, ?_, ⟨hh, hn, hu, hd, ?_⟩, ?_⟩
  · exact h.fifo.trans (congrArg (s.taken ++ ·) (hslice s.used (Nat.le_refl _)).symm)
  · -- the copied bytes lie at `head`
    have hw : Lib.Ring.slice (Lib.Ring.writeWrap s.mem s.capacity ((s.head + 0) % s.capacity) (data.take n))
        s.capacity s.head (0 + (data.take n).length) = Lib.Ring.slice s.mem s.capacity s.head 0 ++ data.take n :=
      Lib.Ring.slice_writeWrap h.head_lt (by omega)
    rw [Nat.add_zero, Nat.mod_eq_of_lt h.head_lt, Nat.zero_add, hlen] at hw
    rw [hh]
    exact hw
  · have hw := h.writer
    show WriterFits _ s.writer
    cases hs : s.writer with
    | commit tail m d e =>
      rw [hs] at hw
      obtain ⟨h1, h2, h3, h4, h5⟩ := hw
      exact ⟨h1, h2, h3, h4, h5.trans (hslice m h4).symm⟩
    | _ => rw [hs] at hw; exact hw

/-- Publishing appends the copied bytes to the queue. -/
theorem publish {head n : Nat} {data : Bytes} {p : Producer} (h : StreamFifo s)
    (hp : s.ProducerFits (.pushPublish data head n)) (hq : ∀ s', ProducerFits s' p) :
    StreamFifo { s.publish head (data.take n) with producer := p } := by
  obtain ⟨hh, hn, hu, hd, hm⟩ := hp
  have hlen : (data.take n).length = n := List.length_take_of_le hd
  have hc := h.capacity_lt
  have hused : (s.used + (data.take n).length) % 2 ^ 32 = s.used + n := by
    rw [hlen]
    exact Nat.mod_eq_of_lt (by omega)
  refine ⟨h.capacity_pos, hc, h.tail_lt, ?_, ?_, ?_, hq _, ?_⟩
  · show (s.used + (data.take n).length) % 2 ^ 32 ≤ s.capacity
    rw [hused]
    exact hu
  · show (head + (data.take n).length) % s.capacity = (s.tail + (s.used + (data.take n).length) % 2 ^ 32) % s.capacity
    rw [hused, hlen, hh, h.head_eq, Nat.mod_add_mod, Nat.add_assoc]
  · show s.pushed ++ data.take n =
      s.taken ++ Lib.Ring.slice s.mem s.capacity s.tail ((s.used + (data.take n).length) % 2 ^ 32)
    rw [hused, Lib.Ring.slice_add, ← h.head_eq, hm, h.fifo, List.append_assoc]
    rfl
  · have hw := h.writer
    show WriterFits _ s.writer
    cases hs : s.writer with
    | copy tail m e =>
      rw [hs] at hw
      obtain ⟨h1, h2, h3, h4⟩ := hw
      refine ⟨h1, h2, h3, ?_⟩
      show m ≤ (s.used + (data.take n).length) % 2 ^ 32
      omega
    | commit tail m d e =>
      rw [hs] at hw
      obtain ⟨h1, h2, h3, h4, h5⟩ := hw
      refine ⟨h1, h2, h3, ?_, h5⟩
      show m ≤ (s.used + (data.take n).length) % 2 ^ 32
      omega
    | _ => rw [hs] at hw; exact hw

/-- `copyOut` takes the front of the queue. -/
theorem take {tail n e : Nat} {data : Bytes} (h : StreamFifo s) (hw : s.WriterFits (.commit tail n data e)) :
    StreamFifo { s.take tail data with writer := .call data e } := by
  obtain ⟨-, ht, hn, hu, hd⟩ := hw
  have hlen : data.length = n := by rw [hd, Lib.Ring.length_slice]
  have hused : sub32 s.used data.length = s.used - n := by
    rw [hlen]
    exact sub32_of_le hu h.used_lt
  have hle := h.used_le
  refine ⟨h.capacity_pos, h.capacity_lt, Nat.mod_lt _ h.capacity_pos, ?_, ?_, ?_, ?_, trivial⟩
  · show sub32 s.used data.length ≤ s.capacity
    omega
  · show s.head = ((tail + data.length) % s.capacity + sub32 s.used data.length) % s.capacity
    rw [hused, hlen, ht, Nat.mod_add_mod, Nat.add_assoc, Nat.add_sub_cancel' hu]
    exact h.head_eq
  · show s.pushed = s.taken ++ data ++
      Lib.Ring.slice s.mem s.capacity ((tail + data.length) % s.capacity) (sub32 s.used data.length)
    have hsplit := Lib.Ring.slice_add s.mem s.capacity s.tail n (s.used - n)
    rw [Nat.add_sub_cancel' hu] at hsplit
    rw [hused, hlen, ht, List.append_assoc, hd, ← hsplit]
    exact h.fifo
  · have hp := h.producer
    show ProducerFits _ s.producer
    cases hs : s.producer with
    | pushCopy data' head m =>
      rw [hs] at hp
      obtain ⟨h1, h2, h3, h4⟩ := hp
      refine ⟨h1, h2, ?_, h4⟩
      show sub32 s.used data.length + m ≤ s.capacity
      omega
    | pushPublish data' head m =>
      rw [hs] at hp
      obtain ⟨h1, h2, h3, h4, h5⟩ := hp
      refine ⟨h1, h2, ?_, h4, h5⟩
      show sub32 s.used data.length + m ≤ s.capacity
      omega
    | flushBusy used =>
      rw [hs] at hp
      intro h0
      show sub32 s.used data.length = 0
      have := hp h0
      omega
    | _ => rw [hs] at hp; exact hp

end StreamFifo

/-! ## Every step but an overtaking reset -/

/-- The indices are cleared, whatever the ring was like. -/
theorem fifo_clear {s : UsbStream} (h0 : 0 < s.capacity) (hlt : s.capacity < 2 ^ 32) (hw : s.inCopyOut = false) :
    StreamFifo { s.clear with producer := .resetUnfail } := by
  refine ⟨h0, hlt, h0, Nat.zero_le _, (Nat.zero_mod _).symm, rfl, trivial, ?_⟩
  show WriterFits _ s.writer
  unfold inCopyOut at hw
  cases hs : s.writer with
  | copy => rw [hs] at hw; cases hw
  | commit => rw [hs] at hw; cases hw
  | _ => trivial

theorem fifo_producerStep {s s' : UsbStream} {late : Bool} (h : StreamFifo s)
    (hc : s.producer = .resetClear → s.inCopyOut = false) (hs : s.producerStep late = some s') : StreamFifo s' := by
  unfold producerStep at hs
  have hp := h.producer
  cases hprod : s.producer with
  | idle ok => rw [hprod] at hs; cases hs
  | flushWait => rw [hprod] at hs; cases hs
  | pushCheck data =>
    rw [hprod] at hp hs
    cases hs
    refine h.go ?_
    split
    · trivial
    · exact hp
  | pushLook data =>
    rw [hprod] at hp hs
    cases hs
    refine h.go ?_
    split
    · split
      · trivial
      · exact hp
    · rename_i hsp
      have hle := h.used_le
      have hpos : 0 < data.length := hp
      rw [h.space_eq] at hsp ⊢
      refine ⟨rfl, ?_, ?_, ?_⟩ <;> omega
  | pushTimeout =>
    rw [hprod] at hs
    cases hs
    exact h.keep (by trivial) h.writer
  | pushCopy data head n =>
    rw [hprod] at hp hs
    cases hs
    exact h.copyIn hp
  | pushPublish data head n =>
    rw [hprod] at hp hs
    cases hs
    refine h.publish hp fun s' => ?_
    split
    · rename_i hlt
      show 0 < (data.drop n).length
      rw [List.length_drop]
      omega
    · trivial
  | pushGive =>
    rw [hprod] at hs
    cases hs
    exact h.keep (by trivial) h.writer
  | flushCheck =>
    rw [hprod] at hs
    cases hs
    exact h.go (by split <;> trivial)
  | flushLook =>
    rw [hprod] at hs
    cases hs
    exact h.go id
  | flushBusy used =>
    rw [hprod] at hs
    cases hs
    refine h.go ?_
    split
    · trivial
    · split <;> trivial
  | resetWait =>
    rw [hprod] at hs
    cases hs
    exact h.go (by split <;> trivial)
  | resetClear =>
    rw [hprod] at hs
    cases hs
    exact fifo_clear h.capacity_pos h.capacity_lt (hc hprod)
  | resetUnfail =>
    rw [hprod] at hs
    cases hs
    exact h.keep (by trivial) h.writer
  | resetGive =>
    rw [hprod] at hs
    cases hs
    exact h.keep (by trivial) h.writer

theorem fifo_writerStep {s s' : UsbStream} {outcome : Option String} (h : StreamFifo s)
    (hs : s.writerStep outcome = some s') : StreamFifo s' := by
  unfold writerStep at hs
  have hw := h.writer
  cases hwr : s.writer with
  | check =>
    rw [hwr] at hs
    cases hs
    exact h.goWriter (by split <;> trivial)
  | park =>
    rw [hwr] at hs
    dsimp only at hs
    split at hs
    · cases hs
      exact h.keep h.producer (by trivial)
    · cases hs
  | raise => rw [hwr] at hs; cases hs; exact h.keep h.producer (by trivial)
  | snap =>
    rw [hwr] at hs
    cases hs
    refine h.goWriter ?_
    split
    · trivial
    · rename_i h0
      have hchunk : 0 < bulkOutChunkSize := by decide
      refine ⟨rfl, rfl, ?_, ?_⟩ <;> omega
  | empty => rw [hwr] at hs; cases hs; exact h.keep h.producer (by trivial)
  | copy tail n e =>
    rw [hwr] at hw hs
    cases hs
    obtain ⟨h1, h2, h3, h4⟩ := hw
    have hle := h.used_le
    refine h.goWriter ⟨h1, h2, h3, h4, ?_⟩
    rw [h2]
    exact Lib.Ring.readWrap_eq_slice h.tail_lt (by omega)
  | commit tail n data e =>
    rw [hwr] at hw hs
    cases hs
    exact h.take hw
  | call data e => rw [hwr] at hs; cases hs; exact h.keep h.producer (by trivial)
  | write data e => rw [hwr] at hs; cases hs; exact h.keep h.producer (by trivial)
  | lower e outcome' =>
    rw [hwr] at hs
    cases hs
    exact h.keep h.producer (by split <;> trivial)
  | setError e error => rw [hwr] at hs; cases hs; exact h.keep h.producer (by trivial)
  | publish e => rw [hwr] at hs; cases hs; exact h.keep h.producer (by trivial)

/-- **The ring stays a FIFO** in every step but the clearing of indices that `copyOut` has read. -/
theorem fifo_step {s s' : UsbStream} {a : StreamAct} (h : StreamFifo s)
    (hc : ∀ late, a = .producer late → s.producer = .resetClear → s.inCopyOut = false) (hs : s.step a = some s') :
    StreamFifo s' := by
  cases a with
  | push data =>
    obtain ⟨_, rfl⟩ := enter_eq hs
    refine h.go ?_
    cases data with
    | nil => trivial
    | cons b data => exact Nat.succ_pos _
  | flush =>
    obtain ⟨_, rfl⟩ := enter_eq hs
    exact h.go trivial
  | reset =>
    obtain ⟨_, rfl⟩ := enter_eq hs
    exact h.go trivial
  | producer late => exact fifo_producerStep h (hc late rfl) hs
  | drained ok =>
    obtain ⟨_, rfl⟩ := leaveFlush_eq hs
    exact h.go trivial
  | writer outcome => exact fifo_writerStep h hs

end UsbStream
end PrintServer
