import PrintServer.BulkOut
/-!
# What the Bulk OUT pipeline notices (usb_host_manager.cpp:431-439, 618-751)

The result of a transfer is only looked at through a slot that is still flagged `inFlight` when
somebody waits for it, and the callback clears that flag. A transfer that fails before the next
look, or in the grace time after a timed-out wait, is lost without a word; so is one that failed
before a re-enumeration. `Watched` lists the steps in which this happens. `nothing_lost` holds in
every run without them.
-/
namespace PrintServer

theorem modify_concat {α : Type} (pre : List α) (x : α) (f : α → α) :
    (pre ++ [x]).modify pre.length f = pre ++ [f x] := by
  induction pre with
  | nil => rfl
  | cons y pre ih => simp [List.modify_succ_cons, ih]

/-- The driver has nothing of this slot, and no token of its last transfer is left to find. -/
def BulkSlot.Rest (x : BulkSlot) : Prop := x.held = none ∧ (x.inFlight = true → x.done = false)

namespace BulkCaller

/-- Where a call stands that can only return false once the endpoint is wedged. -/
def doomed : BulkCaller → Bool
  | idle | all .. | wedgeCheck .. | ensure .. | refused .. | reread .. | failed .. | drainCheck | drainEnsure => true
  | _ => false

/-- Where no call is at work on the slots. -/
def atRest : BulkCaller → Bool
  | idle | drained | all .. => true
  | _ => false

/-- The data of the current call that was not submitted yet. -/
def rest : BulkCaller → Bytes
  | all data _ | wedgeCheck data _ | ensure data _ | look data _ | reread data _ | prepare data _ | fill data _
  | submit data _ | failed data _ => data
  | wait (.write data _) _ | recover (.write data _) _ | inspect (.write data _) _ | refused (.write data _) _ => data
  | flag data _ | advance data _ => data.drop (BulkOut.part data).length
  | _ => []

end BulkCaller

/-! ## The transfers and their slots -/

namespace Transfers
variable {l : List Submission} {slots : Nat → BulkSlot} {p : Nat}

/-- Every transfer is known to be good, and the driver has none. -/
structure Clean (l : List Submission) (slots : Nat → BulkSlot) : Prop where
  good : ∀ x ∈ l, x.Good
  rest : ∀ i, (slots i).Rest

/-- The last transfer is `x` on slot `p`; those before it were good. -/
structure Last (l : List Submission) (slots : Nat → BulkSlot) (p : Nat) (pre : List Submission) (x : Submission) :
    Prop where
  split : l = pre ++ [x]
  good : ∀ y ∈ pre, y.Good
  rest : ∀ i, i ≠ p → (slots i).Rest
  numBytes : (slots p).numBytes = x.data.length

/-- The driver is working on it. -/
def Held (l : List Submission) (slots : Nat → BulkSlot) (p : Nat) : Prop :=
  ∃ pre x, Last l slots p pre x ∧ (slots p).held = some pre.length ∧ x.result = none ∧ (slots p).done = false

/-- The driver has called back; `token` if nobody has taken the semaphore yet. -/
def Called (l : List Submission) (slots : Nat → BulkSlot) (p : Nat) (token : Bool) : Prop :=
  ∃ pre x, Last l slots p pre x ∧ (slots p).held = none ∧ (slots p).done = token ∧
    x.result = some ((slots p).status, (slots p).accepted)

/-- The last transfer is out, or its result is still to be looked at. The token of its callback may be
gone with the semaphore. -/
def Pending (l : List Submission) (slots : Nat → BulkSlot) (p : Nat) : Prop :=
  Held l slots p ∨ ∃ token, Called l slots p token

/-- Whatever is pending is flagged. -/
def Flagged (l : List Submission) (slots : Nat → BulkSlot) (p : Nat) : Prop :=
  Clean l slots ∨ (Pending l slots p ∧ (slots p).inFlight = true)

/-- Nothing will ever come on this slot. -/
def Mute (slots : Nat → BulkSlot) (i : Nat) : Prop := (slots i).held = none ∧ (slots i).done = false

theorem Held.only {i k : Nat} (h : Held l slots p) (hi : (slots i).held = some k) : i = p := by
  obtain ⟨pre, x, hl, _⟩ := h
  by_contra hne
  rw [(hl.rest i hne).1] at hi
  cases hi

theorem Called.none {i : Nat} {token : Bool} (h : Called l slots p token) : (slots i).held = none := by
  obtain ⟨pre, x, hl, hp, _⟩ := h
  by_cases he : i = p
  · rw [he, hp]
  · exact (hl.rest i he).1

/-- After a good callback nothing is pending. -/
theorem Called.clean {token : Bool} (h : Called l slots p token) (hf : (slots p).inFlight = true → token = false)
    (hg : ∀ x ∈ l, x.Good) : Clean l slots := by
  refine ⟨hg, fun i => ?_⟩
  obtain ⟨pre, x, hl, hp, hd, _⟩ := h
  by_cases he : i = p
  · rw [he]
    exact ⟨hp, fun hi => hd.trans (hf hi)⟩
  · exact hl.rest i he

/-- A good result makes every transfer good. -/
theorem Called.good {token : Bool} (h : Called l slots p token) (hs : (slots p).status = .completed)
    (ha : (slots p).accepted = (slots p).numBytes) : ∀ x ∈ l, x.Good := by
  obtain ⟨pre, x, hl, _, _, hr⟩ := h
  intro y hy
  rw [hl.split] at hy
  rcases List.mem_append.1 hy with hy | hy
  · exact hl.good y hy
  · rw [List.mem_singleton.1 hy, Submission.Good, hr, hs, ha, hl.numBytes]

/-- The same transfers, with another content of slot `i` that keeps the slot at rest. -/
theorem Clean.set {i : Nat} {slots' : Nat → BulkSlot} (h : Clean l slots) (hi : (slots' i).Rest)
    (hne : ∀ j, j ≠ i → slots' j = slots j) : Clean l slots' := by
  refine ⟨h.good, fun j => ?_⟩
  by_cases he : j = i
  · rw [he]
    exact hi
  · rw [hne j he]
    exact h.rest j

theorem Last.set {slots' : Nat → BulkSlot} {pre : List Submission} {x : Submission} (h : Last l slots p pre x)
    (hp : (slots' p).numBytes = (slots p).numBytes) (hne : ∀ j, j ≠ p → slots' j = slots j) :
    Last l slots' p pre x where
  split := h.split
  good := h.good
  rest := fun j hj => by
    rw [hne j hj]
    exact h.rest j hj
  numBytes := hp.trans h.numBytes

/-- Slots are allocated or freed. A token may go with its semaphore; none appears. -/
structure Freed (slots slots' : Nat → BulkSlot) : Prop where
  eq : ∀ i, slots' i = { slots i with allocated := (slots' i).allocated, done := (slots' i).done }
  done : ∀ i, (slots i).done = false → (slots' i).done = false

section freed
variable {slots' : Nat → BulkSlot} (he : Freed slots slots')
include he

theorem Freed.rest {i : Nat} (h : (slots i).Rest) : (slots' i).Rest := by
  rw [he.eq i]
  exact ⟨h.1, fun hf => he.done i (h.2 hf)⟩

theorem Freed.held {i : Nat} : (slots' i).held = (slots i).held := by rw [he.eq i]

theorem Clean.allocate (h : Clean l slots) : Clean l slots' := ⟨h.good, fun i => he.rest (h.rest i)⟩

theorem Last.allocate {pre : List Submission} {x : Submission} (h : Last l slots p pre x) : Last l slots' p pre x where
  split := h.split
  good := h.good
  rest := fun i hi => he.rest (h.rest i hi)
  numBytes := by
    rw [he.eq p]
    exact h.numBytes

theorem Held.allocate (h : Held l slots p) : Held l slots' p := by
  obtain ⟨pre, x, hl, hheld, hr, hd⟩ := h
  exact ⟨pre, x, hl.allocate he, he.held.trans hheld, hr, he.done p hd⟩

theorem Called.allocate {token : Bool} (h : Called l slots p token) : Called l slots' p (slots' p).done := by
  obtain ⟨pre, x, hl, hheld, _, hr⟩ := h
  refine ⟨pre, x, hl.allocate he, he.held.trans hheld, rfl, ?_⟩
  rw [he.eq p]
  exact hr

theorem Called.allocate_taken (h : Called l slots p false) : Called l slots' p false := by
  have hd : (slots' p).done = false := by
    obtain ⟨_, _, _, _, hd, _⟩ := h
    exact he.done p hd
  rw [← hd]
  exact h.allocate he

theorem Pending.allocate (h : Pending l slots p) : Pending l slots' p := by
  rcases h with h | ⟨token, h⟩
  · exact Or.inl (h.allocate he)
  · exact Or.inr ⟨_, h.allocate he⟩

theorem Mute.allocate {i : Nat} (h : Mute slots i) : Mute slots' i := ⟨he.held.trans h.1, he.done i h.2⟩

theorem Flagged.allocate (h : Flagged l slots p) : Flagged l slots' p := by
  rcases h with h | ⟨h, hf⟩
  · exact Or.inl (h.allocate he)
  · refine Or.inr ⟨h.allocate he, ?_⟩
    rw [he.eq p]
    exact hf

end freed

theorem Clean.clearInFlight (h : Clean l slots) : Clean l fun i => { slots i with inFlight := false } :=
  ⟨h.good, fun i => ⟨(h.rest i).1, fun hf => (by cases hf)⟩⟩

end Transfers

namespace BulkOut
open Transfers

/-- What holds at each place of the code while the endpoint is not wedged. -/
def Phase (s : BulkOut) : BulkCaller → Prop
  | .idle | .all .. | .wedgeCheck .. | .ensure .. | .look .. | .failed .. | .drainCheck | .drainEnsure =>
    Flagged s.submissions s.slots s.previous
  | .drained | .reread .. | .prepare .. => Clean s.submissions s.slots
  | .wait _ i => Pending s.submissions s.slots i ∨ Mute s.slots i
  | .recover (.write ..) i =>
    Held s.submissions s.slots i ∨ (Called s.submissions s.slots i true ∧ ∀ x ∈ s.submissions, x.Good) ∨
      Mute s.slots i
  | .recover .drain _ => True
  | .inspect _ i => Called s.submissions s.slots i false
  | .refused (.write ..) i =>
    (∀ x ∈ s.submissions, x.Good) ∧ (∀ j, j ≠ i → (s.slots j).Rest) ∧ (s.slots i).held = none
  | .refused .drain _ => True
  | .fill .. => Clean s.submissions s.slots ∧ (s.slots s.next).done = false
  | .submit data _ =>
    Clean s.submissions s.slots ∧ (s.slots s.next).done = false ∧ (s.slots s.next).inFlight = false ∧
      (s.slots s.next).numBytes = (part data).length
  | .flag .. => Pending s.submissions s.slots s.next
  | .advance .. => Flagged s.submissions s.slots s.next
  | .drain i => Clean s.submissions s.slots ∨ (Pending s.submissions s.slots s.previous ∧
      (s.slots s.previous).inFlight = true ∧ i ≤ s.previous)

structure Awake (s : BulkOut) : Prop where
  next_lt : s.next < usbBulkPipelineDepth
  data : (s.submissions.map (·.data)).flatten ++ s.caller.rest = s.written
  phase : s.Phase s.caller

/-- As long as every call returned true: the endpoint is wedged and no call can succeed any more, or
every transfer but the last is known to be good. -/
def LossInv (s : BulkOut) : Prop :=
  s.allTrue = true → (s.wedged = true ∧ s.caller.doomed = true) ∨ (s.wedged = false ∧ Awake s)

/-- Allocating and freeing the transfers of idle slots changes nothing that is known. -/
theorem Phase.allocate {s s' : BulkOut} {c : BulkCaller} (h : s.Phase c) (he : Freed s.slots s'.slots)
    (hl : s'.submissions = s.submissions) (hn : s'.next = s.next) : s'.Phase c := by
  have hprev : s'.previous = s.previous := by
    unfold previous
    rw [hn]
  unfold Phase at *
  rw [hl, hn, hprev]
  cases c with
  | wait job i => exact h.imp (·.allocate he) (·.allocate he)
  | recover job i =>
    cases job with
    | write data r =>
      rcases h with h | ⟨h, hgood⟩ | h
      · exact Or.inl (h.allocate he)
      · have hc := h.allocate he
        cases hd : (s'.slots i).done with
        | false => exact Or.inr (Or.inr ⟨hc.none, hd⟩)
        | true =>
          rw [hd] at hc
          exact Or.inr (Or.inl ⟨hc, hgood⟩)
      · exact Or.inr (Or.inr (h.allocate he))
    | drain => trivial
  | inspect job i => exact Called.allocate_taken he h
  | refused job i =>
    cases job with
    | write data r =>
      obtain ⟨hgood, hrest, hheld⟩ := h
      exact ⟨hgood, fun j hj => he.rest (hrest j hj), he.held.trans hheld⟩
    | drain => trivial
  | fill data r => exact ⟨h.1.allocate he, he.done _ h.2⟩
  | submit data r =>
    obtain ⟨hc, hd, hrest⟩ := h
    refine ⟨hc.allocate he, he.done _ hd, ?_⟩
    rw [he.eq s.next]
    exact hrest
  | flag data r => exact Pending.allocate he h
  | drain i =>
    refine h.imp (·.allocate he) fun ⟨hp, hf⟩ => ⟨hp.allocate he, ?_⟩
    rw [he.eq s.previous]
    exact hf
  | drained => exact Clean.allocate he h
  | reread data r => exact Clean.allocate he h
  | prepare data r => exact Clean.allocate he h
  | _ => exact Flagged.allocate he h

theorem freed_release (slots : Nat → BulkSlot) : Freed slots fun i => release (slots i) where
  eq := fun _ => rfl
  done := by
    intro i hi
    show ((slots i).done && _) = false
    rw [hi, Bool.false_and]

/-! ## The runs in which nothing is overlooked -/

/-- The slot whose result somebody will look at: it is being submitted, or waited for. After a
timeout only `waitForBulkOut` reports a failure. -/
def lookedAt (s : BulkOut) : Option Nat :=
  match s.caller with
  | .flag .. => some s.next
  | .wait _ i => some i
  | .recover .drain i => some i
  | _ => none

/-- No transfer is flagged and no call is at work on the slots. -/
def Quiescent (s : BulkOut) : Prop :=
  s.wedged = false ∧ (∀ i < usbBulkPipelineDepth, (s.slots i).inFlight = false) ∧ s.caller.atRest = true

instance (s : BulkOut) : Decidable s.Quiescent := inferInstanceAs (Decidable (_ ∧ _ ∧ _))

/-- While every call has returned true: a transfer fails only where somebody looks, and the device
is recovered or enumerated only at rest. -/
def Watched (s : BulkOut) : BulkAct → Prop
  | .callback i status actual =>
    s.allTrue = true → s.wedged = false → (status = .completed ∧ actual = (s.slots i).numBytes) ∨
      s.lookedAt = some i
  | .recovered | .enumerated _ => s.allTrue = true → Quiescent s
  | _ => True

instance (s : BulkOut) (a : BulkAct) : Decidable (s.Watched a) :=
  match a with
  | .callback .. => inferInstanceAs (Decidable (_ → _ → _ ∨ _))
  | .recovered | .enumerated _ => inferInstanceAs (Decidable (_ → _))
  | .bulkWriteAll _ | .waitForBulkOut | .caller _ | .closeDevice | .detached | .resetTaken | .opened =>
    inferInstanceAs (Decidable True)

/-! ## Callbacks -/

theorem previous_lt (s : BulkOut) : s.previous < usbBulkPipelineDepth := Nat.mod_lt _ (by decide)

theorem previous_congr {s s' : BulkOut} (h : s'.next = s.next) : s'.previous = s.previous := by
  unfold previous
  rw [h]

/-- `g.bulkOutNext` moves on, and its slot is the previous one. -/
theorem previous_advance {s : BulkOut} (h : s.next < usbBulkPipelineDepth) {c : BulkCaller} :
    previous { s with next := (s.next + 1) % usbBulkPipelineDepth, caller := c } = s.next := by
  show ((s.next + 1) % usbBulkPipelineDepth + usbBulkPipelineDepth - 1) % usbBulkPipelineDepth = s.next
  unfold usbBulkPipelineDepth at *
  omega

theorem callback_held {s s' : BulkOut} {i : Nat} {status : TransferStatus} {actual : Nat}
    (hs : s.callback i status actual = some s') : ∃ k, (s.slots i).held = some k := by
  unfold BulkOut.callback at hs
  cases hk : (s.slots i).held with
  | none => rw [hk] at hs; cases hs
  | some k => exact ⟨k, rfl⟩

theorem not_callback {s s' : BulkOut} {i : Nat} {status : TransferStatus} {actual : Nat}
    (h : (s.slots i).held = none) (hs : s.callback i status actual = some s') : False := by
  obtain ⟨k, hk⟩ := callback_held hs
  rw [h] at hk
  cases hk

theorem map_modify_data (l : List Submission) (k : Nat) (r : Option (TransferStatus × Nat)) :
    (l.modify k ({ · with result := r })).map (·.data) = l.map (·.data) := by
  induction l generalizing k with
  | nil => simp
  | cons x l ih =>
    cases k with
    | zero => simp
    | succ k => simp [ih k]

/-- What a callback leaves as it is. -/
theorem callback_frame {s s' : BulkOut} {i : Nat} {status : TransferStatus} {actual : Nat}
    (hs : s.callback i status actual = some s') :
    s'.caller = s.caller ∧ s'.next = s.next ∧ s'.wedged = s.wedged ∧ s'.allTrue = s.allTrue ∧
      s'.written = s.written ∧ s'.submissions.map (·.data) = s.submissions.map (·.data) ∧
      ∀ j, j ≠ i → s'.slots j = s.slots j := by
  obtain ⟨k, hk⟩ := callback_held hs
  unfold BulkOut.callback at hs
  rw [hk] at hs
  cases hs
  refine ⟨rfl, rfl, rfl, rfl, rfl, ?_, fun j hj => if_neg hj⟩
  exact map_modify_data s.submissions k _

section callback
variable {s s' : BulkOut} {i p : Nat} {status : TransferStatus} {actual : Nat}

/-- The driver calls back for the transfer it has. -/
theorem held_callback (h : Held s.submissions s.slots p) (hs : s.callback p status actual = some s') :
    Called s'.submissions s'.slots p (s.slots p).allocated ∧ (s'.slots p).inFlight = false ∧
      (s'.slots p).status = status ∧
      (s'.slots p).accepted = actual ∧ (s'.slots p).numBytes = (s.slots p).numBytes := by
  obtain ⟨pre, x, hl, hheld, hr, hd⟩ := h
  unfold BulkOut.callback at hs
  rw [hheld] at hs
  cases hs
  have hself : ∀ x, (s.setSlot p x).slots p = x := fun x => if_pos rfl
  have hsub : s.submissions.modify pre.length ({ · with result := some (status, actual) }) =
      pre ++ [{ x with result := some (status, actual) }] := by
    rw [hl.split, modify_concat]
  have hrest : ∀ i, i ≠ p → ∀ y, ((s.setSlot p y).slots i).Rest := fun i hi y => by
    rw [show (s.setSlot p y).slots i = s.slots i from if_neg hi]
    exact hl.rest i hi
  refine ⟨⟨pre, { x with result := some (status, actual) }, ⟨hsub, hl.good, fun i hi => hrest i hi _, ?_⟩, ?_⟩, ?_⟩
  · exact (congrArg BulkSlot.numBytes (hself _)).trans hl.numBytes
  · simp only [hself, and_self]
  · simp only [hself, and_self]

/-- A pending transfer that is good leaves nothing behind. -/
theorem pending_finish (h : Pending s.submissions s.slots p) (hs : s.callback i status actual = some s')
    (hg : status = .completed ∧ actual = (s.slots i).numBytes) : Clean s'.submissions s'.slots := by
  rcases h with h | h
  · obtain ⟨k, hk⟩ := callback_held hs
    obtain rfl := h.only hk
    obtain ⟨hc, hf, hst, hac, hnb⟩ := held_callback h hs
    refine hc.clean (fun hi => (by rw [hf] at hi; cases hi)) (hc.good ?_ ?_)
    · rw [hst, hg.1]
    · rw [hac, hnb, hg.2]
  · obtain ⟨token, h⟩ := h
    exact (not_callback h.none hs).elim

/-- The result of a pending transfer is there to be looked at. -/
theorem pending_callback (h : Pending s.submissions s.slots p) (hs : s.callback i status actual = some s') :
    Pending s'.submissions s'.slots p := by
  rcases h with h | h
  · obtain ⟨k, hk⟩ := callback_held hs
    obtain rfl := h.only hk
    exact Or.inr ⟨_, (held_callback h hs).1⟩
  · obtain ⟨token, h⟩ := h
    exact (not_callback h.none hs).elim

theorem mute_callback (h : Mute s.slots p) (hs : s.callback i status actual = some s') : Mute s'.slots p := by
  obtain ⟨_, _, _, _, _, _, hslots⟩ := callback_frame hs
  have hne : p ≠ i := by
    rintro rfl
    exact not_callback h.1 hs
  unfold Mute
  rw [hslots p hne]
  exact h

/-- A callback keeps what holds at each place of the code. -/
theorem phase_callback (h : Phase s s.caller)
    (hw : (status = .completed ∧ actual = (s.slots i).numBytes) ∨ s.lookedAt = some i)
    (hs : s.callback i status actual = some s') : Phase s' s.caller := by
  obtain ⟨_, hnext, _⟩ := callback_frame hs
  have hclean : Clean s.submissions s.slots → False := fun hc => not_callback (hc.rest i).1 hs
  have hflagged : ∀ q, ¬ s.lookedAt = some i → Flagged s.submissions s.slots q → Clean s'.submissions s'.slots := by
    intro q hl hb
    rcases hb with hb | ⟨hb, _⟩
    · exact (hclean hb).elim
    · exact pending_finish hb hs (hw.resolve_right hl)
  have hno : (none : Option Nat) ≠ some i := (Option.some_ne_none i).symm
  unfold lookedAt at hw hflagged
  cases hp : s.caller with
  | idle => rw [hp] at h hflagged; exact Or.inl (hflagged _ hno h)
  | all => rw [hp] at h hflagged; exact Or.inl (hflagged _ hno h)
  | wedgeCheck => rw [hp] at h hflagged; exact Or.inl (hflagged _ hno h)
  | ensure => rw [hp] at h hflagged; exact Or.inl (hflagged _ hno h)
  | look => rw [hp] at h hflagged; exact Or.inl (hflagged _ hno h)
  | failed => rw [hp] at h hflagged; exact Or.inl (hflagged _ hno h)
  | drainCheck => rw [hp] at h hflagged; exact Or.inl (hflagged _ hno h)
  | drainEnsure => rw [hp] at h hflagged; exact Or.inl (hflagged _ hno h)
  | advance => rw [hp] at h hflagged; exact Or.inl (hflagged _ hno h)
  | drained => rw [hp] at h; exact (hclean h).elim
  | reread => rw [hp] at h; exact (hclean h).elim
  | prepare => rw [hp] at h; exact (hclean h).elim
  | fill => rw [hp] at h; exact (hclean h.1).elim
  | submit => rw [hp] at h; exact (hclean h.1).elim
  | wait job j =>
    rw [hp] at h
    exact h.imp (pending_callback · hs) (mute_callback · hs)
  | recover job j =>
    cases job with
    | drain => trivial
    | write data r =>
      rw [hp] at h hw
      rcases h with h | ⟨h, _⟩ | h
      · obtain ⟨k, hk⟩ := callback_held hs
        obtain rfl := h.only hk
        obtain ⟨hc, _, hst, hac, hnb⟩ := held_callback h hs
        obtain ⟨h1, h2⟩ := hw.resolve_right hno
        cases ha : (s.slots i).allocated with
        | true =>
          rw [ha] at hc
          exact Or.inr (Or.inl ⟨hc, hc.good (hst.trans h1) (hac.trans (h2.trans hnb.symm))⟩)
        | false =>
          obtain ⟨_, _, _, hnone, hdone, _⟩ := hc
          exact Or.inr (Or.inr ⟨hnone, hdone.trans ha⟩)
      · exact (not_callback h.none hs).elim
      · exact Or.inr (Or.inr (mute_callback h hs))
  | inspect job j =>
    rw [hp] at h
    exact (not_callback h.none hs).elim
  | refused job j =>
    cases job with
    | drain => trivial
    | write data r =>
      rw [hp] at h
      obtain ⟨_, hrest, hj⟩ := h
      refine (not_callback ?_ hs).elim
      by_cases he : i = j
      · rw [he, hj]
      · exact (hrest i he).1
  | flag data r =>
    rw [hp] at h
    show Pending s'.submissions s'.slots s'.next
    rw [hnext]
    exact pending_callback h hs
  | drain j =>
    rw [hp] at h hflagged
    exact Or.inl (hflagged s.previous hno (h.imp id fun ⟨h1, h2, _⟩ => ⟨h1, h2⟩))

theorem inv_callback (h : LossInv s) (hw : s.Watched (.callback i status actual))
    (hs : s.callback i status actual = some s') : LossInv s' := by
  obtain ⟨hc, hn, hwed, hall, hwr, hdata, _⟩ := callback_frame hs
  intro ht
  rw [hall] at ht
  rw [hwed, hc]
  rcases h ht with hd | ⟨hno, ha⟩
  · exact Or.inl hd
  · refine Or.inr ⟨hno, ?_, ?_, ?_⟩
    · rw [hn]
      exact ha.next_lt
    · rw [hdata, hc, hwr]
      exact ha.data
    · rw [hc]
      exact phase_callback ha.phase (hw ht hno) hs

end callback

/-! ## The caller -/

theorem setSlot_self (s : BulkOut) (i : Nat) (x : BulkSlot) : (s.setSlot i x).slots i = x := if_pos rfl

theorem setSlot_ne (s : BulkOut) (i : Nat) (x : BulkSlot) : ∀ j, j ≠ i → (s.setSlot i x).slots j = s.slots j :=
  fun _ h => if_neg h

theorem part_append_drop (data : Bytes) : part data ++ data.drop (part data).length = data := by
  unfold part
  rw [List.length_take]
  exact (congrArg (· ++ _) List.take_eq_take_min).trans (List.take_append_drop _ _)

theorem rest_proceed (data : Bytes) : (proceed data).rest = data := by
  unfold proceed
  cases data with
  | nil => rfl
  | cons b data => rfl

section caller
variable {s s' : BulkOut} {answer : Bool}

/-- The caller moves on, the transfers stay. -/
theorem Awake.go (h : Awake s) {c : BulkCaller} (hr : c.rest = s.caller.rest) (hp : s.Phase c) :
    Awake { s with caller := c } := by
  refine ⟨h.next_lt, ?_, hp⟩
  show _ ++ c.rest = s.written
  rw [hr]
  exact h.data

/-- One slot changes. -/
theorem Awake.set (h : Awake s) {c : BulkCaller} {i : Nat} {x : BulkSlot} (hr : c.rest = s.caller.rest)
    (hp : (s.setSlot i x).Phase c) : Awake { s.setSlot i x with caller := c } := by
  refine ⟨h.next_lt, ?_, hp⟩
  show _ ++ c.rest = s.written
  rw [hr]
  exact h.data

theorem doomed_callerStep (hw : s.wedged = true) (hd : s.caller.doomed = true) (hs : s.callerStep answer = some s') :
    s'.wedged = true ∧ s'.caller.doomed = true := by
  unfold callerStep at hs
  cases hp : s.caller with
  | all data r =>
    rw [hp] at hs
    cases hs
    refine ⟨hw, ?_⟩
    dsimp only
    split <;> rfl
  | wedgeCheck data r =>
    rw [hp] at hs
    cases hs
    rw [hw]
    exact ⟨rfl, rfl⟩
  | ensure data r =>
    rw [hp, hw] at hs
    cases hs
    exact ⟨rfl, rfl⟩
  | refused job i =>
    rw [hp] at hs
    cases job with
    | write data r => cases hs; exact ⟨hw, rfl⟩
    | drain => cases hs; exact ⟨hw, rfl⟩
  | reread data r =>
    rw [hp] at hs
    cases hs
    rw [hw]
    exact ⟨rfl, rfl⟩
  | failed data r =>
    rw [hp] at hs
    cases hs
    split <;> exact ⟨hw, rfl⟩
  | drainCheck =>
    rw [hp, hw] at hs
    cases hs
    exact ⟨hw, rfl⟩
  | drainEnsure =>
    rw [hp, hw] at hs
    cases hs
    exact ⟨hw, rfl⟩
  | idle => rw [hp] at hs; cases hs
  | _ => rw [hp] at hd; cases hd

/-- `bulkWriteAll` and `bulkWrite`, up to the slots. -/
theorem awake_entry (hno : s.wedged = false) (h : Awake s) (hg : s.caller.stage = .entry) (ht : s'.allTrue = true)
    (hs : s.callerStep answer = some s') :
    (s'.wedged = true ∧ s'.caller.doomed = true) ∨ (s'.wedged = false ∧ Awake s') := by
  have hph := h.phase
  unfold callerStep at hs
  cases hp : s.caller with
  | all data r =>
    rw [hp] at hs hph
    cases hs
    refine Or.inr ⟨hno, h.go ?_ ?_⟩
    · rw [hp]
      split <;> rfl
    · split <;> exact hph
  | wedgeCheck data r =>
    rw [hp] at hs hph
    cases hs
    refine Or.inr ⟨hno, h.go ?_ ?_⟩
    · rw [hp, hno]
      rfl
    · rw [hno]
      exact hph
  | ensure data r =>
    rw [hp] at hs hph
    dsimp only at hs
    split at hs
    · cases hs
      exact Or.inr ⟨hno, h.go (by rw [hp]; rfl) hph⟩
    · cases hs
      refine Or.inr ⟨hno, h.next_lt, ?_, Flagged.allocate ⟨fun _ => rfl, fun _ => id⟩ hph⟩
      have hd := h.data
      rwa [hp] at hd
  | look data r =>
    rw [hp] at hs hph
    cases hs
    refine Or.inr ⟨hno, h.go ?_ ?_⟩
    · rw [hp]
      split <;> rfl
    · split
      · rename_i hin
        rcases hph with hc | ⟨hpend, _⟩
        · exact Or.inr ⟨(hc.rest _).1, (hc.rest _).2 hin⟩
        · exact Or.inl hpend
      · rename_i hin
        rcases hph with hc | ⟨_, hf⟩
        · exact hc
        · exact absurd hf hin
  | failed data r =>
    rw [hp] at hs hph
    cases hs
    split at ht
    · cases ht
    · rename_i hr
      rw [if_neg hr]
      exact Or.inr ⟨hno, h.go (by rw [hp]; rfl) hph⟩
  | _ => rw [hp] at hg; cases hg

/-- `waitSlotDone`, and what its caller does about the answer. -/
theorem awake_waiting (hno : s.wedged = false) (h : Awake s) (hg : s.caller.stage = .waiting) (ht : s'.allTrue = true)
    (hs : s.callerStep answer = some s') :
    (s'.wedged = true ∧ s'.caller.doomed = true) ∨ (s'.wedged = false ∧ Awake s') := by
  have hph := h.phase
  unfold callerStep at hs
  cases hp : s.caller with
  | wait job i =>
    rw [hp] at hs hph
    dsimp only at hs
    have hrest : ∀ c : BulkCaller, (c = .inspect job i ∨ c = .recover job i) → c.rest = s.caller.rest := by
      rintro c (rfl | rfl) <;> rw [hp] <;> cases job <;> rfl
    split at hs
    · rename_i hd
      cases hs
      refine Or.inr ⟨hno, h.set (hrest _ (Or.inl rfl)) ?_⟩
      rcases hph with (⟨_, _, _, _, _, hf⟩ | ⟨token, pre, x, hl, hheld, _, hres⟩) | ⟨_, hf⟩
      · rw [hf] at hd
        cases hd
      · -- the token of the callback is taken
        refine ⟨pre, x, hl.set ?_ (setSlot_ne s i _), ?_, ?_, ?_⟩ <;> rw [setSlot_self]
        · exact hheld
        · exact hres
      · rw [hf] at hd
        cases hd
    · rename_i hd
      split at hs
      · cases hs
        refine Or.inr ⟨hno, h.go (hrest _ (Or.inr rfl)) ?_⟩
        cases job with
        | drain => trivial
        | write data r =>
          rcases hph with (hheld | ⟨token, hc⟩) | hm
          · exact Or.inl hheld
          · exact Or.inr (Or.inr ⟨hc.none, Bool.eq_false_iff.2 hd⟩)
          · exact Or.inr (Or.inr hm)
      · cases hs
  | recover job i =>
    rw [hp] at hs hph
    dsimp only at hs
    split at hs
    · rename_i hd
      cases hs
      refine Or.inr ⟨hno, h.set (by rw [hp]; cases job <;> rfl) ?_⟩
      cases job with
      | drain => trivial
      | write data r =>
        rcases hph with ⟨_, _, _, _, _, hf⟩ | ⟨⟨pre, x, hl, hheld, _, _⟩, hgood⟩ | ⟨_, hf⟩
        · rw [hf] at hd
          cases hd
        · refine ⟨hgood, fun j hj => ?_, ?_⟩
          · show ((s.setSlot i _).slots j).Rest
            rw [setSlot_ne s i _ j hj]
            exact hl.rest j hj
          · show ((s.setSlot i _).slots i).held = none
            rw [setSlot_self]
            exact hheld
        · rw [hf] at hd
          cases hd
    · split at hs
      · cases hs
        exact Or.inl ⟨rfl, rfl⟩
      · cases hs
  | inspect job i =>
    rw [hp] at hs hph
    dsimp only at hs
    split at hs
    · cases hs
      exact Or.inl ⟨rfl, rfl⟩
    · rename_i hok
      cases hs
      obtain ⟨hst, hac⟩ := not_or.1 hok
      have hc : Clean s.submissions s.slots :=
        hph.clean (fun _ => rfl) (hph.good (not_not.1 hst) (not_not.1 hac))
      cases job with
      | write data r => exact Or.inr ⟨hno, h.go (by rw [hp]; rfl) hc⟩
      | drain => exact Or.inr ⟨hno, h.go (by rw [hp]; rfl) (Or.inl hc)⟩
  | refused job i =>
    cases job with
    | drain =>
      rw [hp] at hs
      cases hs
      cases ht
    | write data r =>
      rw [hp] at hs hph
      cases hs
      obtain ⟨hgood, hrest, hheld⟩ := hph
      refine Or.inr ⟨hno, h.set (by rw [hp]; rfl) ⟨hgood, fun j => ?_⟩⟩
      by_cases hj : j = i
      · rw [hj, setSlot_self]
        exact ⟨hheld, fun hf => (by cases hf)⟩
      · rw [setSlot_ne s i _ j hj]
        exact hrest j hj
  | reread data r =>
    rw [hp] at hs hph
    cases hs
    refine Or.inr ⟨hno, h.go ?_ ?_⟩
    · rw [hp, hno]
      rfl
    · rw [hno]
      exact hph
  | _ => rw [hp] at hg; cases hg

/-- The submission. -/
theorem awake_submission (hno : s.wedged = false) (h : Awake s) (hg : s.caller.stage = .submission)
    (hs : s.callerStep answer = some s') :
    (s'.wedged = true ∧ s'.caller.doomed = true) ∨ (s'.wedged = false ∧ Awake s') := by
  have hph := h.phase
  unfold callerStep at hs
  cases hp : s.caller with
  | prepare data r =>
    rw [hp] at hs hph
    cases hs
    refine Or.inr ⟨hno, h.set (by rw [hp]; rfl) ⟨hph.set (i := s.next) ?_ (setSlot_ne s _ _), ?_⟩⟩
    · rw [setSlot_self]
      exact ⟨(hph.rest _).1, fun _ => rfl⟩
    · show ((s.setSlot s.next _).slots s.next).done = false
      rw [setSlot_self]
  | fill data r =>
    rw [hp] at hs hph
    dsimp only at hs
    split at hs
    · rename_i hassert
      cases hs
      obtain ⟨hc, hd⟩ := hph
      refine Or.inr ⟨hno, h.set (by rw [hp]; rfl) ⟨hc.set (i := s.next) ?_ (setSlot_ne s _ _), ?_⟩⟩
      · rw [setSlot_self]
        exact hc.rest _
      · show ((s.setSlot s.next _).slots s.next).done = false ∧ ((s.setSlot s.next _).slots s.next).inFlight = false ∧
          ((s.setSlot s.next _).slots s.next).numBytes = _
        rw [setSlot_self]
        rw [Bool.and_eq_true, Bool.not_eq_true'] at hassert
        exact ⟨hd, hassert.2, rfl⟩
    · cases hs
  | submit data r =>
    rw [hp] at hs hph
    dsimp only at hs
    obtain ⟨hc, hd, hf, hn⟩ := hph
    split at hs
    · cases hs
      refine Or.inr ⟨hno, h.next_lt, ?_, Or.inl ⟨s.submissions, { data := part data }, ⟨rfl, hc.good, fun j hj => ?_, ?_⟩, ?_⟩⟩
      · have hdata := h.data
        rw [hp] at hdata
        show ((s.submissions ++ [({ data := part data } : Submission)]).map (·.data)).flatten ++
          data.drop (part data).length = s.written
        rw [← hdata, List.map_append, List.flatten_append, List.append_assoc]
        refine congrArg (_ ++ ·) ?_
        show (part data ++ []) ++ _ = data
        rw [List.append_nil, part_append_drop]
      · show ((s.setSlot s.next _).slots j).Rest
        rw [setSlot_ne s s.next _ j hj]
        exact hc.rest j
      · show ((s.setSlot s.next _).slots s.next).numBytes = _
        rw [setSlot_self]
        exact hn
      · show ((s.setSlot s.next _).slots s.next).held = _ ∧ _ ∧ ((s.setSlot s.next _).slots s.next).done = false
        rw [setSlot_self]
        exact ⟨rfl, rfl, hd⟩
    · cases hs
      exact Or.inr ⟨hno, h.go (by rw [hp]; rfl) (Or.inl hc)⟩
  | flag data r =>
    rw [hp] at hs hph
    cases hs
    have hpend : ∀ y : BulkSlot, y = { s.slots s.next with inFlight := true } →
        Pending s.submissions (s.setSlot s.next y).slots s.next := by
      rintro y rfl
      rcases hph with ⟨pre, x, hl, hrest⟩ | ⟨token, pre, x, hl, hrest⟩
      · refine Or.inl ⟨pre, x, hl.set ?_ (setSlot_ne s _ _), ?_⟩ <;> rw [setSlot_self]
        exact hrest
      · refine Or.inr ⟨token, pre, x, hl.set ?_ (setSlot_ne s _ _), ?_⟩ <;> rw [setSlot_self]
        exact hrest
    refine Or.inr ⟨hno, h.set (by rw [hp]; rfl) (Or.inr ⟨hpend _ rfl, ?_⟩)⟩
    show ((s.setSlot s.next _).slots s.next).inFlight = true
    rw [setSlot_self]
  | advance data r =>
    rw [hp] at hs hph
    cases hs
    refine Or.inr ⟨hno, Nat.mod_lt _ (by decide), ?_, ?_⟩
    · have hdata := h.data
      rw [hp] at hdata
      show _ ++ (proceed _).rest = s.written
      rw [rest_proceed]
      exact hdata
    · have hfl : Flagged s.submissions s.slots s.next := hph
      rw [← previous_advance h.next_lt (c := proceed (data.drop (part data).length))] at hfl
      show Phase _ (proceed _)
      unfold proceed
      split <;> exact hfl
  | _ => rw [hp] at hg; cases hg

/-- `waitForBulkOut`. -/
theorem awake_draining (hno : s.wedged = false) (h : Awake s) (hg : s.caller.stage = .draining) (ht : s'.allTrue = true)
    (hs : s.callerStep answer = some s') :
    (s'.wedged = true ∧ s'.caller.doomed = true) ∨ (s'.wedged = false ∧ Awake s') := by
  have hph := h.phase
  unfold callerStep at hs
  cases hp : s.caller with
  | drainCheck =>
    rw [hp] at hs hph
    dsimp only at hs
    rw [if_neg (by rw [hno]; exact Bool.false_ne_true)] at hs
    cases hs
    exact Or.inr ⟨hno, h.go (by rw [hp]; rfl) hph⟩
  | drainEnsure =>
    rw [hp] at hs hph
    cases hs
    split at ht
    · cases ht
    · rename_i ha
      rw [if_neg ha]
      have hd := h.data
      rw [hp] at hd
      refine Or.inr ⟨hno, h.next_lt, hd, ?_⟩
      rcases (show Flagged s.submissions s.allocateAll.slots s.previous from
          Flagged.allocate ⟨fun _ => rfl, fun _ => id⟩ hph) with hc | ⟨hpend, hf⟩
      · exact Or.inl hc
      · exact Or.inr ⟨hpend, hf, Nat.zero_le _⟩
  | drain i =>
    rw [hp] at hs hph
    cases hs
    refine Or.inr ⟨hno, h.go ?_ ?_⟩
    · rw [hp]
      split
      · rfl
      · split <;> rfl
    · split
      · rename_i hi
        rcases hph with hc | ⟨_, _, hle⟩
        · exact hc
        · exact absurd (Nat.lt_of_le_of_lt hle s.previous_lt) (Nat.not_lt.2 hi)
      · split
        · rename_i hin
          rcases hph with hc | ⟨hpend, _, _⟩
          · exact Or.inr ⟨(hc.rest i).1, (hc.rest i).2 hin⟩
          · by_cases he : i = s.previous
            · rw [he]
              exact Or.inl hpend
            · -- a slot left flagged by an early callback
              have hr : (s.slots i).Rest := by
                rcases hpend with ⟨_, _, hl, _⟩ | ⟨_, _, _, hl, _⟩
                · exact hl.rest i he
                · exact hl.rest i he
              exact Or.inr ⟨hr.1, hr.2 hin⟩
        · rename_i hin
          rcases hph with hc | ⟨hpend, hf, hle⟩
          · exact Or.inl hc
          · have he : i ≠ s.previous := by
              rintro rfl
              exact hin hf
            exact Or.inr ⟨hpend, hf, by omega⟩
  | _ => rw [hp] at hg; cases hg

/-- A step of the caller keeps what holds at each place of the code, or wedges the endpoint. -/
theorem awake_callerStep (hno : s.wedged = false) (h : Awake s) (ht : s'.allTrue = true)
    (hs : s.callerStep answer = some s') :
    (s'.wedged = true ∧ s'.caller.doomed = true) ∨ (s'.wedged = false ∧ Awake s') := by
  cases hg : s.caller.stage with
  | outside => cases (outside_callerStep hg).symm.trans hs
  | entry => exact awake_entry hno h hg ht hs
  | waiting => exact awake_waiting hno h hg ht hs
  | submission => exact awake_submission hno h hg hs
  | draining => exact awake_draining hno h hg ht hs

/-- No step of the caller turns a refusal into a success. -/
theorem allTrue_callerStep (hs : s.callerStep answer = some s') (ht : s'.allTrue = true) : s.allTrue = true := by
  unfold callerStep at hs
  cases hp : s.caller with
  | refused job i =>
    rw [hp] at hs
    cases job with
    | write data r => cases hs; exact ht
    | drain => cases hs; cases ht
  | _ =>
    rw [hp] at hs
    dsimp only at hs
    (repeat' split at hs) <;> first
      | (cases hs; exact ht)
      | (cases hs; cases ht)
      | cases hs

end caller

/-! ## Steps and runs -/

section steps
variable {s s' : BulkOut}

theorem idle_or_drained (h : s.outside = true) : s.caller = .idle ∨ s.caller = .drained := by
  simpa [BulkOut.outside] using h

/-- Between two calls nothing is pending that is not flagged. -/
theorem Awake.outside (h : Awake s) (ho : s.outside = true) :
    Flagged s.submissions s.slots s.previous ∧ s.caller.rest = [] := by
  have hph := h.phase
  rcases idle_or_drained ho with hc | hc
  · rw [hc] at hph ⊢
    exact ⟨hph, rfl⟩
  · rw [hc] at hph ⊢
    exact ⟨Or.inl hph, rfl⟩

/-- At rest the last transfer is known to be good. -/
theorem Awake.quiescent (h : Awake s) (hq : Quiescent s) : Clean s.submissions s.slots := by
  have hph := h.phase
  obtain ⟨_, hf, hc⟩ := hq
  have hflagged : Flagged s.submissions s.slots s.previous → Clean s.submissions s.slots := by
    rintro (hcl | ⟨_, hin⟩)
    · exact hcl
    · rw [hf _ s.previous_lt] at hin
      cases hin
  cases hp : s.caller with
  | idle => rw [hp] at hph; exact hflagged hph
  | all data r => rw [hp] at hph; exact hflagged hph
  | drained => rw [hp] at hph; exact hph
  | _ => rw [hp] at hc; cases hc

/-- The client task works on the slots while they are at rest. -/
theorem Awake.client (h : Awake s) (hq : Quiescent s) {slots : Nat → BulkSlot} {wedged recovering usable : Bool}
    (hc : Clean s.submissions slots) : Awake { s with slots, wedged, recovering, usable } := by
  refine ⟨h.next_lt, h.data, ?_⟩
  have hat := hq.2.2
  show Phase _ s.caller
  cases hp : s.caller with
  | idle => exact Or.inl hc
  | all data r => exact Or.inl hc
  | drained => exact hc
  | _ => rw [hp] at hat; cases hat

/-- One step keeps the invariant. -/
theorem inv_step {a : BulkAct} (h : LossInv s) (hw : s.Watched a) (hs : s.step a = some s') : LossInv s' := by
  cases a with
  | caller answer =>
    intro ht
    rcases h (allTrue_callerStep hs ht) with ⟨h1, h2⟩ | ⟨h1, h2⟩
    · exact Or.inl (doomed_callerStep h1 h2 hs)
    · exact awake_callerStep h1 h2 ht hs
  | callback i status actual => exact inv_callback h hw hs
  | bulkWriteAll data =>
    simp only [step] at hs
    split at hs
    · rename_i ho
      cases hs
      intro ht
      rcases h ht with ⟨h1, h2⟩ | ⟨h1, h2⟩
      · refine Or.inl ⟨h1, ?_⟩
        show (proceed data).doomed = true
        unfold proceed
        split <;> rfl
      · obtain ⟨hfl, hr⟩ := h2.outside ho
        have hd := h2.data
        rw [hr, List.append_nil] at hd
        refine Or.inr ⟨h1, h2.next_lt, ?_, ?_⟩
        · show _ ++ (proceed data).rest = s.written ++ data
          rw [rest_proceed, ← hd]
        · show Phase _ (proceed data)
          unfold proceed
          split <;> exact hfl
    · cases hs
  | waitForBulkOut =>
    simp only [step] at hs
    split at hs
    · rename_i ho
      cases hs
      intro ht
      rcases h ht with ⟨h1, _⟩ | ⟨h1, h2⟩
      · exact Or.inl ⟨h1, rfl⟩
      · obtain ⟨hfl, hr⟩ := h2.outside ho
        exact Or.inr ⟨h1, h2.go hr.symm hfl⟩
    · cases hs
  | closeDevice =>
    cases hs
    exact fun ht => (h ht).imp id fun ⟨h1, h2⟩ => ⟨h1, h2.next_lt, h2.data, h2.phase.allocate (freed_release s.slots) rfl rfl⟩
  | recovered =>
    simp only [step] at hs
    split at hs
    · cases hs
      intro ht
      have hq := hw ht
      rcases h ht with ⟨h1, _⟩ | ⟨_, h2⟩
      · exact absurd h1 (by simp [hq.1])
      · exact Or.inr ⟨rfl, h2.client hq (h2.quiescent hq).clearInFlight⟩
    · cases hs
  | enumerated usable =>
    cases hs
    intro ht
    have hq := hw ht
    rcases h ht with ⟨h1, _⟩ | ⟨_, h2⟩
    · exact absurd h1 (by simp [hq.1])
    · exact Or.inr ⟨rfl, h2.client hq (h2.quiescent hq).clearInFlight⟩
  | detached =>
    cases hs
    exact fun ht => (h ht).imp id fun ⟨h1, h2⟩ => ⟨h1, h2.next_lt, h2.data, h2.phase⟩
  | resetTaken =>
    simp only [step] at hs
    split at hs
    · cases hs
      exact fun ht => (h ht).imp id fun ⟨h1, h2⟩ => ⟨h1, h2.next_lt, h2.data, h2.phase⟩
    · cases hs
  | opened =>
    cases hs
    exact fun ht => (h ht).imp id fun ⟨h1, h2⟩ => ⟨h1, h2.next_lt, h2.data, h2.phase⟩

theorem inv_begin : LossInv {} := fun _ => Or.inr ⟨rfl, by decide, rfl, Or.inl ⟨by simp, fun _ => ⟨rfl, fun _ => rfl⟩⟩⟩

/-- **No byte is silently lost**, in every run in which no failure is overlooked: if every
`bulkWriteAll` and the last `waitForBulkOut` returned true, every transfer was completed in full, and
their data in order are what was written. -/
theorem nothing_lost {acts : List BulkAct} (hw : Lib.Meets step Watched {} acts)
    (hr : Lib.run step {} acts = some s) (ht : s.allTrue = true) (hd : s.caller = .drained) :
    (∀ x ∈ s.submissions, x.Good) ∧ (s.submissions.map (·.data)).flatten = s.written := by
  have h : LossInv s := Lib.run_inv (fun _ _ _ => inv_step) inv_begin hw hr
  rcases h ht with ⟨_, h2⟩ | ⟨_, h2⟩
  · rw [hd] at h2
    cases h2
  · have hph := h2.phase
    have hdata := h2.data
    rw [hd] at hph hdata
    exact ⟨hph.good, by rw [← hdata]; exact (List.append_nil _).symm⟩

end steps

/-- The printer is there and one byte has been submitted. -/
def submitted : List BulkAct :=
  [.opened, .enumerated true, .bulkWriteAll [1]] ++ List.replicate 9 (.caller true)

/-- The transfer is completed before `waitForBulkOut` looks. -/
def completedInTime : List BulkAct :=
  submitted ++ [.callback 0 .completed 1, .waitForBulkOut] ++ List.replicate 6 (.caller true)

theorem nothing_lost_completed :
    ∃ s, Lib.run step {} completedInTime = some s ∧ s.written = [1] ∧
      (s.submissions.map (·.data)).flatten = s.written := by
  have hw : Lib.Meets step Watched {} completedInTime := by decide +kernel
  have hr : (Lib.run step {} completedInTime).map (fun s => (s.allTrue, s.caller, s.written)) =
      some (true, .drained, [1]) := by decide +kernel
  obtain ⟨s, hs, h⟩ := Option.map_eq_some_iff.1 hr
  obtain ⟨ht, hd, hwr⟩ : s.allTrue = true ∧ s.caller = .drained ∧ s.written = [1] := by simpa using h
  exact ⟨s, hs, hwr, (nothing_lost hw hs ht hd).2⟩

/-- The transfer fails before `waitForBulkOut` looks. -/
def failedUnseen : List BulkAct :=
  submitted ++ [.callback 0 (.other 1) 0, .waitForBulkOut] ++ List.replicate 6 (.caller true)

theorem failure_overlooked :
    ∃ s, Lib.run step {} failedUnseen = some s ∧ s.allTrue = true ∧ s.caller = .drained ∧
      ¬ ∀ x ∈ s.submissions, x.Good := by
  have hr : (Lib.run step {} failedUnseen).map (fun s => (s.allTrue, s.caller, s.submissions)) =
      some (true, .drained, [{ data := [1], result := some (.other 1, 0) }]) := by decide +kernel
  obtain ⟨s, hs, h⟩ := Option.map_eq_some_iff.1 hr
  obtain ⟨ht, hd, hx⟩ : s.allTrue = true ∧ s.caller = .drained ∧ s.submissions = [_] := by simpa using h
  refine ⟨s, hs, ht, hd, fun hgood => ?_⟩
  have hone := hgood _ (by rw [hx]; exact List.mem_singleton_self _)
  exact absurd hone (by unfold Submission.Good; decide)

end BulkOut
end PrintServer
