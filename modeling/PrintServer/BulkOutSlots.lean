import PrintServer.BulkOutLoss
/-!
# Who owns a transfer (usb_host_manager.cpp:151-167, 431-439, 619-707)

`inFlight` is to say that the driver has the slot's transfer. `bulkWrite` sets it only after
`usb_host_transfer_submit`, the callback clears it, and so do three places that do not ask the
driver: a wait that has given up, the recovery, a new enumeration. `Orderly` lists the steps in
which the flag and the driver come apart, or a transfer is freed under a `bulkWrite` that is about to
use it. In a run without them `Agreed` fails in one place only: between the submission and the flag
(`slots_agree`).
-/
namespace PrintServer

namespace BulkCaller

/-- Between a successful `usb_host_transfer_submit` and `slot.inFlight = true` (:692-700). -/
def submitting : BulkCaller → Bool
  | flag .. => true
  | _ => false

/-- Between `ensureBulkOutResources` and the `memcpy` into the transfer (:664-684). -/
def relying : BulkCaller → Bool
  | look .. | wait (.write ..) _ | recover (.write ..) _ | inspect (.write ..) _ | refused (.write ..) _
  | reread .. | prepare .. | fill .. => true
  | _ => false

/-- The slot that `bulkWrite` waits for. -/
def waitsFor : BulkCaller → Option Nat
  | wait (.write ..) i | recover (.write ..) i | inspect (.write ..) i | refused (.write ..) i => some i
  | _ => none

/-- The slot whose flag is cleared after a failed wait (:673, :747). -/
def givesUp : BulkCaller → Option Nat
  | refused _ i => some i
  | _ => none

/-- `slot.done` has been emptied (:678) and nothing is submitted yet. -/
def emptied : BulkCaller → Bool
  | fill .. | submit .. => true
  | _ => false

/-- Outside the part of `bulkWrite` that works on the slots. -/
def plain : BulkCaller → Bool
  | idle | drained | all .. | wedgeCheck .. | ensure .. | failed .. | drainCheck | drainEnsure | drain _
  | wait .drain _ | recover .drain _ | inspect .drain _ | refused .drain _ => true
  | _ => false

end BulkCaller

namespace BulkOut

structure Agreed (s : BulkOut) : Prop where
  /-- The assertion holds (:683). -/
  asserted : ∀ data r, s.caller = .fill data r →
    (s.slots s.next).allocated = true ∧ (s.slots s.next).inFlight = false
  owned : ∀ i, (s.slots i).inFlight = false → (s.slots i).held = none
  /-- So the `memcpy` does not go into a transfer that the driver has, … -/
  refilled : ∀ data r, s.caller = .fill data r → (s.slots s.next).held = none
  /-- … and `freeBulkOutResources` frees none. -/
  released : ∀ i, (s.slots i).allocated = true → (s.freeResources.slots i).allocated = false →
    (s.slots i).held = none

def Orderly (s : BulkOut) : BulkAct → Prop
  /- the callback runs before the flag is set -/
  | .callback i _ _ => s.caller.submitting = true → i ≠ s.next
  -- the slot is given up although the driver has not called back
  | .caller _ => ∀ i, s.caller.givesUp = some i → (s.slots i).held = none
  -- transfers that look idle are freed: the one being submitted, or the one `bulkWrite` counts on
  | .closeDevice => s.caller.submitting = false ∧ s.caller.relying = false
  -- all flags are cleared
  | .recovered | .enumerated _ => ∀ i < usbBulkPipelineDepth, (s.slots i).inFlight = true → (s.slots i).held = none
  | _ => True

instance (s : BulkOut) (a : BulkAct) : Decidable (s.Orderly a) :=
  match a with
  | .callback .. => inferInstanceAs (Decidable (_ → _))
  | .caller _ => decidable_of_iff (∀ i ∈ s.caller.givesUp, (s.slots i).held = none) Iff.rfl
  | .closeDevice => inferInstanceAs (Decidable (_ ∧ _))
  | .recovered | .enumerated _ => inferInstanceAs (Decidable (∀ i < _, _ → _))
  | .bulkWriteAll _ | .waitForBulkOut | .detached | .resetTaken | .opened => inferInstanceAs (Decidable True)

/-! ## At most one transfer is out -/

/-- The slot whose transfer may be out. -/
def spot (s : BulkOut) : BulkCaller → Option Nat
  | .inspect (.write ..) _ | .reread .. | .prepare .. | .fill .. | .submit .. => none
  | .flag .. | .advance .. => some s.next
  | _ => some s.previous

structure SlotInv (s : BulkOut) : Prop where
  next_lt : s.next < usbBulkPipelineDepth
  flagged : ∀ i, (s.slots i).inFlight = true → (s.slots i).held ≠ none
  owned : ∀ i, (s.slots i).inFlight = false → (s.slots i).held ≠ none → s.caller.submitting = true ∧ i = s.next
  window : s.caller.submitting = true → (s.slots s.next).inFlight = false ∧ (s.slots s.next).held ≠ none
  alone : ∀ i, (s.slots i).held ≠ none → s.spot s.caller = some i
  /-- A token means that the callback has run. -/
  token : ∀ i, (s.slots i).done = true → (s.slots i).held = none
  waits : ∀ i, s.caller.waitsFor = some i → i = s.previous
  relies : s.caller.relying = true → (s.slots s.next).allocated = true
  emptied : s.caller.emptied = true → (s.slots s.next).done = false

/-- The driver and the flags are as before; no token appears. -/
structure SameOwners (slots slots' : Nat → BulkSlot) : Prop where
  held : ∀ i, (slots' i).held = (slots i).held
  inFlight : ∀ i, (slots' i).inFlight = (slots i).inFlight
  done : ∀ i, (slots' i).done = true → (slots i).done = true

theorem SameOwners.refl (slots : Nat → BulkSlot) : SameOwners slots slots := ⟨fun _ => rfl, fun _ => rfl, fun _ => id⟩

theorem SameOwners.set {s : BulkOut} {i : Nat} {x : BulkSlot} (h1 : x.held = (s.slots i).held)
    (h2 : x.inFlight = (s.slots i).inFlight) (h3 : x.done = true → (s.slots i).done = true) :
    SameOwners s.slots (s.setSlot i x).slots := by
  refine ⟨fun j => ?_, fun j => ?_, fun j => ?_⟩ <;> by_cases hj : j = i
  · rw [hj, setSlot_self]
    exact h1
  · rw [setSlot_ne s i x j hj]
  · rw [hj, setSlot_self]
    exact h2
  · rw [setSlot_ne s i x j hj]
  · rw [hj, setSlot_self]
    exact h3
  · rw [setSlot_ne s i x j hj]
    exact id

/-- The token of a slot is taken. -/
theorem taken_allocated (s : BulkOut) (i j : Nat) :
    ((s.setSlot i { s.slots i with done := false }).slots j).allocated = (s.slots j).allocated := by
  by_cases hj : j = i
  · rw [hj, setSlot_self]
  · rw [setSlot_ne s i _ j hj]

theorem plain_facts {c : BulkCaller} (h : c.plain = true) :
    c.submitting = false ∧ c.waitsFor = none ∧ c.relying = false ∧ c.emptied = false ∧
      ∀ s : BulkOut, s.spot c = some s.previous := by
  cases c with
  | wait job i => cases job with
    | write => cases h
    | drain => exact ⟨rfl, rfl, rfl, rfl, fun _ => rfl⟩
  | recover job i => cases job with
    | write => cases h
    | drain => exact ⟨rfl, rfl, rfl, rfl, fun _ => rfl⟩
  | inspect job i => cases job with
    | write => cases h
    | drain => exact ⟨rfl, rfl, rfl, rfl, fun _ => rfl⟩
  | refused job i => cases job with
    | write => cases h
    | drain => exact ⟨rfl, rfl, rfl, rfl, fun _ => rfl⟩
  | look => cases h
  | reread => cases h
  | prepare => cases h
  | fill => cases h
  | submit => cases h
  | flag => cases h
  | advance => cases h
  | _ => exact ⟨rfl, rfl, rfl, rfl, fun _ => rfl⟩

theorem plain_proceed (data : Bytes) : (proceed data).plain = true := by
  unfold proceed
  split <;> rfl

section caller
variable {s s' : BulkOut} {answer : Bool}

/-- The caller moves on; nothing is submitted or called back. -/
theorem SlotInv.go (h : SlotInv s) (hs : s.caller.submitting = false) {c : BulkCaller} {slots : Nat → BulkSlot}
    {wedged reset allTrue deviceOpen : Bool} {written : Bytes} (he : SameOwners s.slots slots)
    (hc : c.submitting = false)
    (hspot : ∀ i, (s.slots i).held ≠ none → s.spot c = some i) (hwaits : ∀ i, c.waitsFor = some i → i = s.previous)
    (hrel : c.relying = true → (slots s.next).allocated = true)
    (hempt : c.emptied = true → (slots s.next).done = false) :
    SlotInv { s with caller := c, slots, wedged, resetRequested := reset, allTrue, deviceOpen, written } where
  next_lt := h.next_lt
  flagged := by
    intro i hi
    show (slots i).held ≠ none
    rw [he.held]
    exact h.flagged i ((he.inFlight i).symm.trans hi)
  owned := by
    intro i hi hheld
    have := h.owned i ((he.inFlight i).symm.trans hi) (by rw [← he.held]; exact hheld)
    rw [hs] at this
    cases this.1
  window := fun hw => (by cases hw.symm.trans hc)
  alone := fun i hi => hspot i (by rw [← he.held]; exact hi)
  token := by
    intro i hi
    show (slots i).held = none
    rw [he.held]
    exact h.token i (he.done i hi)
  waits := hwaits
  relies := hrel
  emptied := hempt

/-- It moves on to a place where the slots are left alone. -/
theorem SlotInv.plain (h : SlotInv s) (hs : s.caller.submitting = false) {c : BulkCaller} {slots : Nat → BulkSlot}
    {wedged reset allTrue : Bool} {written : Bytes} (he : SameOwners s.slots slots) (hc : c.plain = true)
    (hprev : ∀ i, (s.slots i).held ≠ none → s.previous = i) :
    SlotInv { s with caller := c, slots, wedged, resetRequested := reset, allTrue, written } := by
  obtain ⟨h1, h2, h3, h4, h5⟩ := plain_facts hc
  refine h.go hs he h1 (fun i hi => ?_) (fun i hi => ?_) (fun hr => ?_) (fun hr => ?_)
  · rw [h5, hprev i hi]
  · cases hi.symm.trans h2
  · cases hr.symm.trans h3
  · cases hr.symm.trans h4

theorem SlotInv.previous (h : SlotInv s) {c : BulkCaller} (hp : s.caller = c) (hc : s.spot c = some s.previous) :
    ∀ i, (s.slots i).held ≠ none → s.previous = i := by
  intro i hi
  have ha := h.alone i hi
  rw [hp, hc] at ha
  exact Option.some.inj ha

/-- Nothing is out. -/
theorem SlotInv.nothing (h : SlotInv s) {c : BulkCaller} (hp : s.caller = c) (hc : s.spot c = none) :
    ∀ i, (s.slots i).held = none := by
  intro i
  by_contra hi
  have ha := h.alone i hi
  rw [hp, hc] at ha
  cases ha

/-- The driver takes the transfer. -/
theorem SlotInv.submit (h : SlotInv s) {data : Bytes} {r : Nat} (hp : s.caller = .submit data r) {k : Nat}
    {submissions : List Submission} :
    SlotInv { s.setSlot s.next { s.slots s.next with held := some k } with
      submissions, caller := .flag data r } := by
  have hno := h.nothing hp rfl
  have hflag : ∀ i, (s.slots i).inFlight = false := by
    intro i
    by_contra hi
    exact h.flagged i (by simpa using hi) (hno i)
  have hd := h.emptied (by rw [hp]; rfl)
  have hne : ∀ i, i ≠ s.next → (s.setSlot s.next { s.slots s.next with held := some k }).slots i = s.slots i :=
    setSlot_ne s _ _
  have hself := setSlot_self s s.next { s.slots s.next with held := some k }
  have hinf : ∀ i, ((s.setSlot s.next { s.slots s.next with held := some k }).slots i).inFlight = false := by
    intro i
    by_cases hi : i = s.next
    · rw [hi, hself]
      exact hflag _
    · rw [hne i hi]
      exact hflag i
  have hheld : ∀ i, ((s.setSlot s.next { s.slots s.next with held := some k }).slots i).held ≠ none → i = s.next := by
    intro i hi
    by_contra hn
    rw [hne i hn] at hi
    exact hi (hno i)
  refine ⟨h.next_lt, ?_, ?_, ?_, ?_, ?_, ?_, ?_, ?_⟩
  · intro i hi
    cases hi.symm.trans (hinf i)
  · exact fun i _ hi => ⟨rfl, hheld i hi⟩
  · refine fun _ => ⟨hinf _, ?_⟩
    show ((s.setSlot s.next _).slots s.next).held ≠ none
    rw [hself]
    exact Option.some_ne_none k
  · exact fun i hi => congrArg some (hheld i hi).symm
  · intro i hi
    by_cases hn : i = s.next
    · subst hn
      have hi : ((s.setSlot s.next { s.slots s.next with held := some k }).slots s.next).done = true := hi
      rw [hself] at hi
      cases hi.symm.trans hd
    · show ((s.setSlot s.next _).slots i).held = none
      rw [hne i hn]
      exact hno i
  · exact fun i hi => (by cases hi)
  · exact fun hi => (by cases hi)
  · exact fun hi => (by cases hi)

/-- The slot is flagged. -/
theorem SlotInv.flag (h : SlotInv s) {data : Bytes} {r : Nat} (hp : s.caller = .flag data r) :
    SlotInv { s.setSlot s.next { s.slots s.next with inFlight := true } with caller := .advance data r } := by
  have hne : ∀ i, i ≠ s.next → (s.setSlot s.next { s.slots s.next with inFlight := true }).slots i = s.slots i :=
    setSlot_ne s _ _
  have hself := setSlot_self s s.next { s.slots s.next with inFlight := true }
  have hheld : ∀ i, ((s.setSlot s.next { s.slots s.next with inFlight := true }).slots i).held = (s.slots i).held := by
    intro i
    by_cases hi : i = s.next
    · rw [hi, hself]
    · rw [hne i hi]
  refine ⟨h.next_lt, ?_, ?_, ?_, ?_, ?_, ?_, ?_, ?_⟩
  · intro i hi
    show ((s.setSlot s.next _).slots i).held ≠ none
    rw [hheld]
    by_cases hn : i = s.next
    · rw [hn]
      exact (h.window (by rw [hp]; rfl)).2
    · have hi : ((s.setSlot s.next { s.slots s.next with inFlight := true }).slots i).inFlight = true := hi
      rw [hne i hn] at hi
      exact h.flagged i hi
  · intro i hi hh
    have hi : ((s.setSlot s.next { s.slots s.next with inFlight := true }).slots i).inFlight = false := hi
    have hh : ((s.setSlot s.next { s.slots s.next with inFlight := true }).slots i).held ≠ none := hh
    by_cases hn : i = s.next
    · rw [hn, hself] at hi
      cases hi
    · rw [hne i hn] at hi hh
      exact absurd (h.owned i hi hh).2 hn
  · exact fun hi => (by cases hi)
  · intro i hi
    have hi : ((s.setSlot s.next { s.slots s.next with inFlight := true }).slots i).held ≠ none := hi
    rw [hheld] at hi
    have ha := h.alone i hi
    rw [hp] at ha
    exact ha
  · intro i hi
    have hi : ((s.setSlot s.next { s.slots s.next with inFlight := true }).slots i).done = true := hi
    show ((s.setSlot s.next _).slots i).held = none
    rw [hheld]
    by_cases hn : i = s.next
    · subst hn
      rw [hself] at hi
      exact h.token _ hi
    · rw [hne i hn] at hi
      exact h.token i hi
  · exact fun i hi => (by cases hi)
  · exact fun hi => (by cases hi)
  · exact fun hi => (by cases hi)

/-- `g.bulkOutNext` moves on: the slot is the previous one now. -/
theorem SlotInv.advance (h : SlotInv s) {data rest : Bytes} {r : Nat} (hp : s.caller = .advance data r) :
    SlotInv { s with next := (s.next + 1) % usbBulkPipelineDepth, caller := proceed rest } := by
  obtain ⟨h1, h2, h3, h4, h5⟩ := plain_facts (plain_proceed rest)
  have halone := h.alone
  have howned := h.owned
  rw [hp] at halone howned
  refine ⟨Nat.mod_lt _ (by decide), h.flagged, ?_, ?_, ?_, h.token, ?_, ?_, ?_⟩
  · exact fun i hi hh => (by cases (howned i hi hh).1)
  · exact fun hi => (by cases hi.symm.trans h1)
  · intro i hi
    have ha : some s.next = some i := halone i hi
    refine (h5 _).trans ?_
    rw [← ha]
    exact congrArg some (previous_advance h.next_lt)
  · exact fun i hi => (by cases hi.symm.trans h2)
  · exact fun hi => (by cases hi.symm.trans h3)
  · exact fun hi => (by cases hi.symm.trans h4)

theorem SlotInv.unflagged (h : SlotInv s) {i : Nat} (hi : (s.slots i).held = none) : (s.slots i).inFlight = false := by
  by_contra hf
  exact h.flagged i (by simpa using hf) hi

/-- Clearing the flag of a slot does nothing once its callback has run. -/
theorem SlotInv.setSlot_unflag (h : SlotInv s) {i : Nat} (hi : (s.slots i).held = none) :
    s.setSlot i { s.slots i with inFlight := false } = s := by
  have hslots : (s.setSlot i { s.slots i with inFlight := false }).slots = s.slots := by
    funext j
    by_cases hj : j = i
    · rw [hj, setSlot_self, ← h.unflagged hi]
    · rw [setSlot_ne s i _ j hj]
  exact congrArg (fun slots => { s with slots }) hslots

/-- `bulkWriteAll` and `bulkWrite`, up to the slots. -/
theorem slots_entry (h : SlotInv s) (hg : s.caller.stage = .entry) (hs : s.callerStep answer = some s') :
    SlotInv s' := by
  have hrel := h.relies
  unfold callerStep at hs
  cases hp : s.caller with
  | all data r =>
    rw [hp] at hs
    cases hs
    exact h.plain (by rw [hp]; rfl) (.refl _) (by split <;> rfl) (h.previous hp rfl)
  | wedgeCheck data r =>
    rw [hp] at hs
    cases hs
    exact h.plain (by rw [hp]; rfl) (.refl _) (by split <;> rfl) (h.previous hp rfl)
  | ensure data r =>
    rw [hp] at hs
    have hprev := h.previous hp rfl
    dsimp only at hs
    split at hs
    · cases hs
      exact h.plain (by rw [hp]; rfl) (.refl _) rfl hprev
    · cases hs
      exact h.go (by rw [hp]; rfl) ⟨fun _ => rfl, fun _ => rfl, fun _ => id⟩ rfl
        (fun i hi => congrArg some (hprev i hi)) (fun i hi => (by cases hi)) (fun _ => rfl) (fun hi => (by cases hi))
  | look data r =>
    rw [hp] at hs hrel
    cases hs
    have hprev := h.previous hp rfl
    by_cases hin : (s.slots s.previous).inFlight = true
    · rw [if_pos hin]
      refine h.go (by rw [hp]; rfl) (.refl _) rfl (fun i hi => congrArg some (hprev i hi)) ?_ hrel (fun hi => (by cases hi))
      rintro i ⟨⟩
      rfl
    · rw [if_neg hin]
      refine h.go (by rw [hp]; rfl) (.refl _) rfl (fun i hi => ?_) (fun i hi => (by cases hi)) hrel (fun hi => (by cases hi))
      -- a transfer that is out is flagged
      rw [← hprev i hi] at hi
      have hw := h.owned _ (by simpa using hin) hi
      rw [hp] at hw
      cases hw.1
  | failed data r =>
    rw [hp] at hs
    cases hs
    have hprev := h.previous hp rfl
    split
    · exact h.plain (by rw [hp]; rfl) (.refl _) rfl hprev
    · exact h.plain (by rw [hp]; rfl) (.refl _) rfl hprev
  | _ => rw [hp] at hg; cases hg

/-- `waitSlotDone`, and what its caller does about the answer. -/
theorem slots_waiting (h : SlotInv s) (hg : s.caller.stage = .waiting) (ho : s.Orderly (.caller answer))
    (hs : s.callerStep answer = some s') : SlotInv s' := by
  have hwaits := h.waits
  have hrel := h.relies
  unfold callerStep at hs
  cases hp : s.caller with
  | wait job i =>
    rw [hp] at hs hrel hwaits
    dsimp only at hs
    have hprev := h.previous hp rfl
    split at hs
    · rename_i hd
      cases hs
      have hnone := h.token i hd
      have hset : SameOwners s.slots (s.setSlot i { s.slots i with done := false }).slots :=
        .set rfl rfl (fun hf => (by cases hf))
      cases job with
      | drain => exact h.plain (by rw [hp]; rfl) hset rfl hprev
      | write data r =>
        refine h.go (by rw [hp]; rfl) hset rfl (fun j hj => ?_) hwaits (fun _ => ?_) (fun hi => (by cases hi))
        · rw [← hprev j hj, ← hwaits i rfl] at hj
          exact absurd hnone hj
        · rw [taken_allocated]
          exact hrel rfl
    · split at hs
      · cases hs
        cases job with
        | drain => exact h.plain (by rw [hp]; rfl) (.refl _) rfl hprev
        | write data r =>
          exact h.go (by rw [hp]; rfl) (.refl _) rfl (fun j hj => congrArg some (hprev j hj)) hwaits hrel
            (fun hi => (by cases hi))
      · cases hs
  | recover job i =>
    rw [hp] at hs hrel hwaits
    dsimp only at hs
    have hprev := h.previous hp rfl
    split at hs
    · cases hs
      have hset : SameOwners s.slots (s.setSlot i { s.slots i with done := false }).slots :=
        .set rfl rfl (fun hf => (by cases hf))
      cases job with
      | drain => exact h.plain (by rw [hp]; rfl) hset rfl hprev
      | write data r =>
        refine h.go (by rw [hp]; rfl) hset rfl (fun j hj => congrArg some (hprev j hj)) hwaits (fun _ => ?_)
          (fun hi => (by cases hi))
        rw [taken_allocated]
        exact hrel rfl
    · split at hs
      · cases hs
        cases job with
        | drain => exact h.plain (by rw [hp]; rfl) (.refl _) rfl hprev
        | write data r =>
          exact h.go (by rw [hp]; rfl) (.refl _) rfl (fun j hj => congrArg some (hprev j hj)) hwaits hrel
            (fun hi => (by cases hi))
      · cases hs
  | inspect job i =>
    rw [hp] at hs hrel hwaits
    dsimp only at hs
    cases job with
    | drain =>
      have hprev := h.previous hp rfl
      split at hs
      · cases hs
        exact h.plain (by rw [hp]; rfl) (.refl _) rfl hprev
      · cases hs
        exact h.plain (by rw [hp]; rfl) (.refl _) rfl hprev
    | write data r =>
      have hno := h.nothing hp rfl
      split at hs
      · cases hs
        exact h.go (by rw [hp]; rfl) (.refl _) rfl (fun j hj => absurd (hno j) hj) hwaits hrel
          (fun hi => (by cases hi))
      · cases hs
        exact h.go (by rw [hp]; rfl) (.refl _) rfl (fun j hj => absurd (hno j) hj) (fun i hi => (by cases hi)) hrel
          (fun hi => (by cases hi))
  | refused job i =>
    have hnone : (s.slots i).held = none := ho i (by rw [hp]; rfl)
    have hprev := h.previous hp rfl
    rw [hp] at hs hrel hwaits
    dsimp only at hs
    cases job with
    | drain =>
      dsimp only at hs
      rw [h.setSlot_unflag hnone] at hs
      cases hs
      exact h.plain (by rw [hp]; rfl) (.refl _) rfl hprev
    | write data r =>
      dsimp only at hs
      rw [h.setSlot_unflag hnone] at hs
      cases hs
      refine h.go (by rw [hp]; rfl) (.refl _) rfl (fun j hj => ?_) (fun i hi => (by cases hi)) hrel (fun hi => (by cases hi))
      rw [← hprev j hj, ← hwaits i rfl] at hj
      exact absurd hnone hj
  | reread data r =>
    rw [hp] at hs hrel
    cases hs
    have hno := h.nothing hp rfl
    cases s.wedged with
    | true => exact h.plain (by rw [hp]; rfl) (.refl _) rfl (fun j hj => absurd (hno j) hj)
    | false =>
      exact h.go (by rw [hp]; rfl) (.refl _) rfl (fun j hj => absurd (hno j) hj) (fun i hi => (by cases hi)) hrel
        (fun hi => (by cases hi))
  | _ => rw [hp] at hg; cases hg

/-- The submission. -/
theorem slots_submission (h : SlotInv s) (hg : s.caller.stage = .submission) (hs : s.callerStep answer = some s') :
    SlotInv s' := by
  have hrel := h.relies
  have hempt := h.emptied
  unfold callerStep at hs
  cases hp : s.caller with
  | prepare data r =>
    rw [hp] at hs hrel
    cases hs
    have hno := h.nothing hp rfl
    refine h.go (by rw [hp]; rfl) (.set rfl rfl (fun hf => (by cases hf))) rfl (fun j hj => absurd (hno j) hj)
      (fun i hi => (by cases hi)) (fun _ => ?_) (fun _ => ?_)
    · rw [setSlot_self]
      exact hrel rfl
    · rw [setSlot_self]
  | fill data r =>
    rw [hp] at hs hempt
    dsimp only at hs
    have hno := h.nothing hp rfl
    split at hs
    · cases hs
      refine h.go (by rw [hp]; rfl) (.set rfl rfl id) rfl (fun j hj => absurd (hno j) hj)
        (fun i hi => (by cases hi)) (fun hi => (by cases hi)) (fun _ => ?_)
      rw [setSlot_self]
      exact hempt rfl
    · cases hs
  | submit data r =>
    rw [hp] at hs
    dsimp only at hs
    have hno := h.nothing hp rfl
    split at hs
    · cases hs
      exact h.submit hp
    · cases hs
      exact h.plain (by rw [hp]; rfl) (.refl _) rfl (fun j hj => absurd (hno j) hj)
  | flag data r =>
    rw [hp] at hs
    cases hs
    exact h.flag hp
  | advance data r =>
    rw [hp] at hs
    cases hs
    exact h.advance hp
  | _ => rw [hp] at hg; cases hg

/-- `waitForBulkOut`. -/
theorem slots_draining (h : SlotInv s) (hg : s.caller.stage = .draining) (hs : s.callerStep answer = some s') :
    SlotInv s' := by
  unfold callerStep at hs
  cases hp : s.caller with
  | drainCheck =>
    rw [hp] at hs
    cases hs
    have hprev := h.previous hp rfl
    split
    · exact h.plain (by rw [hp]; rfl) (.refl _) rfl hprev
    · exact h.plain (by rw [hp]; rfl) (.refl _) rfl hprev
  | drainEnsure =>
    rw [hp] at hs
    cases hs
    have hprev := h.previous hp rfl
    split
    · exact h.plain (by rw [hp]; rfl) (.refl _) rfl hprev
    · exact h.plain (by rw [hp]; rfl) ⟨fun _ => rfl, fun _ => rfl, fun _ => id⟩ rfl hprev
  | drain i =>
    rw [hp] at hs
    cases hs
    refine h.plain (by rw [hp]; rfl) (.refl _) ?_ (h.previous hp rfl)
    split
    · rfl
    · split <;> rfl
  | _ => rw [hp] at hg; cases hg

/-- A step of the caller. -/
theorem slots_callerStep (h : SlotInv s) (ho : s.Orderly (.caller answer)) (hs : s.callerStep answer = some s') :
    SlotInv s' := by
  cases hg : s.caller.stage with
  | outside => cases (outside_callerStep hg).symm.trans hs
  | entry => exact slots_entry h hg hs
  | waiting => exact slots_waiting h hg ho hs
  | submission => exact slots_submission h hg hs
  | draining => exact slots_draining h hg hs

end caller

/-! ## The driver and the client task -/

section environment
variable {s s' : BulkOut}

theorem slots_callback {i : Nat} {status : TransferStatus} {actual : Nat} (h : SlotInv s)
    (ho : s.Orderly (.callback i status actual)) (hs : s.callback i status actual = some s') : SlotInv s' := by
  obtain ⟨k, hk⟩ := callback_held hs
  have hout : (s.slots i).held ≠ none := by
    rw [hk]
    exact Option.some_ne_none k
  obtain ⟨hc, hn, _, _, _, _, hne⟩ := callback_frame hs
  have hself : s'.slots i = { s.slots i with
      inFlight := false, status, accepted := actual, done := (s.slots i).allocated, held := none } := by
    unfold BulkOut.callback at hs
    rw [hk] at hs
    cases hs
    exact setSlot_self s i _
  have hprev : s'.previous = s.previous := previous_congr hn
  have hspot : s'.spot s'.caller = s.spot s.caller := by
    unfold spot
    rw [hc, hn, hprev]
  refine ⟨by rw [hn]; exact h.next_lt, ?_, ?_, ?_, ?_, ?_, ?_, ?_, ?_⟩
  · intro j hj
    by_cases he : j = i
    · rw [he, hself] at hj
      cases hj
    · rw [hne j he] at hj ⊢
      exact h.flagged j hj
  · intro j hj hh
    by_cases he : j = i
    · rw [he, hself] at hh
      exact absurd rfl hh
    · rw [hne j he] at hj hh
      rw [hc, hn]
      exact h.owned j hj hh
  · intro hw
    rw [hc] at hw
    rw [hn, hne _ (ho hw).symm]
    exact h.window hw
  · intro j hj
    by_cases he : j = i
    · rw [he, hself] at hj
      exact absurd rfl hj
    · rw [hne j he] at hj
      rw [hspot]
      exact h.alone j hj
  · intro j hj
    by_cases he : j = i
    · rw [he, hself]
    · rw [hne j he] at hj ⊢
      exact h.token j hj
  · intro j hj
    rw [hc] at hj
    rw [hprev]
    exact h.waits j hj
  · intro hr
    rw [hc] at hr
    have ha := h.relies hr
    rw [hn]
    by_cases he : s.next = i
    · rw [he] at ha ⊢
      rw [hself]
      exact ha
    · rw [hne _ he]
      exact ha
  · -- before the submission nothing is out that could be called back
    intro hem
    rw [hc] at hem
    have ha := h.alone i hout
    cases hp : s.caller with
    | fill => rw [hp] at ha; cases ha
    | submit => rw [hp] at ha; cases ha
    | _ => rw [hp] at hem; cases hem

/-- The client task changes what is not about the slots. -/
theorem SlotInv.client (h : SlotInv s) {wedged reset recovering deviceOpen usable : Bool} :
    SlotInv { s with wedged, resetRequested := reset, recovering, deviceOpen, usable } :=
  ⟨h.next_lt, h.flagged, h.owned, h.window, h.alone, h.token, h.waits, h.relies, h.emptied⟩

/-- Once all callbacks have run, there is no flag to clear. -/
theorem SlotInv.clearInFlight_eq (h : SlotInv s)
    (hall : ∀ i < usbBulkPipelineDepth, (s.slots i).inFlight = true → (s.slots i).held = none) : s.clearInFlight = s := by
  have hdown : ∀ i, (s.slots i).inFlight = false := by
    intro i
    by_contra hf
    have hf : (s.slots i).inFlight = true := by simpa using hf
    have hout := h.flagged i hf
    have hlt : i < usbBulkPipelineDepth := by
      have ha := h.alone i hout
      have hprev := s.previous_lt
      have hnext := h.next_lt
      have hcases : s.spot s.caller = none ∨ s.spot s.caller = some s.next ∨ s.spot s.caller = some s.previous := by
        unfold spot
        split <;> simp
      rcases hcases with hc | hc | hc <;> rw [hc] at ha <;> cases ha <;> assumption
    exact hout (hall i hlt hf)
  have hslots : s.clearInFlight.slots = s.slots := by
    funext i
    show { s.slots i with inFlight := false } = s.slots i
    rw [← hdown i]
  exact congrArg (fun slots => { s with slots }) hslots

/-- One step. -/
theorem slots_step {a : BulkAct} (h : SlotInv s) (ho : s.Orderly a) (hs : s.step a = some s') : SlotInv s' := by
  cases a with
  | caller answer => exact slots_callerStep h ho hs
  | callback i status actual => exact slots_callback h ho hs
  | bulkWriteAll data =>
    simp only [step] at hs
    split at hs
    · rename_i hout
      cases hs
      rcases idle_or_drained hout with hp | hp
      · exact h.plain (by rw [hp]; rfl) (.refl _) (plain_proceed data) (h.previous hp rfl)
      · exact h.plain (by rw [hp]; rfl) (.refl _) (plain_proceed data) (h.previous hp rfl)
    · cases hs
  | waitForBulkOut =>
    simp only [step] at hs
    split at hs
    · rename_i hout
      cases hs
      rcases idle_or_drained hout with hp | hp
      · exact h.plain (by rw [hp]; rfl) (.refl _) rfl (h.previous hp rfl)
      · exact h.plain (by rw [hp]; rfl) (.refl _) rfl (h.previous hp rfl)
    · cases hs
  | closeDevice =>
    cases hs
    obtain ⟨hsub, hrel⟩ := ho
    have hdone : ∀ i, (s.freeResources.slots i).done = true → (s.slots i).done = true :=
      fun i hi => (Bool.and_eq_true_iff.1 hi).1
    refine h.go hsub ⟨fun _ => rfl, fun _ => rfl, hdone⟩ hsub h.alone h.waits (fun hr => ?_) (fun he => ?_)
    · cases hr.symm.trans hrel
    · by_contra hd
      have hd := hdone s.next (by simpa using hd)
      cases hd.symm.trans (h.emptied he)
  | detached => cases hs; exact h.client
  | opened => cases hs; exact h.client
  | resetTaken =>
    simp only [step] at hs
    split at hs
    · cases hs
      exact h.client
    · cases hs
  | recovered =>
    simp only [step] at hs
    split at hs
    · rw [h.clearInFlight_eq ho] at hs
      cases hs
      exact h.client
    · cases hs
  | enumerated usable =>
    simp only [step] at hs
    rw [h.clearInFlight_eq ho] at hs
    cases hs
    exact h.client

theorem slots_begin : SlotInv {} where
  next_lt := by decide
  flagged := fun _ hi => (by cases hi)
  owned := fun _ _ hi => absurd rfl hi
  window := fun hi => (by cases hi)
  alone := fun _ hi => absurd rfl hi
  token := fun _ _ => rfl
  waits := fun _ hi => (by cases hi)
  relies := fun hi => (by cases hi)
  emptied := fun hi => (by cases hi)

/-- Before the flag is set, and only there, the driver has a transfer of a slot that looks idle. -/
theorem SlotInv.agreed_iff (h : SlotInv s) : Agreed s ↔ s.caller.submitting = false := by
  constructor
  · intro ha
    by_contra hw
    obtain ⟨hf, hout⟩ := h.window (by simpa using hw)
    exact hout (ha.owned _ hf)
  · intro hw
    have howned : ∀ i, (s.slots i).inFlight = false → (s.slots i).held = none := by
      intro i hi
      by_contra hout
      cases (h.owned i hi hout).1.symm.trans hw
    have hfill : ∀ data r, s.caller = .fill data r → (s.slots s.next).held = none :=
      fun data r hp => h.nothing hp rfl _
    refine ⟨fun data r hp => ⟨h.relies (by rw [hp]; rfl), h.unflagged (hfill data r hp)⟩, howned, hfill, ?_⟩
    intro i hall hfree
    refine howned i ?_
    have hfree : ((s.slots i).allocated && (s.slots i).inFlight) = false := hfree
    rw [hall, Bool.true_and] at hfree
    exact hfree

/-- **Slots and driver agree on who owns a transfer**, in every orderly run, at every point but one:
the flag is set too late. -/
theorem slots_agree {acts : List BulkAct} (ho : Lib.Meets step Orderly {} acts)
    (hr : Lib.run step {} acts = some s) : Agreed s ↔ s.caller.submitting = false :=
  (Lib.run_inv (fun _ _ _ => slots_step) slots_begin ho hr).agreed_iff

end environment

/-- One write of a byte, with the callback behind the flag. -/
def oneWrite (b : UInt8) (i : Nat) : List BulkAct :=
  .bulkWriteAll [b] :: List.replicate 9 (.caller true) ++ [.callback i .completed 1]

/-- Three writes in order, and a fourth up to the assertion. -/
def fourthWrite : List BulkAct := List.flatten
  [[.opened, .enumerated true], oneWrite 1 0, oneWrite 2 1, oneWrite 3 2,
    [.bulkWriteAll [4]], List.replicate 5 (.caller true)]

theorem slots_agree_fourthWrite :
    ∃ s, Lib.run step {} fourthWrite = some s ∧ s.caller = .fill [4] 0 ∧ Agreed s := by
  have ho : Lib.Meets step Orderly {} fourthWrite := by decide +kernel
  have hrun : (Lib.run step {} fourthWrite).map (·.caller) = some (.fill [4] 0) := by decide +kernel
  obtain ⟨s, hs, hp⟩ := Option.map_eq_some_iff.1 hrun
  exact ⟨s, hs, hp, (slots_agree ho hs).2 (by rw [hp]; rfl)⟩

/-- The same writes, but the first transfer is completed before its slot is flagged. -/
def earlyCallback : List BulkAct := List.flatten
  [[.opened, .enumerated true, .bulkWriteAll [1]], List.replicate 7 (.caller true), [.callback 0 .completed 1],
    List.replicate 2 (.caller true), [.bulkWriteAll [2]], List.replicate 11 (.caller true), [.callback 1 .completed 1],
    oneWrite 3 2, [.bulkWriteAll [4]], List.replicate 5 (.caller true)]

/-- Nobody clears the flag any more, and the assertion fails when the slot comes round again. -/
theorem slots_disagree : ∃ s, Lib.run step {} earlyCallback = some s ∧ s.caller = .fill [4] 0 ∧
    (s.slots s.next).inFlight = true ∧ ¬ Agreed s := by
  have hrun : (Lib.run step {} earlyCallback).map (fun s => (s.caller, (s.slots s.next).inFlight)) =
      some (.fill [4] 0, true) := by decide +kernel
  obtain ⟨s, hs, hu⟩ := Option.map_eq_some_iff.1 hrun
  obtain ⟨hp, hf⟩ := Prod.mk.inj hu
  refine ⟨s, hs, hp, hf, fun ha => ?_⟩
  cases hf.symm.trans (ha.asserted _ _ hp).2

end BulkOut
end PrintServer
