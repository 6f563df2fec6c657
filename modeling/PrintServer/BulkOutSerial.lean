import PrintServer.BulkOutSlots
/-!
# How deep the pipeline is (usb_host_manager.cpp:30-38, 652-707)

`USB_BULK_PIPELINE_DEPTH` slots are there so that the bus never idles between two blocks. A call
reuses the slot `g.bulkOutNext`, which is the oldest one; what it waits for is the slot before it,
which is the one submitted last (:667-674). `Pipelines` says what the depth is for, and
`pipelines_iff` when a call does it: when the transfer submitted last is back already. Two
transfers are never out together, on any run of a healthy link.
-/
namespace PrintServer
namespace BulkOut

/-- All slots are in flight. -/
def Full (s : BulkOut) : Prop := ∀ i < usbBulkPipelineDepth, (s.slots i).inFlight = true

/-- No transfer that is out was submitted before the one of slot `i`. -/
def Oldest (s : BulkOut) (i : Nat) : Prop :=
  ∀ j k l, (s.slots i).held = some k → (s.slots j).held = some l → k ≤ l

/-- What the slots are for, at the point where `bulkWrite` decides whether to wait (:674). Behind
`prepare` there is no wait before the submission. -/
structure Pipelines (s : BulkOut) : Prop where
  waits : ∀ data r answer s', s.caller = .look data r → s.callerStep answer = some s' →
    ∀ job i, s'.caller = .wait job i → s.Full ∧ i = s.next ∧ s.Oldest i
  submits : ∀ data r answer s', s.caller = .look data r → s.callerStep answer = some s' → ¬ s.Full →
    s'.caller = .prepare data r

/-- No flag of a transfer that is out is cleared: no wait is given up and no recovery runs while the
driver has one. -/
def Healthy (s : BulkOut) : BulkAct → Prop
  | .caller _ => ∀ i, s.caller.givesUp = some i → (s.slots i).held = none
  | .recovered | .enumerated _ => ∀ i < usbBulkPipelineDepth, (s.slots i).inFlight = true → (s.slots i).held = none
  | _ => True

instance (s : BulkOut) (a : BulkAct) : Decidable (s.Healthy a) :=
  match a with
  | .caller _ => inferInstanceAs (Decidable (∀ i ∈ s.caller.givesUp, (s.slots i).held = none))
  | .recovered | .enumerated _ => inferInstanceAs (Decidable (∀ i < _, _ → _))
  | .callback .. | .closeDevice | .bulkWriteAll _ | .waitForBulkOut | .detached | .resetTaken | .opened =>
    inferInstanceAs (Decidable True)

section environment
variable {s s' : BulkOut} {answer : Bool}

theorem previous_ne_next (h : s.next < usbBulkPipelineDepth) : s.previous ≠ s.next := by
  unfold previous usbBulkPipelineDepth at *
  omega

theorem spot_lt (h : s.next < usbBulkPipelineDepth) {i : Nat} (hi : s.spot s.caller = some i) :
    i < usbBulkPipelineDepth := by
  have hprev := s.previous_lt
  unfold spot at hi
  split at hi <;> cases hi <;> assumption

/-! ## Two transfers are never out together -/

/-- The flags may say more than the driver has: a callback in the gap before :700 leaves one set. -/
structure OneOut (s : BulkOut) : Prop where
  next_lt : s.next < usbBulkPipelineDepth
  alone : ∀ i, (s.slots i).held ≠ none → s.spot s.caller = some i
  flagged : ∀ i, (s.slots i).held ≠ none → (s.slots i).inFlight = true ∨ s.caller.submitting = true
  token : ∀ i, (s.slots i).done = true → (s.slots i).held = none
  waits : ∀ i, s.caller.waitsFor = some i → i = s.previous
  emptied : s.caller.emptied = true → (s.slots s.next).done = false

/-- For a slot that is still out nothing has changed. -/
structure Kept (slots slots' : Nat → BulkSlot) : Prop where
  held : ∀ i, (slots' i).held ≠ none → (slots i).held ≠ none
  inFlight : ∀ i, (slots' i).held ≠ none → (slots i).inFlight = true → (slots' i).inFlight = true
  done : ∀ i, (slots' i).held ≠ none → (slots' i).done = true → (slots i).done = true

theorem SameOwners.kept {slots slots' : Nat → BulkSlot} (h : SameOwners slots slots') : Kept slots slots' where
  held := fun i hi => h.held i ▸ hi
  inFlight := fun i _ hi => (h.inFlight i).trans hi
  done := fun i _ => h.done i

/-- Slot `i` is not out any more, and the others are as before. -/
theorem Kept.set {i : Nat} {x : BulkSlot} (hx : x.held = none) : Kept s.slots (s.setSlot i x).slots := by
  have hne : ∀ j, ((s.setSlot i x).slots j).held ≠ none → (s.setSlot i x).slots j = s.slots j := by
    intro j hj
    refine setSlot_ne s i x j ?_
    rintro rfl
    rw [setSlot_self] at hj
    exact hj hx
  exact ⟨fun j hj => hne j hj ▸ hj, fun j hj => hne j hj ▸ id, fun j hj => hne j hj ▸ id⟩

/-- The caller moves on, or stays. -/
theorem OneOut.go (h : OneOut s) {c : BulkCaller} {slots : Nat → BulkSlot}
    {wedged reset recovering deviceOpen usable allTrue : Bool} {submissions : List Submission} {written : Bytes}
    (he : Kept s.slots slots) (hs : s.caller.submitting = true → c.submitting = true)
    (halone : ∀ i, (s.slots i).held ≠ none → s.spot c = some i) (hwaits : ∀ i, c.waitsFor = some i → i = s.previous)
    (hemptied : c.emptied = true → (slots s.next).done = false) :
    OneOut { s with
      caller := c, slots, wedged, resetRequested := reset, recovering, deviceOpen, usable, allTrue, submissions, written } where
  next_lt := h.next_lt
  alone := fun i hi => halone i (he.held i hi)
  flagged := by
    intro i hi
    rcases h.flagged i (he.held i hi) with hf | hf
    · exact Or.inl (he.inFlight i hi hf)
    · exact Or.inr (hs hf)
  token := by
    intro i hi
    by_contra hh
    exact he.held i hh (h.token i (he.done i hh hi))
  waits := hwaits
  emptied := hemptied

/-- To a place where the slots are left alone. -/
theorem OneOut.plain (h : OneOut s) (hs : s.caller.submitting = false) {c : BulkCaller} {slots : Nat → BulkSlot}
    {wedged reset allTrue : Bool} {written : Bytes} (he : Kept s.slots slots) (hc : c.plain = true)
    (hprev : ∀ i, (s.slots i).held ≠ none → s.previous = i) :
    OneOut { s with caller := c, slots, wedged, resetRequested := reset, allTrue, written } := by
  obtain ⟨-, h2, -, h4, h5⟩ := plain_facts hc
  refine h.go he (fun hi => ?_) (fun i hi => ?_) (fun i hi => ?_) (fun hi => ?_)
  · cases hi.symm.trans hs
  · rw [h5, hprev i hi]
  · cases hi.symm.trans h2
  · cases hi.symm.trans h4

theorem OneOut.previous (h : OneOut s) {c : BulkCaller} (hp : s.caller = c) (hc : s.spot c = some s.previous) :
    ∀ i, (s.slots i).held ≠ none → s.previous = i := by
  intro i hi
  have ha := h.alone i hi
  rw [hp, hc] at ha
  exact Option.some.inj ha

/-- Nothing is out. -/
theorem OneOut.nothing (h : OneOut s) {c : BulkCaller} (hp : s.caller = c) (hc : s.spot c = none) :
    ∀ i, (s.slots i).held = none := by
  intro i
  by_contra hi
  have ha := h.alone i hi
  rw [hp, hc] at ha
  cases ha

/-- A slot that is not flagged is not out, but for the one whose flag is about to be set. -/
theorem OneOut.unflagged (h : OneOut s) (hs : s.caller.submitting = false) {i : Nat}
    (hi : (s.slots i).inFlight = false) : (s.slots i).held = none := by
  by_contra hh
  rcases h.flagged i hh with hf | hf
  · cases hi.symm.trans hf
  · cases hs.symm.trans hf

/-- The driver takes the transfer: it has no other. -/
theorem OneOut.submit (h : OneOut s) {data : Bytes} {r : Nat} (hp : s.caller = .submit data r) {k : Nat}
    {submissions : List Submission} :
    OneOut { s.setSlot s.next { s.slots s.next with held := some k } with
      submissions, caller := .flag data r } := by
  have hno := h.nothing hp rfl
  have hd := h.emptied (by rw [hp]; rfl)
  have hself := setSlot_self s s.next { s.slots s.next with held := some k }
  have hne : ∀ i, i ≠ s.next → (s.setSlot s.next { s.slots s.next with held := some k }).slots i = s.slots i :=
    setSlot_ne s _ _
  refine ⟨h.next_lt, fun i hi => ?_, fun _ _ => Or.inr rfl, fun i hi => ?_, fun i hi => (by cases hi), fun hi => (by cases hi)⟩
  · refine congrArg some ?_
    by_contra hn
    have hi : ((s.setSlot s.next { s.slots s.next with held := some k }).slots i).held ≠ none := hi
    rw [hne i (Ne.symm hn)] at hi
    exact hi (hno i)
  · have hi : ((s.setSlot s.next { s.slots s.next with held := some k }).slots i).done = true := hi
    show ((s.setSlot s.next _).slots i).held = none
    by_cases hn : i = s.next
    · rw [hn, hself] at hi
      cases hi.symm.trans hd
    · rw [hne i hn]
      exact hno i

/-- The slot is flagged, whether the driver still has it or not. -/
theorem OneOut.flag (h : OneOut s) {data : Bytes} {r : Nat} (hp : s.caller = .flag data r) :
    OneOut { s.setSlot s.next { s.slots s.next with inFlight := true } with caller := .advance data r } := by
  have hself := setSlot_self s s.next { s.slots s.next with inFlight := true }
  have hne : ∀ i, i ≠ s.next → (s.setSlot s.next { s.slots s.next with inFlight := true }).slots i = s.slots i :=
    setSlot_ne s _ _
  have halone : ∀ i, ((s.setSlot s.next { s.slots s.next with inFlight := true }).slots i).held ≠ none → s.next = i := by
    intro i hi
    by_contra hn
    rw [hne i (Ne.symm hn)] at hi
    have ha := h.alone i hi
    rw [hp] at ha
    exact hn (Option.some.inj ha)
  refine ⟨h.next_lt, fun i hi => congrArg some (halone i hi), fun i hi => Or.inl ?_, fun i hi => ?_,
    fun i hi => (by cases hi), fun hi => (by cases hi)⟩
  · rw [← halone i hi]
    show ((s.setSlot s.next _).slots s.next).inFlight = true
    rw [hself]
  · have hi : ((s.setSlot s.next { s.slots s.next with inFlight := true }).slots i).done = true := hi
    show ((s.setSlot s.next _).slots i).held = none
    by_cases hn : i = s.next
    · subst hn
      rw [hself] at hi ⊢
      exact h.token _ hi
    · rw [hne i hn] at hi ⊢
      exact h.token i hi

/-- `g.bulkOutNext` moves on. -/
theorem OneOut.advance (h : OneOut s) {data rest : Bytes} {r : Nat} (hp : s.caller = .advance data r) :
    OneOut { s with next := (s.next + 1) % usbBulkPipelineDepth, caller := proceed rest } := by
  obtain ⟨-, h2, -, h4, h5⟩ := plain_facts (plain_proceed rest)
  have hflag := h.flagged
  have halone := h.alone
  rw [hp] at hflag halone
  refine ⟨Nat.mod_lt _ (by decide), fun i hi => ?_, fun i hi => Or.inl ?_, h.token, ?_, ?_⟩
  · have ha : some s.next = some i := halone i hi
    exact ((h5 _).trans (congrArg some (previous_advance h.next_lt))).trans ha
  · rcases hflag i hi with hf | hf
    · exact hf
    · cases hf
  · exact fun i hi => (by cases hi.symm.trans h2)
  · exact fun hi => (by cases hi.symm.trans h4)

/-- `bulkWriteAll` and `bulkWrite`, up to the slots. -/
theorem oneOut_entry (h : OneOut s) (hg : s.caller.stage = .entry) (hs : s.callerStep answer = some s') :
    OneOut s' := by
  have hsame : Kept s.slots s.slots := (SameOwners.refl _).kept
  have hallocate : Kept s.slots s.allocateAll.slots := ⟨fun _ => id, fun _ _ => id, fun _ _ => id⟩
  unfold callerStep at hs
  cases hp : s.caller with
  | all data r =>
    rw [hp] at hs
    cases hs
    exact h.plain (by rw [hp]; rfl) hsame (by split <;> rfl) (h.previous hp rfl)
  | wedgeCheck data r =>
    rw [hp] at hs
    cases hs
    exact h.plain (by rw [hp]; rfl) hsame (by split <;> rfl) (h.previous hp rfl)
  | ensure data r =>
    rw [hp] at hs
    have hprev := h.previous hp rfl
    dsimp only at hs
    split at hs
    · cases hs
      exact h.plain (by rw [hp]; rfl) hsame rfl hprev
    · cases hs
      exact h.go hallocate (by rw [hp]; exact id) (fun i hi => congrArg some (hprev i hi)) (fun i hi => (by cases hi))
        (fun hi => (by cases hi))
  | look data r =>
    rw [hp] at hs
    cases hs
    have hprev := h.previous hp rfl
    by_cases hin : (s.slots s.previous).inFlight = true
    · rw [if_pos hin]
      refine h.go hsame (by rw [hp]; exact id) (fun i hi => congrArg some (hprev i hi)) ?_ (fun hi => (by cases hi))
      rintro i ⟨⟩
      rfl
    · rw [if_neg hin]
      refine h.go hsame (by rw [hp]; exact id) (fun i hi => ?_) (fun i hi => (by cases hi)) (fun hi => (by cases hi))
      rw [← hprev i hi] at hi
      exact absurd (h.unflagged (by rw [hp]; rfl) (by simpa using hin)) hi
  | failed data r =>
    rw [hp] at hs
    cases hs
    have hprev := h.previous hp rfl
    split
    · exact h.plain (by rw [hp]; rfl) hsame rfl hprev
    · exact h.plain (by rw [hp]; rfl) hsame rfl hprev
  | _ => rw [hp] at hg; cases hg

/-- `waitSlotDone`, and what its caller does about the answer. -/
theorem oneOut_waiting (h : OneOut s) (hg : s.caller.stage = .waiting) (ho : s.Healthy (.caller answer))
    (hs : s.callerStep answer = some s') : OneOut s' := by
  have hwaits := h.waits
  have hsame : Kept s.slots s.slots := (SameOwners.refl _).kept
  unfold callerStep at hs
  cases hp : s.caller with
  | wait job i =>
    rw [hp] at hs hwaits
    dsimp only at hs
    have hprev := h.previous hp rfl
    split at hs
    · rename_i hd
      cases hs
      -- the token says that the callback has run
      have hnone := h.token i hd
      have hset : Kept s.slots (s.setSlot i { s.slots i with done := false }).slots := .set hnone
      cases job with
      | drain => exact h.plain (by rw [hp]; rfl) hset rfl hprev
      | write data r =>
        refine h.go hset (by rw [hp]; exact id) (fun j hj => ?_) hwaits (fun hi => (by cases hi))
        rw [← hprev j hj, ← hwaits i rfl] at hj
        exact absurd hnone hj
    · split at hs
      · cases hs
        cases job with
        | drain => exact h.plain (by rw [hp]; rfl) hsame rfl hprev
        | write data r =>
          exact h.go hsame (by rw [hp]; exact id) (fun j hj => congrArg some (hprev j hj)) hwaits
            (fun hi => (by cases hi))
      · cases hs
  | recover job i =>
    rw [hp] at hs hwaits
    dsimp only at hs
    have hprev := h.previous hp rfl
    split at hs
    · rename_i hd
      cases hs
      have hset : Kept s.slots (s.setSlot i { s.slots i with done := false }).slots := .set (h.token i hd)
      cases job with
      | drain => exact h.plain (by rw [hp]; rfl) hset rfl hprev
      | write data r =>
        exact h.go hset (by rw [hp]; exact id) (fun j hj => congrArg some (hprev j hj)) hwaits
          (fun hi => (by cases hi))
    · split at hs
      · cases hs
        cases job with
        | drain => exact h.plain (by rw [hp]; rfl) hsame rfl hprev
        | write data r =>
          exact h.go hsame (by rw [hp]; exact id) (fun j hj => congrArg some (hprev j hj)) hwaits
            (fun hi => (by cases hi))
      · cases hs
  | inspect job i =>
    rw [hp] at hs hwaits
    dsimp only at hs
    cases job with
    | drain =>
      have hprev := h.previous hp rfl
      split at hs
      · cases hs
        exact h.plain (by rw [hp]; rfl) hsame rfl hprev
      · cases hs
        exact h.plain (by rw [hp]; rfl) hsame rfl hprev
    | write data r =>
      have hno := h.nothing hp rfl
      split at hs
      · cases hs
        exact h.go hsame (by rw [hp]; exact id) (fun j hj => absurd (hno j) hj) hwaits (fun hi => (by cases hi))
      · cases hs
        exact h.go hsame (by rw [hp]; exact id) (fun j hj => absurd (hno j) hj) (fun i hi => (by cases hi))
          (fun hi => (by cases hi))
  | refused job i =>
    have hnone : (s.slots i).held = none := ho i (by rw [hp]; rfl)
    have hset : Kept s.slots (s.setSlot i { s.slots i with inFlight := false }).slots := .set hnone
    have hprev := h.previous hp rfl
    rw [hp] at hs hwaits
    dsimp only at hs
    cases job with
    | drain =>
      cases hs
      exact h.plain (by rw [hp]; rfl) hset rfl hprev
    | write data r =>
      cases hs
      refine h.go hset (by rw [hp]; exact id) (fun j hj => ?_) (fun i hi => (by cases hi)) (fun hi => (by cases hi))
      rw [← hprev j hj, ← hwaits i rfl] at hj
      exact absurd hnone hj
  | reread data r =>
    rw [hp] at hs
    cases hs
    have hno := h.nothing hp rfl
    cases s.wedged with
    | true => exact h.plain (by rw [hp]; rfl) hsame rfl (fun j hj => absurd (hno j) hj)
    | false =>
      exact h.go hsame (by rw [hp]; exact id) (fun j hj => absurd (hno j) hj) (fun i hi => (by cases hi))
        (fun hi => (by cases hi))
  | _ => rw [hp] at hg; cases hg

/-- The submission. -/
theorem oneOut_submission (h : OneOut s) (hg : s.caller.stage = .submission) (hs : s.callerStep answer = some s') :
    OneOut s' := by
  have hempt := h.emptied
  have hsame : Kept s.slots s.slots := (SameOwners.refl _).kept
  unfold callerStep at hs
  cases hp : s.caller with
  | prepare data r =>
    rw [hp] at hs
    cases hs
    have hno := h.nothing hp rfl
    refine h.go (.set (hno _)) (by rw [hp]; exact id) (fun j hj => absurd (hno j) hj) (fun i hi => (by cases hi))
      (fun _ => ?_)
    rw [setSlot_self]
  | fill data r =>
    rw [hp] at hs hempt
    dsimp only at hs
    have hno := h.nothing hp rfl
    split at hs
    · cases hs
      refine h.go (.set (hno _)) (by rw [hp]; exact id) (fun j hj => absurd (hno j) hj) (fun i hi => (by cases hi))
        (fun _ => ?_)
      rw [setSlot_self]
      exact hempt rfl
    · cases hs
  | submit data r =>
    rw [hp] at hs
    dsimp only at hs
    split at hs
    · cases hs
      exact h.submit hp
    · cases hs
      exact h.plain (by rw [hp]; rfl) hsame rfl (fun j hj => absurd (h.nothing hp rfl j) hj)
  | flag data r =>
    rw [hp] at hs
    cases hs
    exact h.flag hp
  | advance data r =>
    rw [hp] at hs
    cases hs
    exact h.advance hp
  | _ => rw [hp] at hg; cases hg

/-- `waitForBulkOut`. -/
theorem oneOut_draining (h : OneOut s) (hg : s.caller.stage = .draining) (hs : s.callerStep answer = some s') :
    OneOut s' := by
  have hsame : Kept s.slots s.slots := (SameOwners.refl _).kept
  have hallocate : Kept s.slots s.allocateAll.slots := ⟨fun _ => id, fun _ _ => id, fun _ _ => id⟩
  unfold callerStep at hs
  cases hp : s.caller with
  | drainCheck =>
    rw [hp] at hs
    cases hs
    have hprev := h.previous hp rfl
    split
    · exact h.plain (by rw [hp]; rfl) hsame rfl hprev
    · exact h.plain (by rw [hp]; rfl) hsame rfl hprev
  | drainEnsure =>
    rw [hp] at hs
    cases hs
    have hprev := h.previous hp rfl
    split
    · exact h.plain (by rw [hp]; rfl) hsame rfl hprev
    · exact h.plain (by rw [hp]; rfl) hallocate rfl hprev
  | drain i =>
    rw [hp] at hs
    cases hs
    refine h.plain (by rw [hp]; rfl) hsame ?_ (h.previous hp rfl)
    split
    · rfl
    · split <;> rfl
  | _ => rw [hp] at hg; cases hg

/-- A step of the caller. -/
theorem oneOut_callerStep (h : OneOut s) (ho : s.Healthy (.caller answer)) (hs : s.callerStep answer = some s') :
    OneOut s' := by
  cases hg : s.caller.stage with
  | outside => cases (outside_callerStep hg).symm.trans hs
  | entry => exact oneOut_entry h hg hs
  | waiting => exact oneOut_waiting h hg ho hs
  | submission => exact oneOut_submission h hg hs
  | draining => exact oneOut_draining h hg hs

theorem oneOut_callback {i : Nat} {status : TransferStatus} {actual : Nat} (h : OneOut s)
    (hs : s.callback i status actual = some s') : OneOut s' := by
  obtain ⟨k, hk⟩ := callback_held hs
  have hout : (s.slots i).held ≠ none := by
    rw [hk]
    exact Option.some_ne_none k
  unfold BulkOut.callback at hs
  rw [hk] at hs
  cases hs
  refine h.go (.set rfl) id h.alone h.waits (fun hem => ?_)
  -- before the submission nothing is out that could be called back
  have hem : s.caller.emptied = true := hem
  have ha := h.alone i hout
  cases hp : s.caller with
  | fill => rw [hp] at ha; cases ha
  | submit => rw [hp] at ha; cases ha
  | _ => rw [hp] at hem; cases hem

/-- The client task changes what is not about the slots, … -/
theorem OneOut.client (h : OneOut s) {wedged reset recovering deviceOpen usable : Bool} :
    OneOut { s with wedged, resetRequested := reset, recovering, deviceOpen, usable } :=
  ⟨h.next_lt, h.alone, h.flagged, h.token, h.waits, h.emptied⟩

/-- … or clears the flags while nothing that is flagged is out. -/
theorem OneOut.clearInFlight (h : OneOut s)
    (hall : ∀ i < usbBulkPipelineDepth, (s.slots i).inFlight = true → (s.slots i).held = none) :
    OneOut s.clearInFlight := by
  refine h.go ⟨fun _ => id, fun i hi hf => ?_, fun _ _ => id⟩ id h.alone h.waits h.emptied
  have hi : (s.slots i).held ≠ none := hi
  exact absurd (hall i (spot_lt h.next_lt (h.alone i hi)) hf) hi

/-- One step. -/
theorem oneOut_step {a : BulkAct} (h : OneOut s) (ho : s.Healthy a) (hs : s.step a = some s') : OneOut s' := by
  cases a with
  | caller answer => exact oneOut_callerStep h ho hs
  | callback i status actual => exact oneOut_callback h hs
  | bulkWriteAll data =>
    simp only [step] at hs
    split at hs
    · rename_i hout
      cases hs
      rcases idle_or_drained hout with hp | hp
      · exact h.plain (by rw [hp]; rfl) (SameOwners.refl _).kept (plain_proceed data) (h.previous hp rfl)
      · exact h.plain (by rw [hp]; rfl) (SameOwners.refl _).kept (plain_proceed data) (h.previous hp rfl)
    · cases hs
  | waitForBulkOut =>
    simp only [step] at hs
    split at hs
    · rename_i hout
      cases hs
      rcases idle_or_drained hout with hp | hp
      · exact h.plain (by rw [hp]; rfl) (SameOwners.refl _).kept rfl (h.previous hp rfl)
      · exact h.plain (by rw [hp]; rfl) (SameOwners.refl _).kept rfl (h.previous hp rfl)
    · cases hs
  | closeDevice =>
    cases hs
    -- a semaphore that goes takes its token along
    have hdone : ∀ i, (s.freeResources.slots i).done = true → (s.slots i).done = true :=
      fun i hi => (Bool.and_eq_true_iff.1 hi).1
    refine h.go ⟨fun _ => id, fun _ _ => id, fun i _ => hdone i⟩ id h.alone h.waits (fun he => ?_)
    by_contra hd
    cases (hdone s.next (by simpa using hd)).symm.trans (h.emptied he)
  | detached => cases hs; exact h.client
  | opened => cases hs; exact h.client
  | resetTaken =>
    simp only [step] at hs
    split at hs
    · cases hs
      exact h.client
    · cases hs
  | recovered =>
    simp only [step] at hs
    split at hs
    · cases hs
      exact (h.clearInFlight ho).client
    · cases hs
  | enumerated usable =>
    cases hs
    exact (h.clearInFlight ho).client

theorem oneOut_begin : OneOut {} where
  next_lt := by decide
  alone := fun _ hi => absurd rfl hi
  flagged := fun _ hi => absurd rfl hi
  token := fun _ _ => rfl
  waits := fun _ hi => (by cases hi)
  emptied := fun hi => (by cases hi)

theorem OneOut.same (h : OneOut s) {i j : Nat} (hi : (s.slots i).held ≠ none) (hj : (s.slots j).held ≠ none) : i = j :=
  Option.some.inj ((h.alone i hi).symm.trans (h.alone j hj))

/-! ## When a call waits -/

/-- A call waits for the slot submitted last, which is never the one it is about to reuse. -/
theorem pipelines_iff_previous (hlt : s.next < usbBulkPipelineDepth) :
    Pipelines s ↔ ∀ data r, s.caller = .look data r → (s.slots s.previous).inFlight = false := by
  have hlook : ∀ data r, s.caller = .look data r → ∀ answer s', s.callerStep answer = some s' →
      s'.caller = if (s.slots s.previous).inFlight then .wait (.write data r) s.previous else .prepare data r := by
    intro data r hp answer s' hs
    unfold callerStep at hs
    rw [hp] at hs
    cases hs
    rfl
  have hstep : ∀ data r, s.caller = .look data r → ∃ s', s.callerStep true = some s' := by
    intro data r hp
    unfold callerStep
    rw [hp]
    exact ⟨_, rfl⟩
  constructor
  · intro h data r hp
    by_contra hf
    obtain ⟨s', hs⟩ := hstep data r hp
    have hc := hlook data r hp _ _ hs
    rw [if_pos (by simpa using hf)] at hc
    exact previous_ne_next hlt (h.waits data r true s' hp hs _ _ hc).2.1
  · intro h
    refine ⟨fun data r answer s' hp hs job i hw => ?_, fun data r answer s' hp hs _ => ?_⟩
    · rw [hlook data r hp _ _ hs, h data r hp] at hw
      cases hw
    · rw [hlook data r hp _ _ hs, h data r hp]
      rfl

/-- **The pipeline is one deep.** On any run of a healthy link a call does what the slots are for
exactly if the transfer submitted last is back already, and no two transfers are ever out. -/
theorem pipelines_iff {acts : List BulkAct} (hh : Lib.Meets step Healthy {} acts)
    (hr : Lib.run step {} acts = some s) :
    (Pipelines s ↔ ∀ data r, s.caller = .look data r → (s.slots s.previous).inFlight = false) ∧
      ∀ i j, (s.slots i).held ≠ none → (s.slots j).held ≠ none → i = j := by
  have h : OneOut s := Lib.run_inv (fun _ _ _ => oneOut_step) oneOut_begin hh hr
  exact ⟨pipelines_iff_previous h.next_lt, fun i j hi hj => h.same hi hj⟩

end environment

/-- Two writes; the second is about to look at the slot of the first, which is back already. -/
def secondWrite : List BulkAct := List.flatten
  [[.opened, .enumerated true], oneWrite 1 0, [.bulkWriteAll [2]], List.replicate 3 (.caller true)]

theorem pipelines_iff_secondWrite : ∃ s, Lib.run step {} secondWrite = some s ∧ s.caller = .look [2] 0 ∧
    Pipelines s := by
  have hh : Lib.Meets step Healthy {} secondWrite := by decide +kernel
  have hrun : (Lib.run step {} secondWrite).map (fun s => (s.caller, (s.slots s.previous).inFlight)) =
      some (.look [2] 0, false) := by decide +kernel
  obtain ⟨s, hs, hu⟩ := Option.map_eq_some_iff.1 hrun
  obtain ⟨hp, hf⟩ := Prod.mk.inj hu
  exact ⟨s, hs, hp, (pipelines_iff hh hs).1.2 fun _ _ _ => hf⟩

/-- The same writes, with the first transfer still out. -/
def secondWaits : List BulkAct := List.flatten
  [[.opened, .enumerated true, .bulkWriteAll [1]], List.replicate 9 (.caller true), [.bulkWriteAll [2]],
    List.replicate 3 (.caller true)]

/-- One slot of three is in flight, and the second call waits for it. -/
theorem waits_for_newest : ∃ s s', Lib.run step {} secondWaits = some s ∧ s.caller = .look [2] 0 ∧
    (∀ i < usbBulkPipelineDepth, (s.slots i).inFlight = true ↔ i = 0) ∧
    s.callerStep true = some s' ∧ s'.caller = .wait (.write [2] 0) 0 ∧ ¬ Pipelines s := by
  have hrun : (Lib.run step {} secondWaits).map (fun s => (s.caller, s.next, decide (∀ i < usbBulkPipelineDepth,
      (s.slots i).inFlight = true ↔ i = 0), (s.callerStep true).map (·.caller))) =
      some (.look [2] 0, 1, true, some (.wait (.write [2] 0) 0)) := by decide +kernel
  obtain ⟨s, hs, hu⟩ := Option.map_eq_some_iff.1 hrun
  obtain ⟨hp, hu⟩ := Prod.mk.inj hu
  obtain ⟨hn, hu⟩ := Prod.mk.inj hu
  obtain ⟨hf, hu⟩ := Prod.mk.inj hu
  obtain ⟨s', hs', hw⟩ := Option.map_eq_some_iff.1 hu
  refine ⟨s, s', hs, hp, of_decide_eq_true hf, hs', hw, fun h => ?_⟩
  have hreused := (h.waits _ _ _ _ hp hs' _ _ hw).2.1
  cases hreused.trans hn

end BulkOut
end PrintServer
