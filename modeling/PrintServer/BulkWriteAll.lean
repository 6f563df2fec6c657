import Mathlib.Algebra.Group.Int.Defs
import Mathlib.Algebra.GroupWithZero.Nat
import PrintServer.BulkOut
/-!
# The loop of `bulkWriteAll` (usb_host_manager.cpp:709-733)

The pipeline shows what the two tasks and the driver do to `g` in between; here is the loop alone,
for whatever `bulkWrite` answers. One turn either moves `offset` on or counts a failure, so
`4 * (length - offset) + (3 - retries)` falls with each.

| here | there |
| --- | --- |
| `BulkLoop`    | `offset` and `retries` (:712), and the calls of `bulkWrite` so far |
| `BulkLoop.turn` | one turn of the loop; the left part is what the function returns |
-/
namespace PrintServer

/-- What `bulkWrite` returns and leaves in `accepted`. -/
structure BulkResult where
  ok : Bool
  accepted : Nat
deriving DecidableEq, Repr

/-- A call of `bulkWrite`. -/
structure BulkAttempt where
  offset : Nat
  part : Bytes
  result : BulkResult
deriving DecidableEq, Repr

structure BulkLoop where
  offset : Nat := 0
  retries : Nat := 0
  attempts : List BulkAttempt := []
deriving DecidableEq, Repr

/-- What the calls handed to the driver. -/
def acceptedParts (attempts : List BulkAttempt) : List Bytes :=
  (attempts.filter (·.result.ok)).map fun a => a.part.take a.result.accepted

/-- Each call is answered by `bulkWrite`, and is about the data behind what was accepted before it. -/
def Tried (bulkWrite : Nat → Bytes → BulkResult) (attempts : List BulkAttempt) : Prop :=
  ∀ n a, attempts[n]? = some a → a.result = bulkWrite n a.part ∧
    a.offset = ((attempts.take n).map fun x => x.result.accepted).sum

section Loop
variable (data : Bytes) (bulkWrite : Nat → Bytes → BulkResult)

namespace BulkLoop

/-- One turn (:714-731); the `n`-th call is answered by `bulkWrite n`. -/
def turn (s : BulkLoop) : Option Bool × BulkLoop :=
  if data.length ≤ s.offset then (some true, s)
  else
    let part := BulkOut.part (data.drop s.offset)
    let r := bulkWrite s.attempts.length part
    let attempts := s.attempts ++ [⟨s.offset, part, r⟩]
    if !r.ok then
      if 0 < r.accepted then (none, ⟨s.offset + r.accepted, 0, attempts⟩)
      else if 3 < s.retries + 1 then (some false, ⟨s.offset, s.retries + 1, attempts⟩)
      else (none, ⟨s.offset, s.retries + 1, attempts⟩)
    else (none, ⟨s.offset + r.accepted, 0, attempts⟩)

def loop : Nat → BulkLoop → Option (Bool × BulkLoop)
  | 0, _ => none
  | fuel + 1, s => match s.turn data bulkWrite with
    | (some ok, s) => some (ok, s)
    | (none, s) => loop fuel s

end BulkLoop

/-- `bulkWriteAll` (:709), with the calls it made; `none` if `fuel` turns were not enough. -/
def bulkWriteAll (fuel : Nat) : Option (Bool × List BulkAttempt) :=
  if data.isEmpty then some (true, []) else (BulkLoop.loop data bulkWrite fuel {}).map fun r => (r.1, r.2.attempts)

end Loop

/-- The two outcomes of `bulkWrite` (:705, and each `return false`). -/
def Proper (bulkWrite : Nat → Bytes → BulkResult) : Prop :=
  ∀ n part, bulkWrite n part = ⟨true, part.length⟩ ∨ bulkWrite n part = ⟨false, 0⟩

namespace BulkLoop
variable {data : Bytes} {bulkWrite : Nat → Bytes → BulkResult} {s : BulkLoop}

theorem acceptedParts_append (as as' : List BulkAttempt) :
    acceptedParts (as ++ as') = acceptedParts as ++ acceptedParts as' := by
  unfold acceptedParts
  rw [List.filter_append, List.map_append]

theorem length_part_le (d : Bytes) : (BulkOut.part d).length ≤ bulkOutChunkSize := List.length_take_le _ _

theorem part_pos {d : Bytes} (h : d ≠ []) : 0 < (BulkOut.part d).length := by
  unfold BulkOut.part
  rw [List.length_take]
  have := List.length_pos_iff.2 h
  exact Nat.lt_min.2 ⟨by decide, this⟩

/-- The failed call that the counter counts. -/
def failure (data : Bytes) (s : BulkLoop) : BulkAttempt := ⟨s.offset, BulkOut.part (data.drop s.offset), ⟨false, 0⟩⟩

/-- What was accepted is the data up to `offset`, and the last `retries` calls failed on the part
that comes next. -/
structure Inv (data : Bytes) (bulkWrite : Nat → Bytes → BulkResult) (s : BulkLoop) : Prop where
  offset_le : s.offset ≤ data.length
  accepted : (acceptedParts s.attempts).flatten = data.take s.offset
  parts : ∀ a ∈ s.attempts, a.part = BulkOut.part (data.drop a.offset)
  failures : ∃ before, s.attempts = before ++ List.replicate s.retries (s.failure data)
  tried : Tried bulkWrite s.attempts
  sum : (s.attempts.map fun a => a.result.accepted).sum = s.offset

/-- What is left to do. -/
def measure (data : Bytes) (s : BulkLoop) : Nat := 4 * (data.length - s.offset) + (3 - s.retries)

/-- What one turn does. -/
inductive Turned (data : Bytes) (bulkWrite : Nat → Bytes → BulkResult) (s : BulkLoop) : Option Bool × BulkLoop → Prop
  | done (h : s.offset = data.length) : Turned data bulkWrite s (some true, s)
  | accepted (h : s.offset < data.length) (hw : bulkWrite s.attempts.length (BulkOut.part (data.drop s.offset)) =
        ⟨true, (BulkOut.part (data.drop s.offset)).length⟩) : Turned data bulkWrite s (none,
      ⟨s.offset + (BulkOut.part (data.drop s.offset)).length, 0,
        s.attempts ++ [⟨s.offset, BulkOut.part (data.drop s.offset),
          ⟨true, (BulkOut.part (data.drop s.offset)).length⟩⟩]⟩)
  | failed (h : s.offset < data.length) (hw : bulkWrite s.attempts.length (BulkOut.part (data.drop s.offset)) = ⟨false, 0⟩)
      (hr : s.retries < 3) :
    Turned data bulkWrite s (none, ⟨s.offset, s.retries + 1, s.attempts ++ [s.failure data]⟩)
  | gaveUp (h : s.offset < data.length) (hw : bulkWrite s.attempts.length (BulkOut.part (data.drop s.offset)) = ⟨false, 0⟩)
      (hr : 3 ≤ s.retries) :
    Turned data bulkWrite s (some false, ⟨s.offset, s.retries + 1, s.attempts ++ [s.failure data]⟩)

theorem turned_turn (hp : Proper bulkWrite) (hi : s.Inv data bulkWrite) : Turned data bulkWrite s (s.turn data bulkWrite) := by
  unfold turn
  by_cases hend : data.length ≤ s.offset
  · rw [if_pos hend]
    exact .done (Nat.le_antisymm hi.offset_le hend)
  rw [if_neg hend]
  have hlt : s.offset < data.length := Nat.lt_of_not_le hend
  dsimp only
  rcases hp s.attempts.length (BulkOut.part (data.drop s.offset)) with h | h
  · rw [h]
    exact .accepted hlt h
  · rw [h]
    by_cases hr : 3 < s.retries + 1
    · simp only [Bool.not_false, if_true, Nat.lt_irrefl, if_false, if_pos hr]
      exact .gaveUp hlt h (by omega)
    · simp only [Bool.not_false, if_true, Nat.lt_irrefl, if_false, if_neg hr]
      exact .failed hlt h (by omega)

theorem inv_begin (data : Bytes) (bulkWrite : Nat → Bytes → BulkResult) : Inv data bulkWrite {} where
  offset_le := Nat.zero_le _
  accepted := rfl
  parts a ha := by cases ha
  failures := ⟨[], rfl⟩
  tried n a ha := by cases ha
  sum := rfl

/-- One more call, about what comes next. -/
theorem tried_concat {as : List BulkAttempt} {a : BulkAttempt} (h : Tried bulkWrite as)
    (hr : a.result = bulkWrite as.length a.part) (ho : a.offset = (as.map fun x => x.result.accepted).sum) :
    Tried bulkWrite (as ++ [a]) := by
  intro n x hx
  rcases Nat.lt_trichotomy n as.length with hlt | rfl | hgt
  · rw [List.getElem?_append_left hlt] at hx
    rw [List.take_append_of_le_length (Nat.le_of_lt hlt)]
    exact h n x hx
  · rw [List.getElem?_concat_length] at hx
    cases hx
    rw [List.take_left]
    exact ⟨hr, ho⟩
  · rw [List.getElem?_eq_none (by rw [List.length_append]; exact hgt)] at hx
    cases hx

theorem sum_concat (as : List BulkAttempt) (a : BulkAttempt) :
    ((as ++ [a]).map fun x => x.result.accepted).sum = (as.map fun x => x.result.accepted).sum + a.result.accepted := by
  rw [List.map_append, List.sum_append]
  rfl

/-- The part at `offset` is what the data has there. -/
theorem take_part (data : Bytes) (n : Nat) :
    data.take n ++ BulkOut.part (data.drop n) = data.take (n + (BulkOut.part (data.drop n)).length) := by
  unfold BulkOut.part
  rw [List.take_add, List.append_cancel_left_eq]
  exact List.prefix_iff_eq_take.1 (List.take_prefix _ _)

theorem forall_concat {p : BulkAttempt → Prop} {as : List BulkAttempt} {a : BulkAttempt}
    (h : ∀ x ∈ as, p x) (ha : p a) : ∀ x ∈ as ++ [a], p x := by
  intro x hx
  rcases List.mem_append.1 hx with hx | hx
  · exact h x hx
  · exact List.mem_singleton.1 hx ▸ ha

theorem acceptedParts_failure (s : BulkLoop) (n : Nat) :
    acceptedParts (List.replicate n (s.failure data)) = [] := by
  unfold acceptedParts
  rw [List.filter_replicate_of_neg Bool.false_ne_true]
  rfl

theorem Inv.failed (h : s.Inv data bulkWrite)
    (hw : bulkWrite s.attempts.length (BulkOut.part (data.drop s.offset)) = ⟨false, 0⟩) :
    Inv data bulkWrite ⟨s.offset, s.retries + 1, s.attempts ++ [s.failure data]⟩ := by
  obtain ⟨before, hb⟩ := h.failures
  have hparts : acceptedParts (s.attempts ++ [s.failure data]) = acceptedParts s.attempts := by
    rw [acceptedParts_append]
    exact (congrArg _ (acceptedParts_failure s 1)).trans (List.append_nil _)
  refine ⟨h.offset_le, hparts ▸ h.accepted, forall_concat h.parts rfl, ⟨before, ?_⟩,
    tried_concat h.tried hw.symm h.sum.symm, (sum_concat ..).trans h.sum⟩
  rw [hb, List.append_assoc, List.replicate_succ']
  rfl

theorem Inv.took (h : s.Inv data bulkWrite) (hlt : s.offset < data.length)
    (hw : bulkWrite s.attempts.length (BulkOut.part (data.drop s.offset)) =
      ⟨true, (BulkOut.part (data.drop s.offset)).length⟩) :
    Inv data bulkWrite ⟨s.offset + (BulkOut.part (data.drop s.offset)).length, 0, s.attempts ++ [⟨s.offset,
      BulkOut.part (data.drop s.offset), ⟨true, (BulkOut.part (data.drop s.offset)).length⟩⟩]⟩ := by
  have hparts : ∀ r : BulkResult, r = ⟨true, (BulkOut.part (data.drop s.offset)).length⟩ →
      acceptedParts [⟨s.offset, BulkOut.part (data.drop s.offset), r⟩] = [BulkOut.part (data.drop s.offset)] := by
    rintro _ rfl
    exact congrArg (fun p => [p]) (List.take_length ..)
  refine ⟨?_, ?_, forall_concat h.parts rfl, ⟨_, (List.append_nil _).symm⟩, tried_concat h.tried hw.symm h.sum.symm,
    (sum_concat ..).trans (congrArg (· + _) h.sum)⟩
  · have hle : (BulkOut.part (data.drop s.offset)).length ≤ (data.drop s.offset).length := List.length_take_le' _ _
    rw [List.length_drop] at hle
    show _ + _ ≤ _
    omega
  · rw [acceptedParts_append, List.flatten_append, h.accepted, hparts _ rfl, List.flatten_singleton, take_part]

/-- How the loop ends. -/
structure Ended (data : Bytes) (bulkWrite : Nat → Bytes → BulkResult) (ok : Bool) (s : BulkLoop) : Prop where
  inv : s.Inv data bulkWrite
  whole : ok = true ↔ s.offset = data.length
  failures : ok = false → 4 ≤ s.retries

/-- Every turn ends the loop or leaves less to do. -/
theorem turn_spec (hp : Proper bulkWrite) (hi : s.Inv data bulkWrite) :
    (∃ ok s', s.turn data bulkWrite = (some ok, s') ∧ Ended data bulkWrite ok s') ∨
    ∃ s', s.turn data bulkWrite = (none, s') ∧ s'.Inv data bulkWrite ∧ s'.measure data < s.measure data := by
  have ht := turned_turn hp hi
  generalize s.turn data bulkWrite = r at ht ⊢
  cases ht with
  | done h => exact .inl ⟨_, _, rfl, hi, ⟨fun _ => h, fun _ => rfl⟩, Bool.noConfusion⟩
  | accepted h hw =>
    refine .inr ⟨_, rfl, hi.took h hw, ?_⟩
    have hne : data.drop s.offset ≠ [] := fun h' => Nat.not_le_of_lt h (List.drop_eq_nil_iff.1 h')
    have := part_pos hne
    unfold measure
    dsimp only
    omega
  | failed h hw hr =>
    refine .inr ⟨_, rfl, hi.failed hw, ?_⟩
    unfold measure
    dsimp only
    omega
  | gaveUp h hw hr => exact .inl ⟨_, _, rfl, hi.failed hw, ⟨Bool.noConfusion, fun h' => absurd h' (Nat.ne_of_lt h)⟩,
      fun _ => Nat.succ_le_succ hr⟩

/-- Fuel beyond what is left to do changes nothing. -/
theorem loop_spec (hp : Proper bulkWrite) (hi : s.Inv data bulkWrite) :
    ∃ ok s', Ended data bulkWrite ok s' ∧ ∀ fuel, s.measure data < fuel → s.loop data bulkWrite fuel = some (ok, s') := by
  induction hm : s.measure data using Nat.strongRecOn generalizing s with
  | ind m ih =>
    subst hm
    rcases turn_spec hp hi with ⟨ok, s', ht, hend⟩ | ⟨s', ht, hi', hlt⟩
    · refine ⟨ok, s', hend, fun fuel hf => ?_⟩
      obtain ⟨fuel, rfl⟩ := Nat.exists_eq_add_of_lt hf
      rw [loop, ht]
    · obtain ⟨ok, s'', hend, hloop⟩ := ih _ hlt hi' rfl
      refine ⟨ok, s'', hend, fun fuel hf => ?_⟩
      obtain ⟨fuel, rfl⟩ := Nat.exists_eq_add_of_lt hf
      rw [loop, ht]
      exact hloop _ (by omega)

theorem Inv.small (h : s.Inv data bulkWrite) : ∀ p ∈ acceptedParts s.attempts, p.length ≤ bulkOutChunkSize := by
  intro p hp
  obtain ⟨a, ha, rfl⟩ := List.mem_map.1 hp
  rw [h.parts a (List.mem_filter.1 ha).1]
  exact Nat.le_trans (List.length_take_le' _ _) (length_part_le _)

theorem Ended.consecutive {ok : Bool} (h : Ended data bulkWrite ok s) (hok : ok = false) :
    ∃ before, s.attempts = before ++ List.replicate 4 (s.failure data) := by
  obtain ⟨before, hb⟩ := h.inv.failures
  obtain ⟨n, hn⟩ := Nat.exists_eq_add_of_le' (h.failures hok)
  exact ⟨before ++ List.replicate n _, by rw [hb, hn, List.replicate_add, List.append_assoc]⟩

/-! ## The pipeline's task runs this loop -/

/-- Where the writing task stands after a turn; it takes the turn that finds nothing left at once. -/
def caller (data : Bytes) : Option Bool × BulkLoop → BulkCaller
  | (some _, _) => .idle
  | (none, s) => if data.length ≤ s.offset then .idle else .all (data.drop s.offset) s.retries

theorem callerStep_failed {p : BulkOut} (answer : Bool) (hlt : s.offset < data.length)
    (hc : p.caller = .failed (data.drop s.offset) s.retries)
    (hw : bulkWrite s.attempts.length (BulkOut.part (data.drop s.offset)) = ⟨false, 0⟩) :
    (p.callerStep answer).map (·.caller) = some (caller data (s.turn data bulkWrite)) := by
  have hnot : ¬ data.length ≤ s.offset := Nat.not_le_of_lt hlt
  simp only [BulkOut.callerStep, hc, turn, if_neg hnot, hw]
  by_cases hr : 3 < s.retries + 1
  · simp [hr, caller, BulkOut.giveUp]
  · simp [hr, caller, hnot]

theorem callerStep_advance {p : BulkOut} (answer : Bool) (hlt : s.offset < data.length)
    (hc : p.caller = .advance (data.drop s.offset) s.retries)
    (hw : bulkWrite s.attempts.length (BulkOut.part (data.drop s.offset)) =
      ⟨true, (BulkOut.part (data.drop s.offset)).length⟩) :
    (p.callerStep answer).map (·.caller) = some (caller data (s.turn data bulkWrite)) := by
  have hnot : ¬ data.length ≤ s.offset := Nat.not_le_of_lt hlt
  simp only [BulkOut.callerStep, hc, turn, if_neg hnot, hw]
  simp only [Option.map_some, Bool.not_true, Bool.false_eq_true, if_false, caller, BulkOut.proceed, List.drop_drop]
  by_cases hend : data.length ≤ s.offset + (BulkOut.part (data.drop s.offset)).length
  · rw [List.drop_eq_nil_iff.2 hend, if_pos hend]
    rfl
  · have hne : data.drop (s.offset + (BulkOut.part (data.drop s.offset)).length) ≠ [] :=
      fun h => hend (List.drop_eq_nil_iff.1 h)
    rw [if_neg hend, List.isEmpty_eq_false_iff.2 hne]
    rfl

end BulkLoop

/-- `bulkWriteAll` always returns, and what it returns does not depend on how long one is ready to
wait. It hands over the data from the front, in parts, each byte at most once and each from where the
accepted ones end; true means all of it, false four failures of one part in a row. -/
theorem bulkWriteAll_submits (data : Bytes) (bulkWrite : Nat → Bytes → BulkResult) (hp : Proper bulkWrite) :
    ∃ ok attempts,
      (∀ fuel, 4 * data.length + 3 < fuel → bulkWriteAll data bulkWrite fuel = some (ok, attempts)) ∧
      Tried bulkWrite attempts ∧ (acceptedParts attempts).flatten <+: data ∧
      (∀ a ∈ attempts, a.part = BulkOut.part (data.drop a.offset)) ∧
      (∀ p ∈ acceptedParts attempts, p.length ≤ bulkOutChunkSize) ∧
      (ok = true ↔ (acceptedParts attempts).flatten = data) ∧
      (ok = false → ∃ before a, attempts = before ++ List.replicate 4 a ∧ a.result = ⟨false, 0⟩) := by
  unfold bulkWriteAll
  by_cases hd : data = []
  · subst hd
    refine ⟨true, [], fun _ _ => rfl, ?_, List.prefix_rfl, ?_, ?_, ⟨fun _ => rfl, fun _ => rfl⟩, Bool.noConfusion⟩
    · intro n a ha
      cases ha
    · intro a ha
      cases ha
    · intro p hp
      cases hp
  obtain ⟨ok, s, hend, hloop⟩ := BulkLoop.loop_spec hp (BulkLoop.inv_begin data bulkWrite)
  refine ⟨ok, s.attempts, fun fuel hf => ?_, hend.inv.tried, ?_, hend.inv.parts, hend.inv.small, ?_, fun hok => ?_⟩
  · rw [if_neg (Bool.eq_false_iff.1 (List.isEmpty_eq_false_iff.2 hd)), hloop fuel hf]
    rfl
  · rw [hend.inv.accepted]
    exact List.take_prefix _ _
  · rw [hend.inv.accepted, hend.whole]
    refine ⟨fun h => h ▸ List.take_length, fun h => ?_⟩
    have hlen := congrArg List.length h
    rw [List.length_take] at hlen
    exact Nat.le_antisymm hend.inv.offset_le (by omega)
  · obtain ⟨before, hb⟩ := hend.consecutive hok
    exact ⟨before, _, hb, rfl⟩

/-- The second call fails, all others get through. -/
def secondFails (n : Nat) (part : Bytes) : BulkResult := if n = 1 then ⟨false, 0⟩ else ⟨true, part.length⟩

theorem bulkWriteAll_submits_twoParts :
    Proper secondFails ∧ ∃ ok attempts,
      (∀ fuel, 4 * (List.replicate 20000 0 : Bytes).length + 3 < fuel →
        bulkWriteAll (List.replicate 20000 0) secondFails fuel = some (ok, attempts)) ∧
      Tried secondFails attempts ∧ (acceptedParts attempts).flatten <+: List.replicate 20000 0 ∧
      (∀ a ∈ attempts, a.part = BulkOut.part ((List.replicate 20000 0).drop a.offset)) ∧
      (∀ p ∈ acceptedParts attempts, p.length ≤ bulkOutChunkSize) ∧
      (ok = true ↔ (acceptedParts attempts).flatten = List.replicate 20000 0) ∧
      (ok = false → ∃ before a, attempts = before ++ List.replicate 4 a ∧ a.result = ⟨false, 0⟩) := by
  have hp : Proper secondFails := by
    intro n part
    unfold secondFails
    split
    · exact .inr rfl
    · exact .inl rfl
  exact ⟨hp, bulkWriteAll_submits _ _ hp⟩

end PrintServer
