import Mathlib.Order.Lattice
import Mathlib.Data.List.Induction
/-!
# The first best entry of a list

A loop over a list that keeps the index of the entry with the highest score: an entry may be
skipped, the first score has to be above a floor, and a later entry has to beat the best so far.
-/
namespace Lib
variable {α β : Type*} [LinearOrder β] {score : Nat → α → Option β} {floor : β} {l : List α} {i : Nat}

/-- One turn of the loop, on the index of the best entry so far and its score. -/
def bestStep (score : Nat → α → Option β) (best : Option Nat × β) (e : α × Nat) : Option Nat × β :=
  match score e.2 e.1 with
  | some s => if best.2 < s then (some e.2, s) else best
  | none => best

def firstBest (score : Nat → α → Option β) (floor : β) (l : List α) : Option Nat :=
  (l.zipIdx.foldl (bestStep score) (none, floor)).1

/-- Entry `i` scores `s`, no entry scores more, and none before it as much. -/
structure IsFirstBest (score : Nat → α → Option β) (l : List α) (i : Nat) (s : β) : Prop where
  entry : ∃ x, l[i]? = some x ∧ score i x = some s
  max : ∀ j y t, l[j]? = some y → score j y = some t → t ≤ s
  first : ∀ j y t, l[j]? = some y → score j y = some t → j < i → t < s

/-- No entry scores more than the floor. -/
def AtMost (score : Nat → α → Option β) (floor : β) (l : List α) : Prop :=
  ∀ j y t, l[j]? = some y → score j y = some t → t ≤ floor

theorem IsFirstBest.lt_length {s : β} (h : IsFirstBest score l i s) : i < l.length := by
  obtain ⟨x, hx, -⟩ := h.entry
  exact (List.getElem?_eq_some_iff.1 hx).1

/-- An entry of the longer list is an old one or the new one. -/
theorem getElem?_concat_cases {x y : α} {j : Nat} (h : (l ++ [x])[j]? = some y) :
    l[j]? = some y ∨ (j = l.length ∧ x = y) := by
  by_cases hj : j < l.length
  · rw [List.getElem?_append_left hj] at h
    exact Or.inl h
  · have hlt := (List.getElem?_eq_some_iff.1 h).1
    have hlen : j = l.length := by
      rw [List.length_append, List.length_singleton] at hlt
      omega
    subst hlen
    rw [List.getElem?_concat_length] at h
    exact Or.inr ⟨rfl, Option.some.inj h⟩

/-- A new entry that does not beat the best. -/
theorem IsFirstBest.concat {s : β} {x : α} (h : IsFirstBest score l i s)
    (hx : ∀ t, score l.length x = some t → t ≤ s) : IsFirstBest score (l ++ [x]) i s := by
  have hlt := h.lt_length
  obtain ⟨y, hy, hs⟩ := h.entry
  refine ⟨⟨y, ?_, hs⟩, fun j z t hz ht => ?_, fun j z t hz ht hj => ?_⟩
  · rw [List.getElem?_append_left hlt]
    exact hy
  · rcases getElem?_concat_cases hz with hz | ⟨rfl, rfl⟩
    · exact h.max j z t hz ht
    · exact hx t ht
  · rcases getElem?_concat_cases hz with hz | ⟨rfl, rfl⟩
    · exact h.first j z t hz ht hj
    · omega

/-- A new entry that beats everything before it. -/
theorem isFirstBest_concat {s : β} {x : α} (hx : score l.length x = some s)
    (hlt : ∀ j y t, l[j]? = some y → score j y = some t → t < s) : IsFirstBest score (l ++ [x]) l.length s := by
  refine ⟨⟨x, List.getElem?_concat_length, hx⟩, fun j z t hz ht => ?_, fun j z t hz ht hj => ?_⟩
  · rcases getElem?_concat_cases hz with hz | ⟨rfl, rfl⟩
    · exact (hlt j z t hz ht).le
    · exact (Option.some.inj (ht.symm.trans hx)).le
  · rcases getElem?_concat_cases hz with hz | ⟨rfl, rfl⟩
    · exact hlt j z t hz ht
    · omega

theorem AtMost.concat {x : α} (h : AtMost score floor l) (hx : ∀ t, score l.length x = some t → t ≤ floor) :
    AtMost score floor (l ++ [x]) := by
  intro j z t hz ht
  rcases getElem?_concat_cases hz with hz | ⟨rfl, rfl⟩
  · exact h j z t hz ht
  · exact hx t ht

/-- What the loop holds after any number of turns. -/
theorem bestStep_foldl (score : Nat → α → Option β) (floor : β) (l : List α) :
    (l.zipIdx.foldl (bestStep score) (none, floor) = (none, floor) ∧ AtMost score floor l) ∨
    ∃ i s, l.zipIdx.foldl (bestStep score) (none, floor) = (some i, s) ∧ floor < s ∧ IsFirstBest score l i s := by
  induction l using List.reverseRecOn with
  | nil => exact Or.inl ⟨rfl, fun j y t hy _ => (by simp at hy)⟩
  | append_singleton l x ih =>
    rw [List.zipIdx_append, List.foldl_append]
    simp only [List.zipIdx_singleton, List.foldl_cons, List.foldl_nil, Nat.zero_add]
    cases hx : score l.length x with
    | none =>
      have hskip : ∀ {t}, score l.length x = some t → False := fun ht => (by cases hx.symm.trans ht)
      rcases ih with ⟨hf, hmost⟩ | ⟨i, s, hf, hlt, hbest⟩
      · refine Or.inl ⟨?_, hmost.concat fun t ht => (hskip ht).elim⟩
        rw [hf, bestStep, hx]
      · refine Or.inr ⟨i, s, ?_, hlt, hbest.concat fun t ht => (hskip ht).elim⟩
        rw [hf, bestStep, hx]
    | some u =>
      have hu : ∀ {t}, score l.length x = some t → t = u := fun ht => Option.some.inj (ht.symm.trans hx)
      rcases ih with ⟨hf, hmost⟩ | ⟨i, s, hf, hlt, hbest⟩
      · by_cases hb : floor < u
        · refine Or.inr ⟨l.length, u, ?_, hb, isFirstBest_concat hx fun j y t hy ht => (hmost j y t hy ht).trans_lt hb⟩
          rw [hf, bestStep, hx]
          exact if_pos hb
        · refine Or.inl ⟨?_, hmost.concat fun t ht => hu ht ▸ not_lt.1 hb⟩
          rw [hf, bestStep, hx]
          exact if_neg hb
      · by_cases hb : s < u
        · refine Or.inr ⟨l.length, u, ?_, hlt.trans hb,
            isFirstBest_concat hx fun j y t hy ht => (hbest.max j y t hy ht).trans_lt hb⟩
          rw [hf, bestStep, hx]
          exact if_pos hb
        · refine Or.inr ⟨i, s, ?_, hlt, hbest.concat fun t ht => hu ht ▸ not_lt.1 hb⟩
          rw [hf, bestStep, hx]
          exact if_neg hb

/-- **What the loop finds** is the first of the best entries. -/
theorem firstBest_eq_some (h : firstBest score floor l = some i) : ∃ s, floor < s ∧ IsFirstBest score l i s := by
  rcases bestStep_foldl score floor l with ⟨hf, -⟩ | ⟨j, s, hf, hlt, hbest⟩
  · rw [firstBest, hf] at h
    cases h
  · rw [firstBest, hf] at h
    cases h
    exact ⟨s, hlt, hbest⟩

/-- It finds nothing exactly if no entry scores more than the floor. -/
theorem firstBest_eq_none_iff : firstBest score floor l = none ↔ AtMost score floor l := by
  rcases bestStep_foldl score floor l with ⟨hf, hmost⟩ | ⟨j, s, hf, hlt, hbest⟩
  · rw [firstBest, hf]
    exact ⟨fun _ => hmost, fun _ => rfl⟩
  · rw [firstBest, hf]
    refine ⟨fun h => (by cases h), fun h => ?_⟩
    obtain ⟨x, hx, hs⟩ := hbest.entry
    exact absurd (h j x s hx hs) (not_le.2 hlt)

end Lib
