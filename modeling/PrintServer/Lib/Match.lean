import Mathlib.Data.List.Infix
import Mathlib.Order.Bounds.Basic
/-!
# Recognising a pattern whose first symbol does not come back

For a pattern `a :: p` with `a ∉ p` the matching automaton needs no failure table: after a
mismatch only a new `a` can start a match. `state` is its state after a text; `state_longest` says
that it is the length of the longest end of the text that begins the pattern.
-/
namespace Lib.Match

variable {α : Type*} [DecidableEq α]

/-- One symbol: go on, start again, or fall back to nothing. -/
def step (pat : List α) (n : Nat) (x : α) : Nat :=
  if pat[n]? = some x then n + 1 else if pat[0]? = some x then 1 else 0

def state (pat : List α) (xs : List α) : Nat := xs.foldl (step pat) 0

/-- The text ends with the first `k` symbols of the pattern. -/
def Ends (pat xs : List α) (k : Nat) : Prop := k ≤ pat.length ∧ pat.take k <:+ xs

@[simp] theorem state_nil (pat : List α) : state pat [] = 0 := rfl

theorem state_concat (pat xs : List α) (x : α) : state pat (xs ++ [x]) = step pat (state pat xs) x := by
  simp only [state, List.foldl_append, List.foldl_cons, List.foldl_nil]

omit [DecidableEq α] in
theorem ends_zero (pat xs : List α) : Ends pat xs 0 := ⟨Nat.zero_le _, by simp⟩

omit [DecidableEq α] in
/-- The pattern grows at the end of the text symbol by symbol. -/
theorem ends_succ {pat xs : List α} {x : α} {k : Nat} :
    Ends pat (xs ++ [x]) (k + 1) ↔ Ends pat xs k ∧ pat[k]? = some x := by
  constructor
  · rintro ⟨hk, t, ht⟩
    have hk' : k < pat.length := hk
    rw [List.take_succ_eq_append_getElem hk', ← List.append_assoc] at ht
    obtain ⟨h1, h2⟩ := List.append_inj' ht rfl
    refine ⟨⟨Nat.le_of_lt hk', t, h1⟩, ?_⟩
    rw [List.getElem?_eq_getElem hk']
    simpa using h2
  · rintro ⟨⟨-, t, ht⟩, hx⟩
    obtain ⟨hk', hx'⟩ := List.getElem?_eq_some_iff.1 hx
    refine ⟨hk', t, ?_⟩
    rw [List.take_succ_eq_append_getElem hk', ← List.append_assoc, ht, hx']

omit [DecidableEq α] in
/-- Two ends of different lengths put the pattern's first symbol inside the pattern. -/
theorem ends_unique {a : α} {p xs : List α} (ha : a ∉ p) {k n : Nat} (hk : Ends (a :: p) xs k)
    (hn : Ends (a :: p) xs n) (hlt : k < n) : k = 0 := by
  by_contra h0
  obtain ⟨j, rfl⟩ := Nat.exists_eq_succ_of_ne_zero h0
  obtain ⟨m, rfl⟩ := Nat.exists_eq_succ_of_ne_zero (Nat.ne_of_gt (Nat.zero_lt_of_lt hlt))
  have hsuf : a :: p.take j <:+ a :: p.take m := by
    refine List.suffix_of_suffix_length_le hk.2 hn.2 ?_
    simp only [List.length_cons, List.length_take]
    omega
  rcases List.suffix_cons_iff.1 hsuf with e | e
  · -- equal prefixes have equal lengths
    have h1 := congrArg List.length e
    have h2 : m ≤ p.length := by simpa using hn.1
    simp only [List.length_cons, List.length_take] at h1
    omega
  · exact ha (List.mem_of_mem_take (e.subset (List.mem_cons_self ..)))

/-- **The state is the longest end of the text that begins the pattern.** The induction is on the
text, symbol by symbol from the right. -/
theorem state_longest {a : α} {p : List α} (ha : a ∉ p) (xs : List α) :
    Ends (a :: p) xs (state (a :: p) xs) ∧ ∀ k, Ends (a :: p) xs k → k ≤ state (a :: p) xs := by
  induction xs using List.reverseRecOn with
  | nil =>
    refine ⟨ends_zero _ _, fun k hk => ?_⟩
    have h1 : ((a :: p).take k).length = 0 := by rw [List.eq_nil_of_suffix_nil hk.2]; rfl
    rw [List.length_take] at h1
    have h2 := hk.1
    simp only [List.length_cons] at h1 h2
    simp only [state_nil]
    omega
  | append_singleton xs x ih =>
    obtain ⟨hn, hmax⟩ := ih
    rw [state_concat]
    generalize state (a :: p) xs = n at hn hmax
    -- the ends of `xs` are 0 and `n`
    have hends : ∀ j, Ends (a :: p) xs j → j = 0 ∨ j = n := by
      intro j hj
      rcases Nat.lt_or_ge j n with h | h
      · exact Or.inl (ends_unique ha hj hn h)
      · exact Or.inr (Nat.le_antisymm (hmax j hj) h)
    unfold step
    by_cases h1 : (a :: p)[n]? = some x
    · rw [if_pos h1]
      refine ⟨ends_succ.2 ⟨hn, h1⟩, fun k hk => ?_⟩
      cases k with
      | zero => exact Nat.zero_le _
      | succ j => exact Nat.succ_le_succ (hmax j (ends_succ.1 hk).1)
    · rw [if_neg h1]
      by_cases h2 : (a :: p)[0]? = some x
      · rw [if_pos h2]
        refine ⟨ends_succ.2 ⟨ends_zero _ _, h2⟩, fun k hk => ?_⟩
        cases k with
        | zero => exact Nat.zero_le _
        | succ j =>
          obtain ⟨hj, hx⟩ := ends_succ.1 hk
          rcases hends j hj with rfl | rfl
          · exact Nat.le_refl _
          · exact absurd hx h1
      · rw [if_neg h2]
        refine ⟨ends_zero _ _, fun k hk => ?_⟩
        cases k with
        | zero => exact Nat.le_refl _
        | succ j =>
          obtain ⟨hj, hx⟩ := ends_succ.1 hk
          rcases hends j hj with rfl | rfl
          · exact absurd hx h2
          · exact absurd hx h1

omit [DecidableEq α] in
theorem ends_iff (pat xs : List α) (k : Nat) : Ends pat xs k ↔ ∃ u, u <:+ xs ∧ u <+: pat ∧ u.length = k := by
  constructor
  · rintro ⟨hk, hs⟩
    exact ⟨pat.take k, hs, List.take_prefix k pat, List.length_take_of_le hk⟩
  · rintro ⟨u, hs, hp, rfl⟩
    exact ⟨hp.length_le, (List.prefix_iff_eq_take.1 hp) ▸ hs⟩

/-- `state_longest`, in terms of the ends themselves. -/
theorem state_isGreatest {a : α} {p : List α} (ha : a ∉ p) (xs : List α) :
    IsGreatest {k | ∃ u, u <:+ xs ∧ u <+: a :: p ∧ u.length = k} (state (a :: p) xs) := by
  obtain ⟨h1, h2⟩ := state_longest ha xs
  exact ⟨(ends_iff _ _ _).1 h1, fun k hk => h2 k ((ends_iff _ _ _).2 hk)⟩

/-- The automaton is in its last state when the text ends with the pattern. -/
theorem state_eq_length {a : α} {p : List α} (ha : a ∉ p) (xs : List α) :
    state (a :: p) xs = (a :: p).length ↔ a :: p <:+ xs := by
  obtain ⟨h1, h2⟩ := state_longest ha xs
  constructor
  · intro e
    have h3 := h1.2
    rwa [e, List.take_length] at h3
  · intro h
    refine Nat.le_antisymm h1.1 (h2 _ ⟨Nat.le_refl _, ?_⟩)
    rwa [List.take_length]

end Lib.Match
