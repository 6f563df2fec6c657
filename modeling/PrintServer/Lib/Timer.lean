import Mathlib.Data.List.Chain
import Mathlib.Data.Nat.ModEq
/-!
# A periodic action on a clock that wraps

`if (clock() - last >= p) { last = clock(); … }`, with a clock that shows the time modulo `w`.

- `Paced`: the action is taken at most once in `p`, whatever `last` starts with and however often the
  clock wraps (`Paced.take`, `Paced.postpone`).
- `Held`: where the check is made often enough, it does not fail for longer than `p`
  (`held_of_fails`, `Held.next`).
-/
namespace Lib

/-- `clock() - last` at the time `now`, in unsigned arithmetic. -/
def elapsed (w now last : Nat) : Nat := (now % w + w - last % w) % w

section Elapsed
variable {w p now last t : Nat}

theorem elapsed_lt (hw : 0 < w) : elapsed w now last < w := Nat.mod_lt _ hw

theorem elapsed_add_period : elapsed w (now + w) last = elapsed w now last := by
  unfold elapsed
  rw [Nat.add_mod_right]

/-- What the clock showed at `t`, read again at `now`. -/
theorem elapsed_eq_mod (ht : last % w = t % w) (hle : t ≤ now) : elapsed w now last = (now - t) % w := by
  unfold elapsed
  rw [ht]
  rcases Nat.eq_zero_or_pos w with rfl | hw
  · simp only [Nat.mod_zero, Nat.add_zero]
  have hlt : t % w < w := Nat.mod_lt t hw
  have hnow : now = t + (now - t) := (Nat.add_sub_of_le hle).symm
  have hkey : (now % w + w - t % w + t % w) % w = (now - t + t % w) % w := by
    rw [Nat.sub_add_cancel (by omega), Nat.add_mod_right, Nat.mod_mod, Nat.add_mod_mod]
    exact congrArg (· % w) (by omega)
  exact Nat.ModEq.add_right_cancel' (t % w) hkey

theorem elapsed_eq (ht : last % w = t % w) (hle : t ≤ now) (hlt : now < t + w) : elapsed w now last = now - t := by
  rw [elapsed_eq_mod ht hle]
  exact Nat.mod_eq_of_lt (by omega)

/-- A clock that wraps never shows too long a time. -/
theorem add_le_of_elapsed (ht : last % w = t % w) (hle : t ≤ now) (hp : p ≤ elapsed w now last) : t + p ≤ now := by
  have hmod := Nat.mod_le (now - t) w
  rw [elapsed_eq_mod ht hle] at hp
  omega

end Elapsed

/-! ## Not too often -/

/-- The times of the action, the latest first: `p` lies between two of them, and between the latest
and the next. -/
structure Paced (w p now last : Nat) (taken : List Nat) : Prop where
  apart : taken.IsChain fun later earlier => earlier + p ≤ later
  held : ∀ t ∈ taken.head?, t ≤ now ∧ (last % w = t % w ∨ t + p ≤ now)

namespace Paced
variable {w p now now' last last' : Nat} {taken : List Nat}

theorem nil : Paced w p now last [] := ⟨.nil, nofun⟩

theorem mono (h : Paced w p now last taken) (hle : now ≤ now') : Paced w p now' last taken where
  apart := h.apart
  held t ht := ⟨Nat.le_trans (h.held t ht).1 hle, (h.held t ht).2.imp_right fun hp => Nat.le_trans hp hle⟩

/-- Where the check holds, the period is over. -/
theorem elapses (h : Paced w p now last taken) (hle : now ≤ now') (hp : p ≤ elapsed w now' last) :
    ∀ t ∈ taken.head?, t + p ≤ now' := by
  intro t ht
  rcases (h.held t ht).2 with hlast | hover
  · exact add_le_of_elapsed hlast (Nat.le_trans (h.held t ht).1 hle) hp
  · exact Nat.le_trans hover hle

/-- The check holds, and something else than the time is stored. -/
theorem postpone (h : Paced w p now last taken) (hle : now ≤ now') (hp : p ≤ elapsed w now' last) :
    Paced w p now' last' taken where
  apart := h.apart
  held t ht := ⟨Nat.le_trans (h.held t ht).1 hle, .inr (h.elapses hle hp t ht)⟩

/-- The check holds, and the action is taken. -/
theorem take {mark : Nat} (h : Paced w p now last taken) (hle : now ≤ now') (hmark : now' ≤ mark)
    (hp : p ≤ elapsed w now' last) : Paced w p mark (mark % w) (mark :: taken) where
  apart := List.isChain_cons.2 ⟨fun t ht => Nat.le_trans (h.elapses hle hp t ht) hmark, h.apart⟩
  held t ht := by
    obtain rfl : mark = t := by simpa using ht
    exact ⟨Nat.le_refl _, .inl (Nat.mod_mod _ _)⟩

end Paced

/-! ## Often enough -/

/-- The check fails at `now`: `last` is the time `start - w`, less than `p` ago. -/
structure Held (w p now last start : Nat) : Prop where
  stamp : last % w = start % w
  start_le : start ≤ now + w
  fails : now + w < start + p

variable {w p now now' last start : Nat}

theorem held_of_fails (hw : 0 < w) (hf : elapsed w now last < p) : Held w p now last (now + w - elapsed w now last) := by
  have hlt : elapsed w now last < w := elapsed_lt hw
  refine ⟨?_, by omega, by omega⟩
  have hlast : last % w < w := Nat.mod_lt last hw
  have hkey : (now + w - elapsed w now last + elapsed w now last) % w = (last % w + elapsed w now last) % w := by
    rw [Nat.sub_add_cancel (by omega), Nat.add_mod_right]
    unfold elapsed
    rw [Nat.add_mod_mod, Nat.add_sub_of_le (by omega), Nat.add_mod_right, Nat.mod_mod]
  have hcancel : (now + w - elapsed w now last) % w = last % w % w := Nat.ModEq.add_right_cancel' _ hkey
  rw [hcancel, Nat.mod_mod]

/-- A check that fails again, before the clock has wrapped, is still within the same period. -/
theorem Held.next {g : Nat} (h : Held w p now last start) (hle : now ≤ now') (hg : now' ≤ now + g) (hw : p + g ≤ w)
    (hf : elapsed w now' last < p) : Held w p now' last start := by
  have hstart := h.start_le
  have hfails := h.fails
  have hshift : elapsed w now' last = now' + w - start := by
    rw [← elapsed_add_period]
    exact elapsed_eq h.stamp (by omega) (by omega)
  exact ⟨h.stamp, by omega, by omega⟩

end Lib
