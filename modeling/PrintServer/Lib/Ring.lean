import Mathlib.Data.List.Basic
/-!
# Circular buffers

A buffer of `cap` cells is its memory `Nat → α`; the queue it holds is the `used` cells that
start at `tail` (`slice`). Copies in and out are the usual two `memcpy`s split at the end of
the buffer (`writeWrap`, `readWrap`); `slice_writeWrap` and `readWrap_eq_slice` say that they
append to, and read the front of, the queue.
-/
namespace Lib.Ring

variable {α : Type*}

/-- The queue: `n` cells from `pos`, wrapping at `cap`. -/
def slice (mem : Nat → α) (cap pos n : Nat) : List α :=
  (List.range n).map fun i => mem ((pos + i) % cap)

/-- `memcpy(mem + pos, xs, |xs|)`. -/
def write (mem : Nat → α) (pos : Nat) (xs : List α) : Nat → α :=
  fun i => if pos ≤ i then (xs[i - pos]?).getD (mem i) else mem i

/-- `memcpy(dst, mem + pos, n)`. -/
def read (mem : Nat → α) (pos n : Nat) : List α := (List.range n).map fun i => mem (pos + i)

def writeWrap (mem : Nat → α) (cap pos : Nat) (xs : List α) : Nat → α :=
  let first := min xs.length (cap - pos)
  write (write mem pos (xs.take first)) 0 (xs.drop first)

def readWrap (mem : Nat → α) (cap pos n : Nat) : List α :=
  let first := min n (cap - pos)
  read mem pos first ++ read mem 0 (n - first)

@[simp] theorem length_slice (mem : Nat → α) (cap pos n : Nat) : (slice mem cap pos n).length = n := by
  simp [slice]

@[simp] theorem length_readWrap (mem : Nat → α) (cap pos n : Nat) : (readWrap mem cap pos n).length = n := by
  simp only [readWrap, read, List.length_append, List.length_map, List.length_range]
  omega

@[simp] theorem slice_zero (mem : Nat → α) (cap pos : Nat) : slice mem cap pos 0 = [] := rfl

theorem slice_eq_nil {mem : Nat → α} {cap pos n : Nat} : slice mem cap pos n = [] ↔ n = 0 := by
  rw [← List.length_eq_zero_iff, length_slice]

theorem slice_congr {m m' : Nat → α} {cap pos n : Nat}
    (h : ∀ i < n, m ((pos + i) % cap) = m' ((pos + i) % cap)) : slice m cap pos n = slice m' cap pos n :=
  List.map_congr_left fun i hi => h i (List.mem_range.1 hi)

theorem slice_add (mem : Nat → α) (cap pos a b : Nat) :
    slice mem cap pos (a + b) = slice mem cap pos a ++ slice mem cap ((pos + a) % cap) b := by
  simp only [slice, List.range_add, List.map_append, List.map_map]
  congr 1
  refine List.map_congr_left fun i _ => ?_
  simp only [Function.comp, Nat.mod_add_mod, Nat.add_assoc]

theorem take_slice (mem : Nat → α) (cap pos : Nat) {a n : Nat} (h : a ≤ n) :
    (slice mem cap pos n).take a = slice mem cap pos a := by
  obtain ⟨b, rfl⟩ := Nat.exists_eq_add_of_le h
  rw [slice_add, List.take_left' (length_slice ..)]

theorem drop_slice (mem : Nat → α) (cap pos : Nat) {a n : Nat} (h : a ≤ n) :
    (slice mem cap pos n).drop a = slice mem cap ((pos + a) % cap) (n - a) := by
  obtain ⟨b, rfl⟩ := Nat.exists_eq_add_of_le h
  rw [slice_add, List.drop_left' (length_slice ..), Nat.add_sub_cancel_left]

/-! ## Single copies -/

theorem write_of_lt {mem : Nat → α} {pos i : Nat} {xs : List α} (h : i < pos) : write mem pos xs i = mem i := by
  simp [write, Nat.not_le.2 h]

theorem write_of_ge {mem : Nat → α} {pos i : Nat} {xs : List α} (h : pos + xs.length ≤ i) :
    write mem pos xs i = mem i := by
  have h1 : xs.length ≤ i - pos := by omega
  simp [write, List.getElem?_eq_none h1]

theorem write_add {mem : Nat → α} {pos i : Nat} {xs : List α} (h : i < xs.length) :
    write mem pos xs (pos + i) = xs[i] := by
  simp [write, h]

/-! ## Copies that wrap -/

/-- The cell reached from `pos` in `i` steps, for at most one trip round the buffer. -/
theorem wrap_cases {cap pos i : Nat} (hp : pos < cap) (hi : i < cap) :
    (i < cap - pos ∧ (pos + i) % cap = pos + i) ∨ (cap - pos ≤ i ∧ (pos + i) % cap = i - (cap - pos)) := by
  by_cases h : i < cap - pos
  · exact Or.inl ⟨h, Nat.mod_eq_of_lt (by omega)⟩
  · refine Or.inr ⟨by omega, ?_⟩
    rw [Nat.mod_eq_sub_mod (by omega), Nat.mod_eq_of_lt (by omega)]
    omega

theorem writeWrap_at {mem : Nat → α} {cap pos i : Nat} {xs : List α} (hp : pos < cap)
    (hx : xs.length ≤ cap) (hi : i < xs.length) : writeWrap mem cap pos xs ((pos + i) % cap) = xs[i] := by
  unfold writeWrap
  rcases wrap_cases hp (Nat.lt_of_lt_of_le hi hx) with ⟨h, e⟩ | ⟨h, e⟩
  · rw [e, write_of_ge (by simp; omega)]
    have h1 : i < (xs.take (min xs.length (cap - pos))).length := by simp; omega
    rw [write_add h1, List.getElem_take]
  · have h1 : i - (cap - pos) < (xs.drop (min xs.length (cap - pos))).length := by simp; omega
    rw [e, ← Nat.zero_add (i - (cap - pos)), write_add h1, List.getElem_drop]
    congr 1
    omega

theorem writeWrap_off {mem : Nat → α} {cap pos i : Nat} {xs : List α} (hp : pos < cap)
    (hi : xs.length ≤ i) (hc : i < cap) : writeWrap mem cap pos xs ((pos + i) % cap) = mem ((pos + i) % cap) := by
  unfold writeWrap
  rcases wrap_cases hp hc with ⟨h, e⟩ | ⟨h, e⟩
  · rw [e, write_of_ge (by simp; omega), write_of_ge (by simp; omega)]
  · rw [e, write_of_ge (by simp; omega), write_of_lt (by omega)]

/-- Writing behind the queue appends to it. -/
theorem slice_writeWrap {mem : Nat → α} {cap pos n : Nat} {xs : List α} (hp : pos < cap)
    (hf : n + xs.length ≤ cap) :
    slice (writeWrap mem cap ((pos + n) % cap) xs) cap pos (n + xs.length) = slice mem cap pos n ++ xs := by
  have hq : (pos + n) % cap < cap := Nat.mod_lt _ (by omega)
  rw [slice_add]
  congr 1
  · refine slice_congr fun i hi => ?_
    -- cell `i` of the queue is `cap - n + i` steps past the write position
    have e : (pos + i) % cap = ((pos + n) % cap + (cap - n + i)) % cap := by
      rw [Nat.mod_add_mod, show pos + n + (cap - n + i) = pos + i + cap by omega, Nat.add_mod_right]
    rw [e, writeWrap_off hq (by omega) (by omega)]
  · refine List.ext_getElem (by simp) fun i h1 h2 => ?_
    simp only [slice, List.getElem_map, List.getElem_range]
    rw [writeWrap_at hq (by omega) h2]

/-- A copy that ends at or before the end of the buffer needs no second part. -/
theorem writeWrap_eq_write {mem : Nat → α} {cap pos : Nat} {xs : List α} (h : xs.length ≤ cap - pos) :
    writeWrap mem cap pos xs = write mem pos xs := by
  have e : min xs.length (cap - pos) = xs.length := Nat.min_eq_left h
  funext i
  simp [writeWrap, e, write]

theorem slice_write {mem : Nat → α} {cap pos n : Nat} {xs : List α} (hp : pos < cap)
    (hf : n + xs.length ≤ cap) (he : xs.length ≤ cap - (pos + n) % cap) :
    slice (write mem ((pos + n) % cap) xs) cap pos (n + xs.length) = slice mem cap pos n ++ xs := by
  rw [← writeWrap_eq_write he, slice_writeWrap hp hf]

theorem read_eq_slice {mem : Nat → α} {pos n : Nat} (cap : Nat) (h : pos + n ≤ cap) :
    read mem pos n = slice mem cap pos n := by
  refine List.map_congr_left fun i hi => ?_
  rw [Nat.mod_eq_of_lt (by have := List.mem_range.1 hi; omega)]

theorem readWrap_eq_slice {mem : Nat → α} {cap pos n : Nat} (hp : pos < cap) (hn : n ≤ cap) :
    readWrap mem cap pos n = slice mem cap pos n := by
  unfold readWrap
  by_cases h : n ≤ cap - pos
  · simp only [Nat.min_eq_left h, Nat.sub_self]
    rw [read_eq_slice cap (by omega)]
    simp [read]
  · have e : n = (cap - pos) + (n - (cap - pos)) := by omega
    simp only [Nat.min_eq_right (Nat.le_of_not_le h)]
    conv_rhs => rw [e, slice_add]
    rw [read_eq_slice cap (by omega), show (pos + (cap - pos)) % cap = 0 by
      rw [show pos + (cap - pos) = cap by omega, Nat.mod_self], read_eq_slice cap (by omega)]

/-- A copy that misses the queue leaves it as it is. -/
theorem slice_writeWrap_disjoint {mem : Nat → α} {cap pos n k a : Nat} {xs : List α} (hp : pos < cap)
    (ha : n ≤ a) (hf : a + xs.length ≤ cap) (hk : k ≤ n) :
    slice (writeWrap mem cap ((pos + a) % cap) xs) cap pos k = slice mem cap pos k := by
  have hq : (pos + a) % cap < cap := Nat.mod_lt _ (by omega)
  refine slice_congr fun i hi => ?_
  have e : (pos + i) % cap = ((pos + a) % cap + (cap - a + i)) % cap := by
    rw [Nat.mod_add_mod, show pos + a + (cap - a + i) = pos + i + cap by omega, Nat.add_mod_right]
  rw [e, writeWrap_off hq (by omega) (by omega)]

/-! ## Which cells a copy goes over -/

/-- Cell `i` is in one of the two parts of a copy of `n` cells at `pos`. -/
def Spans (cap pos n i : Nat) : Prop :=
  (pos ≤ i ∧ i < pos + min n (cap - pos)) ∨ i < n - min n (cap - pos)

theorem writeWrap_of_not_spans {mem : Nat → α} {cap pos i : Nat} {xs : List α} (h : ¬ Spans cap pos xs.length i) :
    writeWrap mem cap pos xs i = mem i := by
  simp only [Spans, not_or, not_and, Nat.not_lt] at h
  unfold writeWrap
  rw [write_of_ge (by simp; omega)]
  by_cases hi : i < pos
  · exact write_of_lt hi
  · have := h.1 (Nat.le_of_not_lt hi)
    exact write_of_ge (by simp; omega)

/-- They are the `n` cells that follow `pos` on the ring. -/
theorem spans_iff {cap pos n i : Nat} (hp : pos < cap) (hn : n ≤ cap) :
    Spans cap pos n i ↔ ∃ k < n, (pos + k) % cap = i := by
  unfold Spans
  constructor
  · rintro (⟨h1, h2⟩ | h)
    · refine ⟨i - pos, by omega, ?_⟩
      rw [Nat.add_sub_cancel' h1]
      exact Nat.mod_eq_of_lt (by omega)
    · refine ⟨cap - pos + i, by omega, ?_⟩
      rw [show pos + (cap - pos + i) = i + cap by omega, Nat.add_mod_right]
      exact Nat.mod_eq_of_lt (by omega)
  · rintro ⟨k, hk, rfl⟩
    rcases wrap_cases hp (Nat.lt_of_lt_of_le hk hn) with ⟨h, e⟩ | ⟨h, e⟩
    · rw [e]
      omega
    · rw [e]
      omega

/-- Distinct steps from `pos`, less than once round, reach distinct cells. -/
theorem wrap_inj {cap pos i j : Nat} (hp : pos < cap) (hi : i < cap) (hj : j < cap)
    (h : (pos + i) % cap = (pos + j) % cap) : i = j := by
  rcases wrap_cases hp hi with ⟨h1, e1⟩ | ⟨h1, e1⟩ <;> rcases wrap_cases hp hj with ⟨h2, e2⟩ | ⟨h2, e2⟩ <;> omega

/-- A copy behind the queue goes over none of its cells. -/
theorem spans_behind {cap pos n a k : Nat} (hp : pos < cap) (hf : a + n ≤ cap) (hk : k < a) :
    ¬ Spans cap ((pos + a) % cap) n ((pos + k) % cap) := by
  rw [spans_iff (Nat.mod_lt _ (by omega)) (by omega)]
  rintro ⟨j, hj, e⟩
  rw [Nat.mod_add_mod, Nat.add_assoc] at e
  have := wrap_inj hp (by omega) (by omega) e
  omega

end Lib.Ring
