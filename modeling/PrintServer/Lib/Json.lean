import Mathlib.Data.List.Basic
import Mathlib.Data.UInt
/-!
# JSON texts (RFC 8259)

A reader of UTF-8 texts. Bytes from 0x80 on stand for themselves inside a string and nowhere else.
`n` bounds the nesting. `Gives` says what a reader makes of a text whatever follows it, so that the
outcome for an array or an object is put together from the outcomes for its parts.
-/
namespace Lib.Json

inductive Value where
  | null
  | bool (b : Bool)
  /-- As it is written. -/
  | num (text : List UInt8)
  | str (s : List UInt8)
  | arr (values : List Value)
  | obj (members : List (List UInt8 × Value))

abbrev quote : UInt8 := 0x22
abbrev comma : UInt8 := 0x2C
abbrev colon : UInt8 := 0x3A
abbrev backslash : UInt8 := 0x5C

def isSpace (b : UInt8) : Bool := b == 0x20 || b == 0x09 || b == 0x0A || b == 0x0D

def skip (s : List UInt8) : List UInt8 := s.dropWhile isSpace

def isDigit (b : UInt8) : Bool := 0x30 ≤ b && b ≤ 0x39

/-! ## Strings -/

/-- The character after a backslash, `u` apart. -/
def unescape (b : UInt8) : Option UInt8 :=
  if b = quote ∨ b = backslash ∨ b = 0x2F then some b
  else if b = 0x62 then some 0x08
  else if b = 0x66 then some 0x0C
  else if b = 0x6E then some 0x0A
  else if b = 0x72 then some 0x0D
  else if b = 0x74 then some 0x09
  else none

def hexDigit (b : UInt8) : Option Nat :=
  if isDigit b then some (b.toNat - 0x30)
  else if 0x41 ≤ b ∧ b ≤ 0x46 then some (b.toNat - 0x37)
  else if 0x61 ≤ b ∧ b ≤ 0x66 then some (b.toNat - 0x57)
  else none

/-- The code unit of `\uabcd` in UTF-8; the halves of a surrogate pair come one by one. -/
def codeUnit (a b c d : UInt8) : Option (List UInt8) := do
  let u := (((← hexDigit a) * 16 + (← hexDigit b)) * 16 + (← hexDigit c)) * 16 + (← hexDigit d)
  if u < 0x80 then return [.ofNat u]
  else if u < 0x800 then return [.ofNat (0xC0 + u / 64), .ofNat (0x80 + u % 64)]
  else return [.ofNat (0xE0 + u / 4096), .ofNat (0x80 + u / 64 % 64), .ofNat (0x80 + u % 64)]

/-- The characters up to the closing quote, and what follows it. -/
def chars : List UInt8 → Option (List UInt8 × List UInt8)
  | [] => none
  | b :: s =>
    if b = quote then some ([], s)
    else if b = backslash then
      match s with
      | [] => none
      | e :: s =>
        if e = 0x75 then
          match s with
          | h :: i :: j :: k :: s => (codeUnit h i j k).bind fun u => (chars s).map fun r => (u ++ r.1, r.2)
          | _ => none
        else (unescape e).bind fun c => (chars s).map fun r => (c :: r.1, r.2)
    else if b < 0x20 then none
    else (chars s).map fun r => (b :: r.1, r.2)

theorem chars_quote (s : List UInt8) : chars (quote :: s) = some ([], s) := by
  rw [chars.eq_def]
  exact if_pos rfl

theorem chars_escaped {e c : UInt8} (hu : e ≠ 0x75) (h : unescape e = some c) (s : List UInt8) :
    chars (backslash :: e :: s) = (chars s).map fun r => (c :: r.1, r.2) := by
  rw [chars.eq_def]
  dsimp only
  rw [if_neg (by decide), if_pos rfl, if_neg hu, h, Option.bind_some]

theorem chars_plain {b : UInt8} (hq : b ≠ quote) (hb : b ≠ backslash) (s : List UInt8) :
    chars (b :: s) = if b < 0x20 then none else (chars s).map fun r => (b :: r.1, r.2) := by
  rw [chars.eq_def]
  dsimp only
  rw [if_neg hq, if_neg hb]

/-- What a text that is one string literal stands for. -/
def literal : List UInt8 → Option (List UInt8)
  | b :: s => if b = quote then (chars s).bind fun r => if r.2.isEmpty then some r.1 else none else none
  | [] => none

/-! ## Numbers -/

/-- At least one digit. -/
def digits : List UInt8 → Option (List UInt8)
  | b :: s => if isDigit b then some (s.dropWhile isDigit) else none
  | [] => none

def intPart : List UInt8 → Option (List UInt8)
  | b :: s => if b = 0x30 then some s else digits (b :: s)
  | [] => none

def fracPart : List UInt8 → Option (List UInt8)
  | b :: s => if b = 0x2E then digits s else some (b :: s)
  | [] => some []

def expPart : List UInt8 → Option (List UInt8)
  | b :: s =>
    if b = 0x65 ∨ b = 0x45 then
      match s with
      | c :: t => if c = 0x2B ∨ c = 0x2D then digits t else digits (c :: t)
      | [] => none
    else some (b :: s)
  | [] => some []

def number (s : List UInt8) : Option (Value × List UInt8) :=
  let unsigned := if s.head? = some 0x2D then s.tail else s
  (((intPart unsigned).bind fracPart).bind expPart).map fun rest => (.num (s.take (s.length - rest.length)), rest)

/-! ## Values -/

/-- A reader takes its part from the front of a text. -/
abbrev Reader (α : Type) := List UInt8 → Option (α × List UInt8)

/-- What is left after a word. -/
def word (w s : List UInt8) : Option (List UInt8) := if w.isPrefixOf s then some (s.drop w.length) else none

/-- Items separated by commas, up to the closing bracket; `n` bounds their number. -/
def items {α : Type} (item : Reader α) (close : UInt8) : Nat → Reader (List α)
  | 0, _ => none
  | n + 1, s => (item s).bind fun r =>
    match skip r.2 with
    | [] => none
    | b :: s =>
      if b = comma then (items item close n s).map fun q => (r.1 :: q.1, q.2)
      else if b = close then some ([r.1], s)
      else none

/-- What stands between two brackets, of which the first has been read. -/
def bracketed {α : Type} (item : Reader α) (close : UInt8) : Reader (List α) := fun s =>
  if (skip s).head? = some close then some ([], (skip s).tail) else items item close s.length s

def member (value : Reader Value) : Reader (List UInt8 × Value) := fun s =>
  match skip s with
  | [] => none
  | b :: s =>
    if b = quote then (chars s).bind fun k =>
      match skip k.2 with
      | [] => none
      | b :: s => if b = colon then (value s).map fun r => ((k.1, r.1), r.2) else none
    else none

def value : Nat → Reader Value
  | 0, _ => none
  | n + 1, s =>
    match skip s with
    | [] => none
    | b :: s =>
      if b = quote then (chars s).map fun r => (.str r.1, r.2)
      else if b = 0x7B then (bracketed (member (value n)) 0x7D s).map fun r => (.obj r.1, r.2)
      else if b = 0x5B then (bracketed (value n) 0x5D s).map fun r => (.arr r.1, r.2)
      else if b = 0x74 then (word [0x72, 0x75, 0x65] s).map fun rest => (.bool true, rest)
      else if b = 0x66 then (word [0x61, 0x6C, 0x73, 0x65] s).map fun rest => (.bool false, rest)
      else if b = 0x6E then (word [0x75, 0x6C, 0x6C] s).map fun rest => (.null, rest)
      else number (b :: s)

/-- A whole text; no nesting is deeper than the text is long. -/
def parse (s : List UInt8) : Option Value :=
  (value (s.length + 1) s).bind fun r => if (skip r.2).isEmpty then some r.1 else none

/-! ## What a reader makes of a part -/

/-- Nothing that could go on a number. -/
def Ended (rest : List UInt8) : Prop := ∀ b ∈ rest.head?, b = comma ∨ b = 0x5D ∨ b = 0x7D

/-- From `t` the reader gets `r`, or fails, whatever follows. -/
def Gives {α : Type} (read : Reader α) (t : List UInt8) (r : Option α) : Prop :=
  ∀ rest, Ended rest → read (t ++ rest) = r.map (·, rest)

/-- The texts of an array or an object, one after the other. -/
def commas : List (List UInt8) → List UInt8
  | [] => []
  | [t] => t
  | t :: ts => t ++ comma :: commas ts

/-- Begins with neither a space nor a closing bracket. -/
def Begins (t : List UInt8) : Prop := ∃ b s, t = b :: s ∧ isSpace b = false ∧ b ≠ 0x5D ∧ b ≠ 0x7D

theorem ended_nil : Ended [] := fun _ h => nomatch h

theorem ended_cons {b : UInt8} {rest : List UInt8} (h : b = comma ∨ b = 0x5D ∨ b = 0x7D) : Ended (b :: rest) := by
  intro c hc
  cases hc
  exact h

theorem skip_cons {b : UInt8} {s : List UInt8} (h : isSpace b = false) : skip (b :: s) = b :: s := by
  unfold skip
  rw [List.dropWhile_cons_of_neg (by rw [h]; exact Bool.false_ne_true)]

section Items
variable {α γ : Type} {read : Reader α} {close : UInt8} {ts : List γ} {f : γ → List UInt8} {g : γ → Option α}

theorem commas_cons {t : List UInt8} {ts : List (List UInt8)} (h : ts ≠ []) :
    commas (t :: ts) = t ++ comma :: commas ts := by
  cases ts with
  | nil => exact absurd rfl h
  | cons => rfl

theorem commas_eq (t : List UInt8) (ts : List (List UInt8)) :
    commas (t :: ts) = t ++ (ts.map (comma :: ·)).flatten := by
  induction ts generalizing t with
  | nil => exact (List.append_nil t).symm
  | cons u ts ih =>
    rw [commas_cons (List.cons_ne_nil _ _), ih]
    rfl

theorem length_le_commas (ts : List (List UInt8)) : ts.length ≤ (commas ts).length + 1 := by
  induction ts with
  | nil => exact Nat.zero_le _
  | cons t ts ih =>
    by_cases h : ts = []
    · subst h
      exact Nat.succ_le_succ (Nat.zero_le _)
    · rw [commas_cons h, List.length_append, List.length_cons, List.length_cons]
      omega

theorem ended_close {rest : List UInt8} (hc : close = 0x5D ∨ close = 0x7D) : Ended (close :: rest) :=
  ended_cons (.inr hc)

theorem items_commas (hc : close = 0x5D ∨ close = 0x7D) (hg : ∀ a ∈ ts, Gives read (f a) (g a)) (hne : ts ≠ [])
    {n : Nat} (hn : ts.length ≤ n) (rest : List UInt8) :
    items read close n (commas (ts.map f) ++ close :: rest) = (ts.mapM g).map (·, rest) := by
  induction ts generalizing n with
  | nil => exact absurd rfl hne
  | cons a ts ih =>
    obtain ⟨n, rfl⟩ := Nat.exists_eq_add_of_le' (Nat.le_trans (Nat.succ_le_succ (Nat.zero_le _)) hn)
    have ha := hg a List.mem_cons_self
    rw [List.mapM_cons]
    by_cases hts : ts = []
    · -- the last item: the bracket follows
      subst hts
      have hskip : skip (close :: rest) = close :: rest := by
        rcases hc with rfl | rfl <;> rfl
      have hcomma : close ≠ comma := by
        rcases hc with rfl | rfl <;> decide
      have ha := ha (close :: rest) (ended_close hc)
      rw [List.map_cons, List.map_nil, commas, items, ha]
      cases g a with
      | none => rfl
      | some x => simp [hskip, hcomma]
    · have hm : ts.map f ≠ [] := fun h => hts (List.map_eq_nil_iff.1 h)
      have ih := ih (fun b hb => hg b (List.mem_cons_of_mem _ hb)) hts (Nat.le_of_succ_le_succ hn)
      have ha := ha (comma :: (commas (ts.map f) ++ close :: rest)) (ended_cons (.inl rfl))
      rw [List.map_cons, commas_cons hm, List.append_assoc, List.cons_append, items, ha]
      cases g a with
      | none => rfl
      | some x =>
        have hskip : ∀ s, skip (comma :: s) = comma :: s := fun s => rfl
        simp only [Option.map_some, Option.bind_some, hskip, if_true, ih]
        cases ts.mapM g <;> rfl

/-- A whole array or object, the first bracket apart. -/
theorem gives_bracketed (hc : close = 0x5D ∨ close = 0x7D) (hg : ∀ a ∈ ts, Gives read (f a) (g a))
    (hb : ∀ a ∈ ts, Begins (f a)) : Gives (bracketed read close) (commas (ts.map f) ++ [close]) (ts.mapM g) := by
  intro rest _
  unfold bracketed
  rw [List.append_assoc, List.singleton_append]
  cases ts with
  | nil =>
    have hskip : skip (close :: rest) = close :: rest := by
      rcases hc with rfl | rfl <;> rfl
    simp [commas, hskip]
  | cons a ts =>
    obtain ⟨b, s, hs, hspace, hb1, hb2⟩ := hb a List.mem_cons_self
    have hne : b ≠ close := by
      rcases hc with rfl | rfl
      · exact hb1
      · exact hb2
    have hbegin : ∃ s', commas ((a :: ts).map f) = b :: s' := by
      by_cases hts : ts.map f = []
      · exact ⟨s, by rw [List.map_cons, hts, commas, hs]⟩
      · exact ⟨s ++ comma :: commas (ts.map f), by rw [List.map_cons, commas_cons hts, hs, List.cons_append]⟩
    have hhead : (skip (commas ((a :: ts).map f) ++ close :: rest)).head? ≠ some close := by
      obtain ⟨s', hs'⟩ := hbegin
      rw [hs', List.cons_append, skip_cons hspace]
      exact fun h => hne (Option.some.inj h)
    rw [if_neg hhead]
    refine items_commas hc hg (List.cons_ne_nil _ _) ?_ rest
    have hlen := length_le_commas ((a :: ts).map f)
    rw [List.length_map] at hlen
    have hrest : (close :: rest).length = rest.length + 1 := rfl
    rw [List.length_append]
    omega

end Items

/-! ## The outcome for each kind of value -/

section Kinds
variable {α : Type} {n : Nat} {t k : List UInt8}

theorem gives_str {r : Option (List UInt8)} (h : Gives chars t r) :
    Gives (value (n + 1)) (quote :: t) (r.map .str) := by
  intro rest he
  have ht := h rest he
  rw [List.cons_append, value, skip_cons rfl]
  dsimp only
  rw [if_pos rfl, ht]
  cases r <;> rfl

theorem gives_obj {r : Option (List (List UInt8 × Value))} (h : Gives (bracketed (member (value n)) 0x7D) t r) :
    Gives (value (n + 1)) (0x7B :: t) (r.map .obj) := by
  intro rest he
  have ht := h rest he
  rw [List.cons_append, value, skip_cons rfl]
  dsimp only
  rw [if_neg (by decide), if_pos rfl, ht]
  cases r <;> rfl

theorem gives_arr {r : Option (List Value)} (h : Gives (bracketed (value n) 0x5D) t r) :
    Gives (value (n + 1)) (0x5B :: t) (r.map .arr) := by
  intro rest he
  have ht := h rest he
  rw [List.cons_append, value, skip_cons rfl]
  dsimp only
  rw [if_neg (by decide), if_neg (by decide), if_pos rfl, ht]
  cases r <;> rfl

theorem gives_bool (b : Bool) :
    Gives (value (n + 1)) (if b then [0x74, 0x72, 0x75, 0x65] else [0x66, 0x61, 0x6C, 0x73, 0x65])
      (some (.bool b)) := by
  intro rest _
  cases b <;> rfl

/-- The name `k` comes with its closing quote. -/
theorem gives_member {read : Reader Value} {key : List UInt8} {r : Option Value}
    (hk : ∀ s, chars (k ++ s) = some (key, s)) (h : Gives read t r) :
    Gives (member read) (quote :: (k ++ colon :: t)) (r.map (key, ·)) := by
  intro rest he
  have ht := h rest he
  rw [List.cons_append, List.append_assoc, member, skip_cons rfl]
  dsimp only
  rw [if_pos rfl, hk, Option.bind_some, List.cons_append, skip_cons rfl]
  dsimp only
  rw [if_pos rfl, ht]
  cases r <;> rfl

theorem parse_of_gives {r : Option Value} (h : Gives (value (t.length + 1)) t r) : parse t = r := by
  have ht := h [] ended_nil
  rw [List.append_nil] at ht
  rw [parse, ht]
  cases r <;> rfl

end Kinds

/-! ## Numbers in decimal -/

theorem dropWhile_digits {ds rest : List UInt8} (hd : ∀ d ∈ ds, isDigit d) (he : Ended rest) :
    (ds ++ rest).dropWhile isDigit = rest := by
  rw [List.dropWhile_append_of_pos hd]
  cases rest with
  | nil => rfl
  | cons b rest =>
    have hb : isDigit b = false := by
      rcases he b rfl with rfl | rfl | rfl <;> rfl
    rw [List.dropWhile_cons_of_neg (by rw [hb]; exact Bool.false_ne_true)]

/-- Digits, the first of them not zero unless it is the only one. -/
def Decimal (ds : List UInt8) : Prop := ds = [0x30] ∨ ∃ d s, ds = d :: s ∧ d ≠ 0x30 ∧ ∀ b ∈ ds, isDigit b

theorem Decimal.digit {ds : List UInt8} (hd : Decimal ds) {b : UInt8} (hb : b ∈ ds) : isDigit b := by
  rcases hd with rfl | ⟨_, _, _, _, hd⟩
  · rw [List.mem_singleton.1 hb]
    rfl
  · exact hd b hb

theorem fracPart_ended {rest : List UInt8} (he : Ended rest) : fracPart rest = some rest := by
  cases rest with
  | nil => rfl
  | cons b rest =>
    rw [fracPart, if_neg]
    rcases he b rfl with rfl | rfl | rfl <;> decide

theorem expPart_ended {rest : List UInt8} (he : Ended rest) : expPart rest = some rest := by
  cases rest with
  | nil => rfl
  | cons b rest =>
    rcases he b rfl with rfl | rfl | rfl <;> rfl

theorem intPart_decimal {ds rest : List UInt8} (hd : Decimal ds) (he : Ended rest) :
    intPart (ds ++ rest) = some rest := by
  rcases hd with rfl | ⟨d, s, rfl, hne, hd⟩
  · rfl
  · rw [List.cons_append, intPart, if_neg hne, digits, if_pos (hd d List.mem_cons_self),
      dropWhile_digits (fun b hb => hd b (List.mem_cons_of_mem _ hb)) he]

/-- A value that begins like a number is one. -/
theorem value_number {n : Nat} {b : UInt8} {s : List UInt8} (hb : isDigit b ∨ b = 0x2D) :
    value (n + 1) (b :: s) = number (b :: s) := by
  have hspace : isSpace b = false := by
    by_contra h
    simp only [isSpace, Bool.not_eq_false, Bool.or_eq_true, beq_iff_eq] at h
    rcases h with ((rfl | rfl) | rfl) | rfl <;> rcases hb with hb | hb <;> revert hb <;> decide
  have hne : ∀ c : UInt8, isDigit c = false → c ≠ 0x2D → b ≠ c := by
    rintro c hc hc' rfl
    rcases hb with hb | hb
    · exact Bool.false_ne_true (hc.symm.trans hb)
    · exact hc' hb
  rw [value, skip_cons hspace]
  dsimp only
  rw [if_neg (hne _ rfl (by decide)), if_neg (hne _ rfl (by decide)), if_neg (hne _ rfl (by decide)),
    if_neg (hne _ rfl (by decide)), if_neg (hne _ rfl (by decide)), if_neg (hne _ rfl (by decide))]

theorem Decimal.head {ds : List UInt8} (hd : Decimal ds) : ∃ d s, ds = d :: s ∧ isDigit d := by
  rcases hd with rfl | ⟨d, s, rfl, _, hd⟩
  · exact ⟨_, _, rfl, rfl⟩
  · exact ⟨d, s, rfl, hd d List.mem_cons_self⟩

theorem number_unsigned {s ds rest : List UInt8} (hd : Decimal ds) (he : Ended rest)
    (hs : (if (s ++ rest).head? = some 0x2D then (s ++ rest).tail else s ++ rest) = ds ++ rest) :
    number (s ++ rest) = some (.num s, rest) := by
  unfold number
  rw [hs]
  dsimp only
  rw [intPart_decimal hd he, Option.bind_some, fracPart_ended he, Option.bind_some, expPart_ended he,
    Option.map_some, List.length_append, Nat.add_sub_cancel, List.take_left' rfl]

theorem gives_number {n : Nat} {ds : List UInt8} (hd : Decimal ds) : Gives (value (n + 1)) ds (some (.num ds)) := by
  intro rest he
  obtain ⟨d, s, rfl, hdig⟩ := hd.head
  have hne : d ≠ 0x2D := by
    rintro rfl
    exact absurd hdig (by decide)
  rw [List.cons_append, value_number (.inl hdig), ← List.cons_append]
  refine number_unsigned hd he (if_neg ?_)
  exact fun h => hne (Option.some.inj h)

theorem gives_negative {n : Nat} {ds : List UInt8} (hd : Decimal ds) :
    Gives (value (n + 1)) (0x2D :: ds) (some (.num (0x2D :: ds))) := by
  intro rest he
  rw [List.cons_append, value_number (.inr rfl), ← List.cons_append]
  exact number_unsigned hd he (if_pos rfl)

/-! ## `Nat.repr` -/

theorem head_toDigits {n : Nat} (hn : 0 < n) : ∃ c cs, Nat.toDigits 10 n = c :: cs ∧ c ≠ '0' := by
  induction n using Nat.strongRecOn with
  | ind n ih =>
    by_cases h : n < 10
    · refine ⟨_, [], Nat.toDigits_of_lt_base h, ?_⟩
      rw [ne_eq, Nat.digitChar_eq_zero]
      exact Nat.ne_of_gt hn
    · obtain ⟨c, cs, hc, hne⟩ := ih (n / 10) (by omega) (by omega)
      exact ⟨c, _, by rw [Nat.toDigits_of_base_le (by decide) (Nat.le_of_not_lt h), hc, List.cons_append], hne⟩

theorem toNat_ofNat_digit {c : Char} (h : c.isDigit) : (UInt8.ofNat c.toNat).toNat = c.toNat := by
  have h2 : c.toNat ≤ 57 := (Char.isDigit_iff_toNat.1 h).2
  exact UInt8.toNat_ofNat_of_lt' (Nat.lt_of_le_of_lt h2 (by decide))

theorem isDigit_ofNat {c : Char} (h : c.isDigit) : isDigit (UInt8.ofNat c.toNat) := by
  obtain ⟨h1, h2⟩ := Char.isDigit_iff_toNat.1 h
  unfold isDigit
  rw [Bool.and_eq_true, decide_eq_true_iff, decide_eq_true_iff, UInt8.le_iff_toNat_le, UInt8.le_iff_toNat_le,
    toNat_ofNat_digit h]
  exact ⟨h1, h2⟩

theorem ofNat_ne_zero {c : Char} (h : c.isDigit) (hc : c ≠ '0') : UInt8.ofNat c.toNat ≠ 0x30 := by
  intro he
  have hn := congrArg UInt8.toNat he
  rw [toNat_ofNat_digit h] at hn
  exact hc (Char.toNat_inj.1 hn)

theorem decimal_toDigits (n : Nat) : Decimal ((Nat.toDigits 10 n).map fun c => UInt8.ofNat c.toNat) := by
  by_cases hn : n = 0
  · subst hn
    exact .inl rfl
  obtain ⟨c, cs, hc, hne⟩ := head_toDigits (Nat.pos_of_ne_zero hn)
  have hall : ∀ d ∈ c :: cs, d.isDigit := fun d hd => Nat.isDigit_of_mem_toDigits (by decide) (by decide) (hc ▸ hd)
  rw [hc]
  refine .inr ⟨_, _, List.map_cons, ofNat_ne_zero (hall c List.mem_cons_self) hne, ?_⟩
  intro b hb
  obtain ⟨d, hd, rfl⟩ := List.mem_map.1 hb
  exact isDigit_ofNat (hall d hd)

end Lib.Json
