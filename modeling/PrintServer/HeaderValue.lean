import PrintServer.BodyFraming
import PrintServer.IppAttributes
/-!
# The fields of an HTTP head (ipp_pcl3_service.cpp:69-79, 938-958)

`headerValue` looks for the name and a colon anywhere in the head. `RequestHead` is a head with its
structure, `encode` the bytes that arrive of it, `field` what a lookup of a field should give; a
lookup is right where `Clear` holds: the first line in which name and colon stand is a field line
of that name. Elsewhere it is right by accident only, for some of the texts that can stand there (`Alike`).
-/
namespace PrintServer

/-! ## First occurrences -/

section Strstr
variable {key : Bytes}

theorem strstr_front {s : Bytes} (h : key <+: s) : strstr s key = some 0 := by
  cases s with
  | nil =>
    rw [List.prefix_nil.1 h]
    rfl
  | cons b s => rw [strstr, if_pos (List.isPrefixOf_iff_prefix.2 h)]

theorem strstr_cons {b : UInt8} {s : Bytes} (h : ¬ key <+: b :: s) :
    strstr (b :: s) key = (strstr s key).map (· + 1) := by
  rw [strstr, if_neg fun hp => h (List.isPrefixOf_iff_prefix.1 hp)]

theorem strstr_some {s : Bytes} {i : Nat} (h : strstr s key = some i) :
    i + key.length ≤ s.length ∧ key <+: s.drop i := by
  induction s generalizing i with
  | nil =>
    rw [strstr] at h
    split at h
    · next hk =>
      cases h
      rw [List.isEmpty_iff.1 hk]
      exact ⟨Nat.le_refl _, List.prefix_rfl⟩
    · cases h
  | cons b s ih =>
    by_cases hp : key <+: b :: s
    · rw [strstr_front hp] at h
      cases h
      exact ⟨by rw [Nat.zero_add]; exact hp.length_le, hp⟩
    · rw [strstr_cons hp] at h
      obtain ⟨j, hj, rfl⟩ := Option.map_eq_some_iff.1 h
      obtain ⟨hle, hpre⟩ := ih hj
      exact ⟨by rw [List.length_cons]; omega, hpre⟩

theorem strstr_none {s : Bytes} (h : strstr s key = none) : ¬ key <:+: s := by
  induction s with
  | nil =>
    rw [strstr] at h
    split at h
    · cases h
    · next hk => exact fun hi => hk (List.isEmpty_iff.2 (List.infix_nil.1 hi))
  | cons b s ih =>
    by_cases hp : key <+: b :: s
    · rw [strstr_front hp] at h
      cases h
    · rw [strstr_cons hp] at h
      intro hi
      rcases List.infix_cons_iff.1 hi with hpre | hi
      · exact hp hpre
      · exact ih (Option.map_eq_none_iff.1 h) hi

/-- What follows a text does not hide what is found in it. -/
theorem strstr_append {s : Bytes} {i : Nat} (h : strstr s key = some i) (t : Bytes) :
    strstr (s ++ t) key = some i := by
  induction s generalizing i with
  | nil =>
    obtain ⟨hle, _⟩ := strstr_some h
    have hk : key = [] := List.length_eq_zero_iff.1 (by rw [List.length_nil] at hle; omega)
    have hi : i = 0 := by rw [List.length_nil] at hle; omega
    rw [hi]
    exact strstr_front (hk ▸ List.nil_prefix)
  | cons b s ih =>
    by_cases hp : key <+: b :: s
    · rw [strstr_front hp] at h
      cases h
      exact strstr_front (hp.trans (List.prefix_append _ _))
    · rw [strstr_cons hp] at h
      obtain ⟨j, hj, rfl⟩ := Option.map_eq_some_iff.1 h
      -- the occurrence that is found shows that the key is not longer than the text
      have hlen : key.length ≤ (b :: s).length := by
        have := (strstr_some hj).1
        rw [List.length_cons]
        omega
      have hp' : ¬ key <+: b :: (s ++ t) :=
        fun hk => hp (List.prefix_of_prefix_length_le hk (List.prefix_append (b :: s) t) hlen)
      rw [List.cons_append, strstr_cons hp', ih hj]
      rfl

theorem strstr_of_append {s t : Bytes} {i : Nat} (h : strstr (s ++ t) key = some i) (hle : i + key.length ≤ s.length) :
    strstr s key = some i := by
  cases hs : strstr s key with
  | some j =>
    have hj := strstr_append hs t
    rw [hj] at h
    exact h
  | none =>
    obtain ⟨-, hpre⟩ := strstr_some h
    rw [List.drop_append_of_le_length (Nat.le_of_add_right_le hle)] at hpre
    have hfit : key.length ≤ (s.drop i).length := by
      rw [List.length_drop]
      omega
    have hdrop : key <+: s.drop i := List.prefix_of_prefix_length_le hpre (List.prefix_append _ _) hfit
    exact absurd (hdrop.isInfix.trans (List.drop_suffix i s).isInfix) (strstr_none hs)

/-- A prefix that goes on beyond `s` has the symbol that stands behind `s`. -/
theorem mem_of_overlap {s t : Bytes} {x : UInt8} (hk : key <+: s ++ x :: t) (hs : ¬ key <+: s) : x ∈ key := by
  have hlt : s.length < key.length := by
    by_contra hle
    exact hs (List.prefix_of_prefix_length_le hk (List.prefix_append s _) (Nat.le_of_not_lt hle))
  have hsx : s ++ [x] <+: s ++ x :: t := ⟨t, by rw [List.append_assoc, List.singleton_append]⟩
  have hpre : s ++ [x] <+: key := List.prefix_of_prefix_length_le hsx hk (by rw [List.length_append]; exact hlt)
  exact hpre.subset (List.mem_append_right _ (List.mem_singleton.2 rfl))

/-- A symbol that the key does not have ends the search in front of it. -/
theorem strstr_skip {s : Bytes} {x : UInt8} (hx : x ∉ key) (hne : key ≠ []) (h : ¬ key <:+: s) (t : Bytes) :
    strstr (s ++ x :: t) key = (strstr t key).map (s.length + 1 + ·) := by
  induction s with
  | nil =>
    have hp : ¬ key <+: x :: t := fun hk => hx (mem_of_overlap (s := []) hk fun h0 => hne (List.prefix_nil.1 h0))
    rw [List.nil_append, strstr_cons hp]
    exact congrArg (Option.map · _) (funext fun n => by rw [List.length_nil]; omega)
  | cons b s ih =>
    have hp : ¬ key <+: b :: (s ++ x :: t) :=
      fun hk => hx (mem_of_overlap (s := b :: s) hk fun hp => h hp.isInfix)
    rw [List.cons_append, strstr_cons hp, ih fun hi => h (hi.trans (List.infix_cons List.infix_rfl)), Option.map_map]
    exact congrArg (Option.map · _) (funext fun n => by rw [Function.comp_apply, List.length_cons]; omega)

end Strstr

/-! ## Heads with their structure -/

/-- No NUL, and no end of a line. -/
def IsLine (l : Bytes) : Prop := 0 ∉ l ∧ ¬ crlf <:+: l

instance (l : Bytes) : Decidable (IsLine l) := inferInstanceAs (Decidable (_ ∧ _))

structure HeaderField where
  name : Bytes
  text : Bytes
  noColon : 58 ∉ name
  isLine : IsLine (name ++ 58 :: text)

structure RequestHead where
  requestLine : Bytes
  fields : List HeaderField
  isLine : IsLine requestLine

namespace HeaderField

def line (f : HeaderField) : Bytes := f.name ++ 58 :: f.text

/-- The field has this name, ignoring case. -/
def Named (name : String) (f : HeaderField) : Prop := f.name.map toLower = (ascii name).map toLower

instance (name : String) (f : HeaderField) : Decidable (f.Named name) := inferInstanceAs (Decidable (_ = _))

end HeaderField

/-- The text `headerValue` looks for. -/
def headerKey (name : String) : Bytes := toLowerCase (ascii name) ++ [58]

/-- The name and a colon stand somewhere in the line. -/
def Holds (name : String) (l : Bytes) : Prop := (strstr (l.map toLower) (headerKey name)).isSome

instance (name : String) (l : Bytes) : Decidable (Holds name l) := inferInstanceAs (Decidable (_ = true))

/-- What stands in the line behind the first such place. -/
def behind (name : String) (l : Bytes) : Bytes :=
  l.drop ((strstr (l.map toLower) (headerKey name)).getD 0 + (headerKey name).length)

/-- The line up to there, the colon included. -/
def front (name : String) (l : Bytes) : Bytes :=
  l.take ((strstr (l.map toLower) (headerKey name)).getD 0 + (headerKey name).length)

namespace RequestHead

def lines (h : RequestHead) : List Bytes := h.requestLine :: h.fields.map (·.line)

/-- What arrives. -/
def encode (h : RequestHead) : Bytes := (h.lines.map (· ++ crlf)).flatten ++ crlf

/-- The trimmed value of the first field of that name, or nothing. -/
def field (h : RequestHead) (name : String) : Bytes :=
  ((h.fields.find? fun f => f.Named name).map fun f => trim f.text).getD []

/-- Where a lookup of `name` finds its text first, the field begins. -/
def Clear (h : RequestHead) (name : String) : Prop :=
  ¬ Holds name h.requestLine ∧ ∀ f ∈ h.fields.find? (fun f => Holds name f.line), f.Named name

/-- `h'` is `h`, up to the text behind the first place where name and colon stand. -/
inductive Alike (name : String) (h : RequestHead) : RequestHead → Prop
  | same : Alike name h h
  | request {h' : RequestHead} {text : Bytes} (hholds : Holds name h.requestLine)
      (hline : h'.requestLine = front name h.requestLine ++ text) (hfields : h'.fields = h.fields) : Alike name h h'
  | field {h' : RequestHead} {before after : List HeaderField} {f f' : HeaderField} {text : Bytes}
      (hrequest : ¬ Holds name h.requestLine) (hbefore : ∀ x ∈ before, ¬ Holds name x.line) (hholds : Holds name f.line)
      (hfields : h.fields = before ++ f :: after) (hname : f'.name = f.name) (hline : f'.line = front name f.line ++ text)
      (hrequest' : h'.requestLine = h.requestLine) (hfields' : h'.fields = before ++ f' :: after) : Alike name h h'

/-- The framing that the fields ask for. -/
def bodyReader (h : RequestHead) (c : WiFiClient) : BodyReader :=
  let chunked := equalsIgnoreCase (h.field "Transfer-Encoding") (ascii "chunked")
  let lengthText := h.field "Content-Length"
  { client := c, chunked, remaining := if chunked || lengthText.isEmpty then -1 else toInt lengthText }

end RequestHead

/-! ## The value at a place -/

theorem strstr_crlf {w : Bytes} (h : ¬ crlf <:+: w) (t : Bytes) : strstr (w ++ (crlf ++ t)) crlf = some w.length := by
  induction w with
  | nil => exact strstr_front (List.prefix_append _ _)
  | cons b w ih =>
    have hp : ¬ crlf <+: b :: (w ++ (crlf ++ t)) := by
      intro hk
      cases w with
      | nil =>
        -- the line ends with a CR of its own
        obtain ⟨-, hk⟩ := List.cons_prefix_cons.1 hk
        exact absurd (List.cons_prefix_cons.1 hk).1 (by decide)
      | cons c w =>
        have hpre : crlf <+: b :: c :: w :=
          List.prefix_of_prefix_length_le hk (List.prefix_append (b :: c :: w) _) (Nat.le_add_left 2 _)
        exact h hpre.isInfix
    rw [List.cons_append, strstr_cons hp, ih fun hi => h (hi.trans (List.infix_cons List.infix_rfl))]
    rfl

theorem trim_blanks {s bl : Bytes} (hb : ∀ b ∈ bl, isBlank b = true) : trim (bl ++ s) = trim s := by
  unfold trim
  rw [List.dropWhile_append_of_pos fun b hm => isSpace_of_blank (hb b hm)]

/-- The last three lines of `headerValue` (:75-78). -/
def valueAt (header : Bytes) (p : Nat) : Bytes :=
  let p := p + ((header.drop p).takeWhile isBlank).length
  trim ((header.take ((indexOf header crlf p).getD header.length)).drop p)

theorem blanks_line (v t : Bytes) : ∃ bl w, v = bl ++ w ∧ (∀ b ∈ bl, isBlank b = true) ∧
    (w ++ (crlf ++ t)).takeWhile isBlank = [] := by
  refine ⟨v.takeWhile isBlank, v.dropWhile isBlank, List.takeWhile_append_dropWhile.symm,
    fun b hb => List.mem_takeWhile_imp hb, ?_⟩
  cases hw : v.dropWhile isBlank with
  | nil => rfl
  | cons b w =>
    have hb : isBlank b = false := by
      have := List.head?_dropWhile_not isBlank v
      rw [hw] at this
      simpa using this
    rw [List.cons_append, List.takeWhile_cons_of_neg (by rw [hb]; exact Bool.false_ne_true)]

theorem valueAt_line (u v t : Bytes) (h : IsLine v) : valueAt (u ++ (v ++ (crlf ++ t))) u.length = trim v := by
  obtain ⟨bl, w, rfl, hbl, hw⟩ := blanks_line v t
  have hw0 : ∀ b ∈ w ++ crlf, b ≠ 0 := by
    rintro b hb rfl
    rcases List.mem_append.1 hb with hb | hb
    · exact h.1 (List.mem_append_right _ hb)
    · exact absurd hb (by decide)
  have hskip : ((u ++ (bl ++ w ++ (crlf ++ t))).drop u.length).takeWhile isBlank = bl := by
    rw [List.drop_left, List.append_assoc, List.takeWhile_append_of_pos hbl, hw, List.append_nil]
  have hdrop : (u ++ (bl ++ w ++ (crlf ++ t))).drop (u.length + bl.length) = w ++ (crlf ++ t) := by
    rw [← List.drop_drop, List.drop_left, List.append_assoc, List.drop_left]
  have hend : indexOf (u ++ (bl ++ w ++ (crlf ++ t))) crlf (u.length + bl.length) =
      some (u.length + bl.length + w.length) := by
    have hlt : ¬ (u ++ (bl ++ w ++ (crlf ++ t))).length ≤ u.length + bl.length := by
      simp only [List.length_append]
      have : crlf.length = 2 := rfl
      omega
    unfold indexOf
    rw [if_neg hlt, hdrop, ← List.append_assoc, cstr_append hw0, List.append_assoc,
      strstr_crlf fun hi => h.2 (hi.trans (List.suffix_append _ _).isInfix)]
    rfl
  have hvalue :
      ((u ++ (bl ++ w ++ (crlf ++ t))).take (u.length + bl.length + w.length)).drop (u.length + bl.length) = w := by
    rw [List.drop_take, hdrop, Nat.add_sub_cancel_left, List.take_left]
  unfold valueAt
  rw [hskip]
  dsimp only
  rw [hend, Option.getD_some, hvalue, trim_blanks hbl]

/-! ## The lookup -/

/-- A name that can be looked for line by line. -/
def Searchable (name : String) : Prop := 0 ∉ ascii name ∧ 13 ∉ headerKey name ∧ 10 ∉ headerKey name

instance (name : String) : Decidable (Searchable name) := inferInstanceAs (Decidable (_ ∧ _ ∧ _))

theorem headerKey_ne (name : String) : headerKey name ≠ [] := List.concat_ne_nil _ _

theorem toLower_ne_zero {b : UInt8} (h : b ≠ 0) : toLower b ≠ 0 := by
  unfold toLower
  split
  · next hb =>
    intro he
    have h1 := UInt8.le_iff_toNat_le.1 hb.1
    have h2 := UInt8.le_iff_toNat_le.1 hb.2
    have h3 := congrArg UInt8.toNat he
    rw [UInt8.toNat_add] at h3
    have e65 : (65 : UInt8).toNat = 65 := rfl
    have e90 : (90 : UInt8).toNat = 90 := rfl
    have e32 : (32 : UInt8).toNat = 32 := rfl
    have e0 : (0 : UInt8).toNat = 0 := rfl
    omega
  · exact h

theorem zero_notMem_lower {s : Bytes} (h : 0 ∉ s) : 0 ∉ s.map toLower := by
  intro hm
  obtain ⟨b, hb, he⟩ := List.mem_map.1 hm
  exact toLower_ne_zero (fun hz => h (hz ▸ hb)) he

theorem toLowerCase_text {s : Bytes} (h : 0 ∉ s) : toLowerCase s = s.map toLower := by
  unfold toLowerCase
  rw [cstr_text h, List.drop_length, List.append_nil]

theorem indexOf_zero {s key : Bytes} (h : 0 ∉ s) (hk : key ≠ []) : indexOf s key 0 = strstr s key := by
  unfold indexOf
  by_cases hs : s.length ≤ 0
  · rw [if_pos hs, List.length_eq_zero_iff.1 (Nat.le_zero.1 hs), strstr, if_neg fun he => hk (List.isEmpty_iff.1 he)]
  · rw [if_neg hs, List.drop_zero, cstr_text h]
    exact (congrArg (Option.map · _) (funext fun n => Nat.zero_add n)).trans Option.map_id'

theorem headerValue_eq {header : Bytes} (h : 0 ∉ header) (name : String) : headerValue header name =
    ((strstr (header.map toLower) (headerKey name)).map fun i =>
      valueAt header (i + (headerKey name).length)).getD [] := by
  have hi := indexOf_zero (zero_notMem_lower h) (headerKey_ne name)
  have hkey : toLowerCase (ascii name) ++ [58] = headerKey name := rfl
  unfold headerValue
  rw [hkey, toLowerCase_text h]
  dsimp only
  rw [hi]
  cases strstr (header.map toLower) (headerKey name) with
  | none => rfl
  | some i =>
    have hblank : isBlank = fun b => b == 32 || b == 9 := rfl
    rw [Option.map_some, Option.getD_some, valueAt, hblank]

section Lines
variable {name : String}

theorem strstr_line {l : Bytes} (hs : Searchable name) (hl : ¬ Holds name l) (t : Bytes) :
    strstr ((l ++ (crlf ++ t)).map toLower) (headerKey name) =
      (strstr (t.map toLower) (headerKey name)).map ((l ++ crlf).length + ·) := by
  have hnone : strstr (l.map toLower) (headerKey name) = none := Option.not_isSome_iff_eq_none.1 hl
  have hlf := strstr_skip hs.2.2 (headerKey_ne name) (s := []) (fun hi => headerKey_ne name (List.infix_nil.1 hi))
    (t.map toLower)
  have hend : crlf.map toLower = [13, 10] := by decide
  rw [List.nil_append] at hlf
  rw [List.map_append, List.map_append, hend, List.cons_append, List.singleton_append,
    strstr_skip hs.2.1 (headerKey_ne name) (strstr_none hnone), hlf, Option.map_map]
  refine congrArg (Option.map · _) (funext fun n => ?_)
  have hc : crlf.length = 2 := rfl
  rw [Function.comp_apply, List.length_map, List.length_append, List.length_nil]
  omega

theorem strstr_lines {ls : List Bytes} (hs : Searchable name) (hl : ∀ l ∈ ls, ¬ Holds name l) (t : Bytes) :
    strstr (((ls.map (· ++ crlf)).flatten ++ t).map toLower) (headerKey name) =
      (strstr (t.map toLower) (headerKey name)).map ((ls.map (· ++ crlf)).flatten.length + ·) := by
  induction ls with
  | nil =>
    exact ((congrArg (Option.map · _) (funext fun n => Nat.zero_add n)).trans Option.map_id').symm
  | cons l ls ih =>
    have ih := ih fun x hx => hl x (List.mem_cons_of_mem _ hx)
    rw [List.map_cons, List.flatten_cons, List.append_assoc, List.append_assoc,
      strstr_line hs (hl l List.mem_cons_self), ih, Option.map_map]
    refine congrArg (Option.map · _) (funext fun n => ?_)
    have hlen : (l ++ crlf ++ (ls.map (· ++ crlf)).flatten).length = (l ++ crlf).length + _ := List.length_append
    rw [Function.comp_apply, hlen, Nat.add_assoc]

theorem strstr_end (hs : Searchable name) : strstr (crlf.map toLower) (headerKey name) = none := by
  have hnil : strstr [] (headerKey name) = none := if_neg fun he => headerKey_ne name (List.isEmpty_iff.1 he)
  have hl : ¬ Holds name [] := by
    unfold Holds
    rw [List.map_nil, hnil]
    exact Bool.false_ne_true
  have h := strstr_line hs hl []
  rwa [List.map_nil, hnil] at h

theorem IsLine.drop {l : Bytes} (h : IsLine l) (n : Nat) : IsLine (l.drop n) :=
  ⟨fun h0 => h.1 (List.mem_of_mem_drop h0), fun hi => h.2 (hi.trans (List.drop_suffix n l).isInfix)⟩

theorem zero_notMem_lines {ls : List Bytes} (hls : ∀ l ∈ ls, IsLine l) : 0 ∉ (ls.map (· ++ crlf)).flatten ++ crlf := by
  have hcrlf : (0 : UInt8) ∉ crlf := by decide
  intro h
  rcases List.mem_append.1 h with h | h
  · obtain ⟨_, hm, h⟩ := List.mem_flatten.1 h
    obtain ⟨l, hl, rfl⟩ := List.mem_map.1 hm
    rcases List.mem_append.1 h with h | h
    · exact (hls l hl).1 h
    · exact hcrlf h
  · exact hcrlf h

/-- The lookup reads on behind the first place where name and colon stand. -/
theorem headerValue_lines {ls : List Bytes} (hs : Searchable name) (hls : ∀ l ∈ ls, IsLine l) :
    headerValue ((ls.map (· ++ crlf)).flatten ++ crlf) name =
      ((ls.find? fun l => Holds name l).map fun l => trim (behind name l)).getD [] := by
  rw [headerValue_eq (zero_notMem_lines hls)]
  cases hf : ls.find? fun l => Holds name l with
  | none =>
    have hno : ∀ l ∈ ls, ¬ Holds name l := fun l hl => by simpa using List.find?_eq_none.1 hf l hl
    rw [strstr_lines hs hno, strstr_end hs]
    rfl
  | some l =>
    obtain ⟨hl, before, after, rfl, hbefore⟩ := List.find?_eq_some_iff_append.1 hf
    have hno : ∀ x ∈ before, ¬ Holds name x := fun x hx => by simpa using hbefore x hx
    obtain ⟨i, hi⟩ := Option.isSome_iff_exists.1 (of_decide_eq_true hl)
    have hle := (strstr_some hi).1
    rw [List.length_map] at hle
    have hsplit : ((before ++ l :: after).map (· ++ crlf)).flatten ++ crlf =
        (before.map (· ++ crlf)).flatten ++ (l ++ (crlf ++ ((after.map (· ++ crlf)).flatten ++ crlf))) := by
      simp only [List.map_append, List.map_cons, List.flatten_append, List.flatten_cons, List.append_assoc]
    have hfound := strstr_append hi ((crlf ++ ((after.map (· ++ crlf)).flatten ++ crlf)).map toLower)
    rw [← List.map_append] at hfound
    -- the text up to the place, and the rest of the line behind it
    have hcut : l.take (i + (headerKey name).length) ++ behind name l = l := by
      unfold behind
      rw [hi, Option.getD_some, List.take_append_drop]
    have hvalue := valueAt_line
      ((before.map (· ++ crlf)).flatten ++ l.take (i + (headerKey name).length)) (behind name l)
      ((after.map (· ++ crlf)).flatten ++ crlf) ((hls l (List.mem_append_right _ List.mem_cons_self)).drop _)
    rw [List.append_assoc, ← List.append_assoc _ (behind name l), hcut, List.length_append, List.length_take,
      Nat.min_eq_left hle] at hvalue
    rw [hsplit, strstr_lines hs hno, hfound]
    simp only [Option.map_some, Option.getD_some]
    rw [Nat.add_assoc, hvalue]

end Lines

/-! ## Other texts at the same place -/

section Front
variable {name : String}

theorem front_text {l : Bytes} (hl : Holds name l) (text : Bytes) :
    Holds name (front name l ++ text) ∧ behind name (front name l ++ text) = text := by
  obtain ⟨i, hi⟩ := Option.isSome_iff_exists.1 hl
  have hle := (strstr_some hi).1
  rw [List.length_map] at hle
  have hfront : front name l = l.take (i + (headerKey name).length) := by
    unfold front
    rw [hi, Option.getD_some]
  have hlen : (front name l).length = i + (headerKey name).length := by
    rw [hfront, List.length_take, Nat.min_eq_left hle]
  have hcut : (front name l).map toLower ++ (l.drop (i + (headerKey name).length)).map toLower = l.map toLower := by
    rw [← List.map_append, hfront, List.take_append_drop]
  have hfirst : strstr ((front name l).map toLower) (headerKey name) = some i := by
    rw [← hcut] at hi
    exact strstr_of_append hi (Nat.le_of_eq (by rw [List.length_map, hlen]))
  have hagain : strstr ((front name l ++ text).map toLower) (headerKey name) = some i := by
    rw [List.map_append]
    exact strstr_append hfirst _
  refine ⟨Option.isSome_iff_exists.2 ⟨i, hagain⟩, ?_⟩
  unfold behind
  rw [hagain, Option.getD_some, ← hlen, List.drop_left]

theorem IsLine.front {l : Bytes} (h : IsLine l) : IsLine (front name l) :=
  ⟨fun h0 => h.1 (List.mem_of_mem_take h0), fun hi => h.2 (hi.trans (List.take_prefix _ l).isInfix)⟩

/-- One more symbol, which does not end a line. -/
theorem IsLine.concat {l : Bytes} (h : IsLine l) {x : UInt8} (h0 : x ≠ 0) (hx : x ≠ 10) : IsLine (l ++ [x]) := by
  refine ⟨fun hm => ?_, fun hi => ?_⟩
  · rcases List.mem_append.1 hm with hm | hm
    · exact h.1 hm
    · exact h0 (List.mem_singleton.1 hm).symm
  · rcases List.infix_concat_iff.1 hi with hsuf | hi
    · rcases List.suffix_concat_iff.1 hsuf with hnil | ⟨t, ht, -⟩
      · cases hnil
      · have hlast := congrArg List.getLast? ht
        rw [List.getLast?_concat] at hlast
        exact hx (Option.some.inj hlast).symm
    · exact h.2 hi

theorem toLower_colon {b : UInt8} (h : toLower b = 58) : b = 58 := by
  unfold toLower at h
  split at h
  · next hb =>
    have h1 := UInt8.le_iff_toNat_le.1 hb.1
    have h2 := UInt8.le_iff_toNat_le.1 hb.2
    have h3 := congrArg UInt8.toNat h
    rw [UInt8.toNat_add] at h3
    have e65 : (65 : UInt8).toNat = 65 := rfl
    have e90 : (90 : UInt8).toNat = 90 := rfl
    have e32 : (32 : UInt8).toNat = 32 := rfl
    have e58 : (58 : UInt8).toNat = 58 := rfl
    omega
  · exact h

/-- The place in a field line is behind the field's own name. -/
theorem front_name {f : HeaderField} (hf : Holds name f.line) : ∃ x, front name f.line = f.name ++ 58 :: x := by
  have hpre : front name f.line <+: f.line := List.take_prefix _ _
  have hlt : f.name.length < (front name f.line).length := by
    by_contra hle
    have hname : front name f.line <+: f.name :=
      List.prefix_of_prefix_length_le hpre (List.prefix_append f.name _) (Nat.le_of_not_lt hle)
    obtain ⟨i, hi⟩ := Option.isSome_iff_exists.1 (front_text hf []).1
    rw [List.append_nil] at hi
    have hcolon : (58 : UInt8) ∈ headerKey name := List.mem_append_right _ (List.mem_singleton_self _)
    obtain ⟨b, hb, hlow⟩ := List.mem_map.1 (List.mem_of_mem_drop ((strstr_some hi).2.subset hcolon))
    exact f.noColon (toLower_colon hlow ▸ hname.subset hb)
  have hcolon : f.name ++ [58] <+: f.line := ⟨f.text, by rw [List.append_assoc]; rfl⟩
  obtain ⟨x, hx⟩ := List.prefix_of_prefix_length_le hcolon hpre (by rw [List.length_append]; exact hlt)
  exact ⟨x, by rw [← hx, List.append_assoc]; rfl⟩

end Front

/-! ## The fields -/

namespace RequestHead
variable {name : String}

theorem headerValue_encode (h : RequestHead) (hs : Searchable name) : headerValue h.encode name =
    ((h.lines.find? fun l => Holds name l).map fun l => trim (behind name l)).getD [] := by
  refine headerValue_lines hs fun l hl => ?_
  rcases List.mem_cons.1 hl with rfl | hl
  · exact h.isLine
  · obtain ⟨f, _, rfl⟩ := List.mem_map.1 hl
    exact f.isLine

/-- A field of that name has its text behind the first place. -/
theorem named_line {f : HeaderField} (hs : Searchable name) (hn : f.Named name) :
    Holds name f.line ∧ behind name f.line = f.text := by
  have hkey : headerKey name = f.name.map toLower ++ [58] := by
    unfold headerKey
    rw [toLowerCase_text hs.1, hn]
  have hline : f.line.map toLower = headerKey name ++ f.text.map toLower := by
    unfold HeaderField.line
    rw [hkey, List.map_append, List.append_assoc]
    rfl
  have hfirst : strstr (f.line.map toLower) (headerKey name) = some 0 := by
    rw [hline]
    exact strstr_front (List.prefix_append _ _)
  refine ⟨Option.isSome_iff_exists.2 ⟨0, hfirst⟩, ?_⟩
  unfold behind
  rw [hfirst, Option.getD_some, Nat.zero_add, hkey, List.length_append, List.length_map]
  unfold HeaderField.line
  rw [← List.drop_drop, List.drop_left]
  rfl

theorem field_of_named {h : RequestHead} {f : HeaderField} (hs : Searchable name)
    (hf : (h.fields.find? fun f => Holds name f.line) = some f) (hn : f.Named name) : h.field name = trim f.text := by
  obtain ⟨-, before, after, hfields, hbefore⟩ := List.find?_eq_some_iff_append.1 hf
  have hfind : (h.fields.find? fun f => f.Named name) = some f := by
    refine List.find?_eq_some_iff_append.2 ⟨decide_eq_true hn, before, after, hfields, fun x hx => ?_⟩
    have hx' : ¬ Holds name x.line := by simpa using hbefore x hx
    have hno : ¬ x.Named name := fun h => hx' (named_line hs h).1
    simpa using hno
  unfold field
  rw [hfind]
  rfl

theorem field_of_none {h : RequestHead} (hs : Searchable name)
    (hf : (h.fields.find? fun f => Holds name f.line) = none) : h.field name = [] := by
  have hfind : (h.fields.find? fun f => f.Named name) = none := by
    refine List.find?_eq_none.2 fun f hm hn => ?_
    have hno := List.find?_eq_none.1 hf f hm
    exact hno (decide_eq_true (named_line hs (of_decide_eq_true hn)).1)
  unfold field
  rw [hfind]
  rfl

theorem headerValue_request {h : RequestHead} (hs : Searchable name) (hr : Holds name h.requestLine) :
    headerValue h.encode name = trim (behind name h.requestLine) := by
  rw [headerValue_encode h hs, lines, List.find?_cons, decide_eq_true hr]
  rfl

theorem headerValue_fields {h : RequestHead} (hs : Searchable name) (hr : ¬ Holds name h.requestLine) :
    headerValue h.encode name = ((h.fields.find? fun f => Holds name f.line).map fun f => trim (behind name f.line)).getD [] := by
  rw [headerValue_encode h hs, lines, List.find?_cons, decide_eq_false hr]
  dsimp only
  rw [List.find?_map, Option.map_map]
  rfl

theorem headerValue_of_clear {h : RequestHead} (hs : Searchable name) (hc : h.Clear name) :
    headerValue h.encode name = h.field name := by
  rw [headerValue_fields hs hc.1]
  cases hf : h.fields.find? fun f => Holds name f.line with
  | none => rw [field_of_none hs hf]; rfl
  | some f =>
    have hn : f.Named name := hc.2 f hf
    rw [field_of_named hs hf hn, Option.map_some, Option.getD_some, (named_line hs hn).2]

theorem Alike.clear {h h' : RequestHead} (ha : h.Alike name h') (hc : h.Clear name) : h'.Clear name := by
  cases ha with
  | same => exact hc
  | request hholds _ _ => exact absurd hholds hc.1
  | @field _ before after f f' text hrequest hbefore hholds hfields hname hline hrequest' hfields' =>
    have hfound : h.fields.find? (fun f => Holds name f.line) = some f :=
      List.find?_eq_some_iff_append.2 ⟨decide_eq_true hholds, before, after, hfields, fun x hx => by simpa using hbefore x hx⟩
    have hholds' : Holds name f'.line := by
      rw [hline]
      exact (front_text hholds text).1
    have hfound' : h'.fields.find? (fun f => Holds name f.line) = some f' :=
      List.find?_eq_some_iff_append.2 ⟨decide_eq_true hholds', before, after, hfields', fun x hx => by simpa using hbefore x hx⟩
    refine ⟨by rw [hrequest']; exact hrequest, fun g hg => ?_⟩
    rw [hfound'] at hg
    cases hg
    unfold HeaderField.Named
    rw [hname]
    exact hc.2 f hfound

/-- Where the first place is not in a field line of that name, the lookup gives what stands there. -/
theorem exists_alike {h : RequestHead} (hs : Searchable name) (hc : ¬ h.Clear name) {text : Bytes}
    (ht : ∀ l, IsLine l → IsLine (l ++ text)) :
    ∃ h', h.Alike name h' ∧ headerValue h'.encode name = trim text ∧ h'.field name = h.field name := by
  by_cases hr : Holds name h.requestLine
  · obtain ⟨hholds, hbehind⟩ := front_text hr text
    let h' : RequestHead := ⟨front name h.requestLine ++ text, h.fields, ht _ h.isLine.front⟩
    exact ⟨h', .request hr rfl rfl, by rw [headerValue_request (h := h') hs hholds, hbehind], rfl⟩
  obtain ⟨f, hfound, hn⟩ : ∃ f, (h.fields.find? fun f => Holds name f.line) = some f ∧ ¬ f.Named name := by
    by_contra hno
    refine hc ⟨hr, fun f hf => ?_⟩
    by_contra hn
    exact hno ⟨f, hf, hn⟩
  obtain ⟨hholds, before, after, hfields, hbefore⟩ := List.find?_eq_some_iff_append.1 hfound
  have hholds : Holds name f.line := of_decide_eq_true hholds
  have hbefore : ∀ x ∈ before, ¬ Holds name x.line := fun x hx => by simpa using hbefore x hx
  obtain ⟨x, hx⟩ := front_name hholds
  obtain ⟨hholds', hbehind⟩ := front_text hholds text
  have hline : f.name ++ 58 :: (x ++ text) = front name f.line ++ text := by
    rw [hx, List.append_assoc]
    rfl
  let f' : HeaderField := ⟨f.name, x ++ text, f.noColon, hline ▸ ht _ f.isLine.front⟩
  have hline' : f'.line = front name f.line ++ text := hline
  let h' : RequestHead := ⟨h.requestLine, before ++ f' :: after, h.isLine⟩
  refine ⟨h', .field hr hbefore hholds hfields (show f'.name = f.name from rfl) hline' rfl rfl, ?_, ?_⟩
  · have hfound' : h'.fields.find? (fun f => Holds name f.line) = some f' := by
      refine List.find?_eq_some_iff_append.2 ⟨decide_eq_true ?_, before, after, rfl, fun x hx => by simpa using hbefore x hx⟩
      rw [hline']
      exact hholds'
    rw [headerValue_fields (h := h') hs hr, hfound', Option.map_some, Option.getD_some, hline', hbehind]
  · have hn' : ¬ f'.Named name := hn
    unfold field
    rw [hfields, List.find?_append, List.find?_append, List.find?_cons, List.find?_cons, decide_eq_false hn,
      decide_eq_false hn']

/-- The lookup is right for every text that can stand there exactly when it looks into the right line. -/
theorem clear_iff (h : RequestHead) (hs : Searchable name) :
    h.Clear name ↔ ∀ h', h.Alike name h' → headerValue h'.encode name = h'.field name := by
  constructor
  · intro hc h' ha
    exact headerValue_of_clear hs (ha.clear hc)
  · intro hall
    by_contra hc
    have hempty : ∀ l, IsLine l → IsLine (l ++ []) := fun l hl => by rwa [List.append_nil]
    have hdigit : ∀ l, IsLine l → IsLine (l ++ [48]) := fun l hl => hl.concat (by decide) (by decide)
    obtain ⟨h1, ha1, hv1, hf1⟩ := exists_alike hs hc hempty
    obtain ⟨h2, ha2, hv2, hf2⟩ := exists_alike hs hc hdigit
    have he : trim [] = trim [48] := by
      rw [← hv1, ← hv2, hall h1 ha1, hall h2 ha2, hf1, hf2]
    exact absurd he (by decide)

end RequestHead

/-- The names that `handleClient` asks for (:938-953). -/
def askedNames : List String := ["Expect", "Connection", "Transfer-Encoding", "Content-Length"]

theorem searchable_asked : ∀ name ∈ askedNames, Searchable name := by
  intro name hn
  have hall : askedNames.all fun name => decide (Searchable name) := by decide +kernel
  exact of_decide_eq_true (List.all_eq_true.1 hall name hn)

theorem bodyReader_encode {h : RequestHead} (hte : h.Clear "Transfer-Encoding") (hcl : h.Clear "Content-Length")
    (c : WiFiClient) : bodyReader h.encode c = h.bodyReader c := by
  have hte := RequestHead.headerValue_of_clear (searchable_asked _ (by decide)) hte
  have hcl := RequestHead.headerValue_of_clear (searchable_asked _ (by decide)) hcl
  unfold bodyReader RequestHead.bodyReader
  rw [hte, hcl]

/-- **A lookup gives the field** where the name and a colon stand nowhere before its line, and only
there whatever text stands behind them. Where this is so of the framing's two names, the body is
framed by the real fields. -/
theorem headerValue_field_iff (h : RequestHead) :
    (∀ name ∈ askedNames, (h.Clear name → headerValue h.encode name = h.field name) ∧
      (h.Clear name ↔ ∀ h', h.Alike name h' → headerValue h'.encode name = h'.field name)) ∧
    (h.Clear "Transfer-Encoding" → h.Clear "Content-Length" → ∀ c, bodyReader h.encode c = h.bodyReader c) :=
  ⟨fun _ hn => ⟨RequestHead.headerValue_of_clear (searchable_asked _ hn), h.clear_iff (searchable_asked _ hn)⟩,
    bodyReader_encode⟩

/-- Another field's name ends in `Content-Length`. -/
def otherLength : RequestHead where
  requestLine := ascii "POST /ipp/print HTTP/1.1"
  fields := [⟨ascii "X-Content-Length", ascii " 5", by decide +kernel, by decide +kernel⟩,
    ⟨ascii "Content-Length", ascii " 9", by decide +kernel, by decide +kernel⟩]
  isLine := by decide +kernel

theorem headerValue_otherLength :
    otherLength.field "Content-Length" = ascii "9" ∧ headerValue otherLength.encode "Content-Length" = ascii "5" ∧
    (otherLength.bodyReader ⟨[], false⟩).remaining = 9 ∧ (bodyReader otherLength.encode ⟨[], false⟩).remaining = 5 := by
  decide +kernel

end PrintServer
