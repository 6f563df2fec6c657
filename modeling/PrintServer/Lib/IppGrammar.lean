import Mathlib.Algebra.Group.Nat.Defs
import Mathlib.Data.List.Basic
/-!
# The attribute encoding of the Internet Printing Protocol (RFC 8010, section 3.1)

A section is a row of groups, each begun by a delimiter tag and made of attributes; an attribute is
a name with one or more values, and a value is plain or a collection of members. On the wire all
this is a flat row of `Item`s: a value without a name goes on with the attribute before it, and a
collection is what stands between two tags. `items_injective` says that the bytes determine the
items, `named_items` that an attribute gives its name to exactly one of them.
-/
namespace Lib.Ipp

/-! ## Items -/

def u16 (n : Nat) : List UInt8 := [UInt8.ofNat (n / 256), UInt8.ofNat n]

def ofU16 : List UInt8 → Nat
  | [a, b] => a.toNat * 256 + b.toNat
  | _ => 0

inductive Item where
  | delimiter (tag : UInt8)
  | value (tag : UInt8) (name bytes : List UInt8)
deriving DecidableEq, Repr

namespace Item

def encode : Item → List UInt8
  | .delimiter tag => [tag]
  | .value tag name bytes => tag :: u16 name.length ++ name ++ (u16 bytes.length ++ bytes)

/-- Delimiter tags are below all value tags, and lengths fit their two bytes. -/
def Wf : Item → Prop
  | .delimiter tag => tag ≤ 0x0F
  | .value tag name bytes => 0x0F < tag ∧ name.length < 2 ^ 16 ∧ bytes.length < 2 ^ 16

instance (i : Item) : Decidable i.Wf :=
  match i with
  | .delimiter tag => inferInstanceAs (Decidable (tag ≤ 0x0F))
  | .value .. => inferInstanceAs (Decidable (_ ∧ _ ∧ _))

/-- The name, where there is one. -/
def named : Item → Option (List UInt8)
  | .value _ (b :: name) _ => some (b :: name)
  | _ => none

def isDelimiter : Item → Bool
  | .delimiter _ => true
  | .value .. => false

end Item

@[simp] theorem length_u16 (n : Nat) : (u16 n).length = 2 := rfl

theorem ofU16_u16 {n : Nat} (h : n < 2 ^ 16) : ofU16 (u16 n) = n := by
  simp only [u16, ofU16, UInt8.toNat_ofNat']
  omega

theorem u16_injective {m n : Nat} (hm : m < 2 ^ 16) (hn : n < 2 ^ 16) (h : u16 m = u16 n) : m = n := by
  rw [← ofU16_u16 hm, ← ofU16_u16 hn, h]

/-- Text behind its length can be told from what follows. -/
theorem counted_injective {xs ys : List UInt8} (hx : xs.length < 2 ^ 16) (hy : ys.length < 2 ^ 16) {as bs : List UInt8}
    (h : u16 xs.length ++ xs ++ as = u16 ys.length ++ ys ++ bs) : xs = ys ∧ as = bs := by
  rw [List.append_assoc, List.append_assoc] at h
  obtain ⟨hlen, h'⟩ := List.append_inj h (by simp)
  exact List.append_inj h' (u16_injective hx hy hlen)

/-- An item is a prefix code. -/
theorem Item.encode_injective {i j : Item} (hi : i.Wf) (hj : j.Wf) {as bs : List UInt8}
    (h : i.encode ++ as = j.encode ++ bs) : i = j ∧ as = bs := by
  cases i with
  | delimiter t =>
    cases j with
    | delimiter t' =>
      simp only [encode, List.cons_append, List.nil_append, List.cons.injEq] at h
      obtain ⟨rfl, rfl⟩ := h
      exact ⟨rfl, rfl⟩
    | value t' n v =>
      simp only [encode, List.cons_append, List.nil_append, List.cons.injEq] at h
      obtain ⟨rfl, -⟩ := h
      exact absurd hj.1 (UInt8.not_lt.2 hi)
  | value t n v =>
    cases j with
    | delimiter t' =>
      simp only [encode, List.cons_append, List.nil_append, List.cons.injEq] at h
      obtain ⟨rfl, -⟩ := h
      exact absurd hi.1 (UInt8.not_lt.2 hj)
    | value t' n' v' =>
      obtain ⟨-, hn, hv⟩ := hi
      obtain ⟨-, hn', hv'⟩ := hj
      simp only [encode, List.cons_append, List.cons.injEq] at h
      obtain ⟨rfl, h⟩ := h
      rw [List.append_assoc, List.append_assoc (u16 n'.length ++ n')] at h
      obtain ⟨rfl, h'⟩ := counted_injective hn hn' h
      obtain ⟨rfl, rfl⟩ := counted_injective hv hv' h'
      exact ⟨rfl, rfl⟩

theorem Item.encode_ne_nil (i : Item) : i.encode ≠ [] := by
  cases i <;> simp [Item.encode]

/-- **The bytes determine the items.** -/
theorem items_injective {is js : List Item} (hi : ∀ i ∈ is, i.Wf) (hj : ∀ j ∈ js, j.Wf)
    (h : is.flatMap Item.encode = js.flatMap Item.encode) : is = js := by
  induction is generalizing js with
  | nil =>
    cases js with
    | nil => rfl
    | cons j js => simp [j.encode_ne_nil] at h
  | cons i is ih =>
    cases js with
    | nil => simp [i.encode_ne_nil] at h
    | cons j js =>
      rw [List.flatMap_cons, List.flatMap_cons] at h
      obtain ⟨rfl, h'⟩ := Item.encode_injective (hi i (by simp)) (hj j (by simp)) h
      rw [ih (fun x hx => hi x (by simp [hx])) (fun x hx => hj x (by simp [hx])) h']

/-- What stands between two delimiters is determined. -/
theorem split_at_delimiter {xs ys xs' ys' : List Item} {d d' : Item} (hd : d.isDelimiter = true)
    (hd' : d'.isDelimiter = true) (hx : ∀ x ∈ xs, x.isDelimiter = false) (hx' : ∀ x ∈ xs', x.isDelimiter = false)
    (h : xs ++ d :: ys = xs' ++ d' :: ys') : xs = xs' ∧ d = d' ∧ ys = ys' := by
  induction xs generalizing xs' with
  | nil =>
    cases xs' with
    | nil =>
      obtain ⟨rfl, rfl⟩ := List.cons.inj h
      exact ⟨rfl, rfl, rfl⟩
    | cons x' xs' =>
      obtain ⟨rfl, -⟩ := List.cons.inj h
      simp [hx' d] at hd
  | cons x xs ih =>
    cases xs' with
    | nil =>
      obtain ⟨rfl, -⟩ := List.cons.inj h
      simp [hx x] at hd'
    | cons x' xs' =>
      obtain ⟨rfl, h'⟩ := List.cons.inj h
      obtain ⟨rfl, rfl, rfl⟩ := ih (fun y hy => hx y (by simp [hy])) (fun y hy => hx' y (by simp [hy])) h'
      exact ⟨rfl, rfl, rfl⟩

/-! ## Values, attributes, sections -/

def begCollection : UInt8 := 0x34
def endCollection : UInt8 := 0x37
def memberAttrName : UInt8 := 0x4A

/-- The tag of a value that is not part of a collection's framing. -/
def IsValueTag (tag : UInt8) : Prop :=
  0x0F < tag ∧ tag ≠ begCollection ∧ tag ≠ endCollection ∧ tag ≠ memberAttrName

instance (tag : UInt8) : Decidable (IsValueTag tag) := inferInstanceAs (Decidable (_ ∧ _))

mutual

inductive Value where
  | simple (tag : UInt8) (bytes : List UInt8)
  | collection (members : Members)

/-- What stands in a collection. -/
inductive Members where
  | nil
  /-- A member attribute with its first value. -/
  | member (name : List UInt8) (value : Value) (rest : Members)
  /-- One more value of the member attribute before it. -/
  | also (value : Value) (rest : Members)

end

def Value.tag : Value → UInt8
  | .simple tag _ => tag
  | .collection _ => begCollection

structure Attribute where
  name : List UInt8
  value : Value
  more : List Value := []

structure Group where
  tag : UInt8
  attributes : List Attribute

/-- An attribute section: it ends with the end-of-attributes tag. -/
abbrev Section := List Group

mutual

/-- The items of a value; the first one carries `name`. -/
def Value.items (name : List UInt8) : Value → List Item
  | .simple tag bytes => [.value tag name bytes]
  | .collection ms => .value begCollection name [] :: (ms.items ++ [.value endCollection [] []])

def Members.items : Members → List Item
  | .nil => []
  | .member name v rest => .value memberAttrName [] name :: (v.items [] ++ rest.items)
  | .also v rest => v.items [] ++ rest.items

end

mutual

def Value.Wf : Value → Prop
  | .simple tag bytes => IsValueTag tag ∧ bytes.length < 2 ^ 16
  | .collection ms => ms.Wf false

/-- `inside` is whether a member attribute stands before. -/
def Members.Wf (inside : Bool) : Members → Prop
  | .nil => True
  | .member name v rest => (name ≠ [] ∧ name.length < 2 ^ 16) ∧ v.Wf ∧ rest.Wf true
  | .also v rest => inside = true ∧ v.Wf ∧ rest.Wf true

end

mutual

/-- How deep collections are nested. -/
def Value.depth : Value → Nat
  | .simple .. => 0
  | .collection ms => ms.depth + 1

def Members.depth : Members → Nat
  | .nil => 0
  | .member _ v rest => max v.depth rest.depth
  | .also v rest => max v.depth rest.depth

end

namespace Attribute

def values (a : Attribute) : List Value := a.value :: a.more

def items (a : Attribute) : List Item := a.value.items a.name ++ a.more.flatMap (Value.items [])

/-- A name is not empty and holds no NUL. -/
structure Wf (a : Attribute) : Prop where
  name_ne : a.name ≠ []
  name_text : 0 ∉ a.name
  name_length : a.name.length < 2 ^ 16
  values : ∀ v ∈ a.values, v.Wf

end Attribute

namespace Group

def items (g : Group) : List Item := .delimiter g.tag :: g.attributes.flatMap Attribute.items

structure Wf (g : Group) : Prop where
  tag_le : g.tag ≤ 0x0F
  tag_ne : g.tag ≠ 0x03
  attributes : ∀ a ∈ g.attributes, a.Wf

end Group

namespace Section

def items (s : Section) : List Item := s.flatMap Group.items ++ [.delimiter 0x03]

def encode (s : Section) : List UInt8 := s.items.flatMap Item.encode

def Wf (s : Section) : Prop := ∀ g ∈ s, g.Wf

end Section

/-! ## The items of a well-formed section -/

mutual

theorem Value.items_wf {name : List UInt8} (hn : name.length < 2 ^ 16) :
    ∀ {v : Value}, v.Wf → ∀ i ∈ v.items name, i.Wf ∧ i.isDelimiter = false
  | .simple tag bytes, h => by
    intro i hi
    simp only [Value.items, List.mem_singleton] at hi
    subst hi
    exact ⟨⟨h.1.1, hn, h.2⟩, rfl⟩
  | .collection ms, h => by
    intro i hi
    simp only [Value.items, List.mem_cons, List.mem_append, List.not_mem_nil, or_false] at hi
    rcases hi with rfl | hi | rfl
    · exact ⟨⟨by decide, hn, by decide⟩, rfl⟩
    · exact ms.items_wf h i hi
    · exact ⟨by decide, rfl⟩

theorem Members.items_wf : ∀ {inside : Bool} (ms : Members), ms.Wf inside → ∀ i ∈ ms.items, i.Wf ∧ i.isDelimiter = false
  | _, .nil, _ => by simp [Members.items]
  | _, .member name v rest, h => by
    intro i hi
    obtain ⟨hname, hv, hrest⟩ := h
    simp only [Members.items, List.mem_cons, List.mem_append] at hi
    rcases hi with rfl | hi | hi
    · exact ⟨⟨by decide, by decide, hname.2⟩, rfl⟩
    · exact v.items_wf (by decide) hv i hi
    · exact rest.items_wf hrest i hi
  | _, .also v rest, h => by
    intro i hi
    obtain ⟨_, hv, hrest⟩ := h
    simp only [Members.items, List.mem_append] at hi
    rcases hi with hi | hi
    · exact v.items_wf (by decide) hv i hi
    · exact rest.items_wf hrest i hi

end

theorem Attribute.items_wf {a : Attribute} (h : a.Wf) : ∀ i ∈ a.items, i.Wf ∧ i.isDelimiter = false := by
  intro i hi
  rcases List.mem_append.1 hi with hi | hi
  · exact a.value.items_wf h.name_length (h.values _ (by simp [values])) i hi
  · obtain ⟨v, hv, hi⟩ := List.mem_flatMap.1 hi
    exact v.items_wf (by decide) (h.values v (by simp [values, hv])) i hi

theorem Group.attributes_wf {g : Group} (h : g.Wf) :
    ∀ i ∈ g.attributes.flatMap Attribute.items, i.Wf ∧ i.isDelimiter = false := by
  intro i hi
  obtain ⟨a, ha, hi⟩ := List.mem_flatMap.1 hi
  exact Attribute.items_wf (h.attributes a ha) i hi

theorem Section.items_wf {s : Section} (h : s.Wf) : ∀ i ∈ s.items, i.Wf := by
  intro i hi
  rcases List.mem_append.1 hi with hi | hi
  · obtain ⟨g, hg, hi⟩ := List.mem_flatMap.1 hi
    rcases List.mem_cons.1 hi with rfl | hi
    · exact (h g hg).tag_le
    · exact (Group.attributes_wf (h g hg) i hi).1
  · rw [List.mem_singleton.1 hi]
    show (3 : UInt8) ≤ 0x0F
    decide

/-! ## Names -/

theorem Value.named_of_ne {name : List UInt8} (h : name ≠ []) (v : Value) :
    ∃ i is, v.items name = i :: is ∧ i.named = some name ∧ v.items [] = (match i with
      | .value tag _ value => .value tag [] value
      | .delimiter tag => .delimiter tag) :: is := by
  obtain ⟨b, bs, rfl⟩ := List.exists_cons_of_ne_nil h
  cases v with
  | simple tag bytes => exact ⟨_, [], by rw [items], rfl, by rw [items]⟩
  | collection ms => exact ⟨_, _, by rw [items], rfl, by rw [items]⟩

mutual

theorem Value.named_nil : ∀ v : Value, (v.items []).filterMap Item.named = []
  | .simple tag bytes => rfl
  | .collection ms => by
    rw [Value.items, List.filterMap_cons_none rfl, List.filterMap_append, ms.named_nil]
    rfl

theorem Members.named_nil : ∀ ms : Members, ms.items.filterMap Item.named = []
  | .nil => rfl
  | .member name v rest => by
    rw [Members.items, List.filterMap_cons_none rfl, List.filterMap_append, v.named_nil, rest.named_nil]
    rfl
  | .also v rest => by
    rw [Members.items, List.filterMap_append, v.named_nil, rest.named_nil]
    rfl

end

/-- An attribute gives its name to one item. -/
theorem Attribute.named_items {a : Attribute} (h : a.name ≠ []) : a.items.filterMap Item.named = [a.name] := by
  obtain ⟨i, is, he, hi, hnil⟩ := a.value.named_of_ne h
  have hrest : is.filterMap Item.named = [] := by
    have hv := a.value.named_nil
    rw [hnil] at hv
    revert hv
    cases i <;> simp [Item.named]
  have hmore : (a.more.flatMap (Value.items [])).filterMap Item.named = [] := by
    rw [List.filterMap_flatMap]
    simp [Value.named_nil]
  rw [items, he, List.filterMap_append, List.filterMap_cons, hi, hrest, hmore]
  rfl

/-- **The names of the attributes are the names of the items.** -/
theorem named_items {as : List Attribute} (h : ∀ a ∈ as, a.name ≠ []) :
    (as.flatMap Attribute.items).filterMap Item.named = as.map Attribute.name := by
  induction as with
  | nil => rfl
  | cons a as ih =>
    rw [List.flatMap_cons, List.filterMap_append, Attribute.named_items (h a (by simp)),
      ih fun x hx => h x (by simp [hx])]
    rfl

/-- Every name in an attribute is its own. -/
theorem Attribute.name_of_mem {a : Attribute} (h : a.name ≠ []) {tag : UInt8} {name bytes : List UInt8}
    (hm : Item.value tag name bytes ∈ a.items) : name = [] ∨ name = a.name := by
  cases name with
  | nil => exact Or.inl rfl
  | cons b bs =>
    have hn : b :: bs ∈ a.items.filterMap Item.named := List.mem_filterMap.2 ⟨_, hm, rfl⟩
    rw [a.named_items h] at hn
    exact Or.inr (List.mem_singleton.1 hn)

/-- No name in a well-formed section holds a NUL. -/
theorem Section.name_text {s : Section} (h : s.Wf) {tag : UInt8} {name bytes : List UInt8}
    (hm : Item.value tag name bytes ∈ s.items) : 0 ∉ name := by
  rcases List.mem_append.1 hm with hm | hm
  · obtain ⟨g, hg, hm⟩ := List.mem_flatMap.1 hm
    rcases List.mem_cons.1 hm with hm | hm
    · cases hm
    · obtain ⟨a, ha, hm⟩ := List.mem_flatMap.1 hm
      have hw := (h g hg).attributes a ha
      rcases a.name_of_mem hw.name_ne hm with rfl | rfl
      · simp
      · exact hw.name_text
  · cases List.mem_singleton.1 hm

theorem length_le_encode (is : List Item) : is.length ≤ (is.flatMap Item.encode).length := by
  induction is with
  | nil => simp
  | cons i is ih =>
    have := List.length_pos_iff.2 i.encode_ne_nil
    simp only [List.flatMap_cons, List.length_append, List.length_cons]
    omega

end Lib.Ipp
