import PrintServer.IppRequest
import PrintServer.IppTruncation
import PrintServer.Lib.IppGrammar
/-!
# What `parseAttributes` reads (ipp_pcl3_service.cpp:767-822)

The loop sees items, not values: `taken` is what it takes for the values outside collections, with
the attribute each is put down to, and `parseAttributes_items` says that it applies `keep` to these
and stops right behind the end tag, whatever the HTTP framing. `given` is what the section has to
say. The two differ in three ways, all of them slips: `collectionDepth` is a `uint8_t`; a collection
does not set `currentName`, so a plain value after it goes to the attribute before; and a
document-format of 256 bytes or more is kept as an empty one.
-/
namespace PrintServer

open Lib.Ipp

/-! ## The reference -/

/-- The values outside collections, each with the name of its attribute. -/
def given (s : Section) : List (Bytes × Bytes) :=
  s.flatMap fun g => g.attributes.flatMap fun a => a.values.filterMap fun v =>
    match v with
    | .simple _ bytes => some (a.name, bytes)
    | .collection _ => none

/-- The values of one attribute that have a fitting length, in order. -/
def valuesOf (name : String) (fits : Nat → Bool) (vs : List (Bytes × Bytes)) : List Bytes :=
  (vs.filter fun v => v.1 == ascii name && fits v.2.length).map Prod.snd

/-- The last document-format outside collections. -/
def lastFormat (sec : Section) : Option Bytes := (valuesOf "document-format" (fun _ => true) (given sec)).getLast?

namespace RequestAttrs

/-- The reference decoding of a request's attributes. -/
def reference (vs : List (Bytes × Bytes)) : RequestAttrs where
  documentFormat := (valuesOf "document-format" (· < 256) vs).getLast?.getD []
  jobId := (valuesOf "job-id" (· == 4) vs).getLast?.map be32
  jobUri := (valuesOf "job-uri" (· < 256) vs).getLast?
  lastDocument := (valuesOf "last-document" (· == 1) vs).getLast?.map (· != [0])
  jobName := (valuesOf "job-name" (· < 128) vs).getLast?.getD []
  requested := (valuesOf "requested-attributes" (fun n => 0 < n && n < 64) vs).take maxRequested

end RequestAttrs

/-! ## The loop on items -/

/-- The tags that the loop skips (:785). -/
def isFraming (tag : UInt8) : Bool := tag = 0x4A || tag = 0x34 || tag = 0x37

/-- `collectionDepth` after such a tag (:786-787). -/
def nextDepth (tag depth : UInt8) : UInt8 :=
  if tag = 0x34 then depth + 1 else if tag = 0x37 ∧ depth ≠ 0 then depth - 1 else depth

/-- What the loop takes for values outside collections, with `currentName`. -/
def takenFrom : Bytes → UInt8 → List Item → List (Bytes × Bytes)
  | _, _, [] => []
  | _, depth, .delimiter _ :: is => takenFrom [] depth is
  | currentName, depth, .value tag name bytes :: is =>
    if isFraming tag then takenFrom currentName (nextDepth tag depth) is
    else
      let currentName := if name = [] then currentName else name
      if depth = 0 then (currentName, bytes) :: takenFrom currentName depth is else takenFrom currentName depth is

def taken (s : Section) : List (Bytes × Bytes) := takenFrom [] 0 s.items

theorem length_flatMap_data : ∀ l : List Piece, (l.flatMap Piece.data).length ≤ (rawChunks l).length
  | [] => by simp
  | p :: l => by
    have := length_flatMap_data l
    simp only [List.flatMap_cons, rawChunks, List.length_append] at this ⊢
    omega

/-- On a complete stream the body is still in the socket. -/
theorem Follow.length_le {E : Ending} {r : BodyReader} {left : Bytes} (h : Follow E r left) (hc : E.clean)
    (hm : E.miss = []) : left.length ≤ r.client.size := by
  have hsize : r.client.bytes.length ≤ r.client.size := Nat.le_add_right _ _
  cases h with
  | @here cur term l h hl =>
    have hs := congrArg List.length h.stream
    have hd := length_flatMap_data l
    rw [hm, List.append_nil, rawFrom] at hs
    simp only [List.length_append] at hs
    subst hl
    simp only [dataFrom, List.length_append]
    by_cases hcur : cur = []
    · simp only [hcur, if_true, List.length_nil] at hs ⊢
      omega
    · simp only [hcur, if_false, List.length_append] at hs
      omega
  | ended _ hl =>
    rw [hl]
    exact Nat.zero_le _
  | broken _ _ hn =>
    rw [(hn hc).1]
    exact Nat.zero_le _
  | fixed h =>
    have hs := congrArg List.length h.stream
    simp only [List.length_append] at hs
    rw [hm, List.length_nil] at hs
    omega

namespace BodyReader
variable {E : Ending}

theorem readByte_clean {r : BodyReader} {b : UInt8} {left : Bytes} (hc : E.clean) (h : Follow E r (b :: left)) :
    ∃ r', r.readByte = (some b, r') ∧ Follow E r' left := by
  rcases readByte_follow h with ⟨b', r', left', e, heq, hf⟩ | ⟨r', e, hf, hend⟩
  · obtain ⟨rfl, rfl⟩ := List.cons.inj heq
    exact ⟨r', e, hf⟩
  · cases (hend hc).1

theorem readExact_whole (hc : E.clean) (bs : Bytes) {r : BodyReader} {left : Bytes} (h : Follow E r (bs ++ left)) :
    ∃ r', readExact bs.length r = (some bs, r') ∧ Follow E r' left := by
  obtain ⟨bs', r', e⟩ := readExact_clean hc bs.length r _ h (by simp)
  obtain ⟨left', heq, hlen, hf⟩ := readExact_follow _ _ _ h e
  obtain ⟨rfl, rfl⟩ := List.append_inj heq hlen.symm
  exact ⟨r', e, hf⟩

theorem readU16_whole (hc : E.clean) {n : Nat} (hn : n < 2 ^ 16) {r : BodyReader} {left : Bytes}
    (h : Follow E r (u16 n ++ left)) : ∃ r', readU16 r = (some n, r') ∧ Follow E r' left := by
  obtain ⟨r', e, hf⟩ := readExact_whole hc (u16 n) h
  refine ⟨r', ?_, hf⟩
  have hbe : be16 (u16 n) = n := ofU16_u16 hn
  unfold readU16
  rw [length_u16] at e
  rw [e]
  show (some (be16 (u16 n)), r') = _
  rw [hbe]

/-- One item: the loop's turn, up to the next tag. -/
theorem attributesLoop_items (hc : E.clean) {doc : Bytes} : ∀ (is : List Item) (n : Nat) (currentName : Bytes) (depth : UInt8)
    (attrs : RequestAttrs) (r : BodyReader), (∀ i ∈ is, i.Wf ∧ i ≠ .delimiter 0x03) → is.length < n →
    Follow E r (is.flatMap Item.encode ++ (0x03 :: doc)) →
    ∃ r', attributesLoop n currentName depth attrs r =
        (some ((takenFrom currentName depth is).foldl (fun a v => a.keep v.1 v.2) attrs), r') ∧ Follow E r' doc := by
  intro is
  induction is with
  | nil =>
    intro n currentName depth attrs r _ hn hf
    obtain ⟨n, rfl⟩ := Nat.exists_eq_succ_of_ne_zero (Nat.ne_of_gt hn)
    obtain ⟨r', e, hf'⟩ := readByte_clean hc hf
    refine ⟨r', ?_, hf'⟩
    simp only [attributesLoop, e, if_true, takenFrom, List.foldl_nil]
  | cons i is ih =>
    intro n currentName depth attrs r hwf hn hf
    obtain ⟨n, rfl⟩ := Nat.exists_eq_succ_of_ne_zero (Nat.ne_of_gt (Nat.zero_lt_of_lt hn))
    have hn' : is.length < n := by simpa using hn
    have hwf' : ∀ i ∈ is, i.Wf ∧ i ≠ .delimiter 0x03 := fun j hj => hwf j (by simp [hj])
    obtain ⟨hi, hne⟩ := hwf i (by simp)
    cases i with
    | delimiter tag =>
      obtain ⟨r1, e1, hf1⟩ := readByte_clean hc hf
      obtain ⟨r', e, hf'⟩ := ih n [] depth attrs r1 hwf' hn' hf1
      have htag : tag ≠ 0x03 := by
        intro ht
        exact hne (by rw [ht])
      have hle : tag ≤ 0x0F := hi
      refine ⟨r', ?_, hf'⟩
      simp only [attributesLoop, e1, htag, hle, if_true, if_false, e, takenFrom]
    | value tag name bytes =>
      obtain ⟨htag, hname, hbytes⟩ := hi
      simp only [List.flatMap_cons, Item.encode, List.cons_append, List.append_assoc] at hf
      obtain ⟨r1, e1, hf1⟩ := readByte_clean hc hf
      obtain ⟨r2, e2, hf2⟩ := readU16_whole hc hname hf1
      obtain ⟨r3, e3, hf3⟩ := readExact_whole hc name hf2
      obtain ⟨r4, e4, hf4⟩ := readU16_whole hc hbytes hf3
      obtain ⟨r5, e5, hf5⟩ := readExact_whole hc bytes hf4
      have h3 : tag ≠ 0x03 := by
        intro ht
        rw [ht] at htag
        exact absurd htag (by decide)
      have hle : ¬ tag ≤ 0x0F := UInt8.not_le.2 htag
      simp only [attributesLoop, e1, h3, hle, if_false, e2, e3, e4, e5, takenFrom]
      by_cases hfr : tag = 0x4A ∨ tag = 0x34 ∨ tag = 0x37
      · have hb : isFraming tag = true := by simpa [isFraming, or_assoc] using hfr
        obtain ⟨r', e, hf'⟩ := ih n currentName (nextDepth tag depth) attrs r5 hwf' hn' hf5
        refine ⟨r', ?_, hf'⟩
        rw [if_pos hfr, hb, if_pos rfl]
        exact e
      · have hb : isFraming tag = false := by simpa [isFraming, not_or, and_assoc] using hfr
        have hlen : (if name.length = 0 then currentName else name) = if name = [] then currentName else name := by
          simp only [List.length_eq_zero_iff]
        obtain ⟨r', e, hf'⟩ := ih n (if name = [] then currentName else name) depth
          (if depth = 0 then attrs.keep (if name = [] then currentName else name) bytes else attrs) r5 hwf' hn' hf5
        refine ⟨r', ?_, hf'⟩
        rw [if_neg hfr, hb, if_neg Bool.false_ne_true, hlen, e]
        by_cases hd : depth = 0
        · simp only [hd, if_true, List.foldl_cons]
        · simp only [hd, if_false]

end BodyReader

/-! ## What the loop keeps -/

/-- A value of 256 bytes or more is read and not kept (:810). -/
def shorten (value : Bytes) : Bytes := if value.length < 256 then value else []

namespace RequestAttrs

/-- What `keep` makes of a row of values. -/
def kept (vs : List (Bytes × Bytes)) : RequestAttrs :=
  { reference vs with
    documentFormat := ((valuesOf "document-format" (fun _ => true) vs).getLast?.map shorten).getD [] }

end RequestAttrs

theorem valuesOf_concat (name : String) (fits : Nat → Bool) (vs : List (Bytes × Bytes)) (n v : Bytes) :
    valuesOf name fits (vs ++ [(n, v)]) =
      if n = ascii name ∧ fits v.length = true then valuesOf name fits vs ++ [v] else valuesOf name fits vs := by
  unfold valuesOf
  by_cases h : n = ascii name ∧ fits v.length = true
  · simp [h]
  · rw [if_neg h]
    simp only [List.filter_append, List.filter_cons, List.filter_nil, beq_iff_eq, Bool.and_eq_true, h, if_false,
      List.append_nil]

theorem valuesOf_other {name : String} {fits : Nat → Bool} {vs : List (Bytes × Bytes)} {n v : Bytes} (h : n ≠ ascii name) :
    valuesOf name fits (vs ++ [(n, v)]) = valuesOf name fits vs := by
  rw [valuesOf_concat, if_neg]
  intro hno
  exact h hno.1

theorem valuesOf_own {name : String} {fits : Nat → Bool} {vs : List (Bytes × Bytes)} {v : Bytes} :
    valuesOf name fits (vs ++ [(ascii name, v)]) =
      if fits v.length = true then valuesOf name fits vs ++ [v] else valuesOf name fits vs := by
  simp [valuesOf_concat]

theorem cstr_text {s : Bytes} (h : 0 ∉ s) : cstr s = s := by
  apply takeWhile_all
  intro b hb
  simp only [bne_iff_ne, ne_eq]
  rintro rfl
  exact h hb

/-- Up to its first NUL `s` is as `t`, ignoring case, and it is as long. -/
def CutAt (s t : Bytes) : Prop :=
  0 ∈ s ∧ s.length = t.length ∧ (cstr s).map toLower = (t.take (cstr s).length).map toLower

/-- `equalsIgnoreCase` is right but for a NUL, where it stops. -/
theorem equalsIgnoreCase_iff (s t : Bytes) : equalsIgnoreCase s t = true ↔ s.map toLower = t.map toLower ∨ CutAt s t := by
  simp only [equalsIgnoreCase, Bool.and_eq_true, beq_iff_eq]
  constructor
  · rintro ⟨hlen, he⟩
    by_cases h0 : 0 ∈ s
    · exact Or.inr ⟨h0, hlen, he⟩
    · rw [cstr_text h0, hlen, List.take_length] at he
      exact Or.inl he
  · rintro (he | ⟨-, hlen, he⟩)
    · have hpre : cstr s = s.take (cstr s).length := List.prefix_iff_eq_take.1 (List.takeWhile_prefix _)
      refine ⟨by simpa using congrArg List.length he, ?_⟩
      rw [List.map_take, ← he, ← List.map_take, ← hpre]
    · exact ⟨hlen, he⟩

namespace RequestAttrs

theorem if_neg_left {α : Sort*} {P Q : Prop} [Decidable P] [Decidable Q] {a b : α} (h : ¬P) :
    (if P ∧ Q then a else b) = b := by
  rw [if_neg]
  intro hno
  exact h hno.1

theorem keep_kept (vs : List (Bytes × Bytes)) {n : Bytes} (v : Bytes) (hn : 0 ∉ n) :
    (kept vs).keep n v = kept (vs ++ [(n, v)]) := by
  unfold keep
  rw [cstr_text hn]
  dsimp only
  by_cases h1 : n = ascii "document-format"
  · subst h1
    simp (disch := decide) only [kept, reference, valuesOf_other, valuesOf_own, if_true]
    simp [shorten]
  by_cases h2 : n = ascii "job-id"
  · subst h2
    have hreq : ascii "job-id" ≠ ascii "requested-attributes" := by decide
    simp (disch := decide) only [kept, reference, valuesOf_other, valuesOf_own, if_neg, if_neg_left, true_and]
    by_cases hv : v.length = 4 <;> simp [hv, hreq]
  by_cases h3 : n = ascii "job-uri"
  · subst h3
    have hreq : ascii "job-uri" ≠ ascii "requested-attributes" := by decide
    simp (disch := decide) only [kept, reference, valuesOf_other, valuesOf_own, if_neg, if_neg_left, true_and]
    by_cases hv : v.length < 256 <;> simp [hv, hreq]
  by_cases h4 : n = ascii "job-name"
  · subst h4
    have hreq : ascii "job-name" ≠ ascii "requested-attributes" := by decide
    simp (disch := decide) only [kept, reference, valuesOf_other, valuesOf_own, if_neg, if_neg_left, true_and]
    by_cases hv : v.length < 128 <;> simp [hv, hreq]
  by_cases h5 : n = ascii "last-document"
  · subst h5
    have hreq : ascii "last-document" ≠ ascii "requested-attributes" := by decide
    simp (disch := decide) only [kept, reference, valuesOf_other, valuesOf_own, if_neg, if_neg_left, true_and]
    by_cases hv : v.length = 1 <;> simp [hv, hreq]
  by_cases h6 : n = ascii "requested-attributes"
  · subst h6
    simp (disch := decide) only [kept, reference, valuesOf_other, valuesOf_own, if_neg, if_neg_left, true_and]
    generalize valuesOf "requested-attributes" (fun n => decide (0 < n) && decide (n < 64)) vs = ws
    by_cases hv : 0 < v.length ∧ v.length < 64
    · by_cases hw : ws.length < maxRequested
      · have h1 : ws.length ≤ maxRequested := Nat.le_of_lt hw
        have h2 : (ws ++ [v]).length ≤ maxRequested := by
          rw [List.length_append]
          exact hw
        simp [hv, hw, List.take_of_length_le h1, List.take_of_length_le h2]
      · have h1 : maxRequested ≤ ws.length := Nat.le_of_not_lt hw
        simp [hv, h1, List.take_append_of_le_length h1]
    · have h1 : ¬ (0 < v.length ∧ v.length < 64 ∧ (ws.take maxRequested).length < maxRequested) := by
        rintro ⟨ha, hb, -⟩
        exact hv ⟨ha, hb⟩
      have h2 : ¬ ((decide (0 < v.length) && decide (v.length < 64)) = true) := by simpa using hv
      rw [if_neg h1, if_neg h2]
  · simp only [kept, reference, valuesOf_other h1, valuesOf_other h2, valuesOf_other h3, valuesOf_other h4,
      valuesOf_other h5, valuesOf_other h6, h1, h2, h3, h4, h5, h6, if_false, false_and]

theorem foldl_keep {vs : List (Bytes × Bytes)} (h : ∀ v ∈ vs, 0 ∉ v.1) :
    vs.foldl (fun a v => a.keep v.1 v.2) {} = kept vs := by
  induction vs using List.reverseRecOn with
  | nil => rfl
  | append_singleton vs v ih =>
    rw [List.foldl_append, ih fun x hx => h x (by simp [hx])]
    exact keep_kept vs v.2 (h v (by simp))

end RequestAttrs

/-! ## What the loop takes for values outside collections -/

section taken
variable {currentName : Bytes} {is : List Item}

theorem isFraming_of_valueTag {tag : UInt8} (h : IsValueTag tag) : isFraming tag = false := by
  obtain ⟨-, h1, h2, h3⟩ := h
  simp only [begCollection, endCollection, memberAttrName] at h1 h2 h3
  simp [isFraming, h1, h2, h3]

theorem begin_depth {depth : UInt8} (h : depth.toNat < 255) :
    (nextDepth begCollection depth).toNat = depth.toNat + 1 ∧
      nextDepth endCollection (nextDepth begCollection depth) = depth := by
  have hb : nextDepth begCollection depth = depth + 1 := rfl
  have hn : (depth + 1).toNat = depth.toNat + 1 := by
    rw [UInt8.toNat_add]
    exact Nat.mod_eq_of_lt (Nat.succ_lt_succ h)
  have hne : depth + 1 ≠ 0 := by
    intro hz
    rw [hz] at hn
    simp at hn
  refine ⟨hb ▸ hn, ?_⟩
  rw [hb]
  simp [nextDepth, endCollection, hne]

mutual

/-- Nothing is taken inside a collection, as long as the counter does not wrap. -/
theorem takenFrom_inside : ∀ {v : Value} {depth : UInt8} {is : List Item}, v.Wf → depth ≠ 0 →
    depth.toNat + v.depth ≤ 255 → takenFrom currentName depth (v.items [] ++ is) = takenFrom currentName depth is
  | .simple tag bytes, depth, _, h, hd, _ => by
    simp [Value.items, takenFrom, isFraming_of_valueTag h.1, hd]
  | .collection ms, depth, _, h, hd, hle => by
    simp only [Value.depth] at hle
    obtain ⟨hn, hend⟩ := begin_depth (show depth.toNat < 255 by omega)
    have hne : nextDepth begCollection depth ≠ 0 := by
      intro hz
      rw [hz] at hn
      simp at hn
    simp only [Value.items, List.cons_append, List.append_assoc, List.nil_append, takenFrom]
    rw [if_pos (by decide), takenFrom_members h hne (by omega)]
    simp only [takenFrom]
    rw [if_pos (by decide), hend]

theorem takenFrom_members : ∀ {ms : Members} {depth : UInt8} {inside : Bool} {is : List Item}, ms.Wf inside → depth ≠ 0 →
    depth.toNat + ms.depth ≤ 255 → takenFrom currentName depth (ms.items ++ is) = takenFrom currentName depth is
  | .nil, _, _, _, _, _, _ => rfl
  | .member name v rest, depth, _, _, h, hd, hle => by
    obtain ⟨-, hv, hrest⟩ := h
    simp only [Members.depth] at hle
    simp only [Members.items, List.cons_append, List.append_assoc, takenFrom]
    rw [if_pos (by decide), show nextDepth memberAttrName depth = depth from rfl, takenFrom_inside hv hd (by omega),
      takenFrom_members hrest hd (by omega)]
  | .also v rest, depth, _, _, h, hd, hle => by
    obtain ⟨-, hv, hrest⟩ := h
    simp only [Members.depth] at hle
    simp only [Members.items, List.append_assoc]
    rw [takenFrom_inside hv hd (by omega), takenFrom_members hrest hd (by omega)]

end

/-- A collection outside collections is skipped whole, its name with it. -/
theorem takenFrom_collection {name : Bytes} {ms : Members} (h : (Value.collection ms).Wf) (hd : ms.depth < 255) :
    takenFrom currentName 0 ((Value.collection ms).items name ++ is) = takenFrom currentName 0 is := by
  simp only [Value.items, List.cons_append, List.append_assoc, List.nil_append, takenFrom]
  rw [if_pos (by decide), takenFrom_members h (by decide) ?_]
  · simp only [takenFrom]
    rw [if_pos (by decide)]
    rfl
  · show 1 + ms.depth ≤ 255
    omega

theorem takenFrom_simple {name : Bytes} {tag : UInt8} {bytes : Bytes} (h : IsValueTag tag) :
    takenFrom currentName 0 ((Value.simple tag bytes).items name ++ is) =
      (if name = [] then currentName else name, bytes) :: takenFrom (if name = [] then currentName else name) 0 is := by
  simp [Value.items, takenFrom, isFraming_of_valueTag h]

end taken

/-! ## When this is what the section says -/

/-- Collections are nested at most 255 deep, and an attribute has either collections or plain values. -/
structure Tracked (s : Section) : Prop where
  depth : ∀ g ∈ s, ∀ a ∈ g.attributes, ∀ v ∈ a.values, v.depth ≤ 255
  pure : ∀ g ∈ s, ∀ a ∈ g.attributes, ∀ ms, a.value = .collection ms → ∀ v ∈ a.more, ∃ ms', v = .collection ms'

/-- Where the last document-format has 256 bytes or more, there is no shorter one to keep (or an empty one). -/
def FormatKept (s : Section) : Prop :=
  ∀ format, lastFormat s = some format → 256 ≤ format.length → (RequestAttrs.reference (given s)).documentFormat = []

/-- Nothing in the section reaches one of the slips. -/
structure Plain (s : Section) : Prop where
  tracked : Tracked s
  format : ∀ v ∈ given s, v.1 = ascii "document-format" → v.2.length < 256

/-- The values of an attribute outside collections. -/
def givenOf (name : Bytes) (vs : List Value) : List (Bytes × Bytes) :=
  vs.filterMap fun v =>
    match v with
    | .simple _ bytes => some (name, bytes)
    | .collection _ => none

theorem takenFrom_more {currentName : Bytes} {is : List Item} : ∀ {vs : List Value}, (∀ v ∈ vs, v.Wf ∧ v.depth ≤ 255) →
    takenFrom currentName 0 (vs.flatMap (Value.items []) ++ is) = givenOf currentName vs ++ takenFrom currentName 0 is := by
  intro vs
  induction vs with
  | nil =>
    intro _
    rfl
  | cons v vs ih =>
    intro h
    have hrest := ih fun x hx => h x (by simp [hx])
    obtain ⟨hv, hd⟩ := h v (by simp)
    rw [List.flatMap_cons, List.append_assoc]
    cases v with
    | simple tag bytes =>
      rw [takenFrom_simple hv.1, if_pos rfl, hrest]
      rfl
    | collection ms =>
      rw [takenFrom_collection hv hd, hrest]
      rfl

theorem givenOf_collections (name : Bytes) {vs : List Value} (h : ∀ v ∈ vs, ∃ ms, v = .collection ms) :
    givenOf name vs = [] := by
  unfold givenOf
  rw [List.filterMap_eq_nil_iff]
  intro v hv
  obtain ⟨ms, rfl⟩ := h v hv
  rfl

/-- One attribute, whatever `currentName` was. -/
theorem takenFrom_attribute (currentName : Bytes) (is : List Item) {a : Attribute} (hw : a.Wf)
    (hd : ∀ v ∈ a.values, v.depth ≤ 255) (hp : ∀ ms, a.value = .collection ms → ∀ v ∈ a.more, ∃ ms', v = .collection ms') :
    ∃ currentName', takenFrom currentName 0 (a.items ++ is) =
      givenOf a.name a.values ++ takenFrom currentName' 0 is := by
  obtain ⟨name, value, more⟩ := a
  have hmore : ∀ v ∈ more, v.Wf ∧ v.depth ≤ 255 := by
    intro v hv
    have hmem : v ∈ Attribute.values ⟨name, value, more⟩ := List.mem_cons_of_mem _ hv
    exact ⟨hw.values v hmem, hd v hmem⟩
  have hvalue : value.Wf ∧ value.depth ≤ 255 :=
    ⟨hw.values value (List.mem_cons_self ..), hd value (List.mem_cons_self ..)⟩
  simp only [Attribute.items, List.append_assoc, Attribute.values]
  cases value with
  | simple tag bytes =>
    refine ⟨name, ?_⟩
    rw [takenFrom_simple hvalue.1.1, if_neg hw.name_ne, takenFrom_more hmore]
    rfl
  | collection ms =>
    refine ⟨currentName, ?_⟩
    have hnone := hp ms rfl
    rw [takenFrom_collection hvalue.1 hvalue.2, takenFrom_more hmore, givenOf_collections _ hnone]
    show _ = givenOf name more ++ _
    rw [givenOf_collections _ hnone]

theorem takenFrom_attributes (is : List Item) : ∀ (as : List Attribute) (currentName : Bytes),
    (∀ a ∈ as, a.Wf ∧ (∀ v ∈ a.values, v.depth ≤ 255) ∧
      ∀ ms, a.value = .collection ms → ∀ v ∈ a.more, ∃ ms', v = .collection ms') →
    ∃ currentName', takenFrom currentName 0 (as.flatMap Attribute.items ++ is) =
      as.flatMap (fun a => givenOf a.name a.values) ++ takenFrom currentName' 0 is := by
  intro as
  induction as with
  | nil =>
    intro currentName _
    exact ⟨currentName, rfl⟩
  | cons a as ih =>
    intro currentName h
    obtain ⟨hw, hd, hp⟩ := h a (by simp)
    rw [List.flatMap_cons, List.append_assoc]
    obtain ⟨n1, e1⟩ := takenFrom_attribute currentName (as.flatMap Attribute.items ++ is) hw hd hp
    obtain ⟨n2, e2⟩ := ih n1 fun x hx => h x (by simp [hx])
    exact ⟨n2, by rw [e1, e2, List.flatMap_cons, List.append_assoc]⟩

/-- With collections nested at most 255 deep and not mixed with plain values, the loop takes what stands outside them. -/
theorem taken_eq_given {s : Section} (hw : s.Wf) (ht : Tracked s) : taken s = given s := by
  unfold taken
  rw [Section.items]
  generalize ([] : Bytes) = currentName
  induction s generalizing currentName with
  | nil => rfl
  | cons g s ih =>
    rw [List.flatMap_cons, Group.items, List.cons_append, List.cons_append, takenFrom, List.append_assoc]
    obtain ⟨n, e⟩ := takenFrom_attributes (s.flatMap Group.items ++ [.delimiter 0x03]) g.attributes []
      fun a ha => ⟨(hw g (by simp)).attributes a ha, ht.depth g (by simp) a ha, ht.pure g (by simp) a ha⟩
    have hs : Tracked s := ⟨fun x hx => ht.depth x (by simp [hx]), fun x hx => ht.pure x (by simp [hx])⟩
    rw [e, ih (fun x hx => hw x (by simp [hx])) hs n]
    rfl

theorem valuesOf_fits (name : String) (fits : Nat → Bool) (vs : List (Bytes × Bytes)) :
    valuesOf name fits vs = (valuesOf name (fun _ => true) vs).filter fun v => fits v.length := by
  simp only [valuesOf, Bool.and_true, List.filter_map, List.filter_filter]
  congr 1
  apply List.filter_congr
  intro v _
  exact Bool.and_comm _ _

/-- The formats that fit, seen from the last one. -/
theorem reference_format (s : Section) : (RequestAttrs.reference (given s)).documentFormat =
    (((valuesOf "document-format" (fun _ => true) (given s)).filter fun v => v.length < 256).getLast?).getD [] := by
  unfold RequestAttrs.reference
  rw [valuesOf_fits]

theorem reference_format_of_last {s : Section} {format : Bytes} (h : lastFormat s = some format)
    (hlt : format.length < 256) : (RequestAttrs.reference (given s)).documentFormat = format := by
  obtain ⟨init, hinit⟩ := List.getLast?_eq_some_iff.1 h
  rw [reference_format, hinit, List.filter_append]
  simp [hlt]

/-- Of the values outside collections the loop keeps what it should, but for a document-format that is too long. -/
theorem kept_given_iff (s : Section) : RequestAttrs.kept (given s) = .reference (given s) ↔ FormatKept s := by
  have hkept : (RequestAttrs.kept (given s)).documentFormat = ((lastFormat s).map shorten).getD [] := rfl
  have hiff : RequestAttrs.kept (given s) = .reference (given s) ↔
      (RequestAttrs.kept (given s)).documentFormat = (RequestAttrs.reference (given s)).documentFormat := by
    constructor
    · exact congrArg RequestAttrs.documentFormat
    · intro h
      rw [hkept] at h
      show { RequestAttrs.reference (given s) with documentFormat := ((lastFormat s).map shorten).getD [] } = _
      rw [h]
  rw [hiff, hkept]
  unfold FormatKept
  cases hl : lastFormat s with
  | none =>
    have hnone : valuesOf "document-format" (fun _ => true) (given s) = [] := List.getLast?_eq_none_iff.1 hl
    rw [reference_format, hnone]
    simp
  | some format =>
    simp only [Option.map_some, Option.getD_some, Option.some.injEq, forall_eq']
    by_cases hlt : format.length < 256
    · rw [reference_format_of_last hl hlt, shorten, if_pos hlt]
      exact iff_of_true rfl fun hge => absurd hlt (Nat.not_lt.2 hge)
    · rw [shorten, if_neg hlt]
      exact ⟨fun h _ => h.symm, fun h => (h (Nat.le_of_not_lt hlt)).symm⟩

theorem Plain.formatKept {s : Section} (hp : Plain s) : FormatKept s := by
  intro format hl hlen
  have hmem : format ∈ valuesOf "document-format" (fun _ => true) (given s) := List.mem_of_getLast? hl
  simp only [valuesOf, Bool.and_true, List.mem_map, List.mem_filter, beq_iff_eq] at hmem
  obtain ⟨v, ⟨hv, hn⟩, rfl⟩ := hmem
  exact absurd (hp.format v hv hn) (Nat.not_lt.2 hlen)

theorem kept_of_plain {s : Section} (hw : s.Wf) (hp : Plain s) : RequestAttrs.kept (taken s) = .reference (given s) := by
  rw [taken_eq_given hw hp.tracked]
  exact (kept_given_iff s).2 hp.formatKept

theorem takenFrom_end : ∀ (is : List Item) (currentName : Bytes) (depth : UInt8),
    takenFrom currentName depth (is ++ [.delimiter 0x03]) = takenFrom currentName depth is
  | [], _, _ => rfl
  | .delimiter _ :: is, _, depth => takenFrom_end is [] depth
  | .value tag name bytes :: is, currentName, depth => by
    simp only [List.cons_append, takenFrom, takenFrom_end is]

theorem takenFrom_names : ∀ {is : List Item} {currentName : Bytes} {depth : UInt8}, 0 ∉ currentName →
    (∀ tag name bytes, Item.value tag name bytes ∈ is → 0 ∉ name) → ∀ v ∈ takenFrom currentName depth is, 0 ∉ v.1 := by
  intro is
  induction is with
  | nil =>
    intro currentName depth _ _ v hv
    cases hv
  | cons i is ih =>
    intro currentName depth hc hi v hv
    have hi' : ∀ tag name bytes, Item.value tag name bytes ∈ is → 0 ∉ name :=
      fun tag name bytes hm => hi tag name bytes (List.mem_cons_of_mem _ hm)
    cases i with
    | delimiter tag => exact ih (by simp) hi' v hv
    | value tag name bytes =>
      have hname : 0 ∉ (if name = [] then currentName else name) := by
        split
        · exact hc
        · exact hi tag name bytes (List.mem_cons_self ..)
      simp only [takenFrom] at hv
      split at hv
      · exact ih hc hi' v hv
      · split at hv
        · rcases List.mem_cons.1 hv with rfl | hv
          · exact hname
          · exact ih hname hi' v hv
        · exact ih hname hi' v hv

/-! ## `parseAttributes` -/

namespace BodyReader
variable {E : Ending}

theorem length_readBytes : ∀ (k : Nat) (r : BodyReader), (readBytes k r).1.length ≤ k
  | 0, r => by simp [readBytes]
  | k + 1, r => by
    simp only [readBytes]
    split
    · have := length_readBytes k ‹_›
      simp only [List.length_cons]
      omega
    · have := length_readBytes k ‹_›
      omega

/-- What is read next is what is left. -/
theorem readBytes_take (hc : E.clean) (hm : E.miss = []) {r : BodyReader} {left : Bytes} (h : Follow E r left) (k : Nat) :
    (readBytes k r).1 = left.take k := by
  have hlen := length_readBytes k r
  obtain ⟨left', heq, hf, hend⟩ := readBytes_follow hc hm k r left h
  rcases hend with hd | hle
  · rw [hf.left_nil hd, List.append_nil] at heq
    rw [heq, List.take_of_length_le hlen]
  · have hk : (readBytes k r).1.length = k := by
      rw [heq, List.length_append] at hle
      omega
    rw [heq, List.take_left' hk]

theorem parseAttributes_items (hc : E.clean) (hm : E.miss = []) {s : Section} (hw : s.Wf) {r : BodyReader} {doc : Bytes}
    (h : Follow E r (s.encode ++ doc)) :
    ∃ r', parseAttributes r = (some (RequestAttrs.kept (taken s)), r') ∧ Follow E r' doc := by
  have hwf : ∀ i ∈ s.flatMap Group.items, i.Wf ∧ i ≠ .delimiter 0x03 := by
    intro i hi
    obtain ⟨g, hg, hi⟩ := List.mem_flatMap.1 hi
    rcases List.mem_cons.1 hi with rfl | hi
    · refine ⟨(hw g hg).tag_le, ?_⟩
      intro hno
      exact (hw g hg).tag_ne (Item.delimiter.inj hno)
    · obtain ⟨hi, hd⟩ := Group.attributes_wf (hw g hg) i hi
      refine ⟨hi, ?_⟩
      rintro rfl
      cases hd
  have henc : s.encode ++ doc = (s.flatMap Group.items).flatMap Item.encode ++ (0x03 :: doc) := by
    simp [Section.encode, Section.items, Item.encode]
  rw [henc] at h
  have hfuel : (s.flatMap Group.items).length < r.client.size + 1 := by
    have h1 := h.length_le hc hm
    have h2 := length_le_encode (s.flatMap Group.items)
    rw [List.length_append] at h1
    omega
  obtain ⟨r', e, hf⟩ := attributesLoop_items hc _ _ [] 0 {} r hwf hfuel h
  refine ⟨r', ?_, hf⟩
  have htaken : taken s = takenFrom [] 0 (s.flatMap Group.items) := by
    unfold taken
    rw [Section.items]
    exact takenFrom_end _ _ _
  have hnames : ∀ v ∈ taken s, 0 ∉ v.1 :=
    takenFrom_names (by simp) fun tag name bytes hm => Section.name_text hw hm
  rw [← RequestAttrs.foldl_keep hnames, htaken]
  exact e

end BodyReader

/-- **`parseAttributes` reads a request's attributes.** It stops right behind the end tag, whatever
the framing of the body (`seen` is the body, cut where `toInt` cuts it); where it keeps track of the
collections, its result is the reference decoding exactly when no document-format that is too long
stands in for a shorter one. -/
theorem parseAttributes_reads (f : Framing) (hf : f.Short) (c : WiFiClient) (rest : Bytes) (hs : Smooth c)
    (hb : c.bytes = f.encode ++ rest) (head doc : Bytes) (s : Section) (hw : s.Wf)
    (hd : f.seen = head ++ (s.encode ++ doc)) :
    ∃ r attrs r', (f.reader c).readExact head.length = (some head, r) ∧ parseAttributes r = (some attrs, r') ∧
      (∀ k, (r'.readBytes k).1 = doc.take k) ∧
      (Tracked s → (attrs = RequestAttrs.reference (given s) ↔ FormatKept s)) := by
  obtain ⟨E, hc, hm, -, hfol⟩ := f.follow hf c rest hs hb
  rw [hd] at hfol
  obtain ⟨r, e, hfol⟩ := BodyReader.readExact_whole hc head hfol
  obtain ⟨r', e', hfol⟩ := BodyReader.parseAttributes_items hc hm hw hfol
  refine ⟨r, _, r', e, e', BodyReader.readBytes_take hc hm hfol, fun ht => ?_⟩
  rw [taken_eq_given hw ht]
  exact kept_given_iff s

/-- Two requested names and a collection. -/
def twoNames : Section :=
  [⟨0x01, [⟨ascii "requested-attributes", .simple 0x44 (ascii "media"), [.simple 0x44 (ascii "sides")]⟩,
    ⟨ascii "media-col", .collection (.member (ascii "x") (.simple 0x44 (ascii "all")) .nil), []⟩]⟩]

theorem parseAttributes_reads_twoNames :
    let c : WiFiClient := ⟨WiFiClient.unread (twoNames.encode ++ ascii "hi") [], true⟩
    ∃ r attrs r', ((Framing.length (twoNames.encode ++ ascii "hi")).reader c).readExact 0 = (some [], r) ∧
      parseAttributes r = (some attrs, r') ∧ (r'.readBytes 5).1 = ascii "hi" ∧
      attrs = { requested := [ascii "media", ascii "sides"] } := by
  intro c
  have hsimple : ∀ bytes : Bytes, bytes.length < 2 ^ 16 → (Value.simple 0x44 bytes).Wf := by
    intro bytes hb
    exact ⟨by decide, hb⟩
  have hcol : (Value.collection (.member (ascii "x") (.simple 0x44 (ascii "all")) .nil)).Wf :=
    ⟨by decide, hsimple _ (by decide), trivial⟩
  have hw : twoNames.Wf := by
    intro g hg
    obtain rfl := List.mem_singleton.1 hg
    refine ⟨by decide, by decide, ?_⟩
    intro a ha
    simp only [List.mem_cons, List.not_mem_nil, or_false] at ha
    rcases ha with rfl | rfl
    · refine ⟨by decide, by decide, by decide, ?_⟩
      intro v hv
      simp only [Attribute.values, List.mem_cons, List.not_mem_nil, or_false] at hv
      rcases hv with rfl | rfl
      · exact hsimple _ (by decide)
      · exact hsimple _ (by decide)
    · refine ⟨by decide, by decide, by decide, ?_⟩
      intro v hv
      simp only [Attribute.values, List.mem_cons, List.not_mem_nil, or_false] at hv
      rw [hv]
      exact hcol
  have hplain : Plain twoNames := by
    refine ⟨⟨?_, ?_⟩, by decide⟩
    · simp [twoNames, Attribute.values, Value.depth, Members.depth]
    · simp [twoNames]
  have hsized : (Framing.length (twoNames.encode ++ ascii "hi")).Sized := by
    unfold Framing.Sized
    decide +kernel
  obtain ⟨r, attrs, r', h1, h2, h3, h4⟩ := parseAttributes_reads (.length (twoNames.encode ++ ascii "hi")) trivial c []
    (by unfold Smooth; decide +kernel) (by decide +kernel) [] (ascii "hi") twoNames hw hsized.seen_eq
  refine ⟨r, attrs, r', h1, h2, (h3 5).trans (by decide), ?_⟩
  rw [(h4 hplain.tracked).2 hplain.formatKept]
  decide

/-- A value inside `n` collections. -/
def nested (v : Value) : Nat → Value
  | 0 => v
  | n + 1 => .collection (.member (ascii "m") (nested v n) .nil)

/-- A requested name, and a second one inside 256 collections. -/
def deepName : Section :=
  [⟨0x01, [⟨ascii "requested-attributes", .simple 0x44 (ascii "media"), [nested (.simple 0x44 (ascii "sides")) 256]⟩]⟩]

theorem nested_wf {v : Value} (h : v.Wf) : ∀ n, (nested v n).Wf
  | 0 => h
  | n + 1 => ⟨by decide, nested_wf h n, trivial⟩

theorem deepName_wf : deepName.Wf := by
  intro g hg
  obtain rfl := List.mem_singleton.1 hg
  refine ⟨by decide, by decide, ?_⟩
  intro a ha
  obtain rfl := List.mem_singleton.1 ha
  refine ⟨by decide, by decide, by decide, ?_⟩
  intro v hv
  simp only [Attribute.values, List.mem_cons, List.not_mem_nil, or_false] at hv
  rcases hv with rfl | rfl
  · exact ⟨by decide, by decide⟩
  · exact nested_wf (v := .simple 0x44 (ascii "sides")) ⟨by decide, by decide⟩ 256

/-- The counter reads 0 inside the 256th collection, and stays there. -/
theorem takenFrom_nested {currentName : Bytes} {tag : UInt8} {bytes : Bytes} (ht : IsValueTag tag) :
    ∀ (n k : Nat) (is : List Item), k + n = 256 →
      takenFrom currentName (UInt8.ofNat k) ((nested (.simple tag bytes) n).items [] ++ is) =
        (currentName, bytes) :: takenFrom currentName 0 is
  | 0, k, is, hk => by
    obtain rfl : k = 256 := hk
    rw [nested, show UInt8.ofNat 256 = 0 from rfl, takenFrom_simple ht]
    rfl
  | n + 1, k, is, hk => by
    have hsucc : nextDepth memberAttrName (nextDepth begCollection (UInt8.ofNat k)) = UInt8.ofNat (k + 1) := by
      show UInt8.ofNat k + 1 = _
      rw [UInt8.ofNat_add]
      rfl
    simp only [nested, Value.items, Members.items, List.cons_append, List.append_assoc, List.nil_append, takenFrom]
    rw [if_pos (by decide), if_pos (by decide), hsucc, takenFrom_nested ht n (k + 1) _ (by omega)]
    simp only [takenFrom]
    rw [if_pos (by decide)]
    rfl

theorem taken_deepName :
    taken deepName = [(ascii "requested-attributes", ascii "media"), (ascii "requested-attributes", ascii "sides")] := by
  simp only [taken, deepName, Section.items, Group.items, List.flatMap_cons, List.flatMap_nil, List.append_nil,
    Attribute.items, List.cons_append, List.append_assoc, takenFrom]
  rw [takenFrom_simple (by decide), if_neg (by decide), show (0 : UInt8) = UInt8.ofNat 0 from rfl,
    takenFrom_nested (by decide) 256 0 _ rfl]
  rfl

theorem parseAttributes_counts_deepName :
    let c : WiFiClient := ⟨WiFiClient.unread deepName.encode [], true⟩
    ∃ attrs r', parseAttributes ((Framing.length deepName.encode).reader c) = (some attrs, r') ∧
      attrs.requested = [ascii "media", ascii "sides"] ∧ attrs ≠ RequestAttrs.reference (given deepName) := by
  intro c
  have hsmooth : Smooth c := by
    show NetEvent.stall ∉ WiFiClient.unread deepName.encode []
    exact WiFiClient.unread_smooth (by simp)
  have hbytes : c.bytes = (Framing.length deepName.encode).encode ++ [] := by
    rw [List.append_nil]
    exact (WiFiClient.unread_flatMap deepName.encode []).trans (List.append_nil _)
  have hsized : (Framing.length deepName.encode).Sized := by
    unfold Framing.Sized
    decide +kernel
  obtain ⟨E, hc, hm, -, hfol⟩ := hsized.follow trivial c [] hsmooth hbytes
  rw [show (Framing.length deepName.encode).data = deepName.encode ++ [] from (List.append_nil _).symm] at hfol
  obtain ⟨r', e, -⟩ := BodyReader.parseAttributes_items hc hm deepName_wf hfol
  have htaken : (RequestAttrs.kept (taken deepName)).requested = [ascii "media", ascii "sides"] := by
    rw [taken_deepName]
    decide +kernel
  have hgiven : given deepName = [(ascii "requested-attributes", ascii "media")] := rfl
  refine ⟨_, r', e, htaken, ?_⟩
  intro hno
  rw [hno, hgiven] at htaken
  revert htaken
  decide +kernel

end PrintServer
