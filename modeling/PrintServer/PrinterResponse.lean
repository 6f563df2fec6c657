import Mathlib.Data.List.Flatten
import Mathlib.Data.List.Nodup
import PrintServer.IppAttributes
import PrintServer.PrinterAttributes
/-!
# Get-Printer-Attributes responses (ipp_pcl3_service.cpp:464-761)

`Complete` is what a client may expect of a response. A block whose first value carries the name is
an attribute (`items_toAttribute`); the two `inverted` ones, media-supported and media-size-supported,
give their first value to the attribute before them and their name to every other value. `Selects` is
what a request asks for, `Wants` what `AttrFilter` makes of it: a requested name that is cut at a NUL
is taken for the attribute's. So the response is complete exactly when the request asks for neither of
the two and its cut names add nothing (`sendPrinterAttributes_complete_iff`).
-/
namespace PrintServer

open Lib.Ipp

namespace PrinterAttributes

/-! ## What a request selects -/

/-- The keywords of an attribute's group (:356-360). -/
def groupKeywords (tmpl : Bool) : List String :=
  if tmpl then ["job-template"] else ["printer-description", "document-description"]

/-- One of the requested names is `keyword`, ignoring case. -/
def Asked (requested : List Bytes) (keyword : String) : Prop := ∃ v ∈ requested, v.map toLower = (ascii keyword).map toLower

/-- One of the requested names is taken for `keyword`. -/
def Heard (requested : List Bytes) (keyword : String) : Prop := ∃ v ∈ requested, equalsIgnoreCase v (ascii keyword) = true

/-- The keywords that select the attribute of a block: `all`, its name and its groups. -/
def keywords (b : Block) : List String := "all" :: b.name :: groupKeywords b.tmpl

/-- Selected by an empty request, by `all`, by name or by group. -/
def Selects (requested : List Bytes) (b : Block) : Prop := requested = [] ∨ ∃ k ∈ keywords b, Asked requested k

/-- Selected for `AttrFilter`. -/
def Wants (requested : List Bytes) (b : Block) : Prop := requested = [] ∨ ∃ k ∈ keywords b, Heard requested k

/-- A requested name with a NUL in it, up to which it is as one of the keywords. -/
def CutKeyword (requested : List Bytes) (b : Block) : Prop := ∃ k ∈ keywords b, ∃ v ∈ requested, CutAt v (ascii k)

theorem wants_iff (requested : List Bytes) (b : Block) :
    Wants requested b ↔ Selects requested b ∨ CutKeyword requested b := by
  unfold Wants Selects CutKeyword Heard Asked
  simp only [equalsIgnoreCase_iff, and_or_left, exists_or, or_assoc]

theorem length_of_equalsIgnoreCase {s t : Bytes} (h : equalsIgnoreCase s t = true) : s.length = t.length := by
  unfold equalsIgnoreCase at h
  rw [Bool.and_eq_true, beq_iff_eq] at h
  exact h.1

theorem heard_cons {v : Bytes} {vs : List Bytes} {k : String} :
    Heard (v :: vs) k ↔ equalsIgnoreCase v (ascii k) = true ∨ Heard vs k := by
  unfold Heard
  constructor
  · rintro ⟨w, hw, h⟩
    rcases List.mem_cons.1 hw with rfl | hw
    · exact Or.inl h
    · exact Or.inr ⟨w, hw, h⟩
  · rintro (h | ⟨w, hw, h⟩)
    · exact ⟨v, List.mem_cons_self .., h⟩
    · exact ⟨w, List.mem_cons_of_mem _ hw, h⟩

/-- The keywords have different lengths, so a name can only be one of them. -/
theorem group_spec (f : AttrFilter) (v : Bytes) :
    (f.group v).req = f.req ∧ ((f.group v).all = true ↔ f.all = true ∨ equalsIgnoreCase v (ascii "all") = true) ∧
      ((f.group v).description = true ↔ f.description = true ∨ equalsIgnoreCase v (ascii "printer-description") = true ∨
        equalsIgnoreCase v (ascii "document-description") = true) ∧
      ((f.group v).jobTemplate = true ↔ f.jobTemplate = true ∨ equalsIgnoreCase v (ascii "job-template") = true) := by
  have hne : ∀ {k : String} (k' : String), (ascii k).length ≠ (ascii k').length → equalsIgnoreCase v (ascii k) = true →
      equalsIgnoreCase v (ascii k') = false := by
    intro k k' hk h
    by_contra hno
    have h' := length_of_equalsIgnoreCase (by simpa using hno)
    exact hk ((length_of_equalsIgnoreCase h).symm.trans h')
  unfold AttrFilter.group
  by_cases h1 : equalsIgnoreCase v (ascii "all") = true
  · have h2 := hne "printer-description" (by decide) h1
    have h3 := hne "document-description" (by decide) h1
    have h4 := hne "job-template" (by decide) h1
    simp [h1, h2, h3, h4]
  by_cases h2 : equalsIgnoreCase v (ascii "printer-description") = true
  · have h3 := hne "document-description" (by decide) h2
    have h4 := hne "job-template" (by decide) h2
    simp [h1, h2, h3, h4]
  by_cases h3 : equalsIgnoreCase v (ascii "job-template") = true
  · have h4 := hne "document-description" (by decide) h3
    simp [h1, h2, h3, h4]
  by_cases h4 : equalsIgnoreCase v (ascii "document-description") = true <;> simp [h1, h2, h3, h4]

theorem foldl_group : ∀ (vs : List Bytes) (f : AttrFilter),
    (vs.foldl AttrFilter.group f).req = f.req ∧ ((vs.foldl AttrFilter.group f).all = true ↔ f.all = true ∨ Heard vs "all") ∧
      ((vs.foldl AttrFilter.group f).description = true ↔
        f.description = true ∨ Heard vs "printer-description" ∨ Heard vs "document-description") ∧
      ((vs.foldl AttrFilter.group f).jobTemplate = true ↔ f.jobTemplate = true ∨ Heard vs "job-template") := by
  intro vs
  induction vs with
  | nil =>
    intro f
    simp [Heard]
  | cons v vs ih =>
    intro f
    obtain ⟨h1, h2, h3, h4⟩ := group_spec f v
    obtain ⟨i1, i2, i3, i4⟩ := ih (f.group v)
    rw [List.foldl_cons]
    refine ⟨i1.trans h1, ?_, ?_, ?_⟩
    · rw [i2, h2, heard_cons, or_assoc]
    · rw [i3, h3, heard_cons, heard_cons]
      simp only [or_assoc, or_left_comm]
    · rw [i4, h4, heard_cons, or_assoc]

theorem want_iff (requested : List Bytes) (b : Block) :
    (AttrFilter.make requested).want b.name b.tmpl = true ↔ Wants requested b := by
  unfold AttrFilter.make
  split
  · rename_i h
    simp [AttrFilter.want, Wants, h]
  · rename_i h
    obtain ⟨h1, h2, h3, h4⟩ := foldl_group requested ⟨requested, false, false, false⟩
    simp only [AttrFilter.want, Bool.or_eq_true, h1, h2, List.any_eq_true]
    unfold Wants keywords groupKeywords
    cases b.tmpl with
    | true =>
      rw [if_pos rfl, if_pos rfl, h4]
      simp only [Bool.false_eq_true, false_or, h, or_assoc, List.mem_cons, List.not_mem_nil, or_false, exists_eq_or_imp,
        exists_eq_left]
      rfl
    | false =>
      rw [if_neg Bool.false_ne_true, if_neg Bool.false_ne_true, h3]
      simp only [Bool.false_eq_true, false_or, h, or_assoc, List.mem_cons, List.not_mem_nil, or_false, exists_eq_or_imp,
        exists_eq_left]
      rfl

/-! ## Blocks and attributes -/

/-- Every attribute that the service knows. -/
def known (site : Site) (snap : PrinterSnapshot) : List Block := required site snap ++ optional site snap

namespace Block

/-- The block as an attribute; one without values is none. -/
def toAttribute (b : Block) : Option Attribute :=
  match b.values with
  | [] => none
  | v :: vs => some ⟨ascii b.name, v.1, vs.map Subtype.val⟩

theorem toAttribute_eq_some {b : Block} {a : Attribute} (h : b.toAttribute = some a) :
    a.name = ascii b.name ∧ a.values = b.values.map Subtype.val ∧ b.values ≠ [] := by
  unfold toAttribute at h
  split at h
  · cases h
  · rename_i v vs hv
    obtain rfl := Option.some.inj h
    exact ⟨rfl, by rw [hv]; rfl, by rw [hv]; simp⟩

theorem toAttribute_eq_none {b : Block} : b.toAttribute = none ↔ b.values = [] := by
  unfold toAttribute
  split
  · rename_i h
    simp [h]
  · rename_i h
    simp [h]

/-- Past the first value the name is on all or none. -/
theorem itemsFrom_succ (b : Block) (i : Nat) (vs : List Written) :
    b.itemsFrom (i + 1) vs = vs.flatMap fun v => v.1.items (if b.inverted then ascii b.name else []) := by
  induction vs generalizing i with
  | nil => rfl
  | cons v vs ih =>
    rw [itemsFrom, ih, List.flatMap_cons]
    simp [named]

/-- **A block whose first value has the name is an attribute.** -/
theorem items_toAttribute {b : Block} (h : b.inverted = false) : b.items = b.toAttribute.toList.flatMap Attribute.items := by
  unfold items toAttribute
  cases hv : b.values with
  | nil => rfl
  | cons v vs =>
    rw [itemsFrom, itemsFrom_succ]
    simp [named, h, Attribute.items]

/-- An inverted block gives its name to every value but the first. -/
theorem named_inverted {b : Block} (h : b.inverted = true) (hne : ascii b.name ≠ []) :
    b.items.filterMap Item.named = b.values.tail.map fun _ => ascii b.name := by
  unfold items
  cases hv : b.values with
  | nil => rfl
  | cons v vs =>
    rw [itemsFrom, itemsFrom_succ, List.filterMap_append]
    simp only [named, h, if_true, bne_self_eq_false, Bool.false_eq_true, if_false, Value.named_nil, List.nil_append,
      List.tail_cons]
    -- each of these values is an attribute of its own
    have hone : ∀ v : Written, v.1.items (ascii b.name) = (Attribute.mk (ascii b.name) v.1 []).items := by
      intro v
      simp [Attribute.items]
    simp only [hone]
    rw [← List.flatMap_map (fun v : Written => Attribute.mk (ascii b.name) v.1 []), Lib.Ipp.named_items, List.map_map]
    · rfl
    · intro a ha
      obtain ⟨v, _, rfl⟩ := List.mem_map.1 ha
      exact hne

end Block

/-! ## The names -/

/-- They do not depend on the printer's state. -/
def knownNames : List String :=
  (known { ip := none, mac := fun _ => 0, clock := 0, now := 0 } ⟨0, "", false, 0, 0, 0, 0, "", "", "", ""⟩).map
    Block.name

theorem known_names (site : Site) (snap : PrinterSnapshot) : (known site snap).map Block.name = knownNames := by
  simp only [knownNames, known, required, optional, descriptive, status, capabilities, formats, media, jobTemplate,
    List.map_append, List.map_cons, List.map_nil]

/-- At most `n` characters, all of them ASCII and none a NUL. -/
def plainText : Nat → List Char → Bool
  | _, [] => true
  | 0, _ => false
  | n + 1, c :: cs => Nat.blt 0 c.toNat && Nat.blt c.toNat 128 && plainText n cs

theorem knownNames_nodup : knownNames.Nodup := by decide +kernel

theorem knownNames_ne : "" ∉ knownNames := by decide +kernel

theorem knownNames_plain : (knownNames.all fun s => plainText 64 s.toList) = true := by decide +kernel

theorem plainText_spec {n : Nat} {cs : List Char} (h : plainText n cs = true) :
    cs.length ≤ n ∧ ∀ c ∈ cs, 0 < c.toNat ∧ c.toNat < 128 := by
  induction n, cs using plainText.induct with
  | case1 n => simp
  | case2 cs hne => simp [plainText] at h
  | case3 n c cs ih =>
    simp only [plainText, Bool.and_eq_true, Nat.blt_eq] at h
    obtain ⟨hlen, hall⟩ := ih h.2
    constructor
    · simp [hlen]
    · intro d hd
      rcases List.mem_cons.1 hd with rfl | hd
      · exact h.1
      · exact hall d hd

theorem mem_knownNames {site : Site} {snap : PrinterSnapshot} {b : Block} (h : b ∈ known site snap) :
    b.name ∈ knownNames := by
  rw [← known_names site snap]
  exact List.mem_map_of_mem h

theorem plain_of_mem {s : String} (h : s ∈ knownNames) :
    s.toList.length ≤ 64 ∧ ∀ c ∈ s.toList, 0 < c.toNat ∧ c.toNat < 128 :=
  plainText_spec (List.all_eq_true.1 knownNames_plain s h)

/-- Two known names that are the same bytes are the same. -/
theorem ascii_inj {s t : String} (hs : s ∈ knownNames) (ht : t ∈ knownNames) (h : ascii s = ascii t) : s = t := by
  have hs' := (plain_of_mem hs).2
  have ht' := (plain_of_mem ht).2
  apply String.toList_inj.1
  unfold ascii at h
  have hinj : ∀ {cs ds : List Char}, (∀ c ∈ cs, 0 < c.toNat ∧ c.toNat < 128) → (∀ d ∈ ds, 0 < d.toNat ∧ d.toNat < 128) →
      cs.map (fun c => UInt8.ofNat c.toNat) = ds.map (fun c => UInt8.ofNat c.toNat) → cs = ds := by
    intro cs ds hc hd he
    induction cs generalizing ds with
    | nil => simpa using he.symm
    | cons c cs ih =>
      cases ds with
      | nil => simp at he
      | cons d ds =>
        obtain ⟨he, hes⟩ := List.cons.inj he
        have hcd := congrArg UInt8.toNat he
        have h1 := (hc c (by simp)).2
        have h2 := (hd d (by simp)).2
        rw [UInt8.toNat_ofNat', UInt8.toNat_ofNat', Nat.mod_eq_of_lt (by omega), Nat.mod_eq_of_lt (by omega)] at hcd
        rw [Char.toNat_inj.1 hcd, ih (fun x hx => hc x (by simp [hx])) (fun x hx => hd x (by simp [hx])) hes]
  exact hinj hs' ht' h

/-- **No two attributes have one name.** -/
theorem known_nodup (site : Site) (snap : PrinterSnapshot) : ((known site snap).map fun b => ascii b.name).Nodup := by
  have h : (knownNames.map ascii).Nodup :=
    List.Nodup.map_on (fun s hs t ht he => ascii_inj hs ht he) knownNames_nodup
  rw [← known_names site snap, List.map_map] at h
  exact h

theorem name_wf {s : String} (h : s ∈ knownNames) : ascii s ≠ [] ∧ 0 ∉ ascii s ∧ (ascii s).length < 2 ^ 16 := by
  obtain ⟨hlen, hall⟩ := plain_of_mem h
  refine ⟨?_, ?_, ?_⟩
  · intro hnil
    apply knownNames_ne
    have : s = "" := String.toList_inj.1 (by simpa [ascii] using hnil)
    rwa [← this]
  · intro hmem
    obtain ⟨c, hc, hzero⟩ := List.mem_map.1 hmem
    have hb := congrArg UInt8.toNat hzero
    obtain ⟨hpos, hlt⟩ := hall c hc
    rw [UInt8.toNat_ofNat', Nat.mod_eq_of_lt (by omega)] at hb
    simp at hb
    omega
  · unfold ascii
    rw [List.length_map]
    omega

/-! ## The values -/

/-- The tags of a block's values. -/
def Block.tags (b : Block) : List UInt8 := b.values.map fun v => v.1.tag

theorem known_tags (site : Site) (snap : PrinterSnapshot) :
    ((known site snap).all fun b => b.tags.all fun t => b.tags.all fun t' => t == t') = true := rfl

/-- **The values of one attribute have one tag.** -/
theorem tag_eq {site : Site} {snap : PrinterSnapshot} {b : Block} (h : b ∈ known site snap) {v v' : Value}
    (hv : v ∈ b.values.map Subtype.val) (hv' : v' ∈ b.values.map Subtype.val) : v.tag = v'.tag := by
  obtain ⟨w, hw, rfl⟩ := List.mem_map.1 hv
  obtain ⟨w', hw', rfl⟩ := List.mem_map.1 hv'
  have h1 := List.all_eq_true.1 (known_tags site snap) b h
  have h2 := List.all_eq_true.1 h1 w.1.tag (List.mem_map_of_mem hw)
  have h3 := List.all_eq_true.1 h2 w'.1.tag (List.mem_map_of_mem hw')
  simpa using h3

theorem inverted_optional (site : Site) (snap : PrinterSnapshot) :
    (optional site snap).filter Block.inverted =
      [{ name := "media-supported", tmpl := true, values := mediaDefs.map fun m => Written.text 0x44 m.name, inverted := true },
       { name := "media-size-supported", tmpl := true, values := mediaDefs.map fun m => Written.mediaSize m.x m.y,
         inverted := true }] := rfl

theorem inverted_required (site : Site) (snap : PrinterSnapshot) : (required site snap).filter Block.inverted = [] := rfl

/-! ## What is written -/

/-- The request selects media-supported or media-size-supported. -/
def AsksForMedia (requested : List Bytes) : Prop :=
  requested = [] ∨ ∃ k ∈ ["all", "job-template", "media-supported", "media-size-supported"], Asked requested k

/-- What a requested name with a NUL in it adds, the request selects anyway. -/
def CutsHarmless (requested : List Bytes) (site : Site) (snap : PrinterSnapshot) : Prop :=
  ∀ b ∈ optional site snap, b.values ≠ [] → CutKeyword requested b → Selects requested b

variable {req : RequestAttrs} {site : Site} {snap : PrinterSnapshot}

theorem mem_written {b : Block} :
    b ∈ written req site snap ↔ b ∈ required site snap ∨ b ∈ optional site snap ∧ Wants req.requested b := by
  unfold written
  rw [List.mem_append, List.mem_filter, want_iff]

theorem written_sublist : (written req site snap).Sublist (known site snap) :=
  (List.Sublist.refl _).append List.filter_sublist

theorem known_of_written {b : Block} (h : b ∈ written req site snap) : b ∈ known site snap := written_sublist.subset h

theorem optional_of_inverted {b : Block} (h : b ∈ written req site snap) (hi : b.inverted = true) :
    b ∈ (optional site snap).filter Block.inverted ∧ Wants req.requested b := by
  rcases mem_written.1 h with hr | ⟨ho, hs⟩
  · have := List.mem_filter.2 ⟨hr, hi⟩
    rw [inverted_required] at this
    cases this
  · exact ⟨List.mem_filter.2 ⟨ho, hi⟩, hs⟩

theorem length_inverted {b : Block} (h : b ∈ (optional site snap).filter Block.inverted) : b.values.length = 7 := by
  rw [inverted_optional] at h
  simp only [List.mem_cons, List.not_mem_nil, or_false] at h
  rcases h with rfl | rfl <;> rfl

theorem asksForMedia_iff (requested : List Bytes) (site : Site) (snap : PrinterSnapshot) : AsksForMedia requested ↔
    ∃ b ∈ (optional site snap).filter Block.inverted, Selects requested b := by
  rw [inverted_optional]
  simp only [AsksForMedia, Selects, keywords, groupKeywords, List.mem_cons, List.not_mem_nil, or_false, exists_eq_or_imp,
    exists_eq_left, if_true]
  tauto

theorem Block.itemsFrom_wf {b : Block} (hn : (ascii b.name).length < 2 ^ 16) :
    ∀ (vs : List Written) (i : Nat), ∀ x ∈ b.itemsFrom i vs, x.Wf ∧ x.isDelimiter = false := by
  intro vs
  induction vs with
  | nil =>
    intro i x hx
    cases hx
  | cons v vs ih =>
    intro i x hx
    rcases List.mem_append.1 hx with hx | hx
    · refine v.1.items_wf ?_ v.2 x hx
      split
      · exact hn
      · decide
    · exact ih _ x hx

theorem written_wf : ∀ x ∈ (written req site snap).flatMap Block.items, x.Wf ∧ x.isDelimiter = false := by
  intro x hx
  obtain ⟨b, hb, hx⟩ := List.mem_flatMap.1 hx
  exact b.itemsFrom_wf (name_wf (mem_knownNames (known_of_written hb))).2.2 _ _ x hx

end PrinterAttributes

open PrinterAttributes

/-! ## The response -/

/-- The operation attributes of a response. -/
def operationAttributes : List Attribute :=
  [⟨ascii "attributes-charset", .simple 0x47 (ascii "utf-8"), []⟩,
   ⟨ascii "attributes-natural-language", .simple 0x48 (ascii "en"), []⟩]

theorem operationAttributes_items : operationAttributes.flatMap Attribute.items = operationItems := rfl

theorem operationAttributes_wf : ∀ a ∈ operationAttributes, a.Wf := by
  intro a ha
  have hs : ∀ s ∈ ["attributes-charset", "attributes-natural-language"],
      ascii s ≠ [] ∧ 0 ∉ ascii s ∧ (ascii s).length < 2 ^ 16 := by decide +kernel
  simp only [operationAttributes, List.mem_cons, List.not_mem_nil, or_false] at ha
  rcases ha with rfl | rfl
  · obtain ⟨h1, h2, h3⟩ := hs "attributes-charset" (by simp)
    exact ⟨h1, h2, h3, by simp [Attribute.values, Value.Wf]; decide⟩
  · obtain ⟨h1, h2, h3⟩ := hs "attributes-natural-language" (by simp)
    exact ⟨h1, h2, h3, by simp [Attribute.values, Value.Wf]; decide⟩

/-- What stands behind the head of a response. -/
def printerItems (req : RequestAttrs) (site : Site) (snap : PrinterSnapshot) : List Item :=
  .delimiter 0x01 :: (operationItems ++ Item.delimiter 0x04 ::
    ((written req site snap).flatMap Block.items ++ [.delimiter 0x03]))

theorem wrote_printerWriter (version : IppVersion) (requestId : UInt32) (req : RequestAttrs) (site : Site)
    (snap : PrinterSnapshot) :
    IppWriter.Wrote {} (printerWriter version requestId req site snap)
      (responseHead version 0 requestId ++ (printerItems req site snap).flatMap Item.encode) := by
  have h1 := (wrote_beginResponse {} version 0 requestId).trans (IppWriter.wrote_b _ 0x04)
  have h2 := (h1.trans (IppWriter.wrote_items _ ((written req site snap).flatMap Block.items))).trans
    (IppWriter.wrote_b _ 0x03)
  have he : responseHead version 0 requestId ++ (printerItems req site snap).flatMap Item.encode =
      responseHead version 0 requestId ++ (Item.delimiter 0x01 :: operationItems).flatMap Item.encode ++ [0x04] ++
        ((written req site snap).flatMap Block.items).flatMap Item.encode ++ [0x03] := by
    simp only [printerItems, List.flatMap_cons, List.flatMap_append, Item.encode, List.append_assoc, List.flatMap_nil,
      List.append_nil]
  rw [he]
  exact h2

theorem sendPrinterAttributes_data {version : IppVersion} {requestId : UInt32} {req : RequestAttrs} {site : Site}
    {snap : PrinterSnapshot} (h : (printerWriter version requestId req site snap).ok = true) :
    (sendPrinterAttributes version requestId req site snap).data =
      responseHead version 0 requestId ++ (printerItems req site snap).flatMap Item.encode := by
  have hw := ((wrote_printerWriter version requestId req site snap).kept h).2
  unfold sendPrinterAttributes
  simp only [h, Bool.not_true, Bool.false_eq_true, if_false, hw]
  rfl

theorem printerItems_wf (req : RequestAttrs) (site : Site) (snap : PrinterSnapshot) :
    ∀ i ∈ printerItems req site snap, i.Wf := by
  intro i hi
  simp only [printerItems, List.mem_cons, List.mem_append, List.not_mem_nil, or_false] at hi
  rcases hi with rfl | hi | rfl | hi | rfl
  · show (1 : UInt8) ≤ 0x0F
    decide
  · rw [← operationAttributes_items] at hi
    obtain ⟨a, ha, hi⟩ := List.mem_flatMap.1 hi
    exact (Attribute.items_wf (operationAttributes_wf a ha) i hi).1
  · show (4 : UInt8) ≤ 0x0F
    decide
  · exact (written_wf i hi).1
  · show (3 : UInt8) ≤ 0x0F
    decide

/-- What a client may expect of the printer's attributes. -/
structure Answers (requested : List Bytes) (site : Site) (snap : PrinterSnapshot) (pr : List Attribute) : Prop where
  once : (pr.map Attribute.name).Nodup
  uniform : ∀ a ∈ pr, ∀ v ∈ a.values, v.tag = a.value.tag
  names : ∀ name, name ∈ pr.map Attribute.name ↔ ∃ b, (b ∈ required site snap ∨ b ∈ optional site snap ∧ Selects requested b) ∧
    b.values ≠ [] ∧ name = ascii b.name
  values : ∀ a ∈ pr, ∃ b ∈ known site snap, a.name = ascii b.name ∧ a.values = b.values.map Subtype.val

/-- The bytes are a response with the operation attributes `op` and these printer attributes. -/
def Complete (version : IppVersion) (requestId : UInt32) (requested : List Bytes) (site : Site) (snap : PrinterSnapshot)
    (data : Bytes) : Prop :=
  ∃ op pr : List Attribute, data = responseHead version 0 requestId ++ Section.encode [⟨0x01, op⟩, ⟨0x04, pr⟩] ∧
    Section.Wf [⟨0x01, op⟩, ⟨0x04, pr⟩] ∧ Answers requested site snap pr

/-- The attributes of the blocks that are written. -/
def writtenAttributes (req : RequestAttrs) (site : Site) (snap : PrinterSnapshot) : List Attribute :=
  (written req site snap).filterMap Block.toAttribute

theorem mem_writtenAttributes {req : RequestAttrs} {site : Site} {snap : PrinterSnapshot} {a : Attribute}
    (h : a ∈ writtenAttributes req site snap) :
    ∃ b ∈ written req site snap, a.name = ascii b.name ∧ a.values = b.values.map Subtype.val ∧ b.values ≠ [] := by
  obtain ⟨b, hb, ha⟩ := List.mem_filterMap.1 h
  exact ⟨b, hb, Block.toAttribute_eq_some ha⟩

/-- **The attributes of the blocks are what the request asked for**, where cut names add nothing. -/
theorem writtenAttributes_answers {req : RequestAttrs} {site : Site} {snap : PrinterSnapshot}
    (hcut : CutsHarmless req.requested site snap) :
    Answers req.requested site snap (writtenAttributes req site snap) := by
  refine ⟨?_, ?_, ?_, ?_⟩
  · -- the names are some of the known ones, in order
    have hsub : ((writtenAttributes req site snap).map Attribute.name).Sublist
        ((written req site snap).map fun b => ascii b.name) := by
      unfold writtenAttributes
      induction written req site snap with
      | nil => exact List.Sublist.refl _
      | cons b bs ih =>
        cases ha : b.toAttribute with
        | none =>
          rw [List.filterMap_cons_none ha]
          exact ih.cons _
        | some a =>
          rw [List.filterMap_cons_some ha, List.map_cons, List.map_cons, (Block.toAttribute_eq_some ha).1]
          exact ih.cons_cons _
    exact (known_nodup site snap).sublist (hsub.trans (written_sublist.map _))
  · intro a ha v hv
    obtain ⟨b, hb, -, hvals, -⟩ := mem_writtenAttributes ha
    have hfirst : a.value ∈ a.values := by simp [Attribute.values]
    rw [hvals] at hv hfirst
    exact tag_eq (known_of_written hb) hv hfirst
  · intro name
    constructor
    · intro hname
      obtain ⟨a, ha, rfl⟩ := List.mem_map.1 hname
      obtain ⟨b, hb, hn, -, hne⟩ := mem_writtenAttributes ha
      refine ⟨b, (mem_written.1 hb).imp_right fun h => ⟨h.1, ?_⟩, hne, hn⟩
      exact ((wants_iff _ b).1 h.2).elim id (hcut b h.1 hne)
    · rintro ⟨b, hb, hne, rfl⟩
      have hb := hb.imp_right fun h => And.intro h.1 ((wants_iff _ b).2 (Or.inl h.2))
      cases ha : b.toAttribute with
      | none => exact absurd (Block.toAttribute_eq_none.1 ha) hne
      | some a =>
        rw [← (Block.toAttribute_eq_some ha).1]
        exact List.mem_map_of_mem (List.mem_filterMap.2 ⟨b, mem_written.2 hb, ha⟩)
  · intro a ha
    obtain ⟨b, hb, hn, hvals, -⟩ := mem_writtenAttributes ha
    exact ⟨b, known_of_written hb, hn, hvals⟩

theorem writtenAttributes_wf (req : RequestAttrs) (site : Site) (snap : PrinterSnapshot) :
    ∀ a ∈ writtenAttributes req site snap, a.Wf := by
  intro a ha
  obtain ⟨b, hb, hn, hvals, -⟩ := mem_writtenAttributes ha
  obtain ⟨h1, h2, h3⟩ := name_wf (mem_knownNames (known_of_written hb))
  rw [← hn] at h1 h2 h3
  refine ⟨h1, h2, h3, ?_⟩
  intro v hv
  rw [hvals] at hv
  obtain ⟨w, -, rfl⟩ := List.mem_map.1 hv
  exact w.2

/-- A response to any request fits when the one with every attribute does. -/
theorem printerWriter_fits (version : IppVersion) (requestId : UInt32) (req : RequestAttrs) {site : Site}
    {snap : PrinterSnapshot} (h : (((known site snap).flatMap Block.items).flatMap Item.encode).length ≤ 16000) :
    (printerWriter version requestId req site snap).ok = true := by
  apply (wrote_printerWriter version requestId req site snap).fits rfl
  have hop : (operationItems.flatMap Item.encode).length ≤ 100 := by decide +kernel
  have hsub : (((written req site snap).flatMap Block.items).flatMap Item.encode).length ≤ 16000 :=
    ((written_sublist.flatMap _).flatMap _).length_le.trans h
  simp only [printerItems, List.flatMap_cons, List.flatMap_append, Item.encode, List.length_append, responseHead,
    length_u16, List.length_cons, List.length_nil, List.flatMap_nil, ippResponseMax]
  omega

/-- Nothing inverted is written, and cut names add nothing, so the response is complete. -/
theorem complete_of_not_inverted {version : IppVersion} {requestId : UInt32} {req : RequestAttrs} {site : Site}
    {snap : PrinterSnapshot} (hok : (printerWriter version requestId req site snap).ok = true)
    (hall : ∀ b ∈ written req site snap, b.inverted = false) (hcut : CutsHarmless req.requested site snap) :
    Complete version requestId req.requested site snap (sendPrinterAttributes version requestId req site snap).data := by
  refine ⟨operationAttributes, writtenAttributes req site snap, ?_, ?_, writtenAttributes_answers hcut⟩
  · have hitems : (written req site snap).flatMap Block.items =
        (writtenAttributes req site snap).flatMap Attribute.items := by
      unfold writtenAttributes
      revert hall
      induction written req site snap with
      | nil => simp
      | cons b bs ih =>
        intro hall
        rw [List.flatMap_cons, Block.items_toAttribute (hall b (by simp)), ih fun x hx => hall x (by simp [hx])]
        cases ha : b.toAttribute with
        | none => simp [ha]
        | some a => simp [ha]
    rw [sendPrinterAttributes_data hok, printerItems, hitems, ← operationAttributes_items]
    simp [Section.encode, Section.items, Group.items]
  · intro g hg
    simp only [List.mem_cons, List.not_mem_nil, or_false] at hg
    rcases hg with rfl | rfl
    · exact ⟨(by decide : (1 : UInt8) ≤ 0x0F), (by decide : (1 : UInt8) ≠ 0x03), operationAttributes_wf⟩
    · exact ⟨(by decide : (4 : UInt8) ≤ 0x0F), (by decide : (4 : UInt8) ≠ 0x03), writtenAttributes_wf req site snap⟩

/-- A complete response has the names that were written. -/
theorem answers_of_complete {version : IppVersion} {requestId : UInt32} {req : RequestAttrs} {site : Site}
    {snap : PrinterSnapshot} (hok : (printerWriter version requestId req site snap).ok = true)
    (h : Complete version requestId req.requested site snap (sendPrinterAttributes version requestId req site snap).data) :
    ∃ pr, Answers req.requested site snap pr ∧
      ((written req site snap).flatMap Block.items).filterMap Item.named = pr.map Attribute.name := by
  obtain ⟨op, pr, hdata, hwf, hans⟩ := h
  rw [sendPrinterAttributes_data hok] at hdata
  have hitems := items_injective (printerItems_wf req site snap) (Section.items_wf hwf) (List.append_cancel_left hdata)
  have hop := Group.attributes_wf (hwf ⟨0x01, op⟩ (by simp))
  have hpr := Group.attributes_wf (hwf ⟨0x04, pr⟩ (by simp))
  -- both rows of items stand between the same two delimiters
  have hsec : Section.items [⟨0x01, op⟩, ⟨0x04, pr⟩] = .delimiter 0x01 :: (op.flatMap Attribute.items ++
      .delimiter 0x04 :: (pr.flatMap Attribute.items ++ [.delimiter 0x03])) := by
    simp [Section.items, Group.items]
  have hhead : ∀ x ∈ operationItems, x.isDelimiter = false := by decide +kernel
  rw [printerItems, hsec] at hitems
  obtain ⟨-, -, hrest⟩ := split_at_delimiter rfl rfl hhead (fun x hx => (hop x hx).2) (List.cons.inj hitems).2
  obtain ⟨heq, -, -⟩ := split_at_delimiter rfl rfl (fun x hx => (written_wf x hx).2) (fun x hx => (hpr x hx).2) hrest
  refine ⟨pr, hans, ?_⟩
  rw [heq, named_items fun a ha => ((hwf ⟨0x04, pr⟩ (by simp)).attributes a ha).name_ne]

/-- An inverted block gets its name written six times. -/
theorem not_complete_of_inverted {version : IppVersion} {requestId : UInt32} {req : RequestAttrs} {site : Site}
    {snap : PrinterSnapshot} (hok : (printerWriter version requestId req site snap).ok = true) {b : Block}
    (hb : b ∈ written req site snap) (hi : b.inverted = true) :
    ¬ Complete version requestId req.requested site snap
      (sendPrinterAttributes version requestId req site snap).data := by
  intro hc
  obtain ⟨pr, hans, hnames⟩ := answers_of_complete hok hc
  have hnd := hans.once
  have hlen := length_inverted (optional_of_inverted hb hi).1
  obtain ⟨l, r, hlr⟩ := List.append_of_mem hb
  have hne := (name_wf (mem_knownNames (known_of_written hb))).1
  rw [← hnames, hlr, List.flatMap_append, List.flatMap_cons, List.filterMap_append, List.filterMap_append,
    Block.named_inverted hi hne] at hnd
  -- every value of the block but the first carries the name
  have hrepeat := (List.nodup_append.1 (List.nodup_append.1 hnd).2.1).1
  have hlong : 2 ≤ b.values.tail.length := by
    rw [List.length_tail, hlen]
    decide
  obtain ⟨v, v', vs, hv⟩ : ∃ v v' vs, b.values.tail = v :: v' :: vs := by
    match b.values.tail, hlong with
    | v :: v' :: vs, _ => exact ⟨v, v', vs, rfl⟩
  rw [hv] at hrepeat
  simp at hrepeat

theorem not_complete_of_asked {version : IppVersion} {requestId : UInt32} {req : RequestAttrs} {site : Site}
    {snap : PrinterSnapshot} (hok : (printerWriter version requestId req site snap).ok = true)
    (h : AsksForMedia req.requested) :
    ¬ Complete version requestId req.requested site snap
      (sendPrinterAttributes version requestId req site snap).data := by
  obtain ⟨b, hb, hs⟩ := (asksForMedia_iff req.requested site snap).1 h
  obtain ⟨ho, hi⟩ := List.mem_filter.1 hb
  exact not_complete_of_inverted hok (mem_written.2 (Or.inr ⟨ho, (wants_iff _ b).2 (Or.inl hs)⟩)) hi

/-- The name of a block that is not inverted stands among those that are written. -/
theorem name_mem_written {req : RequestAttrs} {site : Site} {snap : PrinterSnapshot} {b : Block}
    (hb : b ∈ written req site snap) (hi : b.inverted = false) (hne : b.values ≠ []) :
    ascii b.name ∈ ((written req site snap).flatMap Block.items).filterMap Item.named := by
  obtain ⟨a, ha⟩ : ∃ a, b.toAttribute = some a :=
    Option.ne_none_iff_exists'.1 fun hnone => hne (Block.toAttribute_eq_none.1 hnone)
  have hname : a.name = ascii b.name := (Block.toAttribute_eq_some ha).1
  have hnamed : ascii b.name ∈ b.items.filterMap Item.named := by
    rw [Block.items_toAttribute hi, ha, Option.toList_some, named_items, ← hname]
    · exact List.mem_singleton_self _
    · intro x hx
      rw [List.mem_singleton.1 hx, hname]
      exact (name_wf (mem_knownNames (known_of_written hb))).1
  obtain ⟨x, hx, hxn⟩ := List.mem_filterMap.1 hnamed
  exact List.mem_filterMap.2 ⟨x, List.mem_flatMap.2 ⟨b, hb, hx⟩, hxn⟩

/-- A complete response has nothing that only a cut name asked for. -/
theorem cutsHarmless_of_complete {version : IppVersion} {requestId : UInt32} {req : RequestAttrs} {site : Site}
    {snap : PrinterSnapshot} (hok : (printerWriter version requestId req site snap).ok = true)
    (hc : Complete version requestId req.requested site snap (sendPrinterAttributes version requestId req site snap).data) :
    CutsHarmless req.requested site snap := by
  intro b ho hne hcut
  have hb : b ∈ written req site snap := mem_written.2 (Or.inr ⟨ho, (wants_iff _ b).2 (Or.inr hcut)⟩)
  have hi : b.inverted = false := by
    by_contra hi
    exact not_complete_of_inverted hok hb (by simpa using hi) hc
  obtain ⟨pr, hans, hnames⟩ := answers_of_complete hok hc
  have hmem := name_mem_written hb hi hne
  rw [hnames] at hmem
  obtain ⟨b', hb', -, hname⟩ := (hans.names (ascii b.name)).1 hmem
  have hnd := known_nodup site snap
  have hknown : b' ∈ known site snap := List.mem_append.2 (hb'.imp_right And.left)
  obtain rfl : b = b' := List.inj_on_of_nodup_map hnd (known_of_written hb) hknown hname
  refine (hb'.resolve_left fun hr => ?_).2
  -- required and optional attributes have different names
  unfold known at hnd
  rw [List.map_append] at hnd
  exact (List.nodup_append.1 hnd).2.2 _ (List.mem_map_of_mem hr) _ (List.mem_map_of_mem ho) rfl

/-- **A response is well formed and complete exactly when nothing asks for media-supported or
media-size-supported**, by name, by group, by `all` or by asking for nothing in particular, **and no
name that is cut at a NUL adds an attribute**. -/
theorem sendPrinterAttributes_complete_iff (version : IppVersion) (requestId : UInt32) (req : RequestAttrs) (site : Site)
    (snap : PrinterSnapshot) (hok : (printerWriter version requestId req site snap).ok = true) :
    Complete version requestId req.requested site snap (sendPrinterAttributes version requestId req site snap).data ↔
      ¬ AsksForMedia req.requested ∧ CutsHarmless req.requested site snap := by
  constructor
  · intro hc
    exact ⟨fun hm => not_complete_of_asked hok hm hc, cutsHarmless_of_complete hok hc⟩
  · rintro ⟨hm, hcut⟩
    refine complete_of_not_inverted hok (fun b hb => ?_) hcut
    by_contra hi
    obtain ⟨hb, hw⟩ := optional_of_inverted hb (by simpa using hi)
    have hne : b.values ≠ [] := List.ne_nil_of_length_eq_add_one (length_inverted hb)
    exact hm ((asksForMedia_iff req.requested site snap).2
      ⟨b, hb, ((wants_iff _ b).1 hw).elim id (hcut b (List.mem_filter.1 hb).1 hne)⟩)

/-- A printer without an address, idle. -/
def plainSite : Site := { ip := none, mac := fun _ => 0, clock := 0, now := 0 }
def plainSnapshot : PrinterSnapshot := ⟨3, "none", true, 0, 0, 0, 0, "", "", "", ""⟩

theorem printerWriter_fits_plain (version : IppVersion) (requestId : UInt32) (req : RequestAttrs) :
    (printerWriter version requestId req plainSite plainSnapshot).ok = true :=
  printerWriter_fits version requestId req (by decide +kernel)

theorem sendPrinterAttributes_complete_copies :
    Complete ⟨2, 0⟩ 1 [ascii "copies-default"] plainSite plainSnapshot
      (sendPrinterAttributes ⟨2, 0⟩ 1 { requested := [ascii "copies-default"] } plainSite plainSnapshot).data := by
  refine (sendPrinterAttributes_complete_iff ⟨2, 0⟩ 1 { requested := [ascii "copies-default"] } plainSite plainSnapshot
    (printerWriter_fits_plain _ _ _)).2 ⟨?_, ?_⟩
  · rintro (h | ⟨k, hk, v, hv, he⟩)
    · cases h
    · rw [List.mem_singleton.1 hv] at he
      revert k
      decide +kernel
  · rintro b - - ⟨k, -, v, hv, h0, -⟩
    rw [List.mem_singleton.1 hv] at h0
    exact absurd h0 (by decide +kernel)

/-- A client that asks for the supported media gets the name six times, and none of it on the first. -/
theorem sendPrinterAttributes_media_repeated :
    ¬ ∀ (version : IppVersion) (requestId : UInt32) (req : RequestAttrs) (site : Site) (snap : PrinterSnapshot),
      (printerWriter version requestId req site snap).ok = true →
        Complete version requestId req.requested site snap
          (sendPrinterAttributes version requestId req site snap).data := by
  intro h
  have hok := printerWriter_fits_plain ⟨2, 0⟩ 1 { requested := [ascii "media-supported"] }
  refine not_complete_of_asked hok (Or.inr ⟨"media-supported", by simp, _, List.mem_singleton_self _, ?_⟩)
    (h ⟨2, 0⟩ 1 _ plainSite plainSnapshot hok)
  decide +kernel

end PrintServer
