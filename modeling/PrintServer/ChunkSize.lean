import PrintServer.BodyFraming
/-!
# Which size lines `nextChunk` takes (ipp_pcl3_service.cpp:134-164)

`chunkSize` is the grammar: hex digits up to the first `;`, with a value that fits into 32 bits. The
code leaves the decision to `strtoul` and looks at the end pointer alone. `Misread` lists what
`strtoul` takes beyond the grammar; on every other line the two agree (`nextChunk_reads_iff`).
-/
namespace PrintServer

/-- The text before the first `;`, without the blanks around it. -/
def sizeField (line : Bytes) : Bytes := trim (line.takeWhile (· != 59))

/-- The size that a line states. -/
def chunkSize (line : Bytes) : Option Nat :=
  let ds := sizeField line
  if ds ≠ [] ∧ ds.all isHex = true ∧ hexValue ds < 2 ^ 32 then some (hexValue ds) else none

/-- What `strtoul` skips before the digits: a sign, then a `0x`. -/
def signs : List Bytes := [[], [43], [45]]
def hexPrefixes : List Bytes := [[], [48, 120], [48, 88]]

/-- `strtoul` takes the line, and the grammar does not: there is no size text, or the digits have a
sign or a prefix, or they are cut by a NUL, or their value is too large. -/
def Misread (line : Bytes) : Prop :=
  cstr (sizeText line) = [] ∨
  ∃ sign ∈ signs, ∃ x ∈ hexPrefixes, ∃ ds, cstr (sizeText line) = sign ++ x ++ ds ∧ ds ≠ [] ∧ ds.all isHex = true ∧
    (sign ++ x ≠ [] ∨ 0 ∈ sizeText line ∨ 2 ^ 32 ≤ hexValue ds)

/-! ## `strtoul` -/

theorem takeWhile_isHex {ds : Bytes} (h : ds.all isHex = true) : ds.takeWhile isHex = ds :=
  takeWhile_all (List.all_eq_true.1 h)

theorem not_mem_of_hex {ds : Bytes} {b : UInt8} (h : ds.all isHex = true) (hb : isHex b = false) : b ∉ ds := by
  intro hm
  rw [List.all_eq_true.1 h b hm] at hb
  cases hb

def dropSign (t : Bytes) : Bytes := if t.head? == some 45 || t.head? == some 43 then t.tail else t

def dropHexPrefix (u : Bytes) : Bytes := if u.take 2 == [48, 120] || u.take 2 == [48, 88] then u.drop 2 else u

/-- `endp`. -/
theorem strtoul16_end (t : Bytes) :
    (strtoul16 t).2 =
      let v := dropHexPrefix (dropSign (t.dropWhile isSpace))
      if (v.takeWhile isHex).isEmpty then t else v.dropWhile isHex := by
  unfold strtoul16
  exact apply_ite Prod.snd _ _ _

theorem dropSign_eq (t : Bytes) : ∃ sign ∈ signs, t = sign ++ dropSign t := by
  unfold dropSign
  by_cases hs : (t.head? == some 45 || t.head? == some 43) = true
  · rw [if_pos hs]
    cases t with
    | nil => cases hs
    | cons b t =>
      simp only [List.head?_cons, Option.some_beq_some, Bool.or_eq_true, beq_iff_eq] at hs
      rcases hs with rfl | rfl
      · exact ⟨[45], by decide, rfl⟩
      · exact ⟨[43], by decide, rfl⟩
  · exact ⟨[], by decide, (if_neg hs).symm⟩

theorem dropHexPrefix_eq (u : Bytes) : ∃ x ∈ hexPrefixes, u = x ++ dropHexPrefix u := by
  unfold dropHexPrefix
  by_cases hx : (u.take 2 == [48, 120] || u.take 2 == [48, 88]) = true
  · rw [if_pos hx]
    refine ⟨u.take 2, ?_, (List.take_append_drop 2 u).symm⟩
    simp only [Bool.or_eq_true, beq_iff_eq] at hx
    rcases hx with hx | hx <;> rw [hx] <;> decide
  · exact ⟨[], by decide, (if_neg hx).symm⟩

/-- `endp` is at the end of a text only if that is empty, or digits behind what `strtoul` skips. -/
theorem strtoul16_taken {t : Bytes} (hsp : t.dropWhile isSpace = t) (h : (strtoul16 t).2 = []) :
    t = [] ∨ ∃ sign ∈ signs, ∃ x ∈ hexPrefixes, ∃ ds, t = sign ++ x ++ ds ∧ ds ≠ [] ∧ ds.all isHex = true := by
  rw [strtoul16_end, hsp] at h
  dsimp only at h
  obtain ⟨sign, hsign, hu⟩ := dropSign_eq t
  obtain ⟨x, hx, hv⟩ := dropHexPrefix_eq (dropSign t)
  split at h
  · exact Or.inl h
  · rename_i hds
    refine Or.inr ⟨sign, hsign, x, hx, dropHexPrefix (dropSign t), ?_, ?_, ?_⟩
    · rw [List.append_assoc, ← hv, ← hu]
    · intro he
      rw [he] at hds
      exact hds rfl
    · rw [List.all_eq_true]
      exact List.dropWhile_eq_nil_iff.1 h

theorem dropSign_of {sign t : Bytes} (hs : sign ∈ signs) (ht : ∀ b ∈ t.head?, b ≠ 45 ∧ b ≠ 43) :
    dropSign (sign ++ t) = t := by
  simp only [signs, List.mem_cons, List.not_mem_nil, or_false] at hs
  rcases hs with rfl | rfl | rfl
  · cases t with
    | nil => rfl
    | cons b t =>
      obtain ⟨h1, h2⟩ := ht b rfl
      exact if_neg (by simp [h1, h2])
  · rfl
  · rfl

theorem dropHexPrefix_of {x ds : Bytes} (hx : x ∈ hexPrefixes) (h : ds.all isHex = true) :
    dropHexPrefix (x ++ ds) = ds := by
  simp only [hexPrefixes, List.mem_cons, List.not_mem_nil, or_false] at hx
  rcases hx with rfl | rfl | rfl
  · refine if_neg ?_
    simp only [List.nil_append, Bool.or_eq_true, beq_iff_eq]
    rintro (he | he)
    · exact not_mem_of_hex h (by decide : isHex 120 = false)
        (List.mem_of_mem_take (he ▸ List.mem_cons_of_mem _ (List.mem_singleton.2 rfl)))
    · exact not_mem_of_hex h (by decide : isHex 88 = false)
        (List.mem_of_mem_take (he ▸ List.mem_cons_of_mem _ (List.mem_singleton.2 rfl)))
  · rfl
  · rfl

/-- Digits behind a sign and a prefix are read to the end. -/
theorem strtoul16_end_of {sign x ds : Bytes} (hs : sign ∈ signs) (hx : x ∈ hexPrefixes) (hne : ds ≠ [])
    (h : ds.all isHex = true) : (strtoul16 (sign ++ x ++ ds)).2 = [] := by
  obtain ⟨d, ds', rfl⟩ := List.exists_cons_of_ne_nil hne
  have hd : isHex d = true := List.all_eq_true.1 h d (List.mem_cons_self ..)
  have hhead : ∀ b ∈ (x ++ d :: ds').head?, b ≠ 45 ∧ b ≠ 43 := by
    simp only [hexPrefixes, List.mem_cons, List.not_mem_nil, or_false] at hx
    rcases hx with rfl | rfl | rfl
    · rintro b ⟨⟩
      exact ⟨isHex_ne hd (by decide), isHex_ne hd (by decide)⟩
    · rintro b ⟨⟩
      decide
    · rintro b ⟨⟩
      decide
  have hsp : (sign ++ x ++ d :: ds').dropWhile isSpace = sign ++ (x ++ d :: ds') := by
    rw [List.append_assoc]
    simp only [signs, hexPrefixes, List.mem_cons, List.not_mem_nil, or_false] at hs hx
    rcases hs with rfl | rfl | rfl
    · rcases hx with rfl | rfl | rfl
      · simp [isHex_not_space hd]
      · rfl
      · rfl
    · rfl
    · rfl
  rw [strtoul16_end, hsp, dropSign_of hs hhead]
  dsimp only
  rw [dropHexPrefix_of hx h, takeWhile_isHex h, if_neg (by simp), List.dropWhile_eq_nil_iff]
  exact List.all_eq_true.1 h

/-! ## The text that is read -/

theorem mem_trim {s : Bytes} {b : UInt8} (hb : b ∈ s) (hsp : isSpace b = false) : b ∈ trim s := by
  have hd : b ∈ s.dropWhile isSpace := by
    rw [← List.takeWhile_append_dropWhile (p := isSpace) (l := s)] at hb
    rcases List.mem_append.1 hb with h | h
    · rw [List.mem_takeWhile_imp h] at hsp
      cases hsp
    · exact h
  rw [← List.rdropWhile_append_rtakeWhile (p := isSpace) (l := s.dropWhile isSpace)] at hd
  rcases List.mem_append.1 hd with h | h
  · exact h
  · rw [List.mem_rtakeWhile_imp h] at hsp
    cases hsp

theorem dropWhile_of_prefix {α : Type*} {p : α → Bool} {u v : List α} (h : u <+: v) (hv : v.dropWhile p = v) :
    u.dropWhile p = u := by
  cases u with
  | nil => rfl
  | cons a u =>
    obtain ⟨w, rfl⟩ := h
    rw [List.dropWhile_eq_self_iff] at hv ⊢
    exact fun _ => hv (Nat.succ_pos _)

theorem dropWhile_cstr_trim (s : Bytes) : (cstr (trim s)).dropWhile isSpace = cstr (trim s) :=
  dropWhile_of_prefix ((List.takeWhile_prefix _).trans (List.rdropWhile_prefix _ _)) (List.dropWhile_idempotent _ _)

theorem takeWhile_append_of_mem {α : Type*} {p : α → Bool} {x : α} {xs : List α} (ys : List α) (h : x ∈ xs)
    (hx : p x = false) :
    (xs ++ ys).takeWhile p = xs.takeWhile p := by
  induction xs with
  | nil => cases h
  | cons a xs ih =>
    by_cases ha : p a = true
    · have hm : x ∈ xs := by
        rcases List.mem_cons.1 h with rfl | hm
        · rw [ha] at hx
          cases hx
        · exact hm
      rw [List.cons_append, List.takeWhile_cons_of_pos ha, List.takeWhile_cons_of_pos ha, ih hm]
    · rw [List.cons_append, List.takeWhile_cons_of_neg ha, List.takeWhile_cons_of_neg ha]

/-- A size text without a NUL is that of the grammar. -/
theorem sizeText_eq {line : Bytes} (h : 0 ∉ sizeText line) : sizeText line = sizeField line := by
  unfold sizeText at h ⊢
  unfold sizeField
  by_cases hs : 59 ∈ cstr line
  · have hline : line.takeWhile (· != 59) = (cstr line).takeWhile (· != 59) := by
      have happ := takeWhile_append_of_mem (p := (· != 59)) (line.dropWhile (· != 0)) hs (by decide)
      unfold cstr at happ ⊢
      rwa [List.takeWhile_append_dropWhile] at happ
    rw [if_pos hs, hline]
  · rw [if_neg hs] at h ⊢
    have h0 : 0 ∉ line := fun hm => h (mem_trim hm (by decide))
    have hc : cstr line = line := takeWhile_all fun b hb => by
      rw [bne_iff_ne]
      rintro rfl
      exact h0 hb
    rw [hc] at hs
    rw [takeWhile_all fun b hb => by
      rw [bne_iff_ne]
      rintro rfl
      exact hs hb]

theorem cstr_of_hex {ds : Bytes} (h : ds.all isHex = true) : cstr ds = ds := by
  refine takeWhile_all fun b hb => ?_
  rw [bne_iff_ne]
  rintro rfl
  exact not_mem_of_hex h (by decide : isHex 0 = false) hb

/-- A size field of digits is what the code looks at. -/
theorem sizeText_of {line : Bytes} (h : (sizeField line).all isHex = true) : sizeText line = sizeField line := by
  refine sizeText_eq fun h0 => ?_
  unfold sizeText at h0
  by_cases hs : 59 ∈ cstr line
  · rw [if_pos hs] at h0
    have hm : 0 ∈ cstr line :=
      ((List.rdropWhile_prefix _ _).sublist.trans (List.dropWhile_sublist _)).trans (List.takeWhile_sublist _) |>.subset h0
    have hne := List.mem_takeWhile_imp hm
    cases hne
  · rw [if_neg hs] at h0
    -- the NUL is behind a `;`, so the `;` is in front of it
    have hL : 0 ∉ line.takeWhile (· != 59) := fun hm => not_mem_of_hex h (by decide) (mem_trim hm (by decide))
    have h0line : 0 ∈ line := ((List.rdropWhile_prefix _ _).sublist.trans (List.dropWhile_sublist _)).subset h0
    have hsplit := List.takeWhile_append_dropWhile (p := (· != 59)) (l := line)
    have hR : 0 ∈ line.dropWhile (· != 59) := by
      rw [← hsplit] at h0line
      exact (List.mem_append.1 h0line).resolve_left hL
    obtain ⟨c, m, hcm⟩ := List.exists_cons_of_ne_nil (List.ne_nil_of_mem hR)
    have hc : c = 59 := by
      have hhead := List.head_dropWhile_not (· != 59) (List.ne_nil_of_mem hR)
      simpa [hcm] using hhead
    rw [hcm, hc] at hsplit
    refine hs ?_
    rw [← hsplit, cstr_append fun b hb => by rintro rfl; exact hL hb]
    refine List.mem_append_right _ ?_
    exact List.mem_cons_self ..

/-! ## One line -/

/-- A sign or a prefix is not made of digits. -/
theorem prefix_of_hex {sign x : Bytes} (hs : sign ∈ signs) (hx : x ∈ hexPrefixes) (h : (sign ++ x).all isHex = true) :
    sign ++ x = [] := by
  simp only [signs, hexPrefixes, List.mem_cons, List.not_mem_nil, or_false] at hs hx
  rcases hs with rfl | rfl | rfl
  · rcases hx with rfl | rfl | rfl
    · rfl
    · exact absurd h (by decide)
    · exact absurd h (by decide)
  · exact absurd (List.all_eq_true.1 h 43 (List.mem_cons_self ..)) (by decide)
  · exact absurd (List.all_eq_true.1 h 45 (List.mem_cons_self ..)) (by decide)

/-- The grammar's lines are read as they are meant. -/
theorem parseChunkSize_of {line : Bytes} {n : Nat} (h : chunkSize line = some n) :
    parseChunkSize line = some n ∧ ¬ Misread line := by
  unfold chunkSize at h
  dsimp only at h
  split at h
  · rename_i hf
    obtain ⟨hne, hhex, hlt⟩ := hf
    cases h
    have htext : cstr (sizeText line) = sizeField line := by rw [sizeText_of hhex, cstr_of_hex hhex]
    constructor
    · unfold parseChunkSize
      dsimp only
      rw [htext, strtoul16_hex (List.all_eq_true.1 hhex) hne, if_neg (Nat.not_le.2 hlt)]
      rfl
    · unfold Misread
      rw [htext, sizeText_of hhex]
      rintro (he | ⟨sign, hsign, x, hx, ds, he, _, _, hbad⟩)
      · exact hne he
      · have hall := hhex
        rw [he, List.all_append, Bool.and_eq_true] at hall
        have hnil := prefix_of_hex hsign hx hall.1
        rw [hnil, List.nil_append] at he
        rcases hbad with hbad | hbad | hbad
        · exact hbad hnil
        · exact not_mem_of_hex hhex (by decide) hbad
        · rw [he] at hlt
          exact absurd hlt (Nat.not_lt.2 hbad)
  · cases h

/-- A line that the code takes is misread, or stands in the grammar. -/
theorem misread_or {line : Bytes} {n : Nat} (h : parseChunkSize line = some n) :
    Misread line ∨ chunkSize line = some n := by
  have hend : (strtoul16 (cstr (sizeText line))).2 = [] := by
    unfold parseChunkSize at h
    dsimp only at h
    split at h
    · rename_i he
      exact List.isEmpty_iff.1 he
    · cases h
  rcases strtoul16_taken (dropWhile_cstr_trim _) hend with he | ⟨sign, hsign, x, hx, ds, he, hne, hhex⟩
  · exact Or.inl (Or.inl he)
  · by_cases hbad : sign ++ x ≠ [] ∨ 0 ∈ sizeText line ∨ 2 ^ 32 ≤ hexValue ds
    · exact Or.inl (Or.inr ⟨sign, hsign, x, hx, ds, he, hne, hhex, hbad⟩)
    · right
      rw [not_or, not_or, not_not, Nat.not_le] at hbad
      obtain ⟨hnil, h0, hlt⟩ := hbad
      rw [hnil, List.nil_append] at he
      have hcs : cstr (sizeText line) = sizeText line := takeWhile_all fun b hb => by
        rw [bne_iff_ne]
        rintro rfl
        exact h0 hb
      have hfield : sizeField line = ds := by
        rw [← sizeText_eq h0, ← hcs]
        exact he
      have hsize : chunkSize line = some (hexValue ds) := by
        unfold chunkSize
        dsimp only
        rw [hfield, if_pos ⟨hne, hhex, hlt⟩]
      have hparse := (parseChunkSize_of hsize).1
      rw [h] at hparse
      rw [hsize, hparse]

/-- What is misread is taken. -/
theorem parseChunkSize_of_misread {line : Bytes} (h : Misread line) : ∃ n, parseChunkSize line = some n := by
  have hend : (strtoul16 (cstr (sizeText line))).2 = [] := by
    rcases h with he | ⟨sign, hsign, x, hx, ds, he, hne, hhex, _⟩
    · rw [he]
      rfl
    · rw [he]
      exact strtoul16_end_of hsign hx hne hhex
  refine ⟨(strtoul16 (cstr (sizeText line))).1, ?_⟩
  unfold parseChunkSize
  dsimp only
  rw [hend]
  rfl

theorem parseChunkSize_eq_iff (line : Bytes) : parseChunkSize line = chunkSize line ↔ ¬ Misread line := by
  constructor
  · intro he hm
    obtain ⟨n, hn⟩ := parseChunkSize_of_misread hm
    exact (parseChunkSize_of (he.symm.trans hn)).2 hm
  · intro hm
    cases hc : chunkSize line with
    | some n => exact (parseChunkSize_of hc).1
    | none =>
      cases hp : parseChunkSize line with
      | none => rfl
      | some n =>
        rcases misread_or hp with h | h
        · exact absurd h hm
        · rw [hc] at h
          cases h

/-! ## `nextChunk` -/

namespace BodyReader

theorem rawByte_framingError (r : BodyReader) : r.rawByte.2.framingError = r.framingError := by
  unfold rawByte
  split <;> rfl

theorem rawLineLoop_framingError (n : Nat) (line : Bytes) (r : BodyReader) :
    (rawLineLoop n line r).2.2.framingError = r.framingError := by
  induction n generalizing line r with
  | zero => rfl
  | succ n ih =>
    have hb := rawByte_framingError r
    unfold rawLineLoop
    rcases hr : r.rawByte with ⟨_ | b, r'⟩
    · rw [hr] at hb
      exact hb
    · rw [hr] at hb
      dsimp only
      split
      · exact hb
      · exact (ih _ _).trans hb

theorem sizeLine_framingError {n : Nat} {line : Bytes} {r r' : BodyReader} (h : sizeLine n r = (some line, r')) :
    r'.framingError = r.framingError := by
  induction n generalizing r with
  | zero => cases h
  | succ n ih =>
    have hl := rawLineLoop_framingError 128 [] r
    unfold sizeLine at h
    unfold rawLine at h
    rcases hr : rawLineLoop 128 [] r with ⟨_ | _, line', r1⟩
    · rw [hr] at h
      cases h
    · rw [hr] at h hl
      dsimp only at h
      split at h
      · exact (ih h).trans hl
      · cases h
        exact hl

theorem skipTrailer_framingError (n : Nat) (r : BodyReader) : (skipTrailer n r).framingError = r.framingError := by
  induction n generalizing r with
  | zero => rfl
  | succ n ih =>
    have hl := rawLineLoop_framingError 128 [] r
    unfold skipTrailer rawLine
    rcases hr : rawLineLoop 128 [] r with ⟨_ | _, line', r1⟩
    · rw [hr] at hl
      exact hl
    · rw [hr] at hl
      dsimp only
      split
      · exact hl
      · exact (ih _).trans hl

/-- What a size line does to the reader: with no size it is a framing error, with size 0 the body is done,
and else a chunk is open. -/
def sized (r : BodyReader) : Option Nat → Bool × BodyReader
  | none => (false, { r with framingError := true })
  | some 0 => (false, { skipTrailer (r.client.size + 1) r with done := true })
  | some n => (true, { r with chunkRemaining := n })

theorem nextChunk_sized {r r' : BodyReader} {line : Bytes} (h : sizeLine (r.client.size + 1) r = (some line, r')) :
    r.nextChunk = r'.sized (parseChunkSize line) := by
  unfold nextChunk
  rw [h]
  dsimp only
  cases parseChunkSize line with
  | none => rfl
  | some n =>
    cases n with
    | zero => rfl
    | succ n => rfl

/-- Which of the three it was can be told, and the size too. -/
theorem sized_inj {r : BodyReader} (hr : r.framingError = false) {a b : Option Nat} (h : r.sized a = r.sized b) :
    a = b := by
  have hskip := skipTrailer_framingError (r.client.size + 1) r
  rw [hr] at hskip
  have herr := congrArg (fun p => p.2.framingError) h
  have hok := congrArg Prod.fst h
  have hn := congrArg (fun p => p.2.chunkRemaining) h
  rcases a with _ | _ | a <;> rcases b with _ | _ | b <;> simp_all [sized]

/-- **The size lines that `nextChunk` reads as the grammar has them** are all but the misread ones. -/
theorem nextChunk_reads_iff {r r' : BodyReader} {line : Bytes} (hr : r.framingError = false)
    (h : sizeLine (r.client.size + 1) r = (some line, r')) :
    r.nextChunk = r'.sized (chunkSize line) ↔ ¬ Misread line := by
  have hr' : r'.framingError = false := (sizeLine_framingError h).trans hr
  rw [nextChunk_sized h, ← parseChunkSize_eq_iff]
  exact ⟨sized_inj hr', fun he => by rw [he]⟩

def reading (b : UInt8) (bs : Bytes) : BodyReader :=
  { client := { incoming := [.seg b bs], closed := true }, chunked := true, remaining := -1 }

/-- `1a;x` -/
theorem nextChunk_reads_iff_hex : ∃ r', sizeLine 8 (reading 49 [97, 59, 120, 13, 10]) = (some [49, 97, 59, 120], r') ∧
    (reading 49 [97, 59, 120, 13, 10]).nextChunk = r'.sized (some 26) := by
  have h : sizeLine 8 (reading 49 [97, 59, 120, 13, 10]) =
      (some [49, 97, 59, 120], { reading 49 [] with client := { incoming := [], closed := true } }) := by decide +kernel
  refine ⟨_, h, (nextChunk_reads_iff (r := reading 49 [97, 59, 120, 13, 10]) rfl h).2 ?_⟩
  have hsize : chunkSize [49, 97, 59, 120] = some 26 := by decide +kernel
  exact (parseChunkSize_of hsize).2

/-- `;x` has no size, and ends the body. -/
theorem nextChunk_endsWithoutSize : ∃ r', sizeLine 8 (reading 59 [120, 13, 10, 13, 10]) = (some [59, 120], r') ∧
    chunkSize [59, 120] = none ∧ (reading 59 [120, 13, 10, 13, 10]).nextChunk.2.framingError = false ∧
    (reading 59 [120, 13, 10, 13, 10]).nextChunk.2.done = true := by
  exact ⟨_, rfl, by decide +kernel, by decide +kernel, by decide +kernel⟩

end BodyReader
end PrintServer
