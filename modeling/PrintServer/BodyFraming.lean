import PrintServer.BodyReader
/-!
# HTTP body framing, and what one read of it does

The framing is written down as a grammar of its own (`Chunk`, `ChunkedBody`, `encode`): a size is
one or more hex digits in either case with any leading zeros, optionally followed by blanks and a
`;` extension. `parseChunkSize_line` says that `nextChunk`'s `strtoul` reads such a line
correctly when the size fits in 32 bits.

The second half states what each raw read does to a socket that holds a (possibly cut) piece of
such a stream: `Fwd` is "this many bytes further", `miss` is what the peer never sends.
-/
namespace PrintServer

/-! ## The size line -/

theorem isHex_range {b : UInt8} (h : isHex b = true) :
    (48 ≤ b ∧ b ≤ 57) ∨ (97 ≤ b ∧ b ≤ 102) ∨ (65 ≤ b ∧ b ≤ 70) := by
  unfold isHex hexVal at h
  split at h
  · left; assumption
  · split at h
    · right; left; assumption
    · split at h
      · right; right; assumption
      · cases h

theorem isHex_not_space {b : UInt8} (h : isHex b = true) : isSpace b = false := by
  have hr := isHex_range h
  simp only [isSpace, Bool.or_eq_false_iff, beq_eq_false_iff_ne, Bool.and_eq_false_iff,
    decide_eq_false_iff_not]
  constructor
  · rintro rfl; revert h; decide
  · simp only [UInt8.le_iff_toNat_le] at *
    simp at *
    omega

theorem isHex_ne {b c : UInt8} (h : isHex b = true) (hc : isHex c = false) : b ≠ c := by
  rintro rfl; rw [h] at hc; cases hc

/-- Blanks that may stand between the size and an extension. -/
def isBlank (b : UInt8) : Bool := b == 32 || b == 9

theorem isSpace_of_blank {b : UInt8} (h : isBlank b = true) : isSpace b = true := by
  simp only [isBlank, Bool.or_eq_true, beq_iff_eq] at h
  rcases h with rfl | rfl <;> decide

theorem takeWhile_all {α : Type*} {p : α → Bool} {l : List α} (h : ∀ x ∈ l, p x = true) :
    l.takeWhile p = l := by
  rw [List.takeWhile_eq_self_iff]; exact h

theorem cstr_append {xs ys : Bytes} (h : ∀ b ∈ xs, b ≠ 0) : cstr (xs ++ ys) = xs ++ cstr ys := by
  unfold cstr
  rw [List.takeWhile_append_of_pos (by simpa using h)]

theorem trim_hex_blanks {ds bl : Bytes} (hd : ∀ b ∈ ds, isHex b = true) (hne : ds ≠ [])
    (hb : ∀ b ∈ bl, isBlank b = true) : trim (ds ++ bl) = ds := by
  obtain ⟨d, ds', rfl⟩ := List.exists_cons_of_ne_nil hne
  have h1 : (d :: ds' ++ bl).dropWhile isSpace = d :: ds' ++ bl := by
    simp [isHex_not_space (hd d (by simp))]
  have h2 : (d :: ds' ++ bl).reverse.dropWhile isSpace = (d :: ds').reverse := by
    rw [List.reverse_append, List.dropWhile_append_of_pos
      (fun b hb' => isSpace_of_blank (hb b (by simpa using hb')))]
    rw [List.dropWhile_eq_self_iff]
    intro hl
    have hm : (d :: ds').reverse.get ⟨0, hl⟩ ∈ d :: ds' := by
      rw [← List.mem_reverse]; exact List.getElem_mem hl
    exact Bool.eq_false_iff.1 (isHex_not_space (hd _ hm))
  unfold trim List.rdropWhile
  rw [h1, h2, List.reverse_reverse]

theorem strtoul16_hex {ds : Bytes} (hd : ∀ b ∈ ds, isHex b = true) (hne : ds ≠ []) :
    strtoul16 ds = (if 2 ^ 32 ≤ hexValue ds then 2 ^ 32 - 1 else hexValue ds, []) := by
  obtain ⟨d, ds', rfl⟩ := List.exists_cons_of_ne_nil hne
  have hdd := hd d (by simp)
  have h45 : d ≠ 45 := isHex_ne hdd (by decide)
  have h43 : d ≠ 43 := isHex_ne hdd (by decide)
  have h1 : (d :: ds').dropWhile isSpace = d :: ds' := by simp [isHex_not_space hdd]
  have hpre : ∀ x : UInt8, isHex x = false → ((d :: ds').take 2 == [48, x]) = false := by
    intro x hx
    cases ds' with
    | nil => simp
    | cons e es =>
      have he : e ≠ x := isHex_ne (hd e (by simp)) hx
      simp [he]
  have h2 : (d :: ds').takeWhile isHex = d :: ds' := takeWhile_all hd
  have h3 : (d :: ds').dropWhile isHex = [] := by
    rw [List.dropWhile_eq_nil_iff]; exact hd
  unfold strtoul16
  simp only [h1, hpre 120 (by decide), hpre 88 (by decide), List.head?_cons, Bool.or_self,
    Bool.false_eq_true, if_false, Option.some_beq_some, beq_eq_false_iff_ne.2 h45,
    beq_eq_false_iff_ne.2 h43, h2, h3, List.isEmpty_cons]

/-- What may follow the digits on a size line: blanks, then nothing or a `;` extension. -/
def ExtOk (ext : Bytes) : Prop :=
  lf ∉ ext ∧ ∃ bl more, ext = bl ++ more ∧ (∀ b ∈ bl, isBlank b = true) ∧ (more = [] ∨ more.head? = some 59)

/-- `nextChunk`'s reading of a well-formed size line; the value saturates. -/
theorem parseChunkSize_line {ds ext : Bytes} (hd : ∀ b ∈ ds, isHex b = true) (hne : ds ≠ [])
    (he : ExtOk ext) :
    parseChunkSize (ds ++ ext) = some (if 2 ^ 32 ≤ hexValue ds then 2 ^ 32 - 1 else hexValue ds) := by
  obtain ⟨-, bl, more, rfl, hb, hm⟩ := he
  have hpos : ∀ b ∈ ds ++ bl, b ≠ 0 := by
    intro b hb'
    rcases List.mem_append.1 hb' with h | h
    · exact isHex_ne (hd b h) (by decide)
    · rintro rfl; exact absurd (hb 0 h) (by decide)
  have hns : ∀ b ∈ ds ++ bl, b ≠ 59 := by
    intro b hb'
    rcases List.mem_append.1 hb' with h | h
    · exact isHex_ne (hd b h) (by decide)
    · rintro rfl; exact absurd (hb 59 h) (by decide)
  have hsize : sizeText (ds ++ (bl ++ more)) = ds := by
    unfold sizeText
    rw [← List.append_assoc, cstr_append hpos]
    rcases hm with rfl | hm
    · have hno : (59 : UInt8) ∉ ds ++ bl ++ cstr [] := by
        intro h; exact hns 59 (by simpa [cstr] using h) rfl
      rw [if_neg hno, List.append_nil, trim_hex_blanks hd hne hb]
    · obtain ⟨m, rfl⟩ : ∃ m, more = 59 :: m := by
        cases more with
        | nil => simp at hm
        | cons a m => simp at hm; exact ⟨m, by rw [hm]⟩
      have hc : cstr (59 :: m) = 59 :: cstr m := by simp [cstr]
      rw [hc, if_pos (by simp), List.takeWhile_append_of_pos (by simpa using hns)]
      simp only [List.takeWhile_cons, bne_self_eq_false, Bool.false_eq_true, if_false, List.append_nil]
      exact trim_hex_blanks hd hne hb
  have hcs : cstr ds = ds := by
    rw [← List.append_nil ds, cstr_append (fun b h => hpos b (by simp [h]))]; simp [cstr]
  simp only [parseChunkSize, hsize, hcs, strtoul16_hex hd hne, List.isEmpty_nil, if_true]

/-! ## The grammar -/

theorem noExt_ok : ExtOk [] := ⟨by decide, [], [], rfl, by simp, Or.inl rfl⟩

/-- One chunk of the chunked coding. -/
structure Chunk where
  digits : Bytes
  ext : Bytes
  data : Bytes
  hex : ∀ b ∈ digits, isHex b = true
  digits_ne : digits ≠ []
  ext_ok : ExtOk ext
  size : hexValue digits = data.length
  data_ne : data ≠ []

/-- The zero chunk that ends the body, and the trailer lines after it. -/
structure LastChunk where
  digits : Bytes
  ext : Bytes
  trailers : List Bytes
  hex : ∀ b ∈ digits, isHex b = true
  digits_ne : digits ≠ []
  ext_ok : ExtOk ext
  size : hexValue digits = 0
  trailers_ok : ∀ t ∈ trailers, t ≠ [] ∧ lf ∉ t

def Chunk.line (c : Chunk) : Bytes := c.digits ++ c.ext
def LastChunk.line (c : LastChunk) : Bytes := c.digits ++ c.ext

structure ChunkedBody where
  chunks : List Chunk
  last : LastChunk

def ChunkedBody.data (b : ChunkedBody) : Bytes := b.chunks.flatMap Chunk.data

def Chunk.encode (c : Chunk) : Bytes := c.line ++ crlf ++ c.data ++ crlf
/-- The trailer section with the empty line that ends it. -/
def LastChunk.trailer (c : LastChunk) : Bytes := c.trailers.flatMap (· ++ crlf) ++ crlf
def LastChunk.encode (c : LastChunk) : Bytes := c.line ++ crlf ++ c.trailer
def ChunkedBody.encode (b : ChunkedBody) : Bytes := b.chunks.flatMap Chunk.encode ++ b.last.encode

theorem line_no_lf {ds ext : Bytes} (hd : ∀ b ∈ ds, isHex b = true) (he : ExtOk ext) : lf ∉ ds ++ ext := by
  intro h
  rcases List.mem_append.1 h with h | h
  · exact absurd (hd _ h) (by decide)
  · exact he.1 h

/-! ## Raw reads -/

def Smooth (c : WiFiClient) : Prop := NetEvent.stall ∉ c.incoming

/-- `c'` is `c` after `x` has been read. -/
structure Fwd (c c' : WiFiClient) (x : Bytes) : Prop where
  bytes : c.bytes = x ++ c'.bytes
  smooth : Smooth c → Smooth c'
  size : c'.size + x.length ≤ c.size
  closed : c'.closed = c.closed

theorem Fwd.refl (c : WiFiClient) : Fwd c c [] := ⟨rfl, id, by simp, rfl⟩

theorem Fwd.trans {c c' c'' : WiFiClient} {x y : Bytes} (h : Fwd c c' x) (h' : Fwd c' c'' y) :
    Fwd c c'' (x ++ y) :=
  ⟨by rw [h.bytes, h'.bytes, List.append_assoc], h'.smooth ∘ h.smooth, by
    have := h.size; have := h'.size; simp; omega, h'.closed.trans h.closed⟩

namespace WiFiClient

theorem unread_flatMap (rest : Bytes) (es : List NetEvent) :
    (unread rest es).flatMap NetEvent.data = rest ++ es.flatMap NetEvent.data := by
  cases rest <;> simp [unread, NetEvent.data]

theorem unread_smooth {rest : Bytes} {es : List NetEvent} (h : NetEvent.stall ∉ es) :
    NetEvent.stall ∉ unread rest es := by
  cases rest <;> simp [unread, h]

theorem length_unread_le (rest : Bytes) (es : List NetEvent) : (unread rest es).length ≤ es.length + 1 := by
  cases rest <;> simp [unread]

/-- Reading the first `k` bytes of a segment. -/
theorem fwd_seg (b : UInt8) (bs : Bytes) (es : List NetEvent) (cl : Bool) (k : Nat) :
    Fwd ⟨.seg b bs :: es, cl⟩ ⟨unread ((b :: bs).drop k) es, cl⟩ ((b :: bs).take k) where
  bytes := by
    simp only [bytes, List.flatMap_cons, NetEvent.data, unread_flatMap]
    rw [← List.append_assoc, List.take_append_drop]
  smooth h := unread_smooth (by intro hm; exact h (List.mem_cons_of_mem _ hm))
  size := by
    have h1 := length_unread_le ((b :: bs).drop k) es
    simp only [size, bytes, unread_flatMap, List.flatMap_cons, NetEvent.data, List.length_append,
      List.length_drop, List.length_take, List.length_cons] at *
    omega
  closed := rfl

theorem fwd_stall (es : List NetEvent) (cl : Bool) : Fwd ⟨.stall :: es, cl⟩ ⟨es, cl⟩ [] where
  bytes := by simp [bytes, NetEvent.data]
  smooth h := by simp [Smooth] at h
  size := by simp [size, bytes, NetEvent.data]
  closed := rfl

end WiFiClient

theorem readClientByte_cases (c : WiFiClient) :
    (∃ b c', readClientByte c = (some b, c') ∧ Fwd c c' [b]) ∨
    (∃ c', readClientByte c = (none, c') ∧ Fwd c c' [] ∧ (Smooth c → c.bytes = [])) := by
  obtain ⟨inc, cl⟩ := c
  match inc with
  | [] => exact Or.inr ⟨_, rfl, Fwd.refl _, fun _ => rfl⟩
  | .stall :: es => exact Or.inr ⟨_, rfl, WiFiClient.fwd_stall es cl, fun h => by simp [Smooth] at h⟩
  | .seg b bs :: es =>
    refine Or.inl ⟨b, _, rfl, ?_⟩
    simpa using WiFiClient.fwd_seg b bs es cl 1

theorem readClientBlock_cases (c : WiFiClient) {k : Nat} (hk : 0 < k) :
    (∃ got c', readClientBlock c k = (got, c') ∧ got ≠ [] ∧ got.length ≤ k ∧ Fwd c c' got) ∨
    (∃ c', readClientBlock c k = ([], c') ∧ Fwd c c' [] ∧ (Smooth c → c.bytes = [])) := by
  obtain ⟨inc, cl⟩ := c
  match inc with
  | [] => exact Or.inr ⟨_, rfl, Fwd.refl _, fun _ => rfl⟩
  | .stall :: es => exact Or.inr ⟨_, rfl, WiFiClient.fwd_stall es cl, fun h => by simp [Smooth] at h⟩
  | .seg b bs :: es =>
    refine Or.inl ⟨_, _, rfl, ?_, ?_, WiFiClient.fwd_seg b bs es cl k⟩
    · obtain ⟨k, rfl⟩ := Nat.exists_eq_succ_of_ne_zero (Nat.pos_iff_ne_zero.1 hk)
      simp
    · exact List.length_take_le _ _

namespace BodyReader

theorem of_gone {c : WiFiClient} (h : gone c = true) : c.bytes = [] ∧ c.closed = true := by
  obtain ⟨inc, cl⟩ := c
  cases inc with
  | nil => exact ⟨rfl, by simpa [gone, WiFiClient.connected, WiFiClient.available] using h⟩
  | cons e es => simp [gone, WiFiClient.connected] at h

/-- `rawByte` touches the socket and, on failure, `peerClosed`. -/
theorem rawByte_cases (r : BodyReader) :
    (∃ b c, r.rawByte = (some b, { r with client := c }) ∧ Fwd r.client c [b]) ∨
    (∃ c p, r.rawByte = (none, { r with client := c, peerClosed := p }) ∧ Fwd r.client c [] ∧
      (Smooth r.client → r.client.bytes = []) ∧ (p = true → r.peerClosed = true ∨ (c.bytes = [] ∧ c.closed = true))) := by
  unfold rawByte
  rcases readClientByte_cases r.client with ⟨b, c, e, hf⟩ | ⟨c, e, hf, hs⟩
  · rw [e]; exact Or.inl ⟨b, c, rfl, hf⟩
  · rw [e]
    refine Or.inr ⟨c, _, rfl, hf, hs, fun hp => ?_⟩
    rcases Bool.or_eq_true _ _ ▸ hp with hp | hp
    · exact Or.inl hp
    · exact Or.inr (of_gone hp)

/-- Reading a line `y ++ "\n"` of which `miss` may not arrive: either the line is there, or the
loop stops somewhere inside it. The induction follows the text of the line. -/
theorem rawLineLoop_cases {miss G : Bytes} :
    ∀ (y : Bytes) (n : Nat) (acc : Bytes) (r : BodyReader), lf ∉ y →
      r.client.bytes ++ miss = y ++ lf :: G →
      (∃ c, rawLineLoop n acc r = (true, stripCr (acc ++ y), { r with client := c }) ∧
        Fwd r.client c (y ++ [lf]) ∧ c.bytes ++ miss = G ∧ y.length < n) ∨
      (∃ x c p, rawLineLoop n acc r = (false, acc ++ x, { r with client := c, peerClosed := p }) ∧
        Fwd r.client c x ∧ (p = true → r.peerClosed = true ∨ (c.bytes = [] ∧ c.closed = true)) ∧
        (Smooth r.client → miss.length ≤ G.length → n ≤ y.length))
  | y, 0, acc, r, _, _ =>
    Or.inr ⟨[], r.client, r.peerClosed, by simp [rawLineLoop], Fwd.refl _, Or.inl, fun _ _ => Nat.zero_le _⟩
  | y, n + 1, acc, r, hy, hb => by
    rcases r.rawByte_cases with ⟨b, c, e, hf⟩ | ⟨c, p, e, hf, hs, hp⟩
    · have hcut : b :: (c.bytes ++ miss) = y ++ lf :: G := by rw [← hb, hf.bytes]; simp
      match y, hy with
      | [], _ =>
        obtain ⟨rfl, hG⟩ := List.cons.inj hcut
        exact Or.inl ⟨c, by simp [rawLineLoop, e], by simpa using hf, hG, Nat.succ_pos n⟩
      | a :: y, hy =>
        obtain ⟨rfl, hG⟩ := List.cons.inj hcut
        have hne : b ≠ lf := fun h => hy (by simp [h])
        rcases rawLineLoop_cases y n (acc ++ [b]) { r with client := c } (fun h => hy (by simp [h])) hG with
          ⟨c', e', hf', hG', hn⟩ | ⟨x, c', p', e', hf', hp', hs'⟩
        · refine Or.inl ⟨c', ?_, hf.trans hf', hG', Nat.succ_lt_succ hn⟩
          simp [rawLineLoop, e, hne, e']
        · refine Or.inr ⟨b :: x, c', p', ?_, hf.trans hf', hp', fun h1 h2 => ?_⟩
          · simp [rawLineLoop, e, hne, e']
          · have := hs' (hf.smooth h1) h2; simp; omega
    · refine Or.inr ⟨[], c, p, by simp [rawLineLoop, e], hf, hp, fun h1 h2 => ?_⟩
      have h3 := congrArg List.length hb
      rw [hs h1] at h3
      simp only [List.nil_append, List.length_append, List.length_cons] at h3
      omega

theorem stripCr_append (line : Bytes) : stripCr (line ++ [cr]) = line := by
  simp [stripCr]

/-- `rawLine` on a CRLF-terminated line. -/
theorem rawLine_cases (miss line : Bytes) {G : Bytes} (r : BodyReader) (hl : lf ∉ line)
    (hb : r.client.bytes ++ miss = line ++ crlf ++ G) :
    (∃ c, r.rawLine = (true, line, { r with client := c }) ∧ Fwd r.client c (line ++ crlf) ∧
      c.bytes ++ miss = G ∧ line.length ≤ 126) ∨
    (∃ x c p, r.rawLine = (false, x, { r with client := c, peerClosed := p }) ∧ Fwd r.client c x ∧
      (p = true → r.peerClosed = true ∨ (c.bytes = [] ∧ c.closed = true)) ∧
      (Smooth r.client → miss.length ≤ G.length → 126 < line.length)) := by
  have hy : lf ∉ line ++ [cr] := by
    intro h
    rcases List.mem_append.1 h with h | h
    · exact hl h
    · exact absurd h (by decide)
  rcases rawLineLoop_cases (line ++ [cr]) 128 [] r hy (by simpa [crlf] using hb) with
    ⟨c, e, hf, hG, hn⟩ | ⟨x, c, p, e, hf, hp, hs⟩
  · refine Or.inl ⟨c, ?_, by simpa [crlf] using hf, hG, by rw [List.length_append] at hn; simp at hn; omega⟩
    rw [rawLine, e, List.nil_append, stripCr_append]
  · refine Or.inr ⟨x, c, p, by simpa [rawLine] using e, hf, hp, fun h1 h2 => ?_⟩
    have := hs h1 h2; simp at this; omega

end BodyReader
end PrintServer
