import PrintServer.BodyProgress
/-!
# The body reader follows the framing

`Follow E r left` is the invariant of a `BodyReader` on a stream that is a valid framing from here
on: `left` is the body data it has not returned yet. It is kept by `readByte` and `readBlock`
whatever the socket does (stalls, a close at any byte: `E.miss` is the part that never comes), and
every byte returned is the next byte of `left`. When all chunks arrive, nothing stalls and the
size lines fit `rawLine`'s buffer (`E.clean`), the framing error case is excluded and every read
makes progress.

A chunk whose size does not fit in 32 bits is followed too: the reader takes the first `2^32 - 1`
bytes for its data (`Piece`), and a framing error comes unless CR LF stands right behind them. Of a
body with a Content-Length from `2^31` on it takes the first `2^31 - 1` bytes (`Framing.seen`).
-/
namespace PrintServer

/-! ## Positions in a stream -/

/-- A chunk as the reader sees it: size line, data, and the bytes behind the data. -/
structure Piece where
  line : Bytes
  data : Bytes
  term : Bytes

/-- CR LF stands behind the data, or the next two bytes of the stream are something else. -/
def Term (clean : Prop) (term : Bytes) : Prop :=
  term = crlf ∨ (¬clean ∧ ∃ a b x, term = a :: b :: x ∧ ¬(a = cr ∧ b = lf))

structure Piece.Ok (clean : Prop) (p : Piece) : Prop where
  size : parseChunkSize p.line = some p.data.length
  data_ne : p.data ≠ []
  line_ne : p.line ≠ []
  line_lf : lf ∉ p.line
  term : p.line.length ≤ 126 → Term clean p.term
  short : clean → p.line.length ≤ 126

/-- What is true of a chunk that the reader has got behind. -/
def Piece.Passed (p : Piece) : Prop := p.term = crlf ∧ p.line.length ≤ 126

/-- What is fixed about a stream while it is read: its chunks, how it ends, and what of it never
arrives. -/
structure Ending where
  chunked : Bool
  all : List Piece
  last : Bytes
  trailers : List Bytes
  rest : Bytes
  miss : Bytes
  /-- The peer closes after its last byte. -/
  closed : Bool
  clean : Prop
  size : parseChunkSize last = some 0
  last_ne : last ≠ []
  last_lf : lf ∉ last
  trailers_ok : ∀ t ∈ trailers, t ≠ [] ∧ lf ∉ t
  arrived : clean → miss = [] ∨ miss = last ++ crlf ++ (trailers.flatMap (· ++ crlf) ++ crlf ++ rest)
  short : clean → last.length ≤ 126 ∧ ∀ t ∈ trailers, t.length ≤ 126
  ok : ∀ p ∈ all, p.Ok clean

/-- The trailer section and whatever follows the body. -/
def Ending.after (E : Ending) : Bytes := E.trailers.flatMap (· ++ crlf) ++ crlf ++ E.rest

def rawChunks (l : List Piece) : Bytes := l.flatMap fun p => p.line ++ crlf ++ p.data ++ p.term

/-- The stream from inside a chunk (`cur` is what is left of its data, `term` stands behind it) or
from a boundary. -/
def rawFrom (E : Ending) (cur term : Bytes) (l : List Piece) : Bytes :=
  (if cur = [] then [] else cur ++ term) ++ (rawChunks l ++ (E.last ++ crlf ++ E.after))

def dataFrom (cur : Bytes) (l : List Piece) : Bytes := cur ++ l.flatMap Piece.data

/-- A chunked reader at a position. -/
structure At (E : Ending) (r : BodyReader) (cur term : Bytes) (l : List Piece) : Prop where
  chunked : r.chunked = true ∧ E.chunked = true
  live : r.done = false
  sound : r.framingError = false
  left : r.chunkRemaining = cur.length
  stream : r.client.bytes ++ E.miss = rawFrom E cur term l
  peer : r.client.closed = E.closed
  gone : r.peerClosed = true → r.client.bytes = [] ∧ E.closed = true
  /-- The chunks before this position; `term` stands behind the last one. -/
  passed : ∃ pre, E.all = pre ++ l ∧ ∀ p ∈ pre, p.Passed ∨ p.term = term ∧ p.line.length ≤ 126
  boundary : cur = [] → term = crlf
  stop : Term E.clean term
  smooth : E.clean → Smooth r.client

/-- The reader has read the zero chunk's size line and is behind it. -/
structure Ended (E : Ending) (r : BodyReader) : Prop where
  chunked : r.chunked = true ∧ E.chunked = true
  done : r.done = true
  sound : r.framingError = false
  passed : ∀ p ∈ E.all, p.Passed
  behind : ∃ z, z ++ (r.client.bytes ++ E.miss) = E.after
  exact : E.clean → E.miss = [] → r.client.bytes = E.rest

/-- A reader with a Content-Length. -/
structure Fixed (E : Ending) (r : BodyReader) (left : Bytes) : Prop where
  chunked : r.chunked = false ∧ E.chunked = false
  sound : r.framingError = false
  done : r.done = true → left = []
  remaining : r.remaining = left.length
  stream : r.client.bytes ++ E.miss = left ++ E.rest
  smooth : E.clean → Smooth r.client
  whole : E.clean → E.miss = []

inductive Follow (E : Ending) (r : BodyReader) (left : Bytes) : Prop
  | here {cur term l} (h : At E r cur term l) (hl : left = dataFrom cur l)
  | ended (h : Ended E r) (hl : left = [])
  | broken (h : r.framingError = true) (hd : r.done = false) (hc : E.clean → left = [] ∧ E.miss ≠ [] ∧ E.closed = false)
  | fixed (h : Fixed E r left)

theorem Follow.no_error {E : Ending} {r : BodyReader} {left : Bytes} (h : Follow E r left) (hc : E.clean)
    (hm : E.miss = [] ∨ E.closed = true) : r.framingError = false := by
  cases h with
  | here h _ => exact h.sound
  | ended h _ => exact h.sound
  | broken _ _ hn =>
    obtain ⟨-, h1, h2⟩ := hn hc
    rcases hm with hm | hm
    · exact absurd hm h1
    · rw [h2] at hm
      cases hm
  | fixed h => exact h.sound

/-- Nothing behind the body has been consumed. -/
theorem Follow.rest_suffix {E : Ending} {r : BodyReader} {left : Bytes} (h : Follow E r left) (hc : E.clean)
    (hm : E.miss = []) : E.rest <:+ r.client.bytes := by
  cases h with
  | here h _ =>
    have hs := h.stream
    rw [hm, List.append_nil] at hs
    rw [hs]
    simp only [rawFrom, Ending.after, ← List.append_assoc]
    exact List.suffix_append _ _
  | ended h _ => exact ⟨[], (h.exact hc hm).symm⟩
  | broken _ _ hn => exact absurd hm (hn hc).2.1
  | fixed h =>
    have hs := h.stream
    rw [hm, List.append_nil] at hs
    rw [hs]
    exact List.suffix_append _ _

/-- At the end of a complete body exactly the framing has been consumed. -/
theorem Follow.exact {E : Ending} {r : BodyReader} {left : Bytes} (h : Follow E r left) (hc : E.clean)
    (hm : E.miss = []) (hd : r.done = true) : left = [] ∧ r.client.bytes = E.rest := by
  cases h with
  | here h _ => rw [h.live] at hd; cases hd
  | ended h hl => exact ⟨hl, h.exact hc hm⟩
  | broken _ hn _ => rw [hn] at hd; cases hd
  | fixed h =>
    have hl := h.done hd
    have hs := h.stream
    rw [hm, hl, List.append_nil, List.nil_append] at hs
    exact ⟨hl, hs⟩

/-- On a clean stream a reader stops only behind its last chunk. -/
theorem Follow.left_nil_of_stop {E : Ending} {r : BodyReader} {left : Bytes} (h : Follow E r left) (hc : E.clean)
    (hs : (r.done || r.framingError) = true) : left = [] := by
  cases h with
  | here h _ => simp [h.live, h.sound] at hs
  | ended h hl => exact hl
  | broken _ _ hn => exact (hn hc).1
  | fixed h => exact h.done (by simpa [h.sound] using hs)

/-- A finished reader has returned all of its body. -/
theorem Follow.left_nil {E : Ending} {r : BodyReader} {left : Bytes} (h : Follow E r left) (hd : r.done = true) :
    left = [] := by
  cases h with
  | here h _ => rw [h.live] at hd; cases hd
  | ended h hl => exact hl
  | broken _ hn _ => rw [hn] at hd; cases hd
  | fixed h => exact h.done hd

/-! ## Reads inside a chunk -/

variable {E : Ending}

/-- Of a clean stream at most the zero chunk and what follows is missing. -/
theorem Ending.miss_le (E : Ending) (hc : E.clean) : E.miss.length ≤ (E.last ++ crlf ++ E.after).length := by
  rcases E.arrived hc with h | h
  · rw [h]
    exact Nat.zero_le _
  · exact Nat.le_of_eq (congrArg List.length h)

/-- Bytes read from inside a chunk, no more than it has left, are the chunk's next bytes. -/
theorem At.got_eq {r : BodyReader} {cur term : Bytes} {l : List Piece} (h : At E r cur term l) (hcur : cur ≠ [])
    {c : WiFiClient} {got : Bytes} (hf : Fwd r.client c got) (hle : got.length ≤ cur.length) :
    got = cur.take got.length := by
  have h1 := h.stream
  rw [hf.bytes, rawFrom, if_neg hcur, List.append_assoc, List.append_assoc] at h1
  have h2 := congrArg (List.take got.length) h1
  rwa [List.take_left' rfl, List.take_append_of_le_length hle] at h2

/-- A read that brings nothing leaves the position as it is. -/
theorem At.nothing {r : BodyReader} {cur term : Bytes} {l : List Piece} (h : At E r cur term l) {c : WiFiClient}
    {p : Bool} (hf : Fwd r.client c []) (hp : p = true → r.peerClosed = true ∨ (c.bytes = [] ∧ c.closed = true)) :
    At E { r with client := c, peerClosed := p } cur term l := by
  have hb : r.client.bytes = c.bytes := by simpa using hf.bytes
  refine ⟨h.chunked, h.live, h.sound, h.left, by rw [← hb]; exact h.stream, hf.closed.trans h.peer, fun hpc => ?_,
    h.passed, h.boundary, h.stop, fun hc => hf.smooth (h.smooth hc)⟩
  rcases hp hpc with h1 | h1
  · rw [← hb]; exact h.gone h1
  · exact ⟨h1.1, h.peer ▸ hf.closed ▸ h1.2⟩

/-- Inside a chunk of a clean stream there is a byte to read. -/
theorem At.bytes_ne {r : BodyReader} {cur term : Bytes} {l : List Piece} (h : At E r cur term l) (hcur : cur ≠ [])
    (hc : E.clean) : r.client.bytes ≠ [] := by
  intro hb
  have h1 := congrArg List.length h.stream
  have h2 : E.miss.length ≤ (E.last ++ crlf ++ E.after).length := E.miss_le hc
  have h3 : 0 < cur.length := List.length_pos_iff.2 hcur
  rw [hb, rawFrom, if_neg hcur] at h1
  simp only [List.nil_append, List.length_append] at h1 h2
  omega

theorem At.ok {r : BodyReader} {cur term : Bytes} {p : Piece} {l : List Piece} (h : At E r cur term (p :: l)) :
    p.Ok E.clean := by
  obtain ⟨pre, hpre, -⟩ := h.passed
  exact E.ok p (by rw [hpre]; simp)

/-- At a boundary every chunk before it was passed. -/
theorem At.passed_nil {r : BodyReader} {term : Bytes} {l : List Piece} (h : At E r [] term l) :
    ∃ pre, E.all = pre ++ l ∧ ∀ q ∈ pre, q.Passed := by
  obtain ⟨pre, hpre, hq⟩ := h.passed
  exact ⟨pre, hpre, fun q hm => (hq q hm).elim id fun e => ⟨e.1.trans (h.boundary rfl), e.2⟩⟩

/-- Opening a chunk at a boundary passes it. -/
theorem At.passed_cons {r : BodyReader} {term : Bytes} {p : Piece} {l : List Piece} (h : At E r [] term (p :: l))
    (hlen : p.line.length ≤ 126) :
    ∃ pre, E.all = pre ++ l ∧ ∀ q ∈ pre, q.Passed ∨ q.term = p.term ∧ q.line.length ≤ 126 := by
  obtain ⟨pre, hpre, hq⟩ := h.passed_nil
  refine ⟨pre ++ [p], by rw [hpre, List.append_assoc]; rfl, fun q hm => ?_⟩
  rcases List.mem_append.1 hm with hm | hm
  · exact Or.inl (hq q hm)
  · obtain rfl : q = p := by simpa using hm
    exact Or.inr ⟨rfl, hlen⟩

namespace BodyReader

/-! ## Lines of a stream -/

/-- On a complete trailer section `skipTrailer` stops right behind its empty line. -/
theorem skipTrailer_clean (rest : Bytes) : ∀ (ts : List Bytes) (n : Nat) (r : BodyReader),
    (∀ t ∈ ts, (t ≠ [] ∧ lf ∉ t) ∧ t.length ≤ 126) → ts.length < n → Smooth r.client →
    r.client.bytes = ts.flatMap (· ++ crlf) ++ crlf ++ rest → (skipTrailer n r).client.bytes = rest
  | [], n + 1, r, _, _, hs, hb => by
    rcases rawLine_cases [] [] (G := rest) r (by simp) (by simpa using hb) with
      ⟨c, e, -, hG, -⟩ | ⟨x, c, p, e, -, -, hn⟩
    · simpa [skipTrailer, e] using hG
    · have := hn hs (Nat.zero_le _); simp at this
  | t :: ts, n + 1, r, ht, hn, hs, hb => by
    obtain ⟨⟨hne, hlf⟩, hlen⟩ := ht t (by simp)
    rcases rawLine_cases [] t (G := ts.flatMap (· ++ crlf) ++ crlf ++ rest) r hlf
        (by simpa using hb) with ⟨c, e, hf, hG, -⟩ | ⟨x, c, p, e, -, -, hx⟩
    · have hle : t.isEmpty = false := by simp [hne]
      rw [show skipTrailer (n + 1) r = skipTrailer n { r with client := c } by simp [skipTrailer, e, hle]]
      exact skipTrailer_clean rest ts n { r with client := c } (fun u hu => ht u (by simp [hu]))
        (by simpa using hn) (hf.smooth hs) (by simpa using hG)
    · have := hx hs (Nat.zero_le _); omega

theorem length_le_trailers : ∀ ts : List Bytes, ts.length ≤ (ts.flatMap (· ++ crlf)).length
  | [] => by simp
  | t :: ts => by
    have := length_le_trailers ts
    simp only [List.flatMap_cons, List.length_append, List.length_cons, crlf] at *
    omega

/-- The size line at a chunk boundary: it is read whole, or the reader stops with a framing error,
or nothing of it ever came and the peer is gone. -/
theorem sizeLine_cases {miss line G : Bytes} (n : Nat) (r : BodyReader) (hne : line ≠ []) (hlf : lf ∉ line)
    (hb : r.client.bytes ++ miss = line ++ crlf ++ G)
    (hp : r.peerClosed = true → r.client.bytes = [] ∧ r.client.closed = true) :
    (∃ c, sizeLine (n + 1) r = (some line, { r with client := c }) ∧ Fwd r.client c (line ++ crlf) ∧
      c.bytes ++ miss = G ∧ line.length ≤ 126) ∨
    (∃ r', sizeLine (n + 1) r = (none, r') ∧ (Smooth r.client → miss.length ≤ G.length → 126 < line.length) ∧
      ((∃ c p, r' = { r with client := c, peerClosed := p, framingError := true }) ∨
       (∃ c, r' = { r with client := c, peerClosed := true } ∧ Fwd r.client c [] ∧ c.bytes = [] ∧
         c.closed = true))) := by
  rcases rawLine_cases miss line r hlf hb with ⟨c, e, hf, hG, hlen⟩ | ⟨x, c, p, e, hf, hpc, hs⟩
  · have hle : line.isEmpty = false := by simp [hne]
    exact Or.inl ⟨c, by simp [sizeLine, e, hle], hf, hG, hlen⟩
  · by_cases hx : (p && x.isEmpty) = true
    · -- closed at the boundary: no byte of the line was there
      obtain ⟨rfl, hx0⟩ : p = true ∧ x = [] := by simpa using hx
      subst hx0
      have hcb : r.client.bytes = c.bytes := by simpa using hf.bytes
      have hgone : c.bytes = [] ∧ c.closed = true := by
        rcases hpc rfl with h | h
        · rw [← hcb, hf.closed]; exact hp h
        · exact h
      exact Or.inr ⟨{ r with client := c, peerClosed := true }, by simp [sizeLine, e], hs,
        Or.inr ⟨c, rfl, hf, hgone⟩⟩
    · refine Or.inr ⟨{ r with client := c, peerClosed := p, framingError := true }, ?_, hs, Or.inl ⟨c, p, rfl⟩⟩
      simp [sizeLine, e, hx]

/-! ## One read at a position -/

theorem rawFrom_nil_cons (term : Bytes) (p : Piece) (l : List Piece) :
    rawFrom E [] term (p :: l) =
      p.line ++ crlf ++ (p.data ++ p.term ++ (rawChunks l ++ (E.last ++ crlf ++ E.after))) := by
  simp [rawFrom, rawChunks]

/-- A stop at a boundary: framing error, or the peer closed exactly there. -/
theorem follow_stop {r r' : BodyReader} {term : Bytes} {l : List Piece} (h : At E r [] term l)
    (hn : E.clean → dataFrom [] l = [] ∧ E.miss ≠ [] ∧ E.closed = false)
    (hs : (∃ c p, r' = { r with client := c, peerClosed := p, framingError := true }) ∨
       (∃ c, r' = { r with client := c, peerClosed := true } ∧ Fwd r.client c [] ∧ c.bytes = [] ∧
         c.closed = true)) : Follow E r' (dataFrom [] l) := by
  rcases hs with ⟨c, p, rfl⟩ | ⟨c, rfl, hf, hc⟩
  · exact .broken rfl h.live hn
  · exact .here (h.nothing hf fun _ => Or.inr hc) rfl

/-- A peer that closed at the boundary is noticed there. -/
theorem openChunk_gone {r : BodyReader} {term : Bytes} {l : List Piece} (h : At E r [] term l)
    (hs : Smooth r.client) (hb : r.client.bytes = []) (hc : r.client.closed = true) :
    r.openChunk = (false, { r with peerClosed := true }) := by
  have hinc : r.client.incoming = [] := by
    cases hi : r.client.incoming with
    | nil => rfl
    | cons e es =>
      cases e with
      | seg b bs => simp [WiFiClient.bytes, hi, WiFiClient.NetEvent.data] at hb
      | stall => simp [Smooth, hi] at hs
  have hg : gone r.client = true := by simp [gone, WiFiClient.connected, WiFiClient.available, hinc, hc]
  have hread : readClientByte r.client = (none, r.client) := by simp only [readClientByte, hinc]
  have hline : r.rawLine = (false, [], { r with peerClosed := true }) := by
    simp only [rawLine, rawLineLoop, rawByte, hread, hg, Bool.or_true]
  have h0 : r.chunkRemaining = 0 := h.left
  simp only [openChunk, h0, if_true, nextChunk, sizeLine, hline, List.isEmpty_nil, Bool.and_self]

/-- `openChunk` inside a chunk does nothing; at a boundary it reads the next size line. -/
theorem openChunk_cases {r : BodyReader} {cur term : Bytes} {l : List Piece} (h : At E r cur term l) :
    (∃ r' cur' term' l', r.openChunk = (true, r') ∧ cur' ≠ [] ∧ dataFrom cur' l' = dataFrom cur l ∧
      At E r' cur' term' l') ∨
    (∃ r', r.openChunk = (false, r') ∧ Follow E r' (dataFrom cur l) ∧
      (E.clean → dataFrom cur l = [] ∧ (E.miss = [] → r'.done = true))) := by
  by_cases hc : cur = []
  · subst hc
    have h0 : r.chunkRemaining = 0 := h.left
    match l, h with
    | p :: l, h =>
      obtain ⟨hsz, hdn, hln, hlf, hterm, hlen⟩ := h.ok
      have hst := h.stream
      rw [rawFrom_nil_cons] at hst
      rcases sizeLine_cases r.client.size r hln hlf hst (fun hp => h.peer ▸ h.gone hp)
        with ⟨c, e, hf, hG, hl126⟩ | ⟨r', e, hs, hstop⟩
      · obtain ⟨k, hk⟩ : ∃ k, p.data.length = k + 1 :=
          Nat.exists_eq_succ_of_ne_zero (by simpa using hdn)
        refine Or.inl ⟨{ r with client := c, chunkRemaining := p.data.length }, p.data, p.term, l, ?_, hdn,
          by simp [dataFrom], ?_⟩
        · simp [openChunk, h0, nextChunk, e, hsz, hk]
        · refine ⟨h.chunked, h.live, h.sound, rfl, ?_, hf.closed.trans h.peer, fun hp => ?_, h.passed_cons hl126,
            fun hd => absurd hd hdn, hterm hl126, fun hk => hf.smooth (h.smooth hk)⟩
          · simpa [rawFrom, hdn] using hG
          · have := (h.gone hp).1
            rw [hf.bytes] at this
            simp [hln] at this
      · have hn : ¬E.clean := fun hk => by
          have h1 := E.miss_le hk
          have := hs (h.smooth hk) (by simp only [List.length_append] at h1 ⊢; omega)
          have := hlen hk
          omega
        exact Or.inr ⟨r', by simp [openChunk, h0, nextChunk, e], follow_stop h (fun hk => absurd hk hn) hstop,
          fun hk => absurd hk hn⟩
    | [], h =>
      have hst : r.client.bytes ++ E.miss = E.last ++ crlf ++ E.after := by simpa [rawFrom, rawChunks] using h.stream
      rcases sizeLine_cases r.client.size r E.last_ne E.last_lf hst (fun hp => h.peer ▸ h.gone hp) with
        ⟨c, e, hf, hG, -⟩ | ⟨r', e, hs, hstop⟩
      · obtain ⟨c', p', x, e', hf'⟩ := skipTrailer_fwd (c.size + 1) { r with client := c }
        have hopen : r.openChunk = (false, { r with client := c', peerClosed := p', done := true }) := by
          have hnext : r.nextChunk =
              (false, { skipTrailer (c.size + 1) { r with client := c } with done := true }) := by
            simp only [nextChunk, e, E.size]
          rw [openChunk, if_pos h0, hnext, e']
        have hpass : ∀ q ∈ E.all, q.Passed := by
          obtain ⟨pre, hpre, hq⟩ := h.passed_nil
          rwa [hpre, List.append_nil]
        refine Or.inr ⟨_, hopen, .ended ⟨h.chunked, rfl, h.sound, hpass, ⟨x, ?_⟩, fun hk hm => ?_⟩ rfl,
          fun _ => ⟨rfl, fun _ => rfl⟩⟩
        · rw [← List.append_assoc, ← hf'.bytes]; exact hG
        · obtain ⟨-, hts⟩ := E.short hk
          have hb : c.bytes = E.after := by simpa [hm] using hG
          have hlen : E.trailers.length ≤ c.size := by
            have h1 := length_le_trailers E.trailers
            have h2 : c.size = E.after.length + c.incoming.length := by rw [← hb]; rfl
            simp only [Ending.after, List.length_append] at h2
            omega
          have := skipTrailer_clean E.rest E.trailers (c.size + 1) { r with client := c }
            (fun t ht => ⟨E.trailers_ok t ht, hts t ht⟩) (by omega) (hf.smooth (h.smooth hk)) hb
          rwa [e'] at this
      · by_cases hg : r.client.bytes = [] ∧ E.closed = true ∧ Smooth r.client
        · obtain ⟨hnil, hcl, hsm⟩ := hg
          refine Or.inr ⟨_, openChunk_gone h hsm hnil (h.peer.trans hcl),
            .here (h.nothing (Fwd.refl _) fun _ => Or.inr ⟨hnil, h.peer.trans hcl⟩) rfl, fun hk => ⟨rfl, fun hm => ?_⟩⟩
          rw [hnil, hm] at hst
          simp [E.last_ne] at hst
        · -- the size line is cut short: of a clean stream nothing of it is there
          have hmiss : E.clean → E.miss ≠ [] := by
            intro hk hm
            have h1 := hs (h.smooth hk) (by rw [hm]; exact Nat.zero_le _)
            have h2 := (E.short hk).1
            omega
          have hn : E.clean → dataFrom [] ([] : List Piece) = [] ∧ E.miss ≠ [] ∧ E.closed = false := by
            intro hk
            refine ⟨rfl, hmiss hk, ?_⟩
            have hnil : r.client.bytes = [] := by
              have h1 := (E.arrived hk).resolve_left (hmiss hk)
              rw [h1] at hst
              exact List.append_left_eq_self.1 hst
            by_contra hcl
            exact hg ⟨hnil, by simpa using hcl, h.smooth hk⟩
          exact Or.inr ⟨r', by simp [openChunk, h0, nextChunk, e], follow_stop h hn hstop,
            fun hk => ⟨rfl, fun hm => absurd hm (hmiss hk)⟩⟩
  · have h0 : r.chunkRemaining ≠ 0 := by rw [h.left]; simpa using hc
    exact Or.inl ⟨r, cur, term, l, by simp [openChunk, h0], hc, rfl, h⟩

theorem readCrlf_cases {miss G : Bytes} (r : BodyReader) (hb : r.client.bytes ++ miss = crlf ++ G) :
    (∃ c, r.readCrlf = (true, { r with client := c }) ∧ Fwd r.client c crlf ∧ c.bytes ++ miss = G) ∨
    (∃ c p, r.readCrlf = (false, { r with client := c, peerClosed := p }) ∧
      (Smooth r.client → G.length < miss.length)) := by
  have short : ∀ {c : WiFiClient} {y : Bytes}, c.bytes ++ miss = y ++ G → y ≠ [] → c.bytes = [] →
      G.length < miss.length := by
    intro c y h hy hc
    have h1 := congrArg List.length h
    have h2 := List.length_pos_iff.2 hy
    rw [hc] at h1
    simp only [List.nil_append, List.length_append] at h1
    omega
  rcases r.rawByte_cases with ⟨a, c, e, hf⟩ | ⟨c, p, e, hf, hs, -⟩
  · have hb' : a :: (c.bytes ++ miss) = cr :: lf :: G := by simpa [hf.bytes, crlf] using hb
    obtain ⟨rfl, hlf⟩ := List.cons.inj hb'
    rcases rawByte_cases { r with client := c } with ⟨b, c', e', hf'⟩ | ⟨c', p, e', hf', hs', -⟩
    · have hb'' : b :: (c'.bytes ++ miss) = lf :: G := by rw [← hlf, hf'.bytes]; simp
      obtain ⟨rfl, hG⟩ := List.cons.inj hb''
      exact Or.inl ⟨c', by simp [readCrlf, e, e'], hf.trans hf', hG⟩
    · exact Or.inr ⟨c', p, by simp [readCrlf, e, e'],
        fun h => short (y := [lf]) hlf (by simp) (hs' (hf.smooth h))⟩
  · exact Or.inr ⟨c, p, by simp [readCrlf, e], fun h => short hb (by simp [crlf]) (hs h)⟩

/-- Anything but CR LF behind the data fails. -/
theorem readCrlf_bad {miss x : Bytes} {a b : UInt8} (r : BodyReader) (hb : r.client.bytes ++ miss = a :: b :: x)
    (hn : ¬(a = cr ∧ b = lf)) : ∃ c p, r.readCrlf = (false, { r with client := c, peerClosed := p }) := by
  rcases r.rawByte_cases with ⟨a', c, e, hf⟩ | ⟨c, p, e, -, -, -⟩
  · have hb' : a' :: (c.bytes ++ miss) = a :: b :: x := by rw [← hb, hf.bytes]; rfl
    obtain ⟨rfl, hx⟩ := List.cons.inj hb'
    rcases rawByte_cases { r with client := c } with ⟨b', c', e', hf'⟩ | ⟨c', p, e', -, -, -⟩
    · have hb'' : b' :: (c'.bytes ++ miss) = b :: x := by rw [← hx, hf'.bytes]; rfl
      obtain ⟨rfl, -⟩ := List.cons.inj hb''
      exact ⟨c', r.peerClosed, by simpa [readCrlf, e, e'] using hn⟩
    · exact ⟨c', p, by simp [readCrlf, e, e']⟩
  · exact ⟨c, p, by simp [readCrlf, e]⟩

/-- After `k` bytes of a chunk's data the reader stands `k` bytes further; with the last one it
also consumes the chunk's CRLF. -/
theorem endData_cases {r : BodyReader} {cur term : Bytes} {l : List Piece} (h : At E r cur term l)
    {c : WiFiClient} {k : Nat} (hk : 0 < k) (hkc : k ≤ cur.length) (hf : Fwd r.client c (cur.take k)) :
    (∃ r', endData { r with client := c } k = (true, r') ∧ At E r' (cur.drop k) term l) ∨
    (∃ r', endData { r with client := c } k = (false, r') ∧ r'.framingError = true ∧ r'.done = false ∧ ¬E.clean) := by
  have hcur : cur ≠ [] := by rintro rfl; simp at hkc; omega
  have hst : c.bytes ++ E.miss = cur.drop k ++ (term ++ (rawChunks l ++ (E.last ++ crlf ++ E.after))) := by
    have h1 := h.stream
    rw [hf.bytes, rawFrom, if_neg hcur] at h1
    have h2 : cur.take k ++ (c.bytes ++ E.miss) =
        cur.take k ++ (cur.drop k ++ (term ++ (rawChunks l ++ (E.last ++ crlf ++ E.after)))) := by
      rw [← List.append_assoc, h1, ← List.append_assoc (cur.take k), List.take_append_drop, List.append_assoc]
    exact List.append_cancel_left h2
  have hopen : r.peerClosed = false := by
    cases hp : r.peerClosed with
    | false => rfl
    | true =>
      have h1 := (h.gone hp).1
      rw [hf.bytes, List.append_eq_nil_iff, List.take_eq_nil_iff] at h1
      rcases h1.1 with h1 | h1
      · omega
      · exact absurd h1 hcur
  by_cases hlast : r.chunkRemaining - k = 0
  · have hd : cur.drop k = [] := by rw [List.drop_eq_nil_iff]; have := h.left; omega
    rw [hd, List.nil_append] at hst
    rcases h.stop with hterm | ⟨hn, a, b, x, hterm, hab⟩
    · rw [hterm] at hst
      rcases readCrlf_cases { r with client := c, chunkRemaining := 0 } hst with ⟨c', e, hf', hG⟩ | ⟨c', p, e, hs⟩
      · refine Or.inl ⟨{ r with client := c', chunkRemaining := 0 }, by simp [endData, hlast, e], ?_⟩
        rw [hd]
        exact ⟨h.chunked, h.live, h.sound, rfl, by simpa [rawFrom] using hG,
          (hf'.closed.trans hf.closed).trans h.peer, fun hp => by simp [hopen] at hp,
          h.passed, fun _ => hterm, h.stop, fun hc => hf'.smooth (hf.smooth (h.smooth hc))⟩
      · refine Or.inr ⟨{ r with client := c', peerClosed := p, chunkRemaining := 0, framingError := true },
          by simp [endData, hlast, e], rfl, h.live, fun hc => ?_⟩
        have h1 := hs (hf.smooth (h.smooth hc))
        have h2 := E.miss_le hc
        rw [List.length_append] at h1
        omega
    · rw [hterm] at hst
      obtain ⟨c', p, e⟩ := readCrlf_bad { r with client := c, chunkRemaining := 0 } hst hab
      exact Or.inr ⟨{ r with client := c', peerClosed := p, chunkRemaining := 0, framingError := true },
        by simp [endData, hlast, e], rfl, h.live, hn⟩
  · have hd : cur.drop k ≠ [] := by rw [Ne, List.drop_eq_nil_iff]; have := h.left; omega
    refine Or.inl ⟨{ r with client := c, chunkRemaining := r.chunkRemaining - k }, by simp [endData, hlast], ?_⟩
    refine ⟨h.chunked, h.live, h.sound, by simp [h.left], ?_, hf.closed.trans h.peer,
      fun hp => by simp [hopen] at hp, h.passed,
      fun hd' => absurd hd' hd, h.stop, fun hc => hf.smooth (h.smooth hc)⟩
    rw [rawFrom, if_neg hd, List.append_assoc]
    exact hst

/-! ## `readByte` and `readBlock` -/

/-- `readByte` returns the next body byte or nothing; on a clean stream nothing means the end. -/
theorem readByte_follow {r : BodyReader} {left : Bytes} (h : Follow E r left) :
    (∃ b r' left', r.readByte = (some b, r') ∧ left = b :: left' ∧ Follow E r' left') ∨
    (∃ r', r.readByte = (none, r') ∧ Follow E r' left ∧
      (E.clean → left = [] ∧ (E.miss = [] → r'.done = true))) := by
  cases h with
  | ended h hl =>
    exact Or.inr ⟨r, by simp [readByte, h.done], .ended h hl, fun _ => ⟨hl, fun _ => h.done⟩⟩
  | broken h hd hn =>
    exact Or.inr ⟨r, by simp [readByte, h], .broken h hd hn, fun hc => ⟨(hn hc).1, fun hm => absurd hm (hn hc).2.1⟩⟩
  | fixed h =>
    by_cases hd : r.done = true
    · exact Or.inr ⟨r, by simp [readByte, hd], .fixed h, fun _ => ⟨h.done hd, fun _ => hd⟩⟩
    have hd' : r.done = false := by simpa using hd
    match left, h with
    | [], h =>
      have h0 : r.remaining = 0 := by simpa using h.remaining
      exact Or.inr ⟨{ r with done := true }, by simp [readByte, hd', h.sound, h.chunked, h0],
        .fixed ⟨h.chunked, h.sound, fun _ => rfl, h.remaining, h.stream, h.smooth, h.whole⟩,
        fun _ => ⟨rfl, fun _ => rfl⟩⟩
    | b :: left, h =>
      have hr : r.remaining = left.length + 1 := by simpa using h.remaining
      have h0 : r.remaining ≠ 0 := by omega
      have hpos : 0 < r.remaining := by omega
      rcases r.rawByte_cases with ⟨a, c, e, hf⟩ | ⟨c, p, e, hf, hs, -⟩
      · have hst : a :: (c.bytes ++ E.miss) = b :: (left ++ E.rest) := by simpa [hf.bytes] using h.stream
        obtain ⟨rfl, hst'⟩ := List.cons.inj hst
        have hl : r.remaining - 1 = left.length := by omega
        refine Or.inl ⟨a, { r with client := c, remaining := left.length, done := decide ((left.length : Int) = 0) },
          left, by simp [readByte, hd', h.sound, h.chunked, h0, e, hpos, hl], rfl, .fixed ?_⟩
        exact ⟨h.chunked, h.sound, fun h1 => by simpa using h1, rfl, hst', fun hc => hf.smooth (h.smooth hc), h.whole⟩
      · have hb : r.client.bytes = c.bytes := by simpa using hf.bytes
        refine Or.inr ⟨{ r with client := c, peerClosed := p }, ?_, .fixed ?_, fun hc => ?_⟩
        · simp [readByte, hd', h.sound, h.chunked, h0, e]
        · exact ⟨h.chunked, h.sound, h.done, h.remaining, by rw [← hb]; exact h.stream,
            fun hc => hf.smooth (h.smooth hc), h.whole⟩
        · have h1 := h.stream
          rw [hs (h.smooth hc), h.whole hc] at h1
          simp at h1
  | here h hl =>
    subst hl
    rcases openChunk_cases h with ⟨r1, cur, term, l, e1, hcur, hd, h1⟩ | ⟨r1, e1, hf, hc⟩
    · rw [← hd]
      obtain ⟨d, cur', rfl⟩ := List.exists_cons_of_ne_nil hcur
      rcases r1.rawByte_cases with ⟨b, c, e, hf⟩ | ⟨c, p, e, hf, hs, hp⟩
      · have hb : [b] = [d] := h1.got_eq hcur hf (by simp)
        obtain rfl : b = d := by simpa using hb
        rcases endData_cases h1 Nat.one_pos (by simp) (by simpa using hf) with ⟨r2, e2, h2⟩ | ⟨r2, e2, hfe, hdn, hn⟩
        · refine Or.inl ⟨b, r2, dataFrom cur' l, ?_, by simp [dataFrom], .here (by simpa using h2) rfl⟩
          simp [readByte, h.live, h.sound, h.chunked, e1, e, e2]
        · refine Or.inr ⟨r2, ?_, .broken hfe hdn fun hc => absurd hc hn, fun hc => absurd hc hn⟩
          simp [readByte, h.live, h.sound, h.chunked, e1, e, e2]
      · refine Or.inr ⟨_, ?_, .here (h1.nothing hf hp) rfl, fun hc => absurd (hs (h1.smooth hc)) (h1.bytes_ne hcur hc)⟩
        simp [readByte, h.live, h.sound, h.chunked, e1, e]
    · exact Or.inr ⟨r1, by simp [readByte, h.live, h.sound, h.chunked, e1], hf, hc⟩

/-- One turn of the chunked block loop, or its end. The induction is on the loop's fuel. -/
theorem blockLoop_follow (capacity : Nat) : ∀ (n : Nat) (out : Bytes) (r : BodyReader) (left : Bytes),
    r.chunked = true → Follow E r left →
    ∃ more left' r', blockLoop capacity n out r = (out ++ more, r') ∧ left = more ++ left' ∧ Follow E r' left' ∧
      (E.clean → 0 < n → out.length < capacity →
        (left ≠ [] → more ≠ []) ∧ (left = [] → E.miss = [] → r'.done = true))
  | 0, out, r, left, hch, h => ⟨[], left, r, by simp [blockLoop], rfl, h, fun _ h0 => absurd h0 (by omega)⟩
  | n + 1, out, r, left, hch, h => by
    have stay : (out.length < capacity && !r.done && !r.framingError) = false →
        blockLoop capacity (n + 1) out r = (out ++ [], r) := by
      intro hg; simp [blockLoop, hg]
    by_cases hcap : out.length < capacity
    · cases h with
      | ended h hl =>
        exact ⟨[], left, r, stay (by simp [h.done]), rfl, .ended h hl,
          fun _ _ _ => ⟨fun hne => absurd hl hne, fun _ _ => h.done⟩⟩
      | broken h hd hn =>
        exact ⟨[], left, r, stay (by simp [h]), rfl, .broken h hd hn,
          fun hc _ _ => ⟨fun hne => absurd (hn hc).1 hne, fun _ hm => absurd hm (hn hc).2.1⟩⟩
      | fixed h => rw [h.chunked.1] at hch; cases hch
      | here h hl =>
        subst hl
        have hg : (decide (out.length < capacity) && !r.done && !r.framingError) = true := by
          simp [hcap, h.live, h.sound]
        rcases openChunk_cases h with ⟨r1, cur, term, l, e1, hcur, hd, h1⟩ | ⟨r1, e1, hf, hc⟩
        · rw [← hd]
          have hk : 0 < min r1.chunkRemaining (capacity - out.length) := by
            have h2 := h1.left
            have h3 : 0 < cur.length := List.length_pos_iff.2 hcur
            omega
          rcases readClientBlock_cases r1.client hk with ⟨got, c, e, hgot, hle, hf⟩ | ⟨c, e, hf, hs⟩
          · have hlen : got.length ≤ cur.length := by have h2 := h1.left; omega
            have heq := h1.got_eq hcur hf hlen
            have hdrop : dataFrom cur l = got ++ dataFrom (cur.drop got.length) l := by
              simp only [dataFrom, ← List.append_assoc]
              congr 1
              conv_rhs => rw [heq]
              simp [Nat.min_eq_left hlen]
            obtain ⟨g, gs, rfl⟩ := List.exists_cons_of_ne_nil hgot
            rcases endData_cases h1 (List.length_pos_iff.2 hgot) hlen (heq ▸ hf) with ⟨r2, e2, h2⟩ | ⟨r2, e2, hfe, hdn, hn⟩
            · obtain ⟨more, left', r3, e3, hl3, h3, -⟩ :=
                blockLoop_follow capacity n (out ++ g :: gs) r2 _ h2.chunked.1 (.here h2 rfl)
              refine ⟨g :: gs ++ more, left', r3, ?_, ?_, h3, fun _ _ _ => ⟨by simp, fun hnil => ?_⟩⟩
              · simp only [blockLoop, hg, if_true, e1, e, e2, e3, List.append_assoc]
              · rw [List.append_assoc, ← hl3]; exact hdrop
              · simp [dataFrom, hcur] at hnil
            · exact ⟨g :: gs, dataFrom (cur.drop (g :: gs).length) l, r2,
                by simp only [blockLoop, hg, if_true, e1, e, e2], hdrop, .broken hfe hdn fun hc => absurd hc hn,
                fun hc => absurd hc hn⟩
          · refine ⟨[], dataFrom cur l, { r1 with client := c, peerClosed := r1.peerClosed || gone c },
              by simp only [blockLoop, hg, if_true, e1, e, List.append_nil], rfl,
              .here (h1.nothing hf fun hp => ?_) rfl, fun hc => absurd (hs (h1.smooth hc)) (h1.bytes_ne hcur hc)⟩
            rcases Bool.or_eq_true _ _ ▸ hp with hp | hp
            · exact Or.inl hp
            · exact Or.inr (of_gone hp)
        · exact ⟨[], dataFrom _ _, r1, by simp only [blockLoop, hg, if_true, e1, List.append_nil], rfl, hf,
            fun hk _ _ => ⟨fun hne => absurd (hc hk).1 hne, fun _ => (hc hk).2⟩⟩
    · exact ⟨[], left, r, stay (by simp [hcap]), rfl, h, fun _ _ h2 => absurd h2 hcap⟩

/-- `readBlock` returns the next body bytes, at most `capacity` of them; on a clean stream it makes
progress, or finds the end. -/
theorem readBlock_follow {r : BodyReader} {left : Bytes} (h : Follow E r left) {capacity : Nat} (hcap : 0 < capacity) :
    ∃ out left' r', r.readBlock capacity = (out, r') ∧ left = out ++ left' ∧ Follow E r' left' ∧
      (E.clean → (left ≠ [] → out ≠ []) ∧ (left = [] → E.miss = [] → r'.done = true)) := by
  have hc0 : capacity ≠ 0 := by omega
  cases hch : r.chunked with
  | true =>
    by_cases hg : (r.done || r.framingError) = true
    · refine ⟨[], left, r, ?_, rfl, h, fun hc => ⟨fun hne => ?_, fun _ hm => ?_⟩⟩
      · rcases Bool.or_eq_true _ _ ▸ hg with hg | hg <;> simp [readBlock, hg]
      · exact absurd (h.left_nil_of_stop hc hg) hne
      · simpa [h.no_error hc (Or.inl hm)] using hg
    · obtain ⟨more, left', r', e, hl, hf, hc⟩ := blockLoop_follow capacity capacity [] r left hch h
      have hg' : r.done = false ∧ r.framingError = false := by simpa using hg
      exact ⟨more, left', r', by simpa [readBlock, hc0, hg', hch] using e, hl, hf, fun hk => hc hk hcap hcap⟩
  | false =>
    cases h with
    | here h _ => rw [h.chunked.1] at hch; cases hch
    | ended h _ => rw [h.chunked.1] at hch; cases hch
    | broken h hd hn =>
      exact ⟨[], left, r, by simp [readBlock, h], rfl, .broken h hd hn,
        fun hc => ⟨fun hne => absurd (hn hc).1 hne, fun _ hm => absurd hm (hn hc).2.1⟩⟩
    | fixed h =>
      by_cases hd : r.done = true
      · exact ⟨[], left, r, by simp [readBlock, hd], rfl, .fixed h,
          fun _ => ⟨fun hne => absurd (h.done hd) hne, fun _ _ => hd⟩⟩
      have hd' : r.done = false := by simpa using hd
      by_cases hl : left = []
      · subst hl
        have h0 : r.remaining = 0 := by simpa using h.remaining
        exact ⟨[], [], { r with done := true }, by simp [readBlock, hc0, hd', h.sound, hch, h0], rfl,
          .fixed ⟨h.chunked, h.sound, fun _ => rfl, h.remaining, h.stream, h.smooth, h.whole⟩,
          fun _ => ⟨fun hne => absurd rfl hne, fun _ _ => rfl⟩⟩
      have hlen : 0 < left.length := List.length_pos_iff.2 hl
      have hpos : 0 < r.remaining := by rw [h.remaining]; omega
      have h0 : r.remaining ≠ 0 := by omega
      have hnat : r.remaining.toNat = left.length := by rw [h.remaining]; rfl
      have hk : 0 < min capacity r.remaining.toNat := by rw [hnat]; omega
      rcases readClientBlock_cases r.client hk with ⟨got, c, e, hgot, hle, hf⟩ | ⟨c, e, hf, hs⟩
      · have hgl : got.length ≤ left.length := by omega
        have hst : got ++ (c.bytes ++ E.miss) = left ++ E.rest := by
          rw [← List.append_assoc, ← hf.bytes]; exact h.stream
        obtain ⟨left', rfl⟩ : ∃ left', left = got ++ left' := by
          have h1 := congrArg (List.take got.length) hst
          rw [List.take_left' rfl, List.take_append_of_le_length hgl] at h1
          exact ⟨left.drop got.length, by conv_lhs => rw [← List.take_append_drop got.length left, ← h1]⟩
        rw [List.append_assoc] at hst
        have hst' := List.append_cancel_left hst
        have hrem : r.remaining - got.length = left'.length := by
          rw [h.remaining, List.length_append]; omega
        obtain ⟨g, gs, rfl⟩ := List.exists_cons_of_ne_nil hgot
        refine ⟨g :: gs, left', { r with client := c, remaining := left'.length, done := decide ((left'.length : Int) = 0) },
          ?_, rfl,
          .fixed ⟨h.chunked, h.sound, fun h1 => by simpa using h1, rfl, hst', fun hc => hf.smooth (h.smooth hc), h.whole⟩,
          fun _ => ⟨fun _ => by simp, fun hnil => by simp at hnil⟩⟩
        simp only [readBlock, hc0, hd', h.sound, hch, h0, hpos, e, hrem, decide_false, Bool.or_self,
          Bool.false_eq_true, if_false, if_true, Bool.not_false]
      · have hb : r.client.bytes = c.bytes := by simpa using hf.bytes
        have hn : ¬E.clean := fun hc => by
          have h1 := h.stream
          rw [hs (h.smooth hc), h.whole hc] at h1
          simp [hl] at h1
        have hst : c.bytes ++ E.miss = left ++ E.rest := by rw [← hb]; exact h.stream
        have hneg : ¬r.remaining < 0 := by omega
        refine ⟨[], left, if gone c then { r with client := c, peerClosed := true } else { r with client := c }, ?_, rfl, ?_,
          fun hc => absurd hc hn⟩
        · by_cases hgo : gone c = true <;> simp [readBlock, hc0, hd', h.sound, hch, h0, hpos, e, hgo, hneg]
        · by_cases hgo : gone c = true <;> simp only [hgo, if_true, Bool.false_eq_true, if_false] <;>
            exact .fixed ⟨h.chunked, h.sound, h.done, h.remaining, hst, fun hc => absurd hc hn, h.whole⟩

/-! ## Any sequence of reads -/

/-- `k` calls of `readByte`. -/
def readBytes : Nat → BodyReader → Bytes × BodyReader
  | 0, r => ([], r)
  | k + 1, r =>
    match r.readByte with
    | (some b, r) => let p := readBytes k r; (b :: p.1, p.2)
    | (none, r) => readBytes k r

/-- One `readBlock` call for every capacity. -/
def readBlocks : List Nat → BodyReader → Bytes × BodyReader
  | [], r => ([], r)
  | c :: cs, r =>
    match r.readBlock c with
    | (out, r) => let p := readBlocks cs r; (out ++ p.1, p.2)

/-- How IPP requests are read: headers and attributes byte by byte, then the document in blocks. -/
def decode (r : BodyReader) (k : Nat) (caps : List Nat) : Bytes × BodyReader :=
  let p := readBytes k r
  let q := readBlocks caps p.2
  (p.1 ++ q.1, q.2)

/-- Every call on a clean stream returns something or has found the end. -/
theorem readBytes_follow (hc : E.clean) (hm : E.miss = []) : ∀ (k : Nat) (r : BodyReader) (left : Bytes), Follow E r left →
    ∃ left', left = (readBytes k r).1 ++ left' ∧ Follow E (readBytes k r).2 left' ∧
      ((readBytes k r).2.done = true ∨ left'.length + k ≤ left.length)
  | 0, r, left, h => ⟨left, by simp [readBytes], h, Or.inr (Nat.le_refl _)⟩
  | k + 1, r, left, h => by
    rcases readByte_follow h with ⟨b, r1, left1, e, rfl, h1⟩ | ⟨r1, e, h1, hend⟩
    · obtain ⟨left', hl, hf, hp⟩ := readBytes_follow hc hm k r1 left1 h1
      simp only [readBytes, e]
      refine ⟨left', by simp [← hl], hf, hp.imp_right fun hp => by simp; omega⟩
    · obtain ⟨hnil, hd⟩ := hend hc
      obtain ⟨left', hl, hf, hp⟩ := readBytes_follow hc hm k r1 left h1
      simp only [readBytes, e]
      refine ⟨left', hl, hf, Or.inl ?_⟩
      subst hnil
      rcases hp with hp | hp
      · exact hp
      · obtain rfl : k = 0 := by simp at hp; omega
        simpa [readBytes] using hd hm

theorem readBlocks_follow (hc : E.clean) (hm : E.miss = []) : ∀ (cs : List Nat) (r : BodyReader) (left : Bytes),
    (∀ x ∈ cs, 0 < x) → Follow E r left →
    ∃ left', left = (readBlocks cs r).1 ++ left' ∧ Follow E (readBlocks cs r).2 left' ∧
      ((readBlocks cs r).2.done = true ∨ left'.length + cs.length ≤ left.length)
  | [], r, left, _, h => ⟨left, by simp [readBlocks], h, Or.inr (Nat.le_refl _)⟩
  | c :: cs, r, left, hcs, h => by
    obtain ⟨out, left1, r1, e, rfl, h1, hprog⟩ := readBlock_follow h (hcs c (by simp))
    obtain ⟨left', hl, hf, hp⟩ := readBlocks_follow hc hm cs r1 left1 (fun x hx => hcs x (by simp [hx])) h1
    simp only [readBlocks, e]
    refine ⟨left', by rw [List.append_assoc, ← hl], hf, ?_⟩
    rcases hp with hp | hp
    · exact Or.inl hp
    · by_cases hnil : out ++ left1 = []
      · -- nothing was left: this call found the end
        obtain ⟨rfl, rfl⟩ := List.append_eq_nil_iff.1 hnil
        obtain rfl : cs = [] := by
          rw [List.length_nil] at hp
          exact List.length_eq_zero_iff.1 (by omega)
        exact Or.inl (by simpa [readBlocks] using (hprog hc).2 rfl hm)
      · have := List.length_pos_iff.2 ((hprog hc).1 hnil)
        refine Or.inr ?_
        simp only [List.length_append, List.length_cons]
        omega

end BodyReader
/-! ## The two framings -/

/-- A request body as it is sent: with a Content-Length, or chunked. -/
inductive Framing where
  | length (body : Bytes)
  | chunked (body : ChunkedBody)

def Framing.data : Framing → Bytes
  | .length body => body
  | .chunked body => body.data

def Framing.encode : Framing → Bytes
  | .length body => body
  | .chunked body => body.encode

/-- The reader `handleClient` sets up for it (:956-958). `toInt` stops where a 32-bit `long` ends. -/
def Framing.reader (f : Framing) (c : WiFiClient) : BodyReader :=
  match f with
  | .length body => { client := c, chunked := false, remaining := (min body.length (2 ^ 31 - 1) : Nat) }
  | .chunked _ => { client := c, chunked := true, remaining := -1 }

/-- Size and trailer lines fit `rawLine`'s buffer, and sizes fit 32 bits. -/
def Framing.Short : Framing → Prop
  | .length _ => True
  | .chunked b => (∀ c ∈ b.chunks, c.line.length ≤ 126 ∧ c.data.length < 2 ^ 32) ∧
      b.last.line.length ≤ 126 ∧ ∀ t ∈ b.last.trailers, t.length ≤ 126

/-- `toInt` can tell the Content-Length. -/
def Framing.Sized : Framing → Prop
  | .length body => body.length < 2 ^ 31
  | .chunked _ => True

/-- What the reader takes for the body. -/
def Framing.seen : Framing → Bytes
  | .length body => body.take (2 ^ 31 - 1)
  | .chunked body => body.data

theorem Framing.Sized.seen_eq {f : Framing} (hz : f.Sized) : f.seen = f.data := by
  cases f with
  | length body => exact List.take_of_length_le (Nat.le_pred_of_lt hz)
  | chunked _ => rfl

theorem Framing.seen_lt {f : Framing} (hz : ¬f.Sized) : f.seen.length < f.data.length := by
  cases f with
  | length body =>
    have hge : 2 ^ 31 ≤ body.length := Nat.le_of_not_lt hz
    rw [Framing.seen, Framing.data, List.length_take]
    omega
  | chunked _ => exact absurd trivial hz

theorem Chunk.parse_size (c : Chunk) (h : c.data.length < 2 ^ 32) : parseChunkSize c.line = some c.data.length := by
  rw [Chunk.line, parseChunkSize_line c.hex c.digits_ne c.ext_ok, c.size, if_neg (by omega)]

theorem Chunk.line_ne (c : Chunk) : c.line ≠ [] := by simp [Chunk.line, c.digits_ne]
theorem Chunk.line_lf (c : Chunk) : lf ∉ c.line := line_no_lf c.hex c.ext_ok

/-- The end of a stream whose last chunk is `l`, seen in the pieces `all`. -/
def Ending.ofLast (l : LastChunk) (rest miss : Bytes) (closed : Bool) (all : List Piece) (clean : Prop)
    (ha : clean → miss = [] ∨ miss = l.line ++ crlf ++ (l.trailers.flatMap (· ++ crlf) ++ crlf ++ rest))
    (hs : clean → l.line.length ≤ 126 ∧ ∀ t ∈ l.trailers, t.length ≤ 126) (hok : ∀ p ∈ all, p.Ok clean) : Ending where
  chunked := true
  all := all
  last := l.line
  trailers := l.trailers
  rest := rest
  miss := miss
  closed := closed
  clean := clean
  size := by rw [LastChunk.line, parseChunkSize_line l.hex l.digits_ne l.ext_ok, l.size]; rfl
  last_ne := by simp [LastChunk.line, l.digits_ne]
  last_lf := line_no_lf l.hex l.ext_ok
  trailers_ok := l.trailers_ok
  arrived := ha
  short := hs
  ok := hok

theorem zeroSize_ne : ([48] : Bytes) ≠ [] := by decide

theorem noTrailers_ok : ∀ t ∈ ([] : List Bytes), t ≠ [] ∧ lf ∉ t := by simp

/-- The end of a stream with a Content-Length; the chunked fields play no part. -/
def Ending.ofLength (rest miss : Bytes) (closed : Bool) (clean : Prop) (hw : clean → miss = []) : Ending where
  chunked := false
  all := []
  last := [48]
  trailers := []
  rest := rest
  miss := miss
  closed := closed
  clean := clean
  size := by decide
  last_ne := zeroSize_ne
  last_lf := by decide
  trailers_ok := noTrailers_ok
  arrived := fun hc => Or.inl (hw hc)
  short := fun _ => by simp
  ok := by simp

/-- A chunk whose size `strtoul` can tell. -/
def Chunk.piece (c : Chunk) : Piece := ⟨c.line, c.data, crlf⟩

theorem rawChunks_pieces (cs : List Chunk) : rawChunks (cs.map Chunk.piece) = cs.flatMap Chunk.encode := by
  simp only [rawChunks, List.flatMap_map]; rfl

theorem data_pieces (cs : List Chunk) : (cs.map Chunk.piece).flatMap Piece.data = cs.flatMap Chunk.data := by
  simp [List.flatMap_map, Chunk.piece]

theorem Chunk.piece_ok {clean : Prop} (c : Chunk) (hsz : c.data.length < 2 ^ 32)
    (hln : clean → c.line.length ≤ 126) : c.piece.Ok clean :=
  ⟨c.parse_size hsz, c.data_ne, c.line_ne, c.line_lf, fun _ => Or.inl rfl, hln⟩

/-- The reader of a complete body starts out following what it takes for the body. -/
theorem Framing.follow (f : Framing) (hf : f.Short) (c : WiFiClient) (rest : Bytes) (hs : Smooth c)
    (hb : c.bytes = f.encode ++ rest) :
    ∃ E : Ending, E.clean ∧ E.miss = [] ∧ E.rest = f.data.drop f.seen.length ++ rest ∧ Follow E (f.reader c) f.seen := by
  cases f with
  | length body =>
    have hcut : body.take (2 ^ 31 - 1) ++ body.drop (body.take (2 ^ 31 - 1)).length = body :=
      List.prefix_iff_eq_append.1 (List.take_prefix _ _)
    refine ⟨Ending.ofLength _ [] c.closed True (fun _ => rfl), trivial, rfl, rfl, .fixed ?_⟩
    refine ⟨⟨rfl, rfl⟩, rfl, ?_, ?_, ?_, fun _ => hs, fun _ => rfl⟩
    · intro h; cases h
    · show ((min body.length (2 ^ 31 - 1) : Nat) : Int) = _
      rw [Framing.seen, List.length_take, Nat.min_comm]
    · show c.bytes ++ [] = body.take (2 ^ 31 - 1) ++ (body.drop (body.take (2 ^ 31 - 1)).length ++ rest)
      rw [List.append_nil, ← List.append_assoc, hcut, hb]
      rfl
  | chunked b =>
    obtain ⟨hcs, hl, ht⟩ := hf
    have hok : ∀ p ∈ b.chunks.map Chunk.piece, p.Ok True := by
      intro p hp
      obtain ⟨c, hc, rfl⟩ := List.mem_map.1 hp
      exact c.piece_ok (hcs c hc).2 fun _ => (hcs c hc).1
    let E := Ending.ofLast b.last rest [] c.closed (b.chunks.map Chunk.piece) True (fun _ => Or.inl rfl)
      (fun _ => ⟨hl, ht⟩) hok
    have h0 : At E ((Framing.chunked b).reader c) [] crlf (b.chunks.map Chunk.piece) := by
      refine ⟨⟨rfl, rfl⟩, rfl, rfl, rfl, ?_, rfl, ?_, ⟨[], rfl, by simp⟩, fun _ => rfl, Or.inl rfl, fun _ => hs⟩
      · rw [rawFrom, rawChunks_pieces]
        simp only [E, Ending.ofLast, Ending.after, Framing.reader, hb, Framing.encode, ChunkedBody.encode,
          LastChunk.encode, LastChunk.trailer, if_true, List.append_nil, List.nil_append, List.append_assoc]
      · intro h; cases h
    refine ⟨E, trivial, rfl, by simp [E, Ending.ofLast, Framing.data, Framing.seen], .here h0 ?_⟩
    simp [dataFrom, data_pieces, Framing.seen, ChunkedBody.data]

theorem Framing.Sized.follow {f : Framing} (hz : f.Sized) (hf : f.Short) (c : WiFiClient) (rest : Bytes) (hs : Smooth c)
    (hb : c.bytes = f.encode ++ rest) :
    ∃ E : Ending, E.clean ∧ E.miss = [] ∧ E.rest = rest ∧ Follow E (f.reader c) f.data := by
  obtain ⟨E, hc, hm, hrest, hfol⟩ := f.follow hf c rest hs hb
  rw [hz.seen_eq] at hrest hfol
  rw [List.drop_length, List.nil_append] at hrest
  exact ⟨E, hc, hm, hrest, hfol⟩

/-- **What the claim asks of a framing**: for every segmentation of the socket input and any number
`k` of `readByte` calls followed by `readBlock` calls with any positive capacities, what is returned
is a prefix of the body, without a framing error and without touching what follows the body; once
there have been more calls than body bytes it is the whole body and the reader is `done`, right
behind the framing. -/
def Framing.Undone (f : Framing) : Prop :=
  ∀ (c : WiFiClient) (rest : Bytes), Smooth c → c.bytes = f.encode ++ rest → ∀ (k : Nat) (caps : List Nat),
    (∀ x ∈ caps, 0 < x) →
    let d := (f.reader c).decode k caps
    d.1 <+: f.data ∧ d.2.framingError = false ∧ rest <:+ d.2.client.bytes ∧
    (f.data.length < k + caps.length → d.1 = f.data ∧ d.2.done = true ∧ d.2.client.bytes = rest) ∧
    (f.data.length < caps.length →
      ((f.reader c).decode (f.data.length + 1) []).1 = ((f.reader c).decode 0 caps).1)

namespace BodyReader

/-- Byte reads and block reads of a complete stream return what was left of it, in order. -/
theorem decode_follow {r : BodyReader} {body : Bytes} (hc : E.clean) (hm : E.miss = []) (hfol : Follow E r body)
    (k : Nat) (caps : List Nat) (hcaps : ∀ x ∈ caps, 0 < x) :
    ∃ left, body = (r.decode k caps).1 ++ left ∧ Follow E (r.decode k caps).2 left ∧
      ((r.decode k caps).2.done = true ∨ left.length + (k + caps.length) ≤ body.length) := by
  obtain ⟨left1, hl1, h1, hp1⟩ := readBytes_follow hc hm k _ _ hfol
  obtain ⟨left2, hl2, h2, hp2⟩ := readBlocks_follow hc hm caps _ _ hcaps h1
  have hlen := congrArg List.length hl2
  rw [List.length_append] at hlen
  refine ⟨left2, by simp only [decode, List.append_assoc]; rw [← hl2, ← hl1], h2, ?_⟩
  rcases hp2 with hp2 | hp2
  · exact Or.inl hp2
  · rcases hp1 with hp1 | hp1
    · -- the byte reads had found the end already
      obtain ⟨rfl, -⟩ := h1.exact hc hm hp1
      cases caps with
      | nil => exact Or.inl hp1
      | cons x xs => simp at hp2
    · exact Or.inr (by omega)

/-- More calls than bytes return the whole of it. -/
theorem decode_whole {r : BodyReader} {body : Bytes} (hc : E.clean) (hm : E.miss = []) (hfol : Follow E r body)
    (k : Nat) (caps : List Nat) (hcaps : ∀ x ∈ caps, 0 < x) (hlt : body.length < k + caps.length) :
    (r.decode k caps).1 = body ∧ (r.decode k caps).2.done = true ∧ (r.decode k caps).2.client.bytes = E.rest := by
  obtain ⟨left, hl, hfo, hp⟩ := decode_follow hc hm hfol k caps hcaps
  have hd : (r.decode k caps).2.done = true := hp.resolve_right (by omega)
  obtain ⟨rfl, hr⟩ := hfo.exact hc hm hd
  exact ⟨by rw [hl, List.append_nil], hd, hr⟩

end BodyReader

open BodyReader in
theorem Framing.Sized.undone {f : Framing} (hf : f.Short) (hz : f.Sized) : f.Undone := by
  intro c rest hs hb k caps hcaps
  obtain ⟨E, hc, hm, rfl, hfol⟩ := hz.follow hf c rest hs hb
  obtain ⟨left, hl, hfo, -⟩ := decode_follow hc hm hfol k caps hcaps
  refine ⟨⟨left, hl.symm⟩, hfo.no_error hc (Or.inl hm), hfo.rest_suffix hc hm, decode_whole hc hm hfol k caps hcaps,
    fun hlt => ?_⟩
  rw [(decode_whole hc hm hfol (f.data.length + 1) [] (by simp) (by simp)).1,
    (decode_whole hc hm hfol 0 caps hcaps (by omega)).1]

/-- Any bytes can arrive, in one segment. -/
theorem exists_smooth (x : Bytes) : ∃ c : WiFiClient, Smooth c ∧ c.bytes = x :=
  ⟨⟨WiFiClient.unread x [], false⟩, WiFiClient.unread_smooth (by simp),
    (WiFiClient.unread_flatMap x []).trans (List.append_nil x)⟩

open BodyReader in
/-- Of a body of `2^31` bytes or more the last ones are never read. -/
theorem Framing.undone_sized {f : Framing} (hf : f.Short) (h : f.Undone) : f.Sized := by
  by_contra hz
  have hlen : f.seen.length < f.data.length := Framing.seen_lt hz
  obtain ⟨c, hs, hb⟩ := exists_smooth (f.encode ++ [])
  obtain ⟨E, hc, hm, -, hfol⟩ := f.follow hf c [] hs hb
  have hw := ((h c [] hs hb (f.data.length + 1) [] (by simp)).2.2.2.1 (Nat.lt_succ_self _)).1
  rw [(decode_whole hc hm hfol (f.data.length + 1) [] (by simp) (Nat.lt_succ_of_lt hlen)).1] at hw
  exact absurd (congrArg List.length hw) (Nat.ne_of_lt hlen)

/-- **Body decoding undoes HTTP framing**, whichever read path is used, exactly when `toInt` can tell
the body's length: `remaining` has 64 bits, but a Content-Length of `2^31` or more becomes `2^31 - 1`. -/
theorem decode_undoes_framing (f : Framing) (hf : f.Short) : f.Undone ↔ f.Sized :=
  ⟨Framing.undone_sized hf, Framing.Sized.undone hf⟩

/-- "hello" in two chunks. -/
def helloChunks : ChunkedBody where
  chunks := [⟨ascii "3", [], ascii "hel", List.all_eq_true.1 (by decide), by decide, noExt_ok,
      by decide, by decide⟩,
    ⟨ascii "02", ascii ";x", ascii "lo", List.all_eq_true.1 (by decide), by decide,
      ⟨by decide, [], ascii ";x", rfl, by simp, Or.inr (by decide)⟩, by decide, by decide⟩]
  last := ⟨ascii "0", [], [], List.all_eq_true.1 (by decide), by decide, noExt_ok, by decide, by simp⟩

/-- Cut into segments inside a size line and inside a CRLF. -/
theorem decode_undoes_framing_hello :
    let c : WiFiClient := ⟨[.seg 51 (ascii "\r"), .seg 10 (ascii "hel\r\n02;x\r\nlo\r"), .seg 10 (ascii "0\r\n\r\nGET")], false⟩
    ((Framing.reader (.chunked helloChunks) c).decode 1 [2, 1, 7, 7, 7]).1 = ascii "hello" ∧
      ((Framing.reader (.chunked helloChunks) c).decode 1 [2, 1, 7, 7, 7]).2.done = true := by
  intro c
  have h := (decode_undoes_framing (.chunked helloChunks) ⟨by decide, by decide, by decide⟩).2 trivial c (ascii "GET")
    (by unfold Smooth; decide) (by decide) 1 [2, 1, 7, 7, 7] (by decide)
  have hw := h.2.2.2.1 (by decide)
  exact ⟨hw.1.trans (by decide), hw.2.1⟩

/-- A Content-Length of 2147483648: the last byte of the body is never read. -/
theorem length_cut : ¬(Framing.length (List.replicate (2 ^ 31) 0)).Undone :=
  fun h => Nat.not_lt_of_le (Nat.le_of_eq List.length_replicate.symm)
    (Framing.undone_sized (f := .length (List.replicate (2 ^ 31) 0)) trivial h)

end PrintServer
