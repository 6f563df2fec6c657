import PrintServer.BodyDecode
import PrintServer.IppJob
/-!
# A truncated document is not accepted (ipp_pcl3_service.cpp:997-1065)

`Sound` is the invariant of the streaming loop: what was given to `sendDirect` so far, followed by
what the reader still has, is the document. `loop_end` carries it through any socket, any answers
of the transport and any time the reads take; `Verdict` is what follows for the request.

One framing escapes. `nextChunk` does not look at `ERANGE`: a chunk size from `2^32` on is read as
`2^32 - 1`, and if CR LF happens to stand at that offset of the chunk's data the reader believes
to be between two chunks there. `Framing.Fits` excludes exactly these framings.
-/
namespace PrintServer

/-! ## The attributes before the document -/

theorem BodyReader.readExact_follow {E : Ending} : ∀ (k : Nat) (r : BodyReader) (left : Bytes) {bs : Bytes} {r' : BodyReader},
    Follow E r left → readExact k r = (some bs, r') → ∃ left', left = bs ++ left' ∧ bs.length = k ∧ Follow E r' left'
  | 0, r, left, bs, r', h, e => by
    simp only [readExact, Prod.mk.injEq, Option.some.injEq] at e
    obtain ⟨rfl, rfl⟩ := e
    exact ⟨left, rfl, rfl, h⟩
  | k + 1, r, left, bs, r', h, e => by
    rcases readByte_follow h with ⟨b, r1, left1, e1, rfl, h1⟩ | ⟨r1, e1, -, -⟩
    · simp only [readExact, e1] at e
      cases hx : readExact k r1 with
      | mk o r2 =>
        rw [hx] at e
        cases o with
        | none => simp at e
        | some bs2 =>
          simp only [Prod.mk.injEq, Option.some.injEq] at e
          obtain ⟨rfl, rfl⟩ := e
          obtain ⟨left', rfl, hl, hf⟩ := readExact_follow k r1 left1 h1 hx
          exact ⟨left', rfl, by rw [List.length_cons, hl], hf⟩
    · simp [readExact, e1] at e

/-! ## The streaming loop -/

namespace Streaming
variable {σ : Type} {E : Ending} {doc : Bytes} {b0 : UsbPrinterBackend σ}

/-- Everything given to `sendDirect`. -/
def payload (s : Streaming σ) : Bytes := s.calls.flatMap Prod.fst

/-- The invariant of the loop; `doc` is the document as the reader sees it. -/
structure Sound (E : Ending) (doc : Bytes) (b0 : UsbPrinterBackend σ) (s : Streaming σ) : Prop where
  ok : s.ok = true
  follow : ∃ left, Follow E s.reader left ∧ doc = s.payload ++ left
  sent : ∀ x ∈ s.calls, x.2 = true
  bytes : s.service.lastJobBytes = s.payload.length
  started : s.calls ≠ [] → s.service.jobStartedProcessing = true
  printing : s.calls ≠ [] → s.backend.state = .printing ∧ s.backend.jobsFailed = b0.jobsFailed

/-- The loop gave up: the deadline passed, or `sendDirect` returned false. -/
structure GaveUp (b0 : UsbPrinterBackend σ) (s : Streaming σ) : Prop where
  ok : s.ok = false
  failed : (∃ x ∈ s.calls, x.2 = true) → s.service.jobStartedProcessing = true ∧
    (s.backend.state = .printing ∧ s.backend.jobsFailed = b0.jobsFailed ∨
      s.backend.state = .error ∧ s.backend.jobsFailed = b0.jobsFailed + 1)

theorem sent_bytes (s : IppPcl3Service) (now n : Nat) : (sent s now n).lastJobBytes = s.lastJobBytes + n := by
  unfold sent
  split <;> rfl

theorem sent_started (s : IppPcl3Service) (now n : Nat) : (sent s now n).jobStartedProcessing = true := by
  unfold sent
  split
  · assumption
  · rfl

/-- One turn's `sendDirect` after earlier blocks were accepted (or none were given). -/
theorem sendDirect_printing (T : Transport σ) {b : UsbPrinterBackend σ} (job : JobKey) (data : Bytes)
    (h : b.state = .printing ∧ b.jobsFailed = b0.jobsFailed) :
    ((b.sendDirect T job data).2.state = .printing ∧ (b.sendDirect T job data).2.jobsFailed = b0.jobsFailed) ∨
    ((b.sendDirect T job data).1 ≠ none ∧ (b.sendDirect T job data).2.state = .error ∧
      (b.sendDirect T job data).2.jobsFailed = b0.jobsFailed + 1) := by
  obtain ⟨hp, hj⟩ := h
  rcases b.sendDirect_cases T job data with ⟨_, e⟩ | ⟨_, _, ⟨_, e⟩ | ⟨hr, e⟩⟩
  · rw [e]
    exact Or.inl ⟨hp, hj⟩
  · rw [Ledger.start_printing hp] at e
    exact Or.inl ⟨(congrArg Ledger.state e).trans hp, (congrArg Ledger.jobsFailed e).trans hj⟩
  · rw [Ledger.start_printing hp] at e
    refine Or.inr ⟨hr, congrArg Ledger.state e, ?_⟩
    rw [← hj]
    have h1 := congrArg Ledger.jobsFailed e
    simpa [Ledger.abort, UsbPrinterBackend.ledger, hp] using h1

/-- A block that `sendDirect` accepts leaves the backend printing, with no failure counted. -/
theorem sendDirect_accepted {T : Transport σ} {b : UsbPrinterBackend σ} {job : JobKey} {data : Bytes}
    (h : (b.sendDirect T job data).1 = none) :
    (b.sendDirect T job data).2.state = .printing ∧ (b.sendDirect T job data).2.jobsFailed = b.jobsFailed := by
  rcases b.sendDirect_cases T job data with ⟨hr, _⟩ | ⟨hs, _, ⟨_, e⟩ | ⟨hr, _⟩⟩
  · exact absurd h hr
  · refine ⟨(congrArg Ledger.state e).trans (Ledger.start_state hs), (congrArg Ledger.jobsFailed e).trans ?_⟩
    unfold Ledger.accept Ledger.start
    split <;> rfl
  · exact absurd h hr

/-- **One run of the loop.** Whatever the socket, the transport and the clock do, the loop keeps
the invariant or gives up. The induction is on the fuel. -/
theorem loop_end (T : Transport σ) (deadline : Nat) : ∀ (n : Nat) (ticks : List Tick) (s : Streaming σ),
    (s.calls = [] → s.backend.jobsFailed = b0.jobsFailed) → Sound E doc b0 s →
      Sound E doc b0 (loop T deadline n ticks s) ∨ GaveUp b0 (loop T deadline n ticks s)
  | 0, _, s, _, h => Or.inl h
  | n + 1, ticks, s, h0, h => by
    simp only [loop]
    split
    · refine Or.inr ⟨rfl, ?_⟩
      rintro ⟨x, hx, -⟩
      have hne : s.calls ≠ [] := List.ne_nil_of_mem hx
      exact ⟨h.started hne, Or.inl (h.printing hne)⟩
    obtain ⟨left, hfol, hdoc⟩ := h.follow
    have hcap : 0 < bodyBufferSize := by decide
    obtain ⟨out, left', r', er, hl, hfol', -⟩ := BodyReader.readBlock_follow hfol hcap
    rw [er]
    simp only
    by_cases hout : out = []
    · -- nothing came: the loop ends here
      subst hout
      refine Or.inl ?_
      simp only [List.isEmpty_nil, if_true]
      exact ⟨h.ok, ⟨left', hfol', by rw [hdoc, hl]; rfl⟩, h.sent, h.bytes, h.started, h.printing⟩
    have hemp : out.isEmpty = false := by simp [hout]
    rw [if_neg (by simp [hemp])]
    have hprint : s.calls ≠ [] → (s.backend.pass (ticks.headD {})).state = .printing ∧
        (s.backend.pass (ticks.headD {})).jobsFailed = b0.jobsFailed := h.printing
    have hzero : s.calls = [] → (s.backend.pass (ticks.headD {})).jobsFailed = b0.jobsFailed := h0
    generalize s.backend.pass (ticks.headD {}) = b at hprint hzero
    have hjobs : b.jobsFailed = b0.jobsFailed := by
      by_cases hc : s.calls = []
      · exact hzero hc
      · exact (hprint hc).2
    cases hs : b.sendDirect T (.ipp s.service.serial) out with
    | mk res b' =>
      cases res with
      | some error =>
        refine Or.inr ⟨rfl, ?_⟩
        rintro ⟨x, hx, hx2⟩
        have hne : s.calls ≠ [] := by
          rcases List.mem_append.1 hx with hx | hx
          · exact List.ne_nil_of_mem hx
          · obtain rfl : x = (out, false) := by simpa using hx
            cases hx2
        refine ⟨h.started hne, ?_⟩
        have hp := sendDirect_printing T (.ipp s.service.serial) out (hprint hne)
        rw [hs] at hp
        exact hp.imp id And.right
      | none =>
        have hnone : (b.sendDirect T (.ipp s.service.serial) out).1 = none := by rw [hs]
        have ha := sendDirect_accepted hnone
        rw [hs] at ha
        refine loop_end T deadline n ticks.tail _ (fun hnil => by simp at hnil) ?_
        have hpay : (s.calls ++ [(out, true)]).flatMap Prod.fst = s.payload ++ out := by simp [payload]
        refine ⟨h.ok, ⟨left', hfol', ?_⟩, ?_, ?_, fun _ => sent_started _ _ _, fun _ => ⟨ha.1, ha.2.trans hjobs⟩⟩
        · rw [payload, hpay, hdoc, hl, List.append_assoc]
        · intro x hx
          rcases List.mem_append.1 hx with hx | hx
          · exact h.sent x hx
          · obtain rfl : x = (out, true) := by simpa using hx
            rfl
        · rw [payload, hpay, sent_bytes, h.bytes, List.length_append]

/-- The fuel suffices: from one more than the socket's size on it plays no part. -/
theorem loop_fuel (T : Transport σ) (deadline : Nat) : ∀ (n : Nat) (ticks : List Tick) (s : Streaming σ),
    s.reader.client.size < n → loop T deadline (n + 1) ticks s = loop T deadline n ticks s
  | 0, _, _, h => absurd h (Nat.not_lt_zero _)
  | n + 1, ticks, s, h => by
    rw [loop, loop]
    split
    · rfl
    simp only
    split
    · rfl
    rename_i hout
    split
    · rfl
    · refine loop_fuel T deadline n ticks.tail _ ?_
      obtain ⟨x, hf, hx⟩ := s.reader.readBlock_fwd bodyBufferSize
      have h1 := hf.size
      have h2 : 0 < (s.reader.readBlock bodyBufferSize).1.length := by
        rw [List.length_pos_iff]
        simpa using hout
      simp only
      omega

/-! ## The verdict -/

/-- A rejected document: the job is aborted, and the backend too if it had accepted anything. -/
theorem reject_spec {s : Streaming σ} (h : Sound E doc b0 s ∨ GaveUp b0 s) :
    s.reject.service.lastJobState = .aborted ∧ ((∃ x ∈ s.reject.calls, x.2 = true) →
      s.reject.backend.state = .error ∧ s.reject.backend.jobsFailed = b0.jobsFailed + 1) := by
  refine ⟨rfl, ?_⟩
  rintro ⟨x, hx, hx2⟩
  have hs : s.service.jobStartedProcessing = true ∧ (s.backend.state = .printing ∧ s.backend.jobsFailed = b0.jobsFailed ∨
      s.backend.state = .error ∧ s.backend.jobsFailed = b0.jobsFailed + 1) := by
    rcases h with h | h
    · have hne : s.calls ≠ [] := List.ne_nil_of_mem hx
      exact ⟨h.started hne, Or.inl (h.printing hne)⟩
    · exact h.failed ⟨x, hx, hx2⟩
  obtain ⟨hst, hb⟩ := hs
  have hl := UsbPrinterBackend.ledger_abortRawJob s.backend s.failure
  have e1 : (s.backend.abortRawJob s.failure).state = .error := congrArg Ledger.state hl
  have e2 := congrArg Ledger.jobsFailed hl
  simp only [reject, hst, Bool.true_or, if_true]
  refine ⟨e1, e2.trans ?_⟩
  rcases hb with ⟨hp, hj⟩ | ⟨hp, hj⟩ <;> simp [Ledger.abort, UsbPrinterBackend.ledger, hp, hj]

end Streaming

/-! ## What the reader sees of a framing -/

/-- The size line fits `rawLine`'s buffer, and the size 32 bits. -/
def Chunk.Readable (c : Chunk) : Prop := c.line.length ≤ 126 ∧ c.data.length < 2 ^ 32

/-- The first chunk that does not fit in 32 bits, if its line is readable at all, has no CR LF
where `strtoul`'s `2^32 - 1` puts the end of its data. -/
def Framing.Fits : Framing → Prop
  | .length _ => True
  | .chunked b => ∀ pre c post, b.chunks = pre ++ c :: post → (∀ d ∈ pre, d.Readable) → c.line.length ≤ 126 →
      2 ^ 32 ≤ c.data.length → (c.data.drop (2 ^ 32 - 1)).take 2 ≠ crlf

theorem rawChunks_append (l l' : List Piece) : rawChunks (l ++ l') = rawChunks l ++ rawChunks l' := by
  simp only [rawChunks, List.flatMap_append]

/-- A chunk as the reader takes it, whatever its size; `more` follows its encoding. -/
def Chunk.stopper (c : Chunk) (more : Bytes) : Piece :=
  ⟨c.line, c.data.take (2 ^ 32 - 1), c.data.drop (2 ^ 32 - 1) ++ crlf ++ more⟩

theorem Chunk.stopper_size (c : Chunk) (more : Bytes) :
    parseChunkSize (c.stopper more).line = some (c.stopper more).data.length := by
  change parseChunkSize (c.digits ++ c.ext) = some (c.data.take (2 ^ 32 - 1)).length
  rw [parseChunkSize_line c.hex c.digits_ne c.ext_ok, c.size, List.length_take]
  congr 1
  split <;> omega

theorem Chunk.stopper_data_ne (c : Chunk) (more : Bytes) : (c.stopper more).data ≠ [] := by
  change c.data.take (2 ^ 32 - 1) ≠ []
  rw [Ne, List.take_eq_nil_iff, not_or]
  exact ⟨by omega, c.data_ne⟩

/-- The next two bytes of a list that does not begin with CR LF. -/
theorem not_crlf_cases {xs : Bytes} (ys : Bytes) (hne : xs ≠ []) (h : xs.take 2 ≠ crlf) :
    ∃ a b z, xs ++ crlf ++ ys = a :: b :: z ∧ ¬(a = cr ∧ b = lf) := by
  match xs, hne with
  | [a], _ => exact ⟨a, cr, lf :: ys, rfl, fun hc => absurd hc.2 (by decide)⟩
  | a :: b :: z, _ =>
    refine ⟨a, b, z ++ crlf ++ ys, rfl, ?_⟩
    rintro ⟨rfl, rfl⟩
    exact h rfl

/-- A chunk the reader cannot get behind. -/
theorem Chunk.stopper_stops (c : Chunk) (more : Bytes)
    (h : c.line.length ≤ 126 → 2 ^ 32 ≤ c.data.length ∧ (c.data.drop (2 ^ 32 - 1)).take 2 ≠ crlf) :
    (c.stopper more).Ok False ∧ ¬(c.stopper more).Passed := by
  have hdrop : 2 ^ 32 ≤ c.data.length → c.data.drop (2 ^ 32 - 1) ≠ [] := by
    intro hl hd
    rw [List.drop_eq_nil_iff] at hd
    omega
  constructor
  · refine ⟨c.stopper_size more, c.stopper_data_ne more, c.line_ne, c.line_lf, fun hl => Or.inr ⟨id, ?_⟩, False.elim⟩
    obtain ⟨h1, h2⟩ := h hl
    obtain ⟨a, b, z, e, hab⟩ := not_crlf_cases more (hdrop h1) h2
    exact ⟨a, b, z, e, hab⟩
  · rintro ⟨ht, hl⟩
    have h1 : (c.data.drop (2 ^ 32 - 1) ++ crlf ++ more).length = crlf.length := congrArg List.length ht
    have h2 := List.length_pos_iff.2 (hdrop (h hl).1)
    simp only [List.length_append] at h1
    omega

theorem Chunk.encode_ne (c : Chunk) : c.encode ≠ [] := by
  simp [Chunk.encode, c.line_ne]

/-- The pieces `all` show the reader the chunks `cs`: the same bytes, and as far as it gets behind
pieces they are whole chunks. -/
structure Shows (all : List Piece) (cs : List Chunk) : Prop where
  ok : ∀ p ∈ all, p.Ok False
  raw : rawChunks all = cs.flatMap Chunk.encode
  passed : ∀ pre l, all = pre ++ l → (∀ p ∈ pre, p.Passed) →
    ∃ cpre cpost, cs = cpre ++ cpost ∧ pre = cpre.map Chunk.piece

/-- Either every chunk is readable, or there is a first one that is not. -/
theorem readable_or_first : ∀ cs : List Chunk, (∀ c ∈ cs, c.Readable) ∨
    ∃ pre c post, cs = pre ++ c :: post ∧ (∀ d ∈ pre, d.Readable) ∧ ¬c.Readable
  | [] => Or.inl (by simp)
  | c :: cs => by
    by_cases hc : c.Readable
    · rcases readable_or_first cs with h | ⟨pre, d, post, rfl, hpre, hd⟩
      · exact Or.inl fun d hd => (List.mem_cons.1 hd).elim (fun e => e ▸ hc) (h d)
      · refine Or.inr ⟨c :: pre, d, post, rfl, fun x hx => ?_, hd⟩
        exact (List.mem_cons.1 hx).elim (fun e => e ▸ hc) (hpre x)
    · exact Or.inr ⟨[], c, cs, rfl, by simp, hc⟩

theorem shows_readable {cs : List Chunk} (h : ∀ c ∈ cs, c.Readable) : Shows (cs.map Chunk.piece) cs := by
  refine ⟨fun p hp => ?_, rawChunks_pieces cs, fun pre l e _ => ?_⟩
  · obtain ⟨c, hc, rfl⟩ := List.mem_map.1 hp
    exact c.piece_ok (h c hc).2 False.elim
  · obtain ⟨cpre, cpost, rfl, rfl, -⟩ := List.map_eq_append_iff.1 e
    exact ⟨cpre, cpost, rfl, rfl⟩

theorem shows_stopper {pre : List Chunk} {c : Chunk} {post : List Chunk} (hpre : ∀ d ∈ pre, d.Readable)
    (h : c.line.length ≤ 126 → 2 ^ 32 ≤ c.data.length ∧ (c.data.drop (2 ^ 32 - 1)).take 2 ≠ crlf) :
    Shows (pre.map Chunk.piece ++ [c.stopper (post.flatMap Chunk.encode)]) (pre ++ c :: post) := by
  obtain ⟨hok, hstop⟩ := c.stopper_stops (post.flatMap Chunk.encode) h
  refine ⟨fun p hp => ?_, ?_, fun q l e hq => ?_⟩
  · rcases List.mem_append.1 hp with hp | hp
    · exact (shows_readable hpre).ok p hp
    · obtain rfl : p = _ := List.mem_singleton.1 hp
      exact hok
  · have hraw := rawChunks_pieces pre
    simp only [rawChunks] at hraw
    simp only [rawChunks, List.flatMap_append, hraw, List.flatMap_cons, List.flatMap_nil, List.append_nil]
    congr 1
    -- the two parts of the data stand where the data stood
    have hd := List.take_append_drop (2 ^ 32 - 1) c.data
    calc c.line ++ crlf ++ c.data.take (2 ^ 32 - 1) ++ (c.data.drop (2 ^ 32 - 1) ++ crlf ++ post.flatMap Chunk.encode)
        = c.line ++ crlf ++ (c.data.take (2 ^ 32 - 1) ++ c.data.drop (2 ^ 32 - 1)) ++ crlf ++
            post.flatMap Chunk.encode := by simp only [List.append_assoc]
      _ = c.encode ++ post.flatMap Chunk.encode := by rw [hd]; rfl
  · -- a passed prefix does not contain the stopper
    rcases List.append_eq_append_iff.1 e with ⟨m, rfl, hm⟩ | ⟨m, hm, -⟩
    · cases m with
      | nil => exact ⟨pre, c :: post, rfl, List.append_nil _⟩
      | cons x m =>
        obtain ⟨rfl, -⟩ := List.cons.inj hm
        exact absurd (hq _ (by simp)) hstop
    · obtain ⟨cpre, cpost, rfl, rfl, -⟩ := List.map_eq_append_iff.1 hm
      exact ⟨cpre, cpost ++ c :: post, by rw [List.append_assoc], rfl⟩

theorem ChunkedBody.shown {b : ChunkedBody} (h : (Framing.chunked b).Fits) : ∃ all, Shows all b.chunks := by
  rcases readable_or_first b.chunks with hall | ⟨pre, c, post, e, hpre, hc⟩
  · exact ⟨_, shows_readable hall⟩
  · refine ⟨_, e ▸ shows_stopper hpre fun hl => ?_⟩
    have hbig : 2 ^ 32 ≤ c.data.length := Nat.le_of_not_lt fun hlt => hc ⟨hl, hlt⟩
    exact ⟨hbig, h pre c post e hpre hl hbig⟩

/-! ## The whole request -/

/-- Everything up to the end of the body data: all of it, or up to the zero-size chunk line. -/
def Framing.through : Framing → Bytes
  | .length body => body
  | .chunked b => b.chunks.flatMap Chunk.encode ++ (b.last.line ++ crlf)

/-- `c` got all of `f`'s body, and `payload` is what stands behind its first `k` bytes. -/
def Framing.Received (f : Framing) (k : Nat) (c : WiFiClient) (payload : Bytes) : Prop :=
  payload = f.data.drop k ∧ f.through <+: c.bytes

/-- The peer sent exactly some of the chunks and closed; `payload` is their data. -/
def Framing.ClosedBetween (f : Framing) (k : Nat) (c : WiFiClient) (payload : Bytes) : Prop :=
  ∃ b pre post, f = .chunked b ∧ b.chunks = pre ++ post ∧ c.bytes = pre.flatMap Chunk.encode ∧ c.closed = true ∧
    payload = (pre.flatMap Chunk.data).drop k

/-- What `streamDocument` may answer for the document behind the first `k` body bytes. -/
structure Verdict {σ : Type} (f : Framing) (k : Nat) (c : WiFiClient) (b : UsbPrinterBackend σ) (d : Streaming σ) : Prop where
  accepted : d.ok = true → (∀ x ∈ d.calls, x.2 = true) ∧ d.payload ≠ [] ∧
    (f.Received k c d.payload ∨ f.ClosedBetween k c d.payload)
  rejected : d.ok = false → d.service.lastJobState = .aborted ∧ ((∃ x ∈ d.calls, x.2 = true) →
    d.backend.state = .error ∧ d.backend.jobsFailed = b.jobsFailed + 1)

/-- The verdict is right wherever the peer stops (`miss` never comes) or stalls, however the socket
segments the rest, whatever follows the body, below any transport and with any timing. -/
def Framing.TruncationSafe (f : Framing) (k : Nat) : Prop :=
  ∀ (c : WiFiClient) (rest miss bs : Bytes) (r : BodyReader), c.bytes ++ miss = f.encode ++ rest →
    (f.reader c).readExact k = (some bs, r) →
    ∀ (σ : Type) (T : Transport σ) (b : UsbPrinterBackend σ) (s : IppPcl3Service) (ticks : List Tick),
      s.lastJobBytes = 0 → s.jobStartedProcessing = false → Verdict f k c b (streamDocument T ticks s b r)

/-- What arrived contains `x` when no more than the part behind `x` is missing. -/
theorem prefix_of_short_miss {got miss x y : Bytes} (h : got ++ miss = x ++ y) (hm : miss.length ≤ y.length) :
    x <+: got := by
  have h1 := congrArg List.length h
  simp only [List.length_append] at h1
  exact List.prefix_of_prefix_length_le (h ▸ List.prefix_append x y) (List.prefix_append got miss) (by omega)

/-- What `Verdict` asks of an accepted document, from where the reader ended up. -/
theorem verdict_of_end {σ : Type} {E : Ending} {f : Framing} {k : Nat} {c : WiFiClient} {doc : Bytes} (T : Transport σ)
    (ticks : List Tick) {s : IppPcl3Service} {b : UsbPrinterBackend σ} {r : BodyReader} (hb : s.lastJobBytes = 0)
    (hf : Follow E r doc)
    (hend : ∀ (r' : BodyReader) (left payload : Bytes), Follow E r' left → doc = payload ++ left → payload ≠ [] →
      r'.framingError = false → (r'.done || (r'.peerClosed && r'.atChunkBoundary)) = true →
      f.Received k c payload ∨ f.ClosedBetween k c payload) :
    Verdict f k c b (streamDocument T ticks s b r) := by
  have hstart : Streaming.Sound E doc b { service := s, backend := b, reader := r } :=
    ⟨rfl, ⟨doc, hf, rfl⟩, by simp, by simpa [Streaming.payload] using hb, by simp, by simp⟩
  have hloop : Streaming.Sound E doc b (Streaming.stream T ticks s b r) ∨
      Streaming.GaveUp b (Streaming.stream T ticks s b r) :=
    Streaming.loop_end T _ _ _ _ (fun _ => rfl) hstart
  unfold streamDocument
  simp only
  split
  · rename_i hacc
    simp only [Streaming.accepted, Bool.and_eq_true, Bool.not_eq_true', decide_eq_true_eq] at hacc
    obtain ⟨⟨⟨hok, hdone⟩, hsound⟩, hbytes⟩ := hacc
    have h := hloop.resolve_right fun hg => by rw [hg.ok] at hok; cases hok
    refine ⟨fun _ => ?_, fun hno => by rw [hok] at hno; cases hno⟩
    obtain ⟨left, hfol, hdoc⟩ := h.follow
    have hne : (Streaming.stream T ticks s b r).payload ≠ [] := by
      rw [h.bytes] at hbytes
      exact List.length_pos_iff.1 hbytes
    exact ⟨h.sent, hne, hend _ _ _ hfol hdoc hne hsound hdone⟩
  · exact ⟨fun hno => (by cases hno), fun _ => Streaming.reject_spec hloop⟩

/-- With a Content-Length only the whole body is accepted. -/
theorem truncationSafe_length {body : Bytes} (hz : (Framing.length body).Sized) (k : Nat) :
    (Framing.length body).TruncationSafe k := by
  intro c rest miss bs r hc hx σ T b s ticks hb _
  have hle : body.length ≤ 2 ^ 31 - 1 := Nat.le_pred_of_lt hz
  let E := Ending.ofLength rest miss c.closed False False.elim
  have hnew : (false : Bool) = true → body = [] := fun h => by cases h
  have h0 : Follow E ((Framing.length body).reader c) body :=
    .fixed ⟨⟨rfl, rfl⟩, rfl, hnew, congrArg Nat.cast (Nat.min_eq_left hle), hc, False.elim, False.elim⟩
  obtain ⟨doc, hdoc, hlen, hf⟩ := BodyReader.readExact_follow k _ _ h0 hx
  have hdrop : body.drop k = doc := by rw [hdoc, ← hlen, List.drop_left]
  refine verdict_of_end T ticks hb hf fun r' left payload hf' hl _ hsound hdone => Or.inl ?_
  cases hf' with
  | here h _ =>
    have h1 : E.chunked = true := h.chunked.2
    cases h1
  | ended h _ =>
    have h1 : E.chunked = true := h.chunked.2
    cases h1
  | broken h _ _ =>
    rw [h] at hsound
    cases hsound
  | fixed h =>
    have hnb : r'.atChunkBoundary = false := by simp [BodyReader.atChunkBoundary, h.chunked]
    have hleft : left = [] := h.done (by simpa [hnb] using hdone)
    subst hleft
    have hs : r'.client.bytes ++ miss = rest := h.stream
    refine ⟨by rw [Framing.data, hdrop, hl, List.append_nil], prefix_of_short_miss hc ?_⟩
    have h1 := congrArg List.length hs
    rw [List.length_append] at h1
    omega

/-- A prefix of the pieces holds the same data as the chunks it shows. -/
theorem flatMap_drop {xs ys payload : Bytes} {k : Nat} (h : (xs ++ ys).drop k = payload ++ ys) (hne : payload ≠ []) :
    payload = xs.drop k := by
  have hk : k ≤ xs.length := by
    have h1 := congrArg List.length h
    have h2 := List.length_pos_iff.2 hne
    simp only [List.length_drop, List.length_append] at h1
    omega
  rw [List.drop_append_of_le_length hk] at h
  exact (List.append_cancel_right h).symm

/-- With chunks only the whole body, or whole chunks of it, are accepted. -/
theorem truncationSafe_chunked {body : ChunkedBody} (h : (Framing.chunked body).Fits) (k : Nat) :
    (Framing.chunked body).TruncationSafe k := by
  intro c rest miss bs r hc hx σ T b s ticks hb _
  obtain ⟨all, hsh⟩ := ChunkedBody.shown h
  let E := Ending.ofLast body.last rest miss c.closed all False False.elim False.elim hsh.ok
  have htotal : c.bytes ++ miss = rawChunks all ++ (E.last ++ crlf ++ E.after) := by
    rw [hc, hsh.raw]
    simp only [E, Ending.ofLast, Ending.after, Framing.encode, ChunkedBody.encode, LastChunk.encode, LastChunk.trailer,
      List.append_assoc]
  have h0 : At E ((Framing.chunked body).reader c) [] crlf all := by
    refine ⟨⟨rfl, rfl⟩, rfl, rfl, rfl, htotal, rfl, fun hp => ?_, ⟨[], rfl, by simp⟩, fun _ => rfl, Or.inl rfl, False.elim⟩
    cases hp
  obtain ⟨doc, hdoc, hlen, hf⟩ := BodyReader.readExact_follow k _ _ (.here h0 rfl) hx
  have hdrop : (all.flatMap Piece.data).drop k = doc := by
    rw [show all.flatMap Piece.data = bs ++ doc from hdoc, ← hlen, List.drop_left]
  refine verdict_of_end T ticks hb hf fun r' left payload hf' hl hne hsound hdone => ?_
  cases hf' with
  | fixed h =>
    have h1 : E.chunked = false := h.chunked.2
    cases h1
  | broken h _ _ =>
    rw [h] at hsound
    cases hsound
  | ended h hleft =>
    subst hleft
    rw [List.append_nil] at hl
    obtain ⟨cpre, cpost, hcs, hall⟩ := hsh.passed all [] (List.append_nil _).symm h.passed
    have hpost : cpost = [] := by
      have h1 := hsh.raw
      rw [hall, rawChunks_pieces, hcs, List.flatMap_append] at h1
      have h2 := List.append_right_eq_self.1 h1.symm
      cases cpost with
      | nil => rfl
      | cons d _ => exact absurd (List.append_eq_nil_iff.1 h2).1 d.encode_ne
    subst hpost
    rw [List.append_nil] at hcs
    obtain ⟨z, hz⟩ := h.behind
    have hthrough : c.bytes ++ miss = (Framing.chunked body).through ++ E.after := by
      rw [htotal, hsh.raw]
      simp only [Framing.through, E, Ending.ofLast, List.append_assoc]
    refine Or.inl ⟨?_, prefix_of_short_miss hthrough ?_⟩
    · rw [← hl, ← hdrop, hall, data_pieces, ← hcs]
      rfl
    · have h1 := congrArg List.length hz
      simp only [List.length_append] at h1
      have h2 : E.miss.length = miss.length := rfl
      omega
  | here h hleft =>
    rename_i cur term l
    have hgone : r'.peerClosed = true ∧ r'.chunkRemaining = 0 := by
      simpa [h.live, BodyReader.atChunkBoundary, h.chunked, h.sound] using hdone
    have hcur : cur = [] := by rw [← List.length_eq_zero_iff, ← h.left, hgone.2]
    subst hcur
    obtain ⟨hnil, hclosed⟩ := h.gone hgone.1
    obtain ⟨pre, hpre, hpass⟩ := h.passed_nil
    obtain ⟨cpre, cpost, hcs, hmap⟩ := hsh.passed pre l hpre hpass
    refine Or.inr ⟨body, cpre, cpost, rfl, hcs, ?_, hclosed, ?_⟩
    · have hmiss : miss = rawChunks l ++ (E.last ++ crlf ++ E.after) := by
        have h1 := h.stream
        rw [hnil, rawFrom, if_pos rfl] at h1
        exact h1
      rw [show all = pre ++ l from hpre, rawChunks_append, List.append_assoc, ← hmiss] at htotal
      rw [List.append_cancel_right htotal, hmap, rawChunks_pieces]
    · rw [← data_pieces, ← hmap]
      have hdata : (pre.flatMap Piece.data ++ l.flatMap Piece.data).drop k = payload ++ l.flatMap Piece.data := by
        rw [← List.flatMap_append, ← show all = pre ++ l from hpre, hdrop, hl, hleft]
        rfl
      exact flatMap_drop hdata hne

end PrintServer
