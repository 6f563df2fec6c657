import PrintServer.IppDocument
/-!
# Which framings a truncated document can hide in

`truncation_detected` is the exact condition: the verdict of `streamDocument` is right for every
cut of a framing if and only if the framing `Fits`. For the other direction a framing that does
not fit is cut right behind the CR LF that the reader takes for the end of the chunk; with a link
that takes everything the document is accepted there (`oversize_accepted`).
-/
namespace PrintServer

/-! ## Progress on a clean stream -/

variable {E : Ending}

theorem BodyReader.readExact_clean (hc : E.clean) : ∀ (k : Nat) (r : BodyReader) (left : Bytes),
    Follow E r left → k ≤ left.length → ∃ bs r', readExact k r = (some bs, r')
  | 0, r, _, _, _ => ⟨[], r, rfl⟩
  | k + 1, r, left, h, hk => by
    rcases readByte_follow h with ⟨b, r1, left1, e1, rfl, h1⟩ | ⟨r1, e1, -, hend⟩
    · obtain ⟨bs, r', e⟩ := readExact_clean hc k r1 left1 h1 (by simpa using hk)
      exact ⟨b :: bs, r', by simp only [readExact, e1, e]⟩
    · rw [(hend hc).1] at hk
      cases hk

/-- A reader that may be accepted: the end was read, or the peer closed between two chunks. -/
def BodyReader.Complete (r : BodyReader) : Prop :=
  (r.done || (r.peerClosed && r.atChunkBoundary)) = true ∧ r.framingError = false

/-- At the end of a clean stream whose peer closed, one more read brings nothing and the reader is
complete. -/
theorem readBlock_at_end {r : BodyReader} (h : Follow E r []) (hc : E.clean) (hcl : E.closed = true)
    (hm : E.miss = E.last ++ crlf ++ E.after) (hch : E.chunked = true) {capacity : Nat} (hcap : 0 < capacity) :
    ∃ r', r.readBlock capacity = ([], r') ∧ r'.Complete := by
  cases h with
  | fixed h =>
    have h1 := h.chunked.2
    rw [hch] at h1
    cases h1
  | broken _ _ hn =>
    have h1 := (hn hc).2.2
    rw [hcl] at h1
    cases h1
  | ended h _ => exact ⟨r, by simp [BodyReader.readBlock, h.done], by simp [h.done], h.sound⟩
  | here h hleft =>
    rename_i cur term l
    obtain ⟨rfl, hl⟩ : cur = [] ∧ l.flatMap Piece.data = [] := List.append_eq_nil_iff.1 hleft.symm
    have hnil : l = [] := by
      cases l with
      | nil => rfl
      | cons p l => exact absurd (List.append_eq_nil_iff.1 hl).1 h.ok.data_ne
    subst hnil
    have hb : r.client.bytes = [] := by
      have hst : r.client.bytes ++ E.miss = E.last ++ crlf ++ E.after := by
        simpa [rawFrom, rawChunks] using h.stream
      rw [hm] at hst
      exact List.append_left_eq_self.1 hst
    have ho := BodyReader.openChunk_gone h (h.smooth hc) hb (h.peer.trans hcl)
    obtain ⟨n, rfl⟩ : ∃ n, capacity = n + 1 := Nat.exists_eq_succ_of_ne_zero (by omega)
    have hloop : BodyReader.blockLoop (n + 1) (n + 1) [] r = ([], { r with peerClosed := true }) := by
      have hg : (decide (([] : Bytes).length < n + 1) && !r.done && !r.framingError) = true := by
        simp [h.live, h.sound]
      simp only [BodyReader.blockLoop, hg, if_true, ho]
    refine ⟨{ r with peerClosed := true }, ?_, ?_, h.sound⟩
    · simpa [BodyReader.readBlock, h.live, h.sound, h.chunked] using hloop
    · simp [BodyReader.atChunkBoundary, h.chunked, h.sound, h.live, h.left]

/-! ## A link that takes everything -/

/-- A backend that takes documents. -/
def UsbPrinterBackend.Ready (b : UsbPrinterBackend Unit) : Prop :=
  b.now = 0 ∧ b.host = UsbHostManager.enumeratedPrinter ∧ (b.state = .idle ∨ b.state = .printing)

theorem sendDirect_immediate {b : UsbPrinterBackend Unit} (h : b.Ready) (job : JobKey) {data : Bytes} (hd : data ≠ []) :
    ∃ b', b.sendDirect Transport.immediate job data = (none, b') ∧ b'.Ready := by
  obtain ⟨hn, hh, hs⟩ := h
  have husable : b.host.selectedInterfaceUsable = true := by
    rw [hh]
    decide
  have hdata : data.isEmpty = false := by simp [hd]
  have hstate : ¬(b.state ≠ .idle ∧ b.state ≠ .printing) := by
    rintro ⟨h1, h2⟩
    exact hs.elim h1 h2
  simp only [UsbPrinterBackend.sendDirect, hdata, husable, if_neg hstate]
  refine ⟨_, rfl, ?_, ?_, ?_⟩
  · rcases hs with hi | hp
    · simp [UsbPrinterBackend.startJob, hi, UsbPrinterBackend.record, UsbPrinterBackend.after, UsbPrinterBackend.pass,
        Transport.immediate, hn]
    · simp [UsbPrinterBackend.startJob, hp, UsbPrinterBackend.record, UsbPrinterBackend.after, UsbPrinterBackend.pass,
        Transport.immediate, hn]
  · rcases hs with hi | hp
    · simp [UsbPrinterBackend.startJob, hi, UsbPrinterBackend.record, UsbPrinterBackend.after, UsbPrinterBackend.pass,
        Transport.immediate, UsbHostManager.onAll, hh]
    · simp [UsbPrinterBackend.startJob, hp, UsbPrinterBackend.record, UsbPrinterBackend.after, UsbPrinterBackend.pass,
        Transport.immediate, UsbHostManager.onAll, hh]
  · refine Or.inr ?_
    rcases hs with hi | hp
    · simp [UsbPrinterBackend.startJob, hi, UsbPrinterBackend.record, UsbPrinterBackend.after, UsbPrinterBackend.pass]
    · simp [UsbPrinterBackend.startJob, hp, UsbPrinterBackend.record, UsbPrinterBackend.after, UsbPrinterBackend.pass]

namespace Streaming

/-- The loop takes everything a clean stream brings before the peer closes. -/
theorem loop_clean (hc : E.clean) (hcl : E.closed = true) (hm : E.miss = E.last ++ crlf ++ E.after)
    (hch : E.chunked = true) {deadline : Nat} (hdl : expired 0 deadline = false) :
    ∀ (n : Nat) (s : Streaming Unit) (left : Bytes), s.reader.client.size < n →
    Follow E s.reader left → s.backend.Ready → s.ok = true →
    let d := loop Transport.immediate deadline n [] s
    d.ok = true ∧ d.service.lastJobBytes = s.service.lastJobBytes + left.length ∧ d.reader.Complete
  | 0, _, _, hn, _, _, _ => absurd hn (Nat.not_lt_zero _)
  | n + 1, s, left, hn, hf, hb, hok => by
    have hexp : expired s.backend.now deadline = false := by rw [hb.1, hdl]
    have hpass : s.backend.pass ([].headD {}) = s.backend := rfl
    rw [loop, if_neg (by simp [hexp])]
    simp only [hpass]
    by_cases hl : left = []
    · subst hl
      obtain ⟨r', e, hcomp⟩ := readBlock_at_end hf hc hcl hm hch (by decide : 0 < bodyBufferSize)
      simp only [e, List.isEmpty_nil, if_true]
      exact ⟨hok, rfl, hcomp⟩
    · obtain ⟨out, left', r', e, rfl, hf', hprog⟩ := BodyReader.readBlock_follow hf (by decide : 0 < bodyBufferSize)
      have hout : out ≠ [] := (hprog hc).1 hl
      have hsize : r'.client.size < n := by
        obtain ⟨x, hx, hxl⟩ := s.reader.readBlock_fwd bodyBufferSize
        rw [e] at hx hxl
        have h1 := hx.size
        have h2 := List.length_pos_iff.2 hout
        simp only at h1 hxl
        omega
      obtain ⟨b', es, hb'⟩ := sendDirect_immediate hb (.ipp s.service.serial) hout
      have hemp : ¬out.isEmpty = true := by simp [hout]
      simp only [e, hemp, es]
      obtain ⟨h1, h2, h3⟩ := loop_clean hc hcl hm hch hdl n
        { s with service := sent s.service b'.now out.length, backend := b', reader := r', calls := s.calls ++ [(out, true)] }
        left' hsize hf' hb' hok
      rw [sent_bytes] at h2
      refine ⟨h1, ?_, h3⟩
      rw [List.length_append, ← Nat.add_assoc]
      exact h2

end Streaming

/-! ## The cut behind a chunk that is too long -/

/-- The zero chunk no one sends any more. -/
def LastChunk.zero : LastChunk where
  digits := [48]
  ext := []
  trailers := []
  hex := List.all_eq_true.1 (by decide)
  digits_ne := zeroSize_ne
  ext_ok := noExt_ok
  size := by decide
  trailers_ok := noTrailers_ok

/-- What the reader takes such a chunk for. -/
def Chunk.cutPiece (c : Chunk) : Piece := ⟨c.line, c.data.take (2 ^ 32 - 1), crlf⟩

section Oversize
variable {body : ChunkedBody} {pre post : List Chunk} {c : Chunk}

/-- What arrives: everything up to the CR LF inside the data. -/
def Chunk.cutBytes (c : Chunk) (pre : List Chunk) : Bytes :=
  pre.flatMap Chunk.encode ++ (c.line ++ crlf ++ c.data.take (2 ^ 32 + 1))

theorem take_cut (h : (c.data.drop (2 ^ 32 - 1)).take 2 = crlf) :
    c.data.take (2 ^ 32 + 1) = c.data.take (2 ^ 32 - 1) ++ crlf ∧ 2 ^ 32 + 1 ≤ c.data.length := by
  refine ⟨?_, ?_⟩
  · rw [show 2 ^ 32 + 1 = 2 ^ 32 - 1 + 2 by omega, List.take_add, h]
  · have h1 := congrArg List.length h
    simp only [List.length_take, List.length_drop, crlf, List.length_cons, List.length_nil] at h1
    omega

theorem cut_pieces_ok (hpre : ∀ d ∈ pre, d.Readable) (hl : c.line.length ≤ 126) :
    ∀ p ∈ pre.map Chunk.piece ++ [c.cutPiece], p.Ok True := by
  intro p hp
  rcases List.mem_append.1 hp with hp | hp
  · obtain ⟨d, hd, rfl⟩ := List.mem_map.1 hp
    exact d.piece_ok (hpre d hd).2 fun _ => (hpre d hd).1
  · obtain rfl : p = c.cutPiece := List.mem_singleton.1 hp
    exact ⟨c.stopper_size [], c.stopper_data_ne [], c.line_ne, c.line_lf, fun _ => Or.inl rfl, fun _ => hl⟩

/-- The stream the reader believes to be reading. -/
def cutEnding (pre : List Chunk) (c : Chunk) (hok : ∀ p ∈ pre.map Chunk.piece ++ [c.cutPiece], p.Ok True) : Ending :=
  Ending.ofLast .zero [] (LastChunk.zero.line ++ crlf ++ ([] ++ crlf ++ [])) true
    (pre.map Chunk.piece ++ [c.cutPiece]) True (fun _ => Or.inr rfl) (fun _ => by decide) hok

/-- One segment, then a close. -/
def cutClient (pre : List Chunk) (c : Chunk) : WiFiClient := ⟨WiFiClient.unread (c.cutBytes pre) [], true⟩

theorem cutClient_bytes : (cutClient pre c).bytes = c.cutBytes pre := by
  simp only [cutClient, WiFiClient.bytes, WiFiClient.unread_flatMap, List.flatMap_nil, List.append_nil]

theorem cut_follow (hok : ∀ p ∈ pre.map Chunk.piece ++ [c.cutPiece], p.Ok True)
    (h : (c.data.drop (2 ^ 32 - 1)).take 2 = crlf) :
    Follow (cutEnding pre c hok) ((Framing.chunked body).reader (cutClient pre c))
      (pre.flatMap Chunk.data ++ c.data.take (2 ^ 32 - 1)) := by
  have h0 : At (cutEnding pre c hok) ((Framing.chunked body).reader (cutClient pre c)) [] crlf
      (pre.map Chunk.piece ++ [c.cutPiece]) := by
    refine ⟨⟨rfl, rfl⟩, rfl, rfl, rfl, ?_, rfl, fun hp => ?_, ⟨[], rfl, by simp⟩, fun _ => rfl, Or.inl rfl,
      fun _ => WiFiClient.unread_smooth (by simp)⟩
    · change (cutClient pre c).bytes ++ _ = _
      rw [cutClient_bytes, rawFrom, if_pos rfl, rawChunks_append, rawChunks_pieces, Chunk.cutBytes, (take_cut h).1]
      simp [rawChunks, Chunk.cutPiece, cutEnding, Ending.ofLast, Ending.after, LastChunk.zero, LastChunk.line]
    · cases hp
  refine .here h0 ?_
  simp only [dataFrom, List.flatMap_append, data_pieces, List.flatMap_cons, List.flatMap_nil, List.append_nil,
    List.nil_append, Chunk.cutPiece]

theorem streamDocument_clean (hc : E.clean) (hcl : E.closed = true) (hm : E.miss = E.last ++ crlf ++ E.after)
    (hch : E.chunked = true) {r : BodyReader} {left : Bytes} (h : Follow E r left) (hne : left ≠ []) :
    (streamDocument Transport.immediate [] {} idleBackend r).ok = true := by
  have hdl : Streaming.expired 0 (millis (millis idleBackend.now + ippJobDeadlineMs)) = false := by decide
  have hloop := Streaming.loop_clean hc hcl hm hch hdl (r.client.size + 1)
    { service := {}, backend := idleBackend, reader := r } left (Nat.lt_succ_self _) h ⟨rfl, rfl, Or.inl rfl⟩ rfl
  have verdict : ∀ d : Streaming Unit, d.ok = true ∧ d.service.lastJobBytes = 0 + left.length ∧ d.reader.Complete →
      (if d.accepted then d else d.reject).ok = true := by
    rintro d ⟨h1, h2, h3, h4⟩
    have hbytes : 0 < d.service.lastJobBytes := by
      rw [h2]
      exact Nat.lt_of_lt_of_le (List.length_pos_iff.2 hne) (Nat.le_add_left _ _)
    have hacc : d.accepted = true := by
      simp only [Streaming.accepted, h1, h3, h4, Bool.not_false, Bool.and_self, Bool.true_and, decide_eq_true_eq]
      exact hbytes
    rw [if_pos hacc]
    exact h1
  unfold streamDocument
  refine verdict (Streaming.stream Transport.immediate [] {} idleBackend r) ?_
  unfold Streaming.stream
  exact hloop

/-- The document cut inside the chunk is accepted. -/
theorem oversize_accepted (body : ChunkedBody) (hpre : ∀ d ∈ pre, d.Readable) (hl : c.line.length ≤ 126)
    (h : (c.data.drop (2 ^ 32 - 1)).take 2 = crlf) {k : Nat} (hk : k < 2 ^ 32 - 1) :
    ∃ bs r, ((Framing.chunked body).reader (cutClient pre c)).readExact k = (some bs, r) ∧
      (streamDocument Transport.immediate [] {} idleBackend r).ok = true := by
  have hok := cut_pieces_ok hpre hl
  have hf : Follow (cutEnding pre c hok) ((Framing.chunked body).reader (cutClient pre c)) _ := cut_follow hok h
  have hbig := (take_cut h).2
  have hlen : 2 ^ 32 - 1 ≤ (pre.flatMap Chunk.data ++ c.data.take (2 ^ 32 - 1)).length := by
    rw [List.length_append, List.length_take]
    omega
  obtain ⟨bs, r, e⟩ := BodyReader.readExact_clean (E := cutEnding pre c hok) trivial k _ _ hf (by omega)
  refine ⟨bs, r, e, ?_⟩
  obtain ⟨left, hleft, hbs, hr⟩ := BodyReader.readExact_follow k _ _ hf e
  have hpos : 0 < left.length := by
    have h1 : (pre.flatMap Chunk.data ++ c.data.take (2 ^ 32 - 1)).length = bs.length + left.length := by
      rw [hleft, List.length_append]
    omega
  exact streamDocument_clean (E := cutEnding pre c hok) trivial rfl rfl rfl hr (List.length_pos_iff.1 hpos)

theorem cut_encode (pre : List Chunk) (c : Chunk) (rest : List Chunk) :
    (c.cutBytes pre).length < ((pre ++ c :: rest).flatMap Chunk.encode).length := by
  simp only [Chunk.cutBytes, Chunk.encode, List.flatMap_append, List.flatMap_cons, List.length_append, List.length_take]
  have : 0 < crlf.length := by decide
  omega

/-- **The defect.** A framing that does not fit can be cut so that the verdict is wrong. -/
theorem not_truncationSafe (e : body.chunks = pre ++ c :: post) (hpre : ∀ d ∈ pre, d.Readable)
    (hl : c.line.length ≤ 126) (h : (c.data.drop (2 ^ 32 - 1)).take 2 = crlf) {k : Nat} (hk : k < 2 ^ 32 - 1) :
    ¬(Framing.chunked body).TruncationSafe k := by
  intro hsafe
  obtain ⟨bs, r, hr, hacc⟩ := oversize_accepted body hpre hl h hk
  have hcut : (cutClient pre c).bytes ++
      (c.data.drop (2 ^ 32 + 1) ++ crlf ++ post.flatMap Chunk.encode ++ body.last.encode) =
      (Framing.chunked body).encode ++ [] := by
    have hd := List.take_append_drop (2 ^ 32 + 1) c.data
    rw [cutClient_bytes, Chunk.cutBytes, Framing.encode, ChunkedBody.encode, e, List.append_nil]
    generalize c.data.take (2 ^ 32 + 1) = x at hd
    generalize c.data.drop (2 ^ 32 + 1) = y at hd
    simp only [List.flatMap_append, List.flatMap_cons, Chunk.encode, ← hd, List.append_assoc]
  have hv := (hsafe (cutClient pre c) [] _ bs r hcut hr Unit Transport.immediate
    idleBackend {} [] rfl rfl).accepted hacc
  rcases hv.2.2 with ⟨-, hthrough⟩ | ⟨body', cpre, cpost, hb, hcs, hbytes, -, -⟩
  · -- the chunk's own end never arrived
    have h1 := hthrough.length_le
    rw [cutClient_bytes, Framing.through, e, List.length_append] at h1
    have h2 := cut_encode pre c post
    omega
  · -- the cut is not between two chunks
    obtain rfl : body = body' := Framing.chunked.inj hb
    rw [cutClient_bytes] at hbytes
    rw [e] at hcs
    rcases List.append_eq_append_iff.1 hcs with ⟨m, rfl, hm⟩ | ⟨m, rfl, -⟩
    · cases m with
      | nil =>
        have h1 := congrArg List.length hbytes
        simp only [Chunk.cutBytes, List.append_nil, List.length_append] at h1
        have : 0 < crlf.length := by decide
        omega
      | cons d m =>
        obtain ⟨rfl, rfl⟩ := List.cons.inj hm
        have h2 := cut_encode pre c m
        rw [← hbytes] at h2
        exact absurd h2 (Nat.lt_irrefl _)
    · have h1 := congrArg List.length hbytes
      simp only [Chunk.cutBytes, List.flatMap_append, List.length_append] at h1
      have : 0 < crlf.length := by decide
      omega

end Oversize

/-- A Print-Job header, no attributes, then a document in the same chunk of `2^32 + 1` bytes. -/
def oversizeChunk : Chunk where
  digits := ascii "100000001"
  ext := []
  data := [2, 0, 0, 2, 0, 0, 0, 1, 3] ++ List.replicate (2 ^ 32 - 10) 65 ++ crlf
  hex := List.all_eq_true.1 (by decide)
  digits_ne := by decide
  ext_ok := noExt_ok
  size := by
    have h : hexValue (ascii "100000001") = 2 ^ 32 + 1 := by decide
    have hhead : ([2, 0, 0, 2, 0, 0, 0, 1, 3] : Bytes).length = 9 := rfl
    have hcr : crlf.length = 2 := rfl
    have hsum : 2 ^ 32 + 1 = 9 + (2 ^ 32 - 10) + 2 := by omega
    rw [List.length_append, List.length_append, List.length_replicate, hhead, hcr]
    exact h.trans hsum
  data_ne := List.append_ne_nil_of_right_ne_nil _ (by decide)

/-- Its transfer is cut before the CR LF that ends the chunk. -/
theorem oversizeChunk_truncated : ¬(Framing.chunked ⟨[oversizeChunk], .zero⟩).TruncationSafe 9 := by
  have hcut : (oversizeChunk.data.drop (2 ^ 32 - 1)).take 2 = crlf := by
    have hlen : ([2, 0, 0, 2, 0, 0, 0, 1, 3] ++ List.replicate (2 ^ 32 - 10) (65 : UInt8)).length = 2 ^ 32 - 1 := by
      have hhead : ([2, 0, 0, 2, 0, 0, 0, 1, 3] : Bytes).length = 9 := rfl
      have hsum : 9 + (2 ^ 32 - 10) = 2 ^ 32 - 1 := by omega
      exact (List.length_append.trans (congrArg₂ _ hhead (List.length_replicate))).trans hsum
    rw [oversizeChunk, List.drop_left' hlen]
    rfl
  have hline : oversizeChunk.line.length ≤ 126 := by
    change (ascii "100000001" ++ []).length ≤ 126
    decide
  have hno : ∀ d ∈ ([] : List Chunk), d.Readable := by simp
  exact not_truncationSafe rfl hno hline hcut (by omega)

/-- **A truncated IPP document is never accepted**, exactly when the framing fits: for every framing
with a Content-Length below `2^31` or chunks, every number `k` of attribute bytes before the document,
every cut, stall and segmentation, and any answers of `sendDirect`. (A framing that does not fit fails
for attributes below 4 GiB.) -/
theorem truncation_detected (f : Framing) (hz : f.Sized) (k : Nat) :
    (f.Fits → f.TruncationSafe k) ∧ (k < 2 ^ 32 - 1 → f.TruncationSafe k → f.Fits) := by
  cases f with
  | length body => exact ⟨fun _ => truncationSafe_length hz k, fun _ _ => trivial⟩
  | chunked body =>
    refine ⟨fun h => truncationSafe_chunked h k, fun hk hsafe pre c post e hpre hl _ h => ?_⟩
    exact not_truncationSafe e hpre hl h hk hsafe

/-- Chunks of three and two bytes. -/
theorem truncation_detected_chunks : (Framing.chunked helloChunks).TruncationSafe 2 := by
  have hsmall : ∀ d ∈ helloChunks.chunks, d.data.length < 2 ^ 32 := by decide
  refine (truncation_detected (.chunked helloChunks) trivial 2).1 ?_
  intro pre c post e _ _ hbig
  have hmem : c ∈ helloChunks.chunks := by
    rw [e]
    simp
  exact absurd (hsmall c hmem) (Nat.not_lt_of_le hbig)

end PrintServer
