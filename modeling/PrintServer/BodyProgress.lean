import PrintServer.BodyFraming
/-!
# Reading only moves forward

Whatever the socket holds, every operation of the reader consumes some bytes and stalls of it and
nothing else (`Fwd`), and a block is not longer than what it consumed (`readBlock_fwd`): this
bounds the loops that read until nothing comes.
-/
namespace PrintServer
namespace BodyReader

/-- Whatever is in the socket, reading a line only moves forward. -/
theorem rawLineLoop_fwd : ∀ (n : Nat) (acc : Bytes) (r : BodyReader),
    ∃ ok line c p x, rawLineLoop n acc r = (ok, line, { r with client := c, peerClosed := p }) ∧ Fwd r.client c x
  | 0, acc, r => ⟨false, acc, r.client, r.peerClosed, [], rfl, Fwd.refl _⟩
  | n + 1, acc, r => by
    rcases r.rawByte_cases with ⟨b, c, e, hf⟩ | ⟨c, p, e, hf, -, -⟩
    · by_cases hb : b = lf
      · exact ⟨true, stripCr acc, c, r.peerClosed, [b], by simp [rawLineLoop, e, hb], hf⟩
      · obtain ⟨ok, line, c', p', x, e', hf'⟩ := rawLineLoop_fwd n (acc ++ [b]) { r with client := c }
        exact ⟨ok, line, c', p', _, by simp [rawLineLoop, e, hb, e'], hf.trans hf'⟩
    · exact ⟨false, acc, c, p, [], by simp [rawLineLoop, e], hf⟩

theorem skipTrailer_fwd : ∀ (n : Nat) (r : BodyReader),
    ∃ c p x, skipTrailer n r = { r with client := c, peerClosed := p } ∧ Fwd r.client c x
  | 0, r => ⟨r.client, r.peerClosed, [], rfl, Fwd.refl _⟩
  | n + 1, r => by
    obtain ⟨ok, line, c, p, x, e, hf⟩ := rawLineLoop_fwd 128 [] r
    match ok with
    | false => exact ⟨c, p, x, by simp [skipTrailer, rawLine, e], hf⟩
    | true =>
      by_cases hl : line.isEmpty = true
      · exact ⟨c, p, x, by simp [skipTrailer, rawLine, e, hl], hf⟩
      · obtain ⟨c', p', x', e', hf'⟩ := skipTrailer_fwd n { r with client := c, peerClosed := p }
        exact ⟨c', p', _, by simp [skipTrailer, rawLine, e, hl, e'], hf.trans hf'⟩

theorem sizeLine_fwd : ∀ (n : Nat) (r : BodyReader), ∃ x, Fwd r.client (sizeLine n r).2.client x
  | 0, r => ⟨[], Fwd.refl _⟩
  | n + 1, r => by
    obtain ⟨ok, line, c, p, x, e, hf⟩ := rawLineLoop_fwd 128 [] r
    match ok with
    | false =>
      refine ⟨x, ?_⟩
      simp only [sizeLine, rawLine, e]
      split <;> exact hf
    | true =>
      by_cases hl : line.isEmpty = true
      · obtain ⟨x', hf'⟩ := sizeLine_fwd n { r with client := c, peerClosed := p }
        exact ⟨_, by simpa only [sizeLine, rawLine, e, hl, if_true] using hf.trans hf'⟩
      · refine ⟨x, ?_⟩
        simp only [sizeLine, rawLine, e, if_neg hl]
        exact hf

theorem nextChunk_fwd (r : BodyReader) : ∃ x, Fwd r.client r.nextChunk.2.client x := by
  obtain ⟨x, hf⟩ := sizeLine_fwd (r.client.size + 1) r
  unfold nextChunk
  cases h : sizeLine (r.client.size + 1) r with
  | mk line r1 =>
    rw [h] at hf
    cases line with
    | none => exact ⟨x, hf⟩
    | some line =>
      simp only
      split
      · exact ⟨x, hf⟩
      · obtain ⟨c, p, x', e, hf'⟩ := skipTrailer_fwd (r1.client.size + 1) r1
        exact ⟨_, by rw [e]; exact hf.trans hf'⟩
      · exact ⟨x, hf⟩

theorem openChunk_fwd (r : BodyReader) : ∃ x, Fwd r.client r.openChunk.2.client x := by
  unfold openChunk
  split
  · exact r.nextChunk_fwd
  · exact ⟨[], Fwd.refl _⟩

theorem rawByte_fwd (r : BodyReader) : ∃ x, Fwd r.client r.rawByte.2.client x := by
  rcases r.rawByte_cases with ⟨b, c, e, hf⟩ | ⟨c, p, e, hf, -, -⟩
  · exact ⟨[b], by rw [e]; exact hf⟩
  · exact ⟨[], by rw [e]; exact hf⟩

theorem readCrlf_fwd (r : BodyReader) : ∃ x, Fwd r.client r.readCrlf.2.client x := by
  obtain ⟨x, hf⟩ := r.rawByte_fwd
  unfold readCrlf
  cases h : r.rawByte with
  | mk a r1 =>
    rw [h] at hf
    cases a with
    | none => exact ⟨x, hf⟩
    | some a =>
      obtain ⟨x', hf'⟩ := r1.rawByte_fwd
      simp only
      cases h' : r1.rawByte with
      | mk b r2 =>
        rw [h'] at hf'
        cases b <;> exact ⟨_, hf.trans hf'⟩

theorem endData_fwd (r : BodyReader) (n : Nat) : ∃ x, Fwd r.client (r.endData n).2.client x := by
  unfold endData
  simp only
  split
  · obtain ⟨x, hf⟩ := readCrlf_fwd { r with chunkRemaining := r.chunkRemaining - n }
    cases h : readCrlf { r with chunkRemaining := r.chunkRemaining - n } with
    | mk ok r1 =>
      rw [h] at hf
      cases ok <;> exact ⟨x, hf⟩
  · exact ⟨[], Fwd.refl _⟩

theorem readClientBlock_fwd (c : WiFiClient) (k : Nat) : Fwd c (readClientBlock c k).2 (readClientBlock c k).1 := by
  obtain ⟨inc, cl⟩ := c
  match inc with
  | [] => exact Fwd.refl _
  | .stall :: es => exact WiFiClient.fwd_stall es cl
  | .seg b bs :: es => exact WiFiClient.fwd_seg b bs es cl k

/-- The induction is on the fuel of the loop. -/
theorem blockLoop_fwd (capacity : Nat) : ∀ (n : Nat) (out : Bytes) (r : BodyReader),
    ∃ x, Fwd r.client (blockLoop capacity n out r).2.client x ∧
      (blockLoop capacity n out r).1.length ≤ out.length + x.length
  | 0, out, r => ⟨[], Fwd.refl _, Nat.le_refl _⟩
  | n + 1, out, r => by
    simp only [blockLoop]
    split
    · obtain ⟨x, hf⟩ := r.openChunk_fwd
      cases ho : r.openChunk with
      | mk ok r1 =>
        rw [ho] at hf
        cases ok with
        | false => exact ⟨x, hf, Nat.le_add_right _ _⟩
        | true =>
          have hf' := readClientBlock_fwd r1.client (min r1.chunkRemaining (capacity - out.length))
          simp only
          cases hg : readClientBlock r1.client (min r1.chunkRemaining (capacity - out.length)) with
          | mk got c =>
            rw [hg] at hf'
            match got with
            | [] => exact ⟨_, hf.trans hf', Nat.le_add_right _ _⟩
            | g :: gs =>
              obtain ⟨x2, hf2⟩ := endData_fwd { r1 with client := c } (g :: gs).length
              simp only
              cases he : endData { r1 with client := c } (g :: gs).length with
              | mk ok r2 =>
                rw [he] at hf2
                have hall := (hf.trans hf').trans hf2
                cases ok with
                | false =>
                  refine ⟨_, hall, ?_⟩
                  simp only [List.length_append]
                  omega
                | true =>
                  obtain ⟨x3, hf3, hl3⟩ := blockLoop_fwd capacity n (out ++ g :: gs) r2
                  refine ⟨_, hall.trans hf3, ?_⟩
                  simp only [List.length_append] at hl3 ⊢
                  omega
    · exact ⟨[], Fwd.refl _, Nat.le_add_right _ _⟩

theorem readBlock_fwd (r : BodyReader) (capacity : Nat) :
    ∃ x, Fwd r.client (r.readBlock capacity).2.client x ∧ (r.readBlock capacity).1.length ≤ x.length := by
  unfold readBlock
  split
  · exact ⟨[], Fwd.refl _, Nat.le_refl _⟩
  split
  · split
    · exact ⟨[], Fwd.refl _, Nat.le_refl _⟩
    · simp only
      generalize (if 0 < r.remaining then min capacity r.remaining.toNat else capacity) = want
      have hf := readClientBlock_fwd r.client want
      cases hg : readClientBlock r.client want with
      | mk got c =>
        rw [hg] at hf
        refine ⟨got, ?_⟩
        match got with
        | [] =>
          simp only
          split <;> exact ⟨hf, Nat.le_refl _⟩
        | g :: gs =>
          simp only
          split <;> exact ⟨hf, Nat.le_refl _⟩
  · obtain ⟨x, hf, hl⟩ := blockLoop_fwd capacity capacity [] r
    exact ⟨x, hf, by simpa using hl⟩

end BodyReader
end PrintServer
