import PrintServer.RawMoves
/-!
# RAW 9100 as a passthrough (usb_printer_backend.cpp:318-428, README.md:3-16)

A connection is the list of polls from its accept to its clean FIN; the backend before each poll
is arbitrary. Every byte read in a poll goes out in that poll (`readLoop_cases`, `afterRead_open`).
The PJL detector is the exception: with the read that completes `"@PJL EOJ"` the server stops
reading, whatever the client sends after it. `passthrough_iff` says for which segmentations this
loses nothing.
-/
namespace PrintServer

/-- A call of `handleRawServer` and the backend it finds. -/
structure Visit (σ : Type) where
  backend : UsbPrinterBackend σ
  poll : RawPoll

/-- A refused block, or one of the idle timeouts. -/
def RawEvent.disturbs : RawEvent → Bool
  | .sent _ ok => !ok
  | .stalled | .probeIdle => true
  | _ => false

def Undisturbed (log : List RawEvent) : Prop := ∀ e ∈ log, e.disturbs = false

instance (log : List RawEvent) : Decidable (Undisturbed log) := inferInstanceAs (Decidable (∀ e ∈ log, _))

/-- What `read()` can return at byte `seen` of a connection, `here` bytes into a poll: some bytes,
and no more than the buffer it is given (:323-333). -/
def Fits (seen : Nat) : Nat → List Bytes → Prop
  | _, [] => True
  | here, bs :: rx =>
    0 < bs.length ∧
      bs.length ≤ min (min bulkOutChunkSize (usbBufferSize - here)) (usbBufferSize - (seen + here) % usbBufferSize) ∧
      Fits seen (here + bs.length) rx

/-- The same over the polls of a connection. -/
def Segmented : Nat → List RawPoll → Prop
  | _, [] => True
  | seen, p :: ps => Fits seen 0 p.rx ∧ Segmented (seen + p.rx.flatten.length) ps

namespace RawPoll

/-- The client is there, or has left bytes to read. -/
def KeepsOpen (p : RawPoll) : Prop := p.accept = false ∧ (p.peer = .isOpen ∨ p.pending = true)

/-- A FIN, and nothing left to read. -/
def Fin (p : RawPoll) : Prop := p.accept = false ∧ p.peer = .cleanFin ∧ p.pending = false

end RawPoll

/-- All reads of a connection, in order. -/
def reads (ps : List RawPoll) : List Bytes := ps.flatMap (·.rx)

section Logs

theorem Undisturbed.of_prefix {l l' : List RawEvent} (h : Undisturbed l') (hp : l <+: l') : Undisturbed l :=
  fun e he => h e (hp.subset he)

theorem Undisturbed.not_refused {l l' : List RawEvent} {data : Bytes} {e : RawEvent}
    (h : Undisturbed (l ++ l' ++ [.sent data false, e])) : False := by
  have hd := h (.sent data false) (List.mem_append_right _ (List.mem_cons_self ..))
  cases hd

theorem payload_note (l : List RawEvent) {e : RawEvent} (h : ∀ data, e ≠ .sent data true) :
    payload (l ++ [e]) = payload l := by
  rw [payload_append]
  cases e with
  | sent data ok => cases ok with
    | true => exact absurd rfl (h data)
    | false => exact List.append_nil _
  | _ => exact List.append_nil _

end Logs

/-! ## Inside a poll -/

/-- An open connection: `text` was sent, `here` is in the ring. -/
structure Reading (text here : Bytes) (r : RawServer) : Prop where
  started : r.started = true
  client : r.client = true
  closing : r.transportClosing = false
  ring : r.RingOk
  readPos : r.readPos = text.length % usbBufferSize
  queue : r.queue = here
  received : r.bytesReceived = text.length
  pjl : r.pjl.Read (text ++ here)
  noMarker : ¬ pjlEoj <:+: text ++ here

/-- The connection is closing or gone, with nothing left in the ring. -/
def Over (r : RawServer) : Prop := r.dataLen = 0 ∧ (r.transportClosing = true ∨ r.client = false)

theorem over_reset (r : RawServer) : Over r.reset := ⟨rfl, Or.inr rfl⟩

namespace Reading
variable {text here : Bytes} {r : RawServer}

theorem dataLen (h : Reading text here r) : r.dataLen = here.length := by
  rw [← h.queue, RawServer.length_queue]

theorem isOpen (h : Reading text here r) : r.isOpen = true := RawServer.isOpen_iff.2 ⟨h.client, h.closing⟩

theorem sound (h : Reading text here r) : r.Sound := RawServer.sound_of_open h.isOpen h.ring

theorem request (h : Reading text here r) : r.request =
    min (min bulkOutChunkSize (usbBufferSize - here.length))
      (usbBufferSize - (text.length + here.length) % usbBufferSize) := by
  rw [RawServer.request_eq h.ring, h.ring.writePos_eq, h.readPos, Nat.mod_add_mod, h.dataLen]

/-- A read that completes no marker. -/
theorem receive {got : Bytes} {pjl : PjlDetector} (now : Nat) (h : Reading text here r) (hg : got.length ≤ r.request)
    (hp : pjl.Read (text ++ here ++ got)) (hn : ¬ pjlEoj <:+: text ++ here ++ got) :
    Reading text (here ++ got) { r.receive now got with pjl } where
  started := h.started
  client := h.client
  closing := h.closing
  ring := (RawServer.ringOk_receive now h.ring hg).scanned pjl
  readPos := h.readPos
  queue := by
    rw [← h.queue]
    exact RawServer.queue_receive now h.ring hg
  received := h.received
  pjl := by rwa [← List.append_assoc]
  noMarker := by rwa [← List.append_assoc]

/-- The drain moves the ring's content to what was sent. -/
theorem drained (h : Reading text here r) : Reading (text ++ here) [] (r.sent r.dataLen) where
  started := h.started
  client := h.client
  closing := h.closing
  ring := RawServer.ringOk_sent h.ring (Nat.le_refl _)
  readPos := by
    show (r.readPos + r.dataLen) % usbBufferSize = _
    rw [h.readPos, h.dataLen, Nat.mod_add_mod, List.length_append]
  queue := by
    rw [RawServer.queue_sent (Nat.le_refl _)]
    exact List.drop_eq_nil_of_le (Nat.le_of_eq r.length_queue)
  received := by
    show r.bytesReceived + r.dataLen = _
    rw [h.received, h.dataLen, List.length_append]
  pjl := by
    rw [List.append_nil]
    exact h.pjl
  noMarker := by
    rw [List.append_nil]
    exact h.noMarker

end Reading

/-- The marker is complete with the read `b` and not before. -/
structure Completes (text : Bytes) (rx : List Bytes) (pre : List Bytes) (b : Bytes) (post : List Bytes) : Prop where
  split : rx = pre ++ b :: post
  before : ¬ pjlEoj <:+: text ++ pre.flatten
  complete : pjlEoj <:+: text ++ pre.flatten ++ b

namespace Serving
variable {σ : Type} (T : Transport σ) {text here : Bytes} {s : Serving σ}

theorem finishRawConnection_over (reason : String) (hd : s.raw.dataLen = 0) :
    Over (s.finishRawConnection T reason).raw ∧ payload (s.finishRawConnection T reason).log = payload s.log := by
  unfold finishRawConnection
  by_cases hc : s.raw.transportClosing = true
  · rw [if_pos hc]
    exact ⟨⟨hd, Or.inl hc⟩, rfl⟩
  rw [if_neg hc]
  by_cases h0 : s.raw.bytesReceived = 0
  · rw [if_pos h0]
    exact ⟨over_reset _, payload_note _ (by simp)⟩
  · rw [if_neg h0]
    exact ⟨⟨hd, Or.inl rfl⟩, payload_note _ (by simp)⟩

/-- The read with the marker: everything so far goes out and the connection is finished. -/
theorem eoj_over {got : Bytes} (h : Reading text here s.raw) (hg : got.length ≤ s.raw.request) (reason : String)
    {m : Serving σ} (hm : m.raw = { s.raw.receive s.backend.now got with pjl := .idle } ∧
      m.log = s.log ++ [.read got] ++ [.eoj]) :
    ((m.drainRingToUsb T).1 = false → ¬ Undisturbed (m.drainRingToUsb T).2.log) ∧
      ((m.drainRingToUsb T).1 = true → Over ((m.drainRingToUsb T).2.finishRawConnection T reason).raw ∧
        payload ((m.drainRingToUsb T).2.finishRawConnection T reason).log = payload s.log ++ here ++ got) := by
  obtain ⟨hraw, hlog⟩ := hm
  have hring : m.raw.RingOk := by
    rw [hraw]
    exact (RawServer.ringOk_receive _ h.ring hg).scanned _
  have hqueue : m.raw.queue = here ++ got := by
    rw [hraw, ← h.queue]
    exact RawServer.queue_receive s.backend.now h.ring hg
  rcases drainRingToUsb_cases T hring with ⟨h1, h2⟩ | ⟨h1, h2⟩
  · refine ⟨fun hf => (by rw [h1] at hf; cases hf), fun _ => ?_⟩
    have hd : (m.drainRingToUsb T).2.raw.dataLen = 0 := by
      rw [h2.raw]
      exact Nat.sub_self _
    obtain ⟨ho, hp⟩ := finishRawConnection_over T reason hd
    refine ⟨ho, ?_⟩
    rw [hp, h2.payload, hlog, payload_note _ (by simp), payload_note _ (by simp), hqueue, List.append_assoc]
  · refine ⟨fun _ hu => ?_, fun ht => (by rw [h1] at ht; cases ht)⟩
    obtain ⟨l, data, e, hl⟩ := h2.log
    rw [hl] at hu
    exact hu.not_refused

/-- The read loop takes all that the socket holds, or up to the read that completes the marker. -/
theorem readLoop_cases : ∀ (rx : List Bytes) (here : Bytes) (s : Serving σ), Reading text here s.raw →
    Fits text.length here.length rx →
    (∃ s', s.readLoop T rx = (true, s') ∧ Reading text (here ++ rx.flatten) s'.raw ∧ payload s'.log = payload s.log) ∨
      ((s.readLoop T rx).1 = false ∧ ∃ pre b post, Completes (text ++ here) rx pre b post ∧
        (Undisturbed (s.readLoop T rx).2.log → Over (s.readLoop T rx).2.raw ∧
          payload (s.readLoop T rx).2.log = payload s.log ++ here ++ pre.flatten ++ b))
  | [], here, s, h, _ => Or.inl ⟨s, rfl, by rwa [List.flatten_nil, List.append_nil], rfl⟩
  | bs :: rx, here, s, h, ⟨hpos, hle, hf⟩ => by
    have hroom : ¬ usbBufferSize ≤ s.raw.dataLen := by
      rw [h.dataLen]
      omega
    have hreq : bs.length ≤ s.raw.request := by rwa [h.request]
    have htake : bs.take s.raw.request = bs := List.take_of_length_le hreq
    have hne : bs.isEmpty = false := by
      cases bs with
      | nil => exact absurd hpos (Nat.lt_irrefl 0)
      | cons _ _ => rfl
    obtain ⟨hfound, hread⟩ := h.pjl.scan h.noMarker bs
    unfold readLoop
    rw [if_neg hroom]
    simp only [htake, hne, Bool.false_eq_true, if_false]
    rcases hscan : s.raw.pjl.scan bs with ⟨_ | _, pjl⟩
    · rw [hscan] at hfound hread
      have hn : ¬ pjlEoj <:+: text ++ here ++ bs := fun e => by simpa using hfound.2 e
      have hnext := h.receive s.backend.now hreq (hread rfl) hn
      have hfits : Fits text.length (here ++ bs).length rx := by rwa [List.length_append]
      simp only []
      have hlog : payload (s.log ++ [.read bs]) = payload s.log := payload_note _ (by simp)
      rcases readLoop_cases rx (here ++ bs)
          (({ s with raw := { s.raw.receive s.backend.now bs with pjl } } : Serving σ).note (.read bs)) hnext hfits
        with ⟨s', h1, h2, h3⟩ | ⟨h1, pre, b, post, h2, h3⟩
      · refine Or.inl ⟨s', h1, ?_, h3.trans hlog⟩
        rwa [List.flatten_cons, ← List.append_assoc]
      · refine Or.inr ⟨h1, bs :: pre, b, post, ⟨?_, ?_, ?_⟩, fun hu => ?_⟩
        · rw [h2.split, List.cons_append]
        · rw [List.flatten_cons, ← List.append_assoc, List.append_assoc text here bs]
          exact h2.before
        · rw [List.flatten_cons, ← List.append_assoc, List.append_assoc text here bs]
          exact h2.complete
        · obtain ⟨ho, hp⟩ := h3 hu
          refine ⟨ho, hp.trans ?_⟩
          show payload (s.log ++ [.read bs]) ++ _ ++ _ ++ _ = _
          rw [hlog, List.flatten_cons]
          simp only [List.append_assoc]
    · rw [hscan] at hfound
      simp only []
      obtain ⟨hbad, hgood⟩ := eoj_over T h hreq "pjl-eoj-detected"
        (m := (({ s with raw := { s.raw.receive s.backend.now bs with pjl := .idle } } : Serving σ).note
          (.read bs)).note .eoj) ⟨rfl, rfl⟩
      refine Or.inr ⟨?_, [], bs, rx, ⟨rfl, ?_, ?_⟩, ?_⟩
      · split <;> rfl
      · rw [List.flatten_nil, List.append_nil]
        exact h.noMarker
      · rw [List.flatten_nil, List.append_nil]
        exact hfound.1 rfl
      · rw [List.flatten_nil, List.append_nil]
        intro hu
        split at hu
        · rename_i s1 hs1
          rw [hs1] at hbad
          exact absurd hu (hbad rfl)
        · rename_i s1 hs1
          rw [hs1] at hgood
          exact hgood rfl

/-- With everything sent, what happens is the peer's choice. -/
theorem checkPeer_cases (p : RawPoll) (h : Reading text [] s.raw) (hu : Undisturbed (s.checkPeer T p).log) :
    (p.KeepsOpen → s.checkPeer T p = s) ∧
      (p.Fin → Over (s.checkPeer T p).raw ∧ payload (s.checkPeer T p).log = payload s.log) := by
  unfold checkPeer at hu ⊢
  simp only [h.client, Bool.true_and, if_true] at hu ⊢
  split at hu
  · -- a stall is in the log
    exact absurd (hu .stalled (by simp [note, abortRawConnection])) (by simp [RawEvent.disturbs])
  rename_i h1
  rw [if_neg h1]
  split at hu
  · exact absurd (hu .probeIdle (by simp [note])) (by simp [RawEvent.disturbs])
  rename_i h1
  rw [if_neg h1]
  constructor
  · rintro ⟨_, hk⟩
    rcases hk with hpeer | hpend
    · rw [hpeer]
    · rw [hpend]
      cases p.peer <;> rfl
  · rintro ⟨_, hpeer, hpend⟩
    have hd : s.raw.dataLen = 0 := h.dataLen
    rw [hpeer, hpend]
    simp only [hd, Bool.not_false, and_self, if_true]
    exact finishRawConnection_over T _ hd

/-- A finished connection sends nothing more. -/
theorem handleRawServer_over (p : RawPoll) (h : Over s.raw) (ha : p.accept = false) :
    Over (s.handleRawServer T p).raw ∧ payload (s.handleRawServer T p).log = payload s.log := by
  obtain ⟨hd, hc⟩ := h
  unfold handleRawServer
  split
  · exact ⟨⟨hd, hc⟩, rfl⟩
  split
  · rename_i hclosing
    rw [if_neg (by rw [hd]; exact Nat.lt_irrefl 0)]
    unfold serviceRawTransportClose
    rw [hclosing]
    simp only [Bool.not_true, Bool.false_eq_true, if_false]
    split
    · exact ⟨⟨hd, hc⟩, rfl⟩
    split
    · exact ⟨⟨hd, hc⟩, rfl⟩
    · exact ⟨over_reset _, payload_note _ (by simp)⟩
  · rename_i hclosing
    have hclient : s.raw.client = false := hc.resolve_left hclosing
    rw [hclient, ha]
    exact ⟨⟨hd, hc⟩, rfl⟩

/-- **One poll of an open connection.** It stays open with all reads sent, or it is over: after the
FIN, or with the read that completes the marker. -/
theorem handleRawServer_open (p : RawPoll) (h : Reading text [] s.raw) (ht : payload s.log = text)
    (hf : Fits text.length 0 p.rx) (hu : Undisturbed (s.handleRawServer T p).log) :
    (¬ pjlEoj <:+: text ++ p.rx.flatten ∧
        (p.KeepsOpen → Reading (text ++ p.rx.flatten) [] (s.handleRawServer T p).raw ∧
          payload (s.handleRawServer T p).log = text ++ p.rx.flatten) ∧
        (p.Fin → Over (s.handleRawServer T p).raw ∧
          payload (s.handleRawServer T p).log = text ++ p.rx.flatten)) ∨
      ∃ pre b post, Completes text p.rx pre b post ∧ Over (s.handleRawServer T p).raw ∧
        payload (s.handleRawServer T p).log = text ++ pre.flatten ++ b := by
  unfold handleRawServer at hu ⊢
  simp only [h.started, h.closing, h.client, Bool.not_true, Bool.false_eq_true, if_false] at hu ⊢
  rcases readLoop_cases T p.rx [] s h hf with ⟨m, hm, hr, hl⟩ | ⟨h1, pre, b, post, hc, hover⟩
  · rw [hm] at hu ⊢
    simp only [List.nil_append] at hr
    refine Or.inl ⟨hr.noMarker, ?_⟩
    have hud : Undisturbed (m.drainRingToUsb T).2.log :=
      hu.of_prefix (log_of_moves T (moves_checkPeer T p
        ((drainRingToUsb_end T hr.ring hr.isOpen).imp (fun h => h.2.1) And.right)))
    rcases drainRingToUsb_cases T hr.ring with ⟨-, h2⟩ | ⟨-, h2⟩
    · have hr' : Reading (text ++ p.rx.flatten) [] (m.drainRingToUsb T).2.raw := by
        rw [h2.raw]
        exact hr.drained
      have hp : payload (m.drainRingToUsb T).2.log = text ++ p.rx.flatten := by rw [h2.payload, hl, ht, hr.queue]
      obtain ⟨hk, hfin⟩ := checkPeer_cases T p hr' hu
      refine ⟨fun hkeep => ?_, fun hf => ?_⟩
      · dsimp only
        rw [hk hkeep]
        exact ⟨hr', hp⟩
      · obtain ⟨ho, hp'⟩ := hfin hf
        exact ⟨ho, hp'.trans hp⟩
    · obtain ⟨l, data, e, hl'⟩ := h2.log
      rw [hl'] at hud
      exact hud.not_refused.elim
  · cases hloop : s.readLoop T p.rx with
    | mk more m =>
      rw [hloop] at h1 hover
      cases h1
      rw [hloop] at hu
      obtain ⟨ho, hp⟩ := hover hu
      rw [List.append_nil] at hc
      refine Or.inr ⟨pre, b, post, hc, ho, ?_⟩
      rw [hp, ht, List.append_nil]

end Serving

/-! ## Over the polls of a connection -/

section Visits
variable {σ : Type} (T : Transport σ)

/-- The RAW server's part of one `UsbPrinterBackend::poll`. -/
def visit (c : RawServer × List RawEvent) (v : Visit σ) : RawServer × List RawEvent :=
  let s : Serving σ := { backend := v.backend, raw := c.1.startIfNeeded v.poll.network, log := c.2 }
  let s := s.handleRawServer T v.poll
  (s.raw, s.log)

def visits (c : RawServer × List RawEvent) (vs : List (Visit σ)) : RawServer × List RawEvent :=
  vs.foldl (visit T) c

theorem sound_visit {c : RawServer × List RawEvent} (v : Visit σ) (h : c.1.Sound) : (visit T c v).1.Sound :=
  Serving.sound_handleRawServer T (s := ⟨v.backend, _, c.2⟩) v.poll (h.startIfNeeded _)

theorem sound_visits (vs : List (Visit σ)) {c : RawServer × List RawEvent} (h : c.1.Sound) : (visits T c vs).1.Sound := by
  induction vs generalizing c with
  | nil => exact h
  | cons v vs ih => exact ih (sound_visit T v h)

theorem log_visits (vs : List (Visit σ)) {c : RawServer × List RawEvent} (h : c.1.Sound) :
    c.2 <+: (visits T c vs).2 := by
  induction vs generalizing c with
  | nil => exact List.prefix_rfl
  | cons v vs ih =>
    have hv : c.2 <+: (visit T c v).2 :=
      Serving.log_handleRawServer T (s := ⟨v.backend, _, c.2⟩) v.poll (h.startIfNeeded _)
    exact hv.trans (ih (sound_visit T v h))

theorem Reading.startIfNeeded {text here : Bytes} {r : RawServer} (h : Reading text here r) (network : Bool) :
    r.startIfNeeded network = r := by
  unfold RawServer.startIfNeeded
  rw [h.started, Bool.true_or]
  cases r
  cases h.started
  rfl

theorem Over.startIfNeeded {r : RawServer} (h : Over r) (network : Bool) : Over (r.startIfNeeded network) := h

theorem visits_over (c : RawServer × List RawEvent) (vs : List (Visit σ)) (h : Over c.1)
    (ha : ∀ v ∈ vs, v.poll.accept = false) : payload (visits T c vs).2 = payload c.2 := by
  induction vs generalizing c with
  | nil => rfl
  | cons v vs ih =>
    obtain ⟨ho, hp⟩ := Serving.handleRawServer_over T (s := ⟨v.backend, c.1.startIfNeeded v.poll.network, c.2⟩)
      v.poll (h.startIfNeeded _) (ha v (List.mem_cons_self ..))
    exact (ih (visit T c v) ho fun w hw => ha w (List.mem_cons_of_mem _ hw)).trans hp

/-- What became of the reads `rx` of a connection: all of them went out, or those up to the marker. -/
inductive Outcome (text : Bytes) (rx : List Bytes) (sent : Bytes) : Prop where
  | all (noMarker : ¬ pjlEoj <:+: text ++ rx.flatten) (h : sent = text ++ rx.flatten)
  | cut (pre : List Bytes) (b : Bytes) (post : List Bytes) (hc : Completes text rx pre b post)
      (h : sent = text ++ pre.flatten ++ b)

/-- Earlier reads in front. -/
theorem Outcome.cons {text sent : Bytes} {rx rx' : List Bytes} (h : Outcome (text ++ rx.flatten) rx' sent) :
    Outcome text (rx ++ rx') sent := by
  cases h with
  | all hn h =>
    rw [List.append_assoc, ← List.flatten_append] at hn h
    exact .all hn h
  | cut pre b post hc h =>
    refine .cut (rx ++ pre) b post ⟨?_, ?_, ?_⟩ ?_
    · rw [hc.split, List.append_assoc]
    · rw [List.flatten_append, ← List.append_assoc]
      exact hc.before
    · rw [List.flatten_append, ← List.append_assoc]
      exact hc.complete
    · rwa [List.flatten_append, ← List.append_assoc]

theorem Completes.append {text b : Bytes} {rx pre post : List Bytes} (h : Completes text rx pre b post)
    (rx' : List Bytes) : Completes text (rx ++ rx') pre b (post ++ rx') :=
  ⟨by rw [h.split, List.append_assoc, List.cons_append], h.before, h.complete⟩

/-- The polls of an open connection, to its FIN. The induction is on the polls before the last. -/
theorem visits_outcome (last : Visit σ) (hlast : last.poll.Fin) : ∀ (vs : List (Visit σ)) (text : Bytes)
    (c : RawServer × List RawEvent), Reading text [] c.1 → payload c.2 = text → (∀ v ∈ vs, v.poll.KeepsOpen) →
    Segmented text.length ((vs ++ [last]).map (·.poll)) → Undisturbed (visits T c (vs ++ [last])).2 →
    Outcome text (reads ((vs ++ [last]).map (·.poll))) (payload (visits T c (vs ++ [last])).2)
  | [], text, c, h, hp, _, hseg, hu => by
    have hr : reads (([] ++ [last] : List (Visit σ)).map (·.poll)) = last.poll.rx := List.append_nil _
    have h' : Reading text [] (c.1.startIfNeeded last.poll.network) := by rwa [h.startIfNeeded]
    rw [hr]
    rcases Serving.handleRawServer_open T (s := ⟨last.backend, _, c.2⟩) last.poll h' hp hseg.1 hu with
      ⟨hn, _, hfin⟩ | ⟨pre, b, post, hc, _, hp'⟩
    · exact .all hn (hfin hlast).2
    · exact .cut pre b post hc hp'
  | v :: vs, text, c, h, hp, hk, hseg, hu => by
    have hr : reads ((v :: vs ++ [last]).map (·.poll)) = v.poll.rx ++ reads ((vs ++ [last]).map (·.poll)) := rfl
    have hkv : v.poll.KeepsOpen := hk v (List.mem_cons_self ..)
    have hkvs : ∀ w ∈ vs, w.poll.KeepsOpen := fun w hw => hk w (List.mem_cons_of_mem _ hw)
    have h' : Reading text [] (c.1.startIfNeeded v.poll.network) := by rwa [h.startIfNeeded]
    have huv : Undisturbed (visit T c v).2 := hu.of_prefix (log_visits T (vs ++ [last]) (sound_visit T v h.sound))
    rw [hr]
    rcases Serving.handleRawServer_open T (s := ⟨v.backend, _, c.2⟩) v.poll h' hp hseg.1 huv with
      ⟨_, hkeep, _⟩ | ⟨pre, b, post, hc, hover, hp'⟩
    · obtain ⟨hopen, hp'⟩ := hkeep hkv
      refine (visits_outcome last hlast vs _ (visit T c v) hopen hp' hkvs ?_ hu).cons
      rw [List.length_append]
      exact hseg.2
    · refine .cut pre b _ (hc.append _) ?_
      rw [← hp']
      refine visits_over T (visit T c v) (vs ++ [last]) hover fun w hw => ?_
      rcases List.mem_append.1 hw with hw | hw
      · exact (hkvs w hw).1
      · rw [List.mem_singleton.1 hw]
        exact hlast.1

/-! ## From the accept to the FIN -/

/-- The client just accepted. -/
theorem reading_accepted {r : RawServer} (hs : r.started = true) (hc : r.transportClosing = false)
    (hr : r.writePos = 0 ∧ r.readPos = 0 ∧ r.dataLen = 0) (now n : Nat) : Reading [] []
      { r with client := true, lastDataMs := now, bytesReceived := 0, connection := n, pjl := .idle } where
  started := hs
  client := rfl
  closing := hc
  ring := RawServer.ringOk_empty hr.1 hr.2.1 hr.2.2
  readPos := hr.2.1
  queue := RawServer.queue_eq_nil.2 hr.2.2
  received := rfl
  pjl := PjlDetector.read_nil
  noMarker := by simp [pjlEoj]

/-- A poll that ends with a connection where there was none has accepted it. -/
theorem visit_accepts {r : RawServer} {v : Visit σ} (hr : r.Rest) (hc : r.rawClientConnected = false)
    (ha : (visit T (r, []) v).1.rawClientConnected = true) :
    Reading [] [] (visit T (r, []) v).1 ∧ payload (visit T (r, []) v).2 = [] := by
  have hf : (r.startIfNeeded v.poll.network).rawClientConnected = false := hc
  have hpos : (r.startIfNeeded v.poll.network).Rest := hr
  unfold visit at ha ⊢
  dsimp only at ha ⊢
  generalize r.startIfNeeded v.poll.network = r' at hf hpos ha ⊢
  rcases Serving.handleRawServer_free T (s := ⟨v.backend, r', []⟩) v.poll hf with h | ⟨hs, hz, h⟩
  · -- nobody was accepted
    rw [h, hf] at ha
    cases ha
  · rw [h]
    exact ⟨reading_accepted hs hz (hpos hf) _ _, rfl⟩

/-- One connection: after any earlier polls `first` accepts a client, `polls` are those before the
FIN and `last` is the one that sees it. -/
structure Connection (before : List (Visit σ)) (first : Visit σ) (polls : List (Visit σ)) (last : Visit σ) : Prop where
  free : (visits T ({}, []) before).1.rawClientConnected = false
  accepted : (visit T ((visits T ({}, []) before).1, []) first).1.rawClientConnected = true
  keepsOpen : ∀ v ∈ polls, v.poll.KeepsOpen
  fin : last.poll.Fin
  segmented : Segmented 0 ((polls ++ [last]).map (·.poll))

/-- Its part of the log. -/
def connectionLog (before : List (Visit σ)) (first : Visit σ) (polls : List (Visit σ)) (last : Visit σ) : List RawEvent :=
  (visits T (visit T ((visits T ({}, []) before).1, []) first) (polls ++ [last])).2

/-- What the client sends, as the server gets to read it. -/
def stream (polls : List (Visit σ)) (last : Visit σ) : List Bytes := reads ((polls ++ [last]).map (·.poll))

theorem Connection.outcome {before : List (Visit σ)} {first : Visit σ} {polls : List (Visit σ)} {last : Visit σ}
    (h : Connection T before first polls last) (hu : Undisturbed (connectionLog T before first polls last)) :
    Outcome [] (stream polls last) (payload (connectionLog T before first polls last)) := by
  have hrest : (visits T ({}, []) before).1.Rest := (sound_visits T before (RawServer.sound_empty rfl rfl rfl)).rest
  obtain ⟨hr, hp⟩ := visit_accepts T hrest h.free h.accepted
  exact visits_outcome T last h.fin polls [] _ hr hp h.keepsOpen h.segmented hu

omit T in
theorem fits_pos {seen : Nat} : ∀ {here : Nat} {rx : List Bytes}, Fits seen here rx → ∀ b ∈ rx, b ≠ []
  | _, [], _, _, hb => by cases hb
  | _, bs :: rx, ⟨hpos, _, hf⟩, b, hb => by
    rcases List.mem_cons.1 hb with rfl | hb
    · exact List.ne_nil_of_length_pos hpos
    · exact fits_pos hf b hb

omit T in
theorem segmented_pos : ∀ {n : Nat} {ps : List RawPoll}, Segmented n ps → ∀ b ∈ reads ps, b ≠ []
  | _, [], _, _, hb => by cases hb
  | _, p :: ps, ⟨hf, hs⟩, b, hb => by
    rcases List.mem_append.1 hb with hb | hb
    · exact fits_pos hf b hb
    · exact segmented_pos hs b hb

/-- Exactly the streams whose marker, if any, comes with the last read go out in full. -/
theorem Outcome.sent_all {rx : List Bytes} {sent : Bytes} (h : Outcome [] rx sent) (hpos : ∀ b ∈ rx, b ≠ []) :
    sent = rx.flatten ↔ ¬ pjlEoj <:+: rx.dropLast.flatten := by
  cases h with
  | all hn h =>
    refine iff_of_true h fun hin => hn ?_
    obtain ⟨l, hl⟩ := rx.dropLast_prefix
    rw [List.nil_append, ← hl, List.flatten_append]
    exact List.infix_append_of_infix_left hin
  | cut pre b post hc h =>
    have hb : pjlEoj <:+: pre.flatten ++ b := hc.complete
    have hp : ¬ pjlEoj <:+: pre.flatten := hc.before
    rw [List.nil_append] at h
    rw [h, hc.split]
    cases post with
    | nil =>
      rw [List.dropLast_concat, List.flatten_append, List.flatten_singleton]
      exact iff_of_true rfl hp
    | cons c post =>
      -- the marker was complete, and `c` is still to come
      have hlast : (pre ++ b :: c :: post).dropLast = pre ++ b :: (c :: post).dropLast := by
        rw [List.dropLast_append_of_ne_nil (by simp), List.dropLast_cons_cons]
      have hc0 : c ≠ [] := hpos c (by rw [hc.split]; simp)
      refine iff_of_false (fun e => ?_) ?_
      · have h1 := congrArg List.length e
        have h2 := List.length_pos_of_ne_nil hc0
        simp only [List.flatten_append, List.flatten_cons, List.length_append] at h1
        omega
      · rw [hlast, List.flatten_append, List.flatten_cons, ← List.append_assoc, not_not]
        exact List.infix_append_of_infix_left hb

/-- **Byte-for-byte passthrough, and when it holds.** With every block accepted and no idle timeout,
the bytes of a connection go out as the client sent them, for every segmentation, exactly if no
`"@PJL EOJ"` is complete before the last read. -/
theorem passthrough_iff {before : List (Visit σ)} {first : Visit σ} {polls : List (Visit σ)} {last : Visit σ}
    (h : Connection T before first polls last) (hu : Undisturbed (connectionLog T before first polls last)) :
    payload (connectionLog T before first polls last) = (stream polls last).flatten ↔
      ¬ pjlEoj <:+: (stream polls last).dropLast.flatten := by
  have hpos : ∀ b ∈ stream polls last, b ≠ [] := segmented_pos h.segmented
  exact (h.outcome T hu).sent_all hpos

end Visits

/-! ## Two segmentations -/

/-- A poll of a ready printer. -/
def idleVisit (p : RawPoll) : Visit Unit := { backend := idleBackend, poll := p }

def acceptVisit : Visit Unit := idleVisit { accept := true }

/-- The end of a job: the marker, CR LF, form feed. -/
def jobEnd : Bytes := pjlEoj ++ [13, 10, 12]

def finPoll : RawPoll := { peer := .cleanFin }

/-- The end of the job comes in one read. -/
theorem passthrough_iff_oneRead :
    Connection Transport.immediate [] acceptVisit [idleVisit { rx := [jobEnd] }] (idleVisit finPoll) ∧
      payload (connectionLog Transport.immediate [] acceptVisit [idleVisit { rx := [jobEnd] }] (idleVisit finPoll)) =
        jobEnd := by
  have h : Connection Transport.immediate [] acceptVisit [idleVisit { rx := [jobEnd] }] (idleVisit finPoll) := {
    free := rfl
    accepted := by decide
    keepsOpen := by simp [idleVisit, RawPoll.KeepsOpen]
    fin := ⟨rfl, rfl, rfl⟩
    segmented := by simp [Segmented, Fits, idleVisit, finPoll, jobEnd, pjlEoj, bulkOutChunkSize, usbBufferSize] }
  refine ⟨h, (passthrough_iff Transport.immediate h ?_).2 ?_⟩
  · decide +kernel
  · simp [stream, reads, idleVisit, finPoll, pjlEoj]

/-- The same bytes in two reads: CR LF and the form feed are lost. -/
theorem passthrough_twoReads :
    let polls := [idleVisit { rx := [pjlEoj] }, idleVisit { rx := [[13, 10, 12]] }]
    let log := connectionLog Transport.immediate [] acceptVisit polls (idleVisit finPoll)
    Connection Transport.immediate [] acceptVisit polls (idleVisit finPoll) ∧ Undisturbed log ∧
      (stream polls (idleVisit finPoll)).flatten = jobEnd ∧ payload log = pjlEoj := by
  have hseg : Segmented 0 [{ rx := [pjlEoj] }, { rx := [[13, 10, 12]] }, finPoll] := by
    simp [Segmented, Fits, finPoll, pjlEoj, bulkOutChunkSize, usbBufferSize]
  refine ⟨⟨rfl, by decide, ?_, ⟨rfl, rfl, rfl⟩, hseg⟩, by decide +kernel, rfl, by decide +kernel⟩
  simp [idleVisit, RawPoll.KeepsOpen]

end PrintServer
