import PrintServer.RawRing
import Mathlib.Logic.Relation
/-!
# What a call of the RAW server is made of

A call of `handleRawServer` accepts a connection, or is a row of moves: it works on its own state,
gives a block to `sendDirect`, or ends the connection and tells the backend. Only a connection that
is there and not closing (`isOpen`) moves the backend. Results about the whole loop look at one move
at a time.
-/
namespace PrintServer

namespace RawServer

/-- A connection that can still send. -/
def isOpen (r : RawServer) : Bool := r.client && !r.transportClosing

/-- The ring fits together, a closing connection has sent it all, and without a connection it is at
its start. -/
structure Sound (r : RawServer) : Prop where
  ring : r.RingOk
  closing : r.transportClosing = true → r.dataLen = 0
  rest : r.Rest

theorem isOpen_iff {r : RawServer} : r.isOpen = true ↔ r.client = true ∧ r.transportClosing = false := by
  simp [isOpen]

theorem connected_of_open {r : RawServer} (h : r.isOpen = true) : r.rawClientConnected = true := by
  unfold rawClientConnected
  rw [(isOpen_iff.1 h).1, Bool.true_or]

theorem closed_of_not_connected {r : RawServer} (h : r.rawClientConnected = false) : r.isOpen = false := by
  cases ho : r.isOpen with
  | false => rfl
  | true => cases h.symm.trans (connected_of_open ho)

/-- A `reset` leaves neither bytes nor a client. -/
theorem open_of_kept {r : RawServer} (h : r.isOpen = true ∨ ∃ r' : RawServer, r = r'.reset) :
    (0 < r.bytesReceived → r.isOpen = true) ∧ (r.client = true → r.isOpen = true) := by
  rcases h with h | ⟨r', rfl⟩
  · exact ⟨fun _ => h, fun _ => h⟩
  · exact ⟨fun h0 => absurd h0 (Nat.lt_irrefl 0), fun hc => (by cases hc)⟩

theorem connected_of_closing {r : RawServer} (h : r.transportClosing = true) : r.rawClientConnected = true := by
  unfold rawClientConnected
  rw [h, Bool.or_true]

theorem sound_of_open {r : RawServer} (ho : r.isOpen = true) (hr : r.RingOk) : r.Sound where
  ring := hr
  closing := fun hc => by
    rw [(isOpen_iff.1 ho).2] at hc
    cases hc
  rest := fun hc => by
    rw [connected_of_open ho] at hc
    cases hc

theorem sound_empty {r : RawServer} (hw : r.writePos = 0) (hr : r.readPos = 0) (hd : r.dataLen = 0) : r.Sound :=
  ⟨ringOk_empty hw hr hd, fun _ => hd, fun _ => ⟨hw, hr, hd⟩⟩

theorem Sound.startIfNeeded {r : RawServer} (h : r.Sound) (network : Bool) : (r.startIfNeeded network).Sound :=
  ⟨⟨h.ring.readPos_lt, h.ring.dataLen_le, h.ring.writePos_eq⟩, h.closing, h.rest⟩

end RawServer

namespace Serving
variable {σ : Type}

/-- No new connection; the log only grows. -/
structure Quiet (s s' : Serving σ) : Prop where
  connection : s'.raw.connection = s.raw.connection
  isOpen : s'.raw.isOpen = true → s.raw.isOpen = true
  sound : s.raw.Sound → s'.raw.Sound
  log : s.log <+: s'.log

/-- The moves of the server. The backend hears of a connection only while it is open. -/
inductive Move (T : Transport σ) (s s' : Serving σ) : Prop where
  | work (h : Quiet s s') (hb : s'.backend = s.backend)
  | send (h : Quiet s s') (ho : s.raw.isOpen = true) (data : Bytes)
      (hb : s.backend.sendDirect T (.raw s.raw.connection) data = (none, s'.backend))
  | refuse (h : Quiet s s') (ho : s.raw.isOpen = true) (hc : s'.raw.isOpen = false) (data : Bytes) (error : String)
      (b : UsbPrinterBackend σ) (hr : s.backend.sendDirect T (.raw s.raw.connection) data = (some error, b))
      (hb : s'.backend = b ∨ s'.backend = b.abortRawJob error)
  | finish (h : Quiet s s') (ho : s.raw.isOpen = true) (hc : s'.raw.isOpen = false)
      (hb : s'.backend = s.backend.finishRawJob T)
  | abort (h : Quiet s s') (ho : s.raw.isOpen = true) (hc : s'.raw.isOpen = false) (reason : String)
      (hb : s'.backend = s.backend.abortRawJob reason)

/-- A new connection. -/
structure Accepts (s s' : Serving σ) : Prop where
  closed : s.raw.isOpen = false
  online : s.backend.state = .idle
  connection : s'.raw.connection = s.raw.connection + 1
  sound : s'.raw.Sound
  backend : s'.backend = s.backend
  log : s.log <+: s'.log

/-- The work of a call. -/
abbrev Moves (T : Transport σ) : Serving σ → Serving σ → Prop := Relation.ReflTransGen (Move T)

theorem Quiet.note {s s' : Serving σ} (h : Quiet s s') (e : RawEvent) : Quiet s (s'.note e) :=
  ⟨h.connection, h.isOpen, h.sound, h.log.trans (List.prefix_append _ _)⟩

theorem quiet_refl (s : Serving σ) : Quiet s s := ⟨rfl, id, id, List.prefix_rfl⟩

/-- What happens while the connection stays open. -/
theorem quiet_open {s s' : Serving σ} (ho : s.raw.isOpen = true) (ho' : s'.raw.isOpen = true)
    (hn : s'.raw.connection = s.raw.connection) (hr : s.raw.RingOk → s'.raw.RingOk) (hl : s.log <+: s'.log) :
    Quiet s s' :=
  ⟨hn, fun _ => ho, fun h => RawServer.sound_of_open ho' (hr h.ring), hl⟩

theorem quiet_reset (s : Serving σ) (b : UsbPrinterBackend σ) : Quiet s { s with backend := b, raw := s.raw.reset } :=
  ⟨rfl, fun h => (by cases h), fun _ => RawServer.sound_empty rfl rfl rfl, List.prefix_rfl⟩

section Moves
variable (T : Transport σ)

theorem moves_abortRawConnection (reason : String) {s : Serving σ}
    (ho : 0 < s.raw.bytesReceived → s.raw.isOpen = true) : Moves T s (s.abortRawConnection reason) := by
  unfold abortRawConnection
  split
  · rename_i h0
    exact .single (.abort ((quiet_reset s _).note _) (ho h0) rfl reason rfl)
  · exact .single (.work ((quiet_reset s _).note _) rfl)

/-- A connection is finished when the ring is empty. -/
theorem moves_finishRawConnection (reason : String) {s : Serving σ} (ho : s.raw.isOpen = true) (hd : s.raw.dataLen = 0) :
    Moves T s (s.finishRawConnection T reason) := by
  unfold finishRawConnection
  split
  · exact .refl
  split
  · exact .single (.work ((quiet_reset s _).note _) rfl)
  · have hclosing : (s.raw.client && !true) = false := Bool.and_false _
    refine .single (.finish ⟨rfl, fun h => ?_, fun h => ?_, List.prefix_append _ _⟩ ho hclosing rfl)
    · exact ho
    · refine ⟨⟨h.ring.readPos_lt, h.ring.dataLen_le, h.ring.writePos_eq⟩, fun _ => hd, fun hc => ?_⟩
      cases hc.symm.trans (RawServer.connected_of_closing rfl)

/-- The drain is a row of `sendDirect`s. The induction is on the fuel. -/
theorem moves_drainLoop : ∀ (fuel : Nat) (s : Serving σ), s.raw.isOpen = true → Moves T s (drainLoop T fuel s).2
  | 0, s, _ => .refl
  | fuel + 1, s, ho => by
    unfold drainLoop
    split
    · exact .refl
    dsimp only
    split
    · rename_i b hb
      refine Relation.ReflTransGen.trans (.single ?_) (moves_drainLoop fuel _ ?_)
      · refine .send (quiet_open ho ho rfl (fun hr => RawServer.ringOk_sent hr ?_) (List.prefix_append _ _)) ho _ hb
        exact Nat.le_trans (Nat.min_le_left _ _) (Nat.min_le_left _ _)
      · exact ho
    · rename_i error b hb
      have hq := (quiet_reset s b).note (.sent (Lib.Ring.read s.raw.mem s.raw.readPos
        (min (min s.raw.dataLen bulkOutChunkSize) (usbBufferSize - s.raw.readPos))) false)
      unfold abortRawConnection
      split
      · exact .single (.refuse ⟨hq.connection, hq.isOpen, hq.sound, hq.log.trans (List.prefix_append _ _)⟩ ho rfl _ error b hb
          (Or.inr rfl))
      · exact .single (.refuse ⟨hq.connection, hq.isOpen, hq.sound, hq.log.trans (List.prefix_append _ _)⟩ ho rfl _ error b hb
          (Or.inl rfl))

/-- The drain of an open connection empties the ring, or resets the connection. -/
theorem drainRingToUsb_end {s : Serving σ} (h : s.raw.RingOk) (ho : s.raw.isOpen = true) :
    ((s.drainRingToUsb T).1 = true ∧ (s.drainRingToUsb T).2.raw.isOpen = true ∧ (s.drainRingToUsb T).2.raw.dataLen = 0) ∨
      ((s.drainRingToUsb T).1 = false ∧ ∃ r : RawServer, (s.drainRingToUsb T).2.raw = r.reset) := by
  rcases drainRingToUsb_cases T h with ⟨h1, h2⟩ | ⟨h1, h2⟩
  · refine Or.inl ⟨h1, ?_, ?_⟩
    · rw [h2.raw]
      exact ho
    · rw [h2.raw]
      exact Nat.sub_self _
  · exact Or.inr ⟨h1, h2.raw⟩

/-- The reads of a poll; afterwards the connection is still open, unless the poll is over. -/
theorem moves_readLoop : ∀ (rx : List Bytes) (s : Serving σ), s.raw.RingOk → s.raw.isOpen = true →
    Moves T s (s.readLoop T rx).2 ∧
      ((s.readLoop T rx).1 = true → (s.readLoop T rx).2.raw.RingOk ∧ (s.readLoop T rx).2.raw.isOpen = true)
  | [], s, hr, ho => ⟨.refl, fun _ => ⟨hr, ho⟩⟩
  | bs :: rx, s, hr, ho => by
    have hgot : (bs.take s.raw.request).length ≤ s.raw.request := List.length_take_le _ _
    unfold readLoop
    split
    · exact ⟨.refl, fun _ => ⟨hr, ho⟩⟩
    dsimp only
    split
    · exact ⟨.refl, fun _ => ⟨hr, ho⟩⟩
    split
    · rename_i pjl hscan
      have hring := (RawServer.ringOk_receive s.backend.now hr hgot).scanned pjl
      obtain ⟨hm, hend⟩ := moves_readLoop rx
        (({ s with raw := { s.raw.receive s.backend.now (bs.take s.raw.request) with pjl } } : Serving σ).note
          (.read (bs.take s.raw.request))) hring ho
      refine ⟨Relation.ReflTransGen.trans (.single ?_) hm, hend⟩
      exact .work (quiet_open ho ho rfl (fun _ => hring) (List.prefix_append _ _)) rfl
    · have hring := (RawServer.ringOk_receive s.backend.now hr hgot).scanned .idle
      generalize hm : ((({ s with raw := { s.raw.receive s.backend.now (bs.take s.raw.request) with pjl := .idle } } :
        Serving σ).note (.read (bs.take s.raw.request))).note .eoj) = m
      have hfirst : Moves T s m := by
        rw [← hm]
        have hlog := (List.prefix_append s.log [.read (bs.take s.raw.request)]).trans (List.prefix_append _ [.eoj])
        exact .single (.work (quiet_open ho ho rfl (fun _ => hring) hlog) rfl)
      have hopen : m.raw.isOpen = true := by
        rw [← hm]
        exact ho
      have hring' : m.raw.RingOk := by
        rw [← hm]
        exact hring
      have hd : Moves T m (m.drainRingToUsb T).2 := moves_drainLoop T _ m hopen
      have hend := drainRingToUsb_end T hring' hopen
      cases hs : m.drainRingToUsb T with
      | mk ok m' =>
        rw [hs] at hd hend
        cases ok with
        | false => exact ⟨hfirst.trans hd, fun h => (by cases h)⟩
        | true =>
          obtain ⟨_, ho', hd'⟩ := hend.resolve_right fun h => (by cases h.1)
          exact ⟨(hfirst.trans hd).trans (moves_finishRawConnection T _ ho' hd'), fun h => (by cases h)⟩

/-- After the drain: the connection is open, or was reset. -/
theorem moves_checkPeer (p : RawPoll) {s : Serving σ}
    (hs : s.raw.isOpen = true ∨ ∃ r : RawServer, s.raw = r.reset) : Moves T s (s.checkPeer T p) := by
  obtain ⟨hbytes, hclient⟩ := RawServer.open_of_kept hs
  unfold checkPeer
  dsimp only
  split
  · exact .trans (.single (.work ((quiet_refl s).note _) rfl)) (moves_abortRawConnection T _ hbytes)
  split
  · exact .single (.work ((quiet_reset s _).note _) rfl)
  split
  · exact .refl
  · rename_i hpeer
    split
    · rename_i hfin
      refine moves_finishRawConnection T _ (hclient ?_) hfin.2
      by_contra hno
      rw [if_neg hno] at hpeer
      cases hpeer
    · exact .refl
  · split
    · exact .refl
    split
    · rename_i h0
      exact moves_finishRawConnection T _ (hbytes h0.1) h0.2.1
    · exact moves_abortRawConnection T _ hbytes

theorem moves_serviceRawTransportClose (s : Serving σ) : Moves T s s.serviceRawTransportClose := by
  unfold serviceRawTransportClose
  split
  · exact .refl
  split
  · refine .single (.work ⟨rfl, id, fun h => ?_, List.prefix_rfl⟩ rfl)
    exact ⟨⟨h.ring.readPos_lt, h.ring.dataLen_le, h.ring.writePos_eq⟩, h.closing, h.rest⟩
  split
  · exact .refl
  · exact .single (.work ((quiet_reset s _).note _) rfl)

/-- **Every call accepts a connection or is a row of moves.** -/
theorem handleRawServer_cases (p : RawPoll) {s : Serving σ} (h : s.raw.Sound) :
    Accepts s (s.handleRawServer T p) ∨ Moves T s (s.handleRawServer T p) := by
  unfold handleRawServer
  split
  · exact Or.inr .refl
  split
  · rename_i hclosing
    rw [if_neg (by rw [h.closing hclosing]; exact Nat.lt_irrefl 0)]
    exact Or.inr (moves_serviceRawTransportClose T s)
  rename_i hclosing
  split
  · rename_i hclient
    have hfree : s.raw.client = false := by simpa using hclient
    split
    · exact Or.inr .refl
    split
    · exact Or.inr (.single (.work ((quiet_refl s).note _) rfl))
    · rename_i honline
      have hidle : s.backend.state = .idle := by simpa [UsbPrinterBackend.online] using honline
      have hc : s.raw.rawClientConnected = false := by
        unfold RawServer.rawClientConnected
        simpa using And.intro hfree hclosing
      obtain ⟨hw, hr, hd⟩ := h.rest hc
      have hclosed : s.raw.isOpen = false := by
        unfold RawServer.isOpen
        rw [hfree, Bool.false_and]
      exact Or.inl ⟨hclosed, hidle, rfl, RawServer.sound_empty hw hr hd, rfl, List.prefix_append _ _⟩
  · rename_i hclient
    have ho : s.raw.isOpen = true := RawServer.isOpen_iff.2 ⟨by simpa using hclient, by simpa using hclosing⟩
    obtain ⟨hl, hend⟩ := moves_readLoop T p.rx s h.ring ho
    split
    · rename_i s1 hs1
      rw [hs1] at hl
      exact Or.inr hl
    · rename_i s1 hs1
      rw [hs1] at hl hend
      obtain ⟨hr1, ho1⟩ := hend rfl
      have hd : Moves T s1 (s1.drainRingToUsb T).2 := moves_drainLoop T _ s1 ho1
      refine Or.inr ((hl.trans hd).trans (moves_checkPeer T p ?_))
      exact (drainRingToUsb_end T hr1 ho1).imp (fun h => h.2.1) And.right

theorem quiet_of_move {s s' : Serving σ} (h : Move T s s') : Quiet s s' := by
  cases h with
  | work h | send h | refuse h | finish h | abort h => exact h

theorem log_of_moves {s s' : Serving σ} (h : Moves T s s') : s.log <+: s'.log := by
  induction h with
  | refl => exact List.prefix_rfl
  | tail _ hm ih => exact ih.trans (quiet_of_move T hm).log

theorem log_handleRawServer (p : RawPoll) {s : Serving σ} (h : s.raw.Sound) : s.log <+: (s.handleRawServer T p).log :=
  (handleRawServer_cases T p h).elim Accepts.log (log_of_moves T)

theorem sound_of_moves {s s' : Serving σ} (h : Moves T s s') (hs : s.raw.Sound) : s'.raw.Sound := by
  induction h with
  | refl => exact hs
  | tail _ hm ih => exact (quiet_of_move T hm).sound ih

theorem sound_handleRawServer (p : RawPoll) {s : Serving σ} (h : s.raw.Sound) : (s.handleRawServer T p).raw.Sound :=
  (handleRawServer_cases T p h).elim Accepts.sound (sound_of_moves T · h)

/-- Without an open connection the backend hears nothing. -/
theorem moves_closed {s s' : Serving σ} (h : Moves T s s') (hc : s.raw.isOpen = false) :
    s'.raw.isOpen = false ∧ s'.backend = s.backend := by
  induction h with
  | refl => exact ⟨hc, rfl⟩
  | @tail m s' _ hm ih =>
    obtain ⟨ihc, ihb⟩ := ih
    have hno : s'.raw.isOpen = false := by
      by_contra hne
      rw [(quiet_of_move T hm).isOpen (by simpa using hne)] at ihc
      cases ihc
    refine ⟨hno, ?_⟩
    cases hm with
    | work _ hb => exact hb.trans ihb
    | send _ ho | refuse _ ho | finish _ ho | abort _ ho =>
      rw [ho] at ihc
      cases ihc

end Moves

end Serving
end PrintServer
