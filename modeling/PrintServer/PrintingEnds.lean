import PrintServer.Loop
/-!
# `PRINTING` always ends (usb_printer_backend.cpp:193-428, 494-597, ipp_pcl3_service.cpp:1042-1064)

`poll` never leaves `PRINTING` by itself. `Cared` says who does: the drain timer, or a RAW connection
that is open and has sent something. Every path of the RAW server and of a document that gives the
job up either finishes it or aborts it, and a timer that runs out ends it (`drain_ends`).
-/
namespace PrintServer

/-- Somebody will end the job that is printing; the timer runs only while one is. -/
structure Cared (l : Ledger) (r : RawServer) : Prop where
  owner : l.state = .printing → l.drainPending = true ∨ r.isOpen = true ∧ 0 < r.bytesReceived
  timer : l.drainPending = true → l.state = .printing

namespace Cared
variable {l : Ledger} {r r' : RawServer}

theorem abort (l : Ledger) (r : RawServer) : Cared l.abort r := ⟨nofun, nofun⟩

theorem complete (l : Ledger) (now : Nat) (r : RawServer) : Cared (l.complete now) r := ⟨nofun, nofun⟩

theorem stop (l : Ledger) (counted : Bool) {s : PrinterState} (hs : s ≠ .printing) (r : RawServer) :
    Cared (l.stop counted s) r := ⟨fun hp => absurd hp hs, nofun⟩

theorem flush (l : Ledger) (hp : l.state = .printing) (now : Nat) (r : RawServer) : Cared (l.flush now) r :=
  ⟨fun _ => Or.inl rfl, fun _ => hp⟩

/-- A change of the server that keeps the connection. -/
theorem raw (h : Cared l r) (ho : r'.isOpen = r.isOpen) (hb : r'.bytesReceived = r.bytesReceived) : Cared l r' := by
  refine ⟨?_, h.timer⟩
  intro hp
  rw [ho, hb]
  exact h.owner hp

/-- The connection is gone and had sent nothing. -/
theorem gone (h : Cared l r) (hz : r.bytesReceived = 0) (r' : RawServer) : Cared l r' := by
  refine ⟨?_, h.timer⟩
  intro hp
  rcases h.owner hp with hd | ⟨-, hb⟩
  · exact Or.inl hd
  · rw [hz] at hb
    exact absurd hb (Nat.lt_irrefl 0)

theorem idle (h : Cared l r) (hs : l.state ≠ .printing) (r' : RawServer) : Cared l r' :=
  ⟨fun hp => absurd hp hs, h.timer⟩

end Cared

/-! ## The RAW server -/

namespace Serving
variable {σ : Type} (T : Transport σ)

def Cared (s : Serving σ) : Prop := PrintServer.Cared s.backend.ledger s.raw

theorem cared_abortRawConnection (reason : String) {s : Serving σ} (h : s.Cared) :
    (s.abortRawConnection reason).Cared := by
  unfold abortRawConnection
  split
  · show PrintServer.Cared (s.backend.abortRawJob reason).ledger _
    rw [UsbPrinterBackend.ledger_abortRawJob]
    exact .abort _ _
  · rename_i hb
    exact h.gone (Nat.eq_zero_of_not_pos hb) _

theorem cared_finishRawConnection (reason : String) {s : Serving σ} (h : s.Cared) :
    (s.finishRawConnection T reason).Cared := by
  unfold finishRawConnection
  split
  · exact h
  split
  · rename_i hz
    exact h.gone hz _
  · show PrintServer.Cared (s.backend.finishRawJob T).ledger _
    rcases UsbPrinterBackend.finishRawJob_cases T s.backend with ⟨hno, e⟩ | ⟨hp, -, -, e | e⟩
    · rw [e]
      refine ⟨?_, h.timer⟩
      intro hp
      exact Or.inl (hno.resolve_left fun hne => hne hp)
    · rw [e]
      exact .flush _ hp _ _
    · rw [e]
      exact .abort _ _

/-- An accepted block makes the connection that sends it the owner. -/
theorem cared_sent {b b' : UsbPrinterBackend σ} {job : JobKey} {data : Bytes}
    (hs : b.sendDirect T job data = (none, b')) {r : RawServer} (ho : r.isOpen = true) (hb : 0 < r.bytesReceived) :
    PrintServer.Cared b'.ledger r := by
  have hcases := UsbPrinterBackend.sendDirect_cases T b job data
  rw [hs] at hcases
  rcases hcases with ⟨hno, -⟩ | ⟨hst, -, ⟨-, e⟩ | ⟨hno, -⟩⟩
  · exact absurd rfl hno
  · refine ⟨fun _ => Or.inr ⟨ho, hb⟩, ?_⟩
    intro _
    rw [show b'.ledger = _ from e]
    exact Ledger.start_state hst
  · exact absurd rfl hno

/-- A refused block aborts the job or changes nothing. -/
theorem cared_refused {b b' : UsbPrinterBackend σ} {job : JobKey} {data : Bytes} {error : String}
    (hs : b.sendDirect T job data = (some error, b')) {r : RawServer} (h : PrintServer.Cared b.ledger r) :
    PrintServer.Cared b'.ledger r := by
  have hcases := UsbPrinterBackend.sendDirect_cases T b job data
  rw [hs] at hcases
  rcases hcases with ⟨-, e⟩ | ⟨-, -, ⟨hno, -⟩ | ⟨-, e⟩⟩
  · rw [show b' = b from e]
    exact h
  · cases hno
  · rw [show b'.ledger = _ from e]
    exact .abort _ _

theorem sendDirect_nil (b : UsbPrinterBackend σ) (job : JobKey) : (b.sendDirect T job []).1 ≠ none := nofun

theorem cared_drainLoop (fuel : Nat) (s : Serving σ) (ho : s.raw.isOpen = true) (h : s.Cared) :
    (drainLoop T fuel s).2.Cared := by
  induction fuel generalizing s with
  | zero => exact h
  | succ fuel ih =>
    unfold drainLoop
    split
    · exact h
    dsimp only
    split
    · rename_i b hsend
      refine ih _ ho ?_
      -- an accepted block is not empty
      have hpos : 0 < min (min s.raw.dataLen bulkOutChunkSize) (usbBufferSize - s.raw.readPos) := by
        by_contra hz
        rw [Nat.eq_zero_of_not_pos hz] at hsend
        exact sendDirect_nil T s.backend _ (congrArg Prod.fst hsend)
      exact cared_sent T hsend ho (Nat.add_pos_right _ hpos)
    · rename_i error b hsend
      exact cared_abortRawConnection error (cared_refused T hsend h)

theorem cared_readLoop (rx : List Bytes) (s : Serving σ) (ho : s.raw.isOpen = true) (h : s.Cared) :
    (s.readLoop T rx).2.Cared := by
  induction rx generalizing s with
  | nil => exact h
  | cons bs rx ih =>
    unfold readLoop
    split
    · exact h
    dsimp only
    split
    · exact h
    split
    · exact ih _ ho (h.raw rfl rfl)
    · generalize hm : ((({ s with raw := { s.raw.receive s.backend.now (bs.take s.raw.request) with pjl := .idle } } :
        Serving σ).note (.read (bs.take s.raw.request))).note .eoj) = m
      have hcared : m.Cared := by
        rw [← hm]
        exact h.raw rfl rfl
      have hopen : m.raw.isOpen = true := by
        rw [← hm]
        exact ho
      have hd : (m.drainRingToUsb T).2.Cared := cared_drainLoop T _ m hopen hcared
      cases hs : m.drainRingToUsb T with
      | mk ok m' =>
        rw [hs] at hd
        cases ok with
        | false => exact hd
        | true => exact cared_finishRawConnection T _ hd

theorem cared_checkPeer (p : RawPoll) {s : Serving σ} (h : s.Cared) : (s.checkPeer T p).Cared := by
  unfold checkPeer
  dsimp only
  split
  · exact cared_abortRawConnection _ (h.raw rfl rfl)
  split
  · rename_i hz
    exact h.gone hz.1 _
  split
  · exact h
  · split
    · exact cared_finishRawConnection T _ h
    · exact h
  · split
    · exact h
    split
    · exact cared_finishRawConnection T _ h
    · exact cared_abortRawConnection _ h

theorem cared_serviceRawTransportClose {s : Serving σ} (hc : s.raw.transportClosing = true) (h : s.Cared) :
    s.serviceRawTransportClose.Cared := by
  -- a closing connection owns nothing
  have hdrain : ∀ r, PrintServer.Cared s.backend.ledger r := by
    intro r
    refine ⟨?_, h.timer⟩
    intro hp
    rcases h.owner hp with hd | ⟨ho, -⟩
    · exact Or.inl hd
    · rw [(RawServer.isOpen_iff.1 ho).2] at hc
      cases hc
  unfold serviceRawTransportClose
  split
  · exact h
  split
  · exact hdrain _
  split
  · exact h
  · exact hdrain _

/-- **A call of the RAW server** leaves no job without an owner. -/
theorem cared_handleRawServer (p : RawPoll) {s : Serving σ} (hs : s.raw.Sound) (h : s.Cared) :
    (s.handleRawServer T p).Cared := by
  unfold handleRawServer
  split
  · exact h
  split
  · rename_i hclosing
    rw [if_neg (by rw [hs.closing hclosing]; exact Nat.lt_irrefl 0)]
    exact cared_serviceRawTransportClose hclosing h
  rename_i hclosing
  split
  · split
    · exact h
    split
    · exact h
    · rename_i honline
      have hidle : s.backend.state = .idle := by simpa [UsbPrinterBackend.online] using honline
      refine h.idle ?_ _
      rw [show s.backend.ledger.state = .idle from hidle]
      intro hprinting
      cases hprinting
  · rename_i hclient
    have ho : s.raw.isOpen = true := RawServer.isOpen_iff.2 ⟨by simpa using hclient, by simpa using hclosing⟩
    have hread := cared_readLoop T p.rx s ho h
    obtain ⟨-, hend⟩ := moves_readLoop T p.rx s hs.ring ho
    split
    · rename_i s1 hs1
      rw [hs1] at hread
      exact hread
    · rename_i s1 hs1
      rw [hs1] at hread hend
      exact cared_checkPeer T p (cared_drainLoop T _ s1 (hend rfl).2 hread)

end Serving

/-! ## The backend and the service -/

namespace UsbPrinterBackend
variable {σ : Type}

theorem cared_completeDrainIfReady {b : UsbPrinterBackend σ} {r : RawServer} (h : Cared b.ledger r) :
    Cared b.completeDrainIfReady.ledger r := by
  rcases b.completeDrainIfReady_cases.2.2 with e | ⟨-, -, ⟨-, e⟩ | ⟨-, counted, s, hs, -, e⟩⟩
  · rw [e]
    exact h
  · rw [e]
    exact .complete _ _ _
  · rw [e]
    exact .stop _ _ hs _

theorem cared_followHost {b : UsbPrinterBackend σ} {r : RawServer} (h : Cared b.ledger r) : Cared b.followHost.ledger r := by
  obtain ⟨-, -, ⟨-, e⟩ | ⟨hp, s, hs, e⟩⟩ := b.followHost_cases
  · rw [e]
    exact h
  · rw [e]
    exact ⟨fun hno => absurd hno hs, fun hd => absurd (h.timer hd) hp⟩

/-- **A drain timer that has run out ends the job**, whatever the port status. -/
theorem drain_ends {b : UsbPrinterBackend σ} (hp : b.state = .printing) (hd : b.drainPending = true)
    (hage : postJobStatusWaitMaxMs ≤ sub32 (millis b.now) b.drainStartedMs) :
    b.completeDrainIfReady.state ≠ .printing ∧ b.completeDrainIfReady.drainPending = false := by
  have hguard : postJobMinGuardMs ≤ postJobStatusWaitMaxMs := by decide
  have hlate : ¬ sub32 (millis b.now) b.drainStartedMs < postJobStatusWaitMaxMs := by omega
  have hguarded : ¬ sub32 (millis b.now) b.drainStartedMs < postJobMinGuardMs := by omega
  unfold completeDrainIfReady
  rw [if_neg (by simp [hp, hd])]
  simp only [hlate, hguarded, if_false, decide_false, Bool.and_false]
  split
  · exact ⟨nofun, rfl⟩
  split
  · exact ⟨nofun, rfl⟩
  split
  · exact ⟨nofun, rfl⟩
  · exact ⟨nofun, rfl⟩

end UsbPrinterBackend

/-- A document is finished or aborted. -/
theorem cared_taken {job : JobKey} {l l' : Ledger} {r' : JobRecord} {raw : RawServer} (h : Cared l raw)
    (ht : Taken job l l' r') : Cared l' raw := by
  cases ht with
  | refused hl _ =>
    rw [hl]
    exact h
  | aborted m _ _ hl _ =>
    rw [hl]
    exact .abort _ _
  | sent m hm hl _ _ =>
    have hp := Ledger.printing_of_sent hm
    rcases hl with ⟨rfl, hd⟩ | ⟨now, rfl⟩ | rfl
    · exact ⟨fun _ => Or.inl hd, fun _ => hp⟩
    · exact .flush _ hp _ _
    · exact .abort _ _

theorem cared_serves {σ : Type} {rawConnected : Bool} {c : IppClient} {req : IppRequest} {s : IppPcl3Service}
    {b : UsbPrinterBackend σ} {d : Served σ} {raw : RawServer} (h : Cared b.ledger raw)
    (hs : IppPcl3Service.Serves rawConnected c req s b d) : Cared d.backend.ledger raw := by
  cases hs with
  | nothing _ hl =>
    rw [hl]
    exact h
  | refresh _ hl =>
    rw [hl]
    exact h
  | create _ _ hl =>
    rw [hl]
    exact h
  | print _ _ _ _ ht => exact cared_taken h ht
  | send _ _ _ ht => exact cared_taken h ht
  | cancel _ _ _ hl =>
    rw [hl]
    split
    · exact .abort _ _
    · exact h
  | close _ _ hl =>
    rw [hl]
    exact h

/-! ## The loop -/

namespace System
variable {σ : Type} {T : Transport σ}

structure Attended (s : System σ) : Prop where
  sound : s.raw.Sound
  cared : Cared s.backend.ledger s.raw

theorem attended_pollBackend {relisten : Bool} {p : RawPoll} {s : System σ} (h : Attended s) :
    Attended (s.pollBackend T relisten p) := by
  obtain ⟨hsound, -, hopen⟩ := listening_frame relisten p h.sound
  have hbytes : (s.listening relisten p).bytesReceived = s.raw.bytesReceived := by
    unfold listening RawServer.restartRawListener
    split
    · split <;> rfl
    · rfl
  have hdrain := (UsbPrinterBackend.cared_completeDrainIfReady h.cared).raw hopen hbytes
  rw [pollBackend_eq]
  exact ⟨sound_served T relisten p h.sound, UsbPrinterBackend.cared_followHost
    (Serving.cared_handleRawServer T (s := { backend := s.backend.completeDrainIfReady, raw := s.listening relisten p })
      p hsound hdrain)⟩

theorem attended_pollIpp {client : Option IppClient} {s : System σ} (h : Attended s) : Attended (s.pollIpp T client) := by
  refine ⟨h.sound, ?_⟩
  show Cared (s.pollIpp T client).backend.ledger s.raw
  cases polled_pollIpp T client s with
  | off _ _ hl =>
    rw [hl]
    exact h.cared
  | looked _ hl =>
    rw [hl]
    exact h.cared
  | served c req service b d _ _ _ hb hserve _ hl =>
    rw [hl]
    apply cared_serves _ hserve
    rw [hb]
    exact h.cared

theorem attended_step {s s' : System σ} {a : LoopAct} (h : Attended s) (hs : s.step T a = some s') : Attended s' := by
  cases a with
  | pass t =>
    cases hs
    exact ⟨h.sound, h.cared⟩
  | pollBackend relisten p =>
    simp only [step] at hs
    split at hs
    · cases hs
      exact attended_pollBackend h
    · cases hs
  | pollIpp client =>
    simp only [step] at hs
    split at hs
    · cases hs
      exact attended_pollIpp h
    · cases hs

theorem attended_begin (host : UsbHostManager) (link : σ) (now : Nat) (buffer : Bool) :
    Attended (begin host link now buffer) := ⟨RawServer.sound_empty rfl rfl rfl, nofun, nofun⟩

/-- **The printer cannot get stuck in `PRINTING`.** Between any two polls of every run somebody is
there to end the job that is printing: the drain timer, or a RAW connection that is open and has
sent something. And the timer does end it, at the first look after its time. -/
theorem printing_ends (T : Transport σ) (host : UsbHostManager) (link : σ) (now : Nat) (buffer : Bool)
    {acts : List LoopAct} {s : System σ} (hr : Lib.run (step T) (begin host link now buffer) acts = some s) :
    (s.backend.state = .printing → s.backend.drainPending = true ∨
        s.raw.client = true ∧ s.raw.transportClosing = false ∧ 0 < s.raw.bytesReceived) ∧
      (s.backend.drainPending = true →
        postJobStatusWaitMaxMs ≤ sub32 (millis s.backend.now) s.backend.drainStartedMs →
        s.backend.completeDrainIfReady.state ≠ .printing ∧ s.backend.completeDrainIfReady.drainPending = false) := by
  have h : Attended s := Lib.run_inv' (fun _ _ _ => attended_step) (attended_begin host link now buffer) hr
  constructor
  · intro hp
    rcases h.cared.owner hp with hd | ⟨ho, hb⟩
    · exact Or.inl hd
    · obtain ⟨h1, h2⟩ := RawServer.isOpen_iff.1 ho
      exact Or.inr ⟨h1, h2, hb⟩
  · intro hd hage
    exact UsbPrinterBackend.drain_ends (h.cared.timer hd) hd hage

/-- A RAW client sends, and stays. -/
def rawStreaming : List LoopAct :=
  [.pollBackend false {}, .pollIpp none, .pollBackend false { accept := true }, .pollIpp none,
    .pollBackend false { rx := [[66]] }]

theorem printing_ends_streaming :
    ∃ s, Lib.run (step .immediate) (begin .enumeratedPrinter () 0 true) rawStreaming = some s ∧
      s.backend.state = .printing ∧ s.raw.client = true ∧ 0 < s.raw.bytesReceived := by
  have hr : (Lib.run (step .immediate) (begin .enumeratedPrinter () 0 true) rawStreaming).map (fun s =>
      (s.backend.state, s.backend.drainPending)) = some (.printing, false) := by decide +kernel
  obtain ⟨s, hs, he⟩ := Option.map_eq_some_iff.1 hr
  obtain ⟨hp, hd⟩ := Prod.mk.inj he
  have h := (printing_ends .immediate .enumeratedPrinter () 0 true hs).1 hp
  rw [hd] at h
  obtain ⟨h1, -, h2⟩ := h.resolve_left Bool.false_ne_true
  exact ⟨s, hs, hp, h1, h2⟩

end System
end PrintServer
