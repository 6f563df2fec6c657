import PrintServer.JobOutcome
import PrintServer.JobStates
import PrintServer.Lib.IppGrammar
/-!
# What Cancel-Job stops (ipp_pcl3_service.cpp:1205-1221, usb_printer_backend.cpp:702-711)

Cancel-Job aborts whatever the backend is printing. While a job is being processed that is its own
episode (`Owned`), because no RAW connection can begin one before the service has looked at the
backend again. A job that waits for its document, or was stopped, has no episode that runs:
`SparesOthers` is that such a job is not cancelled under a printing backend, and that a document
comes to a free stream.
-/
namespace PrintServer

namespace Ledger

/-- The last episode began with a block of `job`. -/
def Began (job : JobKey) (l : Ledger) : Prop :=
  ∃ e es data rest, l.history = e :: es ∧ e.accepted = (job, data) :: rest

theorem Began.accept {job : JobKey} {l : Ledger} (h : l.Began job) (job' : JobKey) (data : Bytes) :
    (l.accept job' data).Began job := by
  obtain ⟨e, es, first, rest, hh, he⟩ := h
  refine ⟨e.accept job' data, es, first, rest ++ [(job', data)], ?_, ?_⟩
  · simp only [Ledger.accept, hh, List.modifyHead_cons]
  · simp [Episode.accept, he]

theorem Began.flush {job : JobKey} {l : Ledger} (h : l.Began job) (now : Nat) : (l.flush now).Began job := by
  obtain ⟨e, es, first, rest, hh, he⟩ := h
  exact ⟨e.flush now, es, first, rest, by simp only [Ledger.flush, hh, List.modifyHead_cons], he⟩

/-- A job that is sent from `IDLE` has an episode of its own. -/
theorem began_of_sent {job : JobKey} {l m : Ledger} (hs : l.state = .idle) (h : Relation.TransGen (Sent job) l m) :
    m.Began job := by
  induction h with
  | single h =>
    obtain ⟨-, data, rfl⟩ := h
    rw [start_idle hs]
    exact ⟨Episode.accept job data {}, l.history, data, [], rfl, rfl⟩
  | tail hm h ih =>
    obtain ⟨-, data, rfl⟩ := h
    rw [start_printing (printing_of_sent hm)]
    exact ih.accept job data

/-- A document that leaves its job being processed began the episode. -/
theorem began_of_taken {job : JobKey} {l l' : Ledger} {r' : JobRecord} (hs : l.state = .idle ∨ l.state ≠ .printing)
    (ht : Taken job l l' r') (hr : r'.state = .processing) :
    l.state = .idle ∧ (l'.state = .printing → l'.Began job) := by
  cases ht with
  | refused _ hno => cases hr.symm.trans hno
  | aborted _ _ _ _ hno => cases hr.symm.trans hno
  | sent m hm hl _ _ =>
    have hidle : l.state = .idle := by
      rcases Relation.TransGen.head'_iff.1 hm with ⟨m', hfirst, -⟩
      rcases hfirst.1 with h | h
      · exact h
      · rcases hs with hs | hs
        · exact hs
        · exact absurd h hs
    have hb := began_of_sent hidle hm
    refine ⟨hidle, ?_⟩
    intro hp
    rcases hl with ⟨rfl, -⟩ | ⟨now, rfl⟩ | rfl
    · exact hb
    · exact hb.flush now
    · cases hp

end Ledger

/-! ## Requests and `started_` -/

theorem JobRecord.refresh_processing {r : JobRecord} {printer : PrinterState} (hb : r.state = .pending → r.begun = false)
    (hid : r.id ≠ 0) (h : (r.refresh printer).state = .processing) :
    r.state = .processing ∧ printer = .printing ∧ r.refresh printer = r := by
  unfold refresh at h ⊢
  rw [if_neg hid] at h ⊢
  by_cases hp : r.state = .pending
  · rw [if_pos (by simp [hp, hb hp])] at h
    rw [hp] at h
    cases h
  rw [if_neg (by simp [hp])] at h ⊢
  by_cases hproc : r.state = .processing
  · rw [if_neg (by simp [hproc])] at h ⊢
    cases printer with
    | printing => exact ⟨hproc, rfl, rfl⟩
    | idle => cases h
    | error => cases h
    | offline => cases h
  · rw [if_pos ⟨hp, hproc⟩] at h
    exact absurd h hproc

theorem JobRecord.refresh_zero {r : JobRecord} (h : r.id = 0) (printer : PrinterState) : r.refresh printer = r := if_pos h

theorem JobRecord.refresh_id (r : JobRecord) (printer : PrinterState) :
    (r.refresh printer).id = r.id := by
  unfold refresh
  split
  · rfl
  split
  · rfl
  split
  · rfl
  cases printer <;> rfl

theorem IppPcl3Service.Serves.started {σ : Type} {rawConnected : Bool} {c : IppClient} {req : IppRequest}
    {s : IppPcl3Service} {b : UsbPrinterBackend σ} {d : Served σ} (h : Serves rawConnected c req s b d) :
    d.service.started = s.started := by
  show d.service.record.started = s.record.started
  cases h with
  | nothing hr _ => rw [hr]
  | refresh hr _ =>
    rw [hr]
    exact (s.record.refresh_frame b.state).2.2
  | create _ hr _ =>
    rw [hr]
    rfl
  | print _ _ _ hr _ =>
    rw [hr.started]
    rfl
  | send _ _ hr _ =>
    rw [hr.started]
    rfl
  | cancel _ _ hr _ =>
    rw [hr]
    rfl
  | close _ hr _ =>
    rw [hr]
    rfl

namespace System
variable {σ : Type} {T : Transport σ}

/-- A document comes when the stream is free, and under a printing backend only a job that is being
processed is cancelled. -/
def SparesOthers (s : System σ) : LoopAct → Prop
  | .pollIpp client => ∀ r ∈ request client,
      (r.op = 0x0006 → s.seen.acceptsDocument r.attrs = true →
        s.backend.state ≠ .printing ∧ (s.backend.state = .idle → s.raw.isOpen = false)) ∧
      (r.op = 0x0008 → s.seen.refusesCancel r.attrs = none → s.backend.state = .printing →
        s.seen.lastJobState = .processing)
  | _ => True

instance (s : System σ) (a : LoopAct) : Decidable (s.SparesOthers a) :=
  match a with
  | .pollIpp client => inferInstanceAs (Decidable (∀ r ∈ request client, _ ∧ _))
  | .pass _ | .pollBackend .. => inferInstanceAs (Decidable True)

/-- The job that is being processed has the running episode, and no RAW connection is open. -/
def Owned (l : Ledger) (raw : RawServer) (r : JobRecord) : Prop :=
  r.state = .processing → r.id ≠ 0 → l.state = .printing → raw.isOpen = false ∧ l.Began (.ipp r.serial)

/-- The invariant of the loop. -/
structure Owning (s : System σ) : Prop where
  sound : s.raw.Sound
  service : s.service.Sound
  owned : Owned s.backend.ledger s.raw s.service.record
  closed : s.turn = .backend → s.service.record.state = .processing → s.service.record.id ≠ 0 → s.raw.isOpen = false
  off : s.service.started = false → s.service.record.state ≠ .processing

/-- The RAW server cannot begin an episode while it has no connection. -/
theorem owned_pollBackend {relisten : Bool} {p : RawPoll} {s : System σ} (h : Owning s) (hturn : s.turn = .backend) :
    Owned (s.pollBackend T relisten p).backend.ledger (s.pollBackend T relisten p).raw s.service.record := by
  intro hproc hid hp
  have hclosed := h.closed hturn hproc hid
  obtain ⟨hsound, -, hopen⟩ := listening_frame relisten p h.sound
  have hb : (s.served T relisten p).backend = s.backend.completeDrainIfReady :=
    handleRawServer_closed (s := { backend := s.backend.completeDrainIfReady, raw := s.listening relisten p }) p hsound
      (hopen.trans hclosed)
  rw [pollBackend_eq] at hp ⊢
  change (s.served T relisten p).backend.followHost.ledger.state = .printing at hp
  -- the backend printed before, and nothing has happened to its episode
  obtain ⟨-, -, ⟨hpoll, e⟩ | ⟨-, st, hst, e⟩⟩ := (s.served T relisten p).backend.followHost_cases
  · have hsame : s.backend.completeDrainIfReady.ledger = s.backend.ledger := by
      rcases s.backend.completeDrainIfReady_cases.2.2 with e' | ⟨-, -, ⟨-, e'⟩ | ⟨-, counted, st, hst, -, e'⟩⟩
      · exact e'
      · rw [hb] at hpoll
        cases (congrArg Ledger.state e').symm.trans hpoll
      · rw [hb] at hpoll
        exact absurd ((congrArg Ledger.state e').symm.trans hpoll) hst
    have hprinting : s.backend.ledger.state = .printing := by
      rw [hb] at hpoll
      exact (congrArg Ledger.state hsame).symm.trans hpoll
    constructor
    · show (s.served T relisten p).raw.isOpen = false
      rcases Serving.handleRawServer_cases T (s := { backend := s.backend.completeDrainIfReady, raw := s.listening relisten p })
        p hsound with ha | hm
      · cases ha.online.symm.trans ((congrArg Ledger.state hsame).trans hprinting)
      · exact (Serving.moves_closed T hm (hopen.trans hclosed)).1
    · show (s.served T relisten p).backend.followHost.ledger.Began _
      rw [e, hb, hsame]
      exact (h.owned hproc hid hprinting).2
  · rw [e] at hp
    exact absurd hp hst

theorem owning_pollBackend {relisten : Bool} {p : RawPoll} {s : System σ} (h : Owning s) (hturn : s.turn = .backend) :
    Owning (s.pollBackend T relisten p) := by
  refine ⟨?_, h.service, owned_pollBackend h hturn, nofun, h.off⟩
  rw [pollBackend_eq]
  exact sound_served T relisten p h.sound

/-- A request leaves the job that it ends with in possession of the stream. -/
theorem owned_serves {rawConnected : Bool} {c : IppClient} {req : IppRequest} {service : IppPcl3Service}
    {b : UsbPrinterBackend σ} {d : Served σ} {raw : RawServer} (h : Owned b.ledger raw service.record)
    (hproc : service.record.state = .processing → service.record.id ≠ 0 → b.state = .printing)
    (hbegun : service.record.state = .pending → service.record.begun = false)
    (hraw : rawConnected = false → raw.isOpen = false)
    (hsend : req.op = 0x0006 → service.acceptsDocument req.attrs = true →
      b.state ≠ .printing ∧ (b.state = .idle → raw.isOpen = false))
    (hs : IppPcl3Service.Serves rawConnected c req service b d) :
    Owned d.backend.ledger raw d.service.record ∧
      (d.service.record.state = .processing → d.service.record.id ≠ 0 → raw.isOpen = false) := by
  have hkeep : Owned b.ledger raw service.record ∧
      (service.record.state = .processing → service.record.id ≠ 0 → raw.isOpen = false) :=
    ⟨h, fun hp hid => (h hp hid (hproc hp hid)).1⟩
  have hover : ∀ {l : Ledger} {r : JobRecord}, r.state ≠ .processing →
      Owned l raw r ∧ (r.state = .processing → r.id ≠ 0 → raw.isOpen = false) :=
    fun hno => ⟨fun hp => absurd hp hno, fun hp => absurd hp hno⟩
  cases hs with
  | nothing hr hl =>
    rw [hr, hl]
    exact hkeep
  | refresh hr hl =>
    rw [hr, hl]
    by_cases hp : (service.record.refresh b.state).state = .processing ∧ service.record.id ≠ 0
    · rw [(JobRecord.refresh_processing hbegun hp.2 hp.1).2.2]
      exact hkeep
    · have hno : (service.record.refresh b.state).state = .processing → (service.record.refresh b.state).id ≠ 0 → False := by
        intro h1 h2
        rw [JobRecord.refresh_id] at h2
        exact hp ⟨h1, h2⟩
      exact ⟨fun h1 h2 => (hno h1 h2).elim, fun h1 h2 => (hno h1 h2).elim⟩
  | create _ hr hl =>
    rw [hr]
    exact hover nofun
  | print _ hidle hc hr ht =>
    have hclosed := hraw hc
    refine ⟨?_, fun _ _ => hclosed⟩
    intro hp _ hl
    rw [hr.serial]
    exact ⟨hclosed, (Ledger.began_of_taken (Or.inl hidle) ht hp).2 hl⟩
  | send ho ha hr ht =>
    obtain ⟨hno, hfree⟩ := hsend ho ha
    have hclosed : d.service.record.state = .processing → raw.isOpen = false := fun hp =>
      hfree (Ledger.began_of_taken (Or.inr hno) ht hp).1
    refine ⟨?_, fun hp _ => hclosed hp⟩
    intro hp _ hl
    rw [hr.serial]
    exact ⟨hclosed hp, (Ledger.began_of_taken (Or.inr hno) ht hp).2 hl⟩
  | cancel _ _ hr hl =>
    rw [hr]
    exact hover nofun
  | close _ hr hl =>
    rw [hr]
    exact hover nofun

/-- What a request finds: a job still being processed owns the stream. -/
theorem owned_seen {s : System σ} (h : Owning s) :
    Owned s.backend.ledger s.raw s.seen.record ∧
      (s.seen.record.state = .processing → s.seen.record.id ≠ 0 → s.backend.state = .printing) := by
  have hseen : s.seen.record = s.service.record.refresh s.backend.state := IppPcl3Service.record_refreshJobState _ _
  have hbegun : s.service.record.state = .pending → s.service.record.begun = false := h.service.begun
  rw [hseen]
  constructor
  · intro hp hid hl
    rw [JobRecord.refresh_id] at hid
    obtain ⟨h1, -, h3⟩ := JobRecord.refresh_processing hbegun hid hp
    rw [h3]
    exact h.owned h1 hid hl
  · intro hp hid
    rw [JobRecord.refresh_id] at hid
    exact (JobRecord.refresh_processing hbegun hid hp).2.1

theorem owning_pollIpp {client : Option IppClient} {s : System σ} (h : Owning s) (hx : s.SparesOthers (.pollIpp client)) :
    Owning (s.pollIpp T client) := by
  obtain ⟨hown, hproc⟩ := owned_seen h
  have hservice : (s.pollIpp T client).service.Sound :=
    IppPcl3Service.sound_poll T s.raw.rawClientConnected client s.backend h.service
  have hbegun : s.seen.record.state = .pending → s.seen.record.begun = false :=
    (IppPcl3Service.sound_refreshJobState h.service s.backend).begun
  suffices hnew : Owned (s.pollIpp T client).backend.ledger s.raw (s.pollIpp T client).service.record ∧
      ((s.pollIpp T client).service.record.state = .processing → (s.pollIpp T client).service.record.id ≠ 0 →
        s.raw.isOpen = false) ∧
      ((s.pollIpp T client).service.started = false → (s.pollIpp T client).service.record.state ≠ .processing) from
    ⟨h.sound, hservice, hnew.1, fun _ => hnew.2.1, hnew.2.2⟩
  have hstarted : s.seen.started = s.service.started := by
    have hseen : s.seen.record = s.service.record.refresh s.backend.state := IppPcl3Service.record_refreshJobState _ _
    exact (congrArg JobRecord.started hseen).trans (s.service.record.refresh_frame s.backend.state).2.2
  have hoff : s.service.started = false → s.seen.record.state ≠ .processing := by
    intro hno hp
    have hseen : s.seen.record = s.service.record.refresh s.backend.state := IppPcl3Service.record_refreshJobState _ _
    rw [hseen] at hp
    by_cases hid : s.service.record.id = 0
    · rw [JobRecord.refresh_zero hid] at hp
      exact h.off hno hp
    · exact h.off hno (JobRecord.refresh_processing h.service.begun hid hp).1
  cases polled_pollIpp T client s with
  | off hno hr hl =>
    rw [hr, hl]
    exact ⟨h.owned, fun hp => absurd hp (h.off hno), fun _ => h.off hno⟩
  | looked hr hl =>
    have hs : (s.pollIpp T client).service.started = s.service.started := (congrArg JobRecord.started hr).trans hstarted
    rw [hr, hl, hs]
    exact ⟨hown, fun hp hid => (hown hp hid (hproc hp hid)).1, hoff⟩
  | served c req service b d hon hreq hs hb hserve hr hl =>
    have hst : (s.pollIpp T client).service.started = true := by
      rw [show (s.pollIpp T client).service.started = d.service.started from congrArg JobRecord.started hr, hserve.started,
        show service.started = s.seen.started from congrArg JobRecord.started hs, hstarted, hon]
    rw [hr, hl, hst]
    rw [← hs, ← hb] at hown
    rw [← hs] at hproc hbegun
    have hstate : b.state = s.backend.state := congrArg Ledger.state hb
    have hraw : s.raw.rawClientConnected = false → s.raw.isOpen = false := RawServer.closed_of_not_connected
    have hsend : req.op = 0x0006 → service.acceptsDocument req.attrs = true →
        b.state ≠ .printing ∧ (b.state = .idle → s.raw.isOpen = false) := by
      intro ho ha
      rw [hstate]
      exact (hx req hreq).1 ho (IppPcl3Service.acceptsDocument_congr hs req.attrs ▸ ha)
    rw [← hstate] at hproc
    obtain ⟨h1, h2⟩ := owned_serves hown hproc hbegun hraw hsend hserve
    exact ⟨h1, h2, nofun⟩

theorem owning_step {s s' : System σ} {a : LoopAct} (h : Owning s) (hx : s.SparesOthers a) (hs : s.step T a = some s') :
    Owning s' := by
  cases a with
  | pass t =>
    cases hs
    exact ⟨h.sound, h.service, h.owned, h.closed, h.off⟩
  | pollBackend relisten p =>
    simp only [step] at hs
    split at hs
    · cases hs
      exact owning_pollBackend h ‹_›
    · cases hs
  | pollIpp client =>
    simp only [step] at hs
    split at hs
    · cases hs
      exact owning_pollIpp h hx
    · cases hs

theorem owning_begin (host : UsbHostManager) (link : σ) (now : Nat) (buffer : Bool) :
    Owning (begin host link now buffer) := by
  have hservice : (begin host link now buffer).service.Sound := IppPcl3Service.sound_begin now buffer
  have hstate : (begin host link now buffer).service.record.state ≠ .processing := by
    cases buffer <;> exact nofun
  exact ⟨RawServer.sound_empty rfl rfl rfl, hservice, fun hp => absurd hp hstate, fun _ hp => absurd hp hstate,
    fun _ => hstate⟩

/-- A poll with a Cancel-Job leaves a backend alone that is not printing. -/
theorem ledger_cancel {s : System σ} {client : Option IppClient} {r : IppRequest} (hreq : r ∈ request client)
    (hop : r.op = 0x0008) (hno : s.backend.state ≠ .printing) :
    (s.pollIpp T client).backend.ledger = s.backend.ledger := by
  cases polled_pollIpp T client s with
  | off _ _ hl => exact hl
  | looked _ hl => exact hl
  | served c req service b d _ hreq' _ hb h _ hl =>
    obtain rfl : req = r := Option.some.inj (hreq'.symm.trans hreq)
    have hstate : b.state ≠ .printing := fun hp => hno ((congrArg Ledger.state hb).symm.trans hp)
    refine hl.trans (Eq.trans ?_ hb)
    cases h with
    | nothing _ hd => rw [hd]
    | refresh _ hd => rw [hd]
    | create _ _ hd => rw [hd]
    | print ho _ _ _ _ => cases hop.symm.trans ho
    | send ho _ _ _ => cases hop.symm.trans ho
    | cancel _ _ _ hd => exact hd.trans (if_neg hstate)
    | close _ _ hd => rw [hd]

/-- **Cancel-Job only stops its own job**, in every run of the loop whose requests spare others: the
episode it finds running was begun by the job that it cancels, and for a job that is pending or
stopped the backend is left alone, by the operation and in the whole poll. -/
theorem cancelJob_own (T : Transport σ) (host : UsbHostManager) (link : σ) (now : Nat) (buffer : Bool)
    {acts : List LoopAct} {s : System σ} (hx : Lib.Meets (step T) SparesOthers (begin host link now buffer) acts)
    (hr : Lib.run (step T) (begin host link now buffer) acts = some s) (client : Option IppClient)
    (hc : s.SparesOthers (.pollIpp client)) (r : IppRequest) (hreq : r ∈ request client) (hop : r.op = 0x0008)
    (ha : s.seen.refusesCancel r.attrs = none) :
    (s.backend.state = .printing → s.backend.ledger.Began (.ipp s.service.serial)) ∧
      (s.seen.lastJobState = .pending ∨ s.seen.lastJobState = .stopped →
        (IppPcl3Service.cancelJob r s.seen s.backend).backend = s.backend ∧
          (s.pollIpp T client).backend.ledger = s.backend.ledger) := by
  have h : Owning s := Lib.run_inv (fun _ _ _ => owning_step) (owning_begin host link now buffer) hx hr
  have hcancel := (hc r hreq).2 hop ha
  constructor
  · intro hp
    have hid : s.seen.lastJobId ≠ 0 := by
      intro h0
      unfold IppPcl3Service.refusesCancel at ha
      simp only [h0, decide_true, Bool.true_or, if_true] at ha
      split at ha <;> cases ha
    have hseen : s.seen.record = s.service.record.refresh s.backend.state := IppPcl3Service.record_refreshJobState _ _
    have hserial : s.seen.serial = s.service.serial :=
      (congrArg JobRecord.serial hseen).trans (s.service.record.refresh_frame s.backend.state).1
    rw [← hserial]
    exact ((owned_seen h).1 (hcancel hp) hid hp).2
  · intro hst
    have hno : s.backend.state ≠ .printing := by
      intro hp
      rw [hcancel hp] at hst
      rcases hst with hst | hst <;> cases hst
    refine ⟨?_, ledger_cancel hreq hop hno⟩
    unfold IppPcl3Service.cancelJob
    rw [ha]
    exact if_neg hno

/-- Cancel-Job for job 1. -/
def cancelFirst : Option IppClient :=
  let attributes := Lib.Ipp.Section.encode [⟨0x01, [⟨ascii "job-id", .simple 0x21 [0, 0, 0, 1], []⟩]⟩]
  let bytes := ascii "POST /ipp/print HTTP/1.1\r\nContent-Length: 25\r\n\r\n" ++ [2, 0, 0, 0x08, 0, 0, 0, 1] ++ attributes
  some { client := { incoming := WiFiClient.unread bytes [], closed := true } }

theorem request_cancelFirst : ∃ r, request cancelFirst = some r ∧ r.op = 0x0008 ∧ r.attrs = { jobId := some 1 } := by
  have h : (request cancelFirst).map (fun r => (r.op, r.attrs)) = some (0x0008, { jobId := some 1 }) := by decide +kernel
  obtain ⟨r, hr, he⟩ := Option.map_eq_some_iff.1 h
  obtain ⟨h1, h2⟩ := Prod.mk.inj he
  exact ⟨r, hr, h1, h2⟩

/-- A Print-Job that still drains. -/
def printDraining : List LoopAct := [.pollBackend false {}, ippPost 0x02 [65], .pass { ms := 500 }, .pollBackend false {}]

theorem cancelJob_own_draining :
    ∃ s, Lib.run (step .immediate) (begin .enumeratedPrinter () 0 true) printDraining = some s ∧
      s.backend.state = .printing ∧ s.backend.ledger.Began (.ipp s.service.serial) := by
  have hx : Lib.Meets (step .immediate) SparesOthers (begin .enumeratedPrinter () 0 true) printDraining := by
    decide +kernel
  have hr : (Lib.run (step .immediate) (begin .enumeratedPrinter () 0 true) printDraining).map (fun s =>
      (s.backend.state, s.seen.lastJobState, s.seen.refusesCancel { jobId := some 1 })) =
      some (.printing, .processing, none) := by decide +kernel
  obtain ⟨s, hs, he⟩ := Option.map_eq_some_iff.1 hr
  simp only [Prod.mk.injEq] at he
  obtain ⟨hp, hst, ha⟩ := he
  obtain ⟨r, hreq, hop, hattrs⟩ := request_cancelFirst
  have hc : s.SparesOthers (.pollIpp cancelFirst) := by
    intro r' hr'
    obtain rfl : r' = r := Option.some.inj (hr'.symm.trans hreq)
    exact ⟨fun hno => absurd (hop.symm.trans hno) (by decide), fun _ _ _ => hst⟩
  exact ⟨s, hs, hp, (cancelJob_own .immediate .enumeratedPrinter () 0 true hx hs cancelFirst hc r hreq hop
    (by rw [hattrs]; exact ha)).1 hp⟩

/-- Job 1 waits for its document while a RAW client prints. -/
def rawWhileWaiting : List LoopAct :=
  [.pollBackend false {}, ippPost 0x05 [], .pollBackend false { accept := true }, .pollIpp none,
    .pollBackend false { rx := [[66]] }]

theorem cancelJob_stops_raw :
    ¬ ∀ (acts : List LoopAct) (s : System Unit) (client : Option IppClient) (r : IppRequest),
      Lib.run (step .immediate) (begin .enumeratedPrinter () 0 true) acts = some s → r ∈ request client →
      r.op = 0x0008 → s.seen.refusesCancel r.attrs = none → s.backend.state = .printing →
        s.backend.ledger.Began (.ipp s.service.serial) := by
  intro h
  have hr : (Lib.run (step .immediate) (begin .enumeratedPrinter () 0 true) rawWhileWaiting).map (fun s =>
      (s.backend.state, s.backend.history.map fun e => e.accepted.map Prod.fst, s.seen.refusesCancel { jobId := some 1 })) =
      some (.printing, [[.raw 1]], none) := by decide +kernel
  obtain ⟨s, hs, he⟩ := Option.map_eq_some_iff.1 hr
  simp only [Prod.mk.injEq] at he
  obtain ⟨hp, hh, ha⟩ := he
  obtain ⟨r, hreq, hop, hattrs⟩ := request_cancelFirst
  obtain ⟨e, es, data, rest, hhist, hacc⟩ := h rawWhileWaiting s cancelFirst r hs hreq hop (by rw [hattrs]; exact ha) hp
  rw [show s.backend.history = e :: es from hhist, List.map_cons, hacc] at hh
  cases hh

end System
end PrintServer
