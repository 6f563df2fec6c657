import PrintServer.Loop
/-!
# Print jobs do not mix (usb_printer_backend.cpp:284-428, ipp_pcl3_service.cpp:1157-1221)

Whoever may send next is `Mine`: it has the running episode for itself, or has no episode yet. The
RAW server keeps this by accepting only in `IDLE`, Print-Job by refusing while a RAW client is
connected. Send-Document asks neither, and Cancel-Job aborts whatever is printing: `Exclusive` lists
the requests for which this matters, and `jobs_never_mix` holds in every run without them.
-/
namespace PrintServer

namespace Ledger

/-- Whose blocks each episode has, newest first. -/
def jobs (l : Ledger) : List (List JobKey) := l.history.map fun e => e.accepted.map Prod.fst

/-- Some episode has a block of `job`. -/
def Has (l : Ledger) (job : JobKey) : Prop := ∃ ks ∈ l.jobs, job ∈ ks

theorem jobs_modifyHead (f : Episode → Episode) (hf : ∀ e, (f e).accepted = e.accepted) (es : List Episode) :
    (es.modifyHead f).map (fun e => e.accepted.map Prod.fst) = es.map fun e => e.accepted.map Prod.fst := by
  cases es with
  | nil => rfl
  | cons e es => rw [List.modifyHead_cons, List.map_cons, List.map_cons, hf]

theorem jobs_abort (l : Ledger) : l.abort.jobs = l.jobs := by
  show (if l.state = .printing then _ else l.history).map _ = _
  split
  · exact jobs_modifyHead (Episode.close .aborted) (fun _ => rfl) _
  · rfl

theorem jobs_flush (l : Ledger) (now : Nat) : (l.flush now).jobs = l.jobs :=
  jobs_modifyHead (Episode.flush now) (fun _ => rfl) _

theorem jobs_complete (l : Ledger) (now : Nat) : (l.complete now).jobs = l.jobs :=
  jobs_modifyHead (Episode.close (.completed now)) (fun _ => rfl) _

theorem jobs_stop (l : Ledger) (counted : Bool) (s : PrinterState) : (l.stop counted s).jobs = l.jobs :=
  jobs_modifyHead (Episode.close .stopped) (fun _ => rfl) _

theorem jobs_start (l : Ledger) : l.start.jobs = l.jobs ∨ l.start.jobs = [] :: l.jobs := by
  by_cases h : l.state = .idle
  · rw [start_idle h]
    exact Or.inr rfl
  · rw [start, if_neg h]
    exact Or.inl rfl

theorem has_start {l : Ledger} {k : JobKey} (h : l.start.Has k) : l.Has k := by
  obtain ⟨ks, hks, hk⟩ := h
  rcases l.jobs_start with e | e
  · exact ⟨ks, e ▸ hks, hk⟩
  · rw [e] at hks
    rcases List.mem_cons.1 hks with rfl | hks
    · cases hk
    · exact ⟨ks, hks, hk⟩

theorem has_congr {l l' : Ledger} {k : JobKey} (hj : l'.jobs = l.jobs) (h : l'.Has k) : l.Has k := by
  unfold Has at *
  rwa [hj] at h

end Ledger

/-! ## Keeping the jobs apart -/

/-- Every episode has one job, and no job has two episodes. -/
structure Apart (js : List (List JobKey)) : Prop where
  one : ∀ ks ∈ js, ∀ k ∈ ks, ∀ k' ∈ ks, k = k'
  apart : js.Pairwise fun ks ks' => ∀ k ∈ ks, k ∉ ks'

/-- The next block may be one of `job`. -/
structure Mine (job : JobKey) (l : Ledger) : Prop where
  running : l.state = .printing → ∃ ks rest, l.jobs = ks :: rest ∧ (∀ k ∈ ks, k = job) ∧ ∀ ks' ∈ rest, job ∉ ks'
  fresh : l.state ≠ .printing → ¬ l.Has job

theorem Apart.start {l : Ledger} (h : Apart l.jobs) : Apart l.start.jobs := by
  rcases l.jobs_start with e | e
  · rwa [e]
  · rw [e]
    refine ⟨fun ks hks => ?_, List.pairwise_cons.2 ⟨fun ks _ k hk => (by cases hk), h.apart⟩⟩
    rcases List.mem_cons.1 hks with rfl | hks
    · exact fun k hk => (by cases hk)
    · exact h.one ks hks

namespace Ledger
variable {job : JobKey} {l l' : Ledger}

theorem jobs_sent (hm : Mine job l) (h : Sent job l l') :
    ∃ ks rest, l'.jobs = (ks ++ [job]) :: rest ∧ (∀ k ∈ ks, k = job) ∧ (∀ ks' ∈ rest, job ∉ ks') ∧
      (l.jobs = rest ∧ ks = [] ∨ l.jobs = ks :: rest) := by
  obtain ⟨hs, data, rfl⟩ := h
  rcases hs with hs | hs
  · have hno : ¬ l.Has job := hm.fresh (by simp [hs])
    refine ⟨[], l.jobs, ?_, fun k hk => (by cases hk), fun ks' hks' hk => hno ⟨ks', hks', hk⟩, Or.inl ⟨rfl, rfl⟩⟩
    rw [start_idle hs]
    rfl
  · obtain ⟨ks, rest, hj, h1, h2⟩ := hm.running hs
    refine ⟨ks, rest, ?_, h1, h2, Or.inr hj⟩
    rw [start_printing hs]
    unfold jobs at hj ⊢
    show (l.history.modifyHead (Episode.accept job data)).map _ = _
    cases hh : l.history with
    | nil => rw [hh] at hj; cases hj
    | cons e es =>
      rw [hh] at hj
      obtain ⟨rfl, rfl⟩ := List.cons.inj hj
      rw [List.modifyHead_cons, List.map_cons]
      simp [Episode.accept]

/-- One more block of the job whose turn it is. -/
theorem apart_sent (ha : Apart l.jobs) (hm : Mine job l) (h : Sent job l l') :
    Apart l'.jobs ∧ Mine job l' ∧ ∀ k, l'.Has k → l.Has k ∨ k = job := by
  obtain ⟨ks, rest, hj, h1, h2, hold⟩ := jobs_sent hm h
  have hall : ∀ k ∈ ks ++ [job], k = job := by
    intro k hk
    rcases List.mem_append.1 hk with hk | hk
    · exact h1 k hk
    · exact List.mem_singleton.1 hk
  have hrest : ∀ ks' ∈ rest, ks' ∈ l.jobs := fun ks' hks' => by
    rcases hold with ⟨e, _⟩ | e <;> rw [e]
    · exact hks'
    · exact List.mem_cons_of_mem _ hks'
  refine ⟨⟨?_, ?_⟩, ⟨fun _ => ⟨_, rest, hj, hall, h2⟩, fun hno => absurd h.printing hno⟩, ?_⟩
  · rw [hj]
    intro ks' hks'
    rcases List.mem_cons.1 hks' with rfl | hks'
    · exact fun k hk k' hk' => (hall k hk).trans (hall k' hk').symm
    · exact ha.one ks' (hrest ks' hks')
  · rw [hj]
    refine List.pairwise_cons.2 ⟨fun ks' hks' k hk => ?_, ?_⟩
    · rw [hall k hk]
      exact h2 ks' hks'
    · rcases hold with ⟨e, _⟩ | e
      · exact e ▸ ha.apart
      · exact (List.pairwise_cons.1 (e ▸ ha.apart)).2
  · rintro k ⟨ks', hks', hk⟩
    rw [hj] at hks'
    rcases List.mem_cons.1 hks' with rfl | hks'
    · exact Or.inr (hall k hk)
    · exact Or.inl ⟨ks', hrest ks' hks', hk⟩

/-- A row of blocks of one job. -/
theorem apart_carried (ha : Apart l.jobs) (hm : Mine job l) (h : Relation.ReflTransGen (Sent job) l l') :
    Apart l'.jobs ∧ Mine job l' ∧ ∀ k, l'.Has k → l.Has k ∨ k = job := by
  induction h with
  | refl => exact ⟨ha, hm, fun k hk => Or.inl hk⟩
  | tail _ hs ih =>
    obtain ⟨iha, ihm, ihk⟩ := ih
    obtain ⟨h1, h2, h3⟩ := apart_sent iha ihm hs
    exact ⟨h1, h2, fun k hk => (h3 k hk).elim (ihk k) Or.inr⟩

/-- A job can only be sent from `IDLE` or `PRINTING`. -/
theorem carried_state (h : Relation.ReflTransGen (Sent job) l l') (hs : l'.state = .idle ∨ l'.state = .printing) :
    l.state = .idle ∨ l.state = .printing := by
  rcases Relation.ReflTransGen.cases_head h with rfl | ⟨m, hm, _⟩
  · exact hs
  · exact hm.1

end Ledger

/-- The ledger after a document, seen from outside. -/
theorem Taken.jobs {job : JobKey} {l l' : Ledger} {r' : JobRecord} (h : Taken job l l' r') :
    l' = l ∨ (l.state = .idle ∨ l.state = .printing) ∧
      ∃ m, Relation.ReflTransGen (Ledger.Sent job) l m ∧ (l'.jobs = m.jobs ∨ l'.jobs = m.start.jobs) := by
  cases h with
  | refused hl => exact Or.inl hl
  | aborted m hm hs hl => exact Or.inr ⟨Ledger.carried_state hm hs, m, hm, Or.inr (by rw [hl, Ledger.jobs_abort])⟩
  | sent m hm hl =>
    refine Or.inr ⟨Ledger.carried_state hm.to_reflTransGen (Or.inr (Ledger.printing_of_sent hm)), m, hm.to_reflTransGen,
      Or.inl ?_⟩
    rcases hl with ⟨rfl, _⟩ | ⟨now, rfl⟩ | rfl
    · rfl
    · exact Ledger.jobs_flush m now
    · exact Ledger.jobs_abort m

theorem Taken.apart {job : JobKey} {l l' : Ledger} {r' : JobRecord} (h : Taken job l l' r') (ha : Apart l.jobs)
    (hm : (l.state = .idle ∨ l.state = .printing) → Mine job l) :
    Apart l'.jobs ∧ ∀ k, l'.Has k → l.Has k ∨ k = job := by
  rcases h.jobs with rfl | ⟨hs, m, hc, hj⟩
  · exact ⟨ha, fun k hk => Or.inl hk⟩
  · obtain ⟨h1, _, h3⟩ := Ledger.apart_carried ha (hm hs) hc
    rcases hj with hj | hj
    · exact ⟨hj ▸ h1, fun k hk => h3 k (Ledger.has_congr hj hk)⟩
    · exact ⟨hj ▸ h1.start, fun k hk => h3 k (Ledger.has_start (Ledger.has_congr hj hk))⟩

/-! ## The invariant -/

/-- Jobs are apart, and those who can still send may go on. -/
structure Unmixed (l : Ledger) (raw : RawServer) (r : JobRecord) : Prop where
  apart : Apart l.jobs
  raws : ∀ n, l.Has (.raw n) → n ≤ raw.connection
  ipps : ∀ n, l.Has (.ipp n) → n ≤ r.serial
  /-- An open connection drains nothing. -/
  mine : raw.isOpen = true → Mine (.raw raw.connection) l ∧ (l.state = .printing → l.drainPending = false)
  pending : r.pending = true → ¬ l.Has (.ipp r.serial)

namespace Unmixed
variable {l l' : Ledger} {raw raw' : RawServer} {r r' : JobRecord}

/-- A step that leaves no connection open. -/
theorem closed (h : Unmixed l raw r) (ha : Apart l'.jobs) (hk : ∀ k, l'.Has k → l.Has k)
    (hc : raw'.connection = raw.connection) (ho : raw'.isOpen = false) : Unmixed l' raw' r where
  apart := ha
  raws := fun n hn => hc ▸ h.raws n (hk _ hn)
  ipps := fun n hn => h.ipps n (hk _ hn)
  mine := fun hopen => by
    rw [ho] at hopen
    cases hopen
  pending := fun hp hh => h.pending hp (hk _ hh)

/-- The jobs stay, and whoever was open before may still send. -/
theorem keep (h : Unmixed l raw r) (hj : l'.jobs = l.jobs) (hc : raw'.connection = raw.connection)
    (hm : raw'.isOpen = true → Mine (.raw raw.connection) l' ∧ (l'.state = .printing → l'.drainPending = false)) :
    Unmixed l' raw' r where
  apart := hj ▸ h.apart
  raws := fun n hn => hc ▸ h.raws n (Ledger.has_congr hj hn)
  ipps := fun n hn => h.ipps n (Ledger.has_congr hj hn)
  mine := fun ho => hc ▸ hm ho
  pending := fun hp hh => h.pending hp (Ledger.has_congr hj hh)

/-- Another state outside `PRINTING`. -/
theorem moved (h : Unmixed l raw r) {s : PrinterState} (hp : l.state ≠ .printing) (hs : s ≠ .printing) :
    Unmixed { l with state := s } raw r := by
  refine h.keep rfl rfl fun ho => ⟨⟨fun hno => absurd hno hs, fun _ hh => ?_⟩, fun hno => absurd hno hs⟩
  exact (h.mine ho).1.fresh hp hh

/-- Nothing is pending any more that was not before. -/
theorem record (h : Unmixed l raw r) (hs : r'.serial = r.serial) (hp : r'.pending = true → r.pending = true) :
    Unmixed l raw r' where
  apart := h.apart
  raws := h.raws
  ipps := fun n hn => hs ▸ h.ipps n hn
  mine := h.mine
  pending := fun hp' => hs ▸ h.pending (hp hp')

end Unmixed

section raw
variable {σ : Type} {T : Transport σ} {r : JobRecord}

/-- One move of the RAW server. -/
theorem unmixed_move {s s' : Serving σ} (h : Unmixed s.backend.ledger s.raw r) (hm : Serving.Move T s s') :
    Unmixed s'.backend.ledger s'.raw r := by
  cases hm with
  | work hq hb =>
    rw [hb]
    exact h.keep rfl hq.connection fun ho => h.mine (hq.isOpen ho)
  | send hq ho data hb =>
    obtain ⟨hmine, hdrain⟩ := h.mine ho
    have hcases := UsbPrinterBackend.sendDirect_cases T s.backend (.raw s.raw.connection) data
    rw [hb] at hcases
    rcases hcases with ⟨hno, _⟩ | ⟨hs, _, ⟨_, e⟩ | ⟨hno, _⟩⟩
    · exact absurd rfl hno
    · have hsent : Ledger.Sent (.raw s.raw.connection) s.backend.ledger s'.backend.ledger := ⟨hs, data, e⟩
      obtain ⟨h1, h2, h3⟩ := Ledger.apart_sent h.apart hmine hsent
      have hpend : s'.backend.ledger.drainPending = false := by
        rw [show s'.backend.ledger = _ from e]
        rcases hs with hs | hs
        · rw [Ledger.start_idle hs]
          rfl
        · rw [Ledger.start_printing hs]
          exact hdrain hs
      refine ⟨h1, fun n hn => ?_, fun n hn => ?_, fun _ => hq.connection ▸ ⟨h2, fun _ => hpend⟩, fun hp hh => ?_⟩
      · rw [hq.connection]
        rcases h3 _ hn with hn | hn
        · exact h.raws n hn
        · exact Nat.le_of_eq (JobKey.raw.inj hn)
      · exact h.ipps n ((h3 _ hn).resolve_right nofun)
      · exact h.pending hp ((h3 _ hh).resolve_right nofun)
    · exact absurd rfl hno
  | refuse hq ho hc data error b hr hb =>
    have hcases := UsbPrinterBackend.sendDirect_cases T s.backend (.raw s.raw.connection) data
    rw [hr] at hcases
    have hjobs : b.ledger.jobs = s.backend.ledger.jobs ∨ b.ledger.jobs = s.backend.ledger.start.jobs := by
      rcases hcases with ⟨_, rfl⟩ | ⟨_, _, ⟨hno, _⟩ | ⟨_, e⟩⟩
      · exact Or.inl rfl
      · cases hno
      · exact Or.inr (by rw [show b.ledger = _ from e, Ledger.jobs_abort])
    have hjobs' : s'.backend.ledger.jobs = b.ledger.jobs := by
      rcases hb with rfl | hb
      · rfl
      · rw [hb, UsbPrinterBackend.ledger_abortRawJob, Ledger.jobs_abort]
    rcases hjobs with e | e
    · rw [e] at hjobs'
      exact h.closed (hjobs' ▸ h.apart) (fun k hk => Ledger.has_congr hjobs' hk) hq.connection hc
    · rw [e] at hjobs'
      exact h.closed (hjobs' ▸ h.apart.start) (fun k hk => Ledger.has_start (Ledger.has_congr hjobs' hk)) hq.connection hc
  | finish hq ho hc hb =>
    have hjobs : s'.backend.ledger.jobs = s.backend.ledger.jobs := by
      rw [hb]
      rcases UsbPrinterBackend.finishRawJob_cases T s.backend with ⟨_, e⟩ | ⟨_, _, _, e | e⟩
      · rw [e]
      · rw [e, Ledger.jobs_flush]
      · rw [e, Ledger.jobs_abort]
    exact h.closed (hjobs ▸ h.apart) (fun k hk => Ledger.has_congr hjobs hk) hq.connection hc
  | abort hq ho hc reason hb =>
    have hjobs : s'.backend.ledger.jobs = s.backend.ledger.jobs := by
      rw [hb, UsbPrinterBackend.ledger_abortRawJob, Ledger.jobs_abort]
    exact h.closed (hjobs ▸ h.apart) (fun k hk => Ledger.has_congr hjobs hk) hq.connection hc

theorem unmixed_moves {s s' : Serving σ} (h : Unmixed s.backend.ledger s.raw r) (hm : Serving.Moves T s s') :
    Unmixed s'.backend.ledger s'.raw r := by
  induction hm with
  | refl => exact h
  | tail _ hm ih => exact unmixed_move ih hm

/-- A call of the RAW server. -/
theorem unmixed_handleRawServer {s : Serving σ} (p : RawPoll) (hs : s.raw.Sound) (h : Unmixed s.backend.ledger s.raw r) :
    Unmixed (s.handleRawServer T p).backend.ledger (s.handleRawServer T p).raw r := by
  rcases Serving.handleRawServer_cases T p hs with ha | hm
  · have hfresh : ¬ s.backend.ledger.Has (.raw (s.handleRawServer T p).raw.connection) := fun hh => by
      have hle := h.raws _ hh
      rw [ha.connection] at hle
      omega
    have hidle : (s.handleRawServer T p).backend.ledger.state ≠ .printing := by
      rw [ha.backend]
      show s.backend.state ≠ .printing
      simp [ha.online]
    refine ⟨?_, fun n hn => ?_, ?_, fun _ => ⟨⟨fun hno => absurd hno hidle, fun _ => ?_⟩, fun hno => absurd hno hidle⟩, ?_⟩
    · rw [ha.backend]
      exact h.apart
    · rw [ha.backend] at hn
      rw [ha.connection]
      exact Nat.le_succ_of_le (h.raws n hn)
    · rw [ha.backend]
      exact h.ipps
    · rw [ha.backend]
      exact hfresh
    · rw [ha.backend]
      exact h.pending
  · exact unmixed_moves h hm

/-- The drain does not end under an open connection. -/
theorem unmixed_completeDrainIfReady {b : UsbPrinterBackend σ} {raw : RawServer} (h : Unmixed b.ledger raw r) :
    Unmixed b.completeDrainIfReady.ledger raw r := by
  rcases b.completeDrainIfReady_cases.2.2 with e | ⟨hp, hd, he⟩
  · rwa [e]
  · have hjobs : b.completeDrainIfReady.ledger.jobs = b.ledger.jobs := by
      rcases he with ⟨_, e⟩ | ⟨_, counted, s, _, _, e⟩
      · rw [e, Ledger.jobs_complete]
      · rw [e, Ledger.jobs_stop]
    refine h.keep hjobs rfl fun ho => ?_
    have hno : b.drainPending = false := (h.mine ho).2 hp
    rw [hd] at hno
    cases hno

theorem unmixed_followHost {b : UsbPrinterBackend σ} {raw : RawServer} (h : Unmixed b.ledger raw r) :
    Unmixed b.followHost.ledger raw r := by
  obtain ⟨_, _, ⟨_, e⟩ | ⟨hp, s, hs, e⟩⟩ := b.followHost_cases
  · rwa [e]
  · rw [e]
    exact h.moved hp hs

end raw

/-! ## The loop -/

namespace System
variable {σ : Type}

/-- Send-Document comes when the stream is free, and Cancel-Job does not stop a connection that
still sends. -/
def Exclusive (s : System σ) : LoopAct → Prop
  | .pollIpp client => ∀ r ∈ request client,
      (r.op = 0x0006 → s.seen.acceptsDocument r.attrs = true →
        s.backend.state ≠ .printing ∧ (s.backend.state = .idle → s.raw.isOpen = false)) ∧
      (r.op = 0x0008 → s.seen.refusesCancel r.attrs = none → s.backend.state = .printing → s.raw.isOpen = false)
  | _ => True

instance (s : System σ) (a : LoopAct) : Decidable (s.Exclusive a) :=
  match a with
  | .pollIpp client => inferInstanceAs (Decidable (∀ r ∈ request client, _ ∧ _))
  | .pass _ | .pollBackend .. => inferInstanceAs (Decidable True)

/-- Jobs are unmixed, and the RAW server is sound. -/
structure Separate (s : System σ) : Prop where
  unmixed : Unmixed s.backend.ledger s.raw s.service.record
  sound : s.raw.Sound

theorem separate_pollBackend {T : Transport σ} {relisten : Bool} {p : RawPoll} {s : System σ} (h : Separate s) :
    Separate (s.pollBackend T relisten p) := by
  obtain ⟨hsound, hconn, hopen⟩ := listening_frame relisten p h.sound
  have hstart : Unmixed s.backend.completeDrainIfReady.ledger (s.listening relisten p) s.service.record := by
    have hd := unmixed_completeDrainIfReady h.unmixed
    exact hd.keep rfl hconn fun ho => hd.mine (hopen ▸ ho)
  have hserve : Unmixed (s.served T relisten p).backend.ledger (s.served T relisten p).raw s.service.record :=
    unmixed_handleRawServer (s := { backend := s.backend.completeDrainIfReady, raw := s.listening relisten p }) p hsound hstart
  rw [pollBackend_eq]
  exact ⟨unmixed_followHost hserve, sound_served T relisten p h.sound⟩

/-- The document of a job that has no block yet. -/
theorem unmixed_taken {l l' : Ledger} {raw : RawServer} {r r' : JobRecord} {n : Nat} (h : Unmixed l raw r)
    (hfresh : ¬ l.Has (.ipp n)) (hn : r'.serial = n) (hle : r.serial ≤ n) (hp : r'.pending = false)
    (hfree : (l.state = .idle ∨ l.state = .printing) → l.state = .idle ∧ raw.isOpen = false)
    (ht : Taken (.ipp n) l l' r') : Unmixed l' raw r' := by
  have hpending : r'.pending = true → ¬ l'.Has (.ipp r'.serial) := fun hno => by
    rw [hp] at hno
    cases hno
  rcases ht.jobs with rfl | ⟨hs, _⟩
  · exact ⟨h.apart, h.raws, fun k hk => hn ▸ Nat.le_trans (h.ipps k hk) hle, h.mine, hpending⟩
  · obtain ⟨hidle, hclosed⟩ := hfree hs
    have hmine : Mine (.ipp n) l := ⟨fun hno => (by rw [hidle] at hno; cases hno), fun _ => hfresh⟩
    obtain ⟨h1, h2⟩ := ht.apart h.apart fun _ => hmine
    refine ⟨h1, fun k hk => ?_, fun k hk => ?_, fun ho => ?_, hpending⟩
    · exact h.raws k ((h2 _ hk).resolve_right nofun)
    · rw [hn]
      rcases h2 _ hk with hk | hk
      · exact Nat.le_trans (h.ipps k hk) hle
      · exact Nat.le_of_eq (JobKey.ipp.inj hk)
    · rw [hclosed] at ho
      cases ho

theorem separate_pollIpp {T : Transport σ} {client : Option IppClient} {s : System σ} (h : Separate s)
    (hx : s.Exclusive (.pollIpp client)) : Separate (s.pollIpp T client) := by
  have hseen : s.seen.record = s.service.record.refresh s.backend.state := IppPcl3Service.record_refreshJobState _ _
  have hu : Unmixed s.backend.ledger s.raw s.seen.record := by
    rw [hseen]
    obtain ⟨hs, hp, _⟩ := s.service.record.refresh_frame s.backend.state
    exact h.unmixed.record hs hp
  refine ⟨?_, h.sound⟩
  show Unmixed (s.pollIpp T client).backend.ledger s.raw _
  cases polled_pollIpp T client s with
  | off _ hr hl =>
    rw [hr, hl]
    exact h.unmixed
  | looked hr hl =>
    rw [hr, hl]
    exact hu
  | served c req service b d _ hreq hs hb hserve hr hl =>
    rw [hr, hl]
    rw [← hs, ← hb] at hu
    have hserial : service.serial = service.record.serial := rfl
    have hnew : ¬ b.ledger.Has (.ipp (service.serial + 1)) := fun hh => by
      have hle := hu.ipps _ hh
      rw [← hserial] at hle
      omega
    cases hserve with
    | nothing hr' hl' =>
      rw [hr', hl']
      exact hu
    | refresh hr' hl' =>
      rw [hr', hl']
      obtain ⟨hs', hp', _⟩ := service.record.refresh_frame b.state
      exact hu.record hs' hp'
    | create hidle hr' hl' =>
      rw [hr', hl']
      exact ⟨hu.apart, hu.raws, fun n hn => Nat.le_succ_of_le (hu.ipps n hn), hu.mine, fun _ => hnew⟩
    | print _ hidle hc hr' ht =>
      exact unmixed_taken hu hnew hr'.serial (Nat.le_succ _) hr'.pending
        (fun _ => ⟨hidle, RawServer.closed_of_not_connected hc⟩) ht
    | send ho ha hr' ht =>
      have hpend : service.record.pending = true := IppPcl3Service.pending_of_accepts ha
      obtain ⟨hno, hfree⟩ := (hx req hreq).1 ho (IppPcl3Service.acceptsDocument_congr hs req.attrs ▸ ha)
      have hstate : b.ledger.state = s.backend.state := congrArg Ledger.state hb
      refine unmixed_taken hu (hu.pending hpend) hr'.serial (Nat.le_refl _) hr'.pending (fun hst => ?_) ht
      rw [hstate] at hst ⊢
      have hidle := hst.resolve_right hno
      exact ⟨hidle, hfree hidle⟩
    | cancel ho ha hr' hl' =>
      have hcancel := (hx req hreq).2 ho (IppPcl3Service.refusesCancel_congr hs req.attrs ▸ ha)
      have hrec : Unmixed b.ledger s.raw d.service.record := by
        rw [hr']
        exact hu.record rfl nofun
      rw [hl']
      split
      · rename_i hp
        have hclosed : s.raw.isOpen = false := hcancel ((congrArg Ledger.state hb).symm.trans hp)
        have hjobs := b.ledger.jobs_abort
        exact hrec.closed (hjobs ▸ hrec.apart) (fun k hk => Ledger.has_congr hjobs hk) rfl hclosed
      · exact hrec
    | close _ hr' hl' =>
      rw [hr', hl']
      exact hu.record rfl nofun

theorem separate_step {T : Transport σ} {s s' : System σ} {a : LoopAct} (h : Separate s) (hx : s.Exclusive a)
    (hs : s.step T a = some s') : Separate s' := by
  cases a with
  | pass t =>
    cases hs
    exact ⟨h.unmixed, h.sound⟩
  | pollBackend relisten p =>
    simp only [step] at hs
    split at hs
    · cases hs
      exact separate_pollBackend h
    · cases hs
  | pollIpp client =>
    simp only [step] at hs
    split at hs
    · cases hs
      exact separate_pollIpp h hx
    · cases hs

theorem separate_begin (host : UsbHostManager) (link : σ) (now : Nat) (buffer : Bool) :
    Separate (begin host link now buffer) := by
  have hnone : ∀ k, ¬ (begin host link now buffer).backend.ledger.Has k := fun k ⟨ks, hks, _⟩ => (by cases hks)
  refine ⟨⟨⟨fun ks hks => (by cases hks), List.Pairwise.nil⟩, fun n hn => (hnone _ hn).elim, fun n hn => (hnone _ hn).elim,
    fun ho => (by cases ho), fun _ => hnone _⟩, RawServer.sound_empty rfl rfl rfl⟩

/-- **Print jobs never mix**, in every run of the loop whose IPP requests are exclusive: whatever
the clients, the transport and the USB side do, all blocks of an episode belong to one job, and all
blocks of a job to one episode. -/
theorem jobs_never_mix (T : Transport σ) (host : UsbHostManager) (link : σ) (now : Nat) (buffer : Bool)
    {acts : List LoopAct} {s : System σ} (hx : Lib.Meets (step T) Exclusive (begin host link now buffer) acts)
    (hr : Lib.run (step T) (begin host link now buffer) acts = some s) :
    (∀ e ∈ s.backend.history, ∀ x ∈ e.accepted, ∀ y ∈ e.accepted, x.1 = y.1) ∧
      s.backend.history.Pairwise fun e e' => ∀ job, e.carries job → ¬ e'.carries job := by
  have h : Separate s := Lib.run_inv (fun _ _ _ => separate_step) (separate_begin host link now buffer) hx hr
  obtain ⟨hone, hapart⟩ := h.unmixed.apart
  refine ⟨fun e he x hx y hy => ?_, ?_⟩
  · exact hone _ (List.mem_map_of_mem he) _ (List.mem_map_of_mem hx) _ (List.mem_map_of_mem hy)
  · refine (List.pairwise_map.1 hapart).imp fun hdis job ⟨d, hd⟩ ⟨d', hd'⟩ => ?_
    exact hdis job (List.mem_map_of_mem (f := Prod.fst) hd) (List.mem_map_of_mem (f := Prod.fst) hd')

/-- A RAW connection and then a Print-Job, on a printer that takes everything at once. -/
def twoClients : List LoopAct :=
  [.pollBackend false {}, .pollIpp none, .pollBackend false { accept := true }, .pollIpp none,
    .pollBackend false { rx := [[66]], peer := .cleanFin }, .pollIpp none, .pass { ms := 2000 },
    .pollBackend false {}, .pollIpp none, .pass { ms := 2000 }, .pollBackend false {}, ippPost 0x02 [65]]

theorem jobs_never_mix_twoClients :
    ∃ s, Lib.run (step .immediate) (begin .enumeratedPrinter () 0 true) twoClients = some s ∧
      s.backend.history.map (·.accepted) = [[(.ipp 1, [65])], [(.raw 1, [66])]] ∧
      ∀ e ∈ s.backend.history, ∀ x ∈ e.accepted, ∀ y ∈ e.accepted, x.1 = y.1 := by
  have hx : Lib.Meets (step .immediate) Exclusive (begin .enumeratedPrinter () 0 true) twoClients := by decide +kernel
  have hr : (Lib.run (step .immediate) (begin .enumeratedPrinter () 0 true) twoClients).map
      (fun s => s.backend.history.map (·.accepted)) = some [[(.ipp 1, [65])], [(.raw 1, [66])]] := by decide +kernel
  obtain ⟨s, hs, hh⟩ := Option.map_eq_some_iff.1 hr
  exact ⟨s, hs, hh, (jobs_never_mix .immediate .enumeratedPrinter () 0 true hx hs).1⟩

/-- A RAW client connects, then comes a job with Create-Job and Send-Document, then RAW data. -/
def documentUnderConnection : List LoopAct :=
  [.pollBackend false {}, .pollIpp none, .pollBackend false { accept := true }, ippPost 0x05 [],
    .pollBackend false {}, ippPost 0x06 [65], .pollBackend false { rx := [[66]] }, .pollIpp none]

theorem sendDocument_mixes :
    ∃ s, Lib.run (step .immediate) (begin .enumeratedPrinter () 0 true) documentUnderConnection = some s ∧
      ¬ ∀ e ∈ s.backend.history, ∀ x ∈ e.accepted, ∀ y ∈ e.accepted, x.1 = y.1 := by
  have hr : (Lib.run (step .immediate) (begin .enumeratedPrinter () 0 true) documentUnderConnection).map
      (fun s => s.backend.history.map (·.accepted)) = some [[(.ipp 1, [65]), (.raw 1, [66])]] := by decide +kernel
  obtain ⟨s, hs, hh⟩ := Option.map_eq_some_iff.1 hr
  refine ⟨s, hs, fun hall => ?_⟩
  have hmem : [(JobKey.ipp 1, [65]), (.raw 1, [66])] ∈ s.backend.history.map (·.accepted) := by
    rw [hh]
    exact List.mem_singleton_self _
  obtain ⟨e, he, hacc⟩ := List.mem_map.1 hmem
  have hone := hall e he (.ipp 1, [65]) (by rw [hacc]; simp) (.raw 1, [66]) (by rw [hacc]; simp)
  cases hone

end System
end PrintServer
