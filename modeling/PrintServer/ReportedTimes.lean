import PrintServer.IppChanges
import PrintServer.Loop
import PrintServer.PrinterAttributes
/-!
# The times that answers show (ipp_pcl3_service.cpp:81-89, 527-534, 861-867, 883-906)

Every time is a count of seconds taken from `millis()`, which starts again at 0 after 2^32 ms. Within
one such period the service's seconds lie behind the present one (`Timely`), each change of the service
keeps that, and so do the answers that show them.

| here | there |
| --- | --- |
| `System.paced`     | a step of `loop()`, and the time that rendering its answer takes |
| `Response.site`    | the clocks as the three calls of `epochNow` read them |
| `System.responses` | the answers of a run, in order |
-/
namespace PrintServer

/-! ## Seconds -/

theorem upTimeSeconds_mono {t t' : Nat} (hp : t / 2 ^ 32 = t' / 2 ^ 32) (hle : t ≤ t') :
    upTimeSeconds t ≤ upTimeSeconds t' := by
  unfold upTimeSeconds millis
  apply Nat.div_le_div_right
  omega

/-- No borrow: an earlier second is subtracted from a later one. -/
theorem sub32_upTimeSeconds {t u : Nat} (h : u ≤ upTimeSeconds t) : sub32 (upTimeSeconds t) u = upTimeSeconds t - u := by
  have hlt : upTimeSeconds t < 2 ^ 32 := by
    unfold upTimeSeconds millis
    omega
  unfold sub32
  generalize upTimeSeconds t = v at h hlt
  omega

namespace Site

/-- No wall clock, at any of the three calls. -/
structure Unset (s : Site) : Prop where
  current : s.clock < 1600000000
  config : s.configClock < 1600000000
  state : s.stateClock < 1600000000

instance : DecidablePred Unset := fun s =>
  decidable_of_iff (s.clock < 1600000000 ∧ s.configClock < 1600000000 ∧ s.stateClock < 1600000000)
    ⟨fun h => ⟨h.1, h.2.1, h.2.2⟩, fun h => ⟨h.current, h.config, h.state⟩⟩

variable {s : Site} (h : s.Unset)
include h

theorem Unset.epochNow_eq : s.epochNow = 1704067200 + upTimeSeconds s.now := if_pos h.current

theorem Unset.configEpoch_eq : s.configEpoch = 1704067200 + upTimeSeconds s.configNow := if_pos h.config

theorem Unset.stateEpoch_eq : s.stateEpoch = 1704067200 + upTimeSeconds s.stateNow := if_pos h.state

end Site

/-! ## What the service remembers -/

namespace IppPcl3Service
variable {σ : Type} {s s' : IppPcl3Service} {now now' : Nat}

/-- The remembered seconds are past. -/
structure Timely (s : IppPcl3Service) (now : Nat) : Prop where
  config : s.configChangeUpTime ≤ upTimeSeconds now
  state : s.stateChangeUpTime ≤ upTimeSeconds now
  processing : s.jobProcessingUpTime ≤ upTimeSeconds now
  completed : s.jobCompletedUpTime ≤ upTimeSeconds now
  order : s.lastJobState = .completed → s.jobProcessingUpTime ≤ s.jobCompletedUpTime

theorem Timely.later (h : s.Timely now) (hle : upTimeSeconds now ≤ upTimeSeconds now') : s.Timely now' :=
  ⟨Nat.le_trans h.config hle, Nat.le_trans h.state hle, Nat.le_trans h.processing hle, Nat.le_trans h.completed hle,
    h.order⟩

theorem Timely.change (h : s.Timely now) (hc : Change now s s') : s'.Timely now := by
  cases hc with
  | error text => exact ⟨h.config, h.state, h.processing, h.completed, h.order⟩
  | track printer => exact ⟨h.config, Nat.le_refl _, h.processing, h.completed, h.order⟩
  | newJob jobName pending hn => exact ⟨h.config, h.state, Nat.zero_le _, Nat.zero_le _, fun _ => Nat.le_refl _⟩
  | document => exact ⟨h.config, h.state, h.processing, h.completed, h.order⟩
  | block n =>
    unfold Streaming.sent
    split
    · exact ⟨h.config, h.state, h.processing, h.completed, h.order⟩
    · exact ⟨h.config, h.state, Nat.le_refl _, h.completed, fun hs => by cases hs⟩
  | settled => exact ⟨h.config, h.state, h.processing, h.completed, h.order⟩
  | failed state reason cause hs hr => exact ⟨h.config, h.state, h.processing, h.completed, fun hst => absurd hst hs⟩
  | completed cause => exact ⟨h.config, h.state, h.processing, Nat.le_refl _, fun _ => h.processing⟩

/-- From period `p` on; nothing is said of later periods. -/
structure InPeriod (p : Nat) (s : IppPcl3Service) (now : Nat) : Prop where
  reached : p ≤ now / 2 ^ 32
  timely : now / 2 ^ 32 = p → s.Timely now

theorem InPeriod.pass {p : Nat} (h : s.InPeriod p now) (hle : now ≤ now') : s.InPeriod p now' := by
  have hdiv : now / 2 ^ 32 ≤ now' / 2 ^ 32 := Nat.div_le_div_right hle
  refine ⟨Nat.le_trans h.reached hdiv, ?_⟩
  intro hp
  have hnow : now / 2 ^ 32 = p := Nat.le_antisymm (Nat.le_trans hdiv (Nat.le_of_eq hp)) h.reached
  exact (h.timely hnow).later (upTimeSeconds_mono (hnow.trans hp.symm) hle)

theorem Leads.inPeriod {p : Nat} {m m' : IppPcl3Service × Nat} (h : Leads m m') (hi : m.1.InPeriod p m.2) :
    m'.1.InPeriod p m'.2 :=
  Leads.keeps (I := fun s now => s.InPeriod p now) (fun _ _ _ hi hle => hi.pass hle)
    (fun _ _ _ hi hc => ⟨hi.reached, fun hp => (hi.timely hp).change hc⟩) h hi

theorem timely_begin (now : Nat) (buffer : Bool) : (({} : IppPcl3Service).begin now buffer).Timely now := by
  unfold begin
  split
  · exact ⟨Nat.zero_le _, Nat.zero_le _, Nat.zero_le _, Nat.zero_le _, fun hs => by cases hs⟩
  split
  · exact ⟨Nat.le_refl _, Nat.le_refl _, Nat.zero_le _, Nat.zero_le _, fun hs => by cases hs⟩
  · exact ⟨Nat.zero_le _, Nat.zero_le _, Nat.zero_le _, Nat.zero_le _, fun hs => by cases hs⟩

end IppPcl3Service

/-! ## Time only passes -/

namespace Serving
variable {σ : Type}

theorem now_le_move {T : Transport σ} {s s' : Serving σ} (h : Move T s s') : s.backend.now ≤ s'.backend.now := by
  cases h with
  | work h hb => exact Nat.le_of_eq (congrArg UsbPrinterBackend.now hb).symm
  | send h ho data hb =>
    have hle := UsbPrinterBackend.now_le_sendDirect T s.backend (.raw s.raw.connection) data
    rw [hb] at hle
    exact hle
  | refuse h ho hc data error b hr hb =>
    have hle := UsbPrinterBackend.now_le_sendDirect T s.backend (.raw s.raw.connection) data
    rw [hr] at hle
    rcases hb with hb | hb
    · rw [hb]
      exact hle
    · rw [hb, UsbPrinterBackend.now_abortRawJob]
      exact hle
  | finish h ho hc hb =>
    rw [hb]
    exact UsbPrinterBackend.now_le_finishRawJob T s.backend
  | abort h ho hc reason hb =>
    exact Nat.le_of_eq (hb ▸ UsbPrinterBackend.now_abortRawJob s.backend reason).symm

theorem now_le_handleRawServer (T : Transport σ) (p : RawPoll) {s : Serving σ} (h : s.raw.Sound) :
    s.backend.now ≤ (s.handleRawServer T p).backend.now := by
  rcases handleRawServer_cases T p h with ha | hm
  · exact Nat.le_of_eq (congrArg UsbPrinterBackend.now ha.backend).symm
  · generalize s.handleRawServer T p = s' at hm
    induction hm with
    | refl => exact Nat.le_refl _
    | tail _ hmove ih => exact Nat.le_trans ih (now_le_move hmove)

end Serving

/-! ## Answers of a run -/

/-- An answer, and the clocks while it was rendered. -/
structure Response where
  reply : Reply
  site : Site

namespace System
variable {σ : Type} (T : Transport σ)

def answer (s : System σ) : LoopAct → Option Reply
  | .pollIpp client => (s.service.poll T s.raw.rawClientConnected client s.backend).2.2
  | _ => none

/-- A step, and the rendering of its answer: the three calls of `epochNow` come one after the other,
and the loop goes on after them. -/
def paced (s : System σ) (a : LoopAct × Site) : Option (System σ) :=
  match s.step T a.1, s.answer T a.1 with
  | none, _ => none
  | some m, none => some m
  | some m, some _ =>
    if m.backend.now ≤ a.2.now ∧ a.2.now ≤ a.2.configNow ∧ a.2.configNow ≤ a.2.stateNow then
      some { m with backend := m.backend.pass { ms := a.2.stateNow - m.backend.now } }
    else none

/-- The answers of a run, in order. -/
def responses : System σ → List (LoopAct × Site) → List Response
  | _, [] => []
  | s, a :: as =>
    match s.paced T a with
    | none => []
    | some m => (s.answer T a.1).toList.map (⟨·, a.2⟩) ++ responses m as

end System

namespace Response

/-- `printer-up-time`, or `job-printer-up-time`. -/
def upTime (r : Response) : Option Nat :=
  match r.reply.answered with
  | .simple _ => none
  | .job _ report => some report.upTime
  | .printer _ snap => some snap.upTime

/-- What is shown does not go back from one answer to a later one. -/
structure Before (r r' : Response) : Prop where
  upTime : ∀ u ∈ r.upTime, ∀ u' ∈ r'.upTime, u ≤ u'
  epoch : r.site.stateEpoch ≤ r'.site.epochNow

/-- The times of the printer. A date of a change is past exactly if no more seconds went by between
the calls of `epochNow` than since the change. -/
structure Dated (site : Site) (snap : PrinterSnapshot) : Prop where
  config : snap.configChangeUp ≤ snap.upTime
  state : snap.stateChangeUp ≤ snap.upTime
  configAnchor : 1704067200 ≤ PrinterAttributes.configChangeDate site snap
  stateAnchor : 1704067200 ≤ PrinterAttributes.stateChangeDate site snap
  configPast : PrinterAttributes.configChangeDate site snap ≤ site.epochNow ↔
    upTimeSeconds site.configNow - upTimeSeconds site.now ≤ snap.upTime - snap.configChangeUp
  statePast : PrinterAttributes.stateChangeDate site snap ≤ site.epochNow ↔
    upTimeSeconds site.stateNow - upTimeSeconds site.now ≤ snap.upTime - snap.stateChangeUp

def Consistent (r : Response) : Prop :=
  match r.reply.answered with
  | .simple _ => True
  | .job _ report => report.jobState = .completed →
    report.processingUp ≤ report.completedUp ∧ report.completedUp ≤ report.upTime
  | .printer _ snap => Dated r.site snap

/-- When an answer was given: what it shows was read first, then the clocks. -/
structure Within (r : Response) (lo hi : Nat) : Prop where
  read : ∃ t, lo ≤ t ∧ t ≤ r.site.now ∧ ∀ u ∈ r.upTime, u = upTimeSeconds t
  config : r.site.now ≤ r.site.configNow
  state : r.site.configNow ≤ r.site.stateNow
  last : r.site.stateNow ≤ hi

theorem Within.widen {r : Response} {lo lo' hi hi' : Nat} (h : r.Within lo hi) (hlo : lo' ≤ lo) (hhi : hi ≤ hi') :
    r.Within lo' hi' := by
  obtain ⟨t, ht, hsite, hup⟩ := h.read
  exact ⟨⟨t, Nat.le_trans hlo ht, hsite, hup⟩, h.config, h.state, Nat.le_trans h.last hhi⟩

/-- An instant between two of one period is in it. -/
theorem div_between {lo t hi : Nat} (hp : lo / 2 ^ 32 = hi / 2 ^ 32) (hlo : lo ≤ t) (hhi : t ≤ hi) :
    lo / 2 ^ 32 = t / 2 ^ 32 := by
  omega

theorem before_of_within {r r' : Response} {lo mid hi : Nat} (hp : lo / 2 ^ 32 = hi / 2 ^ 32) (h : r.Within lo mid)
    (h' : r'.Within mid hi) (hunset : r.site.Unset) (hunset' : r'.site.Unset) : r.Before r' := by
  obtain ⟨t, hlo, hsite, hup⟩ := h.read
  obtain ⟨t', hmid, hsite', hup'⟩ := h'.read
  have := h.config
  have := h.state
  have := h.last
  have := h'.config
  have := h'.state
  have := h'.last
  constructor
  · intro u hu u' hu'
    rw [hup u hu, hup' u' hu']
    exact upTimeSeconds_mono (by omega) (by omega)
  · rw [hunset.stateEpoch_eq, hunset'.epochNow_eq]
    have hle : upTimeSeconds r.site.stateNow ≤ upTimeSeconds r'.site.now := upTimeSeconds_mono (by omega) (by omega)
    omega

end Response

namespace System
variable {σ : Type} {T : Transport σ}

/-! ## One step -/

/-- The service's seconds are past, up to the end of period `p`. -/
structure OnTime (p : Nat) (s : System σ) : Prop where
  sound : s.raw.Sound
  service : s.service.InPeriod p s.backend.now

theorem now_le_pollBackend (relisten : Bool) (p : RawPoll) {s : System σ} (h : s.raw.Sound) :
    s.backend.now ≤ (s.pollBackend T relisten p).backend.now := by
  have hdrain : s.backend.completeDrainIfReady.now = s.backend.now := s.backend.completeDrainIfReady_cases.1
  have hserve := Serving.now_le_handleRawServer T p
    (s := { backend := s.backend.completeDrainIfReady, raw := s.listening relisten p }) (listening_frame relisten p h).1
  have hfollow := (s.served T relisten p).backend.followHost_cases.1
  rw [pollBackend_eq]
  show s.backend.now ≤ (s.served T relisten p).backend.followHost.now
  rw [hfollow, ← hdrain]
  exact hserve

theorem onTime_step {p : Nat} {s s' : System σ} {a : LoopAct} (h : s.OnTime p) (hs : s.step T a = some s') :
    s'.OnTime p ∧ s.backend.now ≤ s'.backend.now := by
  cases a with
  | pass t =>
    cases hs
    have hle : s.backend.now ≤ (s.backend.pass t).now := Nat.le_add_right _ _
    exact ⟨⟨h.sound, h.service.pass hle⟩, hle⟩
  | pollBackend relisten q =>
    simp only [step] at hs
    split at hs
    · cases hs
      have hle := now_le_pollBackend (T := T) relisten q h.sound
      exact ⟨⟨sound_served T relisten q h.sound, h.service.pass hle⟩, hle⟩
    · cases hs
  | pollIpp client =>
    simp only [step] at hs
    split at hs
    · cases hs
      have hl := (IppPcl3Service.leads_poll T s.raw.rawClientConnected client s.service s.backend).1
      exact ⟨⟨h.sound, hl.inPeriod h.service⟩, hl.now_le⟩
    · cases hs

/-- The answer of a step shows a moment of it. -/
theorem told_step {s s' : System σ} {a : LoopAct} {reply : Reply} (hs : s.step T a = some s')
    (ha : s.answer T a = some reply) :
    IppPcl3Service.Told (s.service, s.backend.now) (s'.service, s'.backend.now) reply.answered := by
  cases a with
  | pass t => cases ha
  | pollBackend relisten q => cases ha
  | pollIpp client =>
    simp only [step] at hs
    split at hs
    · cases hs
      exact (IppPcl3Service.leads_poll T s.raw.rawClientConnected client s.service s.backend).2 reply ha
    · cases hs

/-! ## One answer -/

theorem dated_of_timely {service : IppPcl3Service} {snap : PrinterSnapshot} {site : Site} {t : Nat}
    (h : service.Timely t) (hup : snap.upTime = upTimeSeconds t) (hstate : snap.stateChangeUp = service.stateChangeUpTime)
    (hconfig : snap.configChangeUp = service.configChangeUpTime) (hunset : site.Unset)
    (hnow : upTimeSeconds t ≤ upTimeSeconds site.now) (hle : upTimeSeconds site.now ≤ upTimeSeconds site.configNow)
    (hle' : upTimeSeconds site.configNow ≤ upTimeSeconds site.stateNow) : Response.Dated site snap := by
  have hc : snap.configChangeUp ≤ upTimeSeconds t := hconfig ▸ h.config
  have hs : snap.stateChangeUp ≤ upTimeSeconds t := hstate ▸ h.state
  have hcd : PrinterAttributes.configChangeDate site snap =
      1704067200 + upTimeSeconds site.configNow - ((upTimeSeconds t - snap.configChangeUp : Nat) : Int) := by
    unfold PrinterAttributes.configChangeDate
    rw [hunset.configEpoch_eq, hup, sub32_upTimeSeconds hc]
  have hsd : PrinterAttributes.stateChangeDate site snap =
      1704067200 + upTimeSeconds site.stateNow - ((upTimeSeconds t - snap.stateChangeUp : Nat) : Int) := by
    unfold PrinterAttributes.stateChangeDate
    rw [hunset.stateEpoch_eq, hup, sub32_upTimeSeconds hs]
  constructor
  · rw [hup]
    exact hc
  · rw [hup]
    exact hs
  · rw [hcd]
    omega
  · rw [hsd]
    omega
  · rw [hcd, hunset.epochNow_eq, hup]
    omega
  · rw [hsd, hunset.epochNow_eq, hup]
    omega

/-- **One answer.** It lies within its step, and its times agree. -/
theorem consistent_answer {p : Nat} {s m : System σ} {a : LoopAct} {reply : Reply} {site : Site} (h : s.OnTime p)
    (hm : s.step T a = some m) (ha : s.answer T a = some reply) (hnow : m.backend.now ≤ site.now)
    (hconfig : site.now ≤ site.configNow) (hstate : site.configNow ≤ site.stateNow) (hp : site.stateNow / 2 ^ 32 = p)
    (hunset : site.Unset) :
    (⟨reply, site⟩ : Response).Within s.backend.now site.stateNow ∧ (⟨reply, site⟩ : Response).Consistent := by
  obtain ⟨⟨service, t⟩, hk, hend, hshows⟩ := told_step hm ha
  have hlo : s.backend.now ≤ t := hk.now_le
  have hread : t ≤ site.now := Nat.le_trans hend.now_le hnow
  have hi : service.InPeriod p t := hk.inPeriod h.service
  have hreached := h.service.reached
  -- all instants of the answer are in the period
  have hperiod : s.backend.now / 2 ^ 32 = site.stateNow / 2 ^ 32 := by omega
  have hdiv : ∀ u, s.backend.now ≤ u → u ≤ site.stateNow → u / 2 ^ 32 = p := by
    intro u h1 h2
    rw [← Response.div_between hperiod h1 h2, hperiod, hp]
  have ht : t / 2 ^ 32 = p := hdiv t hlo (by omega)
  have hn : site.now / 2 ^ 32 = p := hdiv site.now (by omega) (by omega)
  have hc : site.configNow / 2 ^ 32 = p := hdiv site.configNow (by omega) (by omega)
  have htimely := hi.timely ht
  have hup : ∀ u ∈ (⟨reply, site⟩ : Response).upTime, u = upTimeSeconds t := by
    intro u hu
    unfold Response.upTime at hu
    generalize reply.answered = answered at hshows hu
    cases answered with
    | simple status => cases hu
    | job status report =>
      cases hu
      exact congrArg JobReport.upTime (show report = service.report t from hshows)
    | printer attrs snap =>
      cases hu
      exact hshows.1
  refine ⟨⟨⟨t, hlo, hread, hup⟩, hconfig, hstate, Nat.le_refl _⟩, ?_⟩
  unfold Response.Consistent
  generalize reply.answered = answered at hshows
  cases answered with
  | simple status => trivial
  | job status report =>
    obtain rfl : report = service.report t := hshows
    intro hst
    exact ⟨htimely.order hst, htimely.completed⟩
  | printer attrs snap =>
    obtain ⟨hsnap, hstateUp, hconfigUp⟩ := hshows
    exact dated_of_timely htimely hsnap hstateUp hconfigUp hunset (upTimeSeconds_mono (ht.trans hn.symm) hread)
      (upTimeSeconds_mono (hn.trans hc.symm) hconfig) (upTimeSeconds_mono (hc.trans hp.symm) hstate)

/-! ## Runs -/

/-- A step whose answer, if there is one, is rendered before the next step. -/
theorem paced_cases {s s' : System σ} {a : LoopAct × Site} (h : s.paced T a = some s') :
    (s.answer T a.1 = none ∧ s.step T a.1 = some s') ∨
      ∃ reply m, s.answer T a.1 = some reply ∧ s.step T a.1 = some m ∧ m.backend.now ≤ a.2.now ∧
        a.2.now ≤ a.2.configNow ∧ a.2.configNow ≤ a.2.stateNow ∧
        s' = { m with backend := m.backend.pass { ms := a.2.stateNow - m.backend.now } } := by
  unfold paced at h
  split at h
  · cases h
  · rename_i m hm ha
    cases h
    exact Or.inl ⟨ha, hm⟩
  · rename_i m reply hm ha
    split at h
    · rename_i hc
      cases h
      exact Or.inr ⟨reply, m, ha, hm, hc.1, hc.2.1, hc.2.2, rfl⟩
    · cases h

theorem onTime_paced {p : Nat} {s s' : System σ} {a : LoopAct × Site} (h : s.OnTime p) (hs : s.paced T a = some s') :
    s'.OnTime p ∧ s.backend.now ≤ s'.backend.now := by
  rcases paced_cases hs with ⟨_, hm⟩ | ⟨reply, m, _, hm, _, _, _, rfl⟩
  · exact onTime_step h hm
  · obtain ⟨hon, hle⟩ := onTime_step h hm
    have hpass : m.step T (.pass { ms := a.2.stateNow - m.backend.now }) =
        some { m with backend := m.backend.pass { ms := a.2.stateNow - m.backend.now } } := rfl
    obtain ⟨hon', hle'⟩ := onTime_step hon hpass
    exact ⟨hon', Nat.le_trans hle hle'⟩

theorem onTime_run {p : Nat} {as : List (LoopAct × Site)} {s s' : System σ} (h : s.OnTime p)
    (hrun : Lib.run (paced T) s as = some s') : s.backend.now ≤ s'.backend.now := by
  have hinv := Lib.run_inv' (I := fun m : System σ => m.OnTime p ∧ s.backend.now ≤ m.backend.now) (by
    rintro m a m' ⟨hm, hle⟩ hs
    obtain ⟨hm', hle'⟩ := onTime_paced hm hs
    exact ⟨hm', Nat.le_trans hle hle'⟩) ⟨h, Nat.le_refl _⟩ hrun
  exact hinv.2

/-- **The answers of a run** that ends in period `p`. The induction is on the run; the head's answer
is over when the rest begins. -/
theorem responses_onTime {p : Nat} : ∀ (as : List (LoopAct × Site)) {s s' : System σ}, s.OnTime p →
    Lib.run (paced T) s as = some s' → s'.backend.now / 2 ^ 32 = p → (∀ r ∈ s.responses T as, r.site.Unset) →
    (∀ r ∈ s.responses T as, r.Within s.backend.now s'.backend.now ∧ r.Consistent) ∧
      (s.responses T as).Pairwise Response.Before
  | [], s, s', _, _, _, _ => ⟨fun r hr => (by cases hr), .nil⟩
  | a :: as, s, s', h, hrun, hp, hunset => by
    obtain ⟨m, hm, hrest⟩ := Lib.run_cons hrun
    obtain ⟨hon, hle⟩ := onTime_paced h hm
    have hend := onTime_run hon hrest
    have heq : s.responses T (a :: as) = (s.answer T a.1).toList.map (⟨·, a.2⟩) ++ m.responses T as := by
      simp only [responses, hm]
    rw [heq] at hunset ⊢
    have ih := responses_onTime as hon hrest hp fun r hr => hunset r (List.mem_append_right _ hr)
    have htail : ∀ r ∈ m.responses T as, r.Within s.backend.now s'.backend.now ∧ r.Consistent := fun r hr =>
      ⟨(ih.1 r hr).1.widen hle (Nat.le_refl _), (ih.1 r hr).2⟩
    rcases paced_cases hm with ⟨ha, _⟩ | ⟨reply, k, ha, hk, hnow, hconfig, hstate, rfl⟩
    · rw [ha]
      exact ⟨htail, ih.2⟩
    · rw [ha] at hunset ⊢
      have hlast : (k.backend.pass { ms := a.2.stateNow - k.backend.now }).now = a.2.stateNow := by
        show k.backend.now + (a.2.stateNow - k.backend.now) = a.2.stateNow
        omega
      have hsite : a.2.Unset := hunset ⟨reply, a.2⟩ List.mem_cons_self
      have hreached := h.service.reached
      have hperiod : a.2.stateNow / 2 ^ 32 = p := by
        rw [← hlast, ← hp]
        exact Nat.le_antisymm (Nat.div_le_div_right hend) (hp ▸ hon.service.reached)
      obtain ⟨hin, hcons⟩ := consistent_answer h hk ha hnow hconfig hstate hperiod hsite
      have hdone : (⟨reply, a.2⟩ : Response).Within s.backend.now (k.backend.pass { ms := a.2.stateNow - k.backend.now }).now :=
        hin.widen (Nat.le_refl _) (Nat.le_of_eq hlast.symm)
      have hwhole : s.backend.now / 2 ^ 32 = s'.backend.now / 2 ^ 32 := by
        rw [hp]
        exact Nat.le_antisymm (hp ▸ Nat.div_le_div_right (Nat.le_trans hle hend)) hreached
      constructor
      · intro r hr
        rcases List.mem_cons.1 hr with rfl | hr
        · exact ⟨hdone.widen (Nat.le_refl _) hend, hcons⟩
        · exact htail r hr
      · refine List.pairwise_cons.2 ⟨?_, ih.2⟩
        intro r hr
        exact Response.before_of_within hwhole hdone (ih.1 r hr).1 hsite (hunset r (List.mem_cons_of_mem _ hr))

/-- **Reported times are consistent** in every run without a wall clock that ends before `millis()`
starts again. -/
theorem times_consistent (T : Transport σ) (host : UsbHostManager) (link : σ) (now : Nat) (buffer : Bool)
    {as : List (LoopAct × Site)} {s : System σ} (hrun : Lib.run (paced T) (begin host link now buffer) as = some s)
    (hperiod : s.backend.now / 2 ^ 32 = now / 2 ^ 32)
    (hunset : ∀ r ∈ (begin host link now buffer).responses T as, r.site.Unset) :
    ((begin host link now buffer).responses T as).Pairwise Response.Before ∧
      ∀ r ∈ (begin host link now buffer).responses T as, r.Consistent := by
  have h : (begin host link now buffer).OnTime (now / 2 ^ 32) := by
    refine ⟨RawServer.sound_empty rfl rfl rfl, ⟨Nat.le_refl _, ?_⟩⟩
    intro _
    exact IppPcl3Service.timely_begin now buffer
  obtain ⟨hall, hpair⟩ := responses_onTime as h hrun hperiod hunset
  exact ⟨hpair, fun r hr => (hall r hr).2⟩

/-- The clocks of a bridge without a wall clock; the last two calls come a second after the first. -/
def bootClock (now : Nat) : Site := { ip := none, mac := fun _ => 0, clock := 0, now, configNow := now + 1000 }

/-- Two Get-Printer-Attributes, `ms` apart. -/
def twoAnswers (now ms : Nat) : List (LoopAct × Site) :=
  [(.pollBackend false {}, bootClock 0), (ippPost 0x0B [], bootClock now), (.pass { ms }, bootClock 0),
    (.pollBackend false {}, bootClock 0), (ippPost 0x0B [], bootClock (now + 1000 + ms))]

theorem times_consistent_twoAnswers :
    ∃ s, Lib.run (paced .immediate) (begin .enumeratedPrinter () 5000 true) (twoAnswers 5000 2000) = some s ∧
      ((begin .enumeratedPrinter () 5000 true).responses .immediate (twoAnswers 5000 2000)).length = 2 ∧
      ((begin .enumeratedPrinter () 5000 true).responses .immediate (twoAnswers 5000 2000)).Pairwise Response.Before ∧
      ∀ r ∈ (begin .enumeratedPrinter () 5000 true).responses .immediate (twoAnswers 5000 2000), r.Consistent := by
  have hr : (Lib.run (paced .immediate) (begin .enumeratedPrinter () 5000 true) (twoAnswers 5000 2000)).map
      (fun s => decide (s.backend.now / 2 ^ 32 = 5000 / 2 ^ 32)) = some true := by decide +kernel
  obtain ⟨s, hs, hp⟩ := Option.map_eq_some_iff.1 hr
  have hunset : ∀ r ∈ (begin .enumeratedPrinter () 5000 true).responses .immediate (twoAnswers 5000 2000),
      r.site.Unset := by decide +kernel
  have h := times_consistent .immediate .enumeratedPrinter () 5000 true hs (of_decide_eq_true hp) hunset
  exact ⟨s, hs, by decide +kernel, h.1, h.2⟩

end System

/-- The seconds that a printer's answer shows, and the date of its configuration beside its clock. -/
def Response.shown (r : Response) : Option (Nat × Nat × Int × Int) :=
  match r.reply.answered with
  | .printer _ snap =>
    some (snap.upTime, snap.configChangeUp, PrinterAttributes.configChangeDate r.site snap, r.site.epochNow)
  | _ => none

theorem Response.of_shown {r : Response} {u c : Nat} {date clock : Int} (h : r.shown = some (u, c, date, clock)) :
    r.upTime = some u ∧ (r.Consistent → c ≤ u) := by
  unfold shown at h
  unfold upTime Consistent
  generalize r.reply.answered = answered at h
  cases answered with
  | simple status => cases h
  | job status report => cases h
  | printer attrs snap =>
    cases h
    exact ⟨rfl, Dated.config⟩

namespace System

/-- The first answer dates the start of the bridge a second ahead of its clock. The second one, after
the counter started again, goes back in time, and dates the start 136 years before it. -/
theorem times_wrap :
    ∃ s rs, Lib.run (paced .immediate) (begin .enumeratedPrinter () 5000 true) (twoAnswers 5000 4294962296) = some s ∧
      (begin .enumeratedPrinter () 5000 true).responses .immediate (twoAnswers 5000 4294962296) = rs ∧
      (∀ r ∈ rs, r.site.Unset) ∧
      rs.map Response.shown = [some (5, 5, 1704067206, 1704067205), some (1, 5, -2590900090, 1704067201)] ∧
      ¬ rs.Pairwise Response.Before ∧ ¬ ∀ r ∈ rs, r.Consistent := by
  have hr : (Lib.run (paced .immediate) (begin .enumeratedPrinter () 5000 true) (twoAnswers 5000 4294962296)).isSome =
      true := by decide +kernel
  obtain ⟨s, hs⟩ := Option.isSome_iff_exists.1 hr
  have hunset : ∀ r ∈ (begin .enumeratedPrinter () 5000 true).responses .immediate (twoAnswers 5000 4294962296),
      r.site.Unset := by decide +kernel
  have hshown : ((begin .enumeratedPrinter () 5000 true).responses .immediate (twoAnswers 5000 4294962296)).map
      Response.shown = [some (5, 5, 1704067206, 1704067205), some (1, 5, -2590900090, 1704067201)] := by decide +kernel
  refine ⟨s, _, hs, rfl, hunset, hshown, ?_⟩
  generalize (begin .enumeratedPrinter () 5000 true).responses .immediate (twoAnswers 5000 4294962296) = rs at hshown
  obtain ⟨r, rest, rfl, h1, hrest⟩ := List.map_eq_cons_iff.1 hshown
  obtain ⟨r', _, rfl, h2, _⟩ := List.map_eq_cons_iff.1 hrest
  obtain ⟨hup, _⟩ := Response.of_shown h1
  obtain ⟨hup', hcons⟩ := Response.of_shown h2
  constructor
  · intro hpair
    have hb := (List.pairwise_cons.1 hpair).1 r' List.mem_cons_self
    have hle : 5 ≤ 1 := hb.upTime 5 hup 1 hup'
    omega
  · intro hall
    have hle : 5 ≤ 1 := hcons (hall r' (List.mem_cons_of_mem _ List.mem_cons_self))
    omega

end System
end PrintServer
