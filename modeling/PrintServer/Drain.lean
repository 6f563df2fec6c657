import PrintServer.Loop
/-!
# A counted job was flushed (usb_printer_backend.cpp:494-577, 628-700)

`finishRawJob` arms the drain timer after a flush that returned true, and `completeDrainIfReady`
counts the job once the guard time has passed. `sendDirect` does not look at `drainPending_`:
bytes accepted while the timer runs are counted without a flush. `completed_flushed` is the
guarantee for the runs in which this does not happen.
-/
namespace PrintServer

theorem sub32_millis {t0 t : Nat} (h : t0 ≤ t) : sub32 (millis t) (millis t0) ≤ t - t0 := by
  unfold sub32 millis
  omega

/-- If the episode was counted as completed, a flush returned true after its last accepted byte,
and the guard time passed after that. -/
def Episode.FlushedInFull (e : Episode) : Prop :=
  ∀ t, e.ending = some (.completed t) → ∃ t0, e.flushedAt = some t0 ∧ t0 + postJobMinGuardMs ≤ t

theorem Episode.flushedInFull_close {e : Episode} {how : JobEnding} (h : ∀ t, how ≠ .completed t) :
    (e.close how).FlushedInFull := by
  intro t ht
  exact absurd (Option.some.inj ht) (h t)

/-- A running drain was started by a flush after the last accepted byte. -/
structure Armed (now : Nat) (l : Ledger) (e : Episode) : Prop where
  running : e.ending = none
  flushed : l.drainPending = true → ∃ t0, e.flushedAt = some t0 ∧ t0 ≤ now ∧ l.drainStartedMs = millis t0

structure DrainInv (now : Nat) (l : Ledger) : Prop where
  printing : l.state = .printing → ∃ e es, l.history = e :: es ∧ Armed now l e
  full : ∀ e ∈ l.history, e.FlushedInFull

namespace DrainInv
variable {now now' : Nat} {l : Ledger}

theorem later (h : DrainInv now l) (hn : now ≤ now') : DrainInv now' l := by
  refine ⟨fun hp => ?_, h.full⟩
  obtain ⟨e, es, hh, ha⟩ := h.printing hp
  refine ⟨e, es, hh, ha.running, fun hd => ?_⟩
  obtain ⟨t0, h1, h2, h3⟩ := ha.flushed hd
  exact ⟨t0, h1, Nat.le_trans h2 hn, h3⟩

/-- Closing the running episode keeps the others as they are. -/
theorem head_full {e : Episode} {es : List Episode} (h : DrainInv now l) (hh : l.history = e :: es)
    {f : Episode → Episode} (hf : (f e).FlushedInFull) : ∀ e' ∈ l.history.modifyHead f, e'.FlushedInFull := by
  intro e' he'
  rw [hh, List.modifyHead_cons] at he'
  rcases List.mem_cons.1 he' with rfl | he'
  · exact hf
  · exact h.full e' (hh ▸ List.mem_cons_of_mem _ he')

theorem start (h : DrainInv now l) : DrainInv now l.start := by
  by_cases hi : l.state = .idle
  · rw [Ledger.start_idle hi]
    refine ⟨fun _ => ⟨{}, l.history, rfl, rfl, ?_⟩, ?_⟩
    · intro hd
      cases hd
    · intro e he
      rcases List.mem_cons.1 he with rfl | he
      · intro t ht
        cases ht
      · exact h.full e he
  · rwa [Ledger.start, if_neg hi]

theorem accept {job : JobKey} {data : Bytes} (h : DrainInv now l) (hp : l.state = .printing)
    (hd : l.drainPending = false) : DrainInv now (l.accept job data) := by
  obtain ⟨e, es, hh, ha⟩ := h.printing hp
  refine ⟨fun _ => ⟨e.accept job data, es, ?_, ha.running, ?_⟩, ?_⟩
  · simp only [Ledger.accept, hh, List.modifyHead_cons]
  · intro hd'
    rw [Ledger.accept, hd] at hd'
    cases hd'
  · refine h.head_full hh fun t ht => ?_
    rw [Episode.accept, ha.running] at ht
    cases ht

theorem flush (h : DrainInv now l) (hp : l.state = .printing) : DrainInv now (l.flush now) := by
  obtain ⟨e, es, hh, ha⟩ := h.printing hp
  refine ⟨fun _ => ⟨e.flush now, es, ?_, ha.running, fun _ => ⟨now, rfl, Nat.le_refl _, rfl⟩⟩, ?_⟩
  · simp only [Ledger.flush, hh, List.modifyHead_cons]
  · refine h.head_full hh fun t ht => ?_
    rw [Episode.flush, ha.running] at ht
    cases ht

theorem abort (h : DrainInv now l) : DrainInv now l.abort := by
  refine ⟨fun hp => (by cases hp), ?_⟩
  by_cases hp : l.state = .printing
  · obtain ⟨e, es, hh, _⟩ := h.printing hp
    simp only [Ledger.abort, hp, if_true]
    exact h.head_full hh (Episode.flushedInFull_close (by simp))
  · simp only [Ledger.abort, hp, if_false]
    exact h.full

theorem stop {counted : Bool} {s : PrinterState} (h : DrainInv now l) (hp : l.state = .printing)
    (hs : s ≠ .printing) : DrainInv now (l.stop counted s) := by
  obtain ⟨e, es, hh, _⟩ := h.printing hp
  exact ⟨fun hp' => absurd hp' hs, h.head_full hh (Episode.flushedInFull_close (by simp))⟩

theorem complete (h : DrainInv now l) (hp : l.state = .printing) (hd : l.drainPending = true)
    (hg : postJobMinGuardMs ≤ sub32 (millis now) l.drainStartedMs) : DrainInv now (l.complete now) := by
  obtain ⟨e, es, hh, ha⟩ := h.printing hp
  obtain ⟨t0, hf, hle, hm⟩ := ha.flushed hd
  refine ⟨fun hp' => (by cases hp'), h.head_full hh fun t ht => ?_⟩
  obtain rfl : now = t := by simpa [Episode.close] using ht
  have hage : postJobMinGuardMs ≤ now - t0 := Nat.le_trans (hm ▸ hg) (sub32_millis hle)
  have h0 : 0 < postJobMinGuardMs := by decide
  exact ⟨t0, hf, by omega⟩

theorem moved {s : PrinterState} (h : DrainInv now l) (hs : s ≠ .printing) :
    DrainInv now { l with state := s } :=
  ⟨fun hp => absurd hp hs, h.full⟩

end DrainInv

namespace UsbPrinterBackend
variable {σ : Type} {T : Transport σ}

/-- Nothing is sent while the drain timer of the same episode runs. -/
def NoLateBytes (b : UsbPrinterBackend σ) : Call → Prop
  | .sendDirect .. => b.state = .printing → b.drainPending = false
  | _ => True

instance (b : UsbPrinterBackend σ) (c : Call) : Decidable (b.NoLateBytes c) :=
  match c with
  | .sendDirect .. => inferInstanceAs (Decidable (_ → _))
  | .finishRawJob | .abortRawJob _ | .completeDrainIfReady | .followHost | .pass _ => inferInstanceAs (Decidable True)

theorem drainInv_sendDirect {b : UsbPrinterBackend σ} {job : JobKey} {data : Bytes} (h : DrainInv b.now b.ledger)
    (hc : b.state = .printing → b.drainPending = false) :
    DrainInv (b.sendDirect T job data).2.now (b.sendDirect T job data).2.ledger := by
  rcases sendDirect_cases T b job data with ⟨_, e⟩ | ⟨hs, hn, hr⟩
  · rw [e]
    exact h
  have hst := (h.later hn).start
  have hp : b.ledger.start.state = .printing := Ledger.start_state hs
  rcases hr with ⟨_, e⟩ | ⟨_, e⟩
  · rw [e]
    refine hst.accept hp ?_
    by_cases hi : b.ledger.state = .idle
    · rw [Ledger.start_idle hi]
    · have hb : b.state = .printing := hs.resolve_left hi
      rw [Ledger.start_printing hb]
      exact hc hb
  · rw [e]
    exact hst.abort

theorem drainInv_finishRawJob {b : UsbPrinterBackend σ} (h : DrainInv b.now b.ledger) :
    DrainInv (b.finishRawJob T).now (b.finishRawJob T).ledger := by
  rcases finishRawJob_cases T b with ⟨_, e⟩ | ⟨hp, _, hn, e | e⟩
  · rwa [e]
  · rw [e]
    exact (h.later hn).flush hp
  · rw [e]
    exact (h.later hn).abort

theorem drainInv_completeDrainIfReady {b : UsbPrinterBackend σ} (h : DrainInv b.now b.ledger) :
    DrainInv b.completeDrainIfReady.now b.completeDrainIfReady.ledger := by
  obtain ⟨hn, _, hr⟩ := completeDrainIfReady_cases b
  rw [hn]
  rcases hr with e | ⟨hp, hd, ⟨hg, e⟩ | ⟨_, counted, s, hs, _, e⟩⟩
  · rwa [e]
  · rw [e]
    exact h.complete hp hd hg
  · rw [e]
    exact h.stop hp hs

theorem drainInv_followHost {b : UsbPrinterBackend σ} (h : DrainInv b.now b.ledger) :
    DrainInv b.followHost.now b.followHost.ledger := by
  obtain ⟨hn, _, ⟨_, e⟩ | ⟨_, s, hs, e⟩⟩ := followHost_cases b
  · rwa [e]
  · rw [hn, e]
    exact h.moved hs

/-- One call keeps the invariant. -/
theorem drainInv_call {b : UsbPrinterBackend σ} {c : Call} (h : DrainInv b.now b.ledger) (hc : b.NoLateBytes c) :
    DrainInv (b.call T c).now (b.call T c).ledger := by
  cases c with
  | sendDirect job data => exact drainInv_sendDirect h hc
  | finishRawJob => exact drainInv_finishRawJob h
  | abortRawJob reason =>
    simp only [call, now_abortRawJob, ledger_abortRawJob]
    exact h.abort
  | completeDrainIfReady => exact drainInv_completeDrainIfReady h
  | followHost => exact drainInv_followHost h
  | pass t => exact h.later (Nat.le_add_right _ _)

theorem drainInv_begin (host : UsbHostManager) (link : σ) (now : Nat) :
    DrainInv now (begin host link now).ledger :=
  ⟨fun hp => (by cases hp), fun e he => (by cases he)⟩

/-- **A job counted as completed has been flushed in full**, in every run of backend calls in
which no bytes are sent while the drain timer runs: below any transport, with any host events. -/
theorem completed_flushed (T : Transport σ) (host : UsbHostManager) (link : σ) (now : Nat) {calls : List Call}
    {b : UsbPrinterBackend σ} (hc : Lib.Meets (step T) NoLateBytes (begin host link now) calls)
    (hr : Lib.run (step T) (begin host link now) calls = some b) : ∀ e ∈ b.history, e.FlushedInFull := by
  have h : DrainInv b.now b.ledger :=
    Lib.run_inv (I := fun b => DrainInv b.now b.ledger)
      (fun b c b' hi hc hs => by
        obtain rfl : b.call T c = b' := Option.some.inj hs
        exact drainInv_call hi hc)
      (drainInv_begin host link now) hc hr
  exact h.full

/-- A RAW job on a printer that takes everything at once. -/
def rawJob : List Call :=
  [.followHost, .sendDirect (.raw 1) [66], .finishRawJob, .pass { ms := 1500 }, .completeDrainIfReady, .followHost]

theorem completed_flushed_rawJob :
    ∃ b, Lib.run (step .immediate) (begin .enumeratedPrinter () 0) rawJob = some b ∧ b.jobsCompleted = 1 ∧
      ∀ e ∈ b.history, e.FlushedInFull := by
  have hc : Lib.Meets (step .immediate) NoLateBytes (begin .enumeratedPrinter () 0) rawJob := by decide +kernel
  have hr : (Lib.run (step .immediate) (begin .enumeratedPrinter () 0) rawJob).map (·.jobsCompleted) = some 1 := by
    decide +kernel
  obtain ⟨b, hb, hn⟩ := Option.map_eq_some_iff.1 hr
  exact ⟨b, hb, hn, completed_flushed .immediate .enumeratedPrinter () 0 hc hb⟩

end UsbPrinterBackend

namespace System

/-- A RAW job drains when the document of a job created before it arrives. -/
def documentWhileDraining : List LoopAct :=
  [.pollBackend false {}, .pollIpp none, .pollBackend false { accept := true }, ippPost 0x05 [],
    .pollBackend false { rx := [[66]], peer := .cleanFin }, .pollIpp none, .pass { ms := 1000 },
    .pollBackend false {}, ippPost 0x06 [65], .pass { ms := 1500 }, .pollBackend false {}]

theorem completed_unflushed :
    ∃ s, Lib.run (step .immediate) (begin .enumeratedPrinter () 0 true) documentWhileDraining = some s ∧
      ¬ ∀ e ∈ s.backend.history, e.FlushedInFull := by
  have hr : (Lib.run (step .immediate) (begin .enumeratedPrinter () 0 true) documentWhileDraining).map
      (·.backend.history) = some [⟨[(.raw 1, [66]), (.ipp 1, [65])], none, some (.completed 2500)⟩] := by decide +kernel
  obtain ⟨s, hs, hh⟩ := Option.map_eq_some_iff.1 hr
  refine ⟨s, hs, fun hall => ?_⟩
  obtain ⟨_, hno, _⟩ := hall _ (hh ▸ List.mem_singleton_self _) 2500 rfl
  cases hno

end System
end PrintServer
