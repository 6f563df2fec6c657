import PrintServer.Loop
/-!
# What IPP reports of a job (ipp_pcl3_service.cpp:855-881, usb_printer_backend.cpp:494-626, 674-711)

`refreshJobState` does not know how the episode of its job ended: it looks at the backend's state,
which `poll` has just recomputed from the host. A flush that fails in `finishRawJob` leaves `ERROR`,
and if the printer is ready the next poll makes it `IDLE` before the service looks: the job is
reported completed. The other way round, a printer that goes away in the poll that counts the job
makes it stopped. `Truthful` excludes these two, and documents sent under an open RAW connection;
`outcome_told` is what holds in every other run.
-/
namespace PrintServer

/-- Counted in `jobsCompleted_`. -/
def Episode.Completed (e : Episode) : Prop := ∃ now, e.ending = some (.completed now)

namespace UsbPrinterBackend
variable {σ : Type}

/-- What `poll` turns into `IDLE` (:587-597). -/
def ready (b : UsbPrinterBackend σ) : Bool :=
  b.host.state = .printerReady && b.host.selectedInterfaceUsable && b.statusSaysReady

theorem ready_congr {b b' : UsbPrinterBackend σ} (h : b'.host = b.host) : b'.ready = b.ready := by
  have key : ∀ c : UsbPrinterBackend σ, c.ready = ({ b with host := c.host } : UsbPrinterBackend σ).ready := fun _ => rfl
  rw [key b', h, ← key b]

theorem followHost_ready {b : UsbPrinterBackend σ} (hp : b.state ≠ .printing) :
    b.followHost.state = .idle ↔ b.ready = true := by
  unfold followHost ready
  rw [if_neg hp]
  cases hs : b.host.state with
  | printerReady =>
    dsimp only
    by_cases hu : b.host.selectedInterfaceUsable = true
    · by_cases hr : b.statusSaysReady = true
      · simp [hu, hr]
      · simp only [hu, hr]
        cases b.usbStatusError <;> simp
    · simp [hu]
  | _ => simp

/-- The drain ends with success at the next look (:494-565). -/
def drainOver (b : UsbPrinterBackend σ) : Bool :=
  let age := sub32 (millis b.now) b.drainStartedMs
  let freshStatus := b.drainStatusAtStart < b.host.device.portStatus.updatedAt
  b.drainPending && b.state = .printing && b.statusSaysReady && postJobMinGuardMs ≤ age &&
    (!b.usbStatusValid || freshStatus || postJobStatusWaitMaxMs ≤ age)

/-- A drain that makes a printing backend `IDLE` was over. -/
theorem completeDrainIfReady_idle {b : UsbPrinterBackend σ} (hp : b.state = .printing)
    (h : b.completeDrainIfReady.state = .idle) : b.drainOver = true := by
  have hno : b.state ≠ .idle := by simp [hp]
  unfold completeDrainIfReady at h
  split at h
  · exact absurd h hno
  rename_i h0
  dsimp only at h
  split at h
  · cases h
  rename_i h1
  split at h
  · cases h
  rename_i h2
  split at h
  · split at h
    · exact absurd h hno
    · cases h
  rename_i h3
  split at h
  · exact absurd h hno
  rename_i h4
  split at h
  · exact absurd h hno
  rename_i h5
  have hready : b.statusSaysReady = true := by
    unfold statusSaysReady
    cases hv : b.usbStatusValid <;> simp_all
  have hover : (!b.usbStatusValid || decide (b.drainStatusAtStart < b.host.device.portStatus.updatedAt) ||
      decide (postJobStatusWaitMaxMs ≤ sub32 (millis b.now) b.drainStartedMs)) = true := by
    cases hv : b.usbStatusValid
    · rfl
    · simp only [hv, Bool.true_and, Bool.and_eq_true, decide_eq_true_eq, Bool.not_eq_true', decide_eq_false_iff_not] at h5
      simp only [Bool.not_true, Bool.false_or, Bool.or_eq_true, decide_eq_true_eq]
      omega
  have hdrain : b.drainPending = true := by simpa using (not_or.1 h0).1
  unfold drainOver
  simp only [hdrain, hp, hready, Nat.le_of_not_lt h4, hover, decide_true, Bool.and_self]

/-- Where a backend goes that is not ready. -/
theorem followHost_unready {b : UsbPrinterBackend σ} (hp : b.state ≠ .printing) (hr : b.ready = false) :
    b.followHost.state = .error ∨ b.followHost.state = .offline := by
  have hidle : b.followHost.state ≠ .idle := fun h => by
    rw [(followHost_ready hp).1 h] at hr
    cases hr
  have hprint : b.followHost.state ≠ .printing := by
    obtain ⟨_, _, ⟨h, _⟩ | ⟨_, s, hs, e⟩⟩ := b.followHost_cases
    · exact absurd h hp
    · exact (congrArg Ledger.state e).trans_ne hs
  cases h : b.followHost.state with
  | error => exact Or.inl rfl
  | offline => exact Or.inr rfl
  | idle => exact absurd h hidle
  | printing => exact absurd h hprint

theorem history_followHost (b : UsbPrinterBackend σ) : b.followHost.history = b.history := by
  obtain ⟨_, _, ⟨_, e⟩ | ⟨_, _, _, e⟩⟩ := b.followHost_cases
  · rw [e]
  · exact congrArg Ledger.history e

end UsbPrinterBackend

/-! ## Episodes only grow -/

/-- From `es` to `es'` only running episodes change, and what they or new ones carry in addition
is in `K`. -/
structure Extends (K : JobKey → Prop) (es es' : List Episode) : Prop where
  new : ∀ e' ∈ es', e' ∈ es ∨ ∀ k, e'.carries k → K k ∨ ∃ e ∈ es, e.ending = none ∧ e.carries k
  old : ∀ e ∈ es, e ∈ es' ∨ e.ending = none

namespace Extends
variable {K K' : JobKey → Prop} {es es' es'' : List Episode}

theorem refl (K : JobKey → Prop) (es : List Episode) : Extends K es es := ⟨fun _ h => Or.inl h, fun _ h => Or.inl h⟩

theorem mono (h : Extends K es es') (hk : ∀ k, K k → K' k) : Extends K' es es' :=
  ⟨fun e' he' => (h.new e' he').imp id fun hc k hk' => (hc k hk').imp (hk k) id, h.old⟩

theorem trans (h : Extends K es es') (h' : Extends K es' es'') : Extends K es es'' := by
  refine ⟨fun e'' he'' => ?_, fun e he => ?_⟩
  · rcases h'.new e'' he'' with he | hc
    · exact h.new e'' he
    · refine Or.inr fun k hk => ?_
      rcases hc k hk with hK | ⟨e', he', hn, hk'⟩
      · exact Or.inl hK
      · rcases h.new e' he' with he | hc'
        · exact Or.inr ⟨e', he, hn, hk'⟩
        · exact hc' k hk'
  · rcases h.old e he with he' | hn
    · exact h'.old e he'
    · exact Or.inr hn

/-- The running episode changes. -/
theorem head {e e' : Episode} (he : e.ending = none) (hc : ∀ k, e'.carries k → K k ∨ e.carries k) :
    Extends K (e :: es) (e' :: es) := by
  refine ⟨fun x hx => ?_, fun x hx => ?_⟩
  · rcases List.mem_cons.1 hx with rfl | hx
    · exact Or.inr fun k hk => (hc k hk).imp id fun hk' => ⟨e, List.mem_cons_self .., he, hk'⟩
    · exact Or.inl (List.mem_cons_of_mem _ hx)
  · rcases List.mem_cons.1 hx with rfl | hx
    · exact Or.inr he
    · exact Or.inl (List.mem_cons_of_mem _ hx)

theorem cons_empty : Extends K es ({} :: es) := by
  refine ⟨fun x hx => ?_, fun x hx => Or.inl (List.mem_cons_of_mem _ hx)⟩
  rcases List.mem_cons.1 hx with rfl | hx
  · exact Or.inr fun k ⟨d, hd⟩ => (by cases hd)
  · exact Or.inl hx

end Extends

theorem Episode.carries_accept {e : Episode} {job k : JobKey} {data : Bytes} (h : (e.accept job data).carries k) :
    k = job ∨ e.carries k := by
  obtain ⟨d, hd⟩ := h
  rcases List.mem_append.1 hd with hd | hd
  · exact Or.inr ⟨d, hd⟩
  · exact Or.inl (Prod.mk.inj (List.mem_singleton.1 hd)).1

namespace Ledger
variable {l l' : Ledger} {job : JobKey}

/-- The last episode runs while the backend prints. -/
def Running (l : Ledger) : Prop := l.state = .printing → ∃ e es, l.history = e :: es ∧ e.ending = none

/-- A step that leaves the printing state, or keeps it, and touches only the running episode. -/
structure Steps (K : JobKey → Prop) (l l' : Ledger) : Prop where
  grows : Extends K l.history l'.history
  running : l'.Running

theorem steps_start (h : l.Running) (K : JobKey → Prop) : Steps K l l.start := by
  by_cases hi : l.state = .idle
  · rw [start_idle hi]
    exact ⟨.cons_empty, fun _ => ⟨{}, l.history, rfl, rfl⟩⟩
  · rw [start, if_neg hi]
    exact ⟨.refl _ _, h⟩

theorem steps_accept (h : l.Running) (hp : l.state = .printing) (data : Bytes) : Steps (· = job) l (l.accept job data) := by
  obtain ⟨e, es, hh, he⟩ := h hp
  have hacc : (l.accept job data).history = e.accept job data :: es := by
    simp only [accept, hh, List.modifyHead_cons]
  refine ⟨?_, fun _ => ⟨_, es, hacc, he⟩⟩
  rw [hacc, hh]
  exact .head he fun k hk => Episode.carries_accept hk

/-- Marks on the running episode. -/
theorem grows_mark {f : Episode → Episode} (h : l.Running) (hp : l.state = .printing)
    (hf : ∀ e, (f e).accepted = e.accepted) (K : JobKey → Prop) : Extends K l.history (l.history.modifyHead f) := by
  obtain ⟨e, es, hh, he⟩ := h hp
  rw [hh, List.modifyHead_cons]
  refine .head he fun k ⟨d, hd⟩ => Or.inr ⟨d, ?_⟩
  rwa [hf] at hd

theorem steps_flush (h : l.Running) (hp : l.state = .printing) (now : Nat) (K : JobKey → Prop) :
    Steps K l (l.flush now) := by
  refine ⟨grows_mark h hp (f := Episode.flush now) (fun _ => rfl) K, fun _ => ?_⟩
  obtain ⟨e, es, hh, he⟩ := h hp
  exact ⟨e.flush now, es, by simp only [flush, hh, List.modifyHead_cons], he⟩

theorem steps_complete (h : l.Running) (hp : l.state = .printing) (now : Nat) (K : JobKey → Prop) :
    Steps K l (l.complete now) :=
  ⟨grows_mark h hp (f := Episode.close (.completed now)) (fun _ => rfl) K, nofun⟩

theorem steps_stop {counted : Bool} {s : PrinterState} (h : l.Running) (hp : l.state = .printing)
    (hs : s ≠ .printing) (K : JobKey → Prop) : Steps K l (l.stop counted s) :=
  ⟨grows_mark h hp (f := Episode.close .stopped) (fun _ => rfl) K, fun hno => absurd hno hs⟩

theorem steps_abort (h : l.Running) (K : JobKey → Prop) : Steps K l l.abort := by
  refine ⟨?_, nofun⟩
  show Extends K l.history (if l.state = .printing then _ else l.history)
  split
  · exact grows_mark h ‹_› (f := Episode.close .aborted) (fun _ => rfl) K
  · exact .refl _ _

theorem Steps.trans {K : JobKey → Prop} {m : Ledger} (h : Steps K l m) (h' : Steps K m l') : Steps K l l' :=
  ⟨h.grows.trans h'.grows, h'.running⟩

theorem steps_refl (h : l.Running) (K : JobKey → Prop) : Steps K l l := ⟨.refl _ _, h⟩

theorem steps_sent (h : l.Running) (hs : Sent job l l') : Steps (· = job) l l' := by
  obtain ⟨hst, data, rfl⟩ := hs
  have h1 := steps_start h (· = job)
  exact h1.trans (steps_accept h1.running (start_state hst) data)

theorem steps_carried (h : l.Running) (hs : Relation.ReflTransGen (Sent job) l l') : Steps (· = job) l l' := by
  induction hs with
  | refl => exact steps_refl h _
  | tail _ hs ih => exact ih.trans (steps_sent ih.running hs)

/-- The last episode carries `job`, and no other one does. -/
def InLast (job : JobKey) (l : Ledger) (P : Episode → Prop) : Prop :=
  ∃ e es, l.history = e :: es ∧ e.carries job ∧ (∀ e' ∈ es, ¬ e'.carries job) ∧ P e

theorem InLast.imp {P Q : Episode → Prop} (h : InLast job l P) (hpq : ∀ e, e ∈ l.history → P e → Q e) :
    InLast job l Q := by
  obtain ⟨e, es, hh, hc, hno, hp⟩ := h
  exact ⟨e, es, hh, hc, hno, hpq e (hh ▸ List.mem_cons_self ..) hp⟩

/-- A mark on the last episode. -/
theorem InLast.mark {P Q : Episode → Prop} {f : Episode → Episode} (h : InLast job l P)
    (hh : l'.history = l.history.modifyHead f) (hf : ∀ e, (f e).accepted = e.accepted) (hpq : ∀ e, P e → Q (f e)) :
    InLast job l' Q := by
  obtain ⟨e, es, he, ⟨d, hd⟩, hno, hp⟩ := h
  rw [he, List.modifyHead_cons] at hh
  exact ⟨f e, es, hh, ⟨d, by rwa [hf]⟩, hno, hpq e hp⟩

theorem carries_accept_self (e : Episode) (job : JobKey) (data : Bytes) : (e.accept job data).carries job :=
  ⟨data, List.mem_append_right _ (List.mem_singleton_self _)⟩

theorem inLast_first (hno : ∀ e ∈ l.history, ¬ e.carries job) (h : l.Running) (hs : Sent job l l') :
    InLast job l' fun _ => True := by
  obtain ⟨hst, data, rfl⟩ := hs
  rcases hst with hi | hp
  · rw [start_idle hi]
    exact ⟨Episode.accept job data {}, l.history, rfl, carries_accept_self _ _ _, hno, trivial⟩
  · obtain ⟨e, es, hh, _⟩ := h hp
    rw [start_printing hp]
    refine ⟨e.accept job data, es, ?_, carries_accept_self _ _ _, fun e' he' => ?_, trivial⟩
    · simp only [accept, hh, List.modifyHead_cons]
    · exact hno e' (hh ▸ List.mem_cons_of_mem _ he')

theorem inLast_next (hp : l.state = .printing) (hl : InLast job l fun _ => True) (hs : Sent job l l') :
    InLast job l' fun _ => True := by
  obtain ⟨_, data, rfl⟩ := hs
  obtain ⟨e, es, hh, _, hno, _⟩ := hl
  rw [start_printing hp]
  refine ⟨e.accept job data, es, ?_, carries_accept_self _ _ _, hno, trivial⟩
  simp only [accept, hh, List.modifyHead_cons]

/-- All blocks of a document end up in one episode, the last. -/
theorem inLast_carried (hno : ∀ e ∈ l.history, ¬ e.carries job) (h : l.Running) (hs : Relation.TransGen (Sent job) l l') :
    InLast job l' fun _ => True := by
  induction hs with
  | single hs => exact inLast_first hno h hs
  | tail hm hs ih => exact inLast_next (printing_of_sent hm) ih hs

end Ledger

/-! ## The invariant -/

/-- A report agrees with what became of the job. -/
structure Told (es : List Episode) (m : Move) : Prop where
  ended : ∀ e ∈ es, e.carries (.ipp m.job) → e.ending ≠ none ∧ (e.Completed ↔ m.state = .completed)
  printed : m.state = .completed → ∃ e ∈ es, e.carries (.ipp m.job)

theorem Told.extends {K : JobKey → Prop} {es es' : List Episode} {m : Move} (h : Told es m) (hx : Extends K es es')
    (hk : ¬ K (.ipp m.job)) : Told es' m where
  ended := fun e' he' hc => by
    rcases hx.new e' he' with he | hnew
    · exact h.ended e' he hc
    · rcases hnew _ hc with hK | ⟨e, he, hn, hc'⟩
      · exact absurd hK hk
      · exact absurd hn (h.ended e he hc').1
  printed := fun hm => by
    obtain ⟨e, he, hc⟩ := h.printed hm
    rcases hx.old e he with he' | hn
    · exact ⟨e, he', hc⟩
    · exact absurd hn (h.ended e he hc).1

/-- Every report so far agrees, and none is out for a job that can still print. -/
structure Truth (l : Ledger) (r : JobRecord) : Prop where
  running : l.Running
  ipps : ∀ e ∈ l.history, ∀ n, e.carries (.ipp n) → n ≤ r.serial
  told : ∀ m ∈ r.moves, m.cause = .refreshJobState → m.job ≤ r.serial ∧ Told l.history m
  fresh : r.pending = true → ∀ e ∈ l.history, ¬ e.carries (.ipp r.serial)
  unreported : r.pending = true ∨ r.state = .processing → ∀ m ∈ r.moves, m.cause = .refreshJobState → m.job ≠ r.serial
  begun : r.state = .pending → r.begun = false
  off : r.started = false → r.state ≠ .processing

namespace Truth
variable {l l' : Ledger} {r r' : JobRecord}

/-- A step of the backend that no IPP job has a part in. -/
theorem steps (h : Truth l r) {K : JobKey → Prop} (hs : l.Steps K l') (hk : ∀ n, ¬ K (.ipp n)) : Truth l' r where
  running := hs.running
  ipps := fun e' he' n hc => by
    rcases hs.grows.new e' he' with he | hnew
    · exact h.ipps e' he n hc
    · rcases hnew _ hc with hK | ⟨e, he, _, hc'⟩
      · exact absurd hK (hk n)
      · exact h.ipps e he n hc'
  told := fun m hm hc => ⟨(h.told m hm hc).1, (h.told m hm hc).2.extends hs.grows (hk _)⟩
  fresh := fun hp e' he' hc => by
    rcases hs.grows.new e' he' with he | hnew
    · exact h.fresh hp e' he hc
    · rcases hnew _ hc with hK | ⟨e, he, _, hc'⟩
      · exact absurd hK (hk _)
      · exact h.fresh hp e he hc'
  unreported := h.unreported
  begun := h.begun
  off := h.off

/-- A change of the record alone, of a job that goes on or is over. -/
theorem moved (h : Truth l r) (hs : r'.serial = r.serial) (hp : r'.pending = false) (hst : r'.state ≠ .processing)
    (hb : r'.state = .pending → r'.begun = false)
    (hm : ∀ m ∈ r'.moves, m.cause = .refreshJobState → m ∈ r.moves ∨ m.job = r.serial ∧ Told l.history m) : Truth l r' where
  running := h.running
  ipps := fun e he n hc => hs ▸ h.ipps e he n hc
  told := fun m hm' hc => by
    rw [hs]
    rcases hm m hm' hc with hold | ⟨hj, ht⟩
    · exact h.told m hold hc
    · exact ⟨Nat.le_of_eq hj, ht⟩
  fresh := fun hno => absurd hno (by simp [hp])
  unreported := fun hno => absurd hno (by simp [hp, hst])
  begun := hb
  off := fun _ => hst

/-- A new current job. -/
theorem newJob (h : Truth l r) (pending : Bool) : Truth l (r.newJob pending) where
  running := h.running
  ipps := fun e he n hc => Nat.le_succ_of_le (h.ipps e he n hc)
  told := fun m hm hc => by
    rcases List.mem_cons.1 hm with rfl | hm
    · cases hc
    · exact ⟨Nat.le_succ_of_le (h.told m hm hc).1, (h.told m hm hc).2⟩
  fresh := fun _ e he hc => Nat.not_succ_le_self _ (h.ipps e he _ hc)
  unreported := fun _ m hm hc hj => by
    rcases List.mem_cons.1 hm with rfl | hm
    · cases hc
    · have hle := (h.told m hm hc).1
      rw [hj] at hle
      exact Nat.not_succ_le_self _ hle
  begun := fun _ => rfl
  off := fun _ => nofun

/-- The document of a job that no episode carries yet. -/
theorem streamed (h : Truth l r) (hs : l.Steps (· = .ipp r.serial) l') (hr : r.Streamed r') (hon : r.started = true)
    (hnew : ∀ m ∈ r.moves, m.cause = .refreshJobState → m.job ≠ r.serial) (hst : r'.state ≠ .pending) : Truth l' r' where
  running := hs.running
  ipps := fun e' he' n hc => by
    rw [hr.serial]
    rcases hs.grows.new e' he' with he | hnew
    · exact h.ipps e' he n hc
    · rcases hnew _ hc with hk | ⟨e, he, _, hc'⟩
      · exact Nat.le_of_eq (JobKey.ipp.inj hk)
      · exact h.ipps e he n hc'
  told := fun m hm hc => by
    obtain ⟨new, hmoves, hnone⟩ := hr.moves
    rw [hmoves] at hm
    rcases List.mem_append.1 hm with hm | hm
    · cases hc.symm.trans (hnone m hm)
    · obtain ⟨hle, ht⟩ := h.told m hm hc
      exact ⟨hr.serial.symm ▸ hle, ht.extends hs.grows fun hk => hnew m hm hc (JobKey.ipp.inj hk)⟩
  fresh := fun hno => absurd hno (by simp [hr.pending])
  unreported := fun _ m hm hc => by
    obtain ⟨new, hmoves, hnone⟩ := hr.moves
    rw [hmoves] at hm
    rcases List.mem_append.1 hm with hm | hm
    · cases hc.symm.trans (hnone m hm)
    · rw [hr.serial]
      exact hnew m hm hc
  begun := fun hno => absurd hno hst
  off := fun hno => by
    rw [hr.started, hon] at hno
    cases hno

end Truth

/-! ## Between the polls -/

/-- Before a poll of the backend: the job is printing, or has just been aborted. -/
def BeforeBackend (l : Ledger) (r : JobRecord) : Prop :=
  r.state = .processing → r.id ≠ 0 →
    l.InLast (.ipp r.serial) fun e => l.state = .printing ∨ l.state = .error ∧ e.ending = some .aborted

/-- Before a poll of the service: the state of the backend tells how the job ended. -/
def BeforeIpp (l : Ledger) (r : JobRecord) : Prop :=
  r.state = .processing → r.id ≠ 0 →
    l.InLast (.ipp r.serial) fun e => l.state = .printing ∨ l.state = .idle ∧ e.Completed ∨
      (l.state = .error ∨ l.state = .offline) ∧ e.ending ≠ none ∧ ¬ e.Completed

/-- While a request is handled: a job still processed is printing. -/
def InProgress (l : Ledger) (r : JobRecord) : Prop :=
  r.state = .processing → r.id ≠ 0 → l.InLast (.ipp r.serial) fun _ => l.state = .printing

theorem InProgress.beforeBackend {l : Ledger} {r : JobRecord} (h : InProgress l r) : BeforeBackend l r :=
  fun hp hid => (h hp hid).imp fun _ _ => Or.inl

theorem InProgress.beforeIpp {l : Ledger} {r : JobRecord} (h : InProgress l r) : BeforeIpp l r :=
  fun hp hid => (h hp hid).imp fun _ _ => Or.inl

theorem told_inLast {l : Ledger} {m : Move}
    (h : l.InLast (.ipp m.job) fun e => e.ending ≠ none ∧ (e.Completed ↔ m.state = .completed)) : Told l.history m := by
  obtain ⟨e, es, hh, hc, hno, he⟩ := h
  rw [hh]
  refine ⟨fun x hx hcx => ?_, fun _ => ⟨e, List.mem_cons_self .., hc⟩⟩
  rcases List.mem_cons.1 hx with rfl | hx
  · exact he
  · exact absurd hcx (hno x hx)

/-- `refreshJobState` after a poll of the backend: what it reports is what happened. -/
theorem truth_refresh {l : Ledger} {r : JobRecord} (h : Truth l r) (hb : BeforeIpp l r) :
    Truth l (r.refresh l.state) ∧ InProgress l (r.refresh l.state) := by
  unfold JobRecord.refresh
  by_cases h0 : r.id = 0
  · rw [if_pos h0]
    exact ⟨h, fun _ hid => absurd h0 hid⟩
  by_cases h1 : (r.state = .pending && !r.begun) = true
  · rw [if_neg h0, if_pos h1]
    refine ⟨h, fun hp => ?_⟩
    simp [hp] at h1
  by_cases h2 : r.state ≠ .pending ∧ r.state ≠ .processing
  · rw [if_neg h0, if_neg h1, if_pos h2]
    exact ⟨h, fun hp => absurd hp h2.2⟩
  rw [if_neg h0, if_neg h1, if_neg h2]
  have hproc : r.state = .processing := by
    by_contra hne
    have hpend : r.state = .pending := by
      by_contra hne'
      exact h2 ⟨hne', hne⟩
    simp [hpend, h.begun hpend] at h1
  have hlast := hb hproc h0
  have hreport : ∀ state, state ≠ .processing → state ≠ .pending →
      (l.InLast (.ipp r.serial) fun e => e.ending ≠ none ∧ (e.Completed ↔ state = .completed)) →
      Truth l { r.set state .refreshJobState with pending := false } := by
    intro state hne hne' ht
    refine h.moved rfl rfl hne (fun hno => absurd hno hne') fun m hm _ => ?_
    rcases List.mem_cons.1 hm with rfl | hm
    · exact Or.inr ⟨rfl, told_inLast ht⟩
    · exact Or.inl hm
  have hends : ∀ e : Episode, e.Completed → e.ending ≠ none := by
    rintro e ⟨now, he⟩
    simp [he]
  cases hs : l.state with
  | printing => exact ⟨h, fun _ _ => hlast.imp fun _ _ _ => hs⟩
  | idle =>
    refine ⟨hreport .completed nofun nofun (hlast.imp fun e _ he => ?_), nofun⟩
    rcases he with he | ⟨_, he⟩ | ⟨he | he, _⟩
    · cases hs.symm.trans he
    · exact ⟨hends e he, fun _ => rfl, fun _ => he⟩
    · cases hs.symm.trans he
    · cases hs.symm.trans he
  | error =>
    refine ⟨hreport .aborted nofun nofun (hlast.imp fun e _ he => ?_), nofun⟩
    rcases he with he | ⟨he, _⟩ | ⟨_, he, hno⟩
    · cases hs.symm.trans he
    · cases hs.symm.trans he
    · exact ⟨he, fun hyes => absurd hyes hno, nofun⟩
  | offline =>
    refine ⟨hreport .stopped nofun nofun (hlast.imp fun e _ he => ?_), nofun⟩
    rcases he with he | ⟨he, _⟩ | ⟨_, he, hno⟩
    · cases hs.symm.trans he
    · cases hs.symm.trans he
    · exact ⟨he, fun hyes => absurd hyes hno, nofun⟩

theorem steps_taken {l l' : Ledger} {job : JobKey} {r' : JobRecord} (h : l.Running) (ht : Taken job l l' r') :
    l.Steps (· = job) l' := by
  cases ht with
  | refused hl _ =>
    rw [hl]
    exact Ledger.steps_refl h _
  | aborted m hm _ hl _ =>
    have hc := Ledger.steps_carried h hm
    have hst := Ledger.steps_start hc.running (· = job)
    rw [hl]
    exact (hc.trans hst).trans (Ledger.steps_abort hst.running _)
  | sent m hm hl _ _ =>
    have hc := Ledger.steps_carried h hm.to_reflTransGen
    rcases hl with ⟨rfl, _⟩ | ⟨now, rfl⟩ | rfl
    · exact hc
    · exact hc.trans (Ledger.steps_flush hc.running (Ledger.printing_of_sent hm) _ _)
    · exact hc.trans (Ledger.steps_abort hc.running _)

/-- A document leaves its job printing, aborted, or never begun. -/
theorem beforeBackend_taken {l l' : Ledger} {n : Nat} {r' : JobRecord} (hn : r'.serial = n) (h : l.Running)
    (hno : ∀ e ∈ l.history, ¬ e.carries (.ipp n)) (ht : Taken (.ipp n) l l' r') :
    r'.state ≠ .pending ∧ BeforeBackend l' r' := by
  cases ht with
  | refused _ hr => exact ⟨by simp [hr], fun hp => (by cases hr.symm.trans hp)⟩
  | aborted _ _ _ _ hr => exact ⟨by simp [hr], fun hp => (by cases hr.symm.trans hp)⟩
  | sent m hm hl hr _ =>
    refine ⟨by simp [hr], fun _ _ => ?_⟩
    rw [hn]
    have hlast := Ledger.inLast_carried hno h hm
    have hp := Ledger.printing_of_sent hm
    rcases hl with ⟨rfl, _⟩ | ⟨now, rfl⟩ | rfl
    · exact hlast.imp fun _ _ _ => Or.inl hp
    · exact hlast.mark (f := Episode.flush now) rfl (fun _ => rfl) fun _ _ => Or.inl hp
    · have hh : m.abort.history = m.history.modifyHead (Episode.close .aborted) := if_pos hp
      exact hlast.mark hh (fun _ => rfl) fun _ _ => Or.inr ⟨rfl, rfl⟩

section backend
variable {σ : Type} {T : Transport σ}

/-- What RAW clients send. -/
def IsRaw (k : JobKey) : Prop := ∃ n, k = .raw n

theorem steps_move {s s' : Serving σ} (h : s.backend.ledger.Running) (hm : Serving.Move T s s') :
    s.backend.ledger.Steps IsRaw s'.backend.ledger := by
  cases hm with
  | work _ hb =>
    rw [hb]
    exact Ledger.steps_refl h _
  | send _ _ data hb =>
    have hcases := UsbPrinterBackend.sendDirect_cases T s.backend (.raw s.raw.connection) data
    rw [hb] at hcases
    rcases hcases with ⟨hno, _⟩ | ⟨hs, _, ⟨_, e⟩ | ⟨hno, _⟩⟩
    · exact absurd rfl hno
    · have hsent := Ledger.steps_sent h ⟨hs, data, e⟩
      exact ⟨hsent.grows.mono fun k hk => ⟨_, hk⟩, hsent.running⟩
    · exact absurd rfl hno
  | refuse _ _ _ data error b hr hb =>
    have hcases := UsbPrinterBackend.sendDirect_cases T s.backend (.raw s.raw.connection) data
    rw [hr] at hcases
    have hb' : s.backend.ledger.Steps IsRaw b.ledger := by
      rcases hcases with ⟨_, rfl⟩ | ⟨_, _, ⟨hno, _⟩ | ⟨_, e⟩⟩
      · exact Ledger.steps_refl h _
      · cases hno
      · have hst := Ledger.steps_start h IsRaw
        rw [show b.ledger = _ from e]
        exact hst.trans (Ledger.steps_abort hst.running _)
    rcases hb with rfl | hb
    · exact hb'
    · rw [hb, UsbPrinterBackend.ledger_abortRawJob]
      exact hb'.trans (Ledger.steps_abort hb'.running _)
  | finish _ _ _ hb =>
    rw [hb]
    rcases UsbPrinterBackend.finishRawJob_cases T s.backend with ⟨_, e⟩ | ⟨hp, _, _, e | e⟩
    · rw [e]
      exact Ledger.steps_refl h _
    · rw [e]
      exact Ledger.steps_flush h hp _ _
    · rw [e]
      exact Ledger.steps_abort h _
  | abort _ _ _ reason hb =>
    rw [hb, UsbPrinterBackend.ledger_abortRawJob]
    exact Ledger.steps_abort h _

theorem steps_moves {s s' : Serving σ} (h : s.backend.ledger.Running) (hm : Serving.Moves T s s') :
    s.backend.ledger.Steps IsRaw s'.backend.ledger := by
  induction hm with
  | refl => exact Ledger.steps_refl h _
  | tail _ hm ih => exact ih.trans (steps_move ih.running hm)

theorem steps_handleRawServer {s : Serving σ} (p : RawPoll) (hs : s.raw.Sound) (h : s.backend.ledger.Running) :
    s.backend.ledger.Steps IsRaw (s.handleRawServer T p).backend.ledger := by
  rcases Serving.handleRawServer_cases T p hs with ha | hm
  · rw [ha.backend]
    exact Ledger.steps_refl h _
  · exact steps_moves h hm

theorem steps_completeDrainIfReady {b : UsbPrinterBackend σ} (h : b.ledger.Running) :
    b.ledger.Steps IsRaw b.completeDrainIfReady.ledger := by
  rcases b.completeDrainIfReady_cases.2.2 with e | ⟨hp, _, ⟨_, e⟩ | ⟨_, counted, s, hs, _, e⟩⟩
  · rw [e]
    exact Ledger.steps_refl h _
  · rw [e]
    exact Ledger.steps_complete h hp _ _
  · rw [e]
    exact Ledger.steps_stop h hp hs _

theorem steps_followHost {b : UsbPrinterBackend σ} (h : b.ledger.Running) :
    b.ledger.Steps IsRaw b.followHost.ledger := by
  obtain ⟨_, _, ⟨_, e⟩ | ⟨_, s, hs, e⟩⟩ := b.followHost_cases
  · rw [e]
    exact Ledger.steps_refl h _
  · rw [e]
    exact ⟨.refl _ _, fun hno => absurd hno hs⟩

/-- What a poll makes of a job that prints or was aborted, when no RAW connection is open. -/
theorem told_followHost {b : UsbPrinterBackend σ} {job : JobKey}
    (h : b.ledger.InLast job fun e => b.state = .printing ∨ b.state = .error ∧ e.ending = some .aborted)
    (herror : b.state = .error → b.ready = false) (hdone : b.drainOver = true → b.ready = true) :
    b.completeDrainIfReady.followHost.ledger.InLast job fun e =>
      b.completeDrainIfReady.followHost.state = .printing ∨ b.completeDrainIfReady.followHost.state = .idle ∧ e.Completed ∨
        (b.completeDrainIfReady.followHost.state = .error ∨ b.completeDrainIfReady.followHost.state = .offline) ∧
          e.ending ≠ none ∧ ¬ e.Completed := by
  obtain ⟨_, hhost, hcases⟩ := b.completeDrainIfReady_cases
  have hidle := b.completeDrainIfReady_idle (σ := σ)
  have hready := UsbPrinterBackend.ready_congr hhost
  generalize b.completeDrainIfReady = c at hcases hidle hready ⊢
  have hhist : c.followHost.ledger.history = c.ledger.history := c.history_followHost
  rcases hcases with e | ⟨hp, _, ⟨_, e⟩ | ⟨hno, counted, s, hs, hs', e⟩⟩
  · -- the poll changes nothing before `followHost`
    have hstate : c.state = b.state := congrArg Ledger.state e
    refine (h.mark (f := id) (by rw [hhist, e, List.modifyHead_id]; rfl) (fun _ => rfl) fun x hx => ?_)
    rcases hx with hp | ⟨herr, hx⟩
    · obtain ⟨_, _, ⟨_, e'⟩ | ⟨hno, _⟩⟩ := c.followHost_cases
      · rw [e']
        exact Or.inl (hstate.trans hp)
      · exact absurd (hstate.trans hp) hno
    · have hne : c.state ≠ .printing := by simp [hstate, herr]
      refine Or.inr (Or.inr ⟨UsbPrinterBackend.followHost_unready hne (hready.trans (herror herr)), ?_, ?_⟩)
      · exact hx ▸ Option.some_ne_none _
      · rintro ⟨now, hnow⟩
        cases hx.symm.trans hnow
  · have hst : c.state = .idle := congrArg Ledger.state e
    have hcr : c.followHost.state = .idle :=
      (UsbPrinterBackend.followHost_ready (by simp [hst])).2 (hready.trans (hdone (hidle hp hst)))
    exact h.mark (f := Episode.close (.completed b.now)) (by rw [hhist, e]; rfl) (fun _ => rfl) fun x _ =>
      Or.inr (Or.inl ⟨hcr, b.now, rfl⟩)
  · have hst : c.state = s := congrArg Ledger.state e
    have hbr : b.ready = false := by
      unfold UsbPrinterBackend.ready
      rw [hno, Bool.and_false]
    have hcr := UsbPrinterBackend.followHost_unready (hst.trans_ne hs) (hready.trans hbr)
    refine h.mark (f := Episode.close .stopped) (by rw [hhist, e]; rfl) (fun _ => rfl) fun x _ =>
      Or.inr (Or.inr ⟨hcr, Option.some_ne_none _, ?_⟩)
    rintro ⟨now, hnow⟩
    cases hnow

/-- The RAW server leaves the backend alone while no connection is open. -/
theorem handleRawServer_closed {s : Serving σ} (p : RawPoll) (hs : s.raw.Sound) (hc : s.raw.isOpen = false) :
    (s.handleRawServer T p).backend = s.backend := by
  rcases Serving.handleRawServer_cases T p hs with ha | hm
  · exact ha.backend
  · exact (Serving.moves_closed T hm hc).2

end backend

namespace System
variable {σ : Type} {T : Transport σ}

/-- While an IPP job is processed no RAW connection can send, a backend in `ERROR` stays there, and
a drain ends under a ready printer. -/
def Truthful (s : System σ) : LoopAct → Prop
  | .pollBackend .. => s.service.lastJobState = .processing →
      s.raw.isOpen = false ∧ (s.backend.state = .error → s.backend.ready = false) ∧
        (s.backend.drainOver = true → s.backend.ready = true)
  | _ => True

instance (s : System σ) (a : LoopAct) : Decidable (s.Truthful a) :=
  match a with
  | .pollBackend .. => inferInstanceAs (Decidable (_ → _ ∧ _ ∧ _))
  | .pollIpp _ | .pass _ => inferInstanceAs (Decidable True)

/-- The invariant of the loop. -/
structure Honest (s : System σ) : Prop where
  sound : s.raw.Sound
  truth : Truth s.backend.ledger s.service.record
  backend : s.turn = .backend → BeforeBackend s.backend.ledger s.service.record
  ipp : s.turn = .ipp → BeforeIpp s.backend.ledger s.service.record

/-- A poll of the backend ends in a state that tells how the job ended. -/
theorem beforeIpp_pollBackend {relisten : Bool} {p : RawPoll} {s : System σ} (hs : s.raw.Sound)
    (h : BeforeBackend s.backend.ledger s.service.record) (hx : s.Truthful (.pollBackend relisten p)) :
    BeforeIpp (s.pollBackend T relisten p).backend.ledger s.service.record := by
  intro hproc hid
  have hlast := h hproc hid
  obtain ⟨hclosed, herror, hdone⟩ := hx hproc
  obtain ⟨hsound, _, hopen⟩ := listening_frame relisten p hs
  have hb : (s.served T relisten p).backend = s.backend.completeDrainIfReady :=
    handleRawServer_closed (s := { backend := s.backend.completeDrainIfReady, raw := s.listening relisten p }) p hsound
      (hopen.trans hclosed)
  rw [pollBackend_eq]
  show (s.served T relisten p).backend.followHost.ledger.InLast _ _
  rw [hb]
  exact told_followHost hlast herror hdone

theorem honest_pollBackend {relisten : Bool} {p : RawPoll} {s : System σ} (h : Honest s) (hturn : s.turn = .backend)
    (hx : s.Truthful (.pollBackend relisten p)) : Honest (s.pollBackend T relisten p) := by
  obtain ⟨hsound, _, _⟩ := listening_frame relisten p h.sound
  have h1 := h.truth.steps (steps_completeDrainIfReady h.truth.running) fun _ => nofun
  have h2 := h1.steps (steps_handleRawServer (T := T)
    (s := { backend := s.backend.completeDrainIfReady, raw := s.listening relisten p }) p hsound h1.running) fun _ => nofun
  refine ⟨?_, ?_, nofun, fun _ => beforeIpp_pollBackend h.sound (h.backend hturn) hx⟩
  · rw [pollBackend_eq]
    exact sound_served T relisten p h.sound
  · rw [pollBackend_eq]
    exact h2.steps (steps_followHost h2.running) fun _ => nofun

/-- An operation on a job whose state has just been refreshed. -/
theorem truth_serves {rawConnected : Bool} {c : IppClient} {req : IppRequest} {service : IppPcl3Service}
    {b : UsbPrinterBackend σ} {d : Served σ} (h : Truth b.ledger service.record) (hp : InProgress b.ledger service.record)
    (hon : service.started = true) (hs : IppPcl3Service.Serves rawConnected c req service b d) :
    Truth d.backend.ledger d.service.record ∧ BeforeBackend d.backend.ledger d.service.record := by
  cases hs with
  | nothing hr hl =>
    rw [hr, hl]
    exact ⟨h, hp.beforeBackend⟩
  | refresh hr hl =>
    rw [hr, hl]
    obtain ⟨h', hp'⟩ := truth_refresh h hp.beforeIpp
    exact ⟨h', hp'.beforeBackend⟩
  | create _ hr hl =>
    rw [hr, hl]
    exact ⟨h.newJob true, nofun⟩
  | print _ _ _ hr ht =>
    have hnew := h.newJob false
    have hnone : ∀ e ∈ b.ledger.history, ¬ e.carries (.ipp (service.serial + 1)) :=
      (h.newJob true).fresh rfl
    obtain ⟨hst, hb⟩ := beforeBackend_taken hr.serial hnew.running hnone ht
    exact ⟨hnew.streamed (steps_taken hnew.running ht) hr hon ((h.newJob true).unreported (Or.inl rfl)) hst, hb⟩
  | send _ ha hr ht =>
    have hpend : service.record.pending = true := IppPcl3Service.pending_of_accepts ha
    have hnew : Truth b.ledger service.record.streaming :=
      ⟨h.running, h.ipps, h.told, h.fresh, h.unreported, fun _ => rfl, h.off⟩
    obtain ⟨hst, hb⟩ := beforeBackend_taken hr.serial h.running (h.fresh hpend) ht
    exact ⟨hnew.streamed (steps_taken h.running ht) hr hon (h.unreported (Or.inl hpend)) hst, hb⟩
  | cancel _ _ hr hl =>
    have hsteps : b.ledger.Steps (fun _ => False) d.backend.ledger := by
      rw [hl]
      split
      · exact Ledger.steps_abort h.running _
      · exact Ledger.steps_refl h.running _
    rw [hr]
    refine ⟨(h.steps hsteps fun _ => id).moved rfl rfl nofun nofun fun m hm hc => ?_, nofun⟩
    rcases List.mem_cons.1 hm with rfl | hm
    · cases hc
    · exact Or.inl hm
  | close _ hr hl =>
    rw [hr, hl]
    refine ⟨h.moved rfl rfl nofun nofun fun m hm hc => ?_, nofun⟩
    rcases List.mem_cons.1 hm with rfl | hm
    · cases hc
    · exact Or.inl hm

theorem honest_pollIpp {client : Option IppClient} {s : System σ} (h : Honest s) (hturn : s.turn = .ipp) :
    Honest (s.pollIpp T client) := by
  have hseen : s.seen.record = s.service.record.refresh s.backend.ledger.state := IppPcl3Service.record_refreshJobState _ _
  obtain ⟨ht, hp⟩ := truth_refresh h.truth (h.ipp hturn)
  rw [← hseen] at ht hp
  suffices hnew : Truth (s.pollIpp T client).backend.ledger (s.pollIpp T client).service.record ∧
      BeforeBackend (s.pollIpp T client).backend.ledger (s.pollIpp T client).service.record from
    ⟨h.sound, hnew.1, fun _ => hnew.2, nofun⟩
  cases polled_pollIpp T client s with
  | off hoff hr hl =>
    rw [hr, hl]
    exact ⟨h.truth, fun hproc => absurd hproc (h.truth.off hoff)⟩
  | looked hr hl =>
    rw [hr, hl]
    exact ⟨ht, hp.beforeBackend⟩
  | served c req service b d hon _ hs hb hserve hr hl =>
    rw [hr, hl]
    rw [← hs, ← hb] at ht hp
    refine truth_serves ht hp ?_ hserve
    obtain ⟨_, _, hstarted⟩ := s.service.record.refresh_frame s.backend.ledger.state
    rw [← hseen, ← hs] at hstarted
    exact hstarted.trans hon

theorem honest_step {s s' : System σ} {a : LoopAct} (h : Honest s) (hx : s.Truthful a) (hs : s.step T a = some s') :
    Honest s' := by
  cases a with
  | pass t =>
    cases hs
    exact ⟨h.sound, h.truth, h.backend, h.ipp⟩
  | pollBackend relisten p =>
    simp only [step] at hs
    split at hs
    · cases hs
      exact honest_pollBackend h ‹_› hx
    · cases hs
  | pollIpp client =>
    simp only [step] at hs
    split at hs
    · cases hs
      exact honest_pollIpp h ‹_›
    · cases hs

theorem honest_begin (host : UsbHostManager) (link : σ) (now : Nat) (buffer : Bool) :
    Honest (begin host link now buffer) := by
  have hrec : (begin host link now buffer).service.record = ⟨buffer, 1, 0, .none, false, false, 0, []⟩ := by
    cases buffer <;> rfl
  refine ⟨RawServer.sound_empty rfl rfl rfl, ?_, fun _ => ?_, nofun⟩
  · rw [hrec]
    exact ⟨nofun, nofun, nofun, nofun, nofun, fun _ => rfl, fun _ => nofun⟩
  · rw [hrec]
    exact nofun

/-- **IPP reports of a job what became of it**, in every run of the loop whose steps are truthful:
completed only if the episode with its bytes was counted, and stopped or aborted only if none was. -/
theorem outcome_told (T : Transport σ) (host : UsbHostManager) (link : σ) (now : Nat) (buffer : Bool)
    {acts : List LoopAct} {s : System σ} (hx : Lib.Meets (step T) Truthful (begin host link now buffer) acts)
    (hr : Lib.run (step T) (begin host link now buffer) acts = some s) :
    ∀ m ∈ s.service.moves, m.cause = .refreshJobState →
      (m.state = .completed → (∃ e ∈ s.backend.history, e.carries (.ipp m.job)) ∧
        ∀ e ∈ s.backend.history, e.carries (.ipp m.job) → e.Completed) ∧
      (m.state ≠ .completed → ∀ e ∈ s.backend.history, e.carries (.ipp m.job) → ¬ e.Completed) := by
  have h : Honest s := Lib.run_inv (fun _ _ _ => honest_step) (honest_begin host link now buffer) hx hr
  intro m hm hc
  have ht := (h.truth.told m hm hc).2
  refine ⟨fun hst => ⟨ht.printed hst, fun e he hce => (ht.ended e he hce).2.2 hst⟩, fun hst e he hce hno => ?_⟩
  exact hst ((ht.ended e he hce).2.1 hno)

/-- A Print-Job on a printer that takes everything at once. -/
def onePrint : List LoopAct :=
  [.pollBackend false {}, ippPost 0x02 [65], .pass { ms := 2000 }, .pollBackend false {}, .pollIpp none]

theorem outcome_told_onePrint :
    ∃ s, Lib.run (step .immediate) (begin .enumeratedPrinter () 0 true) onePrint = some s ∧
      s.service.moves.head? = some ⟨1, .completed, .refreshJobState⟩ ∧
      ∃ e ∈ s.backend.history, e.carries (.ipp 1) ∧ e.Completed := by
  have hx : Lib.Meets (step .immediate) Truthful (begin .enumeratedPrinter () 0 true) onePrint := by decide +kernel
  have hr : (Lib.run (step .immediate) (begin .enumeratedPrinter () 0 true) onePrint).map (·.service.moves.head?) =
      some (some ⟨1, .completed, .refreshJobState⟩) := by decide +kernel
  obtain ⟨s, hs, hm⟩ := Option.map_eq_some_iff.1 hr
  obtain ⟨⟨e, he, hc⟩, hall⟩ := (outcome_told .immediate .enumeratedPrinter () 0 true hx hs _
    (List.mem_of_head? hm) rfl).1 rfl
  exact ⟨s, hs, hm, e, he, hc, hall e he hc⟩

/-- A link whose flush fails. -/
def deadFlush : Transport Unit :=
  { Transport.immediate with flush := fun _ => { ok := false, error := "USB bulk OUT failed", link := (), took := {} } }

/-- The flush at the end of the job fails, and the next poll of the backend finds the printer ready. -/
def failedFlush : List LoopAct := [.pollBackend false {}, ippPost 0x02 [65], .pollBackend false {}, .pollIpp none]

theorem completed_though_aborted :
    ∃ s, Lib.run (step deadFlush) (begin .enumeratedPrinter () 0 true) failedFlush = some s ∧
      ¬ ∀ m ∈ s.service.moves, m.cause = .refreshJobState → m.state = .completed →
        ∀ e ∈ s.backend.history, e.carries (.ipp m.job) → e.Completed := by
  have hr : (Lib.run (step deadFlush) (begin .enumeratedPrinter () 0 true) failedFlush).map
      (fun s => (s.service.moves.head?, s.backend.history)) =
      some (some ⟨1, .completed, .refreshJobState⟩, [⟨[(.ipp 1, [65])], none, some .aborted⟩]) := by decide +kernel
  obtain ⟨s, hs, hm⟩ := Option.map_eq_some_iff.1 hr
  obtain ⟨hhead, hhist⟩ := Prod.mk.inj hm
  refine ⟨s, hs, fun hall => ?_⟩
  have hin : (⟨[(.ipp 1, [65])], none, some .aborted⟩ : Episode) ∈ s.backend.history := by
    rw [hhist]
    exact List.mem_singleton_self _
  obtain ⟨now, hnow⟩ := hall _ (List.mem_of_head? hhead) rfl rfl _ hin ⟨[65], List.mem_singleton_self _⟩
  cases hnow

end System
end PrintServer
