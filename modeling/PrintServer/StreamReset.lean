import PrintServer.StreamFifo
/-!
# `reset` and the writer (usb_stream.cpp:132-183, 214-230)

`reset` waits at most `RESET_BUSY_WAIT_MS` for `busy_`; then it clears the indices and `failed_`
whatever the writer is doing. `Isolated` lists the steps in which this matters: the indices
cleared under `copyOut`, and a write that `reset` overtook reporting its failure afterwards.
`StreamInv` holds in every run without such a step, and says what a job can rely on.
-/
namespace PrintServer

namespace Writer

/-- The chunk taken from the ring for the next call. -/
def held : Writer → Bytes
  | call data _ => data
  | _ => []

/-- When that chunk was copied. -/
def calling : Writer → Option Nat
  | call _ e => some e
  | _ => none

/-- The chunk of this epoch that `bulkWriteAll` is working on. -/
def inside (epoch : Nat) : Writer → Bytes
  | write data e => if e = epoch then data else []
  | _ => []

/-- The epoch of the chunk that `bulkWriteAll` is working on. -/
def writing : Writer → Option Nat
  | write _ e => some e
  | _ => none

/-- A write has failed and `failed_` is not set yet. -/
def failing : Writer → Option Nat
  | lower e (some _) | setError e _ | publish e => some e
  | _ => none

/-- Between raising and lowering `busy_`. -/
def raised : Writer → Bool
  | check | park | raise | setError .. | publish _ => false
  | _ => true

/-- When the writer's chunk was copied. -/
def chunkEpoch : Writer → Option Nat
  | copy _ _ e | commit _ _ _ e | call _ e | write _ e | lower e _ | setError e _ | publish e => some e
  | _ => none

theorem chunkEpoch_of_failing {w : Writer} {e : Nat} (h : w.failing = some e) : w.chunkEpoch = some e := by
  cases w with
  | lower e' outcome => cases outcome with
    | none => cases h
    | some error => exact h
  | setError => exact h
  | publish => exact h
  | _ => cases h

theorem held_of_calling {w : Writer} (h : w.calling = none) : w.held = [] := by
  cases w with
  | call => cases h
  | _ => rfl

theorem inside_of_stale {w : Writer} {epoch : Nat} (h : w.chunkEpoch ≠ some epoch) : w.inside epoch = [] := by
  cases w with
  | write data e => exact if_neg fun he => h (congrArg some he)
  | _ => rfl

end Writer

namespace UsbStream

/-- Everything `bulkWriteAll` was called with since the indices were cleared. -/
def handed (s : UsbStream) : Bytes := (s.submitted.map Prod.snd).flatten

/-- What the writer has done since the indices were cleared. -/
structure StreamLog (s : UsbStream) : Prop where
  taken : s.taken = s.handed ++ s.writer.held
  called : ∀ e, s.writer.calling = some e → e = s.epoch
  mine : ∀ x ∈ s.submitted, x.1 = s.epoch
  returned : s.handed = (s.returned.map Prod.fst).flatten ++ s.writer.inside s.epoch
  busy : s.busy = s.writer.raised
  failures : (∃ r ∈ s.returned, r.2 = false) ↔
    (s.failed = true ∧ s.failedBy = some s.epoch) ∨ s.writer.failing = some s.epoch
  stale : ∀ e, s.writer.failing = some e → e ≠ s.epoch → s.producer = .resetUnfail
  blame : s.failed = true → s.failedBy = some s.epoch ∨ s.producer = .resetUnfail
  fresh : s.producer = .resetUnfail → s.pushed = [] ∧ s.failedBy ≠ some s.epoch ∧ s.writer.chunkEpoch ≠ some s.epoch
  chunk_le : ∀ e, s.writer.chunkEpoch = some e → e ≤ s.epoch
  failedBy_le : ∀ e, s.failedBy = some e → e ≤ s.epoch

structure StreamInv (s : UsbStream) : Prop extends StreamFifo s, StreamLog s

/-- `reset` does not overtake the writer here. -/
def Isolated (s : UsbStream) : StreamAct → Prop
  /- it clears the indices while `copyOut` is between its critical sections, or before the call -/
  | .producer _ => (s.producer = .resetClear → s.settled = true) ∧
      -- it clears `failed_` while a failed write is about to set it
      (s.producer = .resetUnfail → s.writer.failing = none)
  -- `bulkWriteAll` of an earlier job fails after `failed_` was cleared
  | .writer outcome => s.writer.writing.all (· = s.epoch) ∨ outcome = none ∨ s.producer = .resetUnfail
  | _ => True

instance (s : UsbStream) (a : StreamAct) : Decidable (s.Isolated a) :=
  match a with
  | .producer _ => inferInstanceAs (Decidable (_ ∧ _))
  | .writer _ => inferInstanceAs (Decidable (_ ∨ _ ∨ _))
  | .push _ | .flush | .reset | .drained _ => inferInstanceAs (Decidable True)

theorem log_begin (capacity : Nat) : StreamLog (begin capacity) where
  taken := rfl
  called := by simp [begin, Writer.calling]
  mine := by simp [begin]
  returned := rfl
  busy := rfl
  failures := by simp [begin, Writer.failing]
  stale := by simp [begin, Writer.failing]
  blame := by simp [begin]
  fresh := by simp [begin]
  chunk_le := by simp [begin, Writer.chunkEpoch]
  failedBy_le := by simp [begin]

namespace StreamLog
variable {s : UsbStream}

/-- The loop task moves on, outside the end of `reset`. -/
theorem go (h : StreamLog s) (hs : s.producer ≠ .resetUnfail) {p : Producer} (hp : p ≠ .resetUnfail)
    {mem : Nat → UInt8} {head used : Nat} {error : String} {wake : Bool} {pushed : Bytes} :
    StreamLog { s with producer := p, mem, head, used, error, wake, pushed } where
  taken := h.taken
  called := h.called
  mine := h.mine
  returned := h.returned
  busy := h.busy
  failures := h.failures
  stale := fun e he hne => absurd (h.stale e he hne) hs
  blame := fun hf => Or.inl ((h.blame hf).resolve_right hs)
  fresh := fun hr => absurd hr hp
  chunk_le := h.chunk_le
  failedBy_le := h.failedBy_le

/-- The indices are cleared. -/
theorem clear (h : StreamLog s) (hw : s.settled = true) : StreamLog { s.clear with producer := .resetUnfail } := by
  have hcall : s.writer.calling = none := by
    unfold settled at hw
    cases hs : s.writer with
    | call data e => rw [hs] at hw; cases hw
    | _ => rfl
  have hchunk : s.writer.chunkEpoch ≠ some (s.epoch + 1) := fun he => by
    have := h.chunk_le _ he
    omega
  have hfail : s.writer.failing ≠ some (s.epoch + 1) := fun he => hchunk (Writer.chunkEpoch_of_failing he)
  have hby : s.failedBy ≠ some (s.epoch + 1) := fun he => by
    have := h.failedBy_le _ he
    omega
  refine {
    taken := (Writer.held_of_calling hcall).symm
    called := fun e he => (by cases hcall.symm.trans he)
    mine := fun x hx => (by cases hx)
    returned := (Writer.inside_of_stale hchunk).symm
    busy := h.busy
    failures := ?_
    stale := fun _ _ _ => rfl
    blame := fun _ => Or.inr rfl
    fresh := fun _ => ⟨rfl, hby, hchunk⟩
    chunk_le := fun e he => Nat.le_succ_of_le (h.chunk_le e he)
    failedBy_le := fun e he => Nat.le_succ_of_le (h.failedBy_le e he) }
  refine iff_of_false (fun ⟨r, hr, _⟩ => (by cases hr)) ?_
  rintro (⟨_, he⟩ | he)
  · exact hby he
  · exact hfail he

/-- `failed_` is cleared, with no failed write on its way. -/
theorem unfail (h : StreamLog s) (hp : s.producer = .resetUnfail) (hw : s.writer.failing = none) {wake : Bool} :
    StreamLog { s with failed := false, failedBy := none, producer := .resetGive, wake } where
  taken := h.taken
  called := h.called
  mine := h.mine
  returned := h.returned
  busy := h.busy
  failures := by
    have hno := h.failures
    rw [hw] at hno
    simpa [(h.fresh hp).2.1, hw] using hno
  stale := fun e he => (by rw [show s.writer.failing = some e from he] at hw; cases hw)
  blame := fun hf => (by cases hf)
  fresh := fun hr => (by cases hr)
  chunk_le := h.chunk_le
  failedBy_le := fun e he => (by cases he)

/-! ### The writer -/

/-- The writer moves on without a chunk to hand over or to report. -/
theorem goWriter (h : StreamLog s) {w : Writer} (hheld : s.writer.held = []) (hcall : w.calling = none)
    (hin : s.writer.inside s.epoch = []) (hin' : w.inside s.epoch = []) (hfail : w.failing = s.writer.failing)
    (hc : w.chunkEpoch = none ∨ w.chunkEpoch = s.writer.chunkEpoch ∨ (w.chunkEpoch = some s.epoch ∧ s.pushed ≠ []))
    {busy wake : Bool} {error : String} (hb : busy = w.raised) :
    StreamLog { s with writer := w, busy, wake, error } where
  taken := by
    show s.taken = s.handed ++ w.held
    rw [Writer.held_of_calling hcall, ← hheld]
    exact h.taken
  called := fun e he => (by cases hcall.symm.trans he)
  mine := h.mine
  returned := by
    show s.handed = _ ++ w.inside s.epoch
    rw [hin', ← hin]
    exact h.returned
  busy := hb
  failures := by
    show _ ↔ _ ∨ w.failing = some s.epoch
    rw [hfail]
    exact h.failures
  stale := fun e he => h.stale e (hfail ▸ he)
  blame := h.blame
  fresh := fun hp => by
    obtain ⟨h1, h2, h3⟩ := h.fresh hp
    refine ⟨h1, h2, ?_⟩
    show w.chunkEpoch ≠ some s.epoch
    rcases hc with hc | hc | hc
    · rw [hc]
      exact fun he => (by cases he)
    · rw [hc]
      exact h3
    · exact absurd h1 hc.2
  chunk_le := fun e he => by
    rcases hc with hc | hc | hc
    · rw [show w.chunkEpoch = some e from he] at hc
      cases hc
    · exact h.chunk_le e (hc ▸ he)
    · rw [show w.chunkEpoch = some e from he] at hc
      exact Nat.le_of_eq (Option.some.inj hc.1)
  failedBy_le := h.failedBy_le

/-- The chunk leaves the ring. -/
theorem take {tail n e : Nat} {data : Bytes} (h : StreamLog s) (hw : s.writer = .commit tail n data e)
    (he : e = s.epoch) : StreamLog { s.take tail data with writer := .call data e } where
  taken := by
    have ht : s.taken = s.handed := by
      rw [h.taken, hw]
      exact List.append_nil _
    exact congrArg (· ++ data) ht
  called := fun e' he' => (Option.some.inj he').symm.trans he
  mine := h.mine
  returned := by
    have hr := h.returned
    rw [hw] at hr
    exact hr
  busy := by
    have hb := h.busy
    rw [hw] at hb
    exact hb
  failures := by
    have hf := h.failures
    rw [hw] at hf
    exact hf
  stale := fun e' he => (by cases he)
  blame := h.blame
  fresh := fun hp => by
    have hf := h.fresh hp
    rw [hw] at hf
    exact hf
  chunk_le := fun e' he => h.chunk_le e' (by rw [hw]; exact he)
  failedBy_le := h.failedBy_le

/-- `bulkWriteAll` is called. -/
theorem call {data : Bytes} (h : StreamLog s) (hw : s.writer = .call data s.epoch) :
    StreamLog { s with submitted := s.submitted ++ [(s.epoch, data)], writer := .write data s.epoch } := by
  have hhanded : (((s.submitted ++ [(s.epoch, data)]).map Prod.snd).flatten : Bytes) = s.handed ++ data := by
    rw [List.map_append, List.flatten_append]
    exact congrArg (s.handed ++ ·) (List.append_nil data)
  have hb := h.busy
  have hf := h.failures
  rw [hw] at hb hf
  exact {
    taken := by
      have ht := h.taken
      rw [hw] at ht
      exact (ht.trans hhanded.symm).trans (List.append_nil _).symm
    called := fun e' he => (by cases he)
    mine := fun x hx => by
      rcases List.mem_append.1 hx with hx | hx
      · exact h.mine x hx
      · rw [List.mem_singleton.1 hx]
    returned := by
      have hr : s.handed = (s.returned.map Prod.fst).flatten := by
        rw [h.returned, hw]
        exact List.append_nil _
      show (((s.submitted ++ [(s.epoch, data)]).map Prod.snd).flatten : Bytes) = _ ++ if s.epoch = s.epoch then data else []
      rw [hhanded, hr, if_pos rfl]
    busy := hb
    failures := hf
    stale := fun e' he => (by cases he)
    blame := h.blame
    fresh := fun hp => by
      have hfr := h.fresh hp
      rw [hw] at hfr
      exact hfr
    chunk_le := fun e' he => Nat.le_of_eq (Option.some.inj he).symm
    failedBy_le := h.failedBy_le }

/-- `bulkWriteAll` returns. -/
theorem write {data : Bytes} {e : Nat} {outcome : Option String} (h : StreamLog s) (hw : s.writer = .write data e)
    (hi : e ≠ s.epoch → outcome ≠ none → s.producer = .resetUnfail) :
    StreamLog { s with
      returned := if e = s.epoch then s.returned ++ [(data, outcome.isNone)] else s.returned
      writer := .lower e outcome } := by
  have hb := h.busy
  have hf := h.failures
  have hr := h.returned
  have hfr := h.fresh
  have hfailing : ∀ e', (Writer.lower e outcome).failing = some e' → e' = e ∧ outcome ≠ none := by
    intro e' he
    cases outcome with
    | none => cases he
    | some error => exact ⟨(Option.some.inj he).symm, by simp⟩
  rw [hw] at hb hf hr hfr
  refine {
    taken := by
      have ht := h.taken
      rw [hw] at ht
      exact ht
    called := fun e' he => (by cases he)
    mine := h.mine
    returned := ?_
    busy := hb
    failures := ?_
    stale := fun e' he hne => by
      obtain ⟨rfl, ho⟩ := hfailing e' he
      exact hi hne ho
    blame := h.blame
    fresh := hfr
    chunk_le := fun e' he => h.chunk_le e' (by rw [hw]; exact he)
    failedBy_le := h.failedBy_le }
  · show s.handed = ((if e = s.epoch then _ else _ : List (Bytes × Bool)).map Prod.fst).flatten ++ []
    rw [hr, Writer.inside]
    split
    · rw [List.map_append, List.flatten_append, List.append_nil]
      exact congrArg (_ ++ ·) (List.append_nil data).symm
    · rfl
  · show (∃ r ∈ (if e = s.epoch then _ else _ : List (Bytes × Bool)), r.2 = false) ↔ _ ∨ _ = some s.epoch
    split
    · rename_i he
      cases outcome with
      | none =>
        simpa [Writer.failing] using hf
      | some error =>
        refine iff_of_true ⟨(data, false), by simp, rfl⟩ (Or.inr ?_)
        rw [he]
        rfl
    · rename_i he
      rw [hf]
      refine or_congr Iff.rfl (iff_of_false (fun hno => (by cases hno)) fun hno => ?_)
      exact he (hfailing _ hno).1.symm

/-- `failed_` is set. -/
theorem publish {e : Nat} (h : StreamLog s) (hw : s.writer = .publish e) :
    StreamLog { s with failed := true, failedBy := some e, writer := .check } := by
  have hb := h.busy
  have hf := h.failures
  have hr := h.returned
  have hst := h.stale
  rw [hw] at hb hf hr hst
  exact {
    taken := by
      have ht := h.taken
      rw [hw] at ht
      exact ht
    called := fun e' he => (by cases he)
    mine := h.mine
    returned := hr
    busy := hb
    failures := by
      rw [hf]
      constructor
      · rintro (⟨hfl, hby⟩ | he)
        · -- then `e` cannot be from an earlier epoch
          refine Or.inl ⟨rfl, ?_⟩
          by_contra hne
          have hp := hst e rfl fun heq => hne (congrArg some heq)
          exact (h.fresh hp).2.1 hby
        · exact Or.inl ⟨rfl, he⟩
      · rintro (⟨_, he⟩ | he)
        · exact Or.inr he
        · cases he
    stale := fun e' he => (by cases he)
    blame := fun _ => by
      by_cases heq : e = s.epoch
      · exact Or.inl (congrArg some heq)
      · exact Or.inr (hst e rfl heq)
    fresh := fun hp => by
      have hfr := h.fresh hp
      rw [hw] at hfr
      exact ⟨hfr.1, hfr.2.2, fun he => (by cases he)⟩
    chunk_le := fun e' he => (by cases he)
    failedBy_le := fun e' he => h.chunk_le e' (by rw [hw]; exact he) }

end StreamLog

/-! ## Steps and runs -/

theorem log_producerStep {s s' : UsbStream} {late : Bool} (h : StreamLog s) (hi : s.Isolated (.producer late))
    (hs : s.producerStep late = some s') : StreamLog s' := by
  obtain ⟨hclear, hunfail⟩ := hi
  unfold producerStep at hs
  cases hprod : s.producer with
  | idle ok => rw [hprod] at hs; cases hs
  | flushWait => rw [hprod] at hs; cases hs
  | resetClear =>
    rw [hprod] at hs
    cases hs
    exact h.clear (hclear hprod)
  | resetUnfail =>
    rw [hprod] at hs
    cases hs
    exact h.unfail hprod (hunfail hprod)
  | _ =>
    have hne : s.producer ≠ .resetUnfail := by
      rw [hprod]
      exact fun he => (by cases he)
    rw [hprod] at hs
    cases hs
    refine h.go hne ?_
    first
      | exact fun he => (by cases he)
      | (split <;> (try split) <;> exact fun he => (by cases he))

theorem log_writerStep {s s' : UsbStream} {outcome : Option String} (hr : StreamFifo s) (h : StreamLog s)
    (hi : s.Isolated (.writer outcome)) (hs : s.writerStep outcome = some s') : StreamLog s' := by
  unfold writerStep at hs
  have hb := h.busy
  cases hw : s.writer with
  | check =>
    rw [hw] at hb hs
    cases hs
    have hp : ∀ w, w = .park ∨ w = .raise → StreamLog { s with writer := w } := by
      rintro w (rfl | rfl) <;>
        exact h.goWriter (by rw [hw]; rfl) rfl (by rw [hw]; rfl) rfl (by rw [hw]; rfl) (Or.inl rfl) hb
    exact hp _ (by split <;> simp)
  | park =>
    rw [hw] at hb hs
    dsimp only at hs
    split at hs
    · cases hs
      exact h.goWriter (by rw [hw]; rfl) rfl (by rw [hw]; rfl) rfl (by rw [hw]; rfl) (Or.inl rfl) hb
    · cases hs
  | raise =>
    rw [hw] at hs
    cases hs
    exact h.goWriter (by rw [hw]; rfl) rfl (by rw [hw]; rfl) rfl (by rw [hw]; rfl) (Or.inl rfl) rfl
  | snap =>
    rw [hw] at hb hs
    cases hs
    by_cases h0 : s.used = 0
    · rw [if_pos h0]
      exact h.goWriter (by rw [hw]; rfl) rfl (by rw [hw]; rfl) rfl (by rw [hw]; rfl) (Or.inl rfl) hb
    · rw [if_neg h0]
      -- the ring is not empty, so something was pushed in this epoch
      have hne : s.pushed ≠ [] := by
        rw [hr.fifo]
        exact List.append_ne_nil_of_right_ne_nil _ fun he => h0 (Lib.Ring.slice_eq_nil.1 he)
      exact h.goWriter (by rw [hw]; rfl) rfl (by rw [hw]; rfl) rfl (by rw [hw]; rfl)
        (Or.inr (Or.inr ⟨rfl, hne⟩)) hb
  | empty =>
    rw [hw] at hs
    cases hs
    exact h.goWriter (by rw [hw]; rfl) rfl (by rw [hw]; rfl) rfl (by rw [hw]; rfl) (Or.inl rfl) rfl
  | copy tail n e =>
    rw [hw] at hb hs
    cases hs
    exact h.goWriter (by rw [hw]; rfl) rfl (by rw [hw]; rfl) rfl (by rw [hw]; rfl)
      (Or.inr (Or.inl (by rw [hw]; rfl))) hb
  | commit tail n data e =>
    have hfit := hr.writer
    rw [hw] at hs hfit
    cases hs
    exact h.take hw hfit.1
  | call data e =>
    obtain rfl : e = s.epoch := h.called e (by rw [hw]; rfl)
    rw [hw] at hs
    cases hs
    exact h.call hw
  | write data e =>
    rw [hw] at hs
    cases hs
    refine h.write hw fun he ho => ?_
    rcases hi with hi | hi | hi
    · rw [hw] at hi
      exact absurd (by simpa [Writer.writing] using hi) he
    · exact absurd hi ho
    · exact hi
  | lower e result =>
    rw [hw] at hs
    cases hs
    cases result with
    | none => exact h.goWriter (by rw [hw]; rfl) rfl (by rw [hw]; rfl) rfl (by rw [hw]; rfl) (Or.inl rfl) rfl
    | some error =>
      exact h.goWriter (by rw [hw]; rfl) rfl (by rw [hw]; rfl) rfl (by rw [hw]; rfl)
        (Or.inr (Or.inl (by rw [hw]; rfl))) rfl
  | setError e error =>
    rw [hw] at hb hs
    cases hs
    exact h.goWriter (by rw [hw]; rfl) rfl (by rw [hw]; rfl) rfl (by rw [hw]; rfl)
      (Or.inr (Or.inl (by rw [hw]; rfl))) hb
  | publish e =>
    rw [hw] at hs
    cases hs
    exact h.publish hw

/-- One step keeps the invariant. -/
theorem inv_step {s s' : UsbStream} {a : StreamAct} (h : StreamInv s) (hi : s.Isolated a) (hs : s.step a = some s') :
    StreamInv s' := by
  refine ⟨fifo_step h.toStreamFifo ?_ hs, ?_⟩
  · rintro late rfl hp
    exact inCopyOut_of_settled (hi.1 hp)
  cases a with
  | push data =>
    obtain ⟨⟨ok, hp⟩, rfl⟩ := enter_eq hs
    refine h.toStreamLog.go (by simp [hp]) ?_
    split <;> exact fun he => (by cases he)
  | flush =>
    obtain ⟨⟨ok, hp⟩, rfl⟩ := enter_eq hs
    exact h.toStreamLog.go (by simp [hp]) fun he => (by cases he)
  | reset =>
    obtain ⟨⟨ok, hp⟩, rfl⟩ := enter_eq hs
    exact h.toStreamLog.go (by simp [hp]) fun he => (by cases he)
  | producer late => exact log_producerStep h.toStreamLog hi hs
  | drained ok =>
    obtain ⟨hp, rfl⟩ := leaveFlush_eq hs
    exact h.toStreamLog.go (by simp [hp]) fun he => (by cases he)
  | writer outcome => exact log_writerStep h.toStreamFifo h.toStreamLog hi hs

/-- Every run without an overtaking reset keeps the invariant. -/
theorem inv_run {capacity : Nat} (h0 : 0 < capacity) (hc : capacity < 2 ^ 32) {acts : List StreamAct} {s : UsbStream}
    (hi : Lib.Meets step Isolated (begin capacity) acts) (hr : Lib.run step (begin capacity) acts = some s) :
    StreamInv s :=
  Lib.run_inv (fun _ _ _ => inv_step) ⟨StreamFifo.begin h0 hc, log_begin capacity⟩ hi hr

/-- What a job can rely on, whatever came before it. -/
structure JobIsolated (s : UsbStream) : Prop where
  /-- `used_` does not underflow: it is what was pushed and not yet taken. -/
  used : s.used + s.taken.length = s.pushed.length
  used_le : s.used ≤ s.capacity
  /-- In order and without gaps. -/
  taken : s.taken <+: s.pushed
  /-- Nothing pushed before the reset is handed to `bulkWriteAll` after it. -/
  submitted : ∀ x ∈ s.submitted, x.1 = s.epoch
  handed : s.handed <+: s.pushed
  /-- Only a write of this job has set `failed_`, from the return of `reset` on. -/
  failed : s.failed = true → s.producer ≠ .resetUnfail → s.failedBy = some s.epoch

theorem StreamInv.jobIsolated {s : UsbStream} (h : StreamInv s) : JobIsolated s where
  used := by
    have hf := congrArg List.length h.fifo
    rw [List.length_append] at hf
    have hq : s.queue.length = s.used := Lib.Ring.length_slice ..
    omega
  used_le := h.used_le
  taken := ⟨s.queue, h.fifo.symm⟩
  submitted := h.mine
  handed := by
    have ht : s.handed <+: s.taken := ⟨_, h.toStreamLog.taken.symm⟩
    exact ht.trans ⟨s.queue, h.fifo.symm⟩
  failed := fun hf hp => (h.blame hf).resolve_right hp

/-- **`reset` isolates one job from the next**, in every interleaving in which it does not overtake
the writer. -/
theorem reset_isolates {capacity : Nat} (h0 : 0 < capacity) (hc : capacity < 2 ^ 32) {acts : List StreamAct}
    {s : UsbStream} (hi : Lib.Meets step Isolated (begin capacity) acts)
    (hr : Lib.run step (begin capacity) acts = some s) : JobIsolated s :=
  (inv_run h0 hc hi hr).jobIsolated

/-- A job of three bytes, written; then the next one. -/
def twoJobs : List StreamAct :=
  [.push [1, 2, 3]] ++ List.replicate 5 (.producer false) ++ List.replicate 8 (.writer none) ++
    [.reset] ++ List.replicate 4 (.producer false) ++ [.push [4]] ++ List.replicate 5 (.producer false)

theorem reset_isolates_twoJobs :
    ∃ s, Lib.run step (begin 8) twoJobs = some s ∧ s.pushed = [4] ∧ JobIsolated s := by
  have hp : (Lib.run step (begin 8) twoJobs).map (·.pushed) = some [4] := by decide +kernel
  have hi : Lib.Meets step Isolated (begin 8) twoJobs := by decide +kernel
  obtain ⟨s, hs, hp⟩ := Option.map_eq_some_iff.1 hp
  exact ⟨s, hs, hp, reset_isolates (by decide) (by decide) hi hs⟩

/-- The writer has read the indices when `reset`, tired of waiting, clears them. -/
def overtaken : List StreamAct :=
  [.push [1, 2, 3]] ++ List.replicate 5 (.producer false) ++ List.replicate 3 (.writer none) ++
    [.reset] ++ List.replicate 4 (.producer true) ++ List.replicate 2 (.writer none)

theorem reset_overtakes : ∃ s, Lib.run step (begin usbStreamBufferSize) overtaken = some s ∧
    s.used = 2 ^ 32 - 3 ∧ ¬ JobIsolated s := by
  have h : (Lib.run step (begin usbStreamBufferSize) overtaken).map (fun s => (s.used, s.pushed)) = some (2 ^ 32 - 3, []) := by
    decide +kernel
  obtain ⟨s, hs, hu⟩ := Option.map_eq_some_iff.1 h
  obtain ⟨hused, hpushed⟩ := Prod.mk.inj hu
  refine ⟨s, hs, hused, fun hj => ?_⟩
  have hsum := hj.used
  rw [hused, hpushed, List.length_nil] at hsum
  omega

end UsbStream
end PrintServer
