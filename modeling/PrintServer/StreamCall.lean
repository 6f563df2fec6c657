import PrintServer.SendOnce
import PrintServer.StreamFlush
/-!
# One call of the stream, whatever the writer does meanwhile (usb_stream.cpp:83-130, 189-230)

`Returns` is a call of `push`, `flush` or `reset` as its caller sees it: the writer has moved on since
the last call, then both tasks interleave until the call is back. The rest says of each of the three
calls what it has done to the bytes pushed and to the bytes that went through `bulkWriteAll`.
-/
namespace PrintServer

/-- A step inside a call, of either task. -/
def StreamAct.inside : StreamAct → Bool
  | producer _ | writer _ | drained _ => true
  | _ => false

namespace Producer

/-- In a call of `flush`, or behind it. -/
def flushing : Producer → Bool
  | idle _ | flushCheck | flushLook | flushBusy _ | flushWait => true
  | _ => false

/-- The loop of `flush` was left with an empty ring. -/
def flushed : Producer → Bool
  | flushWait | idle true => true
  | _ => false

/-- `reset` has cleared the indices. -/
def cleared : Producer → Bool
  | resetUnfail | resetGive | idle _ => true
  | _ => false

end Producer

namespace UsbStream

/-- The bytes of this epoch that `bulkWriteAll` has returned for. -/
def through (s : UsbStream) : Bytes := (s.returned.map Prod.fst).flatten

/-- The call `a` returns `ok` in `s'`. No step overtakes the writer. -/
def Returns (a : StreamAct) (ok : Bool) (s s' : UsbStream) : Prop :=
  ∃ before m entered during,
    (Lib.Meets step (fun s a => a.byWriter = true ∧ s.Isolated a) s before ∧ Lib.run step s before = some m) ∧
    m.step a = some entered ∧
    (Lib.Meets step (fun s a => a.inside = true ∧ s.Isolated a) entered during ∧
      Lib.run step entered during = some s') ∧
    s'.producer = .idle ok

/-- Between two calls. -/
structure Rests (s : UsbStream) : Prop where
  inv : StreamInv s
  idle : s.producer.isIdle = true

theorem returned_writerStep {s s' : UsbStream} {outcome : Option String} (hs : s.writerStep outcome = some s') :
    s.returned <+: s'.returned := by
  unfold writerStep at hs
  cases hw : s.writer with
  | park =>
    rw [hw] at hs
    dsimp only at hs
    split at hs
    · cases hs
      exact List.prefix_rfl
    · cases hs
  | write data e =>
    rw [hw] at hs
    cases hs
    dsimp only
    split
    · exact List.prefix_append _ _
    · exact List.prefix_rfl
  | _ => rw [hw] at hs; cases hs; exact List.prefix_rfl

/-- What the writer has done in this epoch stays, until the indices are cleared. -/
theorem returned_producerStep {s s' : UsbStream} {late : Bool} (hc : s.producer ≠ .resetClear)
    (hs : s.producerStep late = some s') : s'.returned = s.returned := by
  unfold producerStep at hs
  cases hp : s.producer with
  | idle ok => rw [hp] at hs; cases hs
  | flushWait => rw [hp] at hs; cases hs
  | resetClear => exact absurd hp hc
  | _ => rw [hp] at hs; cases hs; rfl

theorem through_mono {s s' : UsbStream} (h : s.returned <+: s'.returned) : s.through <+: s'.through := by
  obtain ⟨more, hm⟩ := h
  unfold through
  rw [← hm, List.map_append, List.flatten_append]
  exact List.prefix_append _ _

theorem through_writerStep {s s' : UsbStream} {outcome : Option String} (hs : s.writerStep outcome = some s') :
    s.through <+: s'.through := through_mono (returned_writerStep hs)

namespace StreamInv
variable {s : UsbStream}

theorem through_pushed (h : StreamInv s) : s.through <+: s.pushed := by
  have hhanded : s.through <+: s.handed := ⟨_, h.toStreamLog.returned.symm⟩
  exact hhanded.trans h.jobIsolated.handed

/-- All of it is through, or a part of it never will be without somebody being told. -/
theorem told (h : StreamInv s) (hp : s.producer ≠ .resetUnfail) :
    (∀ r ∈ s.returned, r.2 = true) ∨ s.failed = true ∨ s.writer.failing ≠ none := by
  by_cases hok : ∀ r ∈ s.returned, r.2 = true
  · exact Or.inl hok
  rw [h.all_ok_iff hp, not_and_or] at hok
  exact Or.inr (hok.imp_left fun hf => by simpa using hf)

end StreamInv

/-! ## The call from outside -/

/-- What each task keeps, the call keeps. -/
theorem Returns.inv {a : StreamAct} {ok : Bool} {s s' : UsbStream} (h : Returns a ok s s') {I J : UsbStream → Prop}
    (hwriter : ∀ s a s', I s → a.byWriter = true ∧ s.Isolated a → s.step a = some s' → I s')
    (henter : ∀ s s', I s → s.step a = some s' → J s')
    (hinside : ∀ s a s', J s → a.inside = true ∧ s.Isolated a → s.step a = some s' → J s') (hi : I s) : J s' := by
  obtain ⟨before, m, entered, during, ⟨hb, hbr⟩, ha, ⟨hd, hdr⟩, _⟩ := h
  have hm : I m := Lib.run_inv hwriter hi hb hbr
  exact Lib.run_inv hinside (henter m entered hm ha) hd hdr

theorem Returns.idle {a : StreamAct} {ok : Bool} {s s' : UsbStream} (h : Returns a ok s s') : s'.producer = .idle ok := by
  obtain ⟨_, _, _, _, _, _, _, hi⟩ := h
  exact hi

/-- What the writer leaves alone between two calls. -/
structure Waits (base : UsbStream) (s : UsbStream) : Prop where
  inv : StreamInv s
  pushed : s.pushed = base.pushed
  through : base.through <+: s.through

theorem Waits.begin {s : UsbStream} (h : StreamInv s) : Waits s s := ⟨h, rfl, List.prefix_rfl⟩

theorem Waits.writer {base s s' : UsbStream} {a : StreamAct} (h : Waits base s) (ha : a.byWriter = true ∧ s.Isolated a)
    (hs : s.step a = some s') : Waits base s' := by
  cases a with
  | writer outcome =>
    exact ⟨inv_step h.inv ha.2 hs, (writer_frame hs).2.trans h.pushed, h.through.trans (through_writerStep hs)⟩
  | _ => cases ha.1

/-! ## `push` -/

/-- In a call of `push`: of the block, `queued` is in the ring, and what is left is still to come. -/
structure Pushes (base : UsbStream) (data : Bytes) (s : UsbStream) : Prop where
  inv : StreamInv s
  pushing : s.producer.pushing = true
  through : base.through <+: s.through
  queued : ∃ queued, s.pushed = base.pushed ++ queued ∧
    s.producer.left.elim (queued <+: data) fun rest => queued ++ rest = data

theorem Pushes.enter {base s s' : UsbStream} {data : Bytes} (hd : data ≠ []) (h : Waits base s)
    (hs : s.step (.push data) = some s') : Pushes base data s' := by
  have hinv := inv_step (a := .push data) h.inv trivial hs
  obtain ⟨_, rfl⟩ := enter_eq hs
  have hempty : data.isEmpty = false := List.isEmpty_eq_false_iff.2 hd
  rw [hempty, if_neg Bool.false_ne_true] at hinv ⊢
  exact ⟨hinv, rfl, h.through, [], by rw [List.append_nil]; exact h.pushed, rfl⟩

theorem Pushes.step {base s s' : UsbStream} {data : Bytes} {a : StreamAct} (h : Pushes base data s)
    (ha : a.inside = true ∧ s.Isolated a) (hs : s.step a = some s') : Pushes base data s' := by
  have hinv := inv_step h.inv ha.2 hs
  obtain ⟨queued, hq, hl⟩ := h.queued
  cases a with
  | push => cases ha.1
  | flush => cases ha.1
  | reset => cases ha.1
  | drained ok =>
    obtain ⟨hp, _⟩ := leaveFlush_eq hs
    have hpush := h.pushing
    rw [hp] at hpush
    cases hpush
  | writer outcome =>
    obtain ⟨hp, hpushed⟩ := writer_frame hs
    exact ⟨hinv, by rw [hp]; exact h.pushing, h.through.trans (through_writerStep hs), queued, hpushed.trans hq,
      by rw [hp]; exact hl⟩
  | producer late =>
    obtain ⟨hpush, hprog⟩ := push_progress h.inv.toStreamFifo h.pushing hs
    have hclear : s.producer ≠ .resetClear := by
      intro hc
      have hp := h.pushing
      rw [hc] at hp
      cases hp
    have hthrough : s'.through = s.through := congrArg (fun l => (l.map Prod.fst).flatten) (returned_producerStep hclear hs)
    refine ⟨hinv, hpush, by rw [hthrough]; exact h.through, ?_⟩
    cases hprog with
    | rests hleft hsent => exact ⟨queued, hsent.trans hq, by rw [hleft]; exact hl⟩
    | queues piece rest hleft hleft' hsent =>
      rw [hleft] at hl
      refine ⟨queued ++ piece, ?_, ?_⟩
      · rw [hsent, hq, List.append_assoc]
      · rw [hleft']
        exact (List.append_assoc ..).trans hl
    | givesUp rest hleft hleft' hsent =>
      rw [hleft] at hl
      refine ⟨queued, hsent.trans hq, ?_⟩
      rw [hleft']
      exact ⟨rest, hl⟩

/-- `push` queues the block behind what is there, or a piece from its start. -/
theorem Returns.push {data : Bytes} {ok : Bool} {s s' : UsbStream} (hd : data ≠ []) (h : Returns (.push data) ok s s')
    (hs : Rests s) : Rests s' ∧ s.through <+: s'.through ∧
      ∃ queued, s'.pushed = s.pushed ++ queued ∧ queued <+: data ∧ (ok = true → queued = data) := by
  have hend : Pushes s data s' := h.inv (fun _ _ _ => Waits.writer) (fun _ _ => Pushes.enter hd) (fun _ _ _ => Pushes.step)
    (.begin hs.inv)
  have hi := h.idle
  obtain ⟨queued, hq, hl⟩ := hend.queued
  refine ⟨⟨hend.inv, by rw [hi]; rfl⟩, hend.through, queued, hq, ?_⟩
  rw [hi] at hl
  cases ok with
  | true =>
    have hall : queued = data := (List.append_nil queued).symm.trans hl
    exact ⟨⟨[], hl⟩, fun _ => hall⟩
  | false => exact ⟨hl, fun hf => absurd hf Bool.false_ne_true⟩

/-! ## `flush` -/

/-- In a call of `flush`. Once the loop is left, everything is through. -/
structure Flushes (base : UsbStream) (s : UsbStream) : Prop extends Waits base s where
  flushing : s.producer.flushing = true
  flushed : s.producer.flushed = true → s.through = s.pushed

theorem Flushes.enter {base s s' : UsbStream} (h : Waits base s) (hs : s.step .flush = some s') : Flushes base s' := by
  have hinv := inv_step (a := .flush) h.inv trivial hs
  obtain ⟨_, rfl⟩ := enter_eq hs
  exact ⟨⟨hinv, h.pushed, h.through⟩, rfl, fun hf => (by cases hf)⟩

/-- What is through never gets past what is pushed. -/
theorem through_eq {s s' : UsbStream} (h : s.through = s.pushed) (hp : s'.pushed = s.pushed)
    (ht : s.through <+: s'.through) (hi : StreamInv s') : s'.through = s'.pushed := by
  have hle := hi.through_pushed
  rw [h, ← hp] at ht
  exact hle.eq_of_length (Nat.le_antisymm hle.length_le ht.length_le)

theorem Flushes.step {base s s' : UsbStream} {a : StreamAct} (h : Flushes base s)
    (ha : a.inside = true ∧ s.Isolated a) (hs : s.step a = some s') : Flushes base s' := by
  have hinv := inv_step h.inv ha.2 hs
  have hflushing := h.flushing
  cases a with
  | push => cases ha.1
  | flush => cases ha.1
  | reset => cases ha.1
  | drained ok =>
    obtain ⟨hp, rfl⟩ := leaveFlush_eq hs
    exact ⟨⟨hinv, h.pushed, h.through⟩, rfl, fun _ => h.flushed (by rw [hp]; rfl)⟩
  | writer outcome =>
    obtain ⟨hp, hpushed⟩ := writer_frame hs
    have hthrough := through_writerStep hs
    exact ⟨⟨hinv, hpushed.trans h.pushed, h.through.trans hthrough⟩, by rw [hp]; exact hflushing,
      fun hf => through_eq (h.flushed (by rw [← hp]; exact hf)) hpushed hthrough hinv⟩
  | producer late =>
    have hstep : s.producerStep late = some s' := hs
    by_cases hx : s'.producer = .flushWait
    · obtain ⟨hp, hb, rfl⟩ := exit_cases hstep hx
      have hused : s.used = 0 := by
        have hfit := h.inv.producer
        rw [hp] at hfit
        exact hfit rfl
      exact ⟨⟨hinv, h.pushed, h.through⟩, rfl, fun _ => (h.inv.all_returned hused hb).2.2⟩
    have hgo : ∀ p : Producer, StreamInv { s with producer := p } → p.flushing = true → p.flushed = false →
        Flushes base { s with producer := p } := by
      intro p hi hf hd
      refine ⟨⟨hi, h.pushed, h.through⟩, hf, fun hc => ?_⟩
      rw [show p.flushed = true from hc] at hd
      cases hd
    unfold producerStep at hstep
    cases hp : s.producer with
    | flushWait => rw [hp] at hstep; cases hstep
    | idle ok => rw [hp] at hstep; cases hstep
    | flushCheck =>
      rw [hp] at hstep
      cases hstep
      refine hgo _ hinv ?_ ?_
      · split <;> rfl
      · split <;> rfl
    | flushLook =>
      rw [hp] at hstep
      cases hstep
      exact hgo _ hinv rfl rfl
    | flushBusy used =>
      rw [hp] at hstep
      cases hstep
      have h0 : ¬ (used = 0 ∧ s.busy = false) := fun h0 => hx (if_pos h0)
      refine hgo _ hinv ?_ ?_
      · rw [if_neg h0]
        split <;> rfl
      · rw [if_neg h0]
        split <;> rfl
    | _ => rw [hp] at hflushing; cases hflushing

/-- `flush` queues nothing; after its `true`, everything pushed is through. -/
theorem Returns.flush {ok : Bool} {s s' : UsbStream} (h : Returns .flush ok s s') (hs : Rests s) :
    Rests s' ∧ s'.pushed = s.pushed ∧ s.through <+: s'.through ∧ (ok = true → s'.through = s'.pushed) := by
  have hend : Flushes s s' := h.inv (fun _ _ _ => Waits.writer) (fun _ _ => Flushes.enter) (fun _ _ _ => Flushes.step)
    (.begin hs.inv)
  have hi := h.idle
  refine ⟨⟨hend.inv, by rw [hi]; rfl⟩, hend.pushed, hend.through, ?_⟩
  rintro rfl
  exact hend.flushed (by rw [hi]; rfl)

/-! ## `reset` -/

/-- In a call of `reset`. Once the indices are cleared, nothing is pushed. -/
structure Resets (s : UsbStream) : Prop where
  inv : StreamInv s
  resets : s.producer.resets = true
  cleared : s.producer.cleared = true → s.pushed = []

theorem Resets.enter {s s' : UsbStream} (h : StreamInv s) (hs : s.step .reset = some s') : Resets s' := by
  have hinv := inv_step (a := .reset) h trivial hs
  obtain ⟨_, rfl⟩ := enter_eq hs
  exact ⟨hinv, rfl, fun hc => (by cases hc)⟩

theorem Resets.step {s s' : UsbStream} {a : StreamAct} (h : Resets s) (ha : a.inside = true ∧ s.Isolated a)
    (hs : s.step a = some s') : Resets s' := by
  have hinv := inv_step h.inv ha.2 hs
  have hresets := h.resets
  cases a with
  | push => cases ha.1
  | flush => cases ha.1
  | reset => cases ha.1
  | drained ok =>
    obtain ⟨hp, _⟩ := leaveFlush_eq hs
    rw [hp] at hresets
    cases hresets
  | writer outcome =>
    obtain ⟨hp, hpushed⟩ := writer_frame hs
    exact ⟨hinv, by rw [hp]; exact hresets, fun hc => hpushed.trans (h.cleared (by rw [← hp]; exact hc))⟩
  | producer late =>
    have hstep : s.producerStep late = some s' := hs
    refine ⟨hinv, (reset_moves hresets hstep).1, ?_⟩
    unfold producerStep at hstep
    cases hp : s.producer with
    | idle ok => rw [hp] at hstep; cases hstep
    | resetWait =>
      rw [hp] at hstep
      cases hstep
      by_cases hb : s.busy = true ∧ late = false
      · rw [if_pos hb]
        exact fun hc => (by cases hc)
      · rw [if_neg hb]
        exact fun hc => (by cases hc)
    | resetClear => rw [hp] at hstep; cases hstep; exact fun _ => rfl
    | resetUnfail => rw [hp] at hstep; cases hstep; exact fun _ => h.cleared (by rw [hp]; rfl)
    | resetGive => rw [hp] at hstep; cases hstep; exact fun _ => h.cleared (by rw [hp]; rfl)
    | _ => rw [hp] at hresets; cases hresets

/-- After `reset` nothing of what came before is there. -/
theorem Returns.reset {ok : Bool} {s s' : UsbStream} (h : Returns .reset ok s s') (hs : Rests s) :
    Rests s' ∧ s'.pushed = [] := by
  have hend : Resets s' := h.inv (fun _ _ _ hi ha hstep => inv_step hi ha.2 hstep) (fun _ _ => Resets.enter)
    (fun _ _ _ => Resets.step) hs.inv
  have hi := h.idle
  exact ⟨⟨hend.inv, by rw [hi]; rfl⟩, hend.cleared (by rw [hi]; rfl)⟩

end UsbStream
end PrintServer
