import PrintServer.StreamCall
import PrintServer.BulkOutLoss
/-!
# The stream on top of the Bulk OUT pipeline (usb_stream.cpp:155-212, usb_host_manager.cpp:618-751)

`UsbStream` takes what `bulkWriteAll` and `waitForBulkOut` return from outside, and `BulkOut` takes it
for granted that one task is in them at a time. Here the writer task's call and the one at the end of
`flush` are calls of the same pipeline.

| here | there |
| --- | --- |
| `PipeAct.writer`, at `Writer.call` and `Writer.write`  | `host_->bulkWriteAll` in `run` (:173) |
| `PipeAct.producer`, at `Producer.flushWait`            | `host_->waitForBulkOut` in `flush` (:211) |
| `PipeAct.bulk`                                         | a step inside such a call, of the driver or of the client task |

`one_caller`: the two tasks are never in the pipeline at once, so a call never finds another in
progress. It holds in every run in which `reset` does not overtake the writer and no failed transfer is
overlooked.
-/
namespace PrintServer

/-- The call returns true, if it returns now. -/
def BulkCaller.returnsTrue : BulkCaller → Bool
  | advance .. | drain _ => true
  | _ => false

/-- It calls `bulkWriteAll` next. -/
def Writer.calls : Writer → Bool
  | call .. => true
  | _ => false

/-- It has a chunk that `bulkWriteAll` has not returned for. -/
def Writer.carries : Writer → Bool
  | copy .. | commit .. | call .. | write .. => true
  | _ => false

/-- In `waitForBulkOut`. -/
def BulkCaller.drains : BulkCaller → Bool
  | drainCheck | drainEnsure | drain _ | wait .drain _ | recover .drain _ | inspect .drain _ | refused .drain _ => true
  | _ => false

structure Pipe where
  stream : UsbStream
  bulk : BulkOut := {}
  /-- What the pipeline returned last. -/
  result : Bool := true
  /-- The loop task is in `waitForBulkOut`. -/
  draining : Bool := false

inductive PipeAct where
  | push (data : Bytes)
  | flush
  | reset
  | producer (late : Bool)
  /-- `error` is what `bulkWriteAll` leaves when it returns false. -/
  | writer (error : String)
  | bulk (a : BulkAct)

namespace Pipe

/-- The part of the stream in a step. -/
def streamAct (s : Pipe) : PipeAct → Option StreamAct
  | .push data => some (.push data)
  | .flush => some .flush
  | .reset => some .reset
  | .producer late =>
    if s.stream.producer = .flushWait then (if s.draining then some (.drained s.result) else none)
    else some (.producer late)
  | .writer error => some (.writer (if s.stream.writer.writing.isSome && !s.result then some error else none))
  | .bulk _ => none

/-- The part of the pipeline. -/
def bulkAct (s : Pipe) : PipeAct → Option BulkAct
  | .producer _ => if s.stream.producer = .flushWait ∧ s.draining = false then some .waitForBulkOut else none
  | .writer _ => match s.stream.writer with
    | .call data _ => some (.bulkWriteAll data)
    | _ => none
  | .bulk a => some a
  | _ => none

/-- A caller goes on when the call has returned; the calls are made by the two tasks only. -/
def returned (s : Pipe) : PipeAct → Bool
  | .producer _ => !s.draining || s.bulk.outside
  | .writer _ => s.stream.writer.writing.isNone || s.bulk.outside
  | .bulk (.bulkWriteAll _) | .bulk .waitForBulkOut => false
  | _ => true

def resultAfter (s : Pipe) : PipeAct → Bool
  | .writer _ => s.stream.writer.calls || s.result
  | .bulk (.caller _) => s.bulk.caller.returnsTrue
  | _ => s.result

def drainingAfter (s : Pipe) : PipeAct → Bool
  | .producer _ => s.stream.producer = .flushWait && !s.draining
  | _ => s.draining

/-- A step of each part that is in it. -/
def step (s : Pipe) (a : PipeAct) : Option Pipe :=
  if s.returned a then
    match (s.streamAct a).elim (some s.stream) s.stream.step, (s.bulkAct a).elim (some s.bulk) s.bulk.step with
    | some stream, some bulk => some { stream, bulk, result := s.resultAfter a, draining := s.drainingAfter a }
    | _, _ => none
  else none

def begin (capacity : Nat) : Pipe := { stream := .begin capacity }

/-- `reset` does not overtake the writer, and no failure is overlooked. -/
def Orderly (s : Pipe) (a : PipeAct) : Prop :=
  (∀ b ∈ s.streamAct a, s.stream.Isolated b) ∧ ∀ b ∈ s.bulkAct a, s.bulk.Watched b

instance (s : Pipe) (a : PipeAct) : Decidable (s.Orderly a) := inferInstanceAs (Decidable (_ ∧ _))

theorem step_parts {s s' : Pipe} {a : PipeAct} (hs : s.step a = some s') :
    s.returned a = true ∧ (s.streamAct a).elim (some s.stream) s.stream.step = some s'.stream ∧
      (s.bulkAct a).elim (some s.bulk) s.bulk.step = some s'.bulk ∧ s'.result = s.resultAfter a ∧
      s'.draining = s.drainingAfter a := by
  unfold step at hs
  split at hs
  · rename_i hret
    split at hs
    · rename_i stream bulk hstream hbulk
      cases hs
      exact ⟨hret, hstream, hbulk, rfl, rfl⟩
    · cases hs
  · cases hs

/-- The stream takes its part of a step, or stays as it is. -/
theorem stream_cases {s s' : Pipe} {a : PipeAct} (hs : s.step a = some s') :
    s'.stream = s.stream ∨ ∃ b, s.streamAct a = some b ∧ s.stream.step b = some s'.stream := by
  obtain ⟨-, hstream, -⟩ := step_parts hs
  cases hb : s.streamAct a with
  | none =>
    rw [hb] at hstream
    exact .inl (Option.some.inj hstream).symm
  | some b =>
    rw [hb] at hstream
    exact .inr ⟨b, rfl, hstream⟩

/-- So does the pipeline. -/
theorem bulk_cases {s s' : Pipe} {a : PipeAct} (hs : s.step a = some s') :
    s'.bulk = s.bulk ∨ ∃ b, s.bulkAct a = some b ∧ s.bulk.step b = some s'.bulk := by
  obtain ⟨-, -, hbulk, -⟩ := step_parts hs
  cases hb : s.bulkAct a with
  | none =>
    rw [hb] at hbulk
    exact .inl (Option.some.inj hbulk).symm
  | some b =>
    rw [hb] at hbulk
    exact .inr ⟨b, rfl, hbulk⟩

end Pipe

/-! ## The stream at the end of `flush` -/

namespace UsbStream
variable {s s' : UsbStream}

/-- In `waitForBulkOut`, there is nothing for the writer to write. -/
def Parted (s : UsbStream) : Prop := s.producer = .flushWait → s.used = 0 ∧ s.writer.carries = false

theorem parted_writerStep {outcome : Option String} (h : Parted s) (hs : s.writerStep outcome = some s') : Parted s' := by
  have hprod : s'.producer = s.producer := (writer_frame hs).1
  intro hp
  obtain ⟨hu, hc⟩ := h (hprod ▸ hp)
  unfold writerStep at hs
  cases hw : s.writer with
  | copy tail n e => rw [hw] at hc; cases hc
  | commit tail n data e => rw [hw] at hc; cases hc
  | call data e => rw [hw] at hc; cases hc
  | write data e => rw [hw] at hc; cases hc
  | snap =>
    rw [hw] at hs
    cases hs
    dsimp only
    rw [if_pos hu]
    exact ⟨hu, rfl⟩
  | check =>
    rw [hw] at hs
    cases hs
    refine ⟨hu, ?_⟩
    dsimp only
    split
    · rfl
    · rfl
  | park =>
    rw [hw] at hs
    dsimp only at hs
    split at hs
    · cases hs
      exact ⟨hu, rfl⟩
    · cases hs
  | lower e outcome =>
    rw [hw] at hs
    cases hs
    refine ⟨hu, ?_⟩
    cases outcome with
    | none => rfl
    | some error => rfl
  | _ => rw [hw] at hs; cases hs; exact ⟨hu, rfl⟩

theorem parted_step {a : StreamAct} (hinv : StreamInv s) (h : Parted s) (hs : s.step a = some s') : Parted s' := by
  cases a with
  | writer outcome => exact parted_writerStep h hs
  | producer late =>
    intro hp
    obtain ⟨hbusy, hlow, rfl⟩ := exit_cases hs hp
    have hfit := hinv.producer
    rw [hbusy] at hfit
    refine ⟨hfit rfl, ?_⟩
    have hraised : s.writer.raised = false := hinv.busy ▸ hlow
    show s.writer.carries = false
    cases hw : s.writer with
    | copy tail n e => rw [hw] at hraised; cases hraised
    | commit tail n data e => rw [hw] at hraised; cases hraised
    | call data e => rw [hw] at hraised; cases hraised
    | write data e => rw [hw] at hraised; cases hraised
    | _ => rfl
  | push data =>
    obtain ⟨-, rfl⟩ := enter_eq hs
    intro hp
    dsimp only at hp
    split at hp
    · cases hp
    · cases hp
  | flush =>
    obtain ⟨-, rfl⟩ := enter_eq hs
    exact fun hp => (by cases hp)
  | reset =>
    obtain ⟨-, rfl⟩ := enter_eq hs
    exact fun hp => (by cases hp)
  | drained ok =>
    obtain ⟨-, rfl⟩ := leaveFlush_eq hs
    exact fun hp => (by cases hp)

/-- At the end of `flush`, everything pushed was handed to `bulkWriteAll`. -/
theorem handed_of_flushWait (hinv : StreamInv s) (h : Parted s) (hp : s.producer = .flushWait) : s.handed = s.pushed := by
  obtain ⟨hu, hc⟩ := h hp
  have hq : s.queue = [] := Lib.Ring.slice_eq_nil.2 hu
  have hheld : s.writer.held = [] := by
    cases hw : s.writer with
    | call data e => rw [hw] at hc; cases hc
    | _ => rfl
  rw [hinv.fifo, hq, List.append_nil, hinv.toStreamLog.taken, hheld, List.append_nil]

theorem submitted_producerStep {late : Bool} (hs : s.producerStep late = some s') :
    s'.submitted = s.submitted ∨ s'.submitted = [] := by
  unfold producerStep at hs
  cases hp : s.producer with
  | idle ok => rw [hp] at hs; cases hs
  | flushWait => rw [hp] at hs; cases hs
  | resetClear => rw [hp] at hs; cases hs; exact .inr rfl
  | _ => rw [hp] at hs; cases hs; exact .inl rfl

theorem submitted_writerStep {outcome : Option String} (hc : s.writer.calls = false) (hs : s.writerStep outcome = some s') :
    s'.submitted = s.submitted := by
  unfold writerStep at hs
  cases hw : s.writer with
  | call data e => rw [hw] at hc; cases hc
  | park =>
    rw [hw] at hs
    dsimp only at hs
    split at hs
    · cases hs
      rfl
    · cases hs
  | _ => rw [hw] at hs; cases hs; rfl

/-- Only the writer's call adds to what was handed over; clearing the indices starts again. -/
theorem handed_step {a : StreamAct} (hc : a.byWriter = true → s.writer.calls = false) (hs : s.step a = some s') :
    s'.handed = s.handed ∨ s'.handed = [] := by
  have hkeep : s'.submitted = s.submitted ∨ s'.submitted = [] := by
    cases a with
    | push data =>
      obtain ⟨-, rfl⟩ := enter_eq hs
      exact .inl rfl
    | flush =>
      obtain ⟨-, rfl⟩ := enter_eq hs
      exact .inl rfl
    | reset =>
      obtain ⟨-, rfl⟩ := enter_eq hs
      exact .inl rfl
    | drained ok =>
      obtain ⟨-, rfl⟩ := leaveFlush_eq hs
      exact .inl rfl
    | producer late => exact submitted_producerStep hs
    | writer outcome => exact .inl (submitted_writerStep (hc rfl) hs)
  unfold handed
  rcases hkeep with h | h
  · exact .inl (by rw [h])
  · exact .inr (by rw [h]; rfl)

theorem handed_call {data : Bytes} {e : Nat} {outcome : Option String} (hw : s.writer = .call data e)
    (hs : s.writerStep outcome = some s') : s'.handed = s.handed ++ data ∧ s'.writer = .write data e := by
  unfold writerStep at hs
  rw [hw] at hs
  cases hs
  refine ⟨?_, rfl⟩
  show ((s.submitted ++ [(e, data)]).map Prod.snd).flatten = (s.submitted.map Prod.snd).flatten ++ data
  rw [List.map_append, List.flatten_append]
  exact congrArg _ (List.append_nil _)

end UsbStream

/-! ## The return of a call -/

namespace BulkOut
variable {s s' : BulkOut} {answer : Bool}

/-- A call that returns says so. -/
theorem callerStep_returns (hs : s.callerStep answer = some s') (ho : s'.outside = true) :
    s.caller.returnsTrue = true ∨ s'.allTrue = false := by
  have hback := idle_or_drained ho
  unfold callerStep at hs
  cases hp : s.caller with
  | advance data r => exact .inl rfl
  | drain i => exact .inl rfl
  | refused job i =>
    rw [hp] at hs
    cases job with
    | write data r =>
      cases hs
      rcases hback with hback | hback <;> cases hback
    | drain =>
      cases hs
      exact .inr rfl
  | inspect job i =>
    rw [hp] at hs
    dsimp only at hs
    split at hs
    · cases hs
      rcases hback with hback | hback <;> cases hback
    · cases hs
      cases job <;> rcases hback with hback | hback <;> cases hback
  | _ =>
    rw [hp] at hs
    dsimp only at hs
    -- a call gives up, or goes on
    (repeat' split at hs) <;> first
      | cases hs; exact .inr rfl
      | cases hs; rcases hback with hback | hback <;> cases hback
      | cases hs

/-- `waitForBulkOut` returns true at its end only. -/
theorem callerStep_drains (hs : s.callerStep answer = some s') (hd : s.caller.drains = true) :
    s'.caller.drains = true ∨ s'.outside = true ∧ (s.caller.returnsTrue = true → s'.caller = .drained) := by
  unfold callerStep at hs
  cases hp : s.caller with
  | drainCheck =>
    rw [hp] at hs
    cases hs
    split
    · exact .inr ⟨rfl, nofun⟩
    · exact .inl rfl
  | drainEnsure =>
    rw [hp] at hs
    cases hs
    split
    · exact .inr ⟨rfl, nofun⟩
    · exact .inl rfl
  | drain i =>
    rw [hp] at hs
    cases hs
    dsimp only
    split
    · exact .inr ⟨rfl, fun _ => rfl⟩
    · split
      · exact .inl rfl
      · exact .inl rfl
  | wait job i =>
    rw [hp] at hs hd
    cases job with
    | write data r => cases hd
    | drain =>
      dsimp only at hs
      split at hs
      · cases hs
        exact .inl rfl
      · split at hs
        · cases hs
          exact .inl rfl
        · cases hs
  | recover job i =>
    rw [hp] at hs hd
    cases job with
    | write data r => cases hd
    | drain =>
      dsimp only at hs
      split at hs
      · cases hs
        exact .inl rfl
      · split at hs
        · cases hs
          exact .inl rfl
        · cases hs
  | inspect job i =>
    rw [hp] at hs hd
    cases job with
    | write data r => cases hd
    | drain =>
      dsimp only at hs
      split at hs
      · cases hs
        exact .inl rfl
      · cases hs
        exact .inl rfl
  | refused job i =>
    rw [hp] at hs hd
    cases job with
    | write data r => cases hd
    | drain =>
      cases hs
      exact .inr ⟨rfl, nofun⟩
  | _ => rw [hp] at hd; cases hd

theorem callerStep_written (hs : s.callerStep answer = some s') : s.outside = false ∧ s'.written = s.written := by
  unfold callerStep at hs
  cases hp : s.caller with
  | refused job i =>
    rw [hp] at hs
    refine ⟨by rw [outside_of hp]; rfl, ?_⟩
    cases job with
    | write data r => cases hs; rfl
    | drain => cases hs; rfl
  | idle => rw [hp] at hs; cases hs
  | drained => rw [hp] at hs; cases hs
  | _ =>
    rw [hp] at hs
    refine ⟨by rw [outside_of hp]; rfl, ?_⟩
    dsimp only at hs
    (repeat' split at hs) <;> first
      | cases hs; rfl
      | cases hs

theorem outside_of_drains (h : s.caller.drains = true) : s.outside = false := by
  cases hp : s.caller with
  | idle => rw [hp] at h; cases h
  | drained => rw [hp] at h; cases h
  | _ => rw [outside_of hp]; rfl

/-- Only the caller's own steps go on with the call, and only they say that it failed. -/
theorem step_frame {a : BulkAct} (hs : s.step a = some s') (hw : ∀ data, a ≠ .bulkWriteAll data) (hd : a ≠ .waitForBulkOut)
    (hc : ∀ answer, a ≠ .caller answer) : s'.caller = s.caller ∧ s'.allTrue = s.allTrue ∧ s'.written = s.written := by
  cases a with
  | bulkWriteAll data => exact absurd rfl (hw data)
  | waitForBulkOut => exact absurd rfl hd
  | caller answer => exact absurd rfl (hc answer)
  | callback i status actual =>
    have hs : s.callback i status actual = some s' := hs
    unfold callback at hs
    split at hs
    · cases hs
    · cases hs
      exact ⟨rfl, rfl, rfl⟩
  | resetTaken =>
    simp only [step] at hs
    split at hs
    · cases hs
      exact ⟨rfl, rfl, rfl⟩
    · cases hs
  | recovered =>
    simp only [step] at hs
    split at hs
    · cases hs
      exact ⟨rfl, rfl, rfl⟩
    · cases hs
  | closeDevice => cases hs; exact ⟨rfl, rfl, rfl⟩
  | detached => cases hs; exact ⟨rfl, rfl, rfl⟩
  | opened => cases hs; exact ⟨rfl, rfl, rfl⟩
  | enumerated usable => cases hs; exact ⟨rfl, rfl, rfl⟩

end BulkOut
/-! ## What every step keeps -/

open UsbStream (StreamInv Parted)

structure PipeInv (s : Pipe) : Prop where
  stream : StreamInv s.stream
  bulk : s.bulk.LossInv
  parted : Parted s.stream
  draining : s.draining = true → s.stream.producer = .flushWait
  /-- A call in progress is that of one of the two tasks. -/
  call : s.bulk.outside = false → (s.draining = true ∧ s.bulk.caller.drains = true) ∨ s.stream.writer.writing.isSome = true
  refused : s.bulk.outside = true → s.result = false → s.bulk.allTrue = false
  drained : s.draining = true → s.bulk.outside = true → s.result = true → s.bulk.caller = .drained
  /-- What was handed over since the indices were cleared is the last that was written. -/
  written : ∃ earlier, s.bulk.written = earlier ++ s.stream.handed

namespace PipeInv
variable {s : Pipe}

theorem begin {capacity : Nat} (h0 : 0 < capacity) (hc : capacity < 2 ^ 32) : PipeInv (.begin capacity) where
  stream := ⟨.begin h0 hc, UsbStream.log_begin capacity⟩
  bulk := BulkOut.inv_begin
  parted := fun hp => (by cases hp)
  draining := fun hd => (by cases hd)
  call := fun ho => (by cases ho)
  refused := fun _ hr => (by cases hr)
  drained := fun hd => (by cases hd)
  written := ⟨[], rfl⟩

/-- While the loop task is in `waitForBulkOut`, the writer is not in `bulkWriteAll`, or about to be. -/
theorem apart (h : PipeInv s) (hd : s.draining = true) : s.stream.writer.writing = none ∧ s.stream.writer.calls = false := by
  have hc := (h.parted (h.draining hd)).2
  cases hw : s.stream.writer with
  | write data e => rw [hw] at hc; cases hc
  | call data e => rw [hw] at hc; cases hc
  | _ => exact ⟨rfl, rfl⟩

/-- A step of the stream alone. -/
theorem stream_step (h : PipeInv s) {b : StreamAct} {stream : UsbStream} (hi : s.stream.Isolated b)
    (hs : s.stream.step b = some stream) (hcalls : b.byWriter = true → s.stream.writer.calls = false)
    (hdrain : s.draining = true → b.byWriter = true)
    (hback : b.byWriter = true → s.stream.writer.writing.isSome = true → s.bulk.outside = true) :
    PipeInv { s with stream } where
  stream := UsbStream.inv_step h.stream hi hs
  bulk := h.bulk
  parted := UsbStream.parted_step h.stream h.parted hs
  draining hd := by
    have hb := hdrain hd
    cases b with
    | writer outcome => exact (UsbStream.writer_frame hs).1.trans (h.draining hd)
    | _ => cases hb
  call ho := by
    refine (h.call ho).imp_right fun hw => ?_
    cases hb : b.byWriter with
    | true =>
      rw [hback hb hw] at ho
      cases ho
    | false =>
      show stream.writer.writing.isSome = true
      rw [(UsbStream.loop_step hb hs).1]
      exact hw
  refused := h.refused
  drained := h.drained
  written := by
    obtain ⟨earlier, hw⟩ := h.written
    rcases UsbStream.handed_step hcalls hs with hh | hh
    · exact ⟨earlier, hw.trans (congrArg _ hh.symm)⟩
    · exact ⟨s.bulk.written, by rw [hh, List.append_nil]⟩

/-- A call of the loop task. -/
theorem enter_step (h : PipeInv s) {b : StreamAct} {stream : UsbStream} (hi : s.stream.Isolated b)
    (hs : s.stream.step b = some stream) (hb : b.byWriter = false) (hidle : ∃ ok, s.stream.producer = .idle ok) :
    PipeInv { s with stream } := by
  have hno : b.byWriter = true → False := fun hw => (by rw [hb] at hw; cases hw)
  refine h.stream_step hi hs (fun hw => (hno hw).elim) (fun hd => ?_) fun hw => (hno hw).elim
  obtain ⟨ok, hp⟩ := hidle
  rw [h.draining hd] at hp
  cases hp

/-- `waitForBulkOut` has returned. -/
theorem leave (h : PipeInv s) (ho : s.bulk.outside = true) : PipeInv { s with draining := false } where
  stream := h.stream
  bulk := h.bulk
  parted := h.parted
  draining := fun hd => (by cases hd)
  call := fun hin => (by rw [show s.bulk.outside = false from hin] at ho; cases ho)
  refused := h.refused
  drained := fun hd => (by cases hd)
  written := h.written

/-- `flush` calls `waitForBulkOut`. -/
theorem wait (h : PipeInv s) {bulk : BulkOut} (hp : s.stream.producer = .flushWait)
    (hs : s.bulk.step .waitForBulkOut = some bulk) :
    PipeInv { s with bulk, draining := true } := by
  have hbulk := BulkOut.inv_step (a := .waitForBulkOut) h.bulk trivial hs
  simp only [BulkOut.step] at hs
  split at hs
  · cases hs
    exact ⟨h.stream, hbulk, h.parted, fun _ => hp, fun _ => .inl ⟨rfl, rfl⟩, fun ho => (by cases ho), fun _ ho => (by cases ho),
      h.written⟩
  · cases hs

/-- The writer calls `bulkWriteAll`. -/
theorem write (h : PipeInv s) {data : Bytes} {e : Nat} {stream : UsbStream} {bulk : BulkOut} (hw : s.stream.writer = .call data e)
    (hi : s.stream.Isolated (.writer none)) (hs : s.stream.step (.writer none) = some stream)
    (hb : s.bulk.step (.bulkWriteAll data) = some bulk) : PipeInv { s with stream, bulk, result := true } := by
  have hstream := UsbStream.inv_step h.stream hi hs
  have hparted := UsbStream.parted_step h.stream h.parted hs
  have hbulk := BulkOut.inv_step (a := .bulkWriteAll data) h.bulk trivial hb
  have hd : s.draining = true → False := by
    intro hd
    have hcalls := (h.apart hd).2
    rw [hw] at hcalls
    cases hcalls
  obtain ⟨hhanded, hwriter⟩ := UsbStream.handed_call hw hs
  obtain ⟨earlier, hwritten⟩ := h.written
  simp only [BulkOut.step] at hb
  split at hb
  · cases hb
    refine ⟨hstream, hbulk, hparted, fun hd' => (hd hd').elim, fun _ => .inr ?_, fun _ hr => (by cases hr),
      fun hd' => (hd hd').elim, earlier, ?_⟩
    · show stream.writer.writing.isSome = true
      rw [hwriter]
      rfl
    · show s.bulk.written ++ data = earlier ++ stream.handed
      rw [hhanded, hwritten, List.append_assoc]
  · cases hb

/-- A step of the driver, of the client task or inside a call. -/
theorem bulk_step (h : PipeInv s) {b : BulkAct} {bulk : BulkOut} (hw : s.bulk.Watched b) (hs : s.bulk.step b = some bulk)
    (hall : ∀ data, b ≠ .bulkWriteAll data) (hwait : b ≠ .waitForBulkOut) :
    PipeInv { s with bulk, result := s.resultAfter (.bulk b) } := by
  have hbulk := BulkOut.inv_step h.bulk hw hs
  by_cases hc : ∃ answer, b = .caller answer
  · obtain ⟨answer, rfl⟩ := hc
    obtain ⟨hin, hwritten⟩ := BulkOut.callerStep_written hs
    have hnone : s.draining = true → ¬ s.stream.writer.writing.isSome = true := by
      intro hd
      rw [(h.apart hd).1]
      exact Bool.false_ne_true
    have hdrains : s.draining = true → s.bulk.caller.drains = true := fun hd => ((h.call hin).resolve_right (hnone hd)).2
    refine ⟨h.stream, hbulk, h.parted, h.draining, fun ho => ?_, fun ho hr => ?_, fun hd ho hr => ?_, hwritten.symm ▸ h.written⟩
    · rcases h.call hin with ⟨hd, hcall⟩ | hw
      · refine .inl ⟨hd, ?_⟩
        rcases BulkOut.callerStep_drains hs hcall with hgoes | ⟨hout, -⟩
        · exact hgoes
        · rw [show bulk.outside = false from ho] at hout
          cases hout
      · exact .inr hw
    · rcases BulkOut.callerStep_returns hs ho with htrue | hfalse
      · exact absurd (htrue.symm.trans hr) (by decide)
      · exact hfalse
    · rcases BulkOut.callerStep_drains hs (hdrains hd) with hgoes | ⟨-, hend⟩
      · rw [BulkOut.outside_of_drains hgoes] at ho
        cases ho
      · exact hend hr
  · obtain ⟨hcaller, hall, hwritten⟩ := BulkOut.step_frame hs hall hwait fun answer he => hc ⟨answer, he⟩
    have hout : bulk.outside = s.bulk.outside := by
      unfold BulkOut.outside
      rw [hcaller]
    have hresult : s.resultAfter (.bulk b) = s.result := by
      cases b with
      | caller answer => exact absurd ⟨answer, rfl⟩ hc
      | _ => rfl
    rw [hresult]
    exact ⟨h.stream, hbulk, h.parted, h.draining, fun ho => hcaller.symm ▸ h.call (hout ▸ ho),
      fun ho hr => hall.trans (h.refused (hout ▸ ho) hr), fun hd ho hr => hcaller.trans (h.drained hd (hout ▸ ho) hr),
      hwritten.symm ▸ h.written⟩

end PipeInv

namespace Pipe
variable {s s' : Pipe}

/-- What a step of the loop task is, by where it stands. -/
theorem producer_goes (late : Bool) (hp : s.stream.producer ≠ .flushWait) :
    s.streamAct (.producer late) = some (.producer late) ∧ s.bulkAct (.producer late) = none ∧
      s.drainingAfter (.producer late) = false :=
  ⟨if_neg hp, if_neg fun h => hp h.1, by simp [drainingAfter, hp]⟩

theorem producer_waits (late : Bool) (hp : s.stream.producer = .flushWait) (hd : s.draining = false) :
    s.streamAct (.producer late) = none ∧ s.bulkAct (.producer late) = some .waitForBulkOut ∧
      s.drainingAfter (.producer late) = true := by
  refine ⟨?_, if_pos ⟨hp, hd⟩, by simp [drainingAfter, hp, hd]⟩
  rw [streamAct, if_pos hp, hd]
  rfl

theorem producer_leaves (late : Bool) (hp : s.stream.producer = .flushWait) (hd : s.draining = true) :
    s.streamAct (.producer late) = some (.drained s.result) ∧ s.bulkAct (.producer late) = none ∧
      s.drainingAfter (.producer late) = false := by
  refine ⟨?_, if_neg fun h => (by rw [hd] at h; cases h.2), by simp [drainingAfter, hd]⟩
  rw [streamAct, if_pos hp, hd]
  rfl

theorem producer_step (h : PipeInv s) {late : Bool} (ho : s.Orderly (.producer late)) (hs : s.step (.producer late) = some s') :
    PipeInv s' := by
  obtain ⟨hret, hstream, hbulk, hresult, hdraining⟩ := step_parts hs
  obtain ⟨stream, bulk, result, draining⟩ := s'
  dsimp only at hstream hbulk hresult hdraining
  subst hresult hdraining
  obtain ⟨hiso, -⟩ := ho
  by_cases hp : s.stream.producer = .flushWait
  · cases hd : s.draining with
    | true =>
      obtain ⟨hact, hbact, hafter⟩ := producer_leaves late hp hd
      rw [hact] at hstream hiso
      rw [hbact] at hbulk
      rw [hafter]
      cases hbulk
      have hout : s.bulk.outside = true := by simpa [returned, hd] using hret
      exact (h.leave hout).stream_step (hiso _ rfl) hstream (fun hb => (by cases hb)) (fun hd => (by cases hd))
        fun hb => (by cases hb)
    | false =>
      obtain ⟨hact, hbact, hafter⟩ := producer_waits late hp hd
      rw [hact] at hstream
      rw [hbact] at hbulk
      rw [hafter]
      cases hstream
      exact h.wait hp hbulk
  · obtain ⟨hact, hbact, hafter⟩ := producer_goes late hp
    rw [hact] at hstream hiso
    rw [hbact] at hbulk
    rw [hafter]
    cases hbulk
    have hd : s.draining = false := by
      cases hd : s.draining with
      | true => exact absurd (h.draining hd) hp
      | false => rfl
    have hgo := h.stream_step (hiso _ rfl) hstream (fun hb => (by cases hb)) (fun hd' => absurd (h.draining hd') hp)
      fun hb => (by cases hb)
    rwa [hd] at hgo

theorem writer_step (h : PipeInv s) {error : String} (ho : s.Orderly (.writer error)) (hs : s.step (.writer error) = some s') :
    PipeInv s' := by
  obtain ⟨hret, hstream, hbulk, hresult, hdraining⟩ := step_parts hs
  obtain ⟨stream, bulk, result, draining⟩ := s'
  dsimp only at hstream hbulk hresult hdraining
  subst hresult hdraining
  obtain ⟨hiso, -⟩ := ho
  simp only [streamAct, bulkAct, returned, resultAfter, drainingAfter] at hstream hbulk hret hiso ⊢
  cases hw : s.stream.writer with
  | call data e =>
    simp only [hw] at hstream hbulk hiso ⊢
    exact h.write hw (hiso _ rfl) hstream hbulk
  | write data e =>
    simp only [hw] at hbulk hret ⊢
    cases hbulk
    exact h.stream_step (hiso _ rfl) hstream (fun _ => by rw [hw]; rfl) (fun _ => rfl) fun _ _ => hret
  | _ =>
    simp only [hw] at hbulk ⊢
    cases hbulk
    exact h.stream_step (hiso _ rfl) hstream (fun _ => by rw [hw]; rfl) (fun _ => rfl)
      fun _ hin => (by rw [hw] at hin; cases hin)

theorem inv_step {a : PipeAct} (h : PipeInv s) (ho : s.Orderly a) (hs : s.step a = some s') : PipeInv s' := by
  cases a with
  | producer late => exact producer_step h ho hs
  | writer error => exact writer_step h ho hs
  | bulk b =>
    obtain ⟨hret, hstream, hbulk, hresult, hdraining⟩ := step_parts hs
    obtain ⟨stream, bulk, result, draining⟩ := s'
    dsimp only at hstream hbulk hresult hdraining
    subst hresult hdraining
    cases hstream
    refine h.bulk_step (ho.2 _ rfl) hbulk ?_ ?_
    · rintro data rfl
      cases hret
    · rintro rfl
      cases hret
  | _ =>
    obtain ⟨-, hstream, hbulk, hresult, hdraining⟩ := step_parts hs
    obtain ⟨stream, bulk, result, draining⟩ := s'
    dsimp only at hstream hbulk hresult hdraining
    subst hresult hdraining
    cases hbulk
    exact h.enter_step (ho.1 _ rfl) hstream rfl (UsbStream.enter_eq hstream).1

theorem inv_run {capacity : Nat} (h0 : 0 < capacity) (hc : capacity < 2 ^ 32) {acts : List PipeAct}
    (ho : Lib.Meets step Orderly (begin capacity) acts) (hr : Lib.run step (begin capacity) acts = some s) : PipeInv s :=
  Lib.run_inv (fun _ _ _ h ho hs => inv_step h ho hs) (PipeInv.begin h0 hc) ho hr

/-- **One caller.** The two tasks are never in the pipeline at once, and when one of them calls, no call is
in progress. -/
theorem one_caller {capacity : Nat} (h0 : 0 < capacity) (hc : capacity < 2 ^ 32) {acts : List PipeAct}
    (ho : Lib.Meets step Orderly (begin capacity) acts) (hr : Lib.run step (begin capacity) acts = some s) :
    ¬ (s.draining = true ∧ s.stream.writer.writing.isSome = true) ∧
    (s.stream.writer.calls = true ∨ (s.stream.producer = .flushWait ∧ s.draining = false) → s.bulk.outside = true) := by
  have h := inv_run h0 hc ho hr
  constructor
  · rintro ⟨hd, hw⟩
    rw [(h.apart hd).1] at hw
    cases hw
  · intro hcalls
    by_contra hout
    rcases h.call (by simpa using hout) with ⟨hd, -⟩ | hw
    · rcases hcalls with hcalls | ⟨-, hd'⟩
      · rw [(h.apart hd).2] at hcalls
        cases hcalls
      · rw [hd] at hd'
        cases hd'
    · rcases hcalls with hcalls | ⟨hp, -⟩
      · cases hwriter : s.stream.writer with
        | call data e => rw [hwriter] at hw; cases hw
        | _ => rw [hwriter] at hcalls; cases hcalls
      · have hcarries := (h.parted hp).2
        cases hwriter : s.stream.writer with
        | write data e => rw [hwriter] at hcarries; cases hcarries
        | _ => rw [hwriter] at hw; cases hw

/-- A block of two bytes is transferred, and `flush` is about to call `waitForBulkOut`. -/
def aboutToDrain : List PipeAct :=
  List.flatten [[.bulk .opened, .bulk (.enumerated true), .push [65, 66]], List.replicate 5 (.producer false),
    List.replicate 6 (.writer ""), List.replicate 9 (.bulk (.caller true)), [.bulk (.callback 0 .completed 2)],
    List.replicate 2 (.writer ""), .flush :: List.replicate 3 (.producer false)]

theorem one_caller_aboutToDrain : ∃ s, Lib.run step (begin 8) aboutToDrain = some s ∧
    s.bulk.submissions.map (·.result) = [some (.completed, 2)] ∧ s.bulk.outside = true := by
  have hmeets : Lib.Meets step Orderly (begin 8) aboutToDrain := by decide +kernel
  have hrun : (Lib.run step (begin 8) aboutToDrain).map
      (fun s => (s.stream.producer, s.draining, s.bulk.submissions.map (·.result))) =
      some (.flushWait, false, [some (.completed, 2)]) := by decide +kernel
  obtain ⟨s, hs, hshown⟩ := Option.map_eq_some_iff.1 hrun
  obtain ⟨hp, hrest⟩ := Prod.mk.inj hshown
  obtain ⟨hd, hresults⟩ := Prod.mk.inj hrest
  exact ⟨s, hs, hresults, (one_caller (by decide) (by decide) hmeets hs).2 (.inr ⟨hp, hd⟩)⟩

end Pipe

end PrintServer
