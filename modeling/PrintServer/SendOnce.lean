import PrintServer.Sending
/-!
# When `sendDirect` sends a block once (usb_printer_backend.cpp:652-671)

Neither `push` nor `bulkWriteAll` says how much it has queued when it fails, and each attempt offers
the whole block again. `Whole` says of a step that an attempt does not give up behind a piece of the
block. `sent_once_iff`: after a `true`, the block is there exactly once if and only if no step of the
call was of that kind.
-/
namespace PrintServer

/-! ## One attempt -/

/-- What a step does to the bytes sent, and to what the attempt has still to queue: nothing, moving a
piece from the second to the first, or giving up. -/
inductive Progress (sent : Bytes) (left gives : Option Bytes) (sent' : Bytes) (left' : Option Bytes) : Prop
  | rests (h : left' = left) (hs : sent' = sent) (hg : gives = none)
  | queues (piece rest : Bytes) (h : left = some (piece ++ rest)) (h' : left' = some rest) (hs : sent' = sent ++ piece)
      (hg : gives = none)
  | givesUp (rest : Bytes) (h : left = some rest) (h' : left' = none) (hs : sent' = sent) (hg : gives = some rest)

namespace Producer

/-- In a call of `push`, or behind it. -/
def pushing : Producer → Bool
  | idle _ | pushCheck _ | pushLook _ | pushTimeout | pushCopy .. | pushPublish .. | pushGive => true
  | _ => false

/-- In a call of `reset`, or behind it. -/
def resets : Producer → Bool
  | idle _ | resetWait | resetClear | resetUnfail | resetGive => true
  | _ => false

def isIdle : Producer → Bool
  | idle _ => true
  | _ => false

/-- What is still to be queued, unless `push` has failed. -/
def left : Producer → Option Bytes
  | pushCheck data | pushLook data | pushCopy data _ _ | pushPublish data _ _ => some data
  | pushGive | idle true => some []
  | _ => none

end Producer

namespace UsbStream
variable {s s' : UsbStream}

/-- What `push` leaves unqueued when it fails with this step: `failed_` is set (:97), or the timeout has
passed with the ring full (:106). -/
def givesUp (s : UsbStream) (late : Bool) : Option Bytes :=
  match s.producer with
  | .pushCheck rest => if s.failed then some rest else none
  | .pushLook rest => if s.space = 0 ∧ late = true then some rest else none
  | _ => none

theorem outgoing_eq (h : StreamFifo s) : s.outgoing = s.pushed := h.fifo.symm

theorem push_progress {late : Bool} (h : StreamFifo s) (hp : s.producer.pushing = true)
    (hs : s.producerStep late = some s') : s'.producer.pushing = true ∧
      Progress s.pushed s.producer.left (s.givesUp late) s'.pushed s'.producer.left := by
  have hfit := h.producer
  unfold producerStep at hs
  unfold givesUp
  cases hprod : s.producer with
  | idle ok => rw [hprod] at hs; cases hs
  | flushWait => rw [hprod] at hs; cases hs
  | pushCheck data =>
    rw [hprod] at hs
    cases hs
    by_cases hfail : s.failed = true
    · simp only [if_pos hfail]
      exact ⟨rfl, .givesUp data rfl rfl rfl rfl⟩
    · simp only [if_neg hfail]
      exact ⟨rfl, .rests rfl rfl rfl⟩
  | pushLook data =>
    rw [hprod] at hs
    cases hs
    by_cases hsp : s.space = 0
    · cases late with
      | true =>
        simp only [hsp, and_self, if_true]
        exact ⟨rfl, .givesUp data rfl rfl rfl rfl⟩
      | false =>
        simp only [hsp, if_true]
        exact ⟨rfl, .rests rfl rfl rfl⟩
    · simp only [hsp, false_and, if_false]
      exact ⟨rfl, .rests rfl rfl rfl⟩
  | pushTimeout => rw [hprod] at hs; cases hs; exact ⟨rfl, .rests rfl rfl rfl⟩
  | pushCopy data head n => rw [hprod] at hs; cases hs; exact ⟨rfl, .rests rfl rfl rfl⟩
  | pushPublish data head n =>
    rw [hprod] at hs hfit
    cases hs
    obtain ⟨-, -, -, hle, -⟩ := hfit
    by_cases hlt : n < data.length
    · simp only [if_pos hlt]
      refine ⟨rfl, .queues (data.take n) (data.drop n) ?_ rfl rfl rfl⟩
      rw [List.take_append_drop]
      rfl
    · simp only [if_neg hlt]
      refine ⟨rfl, .queues (data.take n) [] ?_ rfl rfl rfl⟩
      rw [List.take_of_length_le (Nat.le_of_not_lt hlt), List.append_nil]
      rfl
  | pushGive => rw [hprod] at hs; cases hs; exact ⟨rfl, .rests rfl rfl rfl⟩
  | flushCheck => rw [hprod] at hp; cases hp
  | flushLook => rw [hprod] at hp; cases hp
  | flushBusy => rw [hprod] at hp; cases hp
  | resetWait => rw [hprod] at hp; cases hp
  | resetClear => rw [hprod] at hp; cases hp
  | resetUnfail => rw [hprod] at hp; cases hp
  | resetGive => rw [hprod] at hp; cases hp

theorem reset_moves {late : Bool} (hp : s.producer.resets = true) (hs : s.producerStep late = some s') :
    s'.producer.resets = true ∧ s.givesUp late = none := by
  unfold producerStep at hs
  unfold givesUp
  cases hprod : s.producer with
  | idle ok => rw [hprod] at hs; cases hs
  | resetWait =>
    rw [hprod] at hs
    cases hs
    dsimp only
    split <;> exact ⟨rfl, rfl⟩
  | resetClear => rw [hprod] at hs; cases hs; exact ⟨rfl, rfl⟩
  | resetUnfail => rw [hprod] at hs; cases hs; exact ⟨rfl, rfl⟩
  | resetGive => rw [hprod] at hs; cases hs; exact ⟨rfl, rfl⟩
  | _ => rw [hprod] at hp; cases hp

theorem producerStep_look {late : Bool} {data : Bytes} {n : Nat} (h : s.producer = .pushLook data)
    (hsp : ¬ s.space = 0) (hn : min s.space data.length = n) :
    s.producerStep late = some { s with producer := .pushCopy data s.head n } := by
  unfold producerStep
  rw [h]
  simp only [if_neg hsp, hn]

theorem producerStep_copy {late : Bool} {data : Bytes} {head n : Nat} (h : s.producer = .pushCopy data head n) :
    s.producerStep late = some { s.copyIn head (data.take n) with producer := .pushPublish data head n } := by
  unfold producerStep
  rw [h]

theorem producerStep_publish {late : Bool} {data : Bytes} {head n : Nat} (h : s.producer = .pushPublish data head n) :
    s.producerStep late = some { s.publish head (data.take n) with
      producer := if n < data.length then .pushCheck (data.drop n) else .pushGive } := by
  unfold producerStep
  rw [h]

theorem producerStep_give {late : Bool} (h : s.producer = .pushGive) :
    s.producerStep late = some { s with wake := true, producer := .idle true } := by
  unfold producerStep
  rw [h]

theorem publish_go (p : Producer) (head : Nat) (data : Bytes) :
    ({ s with producer := p } : UsbStream).publish head data = { s.publish head data with producer := p } := rfl

/-- The last piece of a block is copied and published. -/
theorem run_copy {data : Bytes} {head : Nat} (h : s.producer = .pushCopy data head data.length) :
    Lib.run step s (List.replicate 3 (.producer false)) =
      some { (s.copyIn head data).publish head data with wake := true, producer := .idle true } := by
  have h1 : s.step (.producer false) =
      some { s.copyIn head data with producer := .pushPublish data head data.length } := by
    have hc : s.producerStep false = _ := producerStep_copy h
    rw [List.take_length] at hc
    exact hc
  have h2 : ({ s.copyIn head data with producer := .pushPublish data head data.length } : UsbStream).step
      (.producer false) = some { (s.copyIn head data).publish head data with producer := .pushGive } := by
    generalize s.copyIn head data = t
    have hc : ({ t with producer := .pushPublish data head data.length } : UsbStream).producerStep false = _ :=
      producerStep_publish rfl
    rw [List.take_length, if_neg (Nat.lt_irrefl _), publish_go] at hc
    exact hc
  have h3 : ({ (s.copyIn head data).publish head data with producer := .pushGive } : UsbStream).step
      (.producer false) = some { (s.copyIn head data).publish head data with wake := true, producer := .idle true } := by
    generalize (s.copyIn head data).publish head data = t
    exact @producerStep_give { t with producer := .pushGive } false rfl
  exact (Lib.run_of_step h1).trans ((Lib.run_of_step h2).trans (Lib.run_of_step h3))

theorem copyIn_go (p : Producer) (head : Nat) (data : Bytes) :
    ({ s with producer := p } : UsbStream).copyIn head data = { s.copyIn head data with producer := p } := rfl

/-- A block that fits is queued in one piece. -/
theorem push_fits {ok : Bool} {data : Bytes} (hp : s.producer = .idle ok) (hfail : s.failed = false)
    (hne : 0 < data.length) (hfit : data.length ≤ s.space) :
    Lib.run step s (.push data :: List.replicate 5 (.producer false)) =
      some { (s.copyIn s.head data).publish s.head data with wake := true, producer := .idle true } := by
  have hempty : data.isEmpty = false := by
    rw [List.isEmpty_eq_false_iff]
    exact List.ne_nil_of_length_pos hne
  have hmin : min s.space data.length = data.length := Nat.min_eq_right hfit
  have hspace : ¬ s.space = 0 := by omega
  have hpush : s.step (.push data) = some { s with producer := .pushCheck data } := by
    simp only [step, enter, hp, hempty, if_false, Bool.false_eq_true]
  have hlook : ({ s with producer := .pushCheck data } : UsbStream).step (.producer false) =
      some { s with producer := .pushLook data } := by
    simp only [step, producerStep, hfail, if_false, Bool.false_eq_true]
  have hcopy : ({ s with producer := .pushLook data } : UsbStream).step (.producer false) =
      some { s with producer := .pushCopy data s.head data.length } := by
    exact @producerStep_look { s with producer := .pushLook data } false data _ rfl hspace hmin
  have hrun := run_copy (s := { s with producer := .pushCopy data s.head data.length }) rfl
  rw [copyIn_go, publish_go] at hrun
  exact (Lib.run_of_step hpush).trans ((Lib.run_of_step hlook).trans ((Lib.run_of_step hcopy).trans hrun))

/-- The writer only moves bytes from the ring to the driver. -/
theorem writer_frame {outcome : Option String} (hs : s.writerStep outcome = some s') :
    s'.producer = s.producer ∧ s'.pushed = s.pushed := by
  unfold writerStep at hs
  cases hw : s.writer with
  | park =>
    rw [hw] at hs
    dsimp only at hs
    split at hs
    · cases hs
      exact ⟨rfl, rfl⟩
    · cases hs
  | _ => rw [hw] at hs; cases hs; exact ⟨rfl, rfl⟩

end UsbStream

namespace BulkCaller

/-- In a call of `bulkWriteAll`, or behind it. -/
def writes : BulkCaller → Bool
  | drainCheck | drainEnsure | drain _ => false
  | wait .drain _ | recover .drain _ | inspect .drain _ | refused .drain _ => false
  | _ => true

end BulkCaller

namespace BulkOut
variable {s s' : BulkOut}

/-- What is still to be submitted, unless `bulkWriteAll` has failed. -/
def left (s : BulkOut) : Option Bytes :=
  if s.outside then (if s.allTrue then some [] else none) else some s.caller.rest

/-- What `bulkWriteAll` leaves unsubmitted when it fails with this step (:725). -/
def givesUp (s : BulkOut) : Option Bytes :=
  match s.caller with
  | .failed rest retries => if 3 < retries + 1 then some rest else none
  | _ => none

/-- The other tasks leave the transfers' data and the caller's place alone. -/
theorem sent_frame {a : BulkAct} (hw : ∀ data, a ≠ .bulkWriteAll data) (hd : a ≠ .waitForBulkOut)
    (hc : ∀ answer, a ≠ .caller answer) (hs : s.step a = some s') :
    s'.caller = s.caller ∧ s'.allTrue = s.allTrue ∧ s'.sent = s.sent := by
  cases a with
  | bulkWriteAll data => exact absurd rfl (hw data)
  | waitForBulkOut => exact absurd rfl hd
  | caller answer => exact absurd rfl (hc answer)
  | callback i status actual =>
    obtain ⟨hcaller, _, _, hall, _, hdata, _⟩ := callback_frame hs
    exact ⟨hcaller, hall, congrArg List.flatten hdata⟩
  | closeDevice => cases hs; exact ⟨rfl, rfl, rfl⟩
  | detached => cases hs; exact ⟨rfl, rfl, rfl⟩
  | opened => cases hs; exact ⟨rfl, rfl, rfl⟩
  | enumerated usable => cases hs; exact ⟨rfl, rfl, rfl⟩
  | resetTaken =>
    simp only [step] at hs
    split at hs
    · cases hs
      exact ⟨rfl, rfl, rfl⟩
    · cases hs
  | recovered =>
    simp only [step] at hs
    split at hs
    · cases hs
      exact ⟨rfl, rfl, rfl⟩
    · cases hs

theorem left_inside (h : s.outside = false) : s.left = some s.caller.rest := by
  unfold left
  rw [h]
  rfl

theorem outside_of {c : BulkCaller} (hp : s.caller = c) : s.outside = (c = .idle || c = .drained) := by
  unfold outside
  rw [hp]

theorem givesUp_of {c : BulkCaller} (hp : s.caller = c) (hne : ∀ rest r, c ≠ .failed rest r) : s.givesUp = none := by
  unfold givesUp
  rw [hp]
  split
  · rename_i rest r
    exact absurd rfl (hne rest r)
  · rfl

/-- No call has failed, as long as one is in progress. -/
theorem allTrue_of {c : BulkCaller} (hall : s.outside = true ∨ s.allTrue = true) (hp : s.caller = c)
    (hc : (c = .idle || c = .drained : Bool) = false) : s.allTrue = true := by
  refine hall.resolve_left ?_
  rw [outside_of hp, hc]
  exact Bool.false_ne_true

/-- The caller moves on in its call, with nothing submitted. -/
theorem write_goes {c c' : BulkCaller} (hall : s.outside = true ∨ s.allTrue = true) (hp : s.caller = c)
    (hp' : s'.caller = c') (hc : (c = .idle || c = .drained : Bool) = false)
    (hc' : (c' = .idle || c' = .drained : Bool) = false) (hw : c'.writes = true) (hr : c'.rest = c.rest)
    (hne : ∀ rest r, c ≠ .failed rest r) (hs : s'.submissions = s.submissions) (ha : s'.allTrue = s.allTrue) :
    s'.caller.writes = true ∧ (s'.outside = true ∨ s'.allTrue = true) ∧
      Progress s.sent s.left s.givesUp s'.sent s'.left := by
  refine ⟨by rw [hp']; exact hw, Or.inr (ha.trans (allTrue_of hall hp hc)), ?_⟩
  refine .rests ?_ (congrArg (fun l => (l.map (·.data)).flatten) hs) (givesUp_of hp hne)
  rw [left_inside ((outside_of hp).trans hc), left_inside ((outside_of hp').trans hc'), hp, hp', hr]

/-- A step of `bulkWriteAll`. -/
theorem write_progress {answer : Bool} (hw : s.caller.writes = true) (hall : s.outside = true ∨ s.allTrue = true)
    (hs : s.callerStep answer = some s') : s'.caller.writes = true ∧ (s'.outside = true ∨ s'.allTrue = true) ∧
      Progress s.sent s.left s.givesUp s'.sent s'.left := by
  have hin : ∀ c, s.caller = c → (c = .idle || c = .drained : Bool) = false → s.allTrue = true :=
    fun c => allTrue_of hall
  unfold callerStep at hs
  cases hp : s.caller with
  | idle => rw [hp] at hs; cases hs
  | drained => rw [hp] at hs; cases hs
  | all data r =>
    rw [hp] at hs
    cases hs
    by_cases hd : (s.deviceOpen && s.usable) = true
    · rw [if_pos hd]
      exact write_goes hall hp rfl rfl rfl rfl rfl (by simp) rfl rfl
    · rw [if_neg hd]
      exact write_goes hall hp rfl rfl rfl rfl rfl (by simp) rfl rfl
  | wedgeCheck data r =>
    rw [hp] at hs
    cases hs
    by_cases hd : s.wedged = true
    · rw [if_pos hd]
      exact write_goes hall hp rfl rfl rfl rfl rfl (by simp) rfl rfl
    · rw [if_neg hd]
      exact write_goes hall hp rfl rfl rfl rfl rfl (by simp) rfl rfl
  | ensure data r =>
    rw [hp] at hs
    dsimp only at hs
    split at hs
    · cases hs
      exact write_goes hall hp rfl rfl rfl rfl rfl (by simp) rfl rfl
    · cases hs
      exact write_goes hall hp rfl rfl rfl rfl rfl (by simp) rfl rfl
  | look data r =>
    rw [hp] at hs
    cases hs
    by_cases hd : (s.slots s.previous).inFlight = true
    · rw [if_pos hd]
      exact write_goes hall hp rfl rfl rfl rfl rfl (by simp) rfl rfl
    · rw [if_neg hd]
      exact write_goes hall hp rfl rfl rfl rfl rfl (by simp) rfl rfl
  | wait job i =>
    rw [hp] at hs hw
    cases job with
    | drain => cases hw
    | write data r =>
      dsimp only at hs
      split at hs
      · cases hs
        exact write_goes hall hp rfl rfl rfl rfl rfl (by simp) rfl rfl
      · split at hs
        · cases hs
          exact write_goes hall hp rfl rfl rfl rfl rfl (by simp) rfl rfl
        · cases hs
  | recover job i =>
    rw [hp] at hs hw
    cases job with
    | drain => cases hw
    | write data r =>
      dsimp only at hs
      split at hs
      · cases hs
        exact write_goes hall hp rfl rfl rfl rfl rfl (by simp) rfl rfl
      · split at hs
        · cases hs
          exact write_goes hall hp rfl rfl rfl rfl rfl (by simp) rfl rfl
        · cases hs
  | inspect job i =>
    rw [hp] at hs hw
    cases job with
    | drain => cases hw
    | write data r =>
      dsimp only at hs
      split at hs
      · cases hs
        exact write_goes hall hp rfl rfl rfl rfl rfl (by simp) rfl rfl
      · cases hs
        exact write_goes hall hp rfl rfl rfl rfl rfl (by simp) rfl rfl
  | refused job i =>
    rw [hp] at hs hw
    cases job with
    | drain => cases hw
    | write data r =>
      cases hs
      exact write_goes hall hp rfl rfl rfl rfl rfl (by simp) rfl rfl
  | reread data r =>
    rw [hp] at hs
    cases hs
    by_cases hd : s.wedged = true
    · rw [if_pos hd]
      exact write_goes hall hp rfl rfl rfl rfl rfl (by simp) rfl rfl
    · rw [if_neg hd]
      exact write_goes hall hp rfl rfl rfl rfl rfl (by simp) rfl rfl
  | prepare data r =>
    rw [hp] at hs
    cases hs
    exact write_goes hall hp rfl rfl rfl rfl rfl (by simp) rfl rfl
  | fill data r =>
    rw [hp] at hs
    dsimp only at hs
    split at hs
    · cases hs
      exact write_goes hall hp rfl rfl rfl rfl rfl (by simp) rfl rfl
    · cases hs
  | submit data r =>
    rw [hp] at hs
    dsimp only at hs
    split at hs
    · cases hs
      refine ⟨rfl, Or.inr (hin _ hp rfl), .queues (part data) (data.drop (part data).length) ?_ ?_ ?_
        (givesUp_of hp (by simp))⟩
      · rw [left_inside ((outside_of hp).trans rfl), hp, part_append_drop]
        rfl
      · exact left_inside rfl
      · show ((s.submissions ++ [({ data := part data } : Submission)]).map (·.data)).flatten = _
        rw [List.map_append, List.flatten_append]
        exact congrArg (s.sent ++ ·) (List.append_nil _)
    · cases hs
      exact write_goes hall hp rfl rfl rfl rfl rfl (by simp) rfl rfl
  | flag data r =>
    rw [hp] at hs
    cases hs
    exact write_goes hall hp rfl rfl rfl rfl rfl (by simp) rfl rfl
  | advance data r =>
    rw [hp] at hs
    cases hs
    have ha := hin _ hp rfl
    refine ⟨?_, Or.inr ha, .rests ?_ rfl (givesUp_of hp (by simp))⟩
    · show (proceed _).writes = true
      unfold proceed
      split <;> rfl
    · rw [left_inside ((outside_of hp).trans rfl), hp]
      show (if (proceed (data.drop (part data).length) = .idle || proceed (data.drop (part data).length) = .drained : Bool)
        then (if s.allTrue then some [] else none) else some (proceed (data.drop (part data).length)).rest) = _
      rw [ha, rest_proceed]
      unfold proceed
      cases hrest : data.drop (part data).length with
      | nil => exact congrArg some hrest.symm
      | cons b rest => exact congrArg some hrest.symm
  | failed data r =>
    rw [hp] at hs
    cases hs
    by_cases hr : 3 < r + 1
    · rw [if_pos hr]
      refine ⟨rfl, Or.inl rfl, .givesUp data ?_ rfl rfl ?_⟩
      · rw [left_inside ((outside_of hp).trans rfl), hp]
        rfl
      · unfold givesUp
        rw [hp]
        exact if_pos hr
    · rw [if_neg hr]
      refine ⟨rfl, Or.inr (hin _ hp rfl), .rests ?_ rfl ?_⟩
      · rw [left_inside ((outside_of hp).trans rfl), left_inside rfl, hp]
        rfl
      · unfold givesUp
        rw [hp]
        exact if_neg hr
  | drainCheck => rw [hp] at hw; cases hw
  | drainEnsure => rw [hp] at hw; cases hw
  | drain i => rw [hp] at hw; cases hw

end BulkOut

/-! ## The attempts of one call -/

namespace Sending

/-- What the attempt in progress has still to queue. -/
def left (s : Sending) : Option Bytes :=
  match s.phase with
  | .waiting _ => if s.ready then s.stream.producer.left else s.bulk.left
  | .returned true => some []
  | _ => none

/-- What an attempt that gives up with this step has not queued. -/
def givesUp (s : Sending) : SendAct → Option Bytes
  | .stream (.producer late) => s.stream.givesUp late
  | .bulk (.caller _) => s.bulk.givesUp
  | _ => none

/-- An attempt that gives up has queued nothing. -/
def Whole (s : Sending) (a : SendAct) : Prop := ∀ rest ∈ s.givesUp a, rest = s.data

instance (s : Sending) (a : SendAct) : Decidable (s.Whole a) :=
  match h : s.givesUp a with
  | none => isTrue fun rest hr => by
    rw [h] at hr
    cases hr
  | some rest => decidable_of_iff (rest = s.data)
      ⟨fun he rest' hr => by
        rw [h] at hr
        cases hr
        exact he, fun hw => hw rest h⟩

/-- `reset` does not clear the ring under `copyOut`. -/
def Settled (s : Sending) (a : SendAct) : Prop :=
  ∀ late, a = .stream (.producer late) → s.stream.producer = .resetClear → s.stream.settled = true

instance (s : Sending) (a : SendAct) : Decidable (s.Settled a) :=
  inferInstanceAs (Decidable (∀ late, a = .stream (.producer late) → s.stream.producer = .resetClear → s.stream.settled = true))

/-- `sendDirect` is called: the ring is in order, and no other call is in progress. -/
structure Called (s : Sending) : Prop where
  phase : s.phase = .enter
  fifo : s.stream.StreamFifo
  idle : s.stream.producer.isIdle = true
  outside : s.ready = false → s.bulk.outside = true

/-- Where the two sides stand. -/
def Place (s : Sending) : Prop :=
  match s.phase with
  | .resetting => s.stream.producer.resets = true ∧ (s.ready = false → s.bulk.outside = true)
  | .waiting _ =>
    (s.ready = true ∧ s.stream.producer.pushing = true) ∨
    (s.ready = false ∧ s.stream.producer.isIdle = true ∧ s.bulk.caller.writes = true ∧
      (s.bulk.outside = true ∨ s.bulk.allTrue = true))
  | _ => s.stream.producer.isIdle = true ∧ (s.ready = false → s.bulk.outside = true)

/-- Behind `base` come `dup`, the pieces that failed attempts have left, and what the current one has
queued. `w` says that there are no such pieces. -/
def Behind (s : Sending) (w : Prop) : Prop :=
  ∃ dup queued, s.outgoing = s.base ++ dup ++ queued ∧ (dup = [] ↔ w) ∧
    s.left.elim (queued = []) fun rest => queued ++ rest = s.data

def Record (s : Sending) (w : Prop) : Prop :=
  match s.phase with
  | .enter | .resetting => w
  | .returned false => True
  | _ => s.Behind w

structure SendInv (s : Sending) (w : Prop) : Prop where
  fifo : s.stream.StreamFifo
  place : s.Place
  record : s.Record w

variable {s s' : Sending} {a : SendAct} {w : Prop}

theorem whole_of_none (h : s.givesUp a = none) : s.Whole a := by
  intro rest hr
  rw [h] at hr
  cases hr

theorem and_whole (h : s.givesUp a = none) : w ∧ s.Whole a ↔ w := and_iff_left (whole_of_none h)

theorem Behind.congr (h : s.Behind w) (ho : s'.outgoing = s.outgoing) (hl : s'.left = s.left) (hb : s'.base = s.base)
    (hd : s'.data = s.data) {w' : Prop} (hw : w' ↔ w) : s'.Behind w' := by
  obtain ⟨dup, queued, h1, h2, h3⟩ := h
  refine ⟨dup, queued, ?_, h2.trans hw.symm, ?_⟩
  · rw [ho, hb, h1]
  · rw [hl, hd]
    exact h3

theorem Behind.goes {phase : SendPhase} {answers : List Bool} (h : s.Behind w)
    (hl : ({ s with answers, phase } : Sending).left = s.left) : ({ s with answers, phase } : Sending).Behind w := by
  refine h.congr ?_ hl ?_ ?_ Iff.rfl
  · rfl
  · rfl
  · rfl

/-- A step inside an attempt. What a failed attempt has queued joins `dup`. -/
theorem Behind.progress (h : s.Behind w) (hp : Progress s.outgoing s.left (s.givesUp a) s'.outgoing s'.left)
    (hb : s'.base = s.base) (hd : s'.data = s.data) : s'.Behind (w ∧ s.Whole a) := by
  cases hp with
  | rests hl hs hg => exact h.congr hs hl hb hd (and_whole hg)
  | queues piece rest hl hl' hs hg =>
    obtain ⟨dup, queued, h1, h2, h3⟩ := h
    rw [hl] at h3
    refine ⟨dup, queued ++ piece, ?_, h2.trans (and_whole hg).symm, ?_⟩
    · rw [hs, hb, h1, List.append_assoc]
    · rw [hl', hd]
      exact (List.append_assoc ..).trans h3
  | givesUp rest hl hl' hs hg =>
    obtain ⟨dup, queued, h1, h2, h3⟩ := h
    rw [hl] at h3
    have h3 : queued ++ rest = s.data := h3
    refine ⟨dup ++ queued, [], ?_, ?_, ?_⟩
    · rw [hs, hb, h1, List.append_nil, List.append_assoc]
    · have hwhole : s.Whole a ↔ queued = [] := by
        unfold Whole
        rw [hg]
        constructor
        · intro hw
          have he := hw rest rfl
          rw [he] at h3
          simpa using h3
        · rintro rfl _ ⟨⟩
          exact h3
      rw [List.append_eq_nil_iff, h2, hwhole]
    · rw [hl']
      rfl

/-- Nothing that the record is about changes. -/
theorem Record.congr (h : s.Record w) (hp : s'.phase = s.phase) (ho : s'.outgoing = s.outgoing)
    (hl : s'.left = s.left) (hb : s'.base = s.base) (hd : s'.data = s.data) (hg : s.givesUp a = none) :
    s'.Record (w ∧ s.Whole a) := by
  unfold Record at h ⊢
  rw [hp]
  have hw : w ∧ s.Whole a ↔ w := and_whole hg
  split at h
  · exact hw.2 h
  · exact hw.2 h
  · exact h
  · exact h.congr ho hl hb hd hw

theorem idle_stuck {late : Bool} (h : s.stream.producer.isIdle = true) : s.stream.producerStep late = none := by
  unfold UsbStream.producerStep
  cases hp : s.stream.producer with
  | idle ok => rfl
  | flushWait => rfl
  | _ => rw [hp] at h; cases h

/-- A step of the call of `push` or `reset`. -/
theorem inv_producer {late : Bool} {stream : UsbStream} (h : SendInv s w)
    (hset : s.Settled (.stream (.producer late))) (hs : s.stream.producerStep late = some stream) :
    SendInv { s with stream } (w ∧ s.Whole (.stream (.producer late))) := by
  have hf := UsbStream.fifo_producerStep h.fifo (fun hp => UsbStream.inCopyOut_of_settled (hset late rfl hp)) hs
  have hplace := h.place
  have hrec := h.record
  have hstuck : s.stream.producer.isIdle = true → False := by
    intro hi
    rw [idle_stuck hi] at hs
    cases hs
  unfold Place at hplace
  unfold Record at hrec
  cases hp : s.phase with
  | resetting =>
    rw [hp] at hplace hrec
    obtain ⟨hr, hg⟩ := UsbStream.reset_moves hplace.1 hs
    refine ⟨hf, ?_, ?_⟩
    · unfold Place
      dsimp only
      exact ⟨hr, hplace.2⟩
    · unfold Record
      dsimp only
      exact ⟨hrec, whole_of_none hg⟩
  | waiting r =>
    rw [hp] at hplace hrec
    rcases hplace with ⟨hready, hpush⟩ | ⟨_, hi, _⟩
    · obtain ⟨hpush', hprog⟩ := UsbStream.push_progress h.fifo hpush hs
      rw [← UsbStream.outgoing_eq h.fifo, ← UsbStream.outgoing_eq hf] at hprog
      refine ⟨hf, ?_, ?_⟩
      · unfold Place
        dsimp only
        exact Or.inl ⟨hready, hpush'⟩
      · unfold Record
        dsimp only
        refine Behind.progress hrec ?_ rfl rfl
        simpa only [outgoing, left, givesUp, hp, hready, if_true] using hprog
    · exact (hstuck hi).elim
  | enter => rw [hp] at hplace; exact (hstuck hplace.1).elim
  | offer r => rw [hp] at hplace; exact (hstuck hplace.1).elim
  | delay r => rw [hp] at hplace; exact (hstuck hplace.1).elim
  | returned ok => rw [hp] at hplace; exact (hstuck hplace.1).elim

/-- A step of the writer task. -/
theorem inv_writer {outcome : Option String} {stream : UsbStream} (h : SendInv s w)
    (hs : s.stream.writerStep outcome = some stream) :
    SendInv { s with stream } (w ∧ s.Whole (.stream (.writer outcome))) := by
  have hf := UsbStream.fifo_writerStep h.fifo hs
  obtain ⟨hprod, hpushed⟩ := UsbStream.writer_frame hs
  have ho : stream.outgoing = s.stream.outgoing := by
    rw [UsbStream.outgoing_eq hf, UsbStream.outgoing_eq h.fifo, hpushed]
  refine ⟨hf, ?_, h.record.congr rfl ?_ ?_ rfl rfl rfl⟩
  · have hplace := h.place
    unfold Place at hplace ⊢
    dsimp only
    rw [hprod]
    exact hplace
  · unfold outgoing
    dsimp only
    rw [ho]
  · unfold left
    dsimp only
    rw [hprod]

/-- A step of the call of `bulkWriteAll`, when there is no writer task. -/
theorem inv_caller {answer : Bool} {bulk : BulkOut} (h : SendInv s w) (hready : s.ready = false)
    (hs : s.bulk.callerStep answer = some bulk) : SendInv { s with bulk } (w ∧ s.Whole (.bulk (.caller answer))) := by
  have hplace := h.place
  have hstuck : s.bulk.outside = true → False := by
    intro ho
    unfold BulkOut.outside at ho
    simp only [Bool.or_eq_true, decide_eq_true_eq] at ho
    unfold BulkOut.callerStep at hs
    rcases ho with ho | ho <;> rw [ho] at hs <;> cases hs
  unfold Place at hplace
  cases hp : s.phase with
  | waiting r =>
    rw [hp] at hplace
    rcases hplace with ⟨hr, _⟩ | ⟨_, hi, hw, hall⟩
    · rw [hready] at hr
      cases hr
    · have hrec := h.record
      unfold Record at hrec
      rw [hp] at hrec
      obtain ⟨hw', hall', hprog⟩ := BulkOut.write_progress hw hall hs
      refine ⟨h.fifo, ?_, ?_⟩
      · unfold Place
        exact Or.inr ⟨hready, hi, hw', hall'⟩
      · unfold Record
        refine Behind.progress hrec ?_ rfl rfl
        simpa only [outgoing, left, givesUp, hp, hready, if_false, Bool.false_eq_true] using hprog
  | _ => rw [hp] at hplace; exact (hstuck (hplace.2 hready)).elim

/-- A step of the driver or the client task. -/
theorem inv_bulk {b : BulkAct} {bulk : BulkOut} (h : SendInv s w) (hw : ∀ data, b ≠ .bulkWriteAll data)
    (hd : b ≠ .waitForBulkOut) (hc : ∀ answer, b ≠ .caller answer) (hs : s.bulk.step b = some bulk) :
    SendInv { s with bulk } (w ∧ s.Whole (.bulk b)) := by
  obtain ⟨hcaller, hall, hsent⟩ := BulkOut.sent_frame hw hd hc hs
  have hout : bulk.outside = s.bulk.outside := by
    unfold BulkOut.outside
    rw [hcaller]
  have hgives : s.givesUp (.bulk b) = none := by
    cases b with
    | caller answer => exact absurd rfl (hc answer)
    | _ => rfl
  have hplace := h.place
  refine ⟨h.fifo, ?_, h.record.congr rfl ?_ ?_ rfl rfl hgives⟩
  · unfold Place at hplace ⊢
    dsimp only
    rw [hout, hcaller, hall]
    exact hplace
  · unfold outgoing
    dsimp only
    rw [hsent]
  · unfold left BulkOut.left
    dsimp only
    rw [hout, hall, hcaller]

theorem isIdle_of {ok : Bool} (h : s.stream.producer = .idle ok) : s.stream.producer.isIdle = true := by
  rw [h]
  rfl

/-- The first attempt: `base` is what is there, and nothing has been queued behind it. -/
theorem Behind.first (hw : w) (ho : s.outgoing = s.base) (hl : s.left = none) : s.Behind w := by
  refine ⟨[], [], ?_, ⟨fun _ => hw, fun _ => rfl⟩, ?_⟩
  · rw [ho, List.append_nil, List.append_nil]
  · rw [hl]
    rfl

/-- The next attempt has the whole block to queue. -/
theorem Behind.again (h : s.Behind w) (hl : s.left = none) (ho : s'.outgoing = s.outgoing) (hb : s'.base = s.base)
    (hd : s'.data = s.data) (hl' : s'.left = some s.data) : s'.Behind w := by
  obtain ⟨dup, queued, h1, h2, h3⟩ := h
  rw [hl] at h3
  have h3 : queued = [] := h3
  refine ⟨dup, [], ?_, h2, ?_⟩
  · rw [ho, hb, h1, h3]
  · rw [hl', hd]
    rfl

/-- `push` is called. -/
theorem inv_push {retry : Nat} {stream : UsbStream} (h : SendInv s w) (hp : s.phase = .offer retry)
    (hready : s.ready = true) (hs : s.stream.step (.push s.data) = some stream) :
    SendInv { s with stream, phase := .waiting retry } w := by
  have hrec := h.record
  unfold Record at hrec
  rw [hp] at hrec
  have hf := UsbStream.fifo_step h.fifo (by simp) hs
  obtain ⟨_, rfl⟩ := UsbStream.enter_eq hs
  refine ⟨hf, Or.inl ⟨hready, ?_⟩, Behind.again hrec ?_ ?_ rfl rfl ?_⟩
  · dsimp only
    split <;> rfl
  · unfold left
    rw [hp]
  · simp only [outgoing, hready, if_true]
    rfl
  · simp only [left, hready, if_true]
    cases s.data with
    | nil => rfl
    | cons b rest => rfl

/-- `bulkWriteAll` is called. -/
theorem inv_bulkWriteAll {retry : Nat} {bulk : BulkOut} (h : SendInv s w) (hp : s.phase = .offer retry)
    (hready : s.ready = false) (hs : ({ s.bulk with allTrue := true }).step (.bulkWriteAll s.data) = some bulk) :
    SendInv { s with bulk, phase := .waiting retry } w := by
  have hrec := h.record
  have hplace := h.place
  unfold Record at hrec
  unfold Place at hplace
  rw [hp] at hrec hplace
  simp only [BulkOut.step] at hs
  split at hs
  · cases hs
    refine ⟨h.fifo, Or.inr ⟨hready, hplace.1, ?_, Or.inr rfl⟩, Behind.again hrec ?_ ?_ rfl rfl ?_⟩
    · dsimp only
      unfold BulkOut.proceed
      split <;> rfl
    · unfold left
      rw [hp]
    · simp only [outgoing, hready, if_false, Bool.false_eq_true]
      rfl
    · simp only [left, hready, if_false, Bool.false_eq_true]
      cases s.data with
      | nil => rfl
      | cons b rest => rfl
  · cases hs

/-- A call that has returned true has queued all, and one that has returned false has nothing to queue. -/
theorem answer_left {retry : Nat} {ok : Bool} (hp : s.phase = .waiting retry)
    (hplace : s.ready = true ∧ s.stream.producer.pushing = true ∨ s.ready = false ∧ s.stream.producer.isIdle = true ∧
      s.bulk.caller.writes = true ∧ (s.bulk.outside = true ∨ s.bulk.allTrue = true))
    (hs : s.answer = some ok) :
    (s.stream.producer.isIdle = true ∧ (s.ready = false → s.bulk.outside = true)) ∧
      s.left = if ok then some [] else none := by
  unfold answer at hs
  rcases hplace with ⟨hready, _⟩ | ⟨hready, hidle, _⟩
  · rw [if_pos hready] at hs
    split at hs
    · rename_i ok' hprod
      cases hs
      refine ⟨⟨isIdle_of hprod, fun hr => by rw [hready] at hr; cases hr⟩, ?_⟩
      simp only [left, hp, hready, if_true, hprod]
      cases ok with
      | true => rfl
      | false => rfl
    · cases hs
  · rw [hready] at hs
    simp only [if_false, Bool.false_eq_true] at hs
    split at hs
    · rename_i hout
      cases hs
      refine ⟨⟨hidle, fun _ => hout⟩, ?_⟩
      simp only [left, hp, hready, if_false, Bool.false_eq_true, BulkOut.left, hout, if_true]
    · cases hs

/-- The call below returns. -/
theorem inv_answer {retry : Nat} {ok : Bool} (h : SendInv s w) (hp : s.phase = .waiting retry)
    (hs : s.answer = some ok) :
    SendInv { s with answers := s.answers ++ [ok], phase := if ok then .returned true else .delay retry } w := by
  have hrec := h.record
  have hplace := h.place
  unfold Record at hrec
  unfold Place at hplace
  rw [hp] at hrec hplace
  have hbehind : s.Behind w := hrec
  obtain ⟨hidle, hleft⟩ := answer_left hp hplace hs
  refine ⟨h.fifo, ?_, ?_⟩
  · cases ok with
    | true => exact hidle
    | false => exact hidle
  · cases ok with
    | true => exact hbehind.goes hleft.symm
    | false => exact hbehind.goes hleft.symm

/-- A step of `sendDirect` itself. -/
theorem inv_loop (h : SendInv s w) (hs : s.loopStep = some s') : SendInv s' w := by
  have hplace := h.place
  have hrec := h.record
  unfold Place at hplace
  unfold Record at hrec
  unfold loopStep at hs
  cases hp : s.phase with
  | enter =>
    rw [hp] at hplace hrec hs
    dsimp only at hs
    split at hs
    · cases hs
      exact ⟨h.fifo, hplace, trivial⟩
    · split at hs
      · obtain ⟨stream, hstep, rfl⟩ := Option.map_eq_some_iff.1 hs
        have hf := UsbStream.fifo_step h.fifo (by simp) hstep
        obtain ⟨_, rfl⟩ := UsbStream.enter_eq hstep
        exact ⟨hf, ⟨rfl, hplace.2⟩, hrec⟩
      · cases hs
        exact ⟨h.fifo, hplace, Behind.first hrec rfl rfl⟩
  | resetting =>
    rw [hp] at hplace hrec hs
    dsimp only at hs
    split at hs
    · rename_i ok hidle
      cases hs
      exact ⟨h.fifo, ⟨isIdle_of hidle, hplace.2⟩, Behind.first hrec rfl rfl⟩
    · cases hs
  | offer r =>
    rw [hp] at hplace hrec hs
    dsimp only at hs
    split at hs
    · cases hs
      exact ⟨h.fifo, hplace, trivial⟩
    · split at hs
      · rename_i hready
        obtain ⟨stream, hstep, rfl⟩ := Option.map_eq_some_iff.1 hs
        exact inv_push h hp hready hstep
      · rename_i hready
        obtain ⟨bulk, hstep, rfl⟩ := Option.map_eq_some_iff.1 hs
        exact inv_bulkWriteAll h hp (Bool.eq_false_iff.2 hready) hstep
  | waiting r =>
    rw [hp] at hs
    obtain ⟨ok, hok, rfl⟩ := Option.map_eq_some_iff.1 hs
    exact inv_answer h hp hok
  | delay r =>
    rw [hp] at hplace hrec hs
    cases hs
    have hbehind : s.Behind w := hrec
    refine ⟨h.fifo, hplace, hbehind.goes ?_⟩
    unfold left
    rw [hp]
  | returned ok =>
    rw [hp] at hs
    cases hs

/-! ## Steps and runs -/

theorem SendInv.iff {w' : Prop} (h : SendInv s w) (hw : w ↔ w') : SendInv s w' := propext hw ▸ h

theorem inv_step (h : SendInv s w) (hset : s.Settled a) (hs : s.step a = some s') : SendInv s' (w ∧ s.Whole a) := by
  cases a with
  | loop => exact (inv_loop h hs).iff (and_whole rfl).symm
  | stream b =>
    cases b with
    | producer late =>
      obtain ⟨stream, hstep, rfl⟩ := Option.map_eq_some_iff.1 hs
      exact inv_producer h hset hstep
    | writer outcome =>
      simp only [step] at hs
      split at hs
      · obtain ⟨stream, hstep, rfl⟩ := Option.map_eq_some_iff.1 hs
        exact inv_writer h hstep
      · cases hs
    | push data => cases hs
    | flush => cases hs
    | reset => cases hs
    | drained ok => cases hs
  | bulk b =>
    cases b with
    | bulkWriteAll data => cases hs
    | waitForBulkOut => cases hs
    | caller answer =>
      simp only [step] at hs
      split at hs
      · cases hs
      · rename_i hready
        obtain ⟨bulk, hstep, rfl⟩ := Option.map_eq_some_iff.1 hs
        exact inv_caller h (Bool.eq_false_iff.2 hready) hstep
    | _ =>
      simp only [step] at hs
      split at hs
      · cases hs
      · obtain ⟨bulk, hstep, rfl⟩ := Option.map_eq_some_iff.1 hs
        exact inv_bulk h (by simp) (by simp) (by simp) hstep

theorem inv_run {acts : List SendAct} (h : SendInv s w) (hset : Lib.Meets step Settled s acts)
    (hr : Lib.run step s acts = some s') : SendInv s' (w ∧ Lib.Meets step Whole s acts) := by
  induction acts generalizing s w with
  | nil => cases hr; exact h.iff (and_iff_left trivial).symm
  | cons a acts ih =>
    obtain ⟨m, hm, hr⟩ := Lib.run_cons hr
    refine (ih (inv_step h hset.1 hm) (hset.2 m hm) hr).iff ?_
    rw [Lib.meets_cons hm, and_assoc]

theorem loopStep_data (hs : s.loopStep = some s') : s'.data = s.data := by
  unfold loopStep at hs
  cases hp : s.phase with
  | enter =>
    rw [hp] at hs
    dsimp only at hs
    split at hs
    · cases hs
      rfl
    · split at hs
      · obtain ⟨stream, _, rfl⟩ := Option.map_eq_some_iff.1 hs
        rfl
      · cases hs
        rfl
  | resetting =>
    rw [hp] at hs
    dsimp only at hs
    split at hs
    · cases hs
      rfl
    · cases hs
  | offer r =>
    rw [hp] at hs
    dsimp only at hs
    split at hs
    · cases hs
      rfl
    · split at hs
      · obtain ⟨stream, _, rfl⟩ := Option.map_eq_some_iff.1 hs
        rfl
      · obtain ⟨bulk, _, rfl⟩ := Option.map_eq_some_iff.1 hs
        rfl
  | waiting r =>
    rw [hp] at hs
    obtain ⟨ok, _, rfl⟩ := Option.map_eq_some_iff.1 hs
    rfl
  | delay r => rw [hp] at hs; cases hs; rfl
  | returned ok => rw [hp] at hs; cases hs

/-- The block stays as it was given. -/
theorem step_data (hs : s.step a = some s') : s'.data = s.data := by
  cases a with
  | loop => exact loopStep_data hs
  | stream b =>
    cases b with
    | producer late =>
      obtain ⟨stream, _, rfl⟩ := Option.map_eq_some_iff.1 hs
      rfl
    | writer outcome =>
      simp only [step] at hs
      split at hs
      · obtain ⟨stream, _, rfl⟩ := Option.map_eq_some_iff.1 hs
        rfl
      · cases hs
    | _ => cases hs
  | bulk b =>
    cases b with
    | bulkWriteAll data => cases hs
    | waitForBulkOut => cases hs
    | _ =>
      simp only [step] at hs
      split at hs
      · cases hs
      · obtain ⟨bulk, _, rfl⟩ := Option.map_eq_some_iff.1 hs
        rfl

/-- After a `true` the block is there, behind the pieces of the attempts that failed. -/
theorem sent_behind {acts : List SendAct} (h : Called s) (hset : Lib.Meets step Settled s acts)
    (hr : Lib.run step s acts = some s') (hret : s'.phase = .returned true) :
    ∃ dup, s'.outgoing = s'.base ++ dup ++ s.data ∧ (dup = [] ↔ Lib.Meets step Whole s acts) := by
  have hstep : ∀ t a t', t.data = s.data → step t a = some t' → t'.data = s.data :=
    fun t a t' ht hs => (step_data hs).trans ht
  have hdata : s'.data = s.data := Lib.run_inv' hstep rfl hr
  have hinv : SendInv s True := by
    refine ⟨h.fifo, ?_, ?_⟩
    · unfold Place
      rw [h.phase]
      exact ⟨h.idle, h.outside⟩
    · unfold Record
      rw [h.phase]
      trivial
  have hrec := (inv_run hinv hset hr).record
  unfold Record at hrec
  rw [hret] at hrec
  obtain ⟨dup, queued, h1, h2, h3⟩ := hrec
  have hleft : s'.left = some [] := by
    unfold left
    rw [hret]
  rw [hleft] at h3
  have hq : queued = s.data := by
    rw [← hdata, ← h3]
    exact (List.append_nil _).symm
  exact ⟨dup, by rw [h1, hq], h2.trans (Iff.of_eq (true_and _))⟩

/-- **When `sendDirect` is exactly-once.** After a `true`, the call has added the block once if and only
if no attempt of it gave up behind a piece of the block. -/
theorem sent_once_iff {acts : List SendAct} (h : Called s) (hset : Lib.Meets step Settled s acts)
    (hr : Lib.run step s acts = some s') (hret : s'.phase = .returned true) :
    s'.outgoing = s'.base ++ s.data ↔ Lib.Meets step Whole s acts := by
  obtain ⟨dup, hout, hdup⟩ := sent_behind h hset hr hret
  rw [← hdup, hout, List.append_assoc, List.append_right_inj]
  exact List.append_left_eq_self

/-- A ring of two bytes that is full: the first attempt gives up with nothing queued. The writer then
takes the two bytes, and the second attempt goes through. -/
def fullRing : Sending where
  ready := true
  state := .printing
  data := [3, 4]
  stream := { (UsbStream.begin 2) with
    mem := fun i => if i = 0 then 1 else 2, used := 2, pushed := [1, 2] }

def push (late : List Bool) : List SendAct := List.flatten [[.loop], late.map fun l => .stream (.producer l), [.loop]]

/-- `copyOut` takes a chunk. -/
def takes : List SendAct := List.replicate 5 (.stream (.writer none))

def secondAttempt : List SendAct :=
  List.flatten [[.loop], push [false, true, false], takes, [.loop], push (List.replicate 5 false)]

theorem called_fullRing : Called fullRing where
  phase := rfl
  fifo := by
    constructor <;> first | decide | trivial
  idle := rfl
  outside := fun h => by cases h

theorem sent_once_iff_secondAttempt : ∃ s, Lib.run step fullRing secondAttempt = some s ∧
    s.answers = [false, true] ∧ s.outgoing = s.base ++ [3, 4] := by
  have hrun : (Lib.run step fullRing secondAttempt).map (fun s => (s.answers, s.phase)) =
      some ([false, true], .returned true) := by decide +kernel
  obtain ⟨s, hs, hq⟩ := Option.map_eq_some_iff.1 hrun
  obtain ⟨ha, hp⟩ := Prod.mk.inj hq
  exact ⟨s, hs, ha, (sent_once_iff called_fullRing (by decide +kernel) hs hp).2 (by decide +kernel)⟩

/-- The ring after a block of 65534 zeros. -/
def nearlyFull : UsbStream :=
  { (UsbStream.begin usbStreamBufferSize) with
    head := 65534, used := 65534, wake := true, pushed := List.replicate 65534 0 }

/-- A printing job sends its next three bytes. -/
def nextBlock : Sending := { ready := true, state := .printing, stream := nearlyFull, data := [1, 2, 3] }

/-- The first attempt queues two bytes and times out. -/
def stalls : List SendAct :=
  List.flatten [[.loop], push [false, false, false, false, false, true, false], takes, [.loop],
    push (List.replicate 5 false)]

theorem copyIn_zeros (n : Nat) : (UsbStream.begin usbStreamBufferSize).copyIn 0 (List.replicate n 0) =
    UsbStream.begin usbStreamBufferSize := by
  have hmem : Lib.Ring.writeWrap (fun _ => (0 : UInt8)) usbStreamBufferSize 0 (List.replicate n 0) = fun _ => 0 := by
    funext i
    have hget : ∀ m k : Nat, ((List.replicate m (0 : UInt8))[k]?).getD 0 = 0 := by
      intro m k
      rw [List.getElem?_replicate]
      split <;> rfl
    simp only [Lib.Ring.writeWrap, Lib.Ring.write, List.take_replicate, List.drop_replicate, hget, ite_self]
  unfold UsbStream.copyIn
  exact congrArg (fun mem => { (UsbStream.begin usbStreamBufferSize) with mem }) hmem

theorem slice_zeros (cap pos n : Nat) : Lib.Ring.slice (fun _ => (0 : UInt8)) cap pos n = List.replicate n 0 := by
  unfold Lib.Ring.slice
  rw [List.map_const', List.length_range]

theorem nearlyFull_reached :
    ∃ acts, Lib.run UsbStream.step (UsbStream.begin usbStreamBufferSize) acts = some nearlyFull := by
  have hl : (List.replicate 65534 (0 : UInt8)).length = 65534 := List.length_replicate
  have hpos : 0 < (List.replicate 65534 (0 : UInt8)).length := by
    rw [hl]
    decide
  have hfit : (List.replicate 65534 (0 : UInt8)).length ≤ (UsbStream.begin usbStreamBufferSize).space := by
    rw [hl]
    decide
  have hrun := UsbStream.push_fits (s := UsbStream.begin usbStreamBufferSize) rfl rfl hpos hfit
  rw [show (UsbStream.begin usbStreamBufferSize).head = 0 from rfl, copyIn_zeros] at hrun
  refine ⟨_, hrun.trans (congrArg some ?_)⟩
  simp only [UsbStream.publish, hl]
  rfl

theorem called_nextBlock : Called nextBlock where
  phase := rfl
  fifo := by
    constructor
    · decide
    · decide
    · decide
    · decide
    · decide
    · simp only [nextBlock, nearlyFull, UsbStream.begin, UsbStream.queue, slice_zeros, List.nil_append]
    · trivial
    · trivial
  idle := rfl
  outside := fun h => by cases h

/-- Two bytes of the block are sent twice. -/
theorem sent_twice : (∃ acts, Lib.run UsbStream.step (UsbStream.begin usbStreamBufferSize) acts = some nextBlock.stream) ∧
    Called nextBlock ∧ Lib.Meets step Settled nextBlock stalls ∧
    ∃ s, Lib.run step nextBlock stalls = some s ∧ s.phase = .returned true ∧
      ¬ s.outgoing = s.base ++ nextBlock.data := by
  have hset : Lib.Meets step Settled nextBlock stalls := by decide +kernel
  have hwhole : ¬ Lib.Meets step Whole nextBlock stalls := by decide +kernel
  have hrun : (Lib.run step nextBlock stalls).map (·.phase) = some (.returned true) := by decide +kernel
  obtain ⟨s, hs, hp⟩ := Option.map_eq_some_iff.1 hrun
  refine ⟨nearlyFull_reached, called_nextBlock, hset, s, hs, hp, ?_⟩
  obtain ⟨dup, hout, hdup⟩ := sent_behind called_nextBlock hset hs hp
  rw [hout, List.append_assoc, List.append_right_inj, List.append_left_eq_self, hdup]
  exact hwhole

end Sending
end PrintServer
