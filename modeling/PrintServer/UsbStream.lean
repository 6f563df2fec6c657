import PrintServer.Config
import PrintServer.Lib.Ring
import PrintServer.Lib.Runs
/-!
# The stream between the loop task and the writer task (usb_stream.cpp, usb_stream.h)

Two tasks share the ring. One step is one atomic action: a critical section under `mux_`, one read
or write of `busy_` or `failed_`, a semaphore operation, a `memcpy`, entering or leaving
`bulkWriteAll`. `Producer` and `Writer` say where each task stands.

| here | there |
| --- | --- |
| `Producer.pushCheck` … `pushGive` | the loop of `push` (:94-129) |
| `Producer.flushCheck` … `flushWait` | `flush` (:189-212) |
| `Producer.resetWait` … `resetGive` | `reset` (:214-230) |
| `Writer` | `run` (:155-183), with `copyOut` (:132-153) as `snap`, `copy`, `commit` |

The state ends with a record that is not in the source. It restarts when `reset` clears the
indices; `epoch` counts these, and a chunk carries the epoch it was copied in.
-/
namespace PrintServer

/-- Where the loop task stands. `data` is the part of the block not queued yet. -/
inductive Producer where
  /-- Outside, after a call that returned `ok`. -/
  | idle (ok : Bool)
  | pushCheck (data : Bytes)
  | pushLook (data : Bytes)
  | pushTimeout
  | pushCopy (data : Bytes) (head n : Nat)
  | pushPublish (data : Bytes) (head n : Nat)
  | pushGive
  | flushCheck
  | flushLook
  | flushBusy (used : Nat)
  /-- The loop is left (:202): `waitForBulkOut` comes next. -/
  | flushWait
  | resetWait
  | resetClear
  | resetUnfail
  | resetGive
deriving DecidableEq, Repr

/-- Where the writer task stands. -/
inductive Writer where
  | check
  | park
  | raise
  | snap
  /-- `copyOut` found nothing. -/
  | empty
  | copy (tail n epoch : Nat)
  | commit (tail n : Nat) (data : Bytes) (epoch : Nat)
  | call (data : Bytes) (epoch : Nat)
  | write (data : Bytes) (epoch : Nat)
  /-- After `bulkWriteAll`, with its error. -/
  | lower (epoch : Nat) (outcome : Option String)
  | setError (epoch : Nat) (error : String)
  | publish (epoch : Nat)
deriving DecidableEq, Repr

structure UsbStream where
  capacity : Nat := usbStreamBufferSize
  mem : Nat → UInt8 := fun _ => 0
  head : Nat := 0
  tail : Nat := 0
  used : Nat := 0
  busy : Bool := false
  failed : Bool := false
  error : String := ""
  wake : Bool := false
  producer : Producer := .idle true
  writer : Writer := .check
  epoch : Nat := 0
  /-- Published by `push`, and taken by `copyOut`. -/
  pushed : Bytes := []
  taken : Bytes := []
  /-- The chunks that `bulkWriteAll` was called with. -/
  submitted : List (Nat × Bytes) := []
  /-- The chunks of this epoch for which it has returned. -/
  returned : List (Bytes × Bool) := []
  /-- The chunk that set `failed_` is from this epoch. -/
  failedBy : Option Nat := none

inductive StreamAct where
  | push (data : Bytes)
  | flush
  | reset
  /-- The next action of the call in progress. `late`: the timeout of its wait has passed. -/
  | producer (late : Bool)
  /-- `waitForBulkOut` returns. -/
  | drained (ok : Bool)
  /-- The next action of the writer. `outcome` is what `bulkWriteAll` leaves, when it returns. -/
  | writer (outcome : Option String)
deriving DecidableEq, Repr

/-- A step of the writer task. -/
def StreamAct.byWriter : StreamAct → Bool
  | writer _ => true
  | _ => false

namespace UsbStream

/-- `setError` (:65): `error_` has 96 bytes. -/
def setError (s : UsbStream) (msg : String) : UsbStream := { s with error := String.ofList (msg.toList.take 95) }

/-- `failed` (:72). -/
def failure (s : UsbStream) : Option String :=
  if s.failed then some (if s.error.isEmpty then "USB stream failed" else s.error) else none

/-- `space = capacity_ - used_` (:101) on `size_t`. -/
def space (s : UsbStream) : Nat := sub32 s.capacity s.used

/-- The two `memcpy`s of `push` (:115-117). -/
def copyIn (s : UsbStream) (head : Nat) (data : Bytes) : UsbStream :=
  { s with mem := Lib.Ring.writeWrap s.mem s.capacity head data }

/-- The second critical section of `push` (:120-123). -/
def publish (s : UsbStream) (head : Nat) (data : Bytes) : UsbStream :=
  { s with
    head := (head + data.length) % s.capacity
    used := (s.used + data.length) % 2 ^ 32
    pushed := s.pushed ++ data }

/-- The second critical section of `copyOut` (:148-151). -/
def take (s : UsbStream) (tail : Nat) (data : Bytes) : UsbStream :=
  { s with
    tail := (tail + data.length) % s.capacity
    used := sub32 s.used data.length
    taken := s.taken ++ data }

/-- The critical section of `reset` (:221-226). -/
def clear (s : UsbStream) : UsbStream :=
  { s with
    head := 0, tail := 0, used := 0, error := ""
    epoch := s.epoch + 1, pushed := [], taken := [], submitted := [], returned := [] }

def producerStep (s : UsbStream) (late : Bool) : Option UsbStream :=
  match s.producer with
  | .idle _ | .flushWait => none
  | .pushCheck data => some { s with producer := if s.failed then .idle false else .pushLook data }
  | .pushLook data => some { s with
      producer :=
        if s.space = 0 then (if late then .pushTimeout else .pushCheck data)
        else .pushCopy data s.head (min s.space data.length) }
  | .pushTimeout => some { s.setError "USB stream backpressure timeout" with producer := .idle false }
  | .pushCopy data head n => some { s.copyIn head (data.take n) with producer := .pushPublish data head n }
  | .pushPublish data head n => some { s.publish head (data.take n) with
      producer := if n < data.length then .pushCheck (data.drop n) else .pushGive }
  | .pushGive => some { s with wake := true, producer := .idle true }
  | .flushCheck => some { s with producer := if s.failed then .idle false else .flushLook }
  | .flushLook => some { s with producer := .flushBusy s.used }
  | .flushBusy used => some { s with
      producer := if used = 0 ∧ s.busy = false then .flushWait else if late then .idle false else .flushCheck }
  | .resetWait => some { s with producer := if s.busy ∧ late = false then .resetWait else .resetClear }
  | .resetClear => some { s.clear with producer := .resetUnfail }
  | .resetUnfail => some { s with failed := false, failedBy := none, producer := .resetGive }
  | .resetGive => some { s with wake := true, producer := .idle true }

def writerStep (s : UsbStream) (outcome : Option String) : Option UsbStream :=
  match s.writer with
  | .check => some { s with writer := if s.failed then .park else .raise }
  | .park => if s.wake then some { s with wake := false, writer := .check } else none
  | .raise => some { s with busy := true, writer := .snap }
  | .snap => some { s with
      writer := if s.used = 0 then .empty else .copy s.tail (min s.used bulkOutChunkSize) s.epoch }
  | .empty => some { s with busy := false, writer := .park }
  | .copy tail n e => some { s with writer := .commit tail n (Lib.Ring.readWrap s.mem s.capacity tail n) e }
  | .commit tail _ data e => some { s.take tail data with writer := .call data e }
  | .call data e => some { s with submitted := s.submitted ++ [(e, data)], writer := .write data e }
  | .write data e => some { s with
      returned := if e = s.epoch then s.returned ++ [(data, outcome.isNone)] else s.returned
      writer := .lower e outcome }
  | .lower e outcome => some { s with
      busy := false
      writer := match outcome with
        | none => .check
        | some error => .setError e error }
  | .setError e error => some { s.setError (if error.isEmpty then "USB bulk stream failed" else error) with
      writer := .publish e }
  | .publish e => some { s with failed := true, failedBy := some e, writer := .check }

/-- A call of the producer, when it is outside. -/
def enter (s : UsbStream) (p : Producer) : Option UsbStream :=
  match s.producer with
  | .idle _ => some { s with producer := p }
  | _ => none

/-- The end of `flush` (:211). -/
def leaveFlush (s : UsbStream) (ok : Bool) : Option UsbStream :=
  match s.producer with
  | .flushWait => some { s with producer := .idle ok }
  | _ => none

def step (s : UsbStream) : StreamAct → Option UsbStream
  | .push data => s.enter (if data.isEmpty then .idle true else .pushCheck data)
  | .flush => s.enter .flushCheck
  | .reset => s.enter .resetWait
  | .producer late => s.producerStep late
  | .drained ok => s.leaveFlush ok
  | .writer outcome => s.writerStep outcome

/-- `begin` (:16) with a ring of `capacity` bytes. -/
def begin (capacity : Nat) : UsbStream := { capacity }

theorem enter_eq {s s' : UsbStream} {p : Producer} (h : s.enter p = some s') :
    (∃ ok, s.producer = .idle ok) ∧ s' = { s with producer := p } := by
  unfold enter at h
  split at h
  · rename_i ok hp
    cases h
    exact ⟨⟨ok, hp⟩, rfl⟩
  · cases h

theorem leaveFlush_eq {s s' : UsbStream} {ok : Bool} (h : s.leaveFlush ok = some s') :
    s.producer = .flushWait ∧ s' = { s with producer := .idle ok } := by
  unfold leaveFlush at h
  split at h
  · rename_i hp
    cases h
    exact ⟨hp, rfl⟩
  · cases h

/-- The loop task does not move the writer, and the ring is allocated once. -/
theorem loop_step {s s' : UsbStream} {a : StreamAct} (ha : a.byWriter = false) (hs : s.step a = some s') :
    s'.writer = s.writer ∧ s'.capacity = s.capacity := by
  cases a with
  | writer outcome => cases ha
  | push data =>
    obtain ⟨_, rfl⟩ := enter_eq hs
    exact ⟨rfl, rfl⟩
  | flush =>
    obtain ⟨_, rfl⟩ := enter_eq hs
    exact ⟨rfl, rfl⟩
  | reset =>
    obtain ⟨_, rfl⟩ := enter_eq hs
    exact ⟨rfl, rfl⟩
  | drained ok =>
    obtain ⟨_, rfl⟩ := leaveFlush_eq hs
    exact ⟨rfl, rfl⟩
  | producer late =>
    have hs : s.producerStep late = some s' := hs
    unfold producerStep at hs
    cases hp : s.producer with
    | idle ok => rw [hp] at hs; cases hs
    | flushWait => rw [hp] at hs; cases hs
    | _ => rw [hp] at hs; cases hs; exact ⟨rfl, rfl⟩

end UsbStream
end PrintServer
