import PrintServer.Config
import PrintServer.Lib.Runs
/-!
# The Bulk OUT pipeline (usb_host_manager.cpp:30-68, 151-200, 431-439, 618-751)

One task calls `bulkWriteAll` and `waitForBulkOut`; the USB driver calls back, and the client task
closes, recovers and re-enumerates the device at any point in between. One step is one access to the
shared `g`, one semaphore operation, one call of the driver, one callback.

| here | there |
| --- | --- |
| `BulkSlot`                      | `BulkOutSlot` (:32), with the `num_bytes` and the data of its `transfer` |
| `BulkCaller.all` … `failed`     | `bulkWriteAll` (:709) and `bulkWrite` (:652) |
| `BulkCaller.drainCheck` … `drain` | `waitForBulkOut` (:735) |
| `BulkCaller.wait`, `recover`, `inspect` | `waitSlotDone` (:619) |
| `BulkAct.callback`              | `bulkTransferCallback` (:431), in one step |

`held` is the driver's side: the submission it has accepted and not called back for. It calls back
exactly once. `submissions`, `written` and `allTrue` are the record the results are about.
-/
namespace PrintServer

/-- `usb_transfer_status_t`. -/
inductive TransferStatus where
  | completed | noDevice
  | other (code : Nat)
deriving DecidableEq, Repr

structure BulkSlot where
  /-- `transfer` and `done` exist. -/
  allocated : Bool := false
  /-- The token of `done`. -/
  done : Bool := false
  inFlight : Bool := false
  status : TransferStatus := .noDevice
  accepted : Nat := 0
  numBytes : Nat := 0
  held : Option Nat := none
deriving DecidableEq, Repr

structure Submission where
  data : Bytes
  /-- Status and `actual_num_bytes` of the callback. -/
  result : Option (TransferStatus × Nat) := none
deriving DecidableEq, Repr

def Submission.Good (x : Submission) : Prop := x.result = some (.completed, x.data.length)

/-- Who waits for a slot: `bulkWrite` with the block it will submit, or `waitForBulkOut`. -/
inductive WaitFor where
  | write (data : Bytes) (retries : Nat)
  | drain
deriving DecidableEq, Repr

/-- Where the writing task stands; `data` is what `bulkWriteAll` has left. -/
inductive BulkCaller where
  | idle
  /-- Outside, after a `waitForBulkOut` that returned true. -/
  | drained
  | all (data : Bytes) (retries : Nat)
  | wedgeCheck (data : Bytes) (retries : Nat)
  | ensure (data : Bytes) (retries : Nat)
  | look (data : Bytes) (retries : Nat)
  | wait (job : WaitFor) (i : Nat)
  | recover (job : WaitFor) (i : Nat)
  | inspect (job : WaitFor) (i : Nat)
  /-- `waitSlotDone` has returned false. -/
  | refused (job : WaitFor) (i : Nat)
  | reread (data : Bytes) (retries : Nat)
  | prepare (data : Bytes) (retries : Nat)
  | fill (data : Bytes) (retries : Nat)
  | submit (data : Bytes) (retries : Nat)
  | flag (data : Bytes) (retries : Nat)
  | advance (data : Bytes) (retries : Nat)
  /-- `bulkWrite` has returned false. -/
  | failed (data : Bytes) (retries : Nat)
  | drainCheck
  | drainEnsure
  | drain (i : Nat)
deriving DecidableEq, Repr

/-- The part of the code that a place is in. -/
inductive BulkStage where
  | outside
  /-- `bulkWriteAll` and `bulkWrite`, up to the slots (:655-672, :708-733). -/
  | entry
  /-- `waitSlotDone`, and what its caller does about the answer (:619-651, :672-675, :744-747). -/
  | waiting
  /-- The submission (:677-706). -/
  | submission
  /-- `waitForBulkOut` (:735-743). -/
  | draining
deriving DecidableEq, Repr

def BulkCaller.stage : BulkCaller → BulkStage
  | idle | drained => .outside
  | all .. | wedgeCheck .. | ensure .. | look .. | failed .. => .entry
  | wait .. | recover .. | inspect .. | refused .. | reread .. => .waiting
  | prepare .. | fill .. | submit .. | flag .. | advance .. => .submission
  | drainCheck | drainEnsure | drain _ => .draining

structure BulkOut where
  slots : Nat → BulkSlot := fun _ => {}
  next : Nat := 0
  wedged : Bool := false
  resetRequested : Bool := false
  /-- The client task has taken the request (:518) and not lowered `g.bulkOutWedged` yet (:523). -/
  recovering : Bool := false
  /-- `g.deviceOpen` with the print interface claimed. -/
  deviceOpen : Bool := false
  /-- `device_.printer.usableForRawPrint()`. -/
  usable : Bool := false
  caller : BulkCaller := .idle
  submissions : List Submission := []
  /-- The data of all `bulkWriteAll` calls. -/
  written : Bytes := []
  /-- Every call so far has returned true. -/
  allTrue : Bool := true

inductive BulkAct where
  | bulkWriteAll (data : Bytes)
  | waitForBulkOut
  /-- The next action of the call in progress. `answer` is what the environment decides: that an
  allocation or a submission succeeds, that a semaphore wait times out. -/
  | caller (answer : Bool)
  | callback (i : Nat) (status : TransferStatus) (actual : Nat)
  /-- The client task. -/
  | closeDevice
  | detached
  | resetTaken
  | recovered
  | opened
  | enumerated (usable : Bool)
deriving DecidableEq, Repr

namespace BulkOut

def setSlot (s : BulkOut) (i : Nat) (x : BulkSlot) : BulkOut :=
  { s with slots := fun j => if j = i then x else s.slots j }

/-- `(mine + DEPTH - 1) % DEPTH` (:667). -/
def previous (s : BulkOut) : Nat := (s.next + usbBulkPipelineDepth - 1) % usbBulkPipelineDepth

/-- One block of `bulkWriteAll` (:715). -/
def part (data : Bytes) : Bytes := data.take bulkOutChunkSize

/-- `clearBulkOutInFlight` (:151). -/
def clearInFlight (s : BulkOut) : BulkOut := { s with slots := fun i => { s.slots i with inFlight := false } }

/-- What `freeBulkOutResources` leaves of a slot: `done` is deleted together with its `transfer`. -/
def release (x : BulkSlot) : BulkSlot :=
  { x with allocated := x.allocated && x.inFlight, done := x.done && (x.allocated && x.inFlight) }

/-- `freeBulkOutResources` (:155). -/
def freeResources (s : BulkOut) : BulkOut := { s with slots := fun i => release (s.slots i) }

/-- The allocations of `ensureBulkOutResources` (:174-192). -/
def allocateAll (s : BulkOut) : BulkOut := { s with slots := fun i => { s.slots i with allocated := true } }

/-- A call returns false. -/
def giveUp (s : BulkOut) : BulkOut := { s with caller := .idle, allTrue := false }

/-- `g.bulkOutWedged = true; g.resetRequested = true`. -/
def wedge (s : BulkOut) : BulkOut := { s with wedged := true, resetRequested := true }

/-- `bulkWriteAll` after its `data` (:728-732). -/
def proceed (data : Bytes) : BulkCaller := if data.isEmpty then .idle else .all data 0

def callerStep (s : BulkOut) (answer : Bool) : Option BulkOut :=
  match s.caller with
  | .idle | .drained => none
  | .all data r => some { s with caller := if s.deviceOpen && s.usable then .wedgeCheck data r else .failed data r }
  | .wedgeCheck data r => some { s with caller := if s.wedged then .failed data r else .ensure data r }
  | .ensure data r =>
    if s.wedged || !answer then some { s with caller := .failed data r }
    else some { s.allocateAll with caller := .look data r }
  | .look data r => some { s with
      caller := if (s.slots s.previous).inFlight then .wait (.write data r) s.previous else .prepare data r }
  | .wait job i =>
    if (s.slots i).done then some { s.setSlot i { s.slots i with done := false } with caller := .inspect job i }
    else if answer then some { s with caller := .recover job i } else none
  | .recover job i =>
    if (s.slots i).done then some { s.setSlot i { s.slots i with done := false } with caller := .refused job i }
    else if answer then some { s.wedge with caller := .refused job i } else none
  | .inspect job i =>
    let slot := s.slots i
    if slot.status ≠ .completed ∨ slot.accepted ≠ slot.numBytes then some { s.wedge with caller := .refused job i }
    else some { s with caller := match job with
      | .write data r => .prepare data r
      | .drain => .drain (i + 1) }
  | .refused (.write data r) i =>
    some { s.setSlot i { s.slots i with inFlight := false } with caller := .reread data r }
  | .refused .drain i => some (s.setSlot i { s.slots i with inFlight := false }).giveUp
  | .reread data r => some { s with caller := if s.wedged then .failed data r else .prepare data r }
  | .prepare data r => some { s.setSlot s.next { s.slots s.next with done := false, status := .noDevice, accepted := 0 } with
      caller := .fill data r }
  | .fill data r =>
    -- the assertion (:683)
    if (s.slots s.next).allocated && !(s.slots s.next).inFlight then
      some { s.setSlot s.next { s.slots s.next with numBytes := (part data).length } with caller := .submit data r }
    else none
  | .submit data r =>
    if answer then
      some { s.setSlot s.next { s.slots s.next with held := some s.submissions.length } with
        submissions := s.submissions ++ [{ data := part data }], caller := .flag data r }
    else some { s with caller := .failed data r }
  | .flag data r => some { s.setSlot s.next { s.slots s.next with inFlight := true } with caller := .advance data r }
  | .advance data _ => some { s with
      next := (s.next + 1) % usbBulkPipelineDepth, caller := proceed (data.drop (part data).length) }
  | .failed data r => some (if 3 < r + 1 then s.giveUp else { s with caller := .all data (r + 1) })
  | .drainCheck => some (if s.wedged then s.giveUp else { s with caller := .drainEnsure })
  | .drainEnsure =>
    some (if s.wedged || !answer then s.giveUp else { s.allocateAll with caller := .drain 0 })
  | .drain i => some { s with
      caller :=
        if usbBulkPipelineDepth ≤ i then .drained
        else if (s.slots i).inFlight then .wait .drain i else .drain (i + 1) }

/-- `bulkTransferCallback` (:431). It gives `done`, if that exists. -/
def callback (s : BulkOut) (i : Nat) (status : TransferStatus) (actual : Nat) : Option BulkOut :=
  match (s.slots i).held with
  | none => none
  | some k =>
    let s := s.setSlot i { s.slots i with
      inFlight := false, status, accepted := actual, done := (s.slots i).allocated, held := none }
    some { s with submissions := s.submissions.modify k ({ · with result := some (status, actual) }) }

/-- No call is in progress. -/
def outside (s : BulkOut) : Bool := s.caller = .idle || s.caller = .drained

def step (s : BulkOut) : BulkAct → Option BulkOut
  | .bulkWriteAll data =>
    if s.outside then some { s with caller := proceed data, written := s.written ++ data } else none
  | .waitForBulkOut => if s.outside then some { s with caller := .drainCheck } else none
  | .caller answer => s.callerStep answer
  | .callback i status actual => s.callback i status actual
  | .closeDevice => some { s.freeResources with deviceOpen := false }
  | .detached => some { s with usable := false }
  | .resetTaken => if s.resetRequested then some { s with resetRequested := false, recovering := true } else none
  | .recovered => if s.recovering then some { s.clearInFlight with wedged := false, recovering := false } else none
  | .opened => some { s with deviceOpen := true }
  | .enumerated usable => some { s.clearInFlight with usable, wedged := false }

theorem outside_callerStep {s : BulkOut} {answer : Bool} (hg : s.caller.stage = .outside) : s.callerStep answer = none := by
  unfold callerStep
  cases hp : s.caller with
  | idle => rfl
  | drained => rfl
  | _ => rw [hp] at hg; cases hg

end BulkOut
end PrintServer
