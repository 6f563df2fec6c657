import PrintServer.Backend
import PrintServer.BulkOutLoss
import PrintServer.StreamFifo
/-!
# `sendDirect` step by step (usb_printer_backend.cpp:628-672)

`UsbPrinterBackend.sendDirect` takes what is below it as one answer for each attempt. Here an attempt
is a run of the stream or of the Bulk OUT pipeline, and anything may happen in between.

| here | there |
| --- | --- |
| `SendPhase.enter`, `resetting` | the checks and `stream_.reset()` (:629-651) |
| `SendPhase.offer`, `waiting`   | `stream_.push`, or `bulkWriteAll` through `sendUsbChunk` (:654-660) |
| `SendPhase.delay`              | `delay(100)` (:669) |
| `SendAct.stream`, `bulk`       | the steps of `UsbStream` and of `BulkOut` |

The writer task's own calls of `bulkWriteAll` are the outcomes of its steps; `bulk` is the pipeline
when there is no writer task. `base` and `answers` are not in the source: what had been sent before
the first attempt, and how the attempts ended.
-/
namespace PrintServer

inductive SendPhase where
  | enter
  | resetting
  | offer (retry : Nat)
  | waiting (retry : Nat)
  | delay (retry : Nat)
  | returned (ok : Bool)
deriving DecidableEq, Repr

structure Sending where
  /-- `stream_.ready()`. -/
  ready : Bool
  usable : Bool := true
  state : PrinterState
  stream : UsbStream
  bulk : BulkOut := {}
  data : Bytes
  phase : SendPhase := .enter
  base : Bytes := []
  answers : List Bool := []

inductive SendAct where
  | loop
  | stream (a : StreamAct)
  | bulk (a : BulkAct)
deriving DecidableEq, Repr

/-- What `push` has handed to the USB side: taken by the writer, or still in the ring. -/
def UsbStream.outgoing (s : UsbStream) : Bytes := s.taken ++ s.queue

/-- What `bulkWrite` has accepted. -/
def BulkOut.sent (s : BulkOut) : Bytes := (s.submissions.map (·.data)).flatten

namespace Sending

/-- The outgoing USB byte stream. -/
def outgoing (s : Sending) : Bytes := if s.ready then s.stream.outgoing else s.bulk.sent

/-- The call below has returned. -/
def answer (s : Sending) : Option Bool :=
  if s.ready then
    match s.stream.producer with
    | .idle ok => some ok
    | _ => none
  else if s.bulk.outside then some s.bulk.allTrue else none

def loopStep (s : Sending) : Option Sending :=
  match s.phase with
  | .enter =>
    if s.data.isEmpty || !s.usable || (s.state ≠ .idle && s.state ≠ .printing) then
      some { s with phase := .returned false }
    else if s.state = .idle then
      (s.stream.step .reset).map fun stream => { s with stream, state := .printing, phase := .resetting }
    else some { s with phase := .offer 0, base := s.outgoing }
  | .resetting =>
    match s.stream.producer with
    | .idle _ => some { s with phase := .offer 0, base := s.outgoing }
    | _ => none
  | .offer retry =>
    if 3 ≤ retry then some { s with state := .error, phase := .returned false }
    else if s.ready then
      (s.stream.step (.push s.data)).map fun stream => { s with stream, phase := .waiting retry }
    else
      -- `allTrue` is to tell the answer of this call
      ({ s.bulk with allTrue := true }.step (.bulkWriteAll s.data)).map fun bulk =>
        { s with bulk, phase := .waiting retry }
  | .waiting retry => s.answer.map fun ok =>
    { s with answers := s.answers ++ [ok], phase := if ok then .returned true else .delay retry }
  | .delay retry => some { s with phase := .offer (retry + 1) }
  | .returned _ => none

def step (s : Sending) : SendAct → Option Sending
  | .loop => s.loopStep
  | .stream (.producer late) => (s.stream.producerStep late).map fun stream => { s with stream }
  | .stream (.writer outcome) =>
    if s.ready then (s.stream.writerStep outcome).map fun stream => { s with stream } else none
  | .stream _ => none
  | .bulk (.bulkWriteAll _) | .bulk .waitForBulkOut => none
  | .bulk a => if s.ready then none else (s.bulk.step a).map fun bulk => { s with bulk }

end Sending
end PrintServer
