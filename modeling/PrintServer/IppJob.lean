import PrintServer.BodyReader
import PrintServer.Ledger
/-!
# The current IPP job and its document (ipp_pcl3_service.h, ipp_pcl3_service.cpp:855-906, 997-1065)

The service knows one job, the last one. `refreshJobState` follows the backend's state and
`streamDocument` carries the request body to `sendDirect`. Two fields are not in the source:
`serial` numbers the jobs (`lastJobId_` wraps), and `moves` records every change of the job's
state with its cause.
-/
namespace PrintServer

/-- The IPP job-state enum (ipp_pcl3_service.h:32-33); `none` is the initial 0. -/
inductive JobState where
  | none | pending | processing | stopped | canceled | aborted | completed
deriving DecidableEq, Repr

def JobState.code : JobState → Nat
  | none => 0
  | pending => 3
  | processing => 4
  | stopped => 6
  | canceled => 7
  | aborted => 8
  | completed => 9

/-- What moved a job to a state. -/
inductive Cause where
  /-- Print-Job or Create-Job. -/
  | request
  | streamDocument | refreshJobState | cancelJob | closeJob
deriving DecidableEq, Repr

structure Move where
  job : Nat
  state : JobState
  cause : Cause
deriving DecidableEq, Repr

structure IppPcl3Service where
  started : Bool := false
  lastJobBytes : Nat := 0
  lastError : String := ""
  nextJobId : UInt32 := 1
  lastJobId : UInt32 := 0
  lastJobState : JobState := .none
  lastJobReason : String := ""
  lastJobName : Bytes := []
  pendingJob : Bool := false
  jobStartedProcessing : Bool := false
  jobProcessingUpTime : Nat := 0
  jobCompletedUpTime : Nat := 0
  /-- `0xFF` is `none`. -/
  observedPrinterState : Option PrinterState := none
  stateChangeUpTime : Nat := 0
  configChangeUpTime : Nat := 0
  serial : Nat := 0
  moves : List Move := []

/-- `upTimeSeconds` (:81). -/
def upTimeSeconds (now : Nat) : Nat := millis now / 1000

namespace IppPcl3Service
variable {σ : Type}

def move (s : IppPcl3Service) (state : JobState) (reason : String) (cause : Cause) : IppPcl3Service :=
  { s with lastJobState := state, lastJobReason := reason, moves := ⟨s.serial, state, cause⟩ :: s.moves }

/-- `begin` (:891); `buffer` is whether the document buffer could be allocated. -/
def begin (s : IppPcl3Service) (now : Nat) (buffer : Bool) : IppPcl3Service :=
  if !buffer then s
  else if s.observedPrinterState = none then
    { s with started := true, stateChangeUpTime := upTimeSeconds now, configChangeUpTime := upTimeSeconds now }
  else { s with started := true }

/-- `refreshJobState` (:855). -/
def refreshJobState (s : IppPcl3Service) (b : UsbPrinterBackend σ) : IppPcl3Service :=
  if s.lastJobId = 0 then s
  else if s.lastJobState = .pending && !s.jobStartedProcessing then s
  else if s.lastJobState ≠ .pending ∧ s.lastJobState ≠ .processing then s
  else match b.state with
    | .idle =>
      { s.move .completed "job-completed-successfully" .refreshJobState with
        jobCompletedUpTime := upTimeSeconds b.now, pendingJob := false }
    | .error => { s.move .aborted "aborted-by-system" .refreshJobState with pendingJob := false }
    | .offline => { s.move .stopped "printer-stopped" .refreshJobState with pendingJob := false }
    | .printing => s

/-- `trackPrinterState` (:883). -/
def trackPrinterState (s : IppPcl3Service) (b : UsbPrinterBackend σ) : IppPcl3Service :=
  if s.observedPrinterState = some b.state then s
  else { s with observedPrinterState := some b.state, stateChangeUpTime := upTimeSeconds b.now }

end IppPcl3Service

/-! ## `streamDocument` -/

/-- The variables of the streaming loop; `calls` lists what was given to `sendDirect`, and whether
it returned true. -/
structure Streaming (σ : Type) where
  service : IppPcl3Service
  backend : UsbPrinterBackend σ
  reader : BodyReader
  ok : Bool := true
  calls : List (Bytes × Bool) := []

namespace Streaming
variable {σ : Type}

/-- `(long)(millis() - deadline) >= 0` (:1006). -/
def expired (now deadline : Nat) : Bool := sub32 (millis now) deadline < 2 ^ 31

/-- The bookkeeping after a block was sent (:1023-1030). -/
def sent (s : IppPcl3Service) (now n : Nat) : IppPcl3Service :=
  let s :=
    if s.jobStartedProcessing then s
    else
      { s.move .processing "job-printing" .streamDocument with
        jobStartedProcessing := true, jobProcessingUpTime := upTimeSeconds now }
  { s with lastJobBytes := s.lastJobBytes + n }

/-- The loop (:1004-1032). Each turn that goes on has consumed a byte of the socket, which bounds
the fuel; `ticks` is the time the turns' reads take. -/
def loop (T : Transport σ) (deadline : Nat) : Nat → List Tick → Streaming σ → Streaming σ
  | 0, _, s => s
  | n + 1, ticks, s =>
    if expired s.backend.now deadline then
      { s with service := { s.service with lastError := "job exceeded the document deadline" }, ok := false }
    else
      let p := s.reader.readBlock bodyBufferSize
      let b := s.backend.pass (ticks.headD {})
      if p.1.isEmpty then { s with reader := p.2, backend := b }
      else
        match b.sendDirect T (.ipp s.service.serial) p.1 with
        | (some error, b) =>
          { service := { s.service with lastError := error }, backend := b, reader := p.2, ok := false,
            calls := s.calls ++ [(p.1, false)] }
        | (none, b) =>
          loop T deadline n ticks.tail
            { s with
              service := sent s.service b.now p.1.length, backend := b, reader := p.2
              calls := s.calls ++ [(p.1, true)] }

/-- `ok && complete && !b.framingError && lastJobBytes_ > 0` (:1045-1046). -/
def accepted (s : Streaming σ) : Bool :=
  s.ok && (s.reader.done || (s.reader.peerClosed && s.reader.atChunkBoundary)) && !s.reader.framingError &&
    0 < s.service.lastJobBytes

/-- `if (lastError_.isEmpty())` (:1054-1059). -/
def failure (s : Streaming σ) : String :=
  if !s.service.lastError.isEmpty then s.service.lastError
  else if s.reader.framingError then "HTTP chunk framing error"
  else if s.reader.peerClosed then "IPP client disconnected before the complete document was received"
  else if s.service.lastJobBytes = 0 then "document was empty"
  else "document body ended unexpectedly"

/-- The failing end (:1054-1064). -/
def reject (s : Streaming σ) : Streaming σ :=
  let error := s.failure
  { s with
    service := { s.service with lastError := error }.move .aborted "aborted-by-system" .streamDocument
    backend :=
      if s.service.jobStartedProcessing || 0 < s.service.lastJobBytes then s.backend.abortRawJob error else s.backend
    ok := false }

/-- What the loop leaves behind, before the verdict. -/
def stream (T : Transport σ) (ticks : List Tick) (s : IppPcl3Service) (b : UsbPrinterBackend σ) (r : BodyReader) :
    Streaming σ :=
  loop T (millis (millis b.now + ippJobDeadlineMs)) (r.client.size + 1) ticks { service := s, backend := b, reader := r }

end Streaming

/-- `streamDocument` (:997): its result is `ok`. -/
def streamDocument {σ : Type} (T : Transport σ) (ticks : List Tick) (s : IppPcl3Service) (b : UsbPrinterBackend σ)
    (r : BodyReader) : Streaming σ :=
  let d := Streaming.stream T ticks s b r
  if d.accepted then d else d.reject

end PrintServer
