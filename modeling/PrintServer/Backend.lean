import PrintServer.UsbHost
import PrintServer.Lib.Runs
/-!
# The printer backend (usb_printer_backend.cpp, usb_printer_backend.h)

| here | there |
| --- | --- |
| `Transport`            | what the backend calls below itself: `stream_` and the Bulk OUT functions of `host_` |
| `sendDirect`           | `sendDirect` (:628), with `sendUsbChunk` (:175) |
| `finishRawJob`         | `finishRawJob` (:674) |
| `abortRawJob`          | `abortRawJob` (:702) |
| `completeDrainIfReady` | `completeDrainIfReady` (:494) |
| `followHost`           | the rest of `poll` (:584-626), after the RAW server has run |

`now` is the time since boot; the code sees it through `millis()`. A call that blocks takes
time, and the USB client task may run meanwhile: both are the `Tick` of its `Answer`. `history` is
not in the source. It keeps, for every print episode (from `IDLE` to `PRINTING` until `PRINTING` is
left), what was accepted for which job, the last flush and how the episode ended.
-/
namespace PrintServer

/-! ## Below the backend -/

/-- A stretch of time, and what the USB client task did to the host state in it. -/
structure Tick where
  ms : Nat := 0
  events : List HostEvent := []

structure Answer (σ : Type) where
  ok : Bool
  /-- The text left in `error` when `ok` is false. -/
  error : String
  link : σ
  took : Tick

structure Transport (σ : Type) where
  /-- `stream_.ready()`. -/
  ready : σ → Bool
  /-- `stream_.reset()`. -/
  reset : σ → Answer σ
  /-- `stream_.push(data, length, USB_STREAM_PUSH_TIMEOUT_MS)`. -/
  push : σ → Bytes → Answer σ
  /-- `stream_.failed(error)`. -/
  failed : σ → Option String
  /-- `stream_.flush(RAW_USB_TIMEOUT_MS, error)`. -/
  flush : σ → Answer σ
  /-- `host_.bulkWriteAll(data, length, RAW_USB_TIMEOUT_MS, error)`. -/
  bulkWriteAll : σ → Bytes → Answer σ
  /-- `host_.waitForBulkOut(RAW_USB_TIMEOUT_MS, error)`. -/
  waitForBulkOut : σ → Answer σ

/-- A link that takes everything at once. -/
def Transport.immediate : Transport Unit :=
  let done : Answer Unit := { ok := true, error := "", link := (), took := {} }
  { ready := fun _ => true, reset := fun _ => done, push := fun _ _ => done, failed := fun _ => none,
    flush := fun _ => done, bulkWriteAll := fun _ _ => done, waitForBulkOut := fun _ => done }

/-! ## Print episodes -/

/-- Whose bytes: the serial number of a RAW connection, or an IPP job id. -/
inductive JobKey where
  | raw (connection : Nat)
  | ipp (job : Nat)
deriving DecidableEq, Repr

inductive JobEnding where
  /-- The branch of `completeDrainIfReady` that counts the job (:565). -/
  | completed (now : Nat)
  /-- Its three other endings (:506, :518, :548). -/
  | stopped
  | aborted
deriving DecidableEq, Repr

structure Episode where
  accepted : List (JobKey × Bytes) := []
  /-- When the last flush returned true, if nothing was accepted after it. -/
  flushedAt : Option Nat := none
  ending : Option JobEnding := none
deriving DecidableEq, Repr

namespace Episode

def accept (job : JobKey) (data : Bytes) (e : Episode) : Episode :=
  { e with accepted := e.accepted ++ [(job, data)], flushedAt := none }

def flush (now : Nat) (e : Episode) : Episode := { e with flushedAt := some now }

def close (how : JobEnding) (e : Episode) : Episode := { e with ending := some how }

def carries (e : Episode) (job : JobKey) : Prop := ∃ data, (job, data) ∈ e.accepted

end Episode

/-! ## State -/

/-- `PrinterState` (usb_printer_backend.h:8). -/
inductive PrinterState where
  | offline | idle | printing | error
deriving DecidableEq, Repr

structure UsbPrinterBackend (σ : Type) where
  host : UsbHostManager := {}
  link : σ
  now : Nat := 0
  state : PrinterState := .offline
  reason : String := "usb-host-not-initialized"
  jobsCompleted : UInt32 := 0
  jobsFailed : UInt32 := 0
  maxDrainMs : Nat := 0
  lastError : String := ""
  drainPending : Bool := false
  drainStartedMs : Nat := 0
  drainStatusAtStart : Nat := 0
  /-- Newest episode first. -/
  history : List Episode := []

/-- A backend whose printer is ready. -/
def idleBackend : UsbPrinterBackend Unit := { link := (), host := .enumeratedPrinter, state := .idle }

namespace UsbPrinterBackend
variable {σ : Type}

def online (b : UsbPrinterBackend σ) : Bool := b.state = .idle

def usbStatusValid (b : UsbPrinterBackend σ) : Bool := b.host.device.portStatus.valid
def usbPortStatus (b : UsbPrinterBackend σ) : UInt8 := b.host.device.portStatus.value
def usbStatusError (b : UsbPrinterBackend σ) : Bool := b.usbStatusValid && b.usbPortStatus &&& 0x08 == 0
def usbStatusSelected (b : UsbPrinterBackend σ) : Bool := b.usbStatusValid && b.usbPortStatus &&& 0x10 != 0
def usbPaperEmpty (b : UsbPrinterBackend σ) : Bool := b.usbStatusValid && b.usbPortStatus &&& 0x20 != 0

/-- `statusSaysReady` (:146). -/
def statusSaysReady (b : UsbPrinterBackend σ) : Bool :=
  if !b.usbStatusValid then true
  else b.usbStatusSelected && !b.usbPaperEmpty && !b.usbStatusError

/-- `statusReasonText` (:167). -/
def statusReasonText (b : UsbPrinterBackend σ) : String :=
  if !b.usbStatusValid then "status-not-yet-available"
  else if b.usbStatusError then "usb-printer-reports-error"
  else if b.usbPaperEmpty then "usb-printer-reports-paper-empty"
  else if !b.usbStatusSelected then "usb-printer-reports-not-selected"
  else "usb-printer-ready"

/-- `begin` (:455) after `host_.begin()` succeeded. -/
def begin (host : UsbHostManager) (link : σ) (now : Nat) : UsbPrinterBackend σ :=
  { host, link, now, reason := "waiting-for-usb-printer" }

/-- Time passes. -/
def pass (b : UsbPrinterBackend σ) (t : Tick) : UsbPrinterBackend σ :=
  { b with now := b.now + t.ms, host := b.host.onAll (b.now + t.ms) t.events }

/-- The backend after a call below it returned. -/
def after (b : UsbPrinterBackend σ) (a : Answer σ) : UsbPrinterBackend σ := { b.pass a.took with link := a.link }

/-- Write the record of the running episode. -/
def record (b : UsbPrinterBackend σ) (f : Episode → Episode) : UsbPrinterBackend σ :=
  { b with history := b.history.modifyHead f }

/-! ## Operations -/

/-- `abortRawJob` (:702). -/
def abortRawJob (b : UsbPrinterBackend σ) (reason : String) : UsbPrinterBackend σ :=
  let text := if reason.isEmpty then "raw-job-aborted" else reason
  let b := if b.state = .printing then b.record (Episode.close .aborted) else b
  let b := if b.state = .error then b else { b with jobsFailed := b.jobsFailed + 1, lastError := text }
  { b with drainPending := false, state := .error, reason := text }

/-- `IDLE` to `PRINTING` (:643-651): a new episode begins. -/
def startJob (T : Transport σ) (b : UsbPrinterBackend σ) : UsbPrinterBackend σ :=
  if b.state = .idle then
    let b := { b with drainPending := false }.after (T.reset b.link)
    { b with state := .printing, history := {} :: b.history }
  else b

/-- The body of the retry loop (:653-660). -/
def offer (T : Transport σ) (b : UsbPrinterBackend σ) (data : Bytes) : Option String × UsbPrinterBackend σ :=
  if T.ready b.link then
    let a := T.push b.link data
    (if a.ok then none else some ((T.failed a.link).getD "USB stream rejected print data"), b.after a)
  else
    let a := T.bulkWriteAll b.link data
    (if a.ok then none else some a.error, b.after a)

/-- `for (int retry = 0; retry < 3; retry++)` (:652-671), `n` attempts left. -/
def sendLoop (T : Transport σ) (job : JobKey) (data : Bytes) :
    Nat → String → UsbPrinterBackend σ → Option String × UsbPrinterBackend σ
  | 0, error, b => (some error, b.abortRawJob error)
  | n + 1, _, b =>
    match offer T b data with
    | (none, b) => (none, { b.record (Episode.accept job data) with reason := "raw-job-in-progress" })
    | (some error, b) => sendLoop T job data n error { b with now := b.now + 100 }

/-- `sendDirect` (:628): `none` is its `true`, otherwise the text left in `error`. -/
def sendDirect (T : Transport σ) (b : UsbPrinterBackend σ) (job : JobKey) (data : Bytes) :
    Option String × UsbPrinterBackend σ :=
  if data.isEmpty then (some "Empty print data", b)
  else if !b.host.selectedInterfaceUsable then
    (some "Selected USB interface has no usable RAW Bulk OUT endpoint", b)
  else if b.state ≠ .idle ∧ b.state ≠ .printing then (some b.reason, b)
  else sendLoop T job data 3 "" (b.startJob T)

/-- `finishRawJob` (:674). -/
def finishRawJob (T : Transport σ) (b : UsbPrinterBackend σ) : UsbPrinterBackend σ :=
  if b.state ≠ .printing ∨ b.drainPending then b
  else
    let a := if T.ready b.link then T.flush b.link else T.waitForBulkOut b.link
    let b := b.after a
    if !a.ok then b.abortRawJob a.error
    else
      { b.record (Episode.flush b.now) with
        drainPending := true
        drainStartedMs := millis b.now
        drainStatusAtStart := if b.usbStatusValid then b.host.device.portStatus.updatedAt else 0
        reason := "raw-job-draining" }

/-- `completeDrainIfReady` (:494). -/
def completeDrainIfReady (b : UsbPrinterBackend σ) : UsbPrinterBackend σ :=
  if !b.drainPending ∨ b.state ≠ .printing then b
  else
    let age := sub32 (millis b.now) b.drainStartedMs
    let freshStatus := b.usbStatusValid && b.drainStatusAtStart < b.host.device.portStatus.updatedAt
    if b.usbStatusValid && b.usbPaperEmpty then
      { b.record (Episode.close .stopped) with
        drainPending := false, state := .offline, reason := "usb-printer-reports-paper-empty"
        jobsFailed := b.jobsFailed + 1, lastError := "usb-printer-reports-paper-empty" }
    else if b.usbStatusValid && b.usbStatusError then
      { b.record (Episode.close .stopped) with
        drainPending := false, state := .error, reason := "usb-printer-reports-error-after-job"
        jobsFailed := b.jobsFailed + 1, lastError := "usb-printer-reports-error-after-job" }
    else if b.usbStatusValid && !b.usbStatusSelected then
      if age < postJobStatusWaitMaxMs then { b with reason := "printer-processing-or-not-selected" }
      else
        -- no `jobsFailed_` here, unlike the two failures above
        { b.record (Episode.close .stopped) with
          drainPending := false, state := .offline
          reason := "usb-printer-reports-not-selected-after-timeout" }
    else if age < postJobMinGuardMs then b
    else if b.usbStatusValid && !freshStatus && age < postJobStatusWaitMaxMs then b
    else
      { b.record (Episode.close (.completed b.now)) with
        drainPending := false, state := .idle
        reason := if freshStatus then "usb-printer-ready-after-post-job-guard" else "printer-ready-after-post-job-guard"
        jobsCompleted := b.jobsCompleted + 1, maxDrainMs := max b.maxDrainMs age }

/-- `poll` (:584-626). -/
def followHost (b : UsbPrinterBackend σ) : UsbPrinterBackend σ :=
  if b.state = .printing then b
  else match b.host.state with
    | .printerReady =>
      if !b.host.selectedInterfaceUsable then
        { b with state := .error, reason := "selected-interface-has-no-bulk-output" }
      else if !b.statusSaysReady then
        { b with state := if b.usbStatusError then .error else .offline, reason := b.statusReasonText }
      else
        { b with
          state := .idle
          reason := if b.usbStatusValid then "usb-printer-ready" else "printer-interface-ready" }
    | .deviceAttached | .enumerating => { b with state := .offline, reason := "enumerating-usb-device" }
    | .error => { b with state := .error, reason := b.host.error }
    | _ =>
      { b with
        state := .offline
        reason := if b.host.error.isEmpty then "waiting-for-usb-printer" else b.host.error }

/-! ## The backend on its own: any order of calls -/

inductive Call where
  | sendDirect (job : JobKey) (data : Bytes)
  | finishRawJob
  | abortRawJob (reason : String)
  /-- `poll` is `completeDrainIfReady`, the calls of the RAW server, then `followHost`. -/
  | completeDrainIfReady
  | followHost
  | pass (t : Tick)

def call (T : Transport σ) (b : UsbPrinterBackend σ) : Call → UsbPrinterBackend σ
  | .sendDirect job data => (b.sendDirect T job data).2
  | .finishRawJob => b.finishRawJob T
  | .abortRawJob reason => b.abortRawJob reason
  | .completeDrainIfReady => b.completeDrainIfReady
  | .followHost => b.followHost
  | .pass t => b.pass t

def step (T : Transport σ) (b : UsbPrinterBackend σ) (c : Call) : Option (UsbPrinterBackend σ) := some (b.call T c)

end UsbPrinterBackend
end PrintServer
