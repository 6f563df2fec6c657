import PrintServer.IppJob
import PrintServer.IppRequest
import PrintServer.RawServer
/-!
# The IPP operations (ipp_pcl3_service.cpp:908-1255)

One definition per branch of `handleClient`. An answer keeps the arguments of `sendSimple`,
`sendJobResponse` and `sendPrinterAttributes`, not the bytes they become.

| here | there |
| --- | --- |
| `IppClient`      | the accepted connection, and the time that reading and answering take |
| `Served.reply`   | the answer; `none` if the connection is closed without one |
| `newJob`         | the fields set by Print-Job and Create-Job (:1142-1145, :1165-1168) |

`rawConnected` is `printer_.rawClientConnected()`. Reading off the rest of a non-document body (:987)
only takes time. `clientActive_` is left out.
-/
namespace PrintServer

/-- An accepted connection. -/
structure IppClient where
  client : WiFiClient
  /-- Reading the request, up to the document. -/
  arrival : Tick := {}
  /-- The reads of the document. -/
  reads : List Tick := []
  /-- Sending the answer. -/
  answer : Tick := {}

/-- The arguments of `sendJobResponse`; the job is only shown with status 0. -/
structure JobReport where
  jobId : UInt32
  jobState : JobState
  reason : String
  jobName : Bytes
  upTime : Nat
  processingUp : Nat
  completedUp : Nat
deriving DecidableEq, Repr

/-- `struct PrinterSnapshot` (:374). -/
structure PrinterSnapshot where
  ippState : Nat
  reasons : String
  accepting : Bool
  queued : Nat
  upTime : Nat
  stateChangeUp : Nat
  configChangeUp : Nat
  alertCode : String
  alertSeverity : String
  alertGroup : String
  alertDescription : String
deriving DecidableEq, Repr

inductive Answered where
  | simple (status : Nat)
  | job (status : Nat) (report : JobReport)
  | printer (attrs : RequestAttrs) (snapshot : PrinterSnapshot)
deriving DecidableEq, Repr

structure Reply where
  version : IppVersion
  requestId : UInt32
  answered : Answered
deriving DecidableEq, Repr

/-- The service and the backend while a request is handled. -/
structure Served (σ : Type) where
  service : IppPcl3Service
  backend : UsbPrinterBackend σ
  answered : Answered

namespace IppPcl3Service
variable {σ : Type}

/-! ## Operations -/

/-- Get-Printer-Attributes (:1067). -/
def snapshot (s : IppPcl3Service) (b : UsbPrinterBackend σ) : PrinterSnapshot :=
  let paperEmpty := b.usbStatusValid && b.usbPaperEmpty
  let statusErr := b.usbStatusValid && b.usbStatusError
  let selected := b.usbStatusValid && b.usbStatusSelected
  let alert : String × String × String × String :=
    if paperEmpty then ("mediaEmpty", "critical", "mediaPaths", "mediaEmpty")
    else if b.state = .error || statusErr then ("otherError", "critical", "generalPrinter", "otherError")
    else if b.state = .printing then ("processing", "other", "generalPrinter", "processing")
    else ("printerReadyToPrint", "other", "generalPrinter", "ready")
  { ippState := match b.state with
      | .idle => 3
      | .printing => 4
      | _ => 5
    reasons :=
      if b.state = .idle || b.state = .printing then "none"
      else if paperEmpty then "media-empty-error"
      else if b.state = .offline && b.usbStatusValid && !selected then "offline"
      else if b.state = .error || statusErr then "other-error"
      else "offline"
    accepting := b.state = .idle || b.state = .printing
    queued := if s.lastJobState = .pending || s.lastJobState = .processing then 1 else 0
    upTime := upTimeSeconds b.now
    stateChangeUp := s.stateChangeUpTime
    configChangeUp := s.configChangeUpTime
    alertCode := alert.1
    alertSeverity := alert.2.1
    alertGroup := alert.2.2.1
    alertDescription := alert.2.2.2 }

def formatOk (format : Bytes) : Bool := format.isEmpty || supportedDocumentFormat format

/-- The job as an answer shows it; without times after Create-Job. -/
def report (s : IppPcl3Service) (now : Nat) : JobReport :=
  { jobId := s.lastJobId, jobState := s.lastJobState, reason := s.lastJobReason, jobName := s.lastJobName
    upTime := upTimeSeconds now, processingUp := s.jobProcessingUpTime, completedUp := s.jobCompletedUpTime }

/-- A new current job. -/
def newJob (s : IppPcl3Service) (jobName : Bytes) (pendingJob : Bool) : IppPcl3Service :=
  { s with serial := s.serial + 1, nextJobId := s.nextJobId + 1, lastJobId := s.nextJobId, lastJobName := jobName
           lastJobBytes := 0, jobStartedProcessing := false, jobProcessingUpTime := 0, jobCompletedUpTime := 0
           pendingJob }.move .pending "job-incoming" .request

/-- `lastError_ = error; sendSimple(status)`. -/
def refuse (s : IppPcl3Service) (b : UsbPrinterBackend σ) (error : String) (status : Nat) : Served σ :=
  ⟨{ s with lastError := error }, b, .simple status⟩

/-- The answer to a document and the end of its job (:1148-1155, :1195-1203). -/
def endDocument (T : Transport σ) (c : IppClient) (d : Streaming σ) : Served σ :=
  let service := { d.service with pendingJob := false }
  let b := d.backend.pass c.answer
  { service
    answered := .job (if d.ok then 0x0000 else 0x0500) (service.report d.backend.now)
    backend := if d.ok then b.finishRawJob T else b }

/-- The document of the current job. -/
def takeDocument (T : Transport σ) (c : IppClient) (body : BodyReader) (s : IppPcl3Service)
    (b : UsbPrinterBackend σ) : Served σ :=
  endDocument T c (streamDocument T c.reads s b body)

/-- Print-Job (:1121). -/
def printJob (T : Transport σ) (rawConnected : Bool) (c : IppClient) (r : IppRequest) (s : IppPcl3Service)
    (b : UsbPrinterBackend σ) : Served σ :=
  if !formatOk r.attrs.documentFormat then s.refuse b "Print-Job rejected: unsupported document-format" 0x040A
  else if rawConnected then s.refuse b "Print-Job refused: RAW 9100 client holds the USB stream" 0x0503
  else if b.state = .printing then s.refuse b "Print-Job refused: printer is still printing the previous job" 0x0503
  else if !b.online then s.refuse b "Printer unavailable" 0x0507
  else takeDocument T c r.body (s.newJob r.attrs.jobName false) b

/-- Create-Job (:1157). -/
def createJob (r : IppRequest) (s : IppPcl3Service) (b : UsbPrinterBackend σ) : Served σ :=
  if b.state = .printing then s.refuse b "Create-Job refused: printer is still printing the previous job" 0x0503
  else if !b.online then s.refuse b "Create-Job refused: printer unavailable" 0x0507
  else
    let s := s.newJob r.attrs.jobName true
    ⟨s, b, .job 0x0000 (s.report b.now)⟩

/-- `jobUri.endsWith("/job/" + lastJobId_)` (:1177). -/
def uriOk (s : IppPcl3Service) (attrs : RequestAttrs) : Bool :=
  match attrs.jobUri with
  | none | some [] => true
  | some uri => (ascii s!"/job/{s.lastJobId.toNat}").isSuffixOf uri

/-- `attrs.hasJobId && (uint32_t)attrs.jobId != lastJobId_`. -/
def otherJob (s : IppPcl3Service) (attrs : RequestAttrs) : Bool :=
  match attrs.jobId with
  | none => false
  | some n => n != s.lastJobId

/-- Send-Document (:1174). -/
def sendDocument (T : Transport σ) (c : IppClient) (r : IppRequest) (s : IppPcl3Service) (b : UsbPrinterBackend σ) :
    Served σ :=
  if !s.pendingJob || s.lastJobId = 0 then s.refuse b "Send-Document: no job awaiting a document" 0x0406
  else if s.otherJob r.attrs then s.refuse b "Send-Document: job-id does not match" 0x0406
  else if !s.uriOk r.attrs then s.refuse b "Send-Document: job-uri does not match" 0x0406
  else if !formatOk r.attrs.documentFormat then
    s.refuse b "Send-Document rejected: unsupported document-format" 0x040A
  else takeDocument T c r.body { s with lastJobBytes := 0, jobStartedProcessing := false } b

/-- Send-Document takes the document of this request. -/
def acceptsDocument (s : IppPcl3Service) (attrs : RequestAttrs) : Bool :=
  s.pendingJob && s.lastJobId != 0 && !s.otherJob attrs && s.uriOk attrs && formatOk attrs.documentFormat

theorem pending_of_accepts {s : IppPcl3Service} {attrs : RequestAttrs} (h : s.acceptsDocument attrs = true) :
    s.pendingJob = true := by
  unfold acceptsDocument at h
  simp only [Bool.and_eq_true] at h
  exact h.1.1.1.1

/-- The checks of Cancel-Job (:1207-1212): the status of its refusal. -/
def refusesCancel (s : IppPcl3Service) (attrs : RequestAttrs) : Option Nat :=
  if attrs.jobId.isNone && attrs.jobUri.isNone then some 0x0400
  else if s.lastJobId = 0 || s.otherJob attrs then some 0x0406
  else if s.lastJobState = .canceled || s.lastJobState = .aborted || s.lastJobState = .completed then some 0x0404
  else none

/-- Cancel-Job (:1205). -/
def cancelJob (r : IppRequest) (s : IppPcl3Service) (b : UsbPrinterBackend σ) : Served σ :=
  match s.refusesCancel r.attrs with
  | some status => ⟨s, b, .simple status⟩
  | none =>
    let b := if b.state = .printing then b.abortRawJob "job-canceled-by-user" else b
    let s := { s with pendingJob := false }.move .canceled "job-canceled-by-user" .cancelJob
    ⟨s, b, .job 0x0000 (s.report b.now)⟩

/-- Close-Job (:1222). -/
def closeJob (s : IppPcl3Service) (b : UsbPrinterBackend σ) : Served σ :=
  if s.lastJobId = 0 then ⟨s, b, .simple 0x0406⟩
  else
    let s :=
      if s.pendingJob then
        { s with pendingJob := false, jobCompletedUpTime := upTimeSeconds b.now }.move
          .completed "job-completed-successfully" .closeJob
      else s
    ⟨s, b, .job 0x0000 (s.report b.now)⟩

/-- Get-Job-Attributes and Get-Jobs (:1236). -/
def getJobAttributes (r : IppRequest) (s : IppPcl3Service) (b : UsbPrinterBackend σ) : Served σ :=
  let s := s.refreshJobState b
  if s.otherJob r.attrs && s.lastJobId != 0 then ⟨s, b, .simple 0x0406⟩
  else if s.lastJobId != 0 then ⟨s, b, .job 0x0000 (s.report b.now)⟩
  else ⟨s, b, .simple 0x0000⟩

/-- The operations (:1067-1251). -/
def operation (T : Transport σ) (rawConnected : Bool) (c : IppClient) (r : IppRequest) (s : IppPcl3Service)
    (b : UsbPrinterBackend σ) : Served σ :=
  match r.op with
  | 0x000B => ⟨s, b, .printer r.attrs (s.snapshot b)⟩
  | 0x0004 => ⟨s, b, .simple (if formatOk r.attrs.documentFormat then 0x0000 else 0x040A)⟩
  | 0x0002 => printJob T rawConnected c r s b
  | 0x0005 => createJob r s b
  | 0x0006 => sendDocument T c r s b
  | 0x0008 => cancelJob r s b
  | 0x003B => closeJob s b
  | 0x0009 | 0x000A => getJobAttributes r s b
  | _ => ⟨s, b, .simple 0x0501⟩

/-- `handleClient` (:923). -/
def handleClient (T : Transport σ) (rawConnected : Bool) (c : IppClient) (s : IppPcl3Service)
    (b : UsbPrinterBackend σ) : IppPcl3Service × UsbPrinterBackend σ × Option Reply :=
  let s := { s with lastError := "" }.refreshJobState b
  let b := b.pass c.arrival
  match parse c.client with
  | .dropped error => ({ s with lastError := error }, b, none)
  | .malformed version requestId =>
    ({ s with lastError := "malformed IPP attributes" }, b, some ⟨version, requestId, .simple 0x0400⟩)
  | .request r =>
    let d := operation T rawConnected c r s b
    (d.service, d.backend, some ⟨r.version, r.requestId, d.answered⟩)

/-- `poll` (:914). -/
def poll (T : Transport σ) (rawConnected : Bool) (client : Option IppClient) (s : IppPcl3Service)
    (b : UsbPrinterBackend σ) : IppPcl3Service × UsbPrinterBackend σ × Option Reply :=
  if !s.started then (s, b, none)
  else
    let s := (s.refreshJobState b).trackPrinterState b
    match client with
    | none => (s, b, none)
    | some c => handleClient T rawConnected c s b

end IppPcl3Service
end PrintServer
