import PrintServer.IppMoves
import PrintServer.RawMoves
/-!
# The main loop (HP-print-server.ino:511-517)

`loop()` polls the backend, then the IPP service, for ever. One step is one of the two polls, or a
stretch of time with whatever the USB client task did in it, between any two polls. `relisten` is
the `restartRawListener` of a Wi-Fi transition (:370, :384).
-/
namespace PrintServer

/-- The poll that comes next. -/
inductive Turn where
  | backend | ipp
deriving DecidableEq, Repr

structure System (σ : Type) where
  backend : UsbPrinterBackend σ
  raw : RawServer := {}
  service : IppPcl3Service
  turn : Turn := .backend

inductive LoopAct where
  | pass (t : Tick)
  | pollBackend (relisten : Bool) (p : RawPoll)
  | pollIpp (client : Option IppClient)

namespace System
variable {σ : Type}

/-- After `setup()`; `buffer` is whether the IPP document buffer could be allocated. -/
def begin (host : UsbHostManager) (link : σ) (now : Nat) (buffer : Bool) : System σ :=
  { backend := .begin host link now, service := ({} : IppPcl3Service).begin now buffer }

def pollBackend (T : Transport σ) (relisten : Bool) (p : RawPoll) (s : System σ) : System σ :=
  let raw := if relisten then s.raw.restartRawListener p.network else s.raw
  let v := ({ backend := s.backend, raw } : Serving σ).poll T p
  { s with backend := v.backend, raw := v.raw, turn := .ipp }

def pollIpp (T : Transport σ) (client : Option IppClient) (s : System σ) : System σ :=
  let r := s.service.poll T s.raw.rawClientConnected client s.backend
  { s with service := r.1, backend := r.2.1, turn := .backend }

def step (T : Transport σ) (s : System σ) : LoopAct → Option (System σ)
  | .pass t => some { s with backend := s.backend.pass t }
  | .pollBackend relisten p => if s.turn = .backend then some (s.pollBackend T relisten p) else none
  | .pollIpp client => if s.turn = .ipp then some (s.pollIpp T client) else none

/-- A request without attributes, in one segment; the peer closes behind it. -/
def ippPost (op : UInt8) (document : Bytes) : LoopAct :=
  let body : Bytes := [2, 0, 0, op, 0, 0, 0, 1, 0x03] ++ document
  let bytes := ascii s!"POST /ipp/print HTTP/1.1\r\nContent-Length: {body.length}\r\n\r\n" ++ body
  .pollIpp (some { client := { incoming := WiFiClient.unread bytes [], closed := true } })

/-! ## What a poll of the backend is made of -/

/-- The RAW server as the poll finds it. -/
def listening (relisten : Bool) (p : RawPoll) (s : System σ) : RawServer :=
  (if relisten then s.raw.restartRawListener p.network else s.raw).startIfNeeded p.network

/-- The poll, up to the RAW server. -/
def served (T : Transport σ) (relisten : Bool) (p : RawPoll) (s : System σ) : Serving σ :=
  ({ backend := s.backend.completeDrainIfReady, raw := s.listening relisten p } : Serving σ).handleRawServer T p

theorem pollBackend_eq (T : Transport σ) (relisten : Bool) (p : RawPoll) (s : System σ) :
    s.pollBackend T relisten p =
      { s with backend := (s.served T relisten p).backend.followHost, raw := (s.served T relisten p).raw, turn := .ipp } :=
  rfl

/-- Restarting the listener does not touch a connection. -/
theorem listening_frame (relisten : Bool) (p : RawPoll) {s : System σ} (h : s.raw.Sound) :
    (s.listening relisten p).Sound ∧ (s.listening relisten p).connection = s.raw.connection ∧
      (s.listening relisten p).isOpen = s.raw.isOpen := by
  have hsound : ∀ started, ({ s.raw with started } : RawServer).Sound := fun _ =>
    ⟨⟨h.ring.readPos_lt, h.ring.dataLen_le, h.ring.writePos_eq⟩, h.closing, h.rest⟩
  unfold listening RawServer.restartRawListener
  split
  · split
    · exact ⟨hsound _, rfl, rfl⟩
    · exact ⟨hsound _, rfl, rfl⟩
  · exact ⟨hsound _, rfl, rfl⟩

theorem sound_served (T : Transport σ) (relisten : Bool) (p : RawPoll) {s : System σ} (h : s.raw.Sound) :
    (s.served T relisten p).raw.Sound :=
  Serving.sound_handleRawServer T (s := { backend := s.backend.completeDrainIfReady, raw := s.listening relisten p }) p
    (listening_frame relisten p h).1

/-! ## What a poll of the service is made of -/

/-- The request that `handleClient` gets to. -/
def request (client : Option IppClient) : Option IppRequest :=
  match client with
  | none => none
  | some c => match parse c.client with
    | .request r => some r
    | _ => none

/-- The service as a request finds it. -/
def seen (s : System σ) : IppPcl3Service := s.service.refreshJobState s.backend

end System

theorem JobRecord.refresh_frame (r : JobRecord) (printer : PrinterState) :
    (r.refresh printer).serial = r.serial ∧ ((r.refresh printer).pending = true → r.pending = true) ∧
      (r.refresh printer).started = r.started := by
  unfold refresh
  split
  · exact ⟨rfl, fun h => h, rfl⟩
  split
  · exact ⟨rfl, fun h => h, rfl⟩
  split
  · exact ⟨rfl, fun h => h, rfl⟩
  cases printer with
  | printing => exact ⟨rfl, fun h => h, rfl⟩
  | idle => exact ⟨rfl, nofun, rfl⟩
  | error => exact ⟨rfl, nofun, rfl⟩
  | offline => exact ⟨rfl, nofun, rfl⟩

theorem JobRecord.refresh_refresh (r : JobRecord) (printer : PrinterState) :
    (r.refresh printer).refresh printer = r.refresh printer := by
  unfold refresh
  by_cases h0 : r.id = 0
  · rw [if_pos h0, if_pos h0]
  by_cases h1 : (r.state = .pending && !r.begun) = true
  · rw [if_neg h0, if_pos h1, if_neg h0, if_pos h1]
  by_cases h2 : r.state ≠ .pending ∧ r.state ≠ .processing
  · rw [if_neg h0, if_neg h1, if_pos h2, if_neg h0, if_neg h1, if_pos h2]
  rw [if_neg h0, if_neg h1, if_neg h2]
  cases printer with
  | printing => rw [if_neg h0, if_neg h1, if_neg h2]
  | idle => simp [set, h0]
  | error => simp [set, h0]
  | offline => simp [set, h0]

namespace IppPcl3Service

theorem acceptsDocument_congr {s s' : IppPcl3Service} (h : s.record = s'.record) (attrs : RequestAttrs) :
    s.acceptsDocument attrs = s'.acceptsDocument attrs := by
  have hid : s.lastJobId = s'.lastJobId := congrArg JobRecord.id h
  have hp : s.pendingJob = s'.pendingJob := congrArg JobRecord.pending h
  unfold acceptsDocument otherJob uriOk
  rw [hid, hp]

theorem refusesCancel_congr {s s' : IppPcl3Service} (h : s.record = s'.record) (attrs : RequestAttrs) :
    s.refusesCancel attrs = s'.refusesCancel attrs := by
  have hid : s.lastJobId = s'.lastJobId := congrArg JobRecord.id h
  have hs : s.lastJobState = s'.lastJobState := congrArg JobRecord.state h
  unfold refusesCancel otherJob
  rw [hid, hs]

end IppPcl3Service

namespace System
variable {σ : Type}

/-- A poll of the service looks, or carries out one operation. -/
inductive Polled (client : Option IppClient) (s s' : System σ) : Prop where
  | off (h : s.service.started = false) (hr : s'.service.record = s.service.record)
      (hl : s'.backend.ledger = s.backend.ledger)
  | looked (hr : s'.service.record = s.seen.record) (hl : s'.backend.ledger = s.backend.ledger)
  | served (c : IppClient) (req : IppRequest) (service : IppPcl3Service) (b : UsbPrinterBackend σ) (d : Served σ)
      (hon : s.service.started = true) (hreq : request client = some req)
      (hs : service.record = s.seen.record) (hb : b.ledger = s.backend.ledger)
      (h : IppPcl3Service.Serves s.raw.rawClientConnected c req service b d) (hr : s'.service.record = d.service.record)
      (hl : s'.backend.ledger = d.backend.ledger)

theorem polled_pollIpp (T : Transport σ) (client : Option IppClient) (s : System σ) :
    Polled client s (s.pollIpp T client) := by
  unfold pollIpp IppPcl3Service.poll
  split
  · rename_i hoff
    exact .off (by simpa using hoff) rfl rfl
  rename_i hon
  dsimp only
  have hlook : ((s.service.refreshJobState s.backend).trackPrinterState s.backend).record = s.seen.record :=
    IppPcl3Service.record_trackPrinterState _ _
  generalize (s.service.refreshJobState s.backend).trackPrinterState s.backend = service at hlook
  cases client with
  | none => exact .looked hlook rfl
  | some c =>
    have hagain : ({ service with lastError := "" }.refreshJobState s.backend).record = s.seen.record := by
      rw [IppPcl3Service.record_refreshJobState]
      show service.record.refresh s.backend.state = _
      rw [hlook, seen, IppPcl3Service.record_refreshJobState, JobRecord.refresh_refresh]
    dsimp only
    unfold IppPcl3Service.handleClient
    dsimp only
    generalize { service with lastError := "" }.refreshJobState s.backend = service at hagain
    cases hp : parse c.client with
    | dropped error => exact .looked hagain rfl
    | malformed version requestId => exact .looked hagain rfl
    | request r =>
      refine .served c r service (s.backend.pass c.arrival) _ (by simpa using hon) ?_ hagain rfl
        (IppPcl3Service.serves_operation T) rfl rfl
      unfold request
      dsimp only
      rw [hp]

end System
end PrintServer
