import PrintServer.Backend
import PrintServer.Config
import PrintServer.Lib.Ring
import PrintServer.PjlDetector
/-!
# The RAW 9100 server (usb_printer_backend.cpp:82-456)

One call of `handleRawServer` is one poll: it accepts, or moves what the socket holds through the
ring to `sendDirect`, or services a close. What the socket does meanwhile is a `RawPoll`.

| here | there |
| --- | --- |
| `RawServer`       | the file-level variables `raw*`, `ring*` and `pjlDetector` (:82-96) |
| `RawPoll.rx`      | what the successive `rawClient.read` of this poll return (:334) |
| `RawPoll.pending` | `rawClient.available() > 0` after the loop (:401) |
| `RawPoll.peer`    | `rawPeerState` (:108) |
| `Serving.log`     | the `Log.printf` lines, every read of bytes, and every `sendDirect` with its result |

`connection` is `rawJobSequence` without its wrap at 2³². `RAW_APPEND_JOB_TERMINATOR` is the
constant false, so its branch (:217-223) is left out; so is `consecutiveEmptyReads`, which nothing
reads.
-/
namespace PrintServer

def rawCloseGuardMs : Nat := 250
def rawProbeIdleTimeoutMs : Nat := 30000
def rawIdleTimeoutMs : Nat := 60000

/-- The error numbers that matter to the server. -/
inductive SocketError where
  | connReset | connAborted | brokenPipe
  | other (errno : Nat)
deriving DecidableEq, Repr

/-- The `String(peerError)` of the log. -/
def SocketError.number : SocketError → Nat
  | .connReset => 104
  | .connAborted => 113
  | .brokenPipe => 32
  | .other errno => errno

inductive RawPeerState where
  | isOpen | cleanFin
  | error (errno : SocketError)
deriving DecidableEq, Repr

structure RawPoll where
  /-- `startRawServerIfNeeded` (:430) finds the network up. -/
  network : Bool := true
  /-- `rawServer.accept()` has a client. -/
  accept : Bool := false
  rx : List Bytes := []
  pending : Bool := false
  peer : RawPeerState := .isOpen

structure RawServer where
  started : Bool := false
  /-- `rawClientAllocated` (:104). -/
  client : Bool := false
  lastDataMs : Nat := 0
  bytesReceived : Nat := 0
  connection : Nat := 0
  transportClosing : Bool := false
  closeGuardStarted : Bool := false
  transportCloseAtMs : Nat := 0
  mem : Nat → UInt8 := fun _ => 0
  pjl : PjlDetector := .idle
  writePos : Nat := 0
  readPos : Nat := 0
  dataLen : Nat := 0

inductive RawEvent where
  | rejected
  | connected
  | read (data : Bytes)
  | sent (data : Bytes) (ok : Bool)
  | eoj
  | inputComplete (reason : String)
  | closedWithoutData
  | complete
  | incomplete (reason : String)
  /-- The two idle timeouts (:383, :394). -/
  | stalled
  | probeIdle
deriving DecidableEq, Repr

/-- The server with its backend during a call. -/
structure Serving (σ : Type) where
  backend : UsbPrinterBackend σ
  raw : RawServer
  log : List RawEvent := []

namespace RawServer

/-- `rawClientConnected` (:443). -/
def rawClientConnected (r : RawServer) : Bool := r.client || r.transportClosing

/-- `resetRawTransportState` (:180). -/
def reset (r : RawServer) : RawServer :=
  { r with
    client := false, bytesReceived := 0, transportClosing := false, closeGuardStarted := false
    transportCloseAtMs := 0, pjl := .idle, writePos := 0, readPos := 0, dataLen := 0 }

/-- Without a connection the ring is empty and at its start. -/
def Rest (r : RawServer) : Prop :=
  r.rawClientConnected = false → r.writePos = 0 ∧ r.readPos = 0 ∧ r.dataLen = 0

/-- `startRawServerIfNeeded` (:430). -/
def startIfNeeded (r : RawServer) (network : Bool) : RawServer := { r with started := r.started || network }

/-- `restartRawListener` (:447). -/
def restartRawListener (r : RawServer) (network : Bool) : RawServer :=
  if r.rawClientConnected then r else { r with started := false }.startIfNeeded network

/-- The room of one read (:323-333). `available()` only lowers it, and `rx` holds no more than that. -/
def request (r : RawServer) : Nat :=
  let want := min bulkOutChunkSize (usbBufferSize - r.dataLen)
  if usbBufferSize < r.writePos + want then usbBufferSize - r.writePos else want

/-- A read of `got` (:334-342). -/
def receive (r : RawServer) (now : Nat) (got : Bytes) : RawServer :=
  { r with
    mem := Lib.Ring.write r.mem r.writePos got
    writePos := (r.writePos + got.length) % usbBufferSize
    dataLen := r.dataLen + got.length
    lastDataMs := millis now }

/-- `want2` bytes went out (:275-277). -/
def sent (r : RawServer) (n : Nat) : RawServer :=
  { r with
    bytesReceived := r.bytesReceived + n
    readPos := (r.readPos + n) % usbBufferSize
    dataLen := r.dataLen - n }

end RawServer

namespace Serving
variable {σ : Type}

def note (s : Serving σ) (e : RawEvent) : Serving σ := { s with log := s.log ++ [e] }

/-- `abortRawConnection` (:193). -/
def abortRawConnection (reason : String) (s : Serving σ) : Serving σ :=
  let backend := if 0 < s.raw.bytesReceived then s.backend.abortRawJob reason else s.backend
  { s with backend, raw := s.raw.reset }.note (.incomplete reason)

/-- `finishRawConnection` (:206). -/
def finishRawConnection (T : Transport σ) (reason : String) (s : Serving σ) : Serving σ :=
  if s.raw.transportClosing then s
  else if s.raw.bytesReceived = 0 then { s with raw := s.raw.reset }.note .closedWithoutData
  else
    { s with
      backend := s.backend.finishRawJob T
      raw := { s.raw with transportClosing := true, closeGuardStarted := false, transportCloseAtMs := 0 } }.note
      (.inputComplete reason)

/-- `serviceRawTransportClose` (:234). -/
def serviceRawTransportClose (s : Serving σ) : Serving σ :=
  if !s.raw.transportClosing then s
  else if !s.raw.closeGuardStarted then
    { s with
      raw := { s.raw with
        closeGuardStarted := true
        transportCloseAtMs := (millis s.backend.now + rawCloseGuardMs) % 2 ^ 32 } }
  else if 2 ^ 31 ≤ sub32 (millis s.backend.now) s.raw.transportCloseAtMs then s
  else { s with raw := s.raw.reset }.note .complete

/-- `drainRingToUsb` (:261). Every turn sends at least one byte, so `dataLen` turns are enough. -/
def drainLoop (T : Transport σ) : Nat → Serving σ → Bool × Serving σ
  | 0, s => (true, s)
  | fuel + 1, s =>
    if s.raw.dataLen = 0 then (true, s)
    else
      let want := min (min s.raw.dataLen bulkOutChunkSize) (usbBufferSize - s.raw.readPos)
      let data := Lib.Ring.read s.raw.mem s.raw.readPos want
      match s.backend.sendDirect T (.raw s.raw.connection) data with
      | (none, b) => drainLoop T fuel ({ s with backend := b, raw := s.raw.sent want }.note (.sent data true))
      | (some error, b) => (false, ({ s with backend := b }.note (.sent data false)).abortRawConnection error)

def drainRingToUsb (T : Transport σ) (s : Serving σ) : Bool × Serving σ := drainLoop T s.raw.dataLen s

/-- The read loop (:322-367); false if the poll ended inside it. -/
def readLoop (T : Transport σ) : List Bytes → Serving σ → Bool × Serving σ
  | [], s => (true, s)
  | bs :: rx, s =>
    if usbBufferSize ≤ s.raw.dataLen then (true, s)
    else
      let got := bs.take s.raw.request
      if got.isEmpty then (true, s)
      else
        let raw := s.raw.receive s.backend.now got
        match s.raw.pjl.scan got with
        | (false, pjl) => readLoop T rx ({ s with raw := { raw with pjl } }.note (.read got))
        | (true, _) =>
          match (({ s with raw := { raw with pjl := .idle } }.note (.read got)).note .eoj).drainRingToUsb T with
          | (false, s) => (false, s)
          | (true, s) => (false, s.finishRawConnection T "pjl-eoj-detected")

/-- The timeouts and the peer, once the ring was drained (:379-426). -/
def checkPeer (T : Transport σ) (p : RawPoll) (s : Serving σ) : Serving σ :=
  let quiet := sub32 (millis s.backend.now) s.raw.lastDataMs
  if 0 < s.raw.bytesReceived ∧ rawIdleTimeoutMs ≤ quiet then
    (s.note .stalled).abortRawConnection "TCP client stalled before sending job FIN"
  else if s.raw.bytesReceived = 0 ∧ rawProbeIdleTimeoutMs ≤ quiet then
    { s with raw := s.raw.reset }.note .probeIdle
  else
    -- a reset client has no descriptor: not pending, and ENOTCONN
    let pending := s.raw.client && p.pending
    match if s.raw.client then p.peer else .error (.other 128) with
    | .isOpen => s
    | .cleanFin =>
      if !pending ∧ s.raw.dataLen = 0 then s.finishRawConnection T "clean-peer-FIN-and-buffer-drained" else s
    | .error errno =>
      if pending then s
      else if 0 < s.raw.bytesReceived ∧ s.raw.dataLen = 0 ∧
          (errno = .connReset ∨ errno = .connAborted ∨ errno = .brokenPipe) then
        s.finishRawConnection T "android-peer-reset-after-buffer-drained"
      else s.abortRawConnection s!"TCP peer ended without clean FIN; errno={errno.number}"

/-- `handleRawServer` (:284). -/
def handleRawServer (T : Transport σ) (p : RawPoll) (s : Serving σ) : Serving σ :=
  if !s.raw.started then s
  else if s.raw.transportClosing then
    if 0 < s.raw.dataLen then
      match s.drainRingToUsb T with
      | (false, s) => s
      | (true, s) => if 0 < s.raw.dataLen then s else s.serviceRawTransportClose
    else s.serviceRawTransportClose
  else if !s.raw.client then
    if !p.accept then s
    else if !s.backend.online then s.note .rejected
    else
      { s with
        raw := { s.raw with
          client := true, lastDataMs := millis s.backend.now, bytesReceived := 0
          connection := s.raw.connection + 1, pjl := .idle } }.note .connected
  else
    match s.readLoop T p.rx with
    | (false, s) => s
    -- the result of the drain is not looked at; after an abort the connection is reset by now
    | (true, s) => (s.drainRingToUsb T).2.checkPeer T p

/-- `UsbPrinterBackend::poll` (usb_printer_backend.cpp:579). -/
def poll (T : Transport σ) (p : RawPoll) (s : Serving σ) : Serving σ :=
  let s := { s with raw := s.raw.startIfNeeded p.network, backend := s.backend.completeDrainIfReady }
  let s := s.handleRawServer T p
  { s with backend := s.backend.followHost }

/-- Without a connection a call accepts a client, or leaves the server as it is. -/
theorem handleRawServer_free (T : Transport σ) (p : RawPoll) {s : Serving σ} (hc : s.raw.rawClientConnected = false) :
    (s.handleRawServer T p).raw = s.raw ∨
      (s.raw.started = true ∧ s.raw.transportClosing = false ∧ s.handleRawServer T p = { s with
        raw := { s.raw with
          client := true, lastDataMs := millis s.backend.now, bytesReceived := 0
          connection := s.raw.connection + 1, pjl := .idle } }.note .connected) := by
  have hc' : s.raw.client = false ∧ s.raw.transportClosing = false := by
    simpa [RawServer.rawClientConnected] using hc
  unfold handleRawServer
  split
  · exact Or.inl rfl
  rename_i hs
  simp only [hc'.1, hc'.2, Bool.false_eq_true, if_false, Bool.not_false, if_true]
  split
  · exact Or.inl rfl
  split
  · exact Or.inl rfl
  · exact Or.inr ⟨by simpa using hs, trivial, rfl⟩

end Serving
end PrintServer
