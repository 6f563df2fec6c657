import PrintServer.Config
import Mathlib.Data.List.DropRight
/-!
# The HTTP body reader of the IPP service (ipp_pcl3_service.cpp:28-254)

| here | there |
| --- | --- |
| `WiFiClient`       | the accepted socket: what `available()` reports, segment by segment, and how it ends |
| `readClientByte`   | `readClientByte` (:28) |
| `readClientBlock`  | `readClientBlock` (:41) |
| `BodyReader`       | `struct BodyReader` (:103) |
| `strtoul16`        | newlib's `strtoul(s, &endp, 16)` on a 32-bit `unsigned long` |

A segment is what one `available()` call reports, so a `read` inside it returns as many bytes as
it asks for; a short read is a shorter segment. A `stall` is a silence longer than the timeout.
The loops run on fuel that the socket bounds: every turn that goes on has consumed a byte.
-/
namespace PrintServer

/-! ## The socket -/

inductive NetEvent where
  /-- `available()` reports `bs.length + 1` bytes. -/
  | seg (b : UInt8) (bs : Bytes)
  /-- Nothing arrives for a whole timeout. -/
  | stall
deriving DecidableEq, Repr

structure WiFiClient where
  incoming : List NetEvent
  /-- After the last event the peer has closed (otherwise it stays silent). -/
  closed : Bool
deriving DecidableEq, Repr

namespace WiFiClient

def connected (c : WiFiClient) : Bool := !c.incoming.isEmpty || !c.closed

def available (c : WiFiClient) : Nat :=
  match c.incoming with
  | .seg _ bs :: _ => bs.length + 1
  | _ => 0

def NetEvent.data : NetEvent → Bytes
  | .seg b bs => b :: bs
  | .stall => []

/-- All the bytes that are still to be read. -/
def bytes (c : WiFiClient) : Bytes := c.incoming.flatMap NetEvent.data

/-- Bytes and stalls still to come: bounds every read loop. -/
def size (c : WiFiClient) : Nat := c.bytes.length + c.incoming.length

/-- What is left of a segment goes back to the front of the queue. -/
def unread (rest : Bytes) (es : List NetEvent) : List NetEvent :=
  match rest with
  | [] => es
  | b :: bs => .seg b bs :: es

end WiFiClient

/-- `readClientByte` (:28). -/
def readClientByte (c : WiFiClient) : Option UInt8 × WiFiClient :=
  match c.incoming with
  | .seg b bs :: es => (some b, { c with incoming := WiFiClient.unread bs es })
  | .stall :: es => (none, { c with incoming := es })
  | [] => (none, c)

/-- `readClientBlock` (:41) for a positive capacity; no bytes is its `return 0`. -/
def readClientBlock (c : WiFiClient) (capacity : Nat) : Bytes × WiFiClient :=
  match c.incoming with
  | .seg b bs :: es =>
    ((b :: bs).take capacity, { c with incoming := WiFiClient.unread ((b :: bs).drop capacity) es })
  | .stall :: es => ([], { c with incoming := es })
  | [] => ([], c)

/-! ## Arduino `String` and `strtoul` on a size line -/

def lf : UInt8 := 10
def cr : UInt8 := 13
def crlf : Bytes := [cr, lf]

def isSpace (b : UInt8) : Bool := b == 32 || (9 ≤ b && b ≤ 13)

/-- `String::trim`. -/
def trim (s : Bytes) : Bytes := (s.dropWhile isSpace).rdropWhile isSpace

def hexVal (b : UInt8) : Option Nat :=
  if 48 ≤ b ∧ b ≤ 57 then some (b.toNat - 48)
  else if 97 ≤ b ∧ b ≤ 102 then some (b.toNat - 87)
  else if 65 ≤ b ∧ b ≤ 70 then some (b.toNat - 55)
  else none

def isHex (b : UInt8) : Bool := (hexVal b).isSome

def hexValue (ds : Bytes) : Nat := ds.foldl (fun acc b => acc * 16 + (hexVal b).getD 0) 0

/-- `strtoul(s, &endp, 16)`: the number and the text at `endp`. Leading blanks, a sign and a `0x`
are skipped; without a digit `endp` is `s`; a value that does not fit saturates. -/
def strtoul16 (s : Bytes) : Nat × Bytes :=
  let t := s.dropWhile isSpace
  let neg := t.head? == some 45
  let u := if t.head? == some 45 || t.head? == some 43 then t.tail else t
  let v := if u.take 2 == [48, 120] || u.take 2 == [48, 88] then u.drop 2 else u
  let ds := v.takeWhile isHex
  if ds.isEmpty then (0, s)
  else
    let n := hexValue ds
    (if 2 ^ 32 ≤ n then 2 ^ 32 - 1 else if neg then (2 ^ 32 - n) % 2 ^ 32 else n, v.dropWhile isHex)

/-- The size text of a chunk-size line (:147-149): up to the first `;` that `strchr` sees. -/
def sizeText (line : Bytes) : Bytes :=
  trim (if 59 ∈ cstr line then (cstr line).takeWhile (· != 59) else line)

/-- nextChunk (:147-152): the size, or `none` when `*endp != 0`. -/
def parseChunkSize (line : Bytes) : Option Nat :=
  let p := strtoul16 (cstr (sizeText line))
  if p.2.isEmpty then some p.1 else none

/-! ## `struct BodyReader` -/

structure BodyReader where
  client : WiFiClient
  chunked : Bool
  /-- `-1` when the body has no Content-Length. -/
  remaining : Int
  chunkRemaining : Nat := 0
  done : Bool := false
  framingError : Bool := false
  peerClosed : Bool := false
deriving DecidableEq, Repr

namespace BodyReader

/-- The check behind `peerClosed`: the peer is gone and nothing is left to read. -/
def gone (c : WiFiClient) : Bool := !c.connected && c.available == 0

/-- `rawByte` (:114). -/
def rawByte (r : BodyReader) : Option UInt8 × BodyReader :=
  match readClientByte r.client with
  | (some b, c) => (some b, { r with client := c })
  | (none, c) => (none, { r with client := c, peerClosed := r.peerClosed || gone c })

/-- `if (line.endsWith("\r")) line.remove(line.length() - 1)` (:126). -/
def stripCr (line : Bytes) : Bytes := if line.getLast? = some cr then line.dropLast else line

/-- The loop of `rawLine` (:123): at most `n` more bytes. -/
def rawLineLoop : Nat → Bytes → BodyReader → Bool × Bytes × BodyReader
  | 0, line, r => (false, line, r)
  | n + 1, line, r =>
    match r.rawByte with
    | (none, r) => (false, line, r)
    | (some b, r) => if b = lf then (true, stripCr line, r) else rawLineLoop n (line ++ [b]) r

/-- `rawLine` (:120): whether a line was read, and its text. -/
def rawLine (r : BodyReader) : Bool × Bytes × BodyReader := rawLineLoop 128 [] r

/-- The `do … while (line.length() == 0)` of `nextChunk` (:136-145). -/
def sizeLine : Nat → BodyReader → Option Bytes × BodyReader
  | 0, r => (none, r)
  | n + 1, r =>
    match r.rawLine with
    | (false, line, r) =>
      (none, if r.peerClosed && line.isEmpty then r else { r with framingError := true })
    | (true, line, r) => if line.isEmpty then sizeLine n r else (some line, r)

/-- The trailer loop of `nextChunk` (:155-157). -/
def skipTrailer : Nat → BodyReader → BodyReader
  | 0, r => r
  | n + 1, r =>
    match r.rawLine with
    | (false, _, r) => r
    | (true, line, r) => if line.isEmpty then r else skipTrailer n r

/-- `nextChunk` (:134). -/
def nextChunk (r : BodyReader) : Bool × BodyReader :=
  match sizeLine (r.client.size + 1) r with
  | (none, r) => (false, r)
  | (some line, r) =>
    match parseChunkSize line with
    | none => (false, { r with framingError := true })
    | some 0 => (false, { skipTrailer (r.client.size + 1) r with done := true })
    | some n => (true, { r with chunkRemaining := n })

/-- `!rawByte(cr) || !rawByte(lf) || cr != '\r' || lf != '\n'` (:181, :246), negated. -/
def readCrlf (r : BodyReader) : Bool × BodyReader :=
  match r.rawByte with
  | (none, r) => (false, r)
  | (some a, r) =>
    match r.rawByte with
    | (none, r) => (false, r)
    | (some b, r) => (a = cr && b = lf, r)

/-- The bookkeeping after `n` bytes of the current chunk (:178-185, :242-250): the chunk's CRLF
is read with its last byte. The flag is false on a framing error. -/
def endData (r : BodyReader) (n : Nat) : Bool × BodyReader :=
  let r := { r with chunkRemaining := r.chunkRemaining - n }
  if r.chunkRemaining = 0 then
    match r.readCrlf with
    | (true, r) => (true, r)
    | (false, r) => (false, { r with framingError := true })
  else (true, r)

/-- `if (chunkRemaining == 0 && !nextChunk())` (:176, :227). -/
def openChunk (r : BodyReader) : Bool × BodyReader :=
  if r.chunkRemaining = 0 then r.nextChunk else (true, r)

/-- `readByte` (:166). -/
def readByte (r : BodyReader) : Option UInt8 × BodyReader :=
  if r.done || r.framingError then (none, r)
  else if !r.chunked then
    if r.remaining = 0 then (none, { r with done := true })
    else
      match r.rawByte with
      | (none, r) => (none, r)
      | (some b, r) =>
        let left := if 0 < r.remaining then r.remaining - 1 else r.remaining
        (some b, { r with remaining := left, done := decide (left = 0) })
  else
    match r.openChunk with
    | (false, r) => (none, r)
    | (true, r) =>
      match r.rawByte with
      | (none, r) => (none, r)
      | (some b, r) =>
        match r.endData 1 with
        | (true, r) => (some b, r)
        | (false, r) => (none, r)

/-- `readExact` (:189); the bytes read before a failure are lost. -/
def readExact : Nat → BodyReader → Option Bytes × BodyReader
  | 0, r => (some [], r)
  | n + 1, r =>
    match r.readByte with
    | (none, r) => (none, r)
    | (some b, r) =>
      match readExact n r with
      | (none, r) => (none, r)
      | (some bs, r) => (some (b :: bs), r)

/-- `atChunkBoundary` (:197). -/
def atChunkBoundary (r : BodyReader) : Bool :=
  r.chunked && !r.framingError && !r.done && r.chunkRemaining == 0

/-- The chunked loop of `readBlock` (:226-251); every turn adds at least one byte to `out`. -/
def blockLoop (capacity : Nat) : Nat → Bytes → BodyReader → Bytes × BodyReader
  | 0, out, r => (out, r)
  | n + 1, out, r =>
    if out.length < capacity && !r.done && !r.framingError then
      match r.openChunk with
      | (false, r) => (out, r)
      | (true, r) =>
        match readClientBlock r.client (min r.chunkRemaining (capacity - out.length)) with
        | ([], c) => (out, { r with client := c, peerClosed := r.peerClosed || gone c })
        | (got, c) =>
          match endData { r with client := c } got.length with
          | (true, r) => blockLoop capacity n (out ++ got) r
          | (false, r) => (out ++ got, r)
    else (out, r)

/-- `readBlock` (:203). -/
def readBlock (r : BodyReader) (capacity : Nat) : Bytes × BodyReader :=
  if capacity = 0 || r.done || r.framingError then ([], r)
  else if !r.chunked then
    if r.remaining = 0 then ([], { r with done := true })
    else
      let want := if 0 < r.remaining then min capacity r.remaining.toNat else capacity
      match readClientBlock r.client want with
      | ([], c) =>
        if gone c then ([], { r with client := c, peerClosed := true, done := decide (r.remaining < 0) })
        else ([], { r with client := c })
      | (got, c) =>
        if 0 < r.remaining then
          let left := r.remaining - got.length
          (got, { r with client := c, remaining := left, done := decide (left = 0) })
        else (got, { r with client := c })
  else blockLoop capacity capacity [] r

end BodyReader
end PrintServer
