import PrintServer.BodyReader
/-!
# An IPP request up to its document (ipp_pcl3_service.cpp:57-79, 256-268, 326-341, 763-822, 932-976)

| here | there |
| --- | --- |
| `readHttpHeader`  | `readHttpHeader` (:57) |
| `headerValue`     | `headerValue` (:69), with `toLowerCase`, `indexOf`, `toInt` and `equalsIgnoreCase` of Arduino's `String` |
| `RequestAttrs`    | `struct RequestAttrs` (:326) |
| `parseAttributes` | `parseAttributes` (:767) |
| `parse`           | the part of `handleClient` before the operation is looked at (:932-976) |

A `String` is its bytes, NUL included; what the code hands to a C string function stops at the
first NUL (`cstr`). The answer to `Expect: 100-continue` and the log lines are left out.
-/
namespace PrintServer

/-! ## Arduino `String` -/

def toLower (b : UInt8) : UInt8 := if 65 ≤ b ∧ b ≤ 90 then b + 32 else b

/-- `String::toLowerCase`. -/
def toLowerCase (s : Bytes) : Bytes := (cstr s).map toLower ++ s.drop (cstr s).length

def strstr : Bytes → Bytes → Option Nat
  | [], key => if key.isEmpty then some 0 else none
  | b :: s, key => if key.isPrefixOf (b :: s) then some 0 else (strstr s key).map (· + 1)

/-- `String::indexOf(key, start)`. -/
def indexOf (s key : Bytes) (start : Nat) : Option Nat :=
  if s.length ≤ start then none else (strstr (cstr (s.drop start)) key).map (start + ·)

/-- `String::equalsIgnoreCase`. -/
def equalsIgnoreCase (s t : Bytes) : Bool :=
  s.length == t.length && (cstr s).map toLower == (t.take (cstr s).length).map toLower

def isDigit (b : UInt8) : Bool := 48 ≤ b && b ≤ 57

/-- `String::toInt`, which is newlib's `strtol` on a 32-bit `long`. -/
def toInt (s : Bytes) : Int :=
  let t := (cstr s).dropWhile isSpace
  let neg := t.head? == some 45
  let u := if t.head? == some 45 || t.head? == some 43 then t.tail else t
  let n : Nat := (u.takeWhile isDigit).foldl (fun n b => n * 10 + (b.toNat - 48)) 0
  if neg then -(min n (2 ^ 31) : Nat) else (min n (2 ^ 31 - 1) : Nat)

theorem toInt_lt (s : Bytes) : toInt s < (2 ^ 31 : Nat) := by
  unfold toInt
  dsimp only
  split <;> omega

/-! ## The HTTP head -/

def httpHeaderLimit : Nat := 4096

/-- The loop of `readHttpHeader` (:61): at most `n` more bytes. -/
def headerLoop : Nat → Bytes → WiFiClient → Option Bytes × WiFiClient
  | 0, _, c => (none, c)
  | n + 1, header, c =>
    match readClientByte c with
    | (none, c) => (none, c)
    | (some b, c) =>
      let header := header ++ [b]
      if (crlf ++ crlf).isSuffixOf header then (some header, c) else headerLoop n header c

/-- `readHttpHeader` (:57). -/
def readHttpHeader (c : WiFiClient) : Option Bytes × WiFiClient := headerLoop httpHeaderLimit [] c

/-- `headerValue` (:69). -/
def headerValue (header : Bytes) (name : String) : Bytes :=
  let key := toLowerCase (ascii name) ++ [58]
  match indexOf (toLowerCase header) key 0 with
  | none => []
  | some start =>
    let p := start + key.length
    let p := p + ((header.drop p).takeWhile fun b => b == 32 || b == 9).length
    let stop := (indexOf header crlf p).getD header.length
    trim ((header.take stop).drop p)

/-- The reader that `handleClient` makes of the header (:954-958). -/
def bodyReader (header : Bytes) (c : WiFiClient) : BodyReader :=
  let chunked := equalsIgnoreCase (headerValue header "Transfer-Encoding") (ascii "chunked")
  let lengthText := headerValue header "Content-Length"
  { client := c, chunked, remaining := if chunked || lengthText.isEmpty then -1 else toInt lengthText }

/-! ## The attributes -/

/-- `struct RequestAttrs` (:326). -/
structure RequestAttrs where
  documentFormat : Bytes := []
  /-- As the `uint32_t` it is compared as. -/
  jobId : Option UInt32 := none
  jobUri : Option Bytes := none
  lastDocument : Option Bool := none
  jobName : Bytes := []
  requested : List Bytes := []
deriving DecidableEq, Repr

/-- `MAX_REQUESTED` (:338). -/
def maxRequested : Nat := 96

def be16 : Bytes → Nat
  | [a, b] => a.toNat * 256 + b.toNat
  | _ => 0

def be32 : Bytes → UInt32
  | [a, b, c, d] => UInt32.ofNat (((a.toNat * 256 + b.toNat) * 256 + c.toNat) * 256 + d.toNat)
  | _ => 0

/-- `readU16` (:763). -/
def readU16 (r : BodyReader) : Option Nat × BodyReader :=
  match r.readExact 2 with
  | (none, r) => (none, r)
  | (some bs, r) => (some (be16 bs), r)

namespace RequestAttrs

/-- What a value of the attribute `name` outside collections does (:798-820). `==` is `strcmp`; a
value of 256 bytes or more is read and not kept. -/
def keep (a : RequestAttrs) (name value : Bytes) : RequestAttrs :=
  let n := value.length
  let kept := if n < 256 then value else []
  if cstr name = ascii "document-format" then { a with documentFormat := kept }
  else if cstr name = ascii "job-id" ∧ n = 4 then { a with jobId := some (be32 value) }
  else if cstr name = ascii "job-uri" ∧ n < 256 then { a with jobUri := some value }
  else if cstr name = ascii "job-name" ∧ n < 128 then { a with jobName := value }
  else if cstr name = ascii "last-document" ∧ n = 1 then { a with lastDocument := some (value != [0]) }
  else if cstr name = ascii "requested-attributes" ∧ 0 < n ∧ n < 64 ∧ a.requested.length < maxRequested then
    { a with requested := a.requested ++ [value] }
  else a

end RequestAttrs

/-- The loop of `parseAttributes` (:770); each turn reads its tag. -/
def attributesLoop : Nat → Bytes → UInt8 → RequestAttrs → BodyReader → Option RequestAttrs × BodyReader
  | 0, _, _, _, r => (none, r)
  | n + 1, currentName, depth, attrs, r =>
    match r.readByte with
    | (none, r) => (none, r)
    | (some tag, r) =>
      if tag = 0x03 then (some attrs, r)
      else if tag ≤ 0x0F then attributesLoop n [] depth attrs r
      else
        match readU16 r with
        | (none, r) => (none, r)
        | (some nameLen, r) =>
          match r.readExact nameLen with
          | (none, r) => (none, r)
          | (some name, r) =>
            match readU16 r with
            | (none, r) => (none, r)
            | (some valueLen, r) =>
              match r.readExact valueLen with
              | (none, r) => (none, r)
              | (some value, r) =>
                if tag = 0x4A ∨ tag = 0x34 ∨ tag = 0x37 then
                  let depth :=
                    if tag = 0x34 then depth + 1
                    else if tag = 0x37 ∧ depth ≠ 0 then depth - 1
                    else depth
                  attributesLoop n currentName depth attrs r
                else
                  let currentName := if nameLen = 0 then currentName else name
                  let attrs := if depth = 0 then attrs.keep currentName value else attrs
                  attributesLoop n currentName depth attrs r

/-- `parseAttributes` (:767). -/
def parseAttributes (r : BodyReader) : Option RequestAttrs × BodyReader :=
  attributesLoop (r.client.size + 1) [] 0 {} r

/-- `PCL3_MIME` (config.h:58). -/
def pcl3Mime : String := "application/vnd.hp-PCL"
/-- `PRINTER_PCLM_MIME` (config.h:45). -/
def pclmMime : String := "application/PCLm"

/-- `supportedDocumentFormat` (:256). -/
def supportedDocumentFormat (format : Bytes) : Bool :=
  equalsIgnoreCase format (ascii pcl3Mime) || equalsIgnoreCase format (ascii pclmMime) ||
    equalsIgnoreCase format (ascii "application/octet-stream")

/-! ## The request -/

structure IppVersion where
  major : UInt8
  minor : UInt8
deriving DecidableEq, Repr

structure IppRequest where
  version : IppVersion
  op : Nat
  requestId : UInt32
  attrs : RequestAttrs
  /-- The reader, just behind the attributes. -/
  body : BodyReader
deriving DecidableEq, Repr

inductive Parsed where
  /-- The connection is closed without an answer; the text is left in `lastError_`. -/
  | dropped (error : String)
  /-- Answered with 0x0400. -/
  | malformed (version : IppVersion) (requestId : UInt32)
  | request (r : IppRequest)
deriving DecidableEq, Repr

/-- `handleClient` up to the operation (:932-976). -/
def parse (c : WiFiClient) : Parsed :=
  match readHttpHeader c with
  | (none, _) => .dropped "HTTP header read failed"
  | (some header, c) =>
    match (bodyReader header c).readExact 8 with
    | (some [major, minor, op1, op0, r3, r2, r1, r0], body) =>
      let version := ⟨major, minor⟩
      let requestId := be32 [r3, r2, r1, r0]
      match parseAttributes body with
      | (none, _) => .malformed version requestId
      | (some attrs, body) => .request { version, op := be16 [op1, op0], requestId, attrs, body }
    | _ => .dropped "truncated IPP header"

end PrintServer
