import Mathlib.Algebra.Group.Int.Defs
import Mathlib.Algebra.GroupWithZero.Nat
import PrintServer.IppRequest
import PrintServer.Lib.IppGrammar
/-!
# Writing an IPP response (ipp_pcl3_service.cpp:269-323)

| here | there |
| --- | --- |
| `IppWriter`     | `struct IppWriter` (:269); `data` is `data[0..len)` |
| `attr`          | `attr` (:278): a row of `b`, `u16` and `raw` |
| `Written`       | the second half of a call on the writer: tag and value, without the name |
| `WriterOp`      | one call on the writer; `boolean` to `endCollection` (:284-305) are calls of `attr` |
| `beginResponse` | `beginResponse` (:308) |

`b` writes after a failed `raw` too, if there is room; only `ok` tells. A length is a `uint16_t`:
`octets` is what is left of a text.
-/
namespace PrintServer

open Lib.Ipp

/-- `IPP_RESPONSE_MAX` (config.h:94). -/
def ippResponseMax : Nat := 16384

structure IppWriter where
  data : Bytes := []
  cap : Nat := ippResponseMax
  ok : Bool := true
deriving DecidableEq, Repr

namespace IppWriter

def b (w : IppWriter) (v : UInt8) : IppWriter :=
  if w.data.length < w.cap then { w with data := w.data ++ [v] } else { w with ok := false }

def u16 (w : IppWriter) (v : Nat) : IppWriter := (w.b (UInt8.ofNat (v / 256))).b (UInt8.ofNat v)

def u32 (w : IppWriter) (v : UInt32) : IppWriter :=
  (((w.b (v >>> 24).toUInt8).b (v >>> 16).toUInt8).b (v >>> 8).toUInt8).b v.toUInt8

def raw (w : IppWriter) (p : Bytes) : IppWriter :=
  if !w.ok || w.cap < w.data.length + p.length then { w with ok := false } else { w with data := w.data ++ p }

/-- `attr`; no name is the empty one. -/
def attr (w : IppWriter) (tag : UInt8) (name value : Bytes) : IppWriter :=
  let w := (w.b tag).u16 name.length
  let w := if name.isEmpty then w else w.raw name
  let w := w.u16 value.length
  if value.isEmpty then w else w.raw value

/-- A delimiter tag, or a call of `attr`. -/
def item (w : IppWriter) : Item → IppWriter
  | .delimiter tag => w.b tag
  | .value tag name bytes => w.attr tag name bytes

def items (w : IppWriter) (is : List Item) : IppWriter := is.foldl item w

end IppWriter

/-! ## Values -/

/-- A value that the writer can write. -/
abbrev Written := { v : Value // v.Wf }

/-- The bytes of a text that a `uint16_t` length leaves. -/
def octets (s : Bytes) : Bytes := s.take (s.length % 2 ^ 16)

theorem length_octets (s : Bytes) : (octets s).length < 2 ^ 16 := by
  unfold octets
  rw [List.length_take]
  have := Nat.mod_lt s.length (show 0 < 2 ^ 16 by decide)
  omega

namespace Written

def plain (tag : UInt8) (bytes : Bytes) (h : IsValueTag tag := by decide) : Written :=
  ⟨.simple tag (octets bytes), h, length_octets bytes⟩

/-- `str` (:282). -/
def str (tag : UInt8) (value : Bytes) (h : IsValueTag tag := by decide) : Written := plain tag (cstr value) h

def be4 (value : Int) : Bytes :=
  let n := (value % 2 ^ 32).toNat
  [UInt8.ofNat (n / 2 ^ 24), UInt8.ofNat (n / 2 ^ 16), UInt8.ofNat (n / 2 ^ 8), UInt8.ofNat n]

/-- `integer` (:283). -/
def integer (tag : UInt8) (value : Int) (h : IsValueTag tag := by decide) : Written := plain tag (be4 value) h

/-- `boolean` (:284). -/
def boolean (value : Bool) : Written := plain 0x22 [if value then 1 else 0]

/-- `range` (:286). -/
def range (lo hi : Int) : Written := plain 0x33 (be4 lo ++ be4 hi)

/-- `resolution` (:291). -/
def resolution (dotsPerInch : Int) : Written := plain 0x32 (be4 dotsPerInch ++ be4 dotsPerInch ++ [3])

end Written

/-! ## `gmtime_r` -/

structure Calendar where
  year : Int
  month : Nat
  day : Nat
  hour : Nat
  minute : Nat
  second : Nat
deriving DecidableEq, Repr

/-- The Gregorian date and time of a `time_t`, in UTC. Days are counted in eras of 400 years that
begin on 1 March. -/
def gmtime (t : Int) : Calendar :=
  let z := t / 86400 + 719468
  let secs := (t % 86400).toNat
  let era := z / 146097
  let doe := (z % 146097).toNat
  let yoe := (doe - doe / 1460 + doe / 36524 - doe / 146096) / 365
  let doy := doe - (365 * yoe + yoe / 4 - yoe / 100)
  let mp := (5 * doy + 2) / 153
  let month := if mp < 10 then mp + 3 else mp - 9
  { year := yoe + era * 400 + (if month ≤ 2 then 1 else 0)
    month, day := doy - (153 * mp + 2) / 5 + 1
    hour := secs / 3600, minute := secs % 3600 / 60, second := secs % 60 }

example : gmtime 1704067200 = ⟨2024, 1, 1, 0, 0, 0⟩ := by decide

/-- `dateTime` (:292). -/
def Written.dateTime (t : Int) : Written :=
  let c := gmtime t
  let year := (c.year % 2 ^ 16).toNat
  plain 0x31 [UInt8.ofNat (year / 256), UInt8.ofNat year, UInt8.ofNat c.month, UInt8.ofNat c.day,
    UInt8.ofNat c.hour, UInt8.ofNat c.minute, UInt8.ofNat c.second, 0, 43, 0, 0]

/-! ## What has been written -/

namespace IppWriter
variable {w : IppWriter}

/-- `w'` is `w` after all of `bytes`, or has given up. -/
structure Wrote (w w' : IppWriter) (bytes : Bytes) : Prop where
  cap : w'.cap = w.cap
  kept : w'.ok = true → w.ok = true ∧ w'.data = w.data ++ bytes
  fits : w.ok = true → w.data.length + bytes.length ≤ w.cap → w'.ok = true

theorem Wrote.refl (w : IppWriter) : Wrote w w [] := by
  refine ⟨rfl, ?_, ?_⟩
  · intro h
    exact ⟨h, (List.append_nil _).symm⟩
  · intro h _
    exact h

theorem Wrote.trans {w' w'' : IppWriter} {x y : Bytes} (h : Wrote w w' x) (h' : Wrote w' w'' y) : Wrote w w'' (x ++ y) := by
  refine ⟨h'.cap.trans h.cap, ?_, ?_⟩
  · intro hok
    obtain ⟨h1, h2⟩ := h'.kept hok
    obtain ⟨h3, h4⟩ := h.kept h1
    exact ⟨h3, by rw [h2, h4, List.append_assoc]⟩
  · intro hok hle
    rw [List.length_append] at hle
    have h1 := h.fits hok (by omega)
    have h2 := (h.kept h1).2
    apply h'.fits h1
    rw [h2, h.cap, List.length_append]
    omega

theorem wrote_b (w : IppWriter) (v : UInt8) : Wrote w (w.b v) [v] := by
  unfold b
  split
  · exact ⟨rfl, fun h => ⟨h, rfl⟩, fun h _ => h⟩
  · rename_i hfull
    refine ⟨rfl, nofun, ?_⟩
    intro _ hle
    exact absurd (Nat.lt_of_succ_le hle) hfull

theorem wrote_u16 (w : IppWriter) (v : Nat) : Wrote w (w.u16 v) (Lib.Ipp.u16 v) := (wrote_b w _).trans (wrote_b _ _)

theorem wrote_u32 (w : IppWriter) (v : UInt32) :
    Wrote w (w.u32 v) [(v >>> 24).toUInt8, (v >>> 16).toUInt8, (v >>> 8).toUInt8, v.toUInt8] :=
  (((wrote_b w _).trans (wrote_b _ _)).trans (wrote_b _ _)).trans (wrote_b _ _)

theorem wrote_raw (w : IppWriter) (p : Bytes) : Wrote w (w.raw p) p := by
  unfold raw
  split
  · rename_i hno
    refine ⟨rfl, nofun, ?_⟩
    intro hok hle
    rw [hok] at hno
    simp at hno
    omega
  · rename_i hyes
    have hok : w.ok = true := by
      simp at hyes
      exact hyes.1
    exact ⟨rfl, fun _ => ⟨hok, rfl⟩, fun h _ => h⟩

theorem wrote_rawIf (w : IppWriter) (p : Bytes) : Wrote w (if p.isEmpty then w else w.raw p) p := by
  split
  · rename_i h
    rw [List.isEmpty_iff] at h
    rw [h]
    exact .refl w
  · exact wrote_raw w p

theorem wrote_item (w : IppWriter) (i : Item) : Wrote w (w.item i) i.encode := by
  cases i with
  | delimiter tag => exact wrote_b w tag
  | value tag name bytes =>
    have h1 := (wrote_b w tag).trans (wrote_u16 _ name.length)
    have h2 := h1.trans (wrote_rawIf _ name)
    have h3 := h2.trans (wrote_u16 _ bytes.length)
    have h4 := h3.trans (wrote_rawIf _ bytes)
    have he : (Item.value tag name bytes).encode =
        [tag] ++ Lib.Ipp.u16 name.length ++ name ++ Lib.Ipp.u16 bytes.length ++ bytes := by
      simp [Item.encode]
    rw [he]
    exact h4

/-- **What the writer holds is the encoding of the items**, or it says that it gave up. -/
theorem wrote_items (w : IppWriter) (is : List Item) : Wrote w (w.items is) (is.flatMap Item.encode) := by
  induction is generalizing w with
  | nil => exact .refl w
  | cons i is ih =>
    rw [List.flatMap_cons]
    exact (wrote_item w i).trans (ih _)

end IppWriter

/-! ## Rows of calls -/

/-- A call on the writer. A name is a C string, and the empty one if there is none. -/
inductive WriterOp where
  | b (v : UInt8)
  | u16 (v : Nat)
  | u32 (v : UInt32)
  | raw (p : Bytes)
  | attr (tag : UInt8) (name value : Bytes)

namespace WriterOp

/-- `str` (:282). -/
def str (tag : UInt8) (name : String) (value : Bytes) : WriterOp := attr tag (ascii name) (cstr value)

/-- `integer` (:283). -/
def integer (tag : UInt8) (name : String) (value : Int) : WriterOp := attr tag (ascii name) (Written.be4 value)

/-- The bytes that the call writes. -/
def encode : WriterOp → Bytes
  | b v => [v]
  | u16 v => Lib.Ipp.u16 v
  | u32 v => [(v >>> 24).toUInt8, (v >>> 16).toUInt8, (v >>> 8).toUInt8, v.toUInt8]
  | raw p => p
  | attr tag name value => (Item.value tag (octets (cstr name)) (octets value)).encode

end WriterOp

namespace IppWriter

def call (w : IppWriter) : WriterOp → IppWriter
  | .b v => w.b v
  | .u16 v => w.u16 v
  | .u32 v => w.u32 v
  | .raw p => w.raw p
  | .attr tag name value => w.attr tag (octets (cstr name)) (octets value)

def calls (w : IppWriter) (ops : List WriterOp) : IppWriter := ops.foldl call w

theorem wrote_call (w : IppWriter) (op : WriterOp) : Wrote w (w.call op) op.encode := by
  cases op with
  | b v => exact wrote_b w v
  | u16 v => exact wrote_u16 w v
  | u32 v => exact wrote_u32 w v
  | raw p => exact wrote_raw w p
  | attr tag name value => exact wrote_item w (.value tag (octets (cstr name)) (octets value))

theorem wrote_calls (w : IppWriter) (ops : List WriterOp) : Wrote w (w.calls ops) (ops.flatMap WriterOp.encode) := by
  induction ops generalizing w with
  | nil => exact .refl w
  | cons op ops ih =>
    rw [List.flatMap_cons]
    exact (wrote_call w op).trans (ih _)

/-! The buffer is not overrun, whatever `ok` says. -/

variable {w : IppWriter}

/-- `len <= cap`. -/
def Bounded (w : IppWriter) : Prop := w.data.length ≤ w.cap

theorem Bounded.b (h : w.Bounded) (v : UInt8) : (w.b v).Bounded := by
  unfold IppWriter.b
  split
  · rename_i hlt
    show (w.data ++ [v]).length ≤ w.cap
    rw [List.length_append]
    exact hlt
  · exact h

theorem Bounded.raw (h : w.Bounded) (p : Bytes) : (w.raw p).Bounded := by
  unfold IppWriter.raw
  split
  · exact h
  · rename_i hyes
    show (w.data ++ p).length ≤ w.cap
    rw [List.length_append]
    simp at hyes
    exact hyes.2

theorem Bounded.u16 (h : w.Bounded) (v : Nat) : (w.u16 v).Bounded := (h.b _).b _

theorem Bounded.u32 (h : w.Bounded) (v : UInt32) : (w.u32 v).Bounded := (((h.b _).b _).b _).b _

theorem Bounded.rawIf (h : w.Bounded) (p : Bytes) : (if p.isEmpty then w else w.raw p).Bounded := by
  split
  · exact h
  · exact h.raw p

theorem Bounded.attr (h : w.Bounded) (tag : UInt8) (name value : Bytes) : (w.attr tag name value).Bounded :=
  ((((h.b tag).u16 _).rawIf name).u16 _).rawIf value

theorem Bounded.call (h : w.Bounded) (op : WriterOp) : (w.call op).Bounded := by
  cases op with
  | b v => exact h.b v
  | u16 v => exact h.u16 v
  | u32 v => exact h.u32 v
  | raw p => exact h.raw p
  | attr tag name value => exact h.attr tag _ _

theorem Bounded.calls (h : w.Bounded) (ops : List WriterOp) : (w.calls ops).Bounded := by
  induction ops generalizing w with
  | nil => exact h
  | cons op ops ih => exact ih (h.call op)

/-- **A writer tells whether everything fitted**, after every row of calls. -/
structure Truthful (cap : Nat) (ops : List WriterOp) (w : IppWriter) : Prop where
  bounded : w.data.length ≤ cap
  /-- `ok` does not come back. -/
  sticky : ∀ more, (w.calls more).ok = true → w.ok = true
  ok_iff : w.ok = true ↔ (ops.map fun op => op.encode.length).sum ≤ cap
  whole : w.ok = true → w.data = ops.flatMap WriterOp.encode

theorem truthful_calls (cap : Nat) (ops : List WriterOp) : Truthful cap ops (({ cap } : IppWriter).calls ops) := by
  have h := wrote_calls { cap } ops
  have hempty : ({ cap } : IppWriter).Bounded := Nat.zero_le cap
  have hb := hempty.calls ops
  have hlen : (ops.flatMap WriterOp.encode).length = (ops.map fun op => op.encode.length).sum := List.length_flatMap
  refine ⟨?_, ?_, ?_, ?_⟩
  · exact Nat.le_trans hb (Nat.le_of_eq h.cap)
  · intro more hok
    exact ((wrote_calls _ more).kept hok).1
  · rw [← hlen]
    constructor
    · intro hok
      have hd : (({ cap } : IppWriter).calls ops).data = ops.flatMap WriterOp.encode := (h.kept hok).2
      rw [← hd]
      exact Nat.le_trans hb (Nat.le_of_eq h.cap)
    · intro hle
      exact h.fits rfl (by simpa using hle)
  · intro hok
    exact (h.kept hok).2

end IppWriter

/-! ## The head of a response -/

/-- The bytes before the first group. -/
def responseHead (version : IppVersion) (status : Nat) (requestId : UInt32) : Bytes :=
  [if version.major = 0 then 2 else version.major, if version.major = 0 then 0 else version.minor] ++ u16 status ++
    [(requestId >>> 24).toUInt8, (requestId >>> 16).toUInt8, (requestId >>> 8).toUInt8, requestId.toUInt8]

/-- The operation attributes (:310). -/
def operationItems : List Item :=
  [.value 0x47 (ascii "attributes-charset") (ascii "utf-8"), .value 0x48 (ascii "attributes-natural-language") (ascii "en")]

/-- `beginResponse` (:308). -/
def beginResponse (w : IppWriter) (version : IppVersion) (status : Nat) (requestId : UInt32) : IppWriter :=
  let w := w.b (if version.major = 0 then 2 else version.major)
  let w := w.b (if version.major = 0 then 0 else version.minor)
  let w := ((w.u16 status).u32 requestId).b 0x01
  w.items operationItems

theorem wrote_beginResponse (w : IppWriter) (version : IppVersion) (status : Nat) (requestId : UInt32) :
    w.Wrote (beginResponse w version status requestId)
      (responseHead version status requestId ++ (Item.delimiter 0x01 :: operationItems).flatMap Item.encode) := by
  have h1 := (IppWriter.wrote_b w (if version.major = 0 then 2 else version.major)).trans
    (IppWriter.wrote_b _ (if version.major = 0 then 0 else version.minor))
  have h2 := (h1.trans (IppWriter.wrote_u16 _ status)).trans (IppWriter.wrote_u32 _ requestId)
  have h3 := (h2.trans (IppWriter.wrote_b _ 0x01)).trans (IppWriter.wrote_items _ operationItems)
  have he : responseHead version status requestId ++ (Item.delimiter 0x01 :: operationItems).flatMap Item.encode =
      [if version.major = 0 then 2 else version.major] ++ [if version.major = 0 then 0 else version.minor] ++ u16 status ++
        [(requestId >>> 24).toUInt8, (requestId >>> 16).toUInt8, (requestId >>> 8).toUInt8, requestId.toUInt8] ++ [0x01] ++
        operationItems.flatMap Item.encode := by
    simp [responseHead, Item.encode]
  rw [he]
  exact h3

/-- `sendSimple` (:321): its bytes. -/
def simpleResponse (version : IppVersion) (status : Nat) (requestId : UInt32) : IppWriter :=
  (beginResponse {} version status requestId).b 0x03

end PrintServer
