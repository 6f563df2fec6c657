import Mathlib.Algebra.Group.Nat.Defs
import Mathlib.Data.List.Basic
/-!
# Compile-time constants (`config.h`)

Only the constants that decide behaviour; names keep the source's words.
-/
namespace PrintServer

abbrev Bytes := List UInt8

/-- `BULK_OUT_CHUNK_SIZE` (config.h:70), also `BULK_OUT_BUFFER_SIZE` and `STREAM_CHUNK`. -/
def bulkOutChunkSize : Nat := 16 * 1024
/-- `USB_BUFFER_SIZE` = `PSRAM_RING_BUFFER_SIZE` (config.h:71-72): the RAW staging ring. -/
def usbBufferSize : Nat := 64 * 1024
/-- `USB_BULK_PIPELINE_DEPTH` (config.h:73). -/
def usbBulkPipelineDepth : Nat := 3
def postJobMinGuardMs : Nat := 1500
def postJobStatusWaitMaxMs : Nat := 10000
/-- `USB_STREAM_BUFFER_SIZE` (config.h:82). -/
def usbStreamBufferSize : Nat := 64 * 1024
/-- `IPP_BODY_BUFFER_SIZE` (config.h:89) = `BODY_BUFFER`. -/
def bodyBufferSize : Nat := usbBufferSize
def ippJobDeadlineMs : Nat := 600000

/-- `millis()`: the low 32 bits of the time since boot. -/
def millis (now : Nat) : Nat := now % 2 ^ 32

/-- `a - b` on `unsigned long` / `uint32_t`. -/
def sub32 (a b : Nat) : Nat := (a + 2 ^ 32 - b % 2 ^ 32) % 2 ^ 32

/-- ASCII text as the bytes of an Arduino `String`. -/
def ascii (s : String) : Bytes := s.toList.map fun c => UInt8.ofNat c.toNat

/-- The text a C string function sees. -/
def cstr (s : Bytes) : Bytes := s.takeWhile (· != 0)

end PrintServer
