import PrintServer.IppService
import PrintServer.IppWriter
/-!
# Get-Printer-Attributes (ipp_pcl3_service.cpp:80-101, 343-371, 412-761, 826-853)

| here | there |
| --- | --- |
| `AttrFilter`            | `struct AttrFilter` (:343) |
| `Block`                 | the writes of one attribute: an `if (f.want(...)) { ... }`, or its unconditional part |
| `required`              | the minimum set (:469-493) |
| `optional`              | everything behind a `want` (:495-752), in order; the margins loop (:683) is four entries |
| `sendPrinterAttributes` | `sendPrinterAttributes` (:464): the writer whose bytes are sent |

A block lists its values; the first one is written with the attribute's name, or, where the source
says `i ? name : nullptr`, all the others. The three `PRINTER_*` switches are on, as in config.h.
-/
namespace PrintServer

open Lib.Ipp

/-! ## `AttrFilter` -/

structure AttrFilter where
  req : List Bytes
  all : Bool
  description : Bool
  jobTemplate : Bool

namespace AttrFilter

/-- One turn of the constructor's loop (:352-360). -/
def group (f : AttrFilter) (v : Bytes) : AttrFilter :=
  if equalsIgnoreCase v (ascii "all") then { f with all := true }
  else if equalsIgnoreCase v (ascii "printer-description") then { f with description := true }
  else if equalsIgnoreCase v (ascii "job-template") then { f with jobTemplate := true }
  else if equalsIgnoreCase v (ascii "document-description") then { f with description := true }
  else f

/-- The constructor (:349). -/
def make (requested : List Bytes) : AttrFilter :=
  if requested = [] then ⟨requested, true, false, false⟩ else requested.foldl group ⟨requested, false, false, false⟩

/-- `want` (:363). -/
def want (f : AttrFilter) (name : String) (tmpl : Bool) : Bool :=
  f.all || f.req.any (fun v => equalsIgnoreCase v (ascii name)) || if tmpl then f.jobTemplate else f.description

end AttrFilter

/-! ## The printer's addresses -/

/-- What the response takes from outside the service. -/
structure Site where
  /-- The Wi-Fi address; `none` is the address 0. -/
  ip : Option (UInt8 × UInt8 × UInt8 × UInt8)
  mac : Fin 6 → UInt8
  /-- `time(nullptr)`. -/
  clock : Int
  now : Nat
  /-- The clocks at the second and the third call of `epochNow` (:531, :534). -/
  configClock : Int := clock
  configNow : Nat := now
  stateClock : Int := configClock
  stateNow : Nat := configNow

namespace Site

def decimal (n : Nat) : Bytes := ascii (toString n)

/-- `hostForUri` (:91). -/
def host (s : Site) : Bytes :=
  match s.ip with
  | some (a, b, c, d) =>
    decimal a.toNat ++ ascii "." ++ decimal b.toNat ++ ascii "." ++ decimal c.toNat ++ ascii "." ++ decimal d.toNat
  | none => ascii "printer.local"

/-- `ippBaseUri` (:97); `IPP_PORT` is 631 (config.h:20). -/
def ippBaseUri (s : Site) : Bytes := ascii "ipp://" ++ s.host ++ ascii ":631/ipp/print"

/-- `httpBaseUri` (:101). -/
def httpBaseUri (s : Site) : Bytes := ascii "http://" ++ s.host

def hexDigit (n : Nat) : UInt8 := UInt8.ofNat (if n < 10 then 48 + n else 87 + n)

/-- `%02x`. -/
def hex2 (b : UInt8) : Bytes := [hexDigit (b.toNat / 16), hexDigit (b.toNat % 16)]

/-- `printerUuidBare` (:826). -/
def uuidBare (s : Site) : Bytes :=
  let m := s.mac
  ascii "4850" ++ hex2 (m 0) ++ hex2 (m 1) ++ ascii "-" ++ hex2 (m 2) ++ hex2 (m 3) ++ ascii "-" ++
    hex2 (m 4 &&& 0x0F ||| 0x40) ++ hex2 (m 5) ++ ascii "-" ++
    hex2 ((m 0 ^^^ 0xA5) &&& 0x3F ||| 0x80) ++ hex2 (m 1 ^^^ 0x5A) ++ ascii "-" ++
    hex2 (m 2 ^^^ 0x3C) ++ hex2 (m 3 ^^^ 0xC3) ++ hex2 (m 4 ^^^ 0x0F) ++ hex2 (m 5 ^^^ 0xF0) ++ ascii "1234"

/-- `epochNow` (:83). -/
def epochNow (s : Site) : Int := if s.clock < 1600000000 then 1704067200 + upTimeSeconds s.now else s.clock

def configEpoch (s : Site) : Int := { s with clock := s.configClock, now := s.configNow }.epochNow

def stateEpoch (s : Site) : Int := { s with clock := s.stateClock, now := s.stateNow }.epochNow

end Site

/-! ## Media -/

/-- `struct MediaDef` (:413). -/
structure MediaDef where
  name : String
  x : Int
  y : Int
  borderless : Bool
  ready : Bool
  type : String

/-- `MEDIA_DEFS` (:424). -/
def mediaDefs : List MediaDef :=
  [⟨"iso_a4_210x297mm", 21000, 29700, true, true, "stationery"⟩,
   ⟨"na_letter_8.5x11in", 21590, 27940, true, true, "stationery"⟩,
   ⟨"om_small-photo_100x150mm", 10000, 15000, true, false, "photographic"⟩,
   ⟨"iso_a6_105x148mm", 10500, 14800, false, false, "stationery"⟩,
   ⟨"jis_b5_182x257mm", 18200, 25700, false, false, "stationery"⟩,
   ⟨"na_legal_8.5x14in", 21590, 35560, false, false, "stationery"⟩,
   ⟨"iso_dl_110x220mm", 11000, 22000, false, false, "stationery"⟩]

/-- `PRINTER_PAPER_MARGIN` (config.h:39). -/
def printerPaperMargin : Int := 300

namespace Written

def text (tag : UInt8) (s : String) (h : IsValueTag tag := by decide) : Written := str tag (ascii s) h

def texts (tag : UInt8) (ss : List String) (h : IsValueTag tag := by decide) : List Written := ss.map fun s => text tag s h

/-- `writeMediaSize` (:435), its collection. -/
def mediaSize (x y : Int) : Written :=
  ⟨.collection (.member (ascii "x-dimension") (integer 0x21 x).1 (.member (ascii "y-dimension") (integer 0x21 y).1 .nil)),
    by decide, (integer 0x21 x).2, by decide, (integer 0x21 y).2, trivial⟩

/-- The four margin members (:455-458). -/
def marginMembers (margin : Int) : Members :=
  .member (ascii "media-left-margin") (integer 0x21 margin).1 (.member (ascii "media-right-margin") (integer 0x21 margin).1
    (.member (ascii "media-top-margin") (integer 0x21 margin).1
      (.member (ascii "media-bottom-margin") (integer 0x21 margin).1 .nil)))

theorem marginMembers_wf (margin : Int) : (marginMembers margin).Wf true := by
  have h := (integer 0x21 margin).2
  exact ⟨by decide, h, by decide, h, by decide, h, by decide, h, trivial⟩

/-- `writeMediaCol` (:444), its collection; `none` is a negative margin. -/
def mediaCol (media : MediaDef) (margin : Option Int) : Written :=
  let tail := match margin with
    | some m => marginMembers m
    | none => .nil
  ⟨.collection (.member (ascii "media-size") (mediaSize media.x media.y).1
      (.member (ascii "media-size-name") (text 0x44 media.name).1
        (.member (ascii "media-type") (text 0x44 media.type).1 (.member (ascii "media-source") (text 0x44 "main").1 tail)))),
    by decide, (mediaSize media.x media.y).2, by decide, (text 0x44 media.name).2, by decide, (text 0x44 media.type).2,
    by decide, (text 0x44 "main").2, by
      cases margin with
      | some m => exact marginMembers_wf m
      | none => trivial⟩

end Written

/-! ## The attributes -/

namespace PrinterAttributes

structure Block where
  name : String
  /-- The `tmpl` of its `want`: it belongs to the job-template group. -/
  tmpl : Bool := false
  values : List Written
  /-- The name goes to `i ? name : nullptr`. -/
  inverted : Bool := false

namespace Block

/-- Whether the value at `i` is written with the name. -/
def named (b : Block) (i : Nat) : Bool := if b.inverted then i != 0 else i == 0

def itemsFrom (b : Block) : Nat → List Written → List Item
  | _, [] => []
  | i, v :: vs => v.1.items (if b.named i then ascii b.name else []) ++ b.itemsFrom (i + 1) vs

/-- The calls of the writer. -/
def items (b : Block) : List Item := b.itemsFrom 0 b.values

end Block

open Written

/-- The minimum set (:469-493). -/
def required (site : Site) (snap : PrinterSnapshot) : List Block :=
  [{ name := "printer-uri-supported", values := [str 0x45 site.ippBaseUri] },
   { name := "uri-security-supported", values := texts 0x44 ["none"] },
   { name := "uri-authentication-supported", values := texts 0x44 ["requesting-user-name"] },
   { name := "printer-name", values := texts 0x42 ["HP Smart Tank"] },
   { name := "printer-state", values := [integer 0x23 snap.ippState] },
   { name := "printer-state-reasons", values := texts 0x44 [snap.reasons] },
   { name := "printer-is-accepting-jobs", values := [boolean snap.accepting] },
   { name := "ipp-versions-supported", values := texts 0x44 ["1.0", "1.1", "2.0"] },
   { name := "operations-supported"
     values := [0x0002, 0x0004, 0x0005, 0x0006, 0x0008, 0x0009, 0x000A, 0x000B, 0x003B].map (integer 0x23 ·) },
   { name := "charset-configured", values := texts 0x47 ["utf-8"] },
   { name := "charset-supported", values := texts 0x47 ["utf-8", "us-ascii"] },
   { name := "natural-language-configured", values := texts 0x48 ["en"] },
   { name := "generated-natural-language-supported", values := texts 0x48 ["en"] },
   { name := "document-format-supported", values := texts 0x49 [pcl3Mime, pclmMime, "application/octet-stream"] },
   { name := "document-format-default", values := texts 0x49 [pcl3Mime] }]

/-- `PRINTER_MAKE_MODEL` (config.h:25). -/
def makeModel : String := "HP Smart Tank 520"
/-- `PRINTER_DEVICE_ID` (config.h:50). -/
def deviceId : String := "MFG:HP;MDL:Smart Tank 520;CMD:PCL3GUI,PCLM;CLS:PRINTER;STATUS;"

/-- Descriptive (:495-523). -/
def descriptive (site : Site) : List Block :=
  [{ name := "printer-info", values := texts 0x41 [makeModel] },
   { name := "printer-make-and-model", values := texts 0x41 [makeModel] },
   { name := "printer-location", values := texts 0x41 ["USB print bridge"] },
   { name := "printer-dns-sd-name", values := texts 0x42 ["HP Smart Tank"] },
   { name := "printer-more-info", values := [str 0x45 (site.httpBaseUri ++ ascii "/")] },
   { name := "printer-uuid", values := [str 0x45 (ascii "urn:uuid:" ++ site.uuidBare)] },
   { name := "printer-device-id", values := texts 0x41 [deviceId] },
   { name := "printer-kind", values := texts 0x44 ["document", "envelope", "photo"] },
   { name := "printer-icons"
     values := ["/icon-48.png", "/icon-128.png", "/icon-512.png"].map fun s => str 0x45 (site.httpBaseUri ++ ascii s) },
   -- nothing is advertised here (:521)
   { name := "printer-strings-uri", values := [] }]

/-- `printer-config-change-date-time` (:531). -/
def configChangeDate (site : Site) (snap : PrinterSnapshot) : Int :=
  site.configEpoch - sub32 snap.upTime snap.configChangeUp

/-- `printer-state-change-date-time` (:534). -/
def stateChangeDate (site : Site) (snap : PrinterSnapshot) : Int := site.stateEpoch - sub32 snap.upTime snap.stateChangeUp

/-- Status and alerts (:525-549). -/
def status (site : Site) (snap : PrinterSnapshot) : List Block :=
  [{ name := "queued-job-count", values := [integer 0x21 snap.queued] },
   { name := "printer-up-time", values := [integer 0x21 snap.upTime] },
   { name := "printer-current-time", values := [dateTime site.epochNow] },
   { name := "printer-config-change-time", values := [integer 0x21 snap.configChangeUp] },
   { name := "printer-config-change-date-time", values := [dateTime (configChangeDate site snap)] },
   { name := "printer-state-change-time", values := [integer 0x21 snap.stateChangeUp] },
   { name := "printer-state-change-date-time", values := [dateTime (stateChangeDate site snap)] },
   { name := "printer-alert"
     values := [text 0x30 s!"code={snap.alertCode};severity={snap.alertSeverity};group={snap.alertGroup}"] },
   { name := "printer-alert-description", values := texts 0x41 [snap.alertDescription] },
   { name := "printer-input-tray", values := texts 0x30 ["type=inputTray;maxcapacity=150;level=-2;status=0;name=Main tray"] },
   { name := "printer-output-tray"
     values := texts 0x30 ["type=outputTray;maxcapacity=-2;level=-2;status=0;name=Output tray"] }]

/-- Job and document capabilities (:551-580). -/
def capabilities : List Block :=
  [{ name := "multiple-document-jobs-supported", values := [boolean false] },
   { name := "multiple-operation-time-out", values := [integer 0x21 120] },
   { name := "compression-supported", values := texts 0x44 ["none"] },
   { name := "pdl-override-supported", values := texts 0x44 ["attempted"] },
   { name := "which-jobs-supported", values := texts 0x44 ["completed", "not-completed", "all"] },
   { name := "job-ids-supported", values := [boolean true] },
   { name := "printer-settable-attributes-supported", values := texts 0x44 ["none"] },
   { name := "requesting-user-uri-supported", values := [boolean false] },
   { name := "printer-get-attributes-supported", values := texts 0x44 ["document-format"] },
   { name := "job-creation-attributes-supported"
     values := texts 0x44 ["copies", "job-name", "document-format", "document-name", "ipp-attribute-fidelity", "sides",
       "media", "media-col", "print-quality", "printer-resolution", "orientation-requested", "print-color-mode",
       "print-scaling"] }]

/-- Versions, PCLm, resolutions and qualities (:582-631). -/
def formats : List Block :=
  [{ name := "document-format-version-supported", tmpl := true
     values := texts 0x41 ["PCL3GUI", "PCL3", "PJL", "Automatic", "PCLM"] },
   { name := "pclm-compression-method-preferred", tmpl := true, values := texts 0x44 ["rle"] },
   { name := "pclm-source-resolution-supported", tmpl := true, values := [resolution 300, resolution 600] },
   { name := "pclm-source-resolution-default", tmpl := true, values := [resolution 600] },
   { name := "pclm-strip-height-supported", tmpl := true, values := [integer 0x21 32] },
   { name := "pclm-strip-height-preferred", tmpl := true, values := [integer 0x21 32] },
   { name := "pclm-raster-back-side", tmpl := true, values := texts 0x44 ["rotated"] },
   { name := "printer-resolution-supported", tmpl := true, values := [resolution 300] },
   { name := "printer-resolution-default", tmpl := true, values := [resolution 300] },
   { name := "print-quality-supported", tmpl := true, values := [integer 0x23 4, integer 0x23 5] },
   { name := "print-quality-default", tmpl := true, values := [integer 0x23 4] }]

/-- Media (:633-690). -/
def media : List Block :=
  [{ name := "media-supported", tmpl := true, values := mediaDefs.map fun m => text 0x44 m.name, inverted := true },
   { name := "media-default", tmpl := true, values := texts 0x44 ["iso_a4_210x297mm"] },
   { name := "media-ready", tmpl := true, values := (mediaDefs.filter MediaDef.ready).map fun m => text 0x44 m.name },
   { name := "media-size-supported", tmpl := true, values := mediaDefs.map fun m => mediaSize m.x m.y, inverted := true },
   { name := "media-col-default", tmpl := true
     values := (mediaDefs.take 1).map fun m => mediaCol m (some printerPaperMargin) },
   { name := "media-col-ready", tmpl := true
     values := (mediaDefs.filter MediaDef.ready).map fun m => mediaCol m none },
   { name := "media-col-database", tmpl := true
     values := mediaDefs.flatMap fun m =>
       mediaCol m (some printerPaperMargin) :: if m.borderless then [mediaCol m (some 0)] else [] },
   { name := "media-source-supported", tmpl := true, values := texts 0x44 ["main"] },
   { name := "media-type-supported", tmpl := true, values := texts 0x44 ["stationery", "photographic"] }] ++
  ["media-left-margin-supported", "media-right-margin-supported", "media-top-margin-supported",
    "media-bottom-margin-supported"].map fun name =>
    { name, tmpl := true, values := [integer 0x21 printerPaperMargin, integer 0x21 0] }

/-- The rest of the job template (:692-752). -/
def jobTemplate : List Block :=
  [{ name := "print-scaling-supported", tmpl := true, values := texts 0x44 ["auto", "auto-fit", "fill", "fit", "none"] },
   { name := "print-scaling-default", tmpl := true, values := texts 0x44 ["auto"] },
   { name := "output-bin-supported", tmpl := true, values := texts 0x44 ["face-up"] },
   { name := "output-bin-default", tmpl := true, values := texts 0x44 ["face-up"] },
   { name := "sides-supported", tmpl := true
     values := texts 0x44 ["one-sided", "two-sided-long-edge", "two-sided-short-edge"] },
   { name := "sides-default", tmpl := true, values := texts 0x44 ["one-sided"] },
   { name := "manual-duplex-supported", values := [boolean true] },
   { name := "copies-supported", tmpl := true, values := [range 1 1] },
   { name := "copies-default", tmpl := true, values := [integer 0x21 1] },
   { name := "finishings-supported", tmpl := true, values := [integer 0x23 3] },
   { name := "finishings-default", tmpl := true, values := [integer 0x23 3] },
   { name := "orientation-requested-supported", tmpl := true, values := [3, 4, 5, 6].map (integer 0x23 ·) },
   { name := "orientation-requested-default", tmpl := true, values := [integer 0x23 3] },
   { name := "color-supported", values := [boolean true] },
   { name := "print-color-mode-supported", tmpl := true
     values := texts 0x44 ["auto", "color", "monochrome", "process-monochrome"] },
   { name := "print-color-mode-default", tmpl := true, values := texts 0x44 ["auto"] },
   { name := "output-mode-supported", tmpl := true, values := texts 0x44 ["auto", "color", "monochrome"] },
   { name := "output-mode-default", tmpl := true, values := texts 0x44 ["auto"] }]

def optional (site : Site) (snap : PrinterSnapshot) : List Block :=
  descriptive site ++ status site snap ++ capabilities ++ formats ++ media ++ jobTemplate

/-- The blocks that are written (:469-752). -/
def written (req : RequestAttrs) (site : Site) (snap : PrinterSnapshot) : List Block :=
  required site snap ++ (optional site snap).filter fun b => (AttrFilter.make req.requested).want b.name b.tmpl

end PrinterAttributes

/-- The writer at the check of `ok` (:755). -/
def printerWriter (version : IppVersion) (requestId : UInt32) (req : RequestAttrs) (site : Site)
    (snap : PrinterSnapshot) : IppWriter :=
  let w := (beginResponse {} version 0x0000 requestId).b 0x04
  let w := w.items ((PrinterAttributes.written req site snap).flatMap PrinterAttributes.Block.items)
  w.b 0x03

/-- `sendPrinterAttributes` (:464). -/
def sendPrinterAttributes (version : IppVersion) (requestId : UInt32) (req : RequestAttrs) (site : Site)
    (snap : PrinterSnapshot) : IppWriter :=
  let w := printerWriter version requestId req site snap
  if !w.ok then simpleResponse version 0x0500 requestId else w

end PrintServer
