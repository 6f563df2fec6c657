import PrintServer.Loop
import PrintServer.PrinterAttributes
import PrintServer.UsbEnumeration
import PrintServer.Lib.Json
/-!
# What the setup page fetches (HP-print-server.ino:36, 112-120, 123-146)

| here | there |
| --- | --- |
| `replace`        | Arduino's `String::replace`, for one character |
| `jsonEsc`        | `jsonEsc` (:36) |
| `printerReasonText` … `Board.activeIp` | the texts of :112-117 |
| `sendJsonScan`, `sendJsonStatus` | the bodies of `/scan.json` and `/status.json` (:123, :125) |

Strings hold no NUL, and there is memory for them.
-/
namespace PrintServer
open Lib

def replace (s : Bytes) (find : UInt8) (by_ : Bytes) : Bytes := s.flatMap fun b => if b = find then by_ else [b]

/-- `jsonEsc` (:36). -/
def jsonEsc (s : Bytes) : Bytes :=
  let s := replace s 92 (ascii "\\\\")
  let s := replace s 34 (ascii "\\\"")
  let s := replace s 13 (ascii "\\r")
  replace s 10 (ascii "\\n")

/-! ## `/scan.json` -/

structure ScannedNetwork where
  ssid : Bytes
  rssi : Int
  channel : Int
deriving DecidableEq, Repr

/-- `String(int)`. -/
def decimalInt : Int → Bytes
  | .ofNat n => Site.decimal n
  | .negSucc n => 45 :: Site.decimal (n + 1)

namespace ScannedNetwork

/-- The object of one network. -/
def json (w : ScannedNetwork) : Bytes :=
  List.flatten [ascii "\x7b\"ssid\":\"", jsonEsc w.ssid, ascii "\",\"rssi\":", decimalInt w.rssi,
    ascii ",\"channel\":", decimalInt w.channel, ascii "\x7d"]

end ScannedNetwork

/-- The loop of `sendJsonScan`, with `first`. -/
def scanLoop : List ScannedNetwork → Bytes → Bool → Bytes
  | [], out, _ => out
  | w :: ws, out, first =>
    if w.ssid.isEmpty then scanLoop ws out first
    else scanLoop ws ((if first then out else out ++ ascii ",") ++ w.json) false

/-- `sendJsonScan` (:123), for the networks that the scan has found. -/
def sendJsonScan (networks : List ScannedNetwork) : Bytes := scanLoop networks (ascii "[") true ++ ascii "]"

/-! ## `/status.json` -/

/-- `printerStateText` (:112). -/
def printerStateText : PrinterState → String
  | .offline => "Offline"
  | .idle => "Ready"
  | .printing => "Printing"
  | .error => "Printer error"

def startsWith (s key : String) : Bool := key.toList.isPrefixOf s.toList

/-- `printerReasonText` (:113). -/
def printerReasonText (reason : String) : String :=
  if reason = "waiting-for-usb-printer" then "Connect a compatible USB printer"
  else if reason = "enumerating-usb-device" then "Checking the USB printer"
  else if reason = "printer-interface-ready" ∨ reason = "usb-printer-ready" then "Printer is ready"
  else if reason = "raw-job-in-progress" then "Sending the print job"
  else if reason = "raw-job-draining" then "Finishing the print job"
  else if reason = "usb-printer-reports-paper-empty" then "Paper is empty or unavailable"
  else if reason = "usb-printer-reports-not-selected" then "Printer is not selected or not ready"
  else if reason = "usb-printer-reports-error" ∨ reason = "usb-printer-reports-error-after-job" then
    "Printer reported an error"
  else if reason = "selected-interface-has-no-bulk-output" then "No compatible RAW printing interface was found"
  else if startsWith reason "USB bulk transfer failed" ∨ startsWith reason "USB Bulk OUT" then
    "USB transfer to the printer failed"
  else if 0 < reason.length then reason else "Waiting for printer"

/-- `usbStatusText` (:114). -/
def usbStatusText (d : UsbDeviceInfo) : String :=
  if !d.attached then "No USB printer detected"
  else if !d.portStatus.valid then "Printer connected; detailed status is not available yet"
  else if d.portStatus.error then "Printer reports an error"
  else if d.portStatus.paperEmpty then "Paper is empty or unavailable"
  else if !d.portStatus.selected then "Printer is not selected or not ready"
  else "Printer is selected and ready"

/-- `printerName` (:127). -/
def printerName (d : UsbDeviceInfo) : String :=
  if d.attached ∧ 0 < d.product.length then d.product else "USB printer"

abbrev IpAddress := UInt8 × UInt8 × UInt8 × UInt8

/-- `IPAddress::toString`. -/
def ipText (ip : IpAddress) : Bytes := List.flatten [Site.decimal ip.1.toNat, ascii ".", Site.decimal ip.2.1.toNat,
  ascii ".", Site.decimal ip.2.2.1.toNat, ascii ".", Site.decimal ip.2.2.2.toNat]

/-- What the rest of the device reports. -/
structure Board where
  /-- `WiFi.status() == WL_CONNECTED`, with `WiFi.SSID()` and `WiFi.localIP()`. -/
  wifi : Option (Bytes × IpAddress) := none
  /-- `configApActive`, with `WiFi.softAPIP()`. -/
  configAp : Option IpAddress := none
  ippActive : Bool := false
  mdnsReady : Bool := false
  freeHeap : UInt32 := 0
  heapSize : UInt32 := 0
  bootCount : UInt32 := 0
  bulkOutWedged : Bool := false
  psramSize : UInt32 := 0
  freePsram : UInt32 := 0
deriving DecidableEq, Repr

namespace Board

/-- ` · ` in UTF-8. -/
def dot : Bytes := [0x20, 0xC2, 0xB7, 0x20]

/-- `wifiStatusText` (:115). -/
def wifiStatusText (x : Board) : Bytes :=
  match x.wifi, x.configAp with
  | some (_, ip), _ => ascii "Connected" ++ dot ++ ipText ip
  | none, some ip => ascii "Setup access point" ++ dot ++ ipText ip
  | none, none => ascii "Not connected"

/-- `activeNetworkName` (:116); `AP_SSID` is in config.h:15. -/
def activeNetworkName (x : Board) : Bytes :=
  match x.wifi, x.configAp with
  | some (ssid, _), _ => ssid
  | none, some _ => ascii "HP-Print-Server"
  | none, none => ascii "Not connected"

/-- `activeIp` (:117). -/
def activeIp (x : Board) : Bytes :=
  match x.wifi, x.configAp with
  | some (_, ip), _ => ipText ip
  | none, some ip => ipText ip
  | none, none => []

end Board

def boolText (b : Bool) : Bytes := if b then ascii "true" else ascii "false"

/-- `sendJsonStatus` (:125). -/
def sendJsonStatus {σ : Type} (s : System σ) (x : Board) : Bytes :=
  let device := s.backend.host.device
  List.flatten [
    ascii "\x7b\"printer\":\"", jsonEsc (ascii (printerStateText s.backend.state)),
    ascii "\",\"printerReason\":\"", jsonEsc (ascii (printerReasonText s.backend.reason)),
    ascii "\",\"printerName\":\"", jsonEsc (ascii (printerName device)),
    ascii "\",\"usbStatus\":\"", jsonEsc (ascii (usbStatusText device)),
    ascii "\",\"wifi\":\"", jsonEsc x.wifiStatusText,
    ascii "\",\"ssid\":\"", jsonEsc x.activeNetworkName,
    ascii "\",\"rawConnected\":", boolText s.raw.rawClientConnected,
    ascii ",\"ippActive\":", boolText x.ippActive,
    ascii ",\"ippLastError\":\"", jsonEsc (ascii s.service.lastError), ascii "\"",
    ascii ",\"usbAttached\":", boolText device.attached,
    ascii ",\"ip\":\"", jsonEsc x.activeIp,
    ascii "\",\"mdnsReady\":", boolText x.mdnsReady,
    ascii ",\"hostname\":\"", (if x.mdnsReady then ascii "printer.local" else []), ascii "\"",
    ascii ",\"jobsOk\":", Site.decimal s.backend.jobsCompleted.toNat,
    ascii ",\"jobsFailed\":", Site.decimal s.backend.jobsFailed.toNat,
    ascii ",\"maxDrainMs\":", Site.decimal s.backend.maxDrainMs,
    ascii ",\"lastError\":\"", jsonEsc (ascii s.backend.lastError), ascii "\"",
    ascii ",\"freeHeap\":", Site.decimal x.freeHeap.toNat, ascii ",\"heapTotal\":", Site.decimal x.heapSize.toNat,
    ascii ",\"boots\":", Site.decimal x.bootCount.toNat, ascii ",\"usbWedged\":", boolText x.bulkOutWedged,
    ascii ",\"psramTotal\":", Site.decimal x.psramSize.toNat,
    ascii ",\"psramFree\":", Site.decimal x.freePsram.toNat, ascii "\x7d"]

/-! ## The two documents as JSON texts -/

/-- What stands behind a name in an object. -/
inductive Field where
  | text (s : Bytes)
  | bool (b : Bool)
  | number (n : Int)

namespace Field

def json : Field → Bytes
  | .text s => 34 :: jsonEsc s ++ [34]
  | .bool b => boolText b
  | .number n => decimalInt n

/-- A name with its field. -/
def member (m : String × Field) : Bytes := 34 :: (ascii m.1 ++ [34]) ++ 58 :: m.2.json

def object (ms : List (String × Field)) : Bytes := 123 :: (Json.commas (ms.map member) ++ [125])

end Field

def statusFields {σ : Type} (s : System σ) (x : Board) : List (String × Field) :=
  let device := s.backend.host.device
  [("printer", .text (ascii (printerStateText s.backend.state))),
    ("printerReason", .text (ascii (printerReasonText s.backend.reason))),
    ("printerName", .text (ascii (printerName device))), ("usbStatus", .text (ascii (usbStatusText device))),
    ("wifi", .text x.wifiStatusText), ("ssid", .text x.activeNetworkName),
    ("rawConnected", .bool s.raw.rawClientConnected), ("ippActive", .bool x.ippActive),
    ("ippLastError", .text (ascii s.service.lastError)), ("usbAttached", .bool device.attached),
    ("ip", .text x.activeIp), ("mdnsReady", .bool x.mdnsReady),
    ("hostname", .text (if x.mdnsReady then ascii "printer.local" else [])),
    ("jobsOk", .number s.backend.jobsCompleted.toNat), ("jobsFailed", .number s.backend.jobsFailed.toNat),
    ("maxDrainMs", .number s.backend.maxDrainMs), ("lastError", .text (ascii s.backend.lastError)),
    ("freeHeap", .number x.freeHeap.toNat), ("heapTotal", .number x.heapSize.toNat),
    ("boots", .number x.bootCount.toNat), ("usbWedged", .bool x.bulkOutWedged),
    ("psramTotal", .number x.psramSize.toNat), ("psramFree", .number x.freePsram.toNat)]

theorem ascii_append (a b : String) : ascii (a ++ b) = ascii a ++ ascii b := by
  unfold ascii
  rw [String.toList_append, List.map_append]

/-- Adjacent pieces of `out +=` run together. -/
theorem ascii_merge (a b : String) (t : Bytes) : ascii a ++ (ascii b ++ t) = ascii (a ++ b) ++ t := by
  rw [ascii_append, List.append_assoc]

theorem quote_cons (t : Bytes) : 34 :: t = ascii "\"" ++ t := rfl
theorem comma_cons (t : Bytes) : 44 :: t = ascii "," ++ t := rfl
theorem colon_cons (t : Bytes) : 58 :: t = ascii ":" ++ t := rfl
theorem brace_cons (t : Bytes) : 123 :: t = ascii "\x7b" ++ t := rfl
theorem brace_nil : [125] = ascii "\x7d" := rfl
theorem decimalInt_natCast (n : Nat) : decimalInt n = Site.decimal n := rfl

theorem json_eq (w : ScannedNetwork) :
    w.json = Field.object [("ssid", .text w.ssid), ("rssi", .number w.rssi), ("channel", .number w.channel)] := by
  unfold ScannedNetwork.json Field.object
  simp only [Field.member, Field.json, Json.commas, List.map, List.flatten_cons, List.flatten_nil, List.append_assoc,
    List.cons_append, List.nil_append, List.append_nil]
  simp only [quote_cons, comma_cons, colon_cons, brace_cons, brace_nil, ascii_merge, String.reduceAppend]

/-- The host name goes in as it is. -/
theorem jsonEsc_hostname (b : Bool) :
    jsonEsc (if b then ascii "printer.local" else []) = if b then ascii "printer.local" else [] := by
  cases b <;> decide +kernel

theorem sendJsonStatus_eq {σ : Type} (s : System σ) (x : Board) :
    sendJsonStatus s x = Field.object (statusFields s x) := by
  unfold sendJsonStatus Field.object statusFields
  simp only [Field.member, Field.json, Json.commas, List.map, List.flatten_cons, List.flatten_nil, List.append_assoc,
    List.cons_append, List.nil_append, List.append_nil, decimalInt_natCast, jsonEsc_hostname]
  simp only [quote_cons, comma_cons, colon_cons, brace_cons, brace_nil, ascii_merge, String.reduceAppend]

/-! ## Escaping -/

/-- What the four replacements make of one character. -/
def escape (b : UInt8) : Bytes :=
  if b = 92 then [92, 92] else if b = 34 then [92, 34] else if b = 13 then [92, 114] else if b = 10 then [92, 110]
  else [b]

/-- Each replacement sees what the earlier ones have put in; the backslash is the first. -/
theorem jsonEsc_eq (s : Bytes) : jsonEsc s = s.flatMap escape := by
  unfold jsonEsc replace
  rw [List.flatMap_assoc, List.flatMap_assoc, List.flatMap_assoc]
  congr 1
  funext b
  unfold escape
  by_cases h92 : b = 92
  · subst h92
    rfl
  by_cases h34 : b = 34
  · subst h34
    rfl
  by_cases h13 : b = 13
  · subst h13
    rfl
  by_cases h10 : b = 10
  · subst h10
    rfl
  simp [h92, h34, h13, h10]

/-- A control character other than CR and LF is not in it. -/
def Printable (s : Bytes) : Prop := ∀ b ∈ s, 32 ≤ b ∨ b = 13 ∨ b = 10

instance (s : Bytes) : Decidable (Printable s) :=
  List.decidableBAll (fun b => 32 ≤ b ∨ b = 13 ∨ b = 10) s

theorem chars_escape (b : UInt8) (s : Bytes) :
    Json.chars (escape b ++ s) =
      if 32 ≤ b ∨ b = 13 ∨ b = 10 then (Json.chars s).map fun r => (b :: r.1, r.2) else none := by
  by_cases h92 : b = 92
  · subst h92
    exact Json.chars_escaped (by decide) rfl s
  by_cases h34 : b = 34
  · subst h34
    exact Json.chars_escaped (by decide) rfl s
  by_cases h13 : b = 13
  · subst h13
    exact Json.chars_escaped (by decide) rfl s
  by_cases h10 : b = 10
  · subst h10
    exact Json.chars_escaped (by decide) rfl s
  unfold escape
  rw [if_neg h92, if_neg h34, if_neg h13, if_neg h10, List.singleton_append, Json.chars_plain h34 h92]
  by_cases h32 : b < 32
  · rw [if_pos h32, if_neg]
    rintro (h | h | h)
    · exact UInt8.not_lt.2 h h32
    · exact h13 h
    · exact h10 h
  · rw [if_neg h32, if_pos (.inl (UInt8.not_lt.1 h32))]

theorem chars_jsonEsc (s rest : Bytes) :
    Json.chars (jsonEsc s ++ 34 :: rest) = if Printable s then some (s, rest) else none := by
  rw [jsonEsc_eq]
  induction s with
  | nil => exact Json.chars_quote rest
  | cons b s ih =>
    have hcons : Printable (b :: s) ↔ (32 ≤ b ∨ b = 13 ∨ b = 10) ∧ Printable s := List.forall_mem_cons
    rw [List.flatMap_cons, List.append_assoc, chars_escape, ih]
    by_cases hb : 32 ≤ b ∨ b = 13 ∨ b = 10
    · by_cases hs : Printable s
      · rw [if_pos hb, if_pos hs, if_pos (hcons.2 ⟨hb, hs⟩)]
        rfl
      · rw [if_pos hb, if_neg hs, if_neg fun h => hs (hcons.1 h).2]
        rfl
    · rw [if_neg hb, if_neg fun h => hb (hcons.1 h).1]

/-! ## What a reader finds -/

theorem isSome_mapM {α β : Type} {f : α → Option β} {l : List α} :
    (l.mapM f).isSome ↔ ∀ a ∈ l, (f a).isSome := by
  induction l with
  | nil => exact ⟨fun _ _ h => (nomatch h), fun _ => rfl⟩
  | cons a l ih =>
    rw [List.mapM_cons, List.forall_mem_cons, ← ih]
    cases f a with
    | none => exact ⟨fun h => absurd h Bool.false_ne_true, fun h => absurd h.1 Bool.false_ne_true⟩
    | some b => cases l.mapM f <;> simp

theorem gives_text (s : Bytes) : Json.Gives Json.chars (jsonEsc s ++ [34]) (if Printable s then some s else none) := by
  intro rest _
  rw [List.append_assoc, List.singleton_append, chars_jsonEsc]
  split <;> rfl

theorem decimal_decimal (n : Nat) : Json.Decimal (Site.decimal n) := by
  unfold Site.decimal ascii
  have h := Json.decimal_toDigits n
  rwa [← Nat.toList_repr] at h

namespace Field

/-- The value of a field; none if its text cannot be read. -/
def value : Field → Option Json.Value
  | .text s => if Printable s then some (.str s) else none
  | .bool b => some (.bool b)
  | .number n => some (.num (decimalInt n))

theorem gives_json (f : Field) (n : Nat) : Json.Gives (Json.value (n + 1)) f.json f.value := by
  cases f with
  | text s =>
    have h := Json.gives_str (n := n) (gives_text s)
    unfold json value
    rw [apply_ite (Option.map Json.Value.str)] at h
    exact h
  | bool b =>
    have h := Json.gives_bool (n := n) b
    cases b <;> exact h
  | number m =>
    cases m with
    | ofNat m => exact Json.gives_number (decimal_decimal m)
    | negSucc m => exact Json.gives_negative (decimal_decimal (m + 1))

/-- Such a name needs no escaping. -/
def Name (k : String) : Prop := jsonEsc (ascii k) = ascii k ∧ Printable (ascii k)

instance (k : String) : Decidable (Name k) :=
  inferInstanceAs (Decidable (jsonEsc (ascii k) = ascii k ∧ Printable (ascii k)))

theorem gives_member {m : String × Field} (hk : Name m.1) (n : Nat) :
    Json.Gives (Json.member (Json.value (n + 1))) (member m) (m.2.value.map (ascii m.1, ·)) := by
  refine Json.gives_member (fun s => ?_) (m.2.gives_json n)
  rw [List.append_assoc, List.singleton_append]
  have h := chars_jsonEsc (ascii m.1) s
  rwa [hk.1, if_pos hk.2] at h

theorem name_of_map {ms : List (String × Field)} (ks : List String) (h : ms.map (·.1) = ks)
    (hk : ks.all fun k => decide (Name k)) : ∀ m ∈ ms, Name m.1 := by
  intro m hm
  have hmem : m.1 ∈ ks := h ▸ List.mem_map_of_mem hm
  exact of_decide_eq_true (List.all_eq_true.1 hk _ hmem)

/-- An object can be read if all its texts can. -/
def read (ms : List (String × Field)) : Option Json.Value :=
  (ms.mapM fun m : String × Field => m.2.value.map (ascii m.1, ·)).map .obj

theorem gives_object {ms : List (String × Field)} (hk : ∀ m ∈ ms, Name m.1) (n : Nat) :
    Json.Gives (Json.value (n + 2)) (object ms) (read ms) := by
  refine Json.gives_obj (Json.gives_bracketed (.inr rfl) (fun m hm => gives_member (hk m hm) n) ?_)
  intro m _
  exact ⟨34, _, rfl, rfl, by decide, by decide⟩

theorem isSome_value (f : Field) : f.value.isSome ↔ ∀ s, f = .text s → Printable s := by
  cases f with
  | text s =>
    have hv : (text s).value = if Printable s then some (.str s) else none := rfl
    rw [hv]
    by_cases hs : Printable s
    · rw [if_pos hs]
      exact ⟨fun _ t ht => text.inj ht ▸ hs, fun _ => rfl⟩
    · rw [if_neg hs]
      exact ⟨fun h => absurd h Bool.false_ne_true, fun h => absurd (h s rfl) hs⟩
  | bool b => exact ⟨fun _ _ h => Field.noConfusion h, fun _ => rfl⟩
  | number n => exact ⟨fun _ _ h => Field.noConfusion h, fun _ => rfl⟩

theorem isSome_read {ms : List (String × Field)} :
    (read ms).isSome ↔ ∀ m ∈ ms, ∀ s, m.2 = .text s → Printable s := by
  unfold read
  rw [Option.isSome_map, isSome_mapM]
  refine forall₂_congr fun m _ => ?_
  rw [Option.isSome_map, isSome_value]

end Field

/-! ## The scan -/

/-- The networks that are listed. -/
def named (networks : List ScannedNetwork) : List ScannedNetwork := networks.filter fun w => !w.ssid.isEmpty

theorem named_cons (w : ScannedNetwork) (ws : List ScannedNetwork) :
    named (w :: ws) = if w.ssid.isEmpty then named ws else w :: named ws := by
  unfold named
  rw [List.filter_cons]
  cases w.ssid.isEmpty <;> rfl

theorem scanLoop_rest (ws : List ScannedNetwork) (out : Bytes) :
    scanLoop ws out false = out ++ ((named ws).map fun w => 44 :: w.json).flatten := by
  induction ws generalizing out with
  | nil => exact (List.append_nil out).symm
  | cons w ws ih =>
    rw [scanLoop, named_cons]
    by_cases hw : w.ssid.isEmpty
    · rw [if_pos hw, if_pos hw, ih]
    · rw [if_neg hw, if_neg hw, ih, List.map_cons, List.flatten_cons, if_neg Bool.false_ne_true, List.append_assoc,
        List.append_assoc]
      rfl

theorem scanLoop_first (ws : List ScannedNetwork) (out : Bytes) :
    scanLoop ws out true = out ++ Json.commas ((named ws).map (·.json)) := by
  induction ws generalizing out with
  | nil => exact (List.append_nil out).symm
  | cons w ws ih =>
    rw [scanLoop, named_cons]
    by_cases hw : w.ssid.isEmpty
    · rw [if_pos hw, if_pos hw, ih]
    · rw [if_neg hw, if_neg hw, scanLoop_rest, if_pos rfl, List.append_assoc, List.map_cons, Json.commas_eq,
        List.map_map]
      rfl

def networkFields (w : ScannedNetwork) : List (String × Field) :=
  [("ssid", .text w.ssid), ("rssi", .number w.rssi), ("channel", .number w.channel)]

theorem parse_sendJsonScan (networks : List ScannedNetwork) : Json.parse (sendJsonScan networks) =
    ((named networks).mapM fun w => Field.read (networkFields w)).map .arr := by
  have hlen : (sendJsonScan networks).length + 1 = (sendJsonScan networks).length - 2 + 3 := by
    unfold sendJsonScan
    rw [scanLoop_first, List.length_append, List.length_append]
    have h1 : (ascii "[").length = 1 := by decide
    have h2 : (ascii "]").length = 1 := by decide
    omega
  refine Json.parse_of_gives ?_
  rw [hlen]
  unfold sendJsonScan
  rw [scanLoop_first, List.append_assoc]
  refine Json.gives_arr (Json.gives_bracketed (.inl rfl) (fun w _ => ?_) fun w _ => ?_)
  · rw [json_eq]
    exact Field.gives_object (Field.name_of_map ["ssid", "rssi", "channel"] rfl (by decide +kernel)) _
  · rw [json_eq]
    exact ⟨123, _, rfl, rfl, by decide, by decide⟩

theorem isSome_parse_sendJsonScan (networks : List ScannedNetwork) :
    (Json.parse (sendJsonScan networks)).isSome ↔ ∀ w ∈ networks, Printable w.ssid := by
  rw [parse_sendJsonScan, Option.isSome_map, isSome_mapM]
  have hread : ∀ w : ScannedNetwork, (Field.read (networkFields w)).isSome ↔ Printable w.ssid := by
    intro w
    rw [Field.isSome_read]
    refine ⟨fun h => h _ List.mem_cons_self _ rfl, ?_⟩
    intro h m hm s hs
    rcases List.mem_cons.1 hm with rfl | hm
    · exact Field.text.inj hs ▸ h
    rcases List.mem_cons.1 hm with rfl | hm
    · exact Field.noConfusion hs
    · rw [List.mem_singleton.1 hm] at hs
      exact Field.noConfusion hs
  refine ⟨fun h w hw => ?_, fun h w hw => (hread w).2 (h w (List.mem_filter.1 hw).1)⟩
  by_cases he : w.ssid.isEmpty
  · rw [List.isEmpty_iff.1 he]
    exact fun b hb => (nomatch hb)
  · exact (hread w).1 (h w (List.mem_filter.2 ⟨hw, by simpa using he⟩))

/-! ## The status -/

def statusNames : List String :=
  ["printer", "printerReason", "printerName", "usbStatus", "wifi", "ssid", "rawConnected", "ippActive", "ippLastError",
    "usbAttached", "ip", "mdnsReady", "hostname", "jobsOk", "jobsFailed", "maxDrainMs", "lastError", "freeHeap",
    "heapTotal", "boots", "usbWedged", "psramTotal", "psramFree"]

theorem parse_sendJsonStatus {σ : Type} (s : System σ) (x : Board) :
    Json.parse (sendJsonStatus s x) = Field.read (statusFields s x) := by
  rw [sendJsonStatus_eq]
  refine Json.parse_of_gives ?_
  have hlen : (Field.object (statusFields s x)).length + 1 = (Field.object (statusFields s x)).length - 1 + 2 := by
    unfold Field.object
    rw [List.length_cons]
    omega
  rw [hlen]
  exact Field.gives_object (Field.name_of_map statusNames rfl (by decide +kernel)) _

theorem Printable.append {s t : Bytes} (hs : Printable s) (ht : Printable t) : Printable (s ++ t) := by
  intro b hb
  rcases List.mem_append.1 hb with hb | hb
  · exact hs b hb
  · exact ht b hb

theorem printable_decimal (n : Nat) : Printable (Site.decimal n) := by
  intro b hb
  have hdigit := (decimal_decimal n).digit hb
  unfold Json.isDigit at hdigit
  rw [Bool.and_eq_true, decide_eq_true_iff] at hdigit
  exact .inl (UInt8.le_trans (by decide) hdigit.1)

theorem printable_ipText (ip : IpAddress) : Printable (ipText ip) := by
  unfold ipText
  have hdot : Printable (ascii ".") := by decide
  intro b hb
  obtain ⟨t, ht, hb⟩ := List.mem_flatten.1 hb
  simp only [List.mem_cons, List.not_mem_nil, or_false] at ht
  rcases ht with rfl | rfl | rfl | rfl | rfl | rfl | rfl
  · exact printable_decimal _ b hb
  · exact hdot b hb
  · exact printable_decimal _ b hb
  · exact hdot b hb
  · exact printable_decimal _ b hb
  · exact hdot b hb
  · exact printable_decimal _ b hb

theorem printable_wifiStatusText (x : Board) : Printable x.wifiStatusText := by
  unfold Board.wifiStatusText
  split
  · exact (Printable.append (by decide) (by decide)).append (printable_ipText _)
  · exact (Printable.append (by decide) (by decide)).append (printable_ipText _)
  · decide

theorem printable_activeIp (x : Board) : Printable x.activeIp := by
  unfold Board.activeIp
  split
  · exact printable_ipText _
  · exact printable_ipText _
  · decide

theorem printable_printerStateText (st : PrinterState) : Printable (ascii (printerStateText st)) := by
  cases st <;> decide

theorem printable_usbStatusText (d : UsbDeviceInfo) : Printable (ascii (usbStatusText d)) := by
  unfold usbStatusText
  repeat (split; · decide)
  decide

/-- The texts that others choose. -/
structure PrintableStatus {σ : Type} (s : System σ) (x : Board) : Prop where
  printerReason : Printable (ascii (printerReasonText s.backend.reason))
  printerName : Printable (ascii (printerName s.backend.host.device))
  ssid : Printable x.activeNetworkName
  ippLastError : Printable (ascii s.service.lastError)
  lastError : Printable (ascii s.backend.lastError)

theorem isSome_parse_sendJsonStatus {σ : Type} (s : System σ) (x : Board) :
    (Json.parse (sendJsonStatus s x)).isSome ↔ PrintableStatus s x := by
  have hhost : Printable (if x.mdnsReady then ascii "printer.local" else []) := by
    cases x.mdnsReady <;> decide
  rw [parse_sendJsonStatus, Field.isSome_read]
  simp only [statusFields, List.forall_mem_cons, Field.text.injEq, reduceCtorEq, false_imp_iff, implies_true,
    forall_eq', printable_printerStateText, printable_usbStatusText, printable_wifiStatusText, printable_activeIp, hhost,
    true_and, List.not_mem_nil, and_true]
  constructor
  · intro h
    exact ⟨h.1, h.2.1, h.2.2.1, h.2.2.2.1, h.2.2.2.2⟩
  · intro h
    exact ⟨h.printerReason, h.printerName, h.ssid, h.ippLastError, h.lastError⟩

theorem literal_jsonEsc (s : Bytes) :
    Json.literal (34 :: jsonEsc s ++ [34]) = if Printable s then some s else none := by
  rw [List.cons_append, Json.literal, if_pos rfl, chars_jsonEsc]
  by_cases hs : Printable s
  · rw [if_pos hs, if_pos hs]
    rfl
  · rw [if_neg hs, if_neg hs]
    rfl

/-- `jsonEsc` leaves the control characters other than CR and LF as they are, and there is no JSON
text with one of them in a string. -/
theorem jsonEsc_valid_iff {σ : Type} (text : Bytes) (networks : List ScannedNetwork) (s : System σ) (x : Board) :
    (Json.literal (34 :: jsonEsc text ++ [34]) = some text ↔ Printable text) ∧
    ((Json.parse (sendJsonScan networks)).isSome ↔ ∀ w ∈ networks, Printable w.ssid) ∧
    ((Json.parse (sendJsonStatus s x)).isSome ↔ PrintableStatus s x) := by
  refine ⟨?_, isSome_parse_sendJsonScan networks, isSome_parse_sendJsonStatus s x⟩
  rw [literal_jsonEsc]
  by_cases ht : Printable text
  · rw [if_pos ht]
    exact ⟨fun _ => ht, fun _ => rfl⟩
  · rw [if_neg ht]
    exact ⟨fun h => (Option.some_ne_none text h.symm).elim, fun h => absurd h ht⟩

/-- A printer with a tab in its name. -/
def tabPrinter : System Unit where
  backend := { idleBackend with
    host := { UsbHostManager.enumeratedPrinter with
      device := { attached := true, product := usbString [72, 80, 9, 49] } } }
  service := {}

theorem jsonEsc_tab :
    printerName tabPrinter.backend.host.device = "HP\t1" ∧
    Json.literal (34 :: jsonEsc (ascii "HP\t1") ++ [34]) = none ∧
    Json.parse (sendJsonStatus tabPrinter {}) = none ∧
    Json.parse (sendJsonScan [⟨ascii "a\tb", -60, 6⟩]) = none := by
  refine ⟨by decide +kernel, ?_, ?_, ?_⟩
  · rw [literal_jsonEsc]
    exact if_neg (by decide)
  · refine Option.not_isSome_iff_eq_none.1 fun h => ?_
    exact absurd ((isSome_parse_sendJsonStatus _ _).1 h).printerName (by decide +kernel)
  · refine Option.not_isSome_iff_eq_none.1 fun h => ?_
    exact absurd ((isSome_parse_sendJsonScan _).1 h _ (List.mem_singleton.2 rfl)) (by decide +kernel)

end PrintServer
