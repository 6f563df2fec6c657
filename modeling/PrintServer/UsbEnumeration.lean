import PrintServer.UsbHost
import PrintServer.Lib.FirstBest
import Mathlib.Data.Int.Order.Basic
/-!
# Enumeration (usb_host_manager.cpp:40-61, 76-149, 202-390)

| here | there |
| --- | --- |
| `UsbRuntime`          | `Runtime`, but for the client handle, the tasks and the Bulk OUT part (`PrintServer.BulkOut`) |
| `UsbDescriptor`       | what `usb_parse_next_descriptor` yields behind the configuration descriptor |
| `EnumerationAnswers`  | what the USB host driver answers during one enumeration; an error is its `esp_err_to_name` |
| `walk`                | the loop of `enumerateDevice` (:333-371) |

An interface is to be selected only if it can print, and then the best one (`Selects`).
`enumerateDevice_selects_iff` says when that is so: `selectedPrintIndex` starts below the score of an
unusable interface, so where none is usable the first one is taken.
-/
namespace PrintServer

/-- `Runtime` (:40). `device` is the handle; `statusTransfer` tells whether one is out. -/
structure UsbRuntime where
  device : Option Nat := none
  address : UInt8 := 0
  claimedPrintInterface : UInt8 := 0
  claimedStatusInterface : UInt8 := 0
  deviceOpen : Bool := false
  printInterfaceClaimed : Bool := false
  statusInterfaceClaimed : Bool := false
  newDevice : Bool := false
  newAddress : UInt8 := 0
  deviceGone : Bool := false
  statusPending : Bool := false
  statusTransfer : Bool := false
  resetRequested : Bool := false
  rescanAtMs : Nat := 0
  rescanAttempts : Nat := 0
deriving DecidableEq, Repr

namespace UsbRuntime

/-- `resetDevice` (:202). -/
def resetDevice (g : UsbRuntime) : UsbRuntime :=
  { g with
    device := none, address := 0, deviceOpen := false, printInterfaceClaimed := false,
    statusInterfaceClaimed := false, claimedPrintInterface := 0, claimedStatusInterface := 0,
    statusTransfer := false }

/-- `releaseInterfaces` (:214). -/
def releaseInterfaces (g : UsbRuntime) : UsbRuntime :=
  if !g.deviceOpen || g.device.isNone then g
  else { g with statusInterfaceClaimed := false, printInterfaceClaimed := false }

/-- `closeDevice` (:226). -/
def closeDevice (g : UsbRuntime) : UsbRuntime :=
  if !g.deviceOpen || g.device.isNone then g.resetDevice else g.releaseInterfaces.resetDevice

theorem closeDevice_eq (g : UsbRuntime) : g.closeDevice = g.resetDevice := by
  unfold closeDevice releaseInterfaces
  split <;> rfl

end UsbRuntime

/-- `usb_intf_desc_t`. -/
structure InterfaceDescriptor where
  bInterfaceNumber : UInt8
  bAlternateSetting : UInt8
  bInterfaceClass : UInt8
  bInterfaceSubClass : UInt8
  bInterfaceProtocol : UInt8
deriving DecidableEq, Repr

/-- `usb_ep_desc_t`. -/
structure EndpointDescriptor where
  bEndpointAddress : UInt8
  bmAttributes : UInt8
  wMaxPacketSize : UInt16
  bInterval : UInt8
deriving DecidableEq, Repr

inductive UsbDescriptor where
  | interface (i : InterfaceDescriptor)
  | endpoint (e : EndpointDescriptor)
  | other (bDescriptorType : UInt8)
deriving DecidableEq, Repr

structure EnumerationAnswers where
  deviceOpen : Except String Nat
  /-- `idVendor` and `idProduct`. -/
  deviceDescriptor : Except String (UInt16 × UInt16)
  /-- The three strings of `usb_host_device_info`, as UTF-16 units. -/
  deviceInfo : Option (List UInt16 × List UInt16 × List UInt16)
  /-- `bConfigurationValue`, and the descriptors in order. -/
  configDescriptor : Except String (UInt8 × List UsbDescriptor)
  printClaim : Except String Unit
  statusClaim : Except String Unit

/-- `usbString` (:75). -/
def usbString (wData : List UInt16) : String :=
  String.ofList ((wData.takeWhile (· != 0)).map fun c => if c ≤ 0x7F then Char.ofNat c.toNat else '?')

/-- `bulk` (:88). -/
def bulk (e : EndpointDescriptor) : Bool := e.bmAttributes &&& 0x03 == 0x02

/-- `storeEndpoint` (:92). -/
def storeEndpoint (slot : UsbEndpointInfo) (ept : EndpointDescriptor) : UsbEndpointInfo :=
  if slot.valid then slot
  else
    { address := ept.bEndpointAddress, attributes := ept.bmAttributes, maxPacketSize := ept.wMaxPacketSize
      interval := ept.bInterval }

/-- `printScore` (:100). -/
def printScore (p : UsbPrinterInterfaceInfo) : Int :=
  if !p.usableForRawPrint then -1000
  else if p.protocol == 0x02 then
    120 + (if p.bulkIn.valid then 10 else 0) + (if p.alternateSetting == 0 then 2 else 0)
  else if p.protocol == 0x03 then
    90 + (if p.bulkIn.valid then 10 else 0) + (if p.alternateSetting == 0 then 2 else 0)
  else if p.protocol == 0x01 then 70 + (if p.alternateSetting == 0 then 2 else 0)
  else -1000

/-- `statusScore` (:121). -/
def statusScore (p : UsbPrinterInterfaceInfo) : Int :=
  if !p.usableForStatus then -1000
  else
    10 + (if p.bulkIn.valid then 20 else 0) +
      (if p.protocol == 0x03 then 30 else if p.protocol == 0x02 then 20 else if p.protocol == 0x01 then 10 else 0) +
      (if p.alternateSetting == 0 then 3 else 0)

/-- `selectedPrintIndex` (:108); `none` is -1. -/
def selectedPrintIndex (d : UsbDeviceInfo) : Option Nat :=
  Lib.firstBest (fun _ p => some (printScore p)) (-1001) d.printerInterfaces

/-- `sameInterfaceAsPrint` (:138). -/
def sameInterfaceAsPrint (d : UsbDeviceInfo) (printIndex : Option Nat) (p : UsbPrinterInterfaceInfo) : Bool :=
  match printIndex.bind (d.printerInterfaces[·]?) with
  | some print => p.interfaceNumber == print.interfaceNumber
  | none => false

/-- `selectedStatusIndex` (:132). -/
def selectedStatusIndex (d : UsbDeviceInfo) (printIndex : Option Nat) : Option Nat :=
  Lib.firstBest (fun i p =>
      if some i = printIndex then none
      else if sameInterfaceAsPrint d printIndex p || !p.usableForStatus then none
      else some (statusScore p))
    (-1001) d.printerInterfaces

/-- `claimInterfaces` (:236). -/
def claimInterfaces (g : UsbRuntime) (d : UsbDeviceInfo) (a : EnumerationAnswers) :
    UsbRuntime × Except String UsbDeviceInfo :=
  let printIndex := selectedPrintIndex d
  match printIndex.bind (d.printerInterfaces[·]?) with
  | none => (g, .error "No RAW-compatible USB Printer Class interface")
  | some print =>
    match a.printClaim with
    | .error e => (g, .error ("print interface claim failed: " ++ e))
    | .ok _ =>
      let g := { g with claimedPrintInterface := print.interfaceNumber, printInterfaceClaimed := true }
      let d := { d with printer := print, statusInterfaceSeparate := false, statusInterface := {} }
      match (selectedStatusIndex d printIndex).bind (d.printerInterfaces[·]?), a.statusClaim with
      | some status, .ok _ =>
        ({ g with claimedStatusInterface := status.interfaceNumber, statusInterfaceClaimed := true },
          .ok { d with statusInterface := status, statusInterfaceSeparate := true })
      | _, _ => (g, .ok { d with statusInterface := d.printer })

/-- `printerInterfaces` and `printerCurrent` of the loop. -/
structure DescriptorWalk where
  printerInterfaces : List UsbPrinterInterfaceInfo := []
  printerCurrent : Option Nat := none
deriving DecidableEq, Repr

/-- `MAX_PRINTER_INTERFACES` (usb_device.h:46). -/
def maxPrinterInterfaces : Nat := 8

/-- The entry that is opened for an interface descriptor (:350-355). -/
def InterfaceDescriptor.entry (i : InterfaceDescriptor) : UsbPrinterInterfaceInfo :=
  { found := true, interfaceNumber := i.bInterfaceNumber, alternateSetting := i.bAlternateSetting
    subclass := i.bInterfaceSubClass, protocol := i.bInterfaceProtocol }

/-- What a bulk endpoint does to the current entry (:359-362). -/
def UsbPrinterInterfaceInfo.store (p : UsbPrinterInterfaceInfo) (ept : EndpointDescriptor) : UsbPrinterInterfaceInfo :=
  if bulk ept then
    if ept.bEndpointAddress &&& 0x80 != 0 then { p with bulkIn := storeEndpoint p.bulkIn ept }
    else { p with bulkOut := storeEndpoint p.bulkOut ept }
  else p

/-- One turn of the loop (:334-370). -/
def DescriptorWalk.next (w : DescriptorWalk) : UsbDescriptor → DescriptorWalk
  | .interface i =>
    if i.bInterfaceClass == 0x07 && i.bInterfaceSubClass == 0x01 then
      if i.bInterfaceProtocol == 0x04 then { w with printerCurrent := none }
      else if i.bInterfaceProtocol == 0xFF then { w with printerCurrent := none }
      else if 0x01 ≤ i.bInterfaceProtocol && i.bInterfaceProtocol ≤ 0x03 &&
          w.printerInterfaces.length < maxPrinterInterfaces then
        { printerInterfaces := w.printerInterfaces ++ [i.entry], printerCurrent := some w.printerInterfaces.length }
      else { w with printerCurrent := none }
    else { w with printerCurrent := none }
  | .endpoint ept =>
    match w.printerCurrent with
    | some k => { w with printerInterfaces := w.printerInterfaces.modify k (·.store ept) }
    | none => w
  | .other _ => w

def walk (ds : List UsbDescriptor) : DescriptorWalk := ds.foldl .next {}

/-- `out` as the loop leaves it (:305-371). -/
def EnumerationAnswers.record (a : EnumerationAnswers) (address : UInt8) (ids : UInt16 × UInt16)
    (config : UInt8 × List UsbDescriptor) : UsbDeviceInfo :=
  let (manufacturer, product, serial) := a.deviceInfo.getD ([], [], [])
  { attached := true, address, vid := ids.1, pid := ids.2, configurationValue := config.1
    manufacturer := usbString manufacturer, product := usbString product, serial := usbString serial
    printerInterfaces := (walk config.2).printerInterfaces }

/-- `enumerateDevice` (:291). -/
def enumerateDevice (g : UsbRuntime) (address : UInt8) (a : EnumerationAnswers) :
    UsbRuntime × Except String UsbDeviceInfo :=
  match a.deviceOpen with
  | .error e => (g, .error ("usb_host_device_open failed: " ++ e))
  | .ok dev =>
    let g := { g with device := some dev, address, deviceOpen := true }
    match a.deviceDescriptor with
    | .error e => (g.closeDevice, .error ("device descriptor read failed: " ++ e))
    | .ok ids =>
      match a.configDescriptor with
      | .error e => (g.closeDevice, .error ("configuration descriptor read failed: " ++ e))
      | .ok config =>
        let out := a.record address ids config
        if out.printerInterfaces.isEmpty then
          (g.closeDevice, .error "USB device has no RAW-compatible Printer Class interface")
        else
          match claimInterfaces g out a with
          | (g, .error e) => (g.closeDevice, .error e)
          | (g, .ok out) => (g, .ok out)

/-! ## What the loop finds -/

/-- The endpoints up to the next interface descriptor. -/
def ownEndpoints : List UsbDescriptor → List EndpointDescriptor
  | .endpoint e :: ds => e :: ownEndpoints ds
  | .other _ :: ds => ownEndpoints ds
  | _ => []

/-- Each interface descriptor with its endpoints. -/
def interfaces : List UsbDescriptor → List (InterfaceDescriptor × List EndpointDescriptor)
  | .interface i :: ds => (i, ownEndpoints ds) :: interfaces ds
  | _ :: ds => interfaces ds
  | [] => []

/-- A Printer Class interface of a RAW protocol. -/
def InterfaceDescriptor.accepted (i : InterfaceDescriptor) : Bool :=
  i.bInterfaceClass == 0x07 && i.bInterfaceSubClass == 0x01 && (0x01 ≤ i.bInterfaceProtocol && i.bInterfaceProtocol ≤ 0x03)

/-- The accepted interfaces that there is room for. -/
def candidates (ds : List UsbDescriptor) : List (InterfaceDescriptor × List EndpointDescriptor) :=
  ((interfaces ds).filter (·.1.accepted)).take maxPrinterInterfaces

/-- The entry of an interface with its endpoints stored. -/
def filled (x : InterfaceDescriptor × List EndpointDescriptor) : UsbPrinterInterfaceInfo := x.2.foldl .store x.1.entry

theorem modify_last {α : Type} (l : List α) (x : α) (f : α → α) : (l ++ [x]).modify l.length f = l ++ [f x] := by
  induction l with
  | nil => rfl
  | cons y l ih => exact congrArg (y :: ·) ih

/-- An interface descriptor opens an entry if it is accepted and there is room; in any case it ends
the one before. -/
theorem DescriptorWalk.next_interface (w : DescriptorWalk) (i : InterfaceDescriptor) :
    w.next (.interface i) =
      if i.accepted && decide (w.printerInterfaces.length < maxPrinterInterfaces) then
        { printerInterfaces := w.printerInterfaces ++ [i.entry], printerCurrent := some w.printerInterfaces.length }
      else { w with printerCurrent := none } := by
  have h4 : i.bInterfaceProtocol = 0x04 → (i.bInterfaceProtocol ≤ 0x03) = False := by
    intro h
    rw [h]
    decide
  have hf : i.bInterfaceProtocol = 0xFF → (i.bInterfaceProtocol ≤ 0x03) = False := by
    intro h
    rw [h]
    decide
  unfold next InterfaceDescriptor.accepted
  by_cases hc : (i.bInterfaceClass == 0x07 && i.bInterfaceSubClass == 0x01) = true
  · simp only [hc, if_true, Bool.true_and]
    by_cases hp4 : i.bInterfaceProtocol = 0x04
    · simp [hp4]
    · by_cases hpf : i.bInterfaceProtocol = 0xFF
      · simp [hpf]
      · simp [hp4, hpf]
  · simp [hc]

/-- The rest of the loop, from an entry that is being filled or from between two. -/
theorem walk_from (ds : List UsbDescriptor) : ∀ l : List UsbPrinterInterfaceInfo,
    (ds.foldl DescriptorWalk.next ⟨l, none⟩).printerInterfaces =
        l ++ ((((interfaces ds).filter (·.1.accepted)).take (maxPrinterInterfaces - l.length)).map filled) ∧
      ∀ p, (ds.foldl DescriptorWalk.next ⟨l ++ [p], some l.length⟩).printerInterfaces =
        l ++ [(ownEndpoints ds).foldl .store p] ++
          (((interfaces ds).filter (·.1.accepted)).take (maxPrinterInterfaces - (l.length + 1))).map filled := by
  induction ds with
  | nil => simp [interfaces, ownEndpoints]
  | cons d ds ih =>
    intro l
    cases d with
    | other t => exact ih l
    | endpoint e =>
      refine ⟨(ih l).1, fun p => ?_⟩
      rw [List.foldl_cons]
      simp only [DescriptorWalk.next, modify_last]
      exact (ih l).2 _
    | interface i =>
      have hnext : ∀ (l : List UsbPrinterInterfaceInfo) (c : Option Nat),
          ((UsbDescriptor.interface i :: ds).foldl DescriptorWalk.next ⟨l, c⟩).printerInterfaces =
            l ++ ((((interfaces (.interface i :: ds)).filter (·.1.accepted)).take (maxPrinterInterfaces - l.length)).map
              filled) := by
        intro l c
        rw [List.foldl_cons, DescriptorWalk.next_interface, interfaces]
        by_cases ha : i.accepted = true
        · rw [List.filter_cons_of_pos (by exact ha)]
          by_cases hr : l.length < maxPrinterInterfaces
          · have hroom : maxPrinterInterfaces - l.length = maxPrinterInterfaces - (l.length + 1) + 1 := by omega
            rw [if_pos (by simp [ha, hr]), hroom, List.take_succ_cons, List.map_cons]
            have := (ih l).2 i.entry
            simpa [filled] using this
          · have hfull : maxPrinterInterfaces - l.length = 0 := by omega
            rw [if_neg (by simp [hr]), hfull, List.take_zero]
            have := (ih l).1
            rwa [hfull, List.take_zero] at this
        · rw [List.filter_cons_of_neg (by exact ha), if_neg (by simp [ha])]
          exact (ih l).1
      refine ⟨hnext l none, fun p => ?_⟩
      rw [hnext (l ++ [p]) (some l.length), List.length_append, List.length_singleton]
      rfl

/-- **The loop**: one entry for each candidate, filled with its own endpoints. -/
theorem walk_eq (ds : List UsbDescriptor) : (walk ds).printerInterfaces = (candidates ds).map filled :=
  (walk_from ds []).1

/-! ## The endpoints of an entry -/

def EndpointDescriptor.info (e : EndpointDescriptor) : UsbEndpointInfo :=
  { address := e.bEndpointAddress, attributes := e.bmAttributes, maxPacketSize := e.wMaxPacketSize
    interval := e.bInterval }

/-- The first valid bulk endpoint of a direction. -/
def firstBulk (isIn : Bool) (es : List EndpointDescriptor) : Option UsbEndpointInfo :=
  (es.map (·.info)).find? fun e => e.valid && e.isBulk && e.isIn == isIn

def UsbEndpointInfo.ifValid (e : UsbEndpointInfo) : Option UsbEndpointInfo := if e.valid then some e else none

def UsbPrinterInterfaceInfo.endpoint (p : UsbPrinterInterfaceInfo) (isIn : Bool) : UsbEndpointInfo :=
  if isIn then p.bulkIn else p.bulkOut

/-- What an entry says about the interface it was opened for. -/
structure Describes (p : UsbPrinterInterfaceInfo) (x : InterfaceDescriptor × List EndpointDescriptor) : Prop where
  found : p.found = true
  interfaceNumber : p.interfaceNumber = x.1.bInterfaceNumber
  alternateSetting : p.alternateSetting = x.1.bAlternateSetting
  subclass : p.subclass = x.1.bInterfaceSubClass
  protocol : p.protocol = x.1.bInterfaceProtocol
  endpoints : ∀ isIn, (p.endpoint isIn).ifValid = firstBulk isIn x.2

theorem firstBulk_cons (isIn : Bool) (e : EndpointDescriptor) (es : List EndpointDescriptor) :
    firstBulk isIn (e :: es) =
      if bulk e && e.info.isIn == isIn then e.info.ifValid.or (firstBulk isIn es) else firstBulk isIn es := by
  have hb : e.info.isBulk = bulk e := rfl
  unfold firstBulk UsbEndpointInfo.ifValid
  rw [List.map_cons, List.find?_cons, hb]
  cases e.info.valid <;> cases bulk e <;> cases e.info.isIn == isIn <;> rfl

/-- A bulk endpoint is stored where none that is valid is stored yet. -/
theorem store_endpoint (p : UsbPrinterInterfaceInfo) (e : EndpointDescriptor) (isIn : Bool) :
    ((p.store e).endpoint isIn).ifValid =
      if bulk e && e.info.isIn == isIn then (p.endpoint isIn).ifValid.or e.info.ifValid
      else (p.endpoint isIn).ifValid := by
  have hin : (e.bEndpointAddress &&& 0x80 != 0) = e.info.isIn := rfl
  have hstore : ∀ slot, (storeEndpoint slot e).ifValid = slot.ifValid.or e.info.ifValid := by
    intro slot
    unfold storeEndpoint UsbEndpointInfo.ifValid
    cases hv : slot.valid with
    | true => simp [hv]
    | false => rfl
  unfold UsbPrinterInterfaceInfo.store
  rw [hin]
  cases bulk e <;> cases e.info.isIn <;> cases isIn <;> first | rfl | exact hstore _

theorem foldl_store_endpoint (es : List EndpointDescriptor) (isIn : Bool) : ∀ p : UsbPrinterInterfaceInfo,
    ((es.foldl .store p).endpoint isIn).ifValid = (p.endpoint isIn).ifValid.or (firstBulk isIn es) := by
  induction es with
  | nil => exact fun p => (Option.or_none).symm
  | cons e es ih =>
    intro p
    rw [List.foldl_cons, ih, store_endpoint, firstBulk_cons]
    split
    · exact Option.or_assoc
    · rfl

/-- The endpoints stored leave the rest of an entry alone. -/
theorem foldl_store_fields (es : List EndpointDescriptor) : ∀ p : UsbPrinterInterfaceInfo,
    (es.foldl .store p).found = p.found ∧ (es.foldl .store p).interfaceNumber = p.interfaceNumber ∧
      (es.foldl .store p).alternateSetting = p.alternateSetting ∧ (es.foldl .store p).subclass = p.subclass ∧
      (es.foldl .store p).protocol = p.protocol := by
  induction es with
  | nil => exact fun p => ⟨rfl, rfl, rfl, rfl, rfl⟩
  | cons e es ih =>
    intro p
    have hstore : (p.store e).found = p.found ∧ (p.store e).interfaceNumber = p.interfaceNumber ∧
        (p.store e).alternateSetting = p.alternateSetting ∧ (p.store e).subclass = p.subclass ∧
        (p.store e).protocol = p.protocol := by
      unfold UsbPrinterInterfaceInfo.store
      split
      · split <;> exact ⟨rfl, rfl, rfl, rfl, rfl⟩
      · exact ⟨rfl, rfl, rfl, rfl, rfl⟩
    obtain ⟨h1, h2, h3, h4, h5⟩ := hstore
    obtain ⟨i1, i2, i3, i4, i5⟩ := ih (p.store e)
    exact ⟨i1.trans h1, i2.trans h2, i3.trans h3, i4.trans h4, i5.trans h5⟩

theorem describes_filled (x : InterfaceDescriptor × List EndpointDescriptor) : Describes (filled x) x := by
  obtain ⟨h1, h2, h3, h4, h5⟩ := foldl_store_fields x.2 x.1.entry
  refine ⟨h1, h2, h3, h4, h5, fun isIn => ?_⟩
  rw [filled, foldl_store_endpoint]
  cases isIn <;> rfl

theorem ifValid_inj {e f : UsbEndpointInfo} (h : e.ifValid = f.ifValid) :
    e.valid = f.valid ∧ (e.valid = true → e = f) := by
  unfold UsbEndpointInfo.ifValid at h
  cases he : e.valid with
  | true =>
    rw [he, if_pos rfl] at h
    split at h
    · rename_i hf
      exact ⟨hf.symm, fun _ => Option.some.inj h⟩
    · cases h
  | false =>
    rw [he, if_neg (by simp)] at h
    split at h
    · cases h
    · rename_i hf
      exact ⟨(Bool.eq_false_iff.2 hf).symm, fun h => (by cases h)⟩

section describes
variable {p q : UsbPrinterInterfaceInfo} {x : InterfaceDescriptor × List EndpointDescriptor}

theorem Describes.usable (hp : Describes p x) (hq : Describes q x) : p.usableForRawPrint = q.usableForRawPrint := by
  obtain ⟨hv, he⟩ := ifValid_inj ((hp.endpoints false).trans (hq.endpoints false).symm)
  have hv : p.bulkOut.valid = q.bulkOut.valid := hv
  have he : p.bulkOut.valid = true → p.bulkOut = q.bulkOut := he
  unfold UsbPrinterInterfaceInfo.usableForRawPrint
  rw [hp.found, hq.found, hp.subclass, hq.subclass, hp.protocol, hq.protocol]
  cases hb : p.bulkOut.valid with
  | true => rw [← he hb, hb]
  | false => rw [← hv, hb]; simp

/-- The score depends on the interface alone. -/
theorem Describes.printScore (hp : Describes p x) (hq : Describes q x) : printScore p = printScore q := by
  have hin : p.bulkIn.valid = q.bulkIn.valid := (ifValid_inj ((hp.endpoints true).trans (hq.endpoints true).symm)).1
  unfold PrintServer.printScore
  rw [hp.usable hq, hin, hp.protocol, hq.protocol, hp.alternateSetting, hq.alternateSetting]

end describes

/-- An accepted interface can print exactly if it has a valid bulk OUT endpoint. -/
theorem Describes.usable_iff {p : UsbPrinterInterfaceInfo} {x : InterfaceDescriptor × List EndpointDescriptor}
    (hp : Describes p x) (ha : x.1.accepted = true) : p.usableForRawPrint = true ↔ firstBulk false x.2 ≠ none := by
  have hout : p.bulkOut.ifValid = firstBulk false x.2 := hp.endpoints false
  unfold InterfaceDescriptor.accepted at ha
  simp only [Bool.and_eq_true] at ha
  obtain ⟨⟨-, hsub⟩, hprotocol⟩ := ha
  rw [UsbPrinterInterfaceInfo.usableForRawPrint, hp.found, hp.subclass, hp.protocol, hsub]
  simp only [Bool.true_and, Bool.and_eq_true, hprotocol.1, hprotocol.2]
  rw [← hout]
  unfold UsbEndpointInfo.ifValid at hout ⊢
  cases hv : p.bulkOut.valid with
  | false => simp
  | true =>
    rw [hv, if_pos rfl] at hout
    have hfound := List.find?_some hout.symm
    simp only [Bool.and_eq_true, beq_iff_eq] at hfound
    simp [hfound.1.2, hfound.2]

theorem accepted_of_candidate {ds : List UsbDescriptor} {x : InterfaceDescriptor × List EndpointDescriptor}
    (hx : x ∈ candidates ds) : x.1.accepted = true := (List.mem_filter.1 (List.mem_of_mem_take hx)).2

/-- Only what can print scores well. -/
theorem printScore_unusable {p : UsbPrinterInterfaceInfo} (h : p.usableForRawPrint = false) : printScore p = -1000 := by
  unfold printScore
  rw [h]
  rfl

theorem printScore_usable {p : UsbPrinterInterfaceInfo} (h : p.usableForRawPrint = true) : -1000 < printScore p := by
  have hp : (0x01 ≤ p.protocol && p.protocol ≤ 0x03) = true := by
    unfold UsbPrinterInterfaceInfo.usableForRawPrint at h
    simp only [Bool.and_eq_true] at h ⊢
    exact h.1.1.1.2
  have hcases : p.protocol = 1 ∨ p.protocol = 2 ∨ p.protocol = 3 := by
    obtain ⟨h1, h3⟩ := Bool.and_eq_true_iff.1 hp
    have h1 := UInt8.le_iff_toNat_le.1 (of_decide_eq_true h1)
    have h3 := UInt8.le_iff_toNat_le.1 (of_decide_eq_true h3)
    simp only [← UInt8.toNat_inj]
    simp at h1 h3 ⊢
    omega
  unfold printScore
  rw [h]
  rcases hcases with hc | hc | hc <;> rw [hc] <;> cases p.bulkIn.valid <;> cases p.alternateSetting == 0 <;> decide

/-! ## The choice -/

section choice
variable {g : UsbRuntime} {d : UsbDeviceInfo} {a : EnumerationAnswers} {k : Nat}

/-- An entry with the highest score, the first of them. -/
def IsBest (l : List UsbPrinterInterfaceInfo) (k : Nat) (p : UsbPrinterInterfaceInfo) : Prop :=
  ∀ j q, l[j]? = some q → printScore q ≤ printScore p ∧ (j < k → printScore q < printScore p)

/-- Where there is an entry one is selected, usable or not: the floor lies below all scores. -/
theorem selectedPrintIndex_eq (hne : d.printerInterfaces ≠ []) : ∃ k p, selectedPrintIndex d = some k ∧
    d.printerInterfaces[k]? = some p ∧ IsBest d.printerInterfaces k p := by
  cases hk : selectedPrintIndex d with
  | none =>
    have hmost := Lib.firstBest_eq_none_iff.1 hk
    obtain ⟨p, l, hl⟩ := List.exists_cons_of_ne_nil hne
    have hp := hmost 0 p _ (by rw [hl]; rfl) rfl
    cases hu : p.usableForRawPrint with
    | true => exact absurd (printScore_usable hu) (by omega)
    | false => rw [printScore_unusable hu] at hp; exact absurd hp (by decide)
  | some k =>
    obtain ⟨s, -, h⟩ := Lib.firstBest_eq_some hk
    obtain ⟨p, hp, hs⟩ := h.entry
    cases hs
    exact ⟨k, p, rfl, hp, fun j q hq => ⟨h.max j q _ hq rfl, h.first j q _ hq rfl⟩⟩

/-- A status interface is never an alternate of the print interface. -/
theorem selectedStatusIndex_ne {print status : UsbPrinterInterfaceInfo} (hk : d.printerInterfaces[k]? = some print)
    (h : (selectedStatusIndex d (some k)).bind (d.printerInterfaces[·]?) = some status) :
    status.interfaceNumber ≠ print.interfaceNumber := by
  obtain ⟨j, hj, hstatus⟩ := Option.bind_eq_some_iff.1 h
  obtain ⟨s, -, hbest⟩ := Lib.firstBest_eq_some hj
  obtain ⟨x, hx, hs⟩ := hbest.entry
  have hx : x = status := Option.some.inj (hx.symm.trans hstatus)
  subst hx
  split at hs
  · cases hs
  · split at hs
    · cases hs
    · rename_i hsame
      simp only [sameInterfaceAsPrint, Option.bind_some, hk] at hsame
      simpa using (by simpa using hsame : _ ∧ _).1

/-- What `claimInterfaces` leaves of `g`, when it succeeds. -/
structure Claimed (g g' : UsbRuntime) : Prop where
  print : g'.printInterfaceClaimed = true
  deviceOpen : g'.deviceOpen = g.deviceOpen
  address : g'.address = g.address

/-- The best entry is claimed, without a look at whether it is usable. -/
theorem claimInterfaces_ok {p : UsbPrinterInterfaceInfo} (hk : selectedPrintIndex d = some k)
    (hp : d.printerInterfaces[k]? = some p) (hc : a.printClaim = .ok ()) :
    ∃ g' out, claimInterfaces g d a = (g', .ok out) ∧ Claimed g g' ∧ out.printer = p ∧
      out.attached = d.attached ∧ out.address = d.address ∧ out.portStatus = d.portStatus ∧
      (out.statusInterfaceSeparate = true → out.statusInterface.interfaceNumber ≠ p.interfaceNumber) := by
  unfold claimInterfaces
  dsimp only
  rw [hk, Option.bind_some, hp, hc]
  dsimp only
  split
  · rename_i status _ hs _
    exact ⟨_, _, rfl, ⟨rfl, rfl, rfl⟩, rfl, rfl, rfl, rfl, fun _ => selectedStatusIndex_ne (d := { d with
      printer := p, statusInterfaceSeparate := false, statusInterface := {} }) hp hs⟩
  · exact ⟨_, _, rfl, ⟨rfl, rfl, rfl⟩, rfl, rfl, rfl, rfl, fun h => (by cases h)⟩

/-- A claim that the driver refuses. -/
theorem claimInterfaces_error {e : String} (hc : a.printClaim = .error e) :
    ∃ e', claimInterfaces g d a = (g, .error e') := by
  unfold claimInterfaces
  dsimp only
  rw [hc]
  split
  · exact ⟨_, rfl⟩
  · exact ⟨_, rfl⟩

end choice

/-! ## One enumeration -/

section enumeration
variable {g : UsbRuntime} {address : UInt8} {a : EnumerationAnswers} {ds : List UsbDescriptor}

/-- The driver opens the device, gives out its descriptors and lets an interface be claimed, and
there is a candidate among them. -/
structure Enumerable (a : EnumerationAnswers) (ds : List UsbDescriptor) : Prop where
  opened : ∃ dev, a.deviceOpen = .ok dev
  descriptor : ∃ ids, a.deviceDescriptor = .ok ids
  configuration : ∃ value, a.configDescriptor = .ok (value, ds)
  candidate : candidates ds ≠ []
  claim : a.printClaim = .ok ()

/-- The enumeration succeeds: the device is open, the best candidate is claimed and reported. -/
structure Opened (g : UsbRuntime) (address : UInt8) (ds : List UsbDescriptor) (g' : UsbRuntime) (out : UsbDeviceInfo) :
    Prop where
  runtime : ∃ dev, Claimed { g with device := some dev, address, deviceOpen := true } g'
  attached : out.attached = true
  address : out.address = address
  noStatus : out.portStatus.valid = false
  best : ∃ k x, (candidates ds)[k]? = some x ∧ out.printer = filled x ∧
    IsBest ((candidates ds).map filled) k out.printer
  status : out.statusInterfaceSeparate = true → out.statusInterface.interfaceNumber ≠ out.printer.interfaceNumber

theorem enumerateDevice_ok (g : UsbRuntime) (address : UInt8) (h : Enumerable a ds) :
    ∃ g' out, enumerateDevice g address a = (g', .ok out) ∧ Opened g address ds g' out := by
  obtain ⟨⟨dev, hdev⟩, ⟨ids, hids⟩, ⟨value, hconfig⟩, hne, hclaim⟩ := h
  have hentries : (a.record address ids (value, ds)).printerInterfaces = (candidates ds).map filled := walk_eq ds
  have hnonempty : (a.record address ids (value, ds)).printerInterfaces ≠ [] := by
    rw [hentries]
    exact fun h => hne (List.map_eq_nil_iff.1 h)
  obtain ⟨k, p, hk, hp, hbest⟩ := selectedPrintIndex_eq hnonempty
  obtain ⟨g', out, hc, hg, hprinter, hattached, haddress, hport, hstatus⟩ :=
    claimInterfaces_ok (g := { g with device := some dev, address, deviceOpen := true }) hk hp hclaim
  have hrun : enumerateDevice g address a = (g', .ok out) := by
    unfold enumerateDevice
    rw [hdev, hids, hconfig]
    dsimp only
    rw [if_neg (fun h => hnonempty (List.isEmpty_iff.1 h)), hc]
  rw [hentries] at hp hbest
  rw [List.getElem?_map] at hp
  obtain ⟨x, hx, hfilled⟩ := Option.map_eq_some_iff.1 hp
  have hno : out.portStatus.valid = false := congrArg UsbPortStatus.valid hport
  exact ⟨g', out, hrun, ⟨dev, hg⟩, hattached, haddress, hno, ⟨k, x, hx, hprinter.trans hfilled.symm, hprinter ▸ hbest⟩,
    hprinter ▸ hstatus⟩

/-- The enumeration fails: `g` is as before, or the device that was opened is closed again. -/
theorem enumerateDevice_error (g : UsbRuntime) (address : UInt8) (h : ∀ ds, ¬ Enumerable a ds) :
    ∃ e, enumerateDevice g address a =
    (match a.deviceOpen with
      | .ok _ => g.resetDevice
      | .error _ => g, .error e) := by
  unfold enumerateDevice
  cases hdev : a.deviceOpen with
  | error e => exact ⟨_, rfl⟩
  | ok dev =>
    dsimp only
    cases hids : a.deviceDescriptor with
    | error e => exact ⟨_, by rw [UsbRuntime.closeDevice_eq]; rfl⟩
    | ok ids =>
      dsimp only
      cases hconfig : a.configDescriptor with
      | error e => exact ⟨_, by rw [UsbRuntime.closeDevice_eq]; rfl⟩
      | ok config =>
        obtain ⟨value, ds⟩ := config
        dsimp only
        by_cases hne : (a.record address ids (value, ds)).printerInterfaces = []
        · rw [if_pos (List.isEmpty_iff.2 hne)]
          exact ⟨_, by rw [UsbRuntime.closeDevice_eq]; rfl⟩
        · rw [if_neg (fun h => hne (List.isEmpty_iff.1 h))]
          cases hclaim : a.printClaim with
          | ok =>
            refine absurd ⟨⟨dev, hdev⟩, ⟨ids, hids⟩, ⟨value, hconfig⟩, fun hnil => hne ?_, hclaim⟩ (h ds)
            show (walk ds).printerInterfaces = []
            rw [walk_eq, hnil]
            rfl
          | error e =>
            obtain ⟨e', he'⟩ := claimInterfaces_error (g := { g with device := some dev, address, deviceOpen := true })
              (d := a.record address ids (value, ds)) hclaim
            rw [he']
            dsimp only
            exact ⟨e', by rw [UsbRuntime.closeDevice_eq]; rfl⟩

end enumeration

/-- Out of these descriptors, `out` is one that can print, the best of the candidates and the first of
the best, and a status interface of its own has its own number. -/
structure Selects (ds : List UsbDescriptor) (out : UsbDeviceInfo) : Prop where
  usable : out.printer.usableForRawPrint = true
  best : ∃ (k : Nat) (x : InterfaceDescriptor × List EndpointDescriptor), (candidates ds)[k]? = some x ∧
    Describes out.printer x ∧
    ∀ (j : Nat) (y : InterfaceDescriptor × List EndpointDescriptor) (q : UsbPrinterInterfaceInfo),
      (candidates ds)[j]? = some y → Describes q y →
      printScore q ≤ printScore out.printer ∧ (j < k → printScore q < printScore out.printer)
  status : out.statusInterfaceSeparate = true → out.statusInterface.interfaceNumber ≠ out.printer.interfaceNumber

/-- Some candidate has a valid bulk OUT endpoint. -/
def SomeUsable (ds : List UsbDescriptor) : Prop := ∃ x ∈ candidates ds, firstBulk false x.2 ≠ none

/-- A success selects; where no candidate can print there is none, and the device is closed. -/
structure SelectsOrRefuses (g : UsbRuntime) (address : UInt8) (a : EnumerationAnswers) : Prop where
  selects : ∀ g' out, enumerateDevice g address a = (g', .ok out) →
    ∃ value ds, a.configDescriptor = .ok (value, ds) ∧ Selects ds out
  refuses : ∀ value ds, a.configDescriptor = .ok (value, ds) →
    (∀ x ∈ candidates ds, ∀ p, Describes p x → p.usableForRawPrint = false) →
    ∃ g' e, enumerateDevice g address a = (g', .error e) ∧ ((∃ dev, a.deviceOpen = .ok dev) → g'.deviceOpen = false)

section selection
variable {g g' : UsbRuntime} {address : UInt8} {a : EnumerationAnswers} {ds : List UsbDescriptor} {out : UsbDeviceInfo}

/-- The best of the candidates can print if one of them can. -/
theorem Opened.selects (h : Opened g address ds g' out) (hu : SomeUsable ds) : Selects ds out := by
  obtain ⟨k, x, hx, hp, hbest⟩ := h.best
  have hd : Describes out.printer x := hp ▸ describes_filled x
  have hmax : ∀ (j : Nat) (y : _) (q : _), (candidates ds)[j]? = some y → Describes q y →
      printScore q ≤ printScore out.printer ∧ (j < k → printScore q < printScore out.printer) := by
    intro j y q hy hq
    rw [hq.printScore (describes_filled y)]
    exact hbest j (filled y) (by rw [List.getElem?_map, hy]; rfl)
  refine ⟨?_, ⟨k, x, hx, hd, hmax⟩, h.status⟩
  obtain ⟨y, hy, hbulk⟩ := hu
  have husable := ((describes_filled y).usable_iff (accepted_of_candidate hy)).2 hbulk
  obtain ⟨j, hj⟩ := List.getElem?_of_mem hy
  have hle := (hmax j y _ hj (describes_filled y)).1
  by_contra hno
  have hno : out.printer.usableForRawPrint = false := by simpa using hno
  rw [printScore_unusable hno] at hle
  exact absurd (printScore_usable husable) (by omega)

/-- **What enumeration selects** can print and is the best, or nothing is selected, exactly unless
there are candidates of which none can print and the driver lets the first be claimed. -/
theorem enumerateDevice_selects_iff (g : UsbRuntime) (address : UInt8) (a : EnumerationAnswers) :
    SelectsOrRefuses g address a ↔ ∀ ds, Enumerable a ds → SomeUsable ds := by
  constructor
  · intro h ds he
    by_contra hno
    obtain ⟨value, hconfig⟩ := he.configuration
    obtain ⟨g', out, hrun, -⟩ := enumerateDevice_ok g address he
    have hnone : ∀ x ∈ candidates ds, ∀ p, Describes p x → p.usableForRawPrint = false := by
      intro x hx p hp
      by_contra hu
      exact hno ⟨x, hx, (hp.usable_iff (accepted_of_candidate hx)).1 (by simpa using hu)⟩
    obtain ⟨g'', e, hrefused, -⟩ := h.refuses value ds hconfig hnone
    cases hrun.symm.trans hrefused
  · intro h
    refine ⟨fun g' out hrun => ?_, fun value ds hconfig hnone => ?_⟩
    · by_cases he : ∃ ds, Enumerable a ds
      · obtain ⟨ds, he⟩ := he
        obtain ⟨value, hconfig⟩ := he.configuration
        obtain ⟨g₁, out₁, hrun₁, hopened⟩ := enumerateDevice_ok g address he
        cases hrun.symm.trans hrun₁
        exact ⟨value, ds, hconfig, hopened.selects (h ds he)⟩
      · obtain ⟨e, herror⟩ := enumerateDevice_error g address (fun ds hds => he ⟨ds, hds⟩)
        cases hrun.symm.trans herror
    · have hfails : ∀ ds', ¬ Enumerable a ds' := by
        intro ds' he
        obtain ⟨value', hconfig'⟩ := he.configuration
        cases hconfig.symm.trans hconfig'
        obtain ⟨x, hx, hu⟩ := h ds he
        have husable := ((describes_filled x).usable_iff (accepted_of_candidate hx)).2 hu
        cases husable.symm.trans (hnone x hx _ (describes_filled x))
      obtain ⟨e, herror⟩ := enumerateDevice_error g address hfails
      refine ⟨_, e, herror, ?_⟩
      rintro ⟨dev, hdev⟩
      rw [hdev]
      rfl

end selection

/-- A RAW printer interface without endpoints; the driver grants everything. -/
def noEndpoints : EnumerationAnswers :=
  { deviceOpen := .ok 1, deviceDescriptor := .ok (0x03F0, 0x0001), deviceInfo := none
    configDescriptor := .ok (1, [.interface ⟨0, 0, 0x07, 0x01, 0x02⟩]), printClaim := .ok (), statusClaim := .ok () }

/-- It is selected. -/
theorem unusable_selected : ∃ g out, enumerateDevice {} 1 noEndpoints = (g, .ok out) ∧
    out.printer.usableForRawPrint = false ∧ g.deviceOpen = true ∧ ¬ SelectsOrRefuses {} 1 noEndpoints := by
  have hrun : ∃ g out, enumerateDevice {} 1 noEndpoints = (g, .ok out) ∧
      out.printer.usableForRawPrint = false ∧ g.deviceOpen = true := ⟨_, _, rfl, rfl, rfl⟩
  obtain ⟨g, out, hok, hno, hopen⟩ := hrun
  refine ⟨g, out, hok, hno, hopen, fun h => ?_⟩
  obtain ⟨value, ds, -, hs⟩ := h.selects g out hok
  cases hno.symm.trans hs.usable

end PrintServer
