import PrintServer.Config
/-!
# The USB device record and the host manager's state (usb_device.h, usb_host_manager.h)

What the backend reads of the USB side, and the five callbacks through which the USB client
task writes it (usb_host_manager.cpp:757-811). The Bulk OUT pipeline is `PrintServer.BulkOut`.
-/
namespace PrintServer

/-- `UsbEndpointInfo` (usb_device.h:4). -/
structure UsbEndpointInfo where
  address : UInt8 := 0
  attributes : UInt8 := 0
  maxPacketSize : UInt16 := 0
  interval : UInt8 := 0
deriving DecidableEq, Repr

namespace UsbEndpointInfo
def valid (e : UsbEndpointInfo) : Bool := e.address != 0 && e.maxPacketSize != 0
def isIn (e : UsbEndpointInfo) : Bool := e.address &&& 0x80 != 0
def isBulk (e : UsbEndpointInfo) : Bool := e.attributes &&& 0x03 == 0x02
end UsbEndpointInfo

/-- `UsbPrinterInterfaceInfo` (usb_device.h:15). -/
structure UsbPrinterInterfaceInfo where
  found : Bool := false
  interfaceNumber : UInt8 := 0
  alternateSetting : UInt8 := 0
  subclass : UInt8 := 0
  protocol : UInt8 := 0
  bulkOut : UsbEndpointInfo := {}
  bulkIn : UsbEndpointInfo := {}
deriving DecidableEq, Repr

/-- `usableForRawPrint` (usb_device.h:24). -/
def UsbPrinterInterfaceInfo.usableForRawPrint (p : UsbPrinterInterfaceInfo) : Bool :=
  p.found && p.subclass == 0x01 && (0x01 ≤ p.protocol && p.protocol ≤ 0x03) &&
    p.bulkOut.valid && p.bulkOut.isBulk && !p.bulkOut.isIn

/-- `usableForStatus` (usb_device.h:31). -/
def UsbPrinterInterfaceInfo.usableForStatus (p : UsbPrinterInterfaceInfo) : Bool :=
  p.found && p.subclass == 0x01

/-- `UsbPortStatus` (usb_device.h:36). -/
structure UsbPortStatus where
  valid : Bool := false
  value : UInt8 := 0
  error : Bool := false
  selected : Bool := false
  paperEmpty : Bool := false
  updatedAt : Nat := 0
deriving DecidableEq, Repr

/-- `UsbDeviceInfo` (usb_device.h:45). The first `printerInterfaceCount` of its `printerInterfaces` are
a list here. -/
structure UsbDeviceInfo where
  attached : Bool := false
  vid : UInt16 := 0
  pid : UInt16 := 0
  address : UInt8 := 0
  configurationValue : UInt8 := 0
  manufacturer : String := ""
  product : String := ""
  serial : String := ""
  printerInterfaces : List UsbPrinterInterfaceInfo := []
  printer : UsbPrinterInterfaceInfo := {}
  statusInterface : UsbPrinterInterfaceInfo := {}
  statusInterfaceSeparate : Bool := false
  portStatus : UsbPortStatus := {}
deriving DecidableEq, Repr

/-- `UsbHostManager::State` (usb_host_manager.h:7). -/
inductive HostState where
  | stopped | running | enumerating | deviceAttached | printerReady | error
deriving DecidableEq, Repr

structure UsbHostManager where
  state : HostState := .stopped
  device : UsbDeviceInfo := {}
  error : String := ""
  started : Bool := false
deriving DecidableEq, Repr

/-- The calls the client task makes. -/
inductive HostEvent where
  | portStatusTransfer (valid : Bool) (value : UInt8) (error : String)
  | enumerationStarted
  | enumerated (info : UsbDeviceInfo)
  | detached
  | enumerationError (error : String)
deriving DecidableEq, Repr

namespace UsbHostManager

/-- `selectedInterface` (:610). -/
def selectedInterface (h : UsbHostManager) : Option UsbPrinterInterfaceInfo :=
  if h.device.printer.found then some h.device.printer else none

/-- `selectedInterfaceUsable` (usb_printer_backend.cpp:141). -/
def selectedInterfaceUsable (h : UsbHostManager) : Bool :=
  match h.selectedInterface with
  | some p => p.usableForRawPrint
  | none => false

/-- `onPortStatusTransfer` (:757). -/
def onPortStatusTransfer (h : UsbHostManager) (now : Nat) (valid : Bool) (value : UInt8) (error : String) :
    UsbHostManager :=
  if !valid then (if error.isEmpty then h else { h with error := error })
  else
    { h with
      device := { h.device with
        portStatus :=
          { valid := true, value, error := value &&& 0x08 == 0, selected := value &&& 0x10 != 0,
            paperEmpty := value &&& 0x20 != 0, updatedAt := millis now } }
      error := "" }

/-- `onEnumerationStarted` (:787). -/
def onEnumerationStarted (h : UsbHostManager) : UsbHostManager :=
  if !h.started then h else { h with state := .enumerating, error := "" }

/-- `onEnumerated` (:793). -/
def onEnumerated (h : UsbHostManager) (info : UsbDeviceInfo) : UsbHostManager :=
  { h with device := info, error := "", state := if info.printer.found then .printerReady else .deviceAttached }

/-- `onDetached` (:801). -/
def onDetached (h : UsbHostManager) : UsbHostManager :=
  { h with device := {}, error := "", state := if h.started then .running else .stopped }

/-- `onEnumerationError` (:808). -/
def onEnumerationError (h : UsbHostManager) (error : String) : UsbHostManager :=
  { h with error := error, state := if h.started && h.state != .error then .running else h.state }

def on (h : UsbHostManager) (now : Nat) : HostEvent → UsbHostManager
  | .portStatusTransfer valid value error => h.onPortStatusTransfer now valid value error
  | .enumerationStarted => h.onEnumerationStarted
  | .enumerated info => h.onEnumerated info
  | .detached => h.onDetached
  | .enumerationError error => h.onEnumerationError error

def onAll (h : UsbHostManager) (now : Nat) (es : List HostEvent) : UsbHostManager :=
  es.foldl (fun h e => h.on now e) h

/-- A Smart Tank after enumeration: one bidirectional RAW interface, no port status yet. -/
def enumeratedPrinter : UsbHostManager :=
  let print : UsbPrinterInterfaceInfo :=
    { found := true, subclass := 0x01, protocol := 0x02
      bulkOut := { address := 0x01, attributes := 0x02, maxPacketSize := 64 }
      bulkIn := { address := 0x81, attributes := 0x02, maxPacketSize := 64 } }
  { state := .printerReady, started := true
    device := { attached := true, address := 1, printer := print, statusInterface := print } }

end UsbHostManager
end PrintServer
