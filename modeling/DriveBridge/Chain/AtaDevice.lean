import DriveBridge.Ata.Bridge.Cypress
import DriveBridge.Ata.Bridge.JMicron
import DriveBridge.Ata.Bridge.Prolific
import DriveBridge.Ata.Bridge.Sunplus
import DriveBridge.Chain.ScsiDevice
import DriveBridge.Multiplexer.Routing

/-! Devices that take ATA commands: SAT devices, bridges with commands of their own, and drives
behind a multiplexer that hangs on another ATA device. -/
namespace DriveBridge.Chain

/-- How a bridge wraps ATA commands. -/
inductive Encoding where
  | cypress (signature : UInt8)
  | jmicron (setup : Ata.JMicron.Setup)
  | prolific
  | sunplus

namespace Encoding

def type : Encoding → String
  | cypress _ => "usbcypress"
  | jmicron _ => "usbjmicron"
  | prolific => "usbprolific"
  | sunplus => "usbsunplus"

def vendor : Encoding → String
  | cypress _ => "Cypress"
  | jmicron _ => "JMicron"
  | prolific => "Prolific"
  | sunplus => "Sunplus"

end Encoding

/-- A bridge, without the device below it. -/
structure BridgeLayer where
  profile : Profile
  encoding : Encoding

namespace BridgeLayer

/-- The layer that goes on top of a device. It takes over the path and the time limit. -/
def atop (inner : Profile) (requested : String) (encoding : Encoding) : BridgeLayer where
  profile :=
    { names :=
        { path := inner.names.path
          label := inner.names.label ++ " [USB " ++ encoding.vendor ++ "]"
          type := encoding.type
          requested }
      protocols := { ata := true }
      timeout := inner.timeout }
  encoding := encoding

/-- Executes a request in the encoding of the bridge. -/
def perform (layer : BridgeLayer) (query : Ata.Query) : Scsi.Session Ata.Answer :=
  match layer.encoding with
  | .cypress signature =>
      Ata.Cypress.perform signature layer.profile.timeout layer.profile.label query.request
        query.registers
  | .jmicron setup => Ata.JMicron.perform setup query.request query.registers
  | .prolific => Ata.Prolific.perform query.request query.registers
  | .sunplus => Ata.Sunplus.perform query.request query.registers

/-- Keeps the failure of a request in the way of the encoding. -/
def settle (layer : BridgeLayer) (result : Except Failure Unit) : BridgeLayer :=
  match layer.encoding with
  | .cypress _ => { layer with profile := Ata.SmartOperation.settle result layer.profile }
  | _ => { layer with profile := layer.profile.settle result }

def record (layer : BridgeLayer) (failure : Failure) : BridgeLayer :=
  { layer with profile := layer.profile.record failure }

/-- Reads registers of a two-port bridge into a buffer. -/
def readRegisters (layer : BridgeLayer) (setup : Ata.JMicron.Setup) (inner : ScsiDevice)
    (address : UInt16) (buffer : Bytes) :
    Wire ((Except Failure Unit × Bytes) × BridgeLayer × ScsiDevice) := do
  let ((result, data), inner) ←
    inner.serve (Ata.JMicron.readRegisters setup.trailer address buffer)
  return ((result, data), { layer with profile := layer.profile.settle result }, inner)

/-- Reads the task file of a two-port bridge. -/
def readTaskFile (layer : BridgeLayer) (setup : Ata.JMicron.Setup) (inner : ScsiDevice)
    (registers : Ata.RegisterFile Ata.OutputRegister) :
    Wire ((Except Failure Unit × Ata.RegisterFile Ata.OutputRegister) ×
      BridgeLayer × ScsiDevice) := do
  let ((result, registers), inner) ← inner.serve (Ata.JMicron.readTaskFile setup registers)
  return ((result, registers), { layer with profile := layer.profile.settle result }, inner)

/-- Finds out the port of an open bridge where it is not known. The bridge is closed again
where that fails, and the reason outlasts whatever closing reports. -/
def findPort (layer : BridgeLayer) (setup : Ata.JMicron.Setup) (inner : ScsiDevice) :
    Wire (Except Failure Unit × BridgeLayer × ScsiDevice) := do
  if setup.port.isSome then return (.ok (), layer, inner)
  else
    let (detected, inner) ← inner.serve (Ata.JMicron.detectPort setup.trailer)
    match detected with
    | .error failure =>
        let (_, inner) ← inner.disconnect
        return (.error failure, layer.record failure, inner)
    | .ok port =>
        let label := layer.profile.label
        let name := port.name
        Dialogue.log .info s!"{label}: device found on JMicron port {name}"
        let encoding : Encoding := .jmicron { setup with port := some port }
        return (.ok (), { layer with encoding }, inner)

/-- Opens the device below, and makes the bridge ready for commands. -/
def connect (layer : BridgeLayer) (inner : ScsiDevice) :
    Wire (Except Failure Unit × BridgeLayer × ScsiDevice) := do
  let (result, inner) ← inner.connect
  match result, layer.encoding with
  | .error failure, _ => return (.error failure, layer.record failure, inner)
  | .ok (), .jmicron setup => layer.findPort setup inner
  | .ok (), _ => return (.ok (), layer, inner)

end BridgeLayer

/-- A drive behind a multiplexer, without the device that the multiplexer hangs on. -/
structure RoutedLayer where
  profile : Profile
  drive : UInt32

namespace RoutedLayer

/-- The layer that goes on top of a device. It takes over the path and the time limit. -/
def atop (inner : Profile) (drive : UInt32) : RoutedLayer where
  profile :=
    { names :=
        { path := inner.names.path
          label := inner.names.label ++ " [intelliprop_disk_" ++ toString drive.toNat ++ "]"
          type := "intelliprop"
          requested := "intelliprop" }
      protocols := { ata := true }
      timeout := inner.timeout }
  drive := drive

def record (layer : RoutedLayer) (failure : Failure) : RoutedLayer :=
  { layer with profile := layer.profile.record failure }

end RoutedLayer

inductive AtaDevice where
  | sat (layer : SatLayer) (inner : ScsiDevice)
  | bridge (layer : BridgeLayer) (inner : ScsiDevice)
  | routed (layer : RoutedLayer) (inner : AtaDevice)

namespace AtaDevice

def profile : AtaDevice → Profile
  | sat layer _ => layer.profile
  | bridge layer _ => layer.profile
  | routed layer _ => layer.profile

def mapProfile (f : Profile → Profile) : AtaDevice → AtaDevice
  | sat layer inner => sat { layer with profile := f layer.profile } inner
  | bridge layer inner => bridge { layer with profile := f layer.profile } inner
  | routed layer inner => routed { layer with profile := f layer.profile } inner

def isOpen : AtaDevice → Bool
  | sat _ inner => inner.isOpen
  | bridge _ inner => inner.isOpen
  | routed _ inner => inner.isOpen

def place : AtaDevice → Place
  | sat _ inner => inner.place.above
  | bridge _ inner => inner.place.above
  | routed _ inner => inner.place.above

/-- Executes a request by way of the device below. Every layer keeps its failure. -/
def perform : AtaDevice → Ata.Query → Wire (Ata.Answer × AtaDevice)
  | sat layer inner, query => do
      let (answer, inner) ← inner.serve
        (Ata.Sat.perform layer.length layer.profile.timeout query.request query.registers)
      return (answer, sat { layer with profile := layer.profile.settle answer.result } inner)
  | bridge layer inner, query => do
      let (answer, inner) ← inner.serve (layer.perform query)
      return (answer, bridge (layer.settle answer.result) inner)
  | routed layer inner, query => do
      let (answer, inner) ← inner.perform query
      return (answer, routed { layer with profile := layer.profile.settle answer.result } inner)

/-- Lets a strategy run on the device. -/
def serve {α : Type} (device : AtaDevice) (session : Ata.Session α) : Wire (α × AtaDevice) :=
  session.through (fun query device => device.perform query) device

/-- Has a multiplexer behind the device route a drive. A failure is kept on the device. -/
def route (device : AtaDevice) (drive : UInt32) : Wire (Except Failure Unit × AtaDevice) := do
  let (result, device) ← device.serve (Multiplexer.route drive)
  return (result, device.mapProfile (·.settle result))

def disconnect : AtaDevice → Wire (Except Failure Unit × AtaDevice)
  | sat layer inner => do
      let (result, inner) ← inner.disconnect
      return (result, sat { layer with profile := layer.profile.settle result } inner)
  | bridge layer inner => do
      let (result, inner) ← inner.disconnect
      return (result, bridge { layer with profile := layer.profile.settle result } inner)
  | routed layer inner => do
      let (result, inner) ← inner.disconnect
      return (result, routed { layer with profile := layer.profile.settle result } inner)

/-- Opens a device. A drive behind a multiplexer is routed on the way, and the device below is
closed again where that fails; the reason outlasts whatever closing reports. -/
def connect : AtaDevice → Wire (Except Failure Unit × AtaDevice)
  | sat layer inner => do
      let (result, inner) ← inner.connect
      return (result, sat { layer with profile := layer.profile.settle result } inner)
  | bridge layer inner => do
      let (result, layer, inner) ← layer.connect inner
      return (result, bridge layer inner)
  | routed layer inner => do
      let (opened, inner) ← inner.connect
      match opened with
      | .error failure => return (.error failure, routed (layer.record failure) inner)
      | .ok () =>
        let (result, inner) ← inner.route layer.drive
        match result with
        | .ok () => return (.ok (), routed layer inner)
        | .error failure =>
            let (_, inner) ← inner.disconnect
            return (.error failure, routed (layer.record failure) inner)

/-- The view of the device that takes SCSI commands. Only SAT devices may have one. -/
def scsiView? : AtaDevice → Option ScsiDevice
  | sat layer inner => if layer.profile.shows .scsi then some (.sat layer inner) else none
  | bridge _ _ | routed _ _ => none

/-- The view of the device that takes ATA commands. A SAT device may hide it. -/
def ataView? : AtaDevice → Option AtaDevice
  | sat layer inner => if layer.profile.shows .ata then some (sat layer inner) else none
  | device => some device

end AtaDevice

end DriveBridge.Chain
