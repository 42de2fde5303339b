import DriveBridge.Chain.Slot
import DriveBridge.Nvme.Bridge.Asmedia
import DriveBridge.Nvme.Bridge.JMicron
import DriveBridge.Nvme.Bridge.Realtek
import DriveBridge.Nvme.Identify

/-! Every device that the library makes: endpoints, devices that take ATA commands, and NVMe
drives behind a bridge, which may turn into SAT devices when they are opened. -/
namespace DriveBridge.Chain

/-- The makers of bridges to NVMe drives. -/
inductive NvmeVendor where
  | asmedia | jmicron | realtek
  deriving DecidableEq, Repr

namespace NvmeVendor

def type : NvmeVendor → String
  | asmedia => "sntasmedia"
  | jmicron => "sntjmicron"
  | realtek => "sntrealtek"

def name : NvmeVendor → String
  | asmedia => "ASMedia"
  | jmicron => "JMicron"
  | realtek => "Realtek"

/-- Executes a request in the encoding of the bridge. -/
def perform (vendor : NvmeVendor) (label : String) (request : Nvme.Request)
    (completion : Nvme.Completion) : Scsi.Session Nvme.Answer :=
  match vendor with
  | asmedia => Nvme.Asmedia.perform request completion
  | jmicron => Nvme.JMicron.perform label request completion
  | realtek => Nvme.Realtek.perform request completion

end NvmeVendor

/-- An NVMe drive behind a bridge. -/
structure NvmeDevice where
  profile : Profile
  vendor : NvmeVendor
  nsid : UInt32
  /-- The command of the SAT device to turn into where no NVMe drive answers. -/
  fallback : Option Ata.Sat.Length
  inner : Slot ScsiDevice

namespace NvmeDevice

/-- The device that goes on top of another one. It takes over the path and the time limit. -/
def atop (inner : ScsiDevice) (requested : String) (vendor : NvmeVendor) (nsid : UInt32)
    (fallback : Option Ata.Sat.Length) : NvmeDevice where
  profile :=
    { names :=
        { path := inner.profile.names.path
          label := inner.profile.names.label ++ " [USB NVMe " ++ vendor.name ++ "]"
          type := vendor.type
          requested }
      protocols := { nvme := true }
      timeout := inner.profile.timeout }
  vendor := vendor
  nsid := nsid
  fallback := fallback
  inner := .holding inner

def isOpen (device : NvmeDevice) : Bool := device.inner.isOpen

/-- Opens the device below. The namespace id 0 gives way to the broadcast one. -/
def connect (device : NvmeDevice) : Wire (Except Failure Unit × NvmeDevice) := do
  let (result, inner) ← device.inner.connect
  let profile := device.profile.settle result
  let nsid := match result with
    | .ok () => if device.nsid = 0 then Nvme.broadcast else device.nsid
    | .error _ => device.nsid
  return (result, { device with inner, profile, nsid })

def disconnect (device : NvmeDevice) : Wire (Except Failure Unit × NvmeDevice) := do
  let (result, inner) ← device.inner.disconnect
  return (result, { device with inner, profile := device.profile.settle result })

/-- Executes a request in the encoding of the bridge. -/
def perform (device : NvmeDevice) (request : Nvme.Request) (completion : Nvme.Completion) :
    Wire (Nvme.Answer × NvmeDevice) := do
  let (answer, inner) ←
    (device.vendor.perform device.profile.label request completion).through Slot.scsiAnswer
      device.inner
  return (answer, { device with inner, profile := device.profile.settle answer.result })

/-- What Identify Controller brought: the identity or a failure, and the data. -/
structure Identified where
  result : Except Failure Nvme.Controller
  data : Bytes

/-- Reads the Identify Controller data. -/
def identify (device : NvmeDevice) : Wire (Identified × NvmeDevice) := do
  let (answer, device) ← device.perform Nvme.identifyRequest {}
  let data := answer.buffer.getD []
  match answer.result with
  | .error failure => return (⟨.error failure, data⟩, device)
  | .ok () =>
      let controller ← Dialogue.demand (Nvme.Controller.ofBytes? data)
      return (⟨.ok controller, data⟩, device)

/-- Moves the device below to a SAT device, open as it is. -/
def handOver (device : NvmeDevice) (length : Ata.Sat.Length) :
    Wire (Option AtaDevice × NvmeDevice) := do
  match device.inner.held? with
  | none => return (none, device)
  | some inner =>
      let label := device.profile.label
      Dialogue.log .info s!"{label}: no NVMe device, switching to SAT"
      return (some (.sat (.atop inner.profile "sat" .always length) inner),
        { device with inner := .released })

/-- Opens the device, and makes sure that an NVMe drive answers where that is in doubt: one that
names a model. Where it does not, this is the command of the SAT device to turn into. -/
def examine (device : NvmeDevice) : Wire (Option Ata.Sat.Length × NvmeDevice) := do
  let (result, device) ← device.connect
  match result, device.fallback with
  | .ok (), some length =>
      let (identified, device) ← device.identify
      match identified.result with
      | .error _ => return (some length, device)
      | .ok controller =>
          let model := controller.model
          if model.isEmpty then return (some length, device)
          else
            let label := device.profile.label
            Dialogue.log .info (label ++ ": NVMe device '" ++ model ++ "' detected")
            return (none, device)
  | _, _ => return (none, device)

/-- Opens the device. Where no NVMe drive answers, the device below goes to a SAT device, which
replaces this one. -/
def autodetect (device : NvmeDevice) : Wire (Option AtaDevice × NvmeDevice) := do
  let (fallback, device) ← device.examine
  match fallback with
  | none => return (none, device)
  | some length => device.handOver length

end NvmeDevice

inductive Device where
  | endpoint (endpoint : Endpoint)
  | ata (device : AtaDevice)
  | nvme (device : NvmeDevice)

/-- A device that takes SCSI commands, as a device. -/
def ScsiDevice.toDevice : ScsiDevice → Device
  | endpoint e => .endpoint e
  | sat layer inner => .ata (.sat layer inner)

namespace Device

def profile : Device → Profile
  | endpoint e => e.profile
  | ata device => device.profile
  | nvme device => device.profile

def mapProfile (f : Profile → Profile) : Device → Device
  | endpoint e => endpoint { e with profile := f e.profile }
  | ata device => ata (device.mapProfile f)
  | nvme device => nvme { device with profile := f device.profile }

def isOpen : Device → Bool
  | endpoint e => e.isOpen
  | ata device => device.isOpen
  | nvme device => device.isOpen

/-- Where the device is found. An NVMe device that has handed over the device below is nowhere. -/
def place? : Device → Option Place
  | endpoint e => some ⟨e.unit, 0⟩
  | ata device => some device.place
  | nvme device => device.inner.held?.map fun inner => inner.place.above

/-- The number of the endpoint that the device owns. -/
def unit? (device : Device) : Option Nat := device.place?.map (·.unit)

/-- The device below. -/
def inner? : Device → Option Device
  | endpoint _ => none
  | ata (.sat _ inner) | ata (.bridge _ inner) => some inner.toDevice
  | ata (.routed _ inner) => some (ata inner)
  | nvme device => device.inner.held?.map ScsiDevice.toDevice

/-- The device owns another one if that is the device right below it. -/
def owns (device other : Device) : Bool :=
  match device.inner?.bind place?, other.place? with
  | some below, some place => below == place
  | _, _ => false

def connect : Device → Wire (Except Failure Unit × Device)
  | endpoint e => do
      let (result, e) ← e.connect
      return (result, endpoint e)
  | ata device => do
      let (result, device) ← device.connect
      return (result, ata device)
  | nvme device => do
      let (result, device) ← device.connect
      return (result, nvme device)

def disconnect : Device → Wire (Except Failure Unit × Device)
  | endpoint e => do
      let (result, e) ← e.disconnect
      return (result, endpoint e)
  | ata device => do
      let (result, device) ← device.disconnect
      return (result, ata device)
  | nvme device => do
      let (result, device) ← device.disconnect
      return (result, nvme device)

/-- Opens a device that needs no probe. A failure is kept, also where the transport does not. -/
def openPlainly (device : Device) : Wire Device := do
  let (result, device) ← device.connect
  match result with
  | .ok () => return device
  | .error failure =>
      let label := device.profile.label
      let message := failure.message
      Dialogue.log .debug s!"{label}: open failed: {message}"
      return device.mapProfile (·.record failure)

/-- Opens a device and probes what is behind it. A replacement is returned where another kind
of device has to be used; it owns what the device owned. -/
def autodetect : Device → Wire (Option Device × Device)
  | ata (.sat layer inner) => do
      let (layer, inner) ← layer.autodetect inner
      return (none, ata (.sat layer inner))
  | nvme device => do
      let (replacement, device) ← device.autodetect
      return (replacement.map ata, nvme device)
  | device => do
      let device ← device.openPlainly
      return (none, device)

/-- Opens a device and returns the one to use from then on. -/
def opened (device : Device) : Wire Device := do
  let (replacement, device) ← device.autodetect
  return replacement.getD device

def scsiView? : Device → Option ScsiDevice
  | endpoint e => some (.endpoint e)
  | ata device => device.scsiView?
  | nvme _ => none

def ataView? : Device → Option AtaDevice
  | ata device => device.ataView?
  | endpoint _ | nvme _ => none

def nvmeView? : Device → Option NvmeDevice
  | nvme device => some device
  | endpoint _ | ata _ => none

end Device

end DriveBridge.Chain
