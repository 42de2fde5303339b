import DriveBridge.Chain.Device

/-! Descriptions from which chains are built, from the endpoint up. -/
namespace DriveBridge.Chain

/-- What is changed on a device right after it was built. -/
structure Adjustment where
  protocols : Option Protocols := none
  type : Option String := none
  timeout : Option UInt32 := none

def Adjustment.apply (adjustment : Adjustment) (profile : Profile) : Profile where
  names := { profile.names with type := adjustment.type.getD profile.names.type }
  protocols := adjustment.protocols.getD profile.protocols
  timeout := adjustment.timeout.getD profile.timeout
  failure := profile.failure

inductive Blueprint where
  /-- Nothing can be built. -/
  | refused (failure : Failure)
  /-- An endpoint, named for the occasion unless it has a name. -/
  | endpoint (name : Option String) (isOpen : Bool) (adjustment : Adjustment)
  | sat (requested : String) (mode : SatMode) (length : Ata.Sat.Length) (inner : Blueprint)
      (adjustment : Adjustment)
  | bridge (requested : String) (encoding : Encoding) (inner : Blueprint)
      (adjustment : Adjustment)
  | routed (drive : UInt32) (inner : Blueprint) (adjustment : Adjustment)
  | nvme (requested : String) (vendor : NvmeVendor) (nsid : UInt32)
      (fallback : Option Ata.Sat.Length) (inner : Blueprint) (adjustment : Adjustment)
namespace Blueprint

/-- A plain endpoint. -/
def plain : Blueprint := endpoint none false {}

instance : Inhabited Blueprint := ⟨plain⟩

/-- A device of this kind cannot stand where the description puts it. -/
def misplaced : Failure := ⟨.malformed, "Device of another kind expected"⟩

/-- Builds a device that takes SCSI commands. -/
def buildScsi (name : String) : Blueprint → Wire (Except Failure ScsiDevice)
  | refused failure => return .error failure
  | endpoint own isOpen adjustment => do
      let made ← Endpoint.attach (own.getD name)
      let device : ScsiDevice := .endpoint { made with isOpen }
      return .ok (device.mapProfile adjustment.apply)
  | sat requested mode length inner adjustment => do
      let result ← inner.buildScsi name
      return result.map fun inner =>
        (ScsiDevice.sat (.atop inner.profile requested mode length) inner).mapProfile
          adjustment.apply
  | bridge .. | routed .. | nvme .. => return .error misplaced

/-- Builds a device that takes ATA commands. -/
def buildAta (name : String) : Blueprint → Wire (Except Failure AtaDevice)
  | refused failure => return .error failure
  | sat requested mode length inner adjustment => do
      let result ← inner.buildScsi name
      return result.map fun inner =>
        (AtaDevice.sat (.atop inner.profile requested mode length) inner).mapProfile
          adjustment.apply
  | bridge requested encoding inner adjustment => do
      let result ← inner.buildScsi name
      return result.map fun inner =>
        (AtaDevice.bridge (.atop inner.profile requested encoding) inner).mapProfile
          adjustment.apply
  | routed drive inner adjustment => do
      let result ← inner.buildAta name
      return result.map fun inner =>
        (AtaDevice.routed (.atop inner.profile drive) inner).mapProfile adjustment.apply
  | endpoint .. | nvme .. => return .error misplaced

/-- Builds a device of any kind. -/
def build (name : String) (blueprint : Blueprint) : Wire (Except Failure Device) :=
  match blueprint with
  | nvme requested vendor nsid fallback inner adjustment => do
      let result ← inner.buildScsi name
      return result.map fun inner =>
        (Device.nvme (.atop inner requested vendor nsid fallback)).mapProfile adjustment.apply
  | endpoint .. => do
      let result ← blueprint.buildScsi name
      return result.map ScsiDevice.toDevice
  | refused .. | sat .. | bridge .. | routed .. => do
      let result ← blueprint.buildAta name
      return result.map .ata

end Blueprint

end DriveBridge.Chain
