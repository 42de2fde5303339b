import DriveBridge.Factory.TypeName

/-! Making chains of devices from types. The host provides the devices at the far end; the
translators on top of them are made here. -/
namespace DriveBridge.Factory

open Chain

structure Settings where
  /-- Seconds that a command may take. -/
  timeout : UInt32 := defaultTimeout
  /-- The command of SAT devices that do not ask for another one. -/
  satLength : Ata.Sat.Length := .long
  /-- The type of the device below a translator that names none. -/
  baseType : String := "scsi"

/-- What the host has to offer. Each maker takes a device name and a type, and returns a closed
device. A host has SCSI and ATA devices; the rest it need not have. -/
structure Host where
  scsi : String → String → Wire (Except Failure ScsiDevice)
  ata : String → String → Wire (Except Failure AtaDevice)
  nvme : String → String → Wire (Except Failure Device) := fun _ _ =>
    return .error ⟨.unsupported, "NVMe devices are not supported on this platform"⟩
  /-- Devices of types that only this host knows. -/
  custom : String → String → Wire (Option (Except Failure Device)) := fun _ _ => return none
  /-- The device for a name without a type. -/
  detect : String → Wire (Except Failure Device) := fun _ =>
    return .error ⟨.malformed, "Unable to detect device type"⟩
  /-- The types that only this host knows, as text. -/
  customTypes : String := ""

structure Workshop where
  settings : Settings := {}
  host : Host
  /-- The failure of the last call that failed, since it was last forgotten. -/
  failure : Option Failure := none

namespace Workshop

def forget (workshop : Workshop) : Workshop := { workshop with failure := none }

/-- Keeps the failure of a result. -/
def settle {α : Type} (workshop : Workshop) (result : Except Failure α) : Workshop :=
  match result with
  | .ok _ => workshop
  | .error failure => { workshop with failure := some failure }

/-- The types that can be asked for. -/
def types (workshop : Workshop) : String :=
  "ata, scsi, nvme[,NSID], sat[,auto][,N][+TYPE], usbcypress[,X], " ++
    "usbjmicron[,p][,x][,N], usbprolific, usbsunplus, sntasmedia, sntjmicron[,NSID], " ++
    "sntrealtek, intelliprop,N[+TYPE]" ++
    if workshop.host.customTypes.isEmpty then "" else ", " ++ workshop.host.customTypes

/-- A translator that could not be made. The reason is logged. -/
def refuse {α : Type} (failure : Failure) : Wire (Except Failure α) := do
  Dialogue.log .debug failure.message
  return .error failure

/-- A failure of the device below, told with the translator that wanted it. -/
def baseFailure (outer : List Char) (reason : String) : Failure :=
  ⟨.malformed, "Type '" ++ String.ofList outer ++ "+...': " ++ reason⟩

def scsiBase (workshop : Workshop) (name type : String) : Wire (Except Failure ScsiDevice) := do
  let result ← workshop.host.scsi name type
  return result.map (·.mapProfile (·.setTimeout workshop.settings.timeout))

def ataBase (workshop : Workshop) (name type : String) : Wire (Except Failure AtaDevice) := do
  let result ← workshop.host.ata name type
  return result.map (·.mapProfile (·.setTimeout workshop.settings.timeout))

/-- The SCSI device below a translator. -/
def below (workshop : Workshop) (name : String) (outer base : List Char) :
    Wire (Except Failure ScsiDevice) := do
  let type := if base.isEmpty then workshop.settings.baseType else String.ofList base
  match ← workshop.scsiBase name type with
  | .error failure => return .error (baseFailure outer failure.message)
  | .ok device =>
      if device.profile.shows .scsi then return .ok device
      else return .error (baseFailure outer ("Device type '" ++ type ++ "' is not SCSI"))

/-- Puts the translator that a type names on top of a SCSI device. -/
def overScsi (workshop : Workshop) (type : List Char) (inner : ScsiDevice) :
    Wire (Except Failure AtaDevice) :=
  let requested := String.ofList type
  match ataTranslator workshop.settings.satLength type with
  | .error failure => refuse failure
  | .ok (.sat mode length) =>
      return .ok (.sat (.atop inner.profile requested mode length) inner)
  | .ok (.bridge encoding) =>
      return .ok (.bridge (.atop inner.profile requested encoding) inner)

/-- Puts the NVMe translator that a type names on top of a SCSI device. -/
def overScsiNvme (workshop : Workshop) (type : List Char) (inner : ScsiDevice) :
    Wire (Except Failure NvmeDevice) :=
  match nvmeTranslator workshop.settings.satLength type with
  | .error failure => refuse failure
  | .ok translator =>
      return .ok (.atop inner (String.ofList type) translator.vendor translator.nsid
        translator.fallback)

/-- Puts a routed drive on top of an ATA device. -/
def overAta (type : List Char) (inner : AtaDevice) : Wire (Except Failure AtaDevice) :=
  match routedDrive type with
  | .error failure => refuse failure
  | .ok drive => return .ok (.routed (.atop inner.profile drive) inner)

/-- A translator from ATA to SCSI with the device below it. -/
def ataChain (workshop : Workshop) (name : String) (type : List Char) :
    Wire (Except Failure AtaDevice) := do
  let (outer, base) := splitBase type
  match ← workshop.below name outer base with
  | .error failure => return .error failure
  | .ok inner => workshop.overScsi outer inner

/-- The type names a translator from ATA to SCSI. -/
def isAtaChain (type : List Char) : Bool := isSatType type || startsWith "usb".toList type

/-- The ATA device below a multiplexer. -/
def ataBelow (workshop : Workshop) (name : String) (type : List Char) :
    Wire (Except Failure AtaDevice) :=
  if isAtaChain type then workshop.ataChain name type
  else workshop.ataBase name (String.ofList type)

/-- A routed drive with the device below it. -/
def routedChain (workshop : Workshop) (name : String) (type : List Char) :
    Wire (Except Failure AtaDevice) := do
  let (outer, rest) := splitBase type
  let base := if rest.isEmpty then "ata".toList else rest
  match ← workshop.ataBelow name base with
  | .error failure => return .error (baseFailure outer failure.message)
  | .ok inner =>
      if inner.profile.shows .ata then overAta outer inner
      else
        let reason := "Device type '" ++ String.ofList base ++ "' is not ATA"
        return .error (baseFailure outer reason)

/-- An NVMe translator with the device below it. -/
def nvmeChain (workshop : Workshop) (name : String) (type : List Char) :
    Wire (Except Failure NvmeDevice) := do
  let (outer, base) := splitBase type
  match ← workshop.below name outer base with
  | .error failure => return .error failure
  | .ok inner => workshop.overScsiNvme outer inner

/-- The device for a name and a type that the host does not claim for itself. -/
def chain (workshop : Workshop) (name : String) (type : String) :
    Wire (Except Failure Device) := do
  let chars := type.toList
  if type = "ata" then
    return (← workshop.ataBase name type).map .ata
  else if type = "scsi" then
    return (← workshop.scsiBase name type).map ScsiDevice.toDevice
  else if type = "nvme" ∨ startsWith "nvme,".toList chars then
    let result ← workshop.host.nvme name type
    return result.map (·.mapProfile (·.setTimeout workshop.settings.timeout))
  else if isAtaChain chars then
    return (← workshop.ataChain name chars).map .ata
  else if startsWith "snt".toList chars then
    return (← workshop.nvmeChain name chars).map .nvme
  else if startsWith "intelliprop".toList chars then
    return (← workshop.routedChain name chars).map .ata
  else return .error (typeFailure "Unknown device type" chars)

/-- The device for a name and a type. The host decides where the type is empty, and is asked
first whether the type is one of its own. -/
def device (workshop : Workshop) (name type : String) : Wire (Except Failure Device) := do
  if type.isEmpty then workshop.host.detect name
  else match ← workshop.host.custom name type with
    | some result => return result
    | none => workshop.chain name type

/-- Makes the closed device for a name and a type. An older failure is forgotten first. -/
def make (workshop : Workshop) (name type : String) :
    Wire (Except Failure Device × Workshop) := do
  let result ← workshop.forget.device name type
  return (result, workshop.forget.settle result)

/-- Puts the translator from ATA to SCSI that a type names on top of a device. -/
def wrapAta (workshop : Workshop) (type : String) (inner : ScsiDevice) :
    Wire (Except Failure AtaDevice × Workshop) := do
  let result ← workshop.overScsi type.toList inner
  return (result, workshop.settle result)

/-- Puts the NVMe translator that a type names on top of a device. -/
def wrapNvme (workshop : Workshop) (type : String) (inner : ScsiDevice) :
    Wire (Except Failure NvmeDevice × Workshop) := do
  let result ← workshop.overScsiNvme type.toList inner
  return (result, workshop.settle result)

/-- Puts the routed drive that a type names on top of a device. -/
def wrapRouted (workshop : Workshop) (type : String) (inner : AtaDevice) :
    Wire (Except Failure AtaDevice × Workshop) := do
  let result ← overAta type.toList inner
  return (result, workshop.settle result)

end Workshop

end DriveBridge.Factory
