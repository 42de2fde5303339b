import DriveBridge.Ata.Sat
import DriveBridge.Chain.Endpoint

/-! Devices that take SCSI commands: endpoints, and SAT devices over them, which forward SCSI
commands unchanged. -/
namespace DriveBridge.Chain

/-- Which protocol a SAT device shows. -/
inductive SatMode where
  /-- ATA, without asking. -/
  | always
  /-- SCSI, until a probe finds a SAT layer behind it. -/
  | auto
  /-- SCSI, whatever is behind it. -/
  | never
  deriving DecidableEq, Repr

namespace SatMode

def type : SatMode → String
  | always => "sat"
  | auto => "sat,auto"
  | never => "scsi"

def tag : SatMode → String
  | always => "SAT"
  | auto => "SCSI/SAT"
  | never => "SCSI"

def protocols : SatMode → Protocols
  | always => { ata := true }
  | auto | never => { scsi := true }

end SatMode

/-- A SAT translator, without the device below it. -/
structure SatLayer where
  profile : Profile
  mode : SatMode
  length : Ata.Sat.Length

/-- A name in the place where a device of a chain is found: the number of its endpoint and how
many translators lie between. No two devices in use share a place. -/
structure Place where
  unit : Nat
  height : Nat
  deriving DecidableEq, Repr

def Place.above (place : Place) : Place := { place with height := place.height + 1 }

inductive ScsiDevice where
  | endpoint (endpoint : Endpoint)
  | sat (layer : SatLayer) (inner : ScsiDevice)

namespace ScsiDevice

def profile : ScsiDevice → Profile
  | endpoint e => e.profile
  | sat layer _ => layer.profile

def mapProfile (f : Profile → Profile) : ScsiDevice → ScsiDevice
  | endpoint e => endpoint { e with profile := f e.profile }
  | sat layer inner => sat { layer with profile := f layer.profile } inner

def isOpen : ScsiDevice → Bool
  | endpoint e => e.isOpen
  | sat _ inner => inner.isOpen

def place : ScsiDevice → Place
  | endpoint e => ⟨e.unit, 0⟩
  | sat _ inner => inner.place.above

/-- Opens the endpoint at the far end. Every layer keeps its failure. -/
def connect : ScsiDevice → Wire (Except Failure Unit × ScsiDevice)
  | endpoint e => do
      let (result, e) ← e.connect
      return (result, endpoint e)
  | sat layer inner => do
      let (result, inner) ← inner.connect
      return (result, sat { layer with profile := layer.profile.settle result } inner)

/-- Closes the endpoint at the far end. Every layer keeps its failure. -/
def disconnect : ScsiDevice → Wire (Except Failure Unit × ScsiDevice)
  | endpoint e => do
      let (result, e) ← e.disconnect
      return (result, endpoint e)
  | sat layer inner => do
      let (result, inner) ← inner.disconnect
      return (result, sat { layer with profile := layer.profile.settle result } inner)

/-- Sends a command to the endpoint at the far end. Every layer keeps its failure. -/
def execute : ScsiDevice → Scsi.Command → Wire (Scsi.Answer × ScsiDevice)
  | endpoint e, command => do
      let (answer, e) ← e.execute command
      return (answer, endpoint e)
  | sat layer inner, command => do
      let (answer, inner) ← inner.execute command
      return (answer, sat { layer with profile := layer.profile.settle answer.result } inner)

/-- Sends a command under the time limit of the device, and fails where sense data reports an
error. -/
def executeChecked (device : ScsiDevice) (label : String) (command : Scsi.Command) :
    Wire (Scsi.Answer × ScsiDevice) := do
  let (answer, device) ← device.execute { command with timeout := device.profile.timeout }
  match answer.result with
  | .error failure =>
      let code := failure.cause.code
      let message := failure.message
      Dialogue.log .debug s!"{label}scsi_pass_through() failed, errno={code} [{message}]"
      return (answer, device)
  | .ok () =>
      let verdict ← Dialogue.demand answer.completion.readVerdict
      if verdict.isError then
        let text := verdict.text
        Dialogue.log .debug s!"{label}scsi error: {text}"
        let failure : Failure := ⟨.transfer, s!"{label}scsi error {text}"⟩
        return ({ answer with result := .error failure }, device.mapProfile (·.record failure))
      else return (answer, device)

/-- Answers a query of the translator above. -/
def answer (query : Scsi.Query) (device : ScsiDevice) : Wire (Scsi.Answer × ScsiDevice) :=
  match query.label with
  | none => device.execute query.command
  | some label => device.executeChecked label query.command

/-- Lets a strategy run on the device. -/
def serve {α : Type} (device : ScsiDevice) (session : Scsi.Session α) : Wire (α × ScsiDevice) :=
  session.through answer device

end ScsiDevice

namespace SatLayer

/-- The layer that goes on top of a device. It takes over the path and the time limit, and the
type where it is not the plain one. -/
def atop (inner : Profile) (requested : String) (mode : SatMode) (length : Ata.Sat.Length) :
    SatLayer where
  profile :=
    { names :=
        { path := inner.names.path
          label := inner.names.label ++ " [" ++ mode.tag ++ "]"
          type := if inner.names.type = "scsi" then mode.type
            else mode.type ++ "+" ++ inner.names.type
          requested }
      protocols := mode.protocols
      timeout := inner.timeout }
  mode := mode
  length := length

/-- The vendor by which SAT layers identify themselves, `ATA` and five blanks. -/
def ataVendor : Bytes := [0x41, 0x54, 0x41, 0x20, 0x20, 0x20, 0x20, 0x20]

/-- The INQUIRY data names a SAT layer. It must declare all of its 36 bytes. -/
def isSat (inquiry : Bytes) : Bool :=
  36 ≤ (inquiry.byte 4).toNat + 5 && (inquiry.drop 8).take 8 == ataVendor

/-- The layer after a probe. It shows the protocol that the probe found, and takes its type and
label anew from the device below. -/
def decided (layer : SatLayer) (inner : Profile) (sat : Bool) : SatLayer :=
  { layer with
    profile := { layer.profile with
      protocols := { layer.profile.protocols with ata := sat, scsi := !sat }
      names := { layer.profile.names with
        type := if sat then "sat" else inner.names.type
        label := inner.names.label ++ if sat then " [SAT]" else " [SCSI]" } } }

/-- Asks the device below who it is. The caller has opened it; it is closed again where it does
not answer. -/
def probe (layer : SatLayer) (inner : ScsiDevice) : Wire (SatLayer × ScsiDevice) := do
  let ((result, inquiry), inner) ← inner.serve (Scsi.inquiry (Bytes.zeros 36))
  match result with
  | .error failure =>
      let (_, inner) ← inner.disconnect
      let failure : Failure := ⟨failure.cause, "INQUIRY [SAT]: " ++ failure.message⟩
      return ({ layer with profile := layer.profile.record failure }, inner)
  | .ok () =>
      let sat := isSat inquiry
      let path := layer.profile.names.path
      let finding := if sat then "SAT layer detected" else "no SAT layer, using SCSI"
      Dialogue.log .info s!"{path}: {finding}"
      return (layer.decided inner.profile sat, inner)

/-- Opens the device, and probes what is behind it where the mode asks for that. -/
def autodetect (layer : SatLayer) (inner : ScsiDevice) : Wire (SatLayer × ScsiDevice) := do
  let (result, inner) ← inner.connect
  let layer := { layer with profile := layer.profile.settle result }
  match result with
  | .error _ => return (layer, inner)
  | .ok () => if layer.mode = .auto then layer.probe inner else return (layer, inner)

end SatLayer

end DriveBridge.Chain
