import DriveBridge.Scsi.Command

/-! The far end of every chain: a SCSI device that the host reaches without a translator. It has
no behaviour of its own here. Whoever answers the queries of a dialogue decides whether it
opens, and what a command brings back. -/
namespace DriveBridge.Chain

/-- A failure of the transport, which an endpoint may or may not keep. -/
structure Fault where
  failure : Failure
  kept : Bool := true

namespace Wire

inductive Query where
  /-- A new endpoint is wanted. -/
  | attach
  | connect (unit : Nat)
  | disconnect (unit : Nat)
  | transmit (unit : Nat) (command : Scsi.Command)

/-- A new endpoint is known by its number. -/
@[reducible] def Answer : Query → Type
  | .attach => Nat
  | .connect _ => Except Fault Unit
  | .disconnect _ => Except Fault Unit
  | .transmit _ _ => Except Fault Scsi.Reply

end Wire

/-- A strategy for getting something done with endpoints. -/
abbrev Wire := Dialogue Wire.Query Wire.Answer

structure Endpoint where
  profile : Profile
  unit : Nat
  isOpen : Bool := false

namespace Endpoint

/-- A closed endpoint of the given name, which shows SCSI. -/
def new (name : String) (unit : Nat) : Endpoint where
  profile := { names := .plain name "scsi" "scsi", protocols := { scsi := true } }
  unit := unit

def attach (name : String) : Wire Endpoint := do
  let unit ← Dialogue.query Wire.Query.attach
  return new name unit

def suffer (endpoint : Endpoint) (fault : Fault) : Endpoint :=
  if fault.kept then { endpoint with profile := endpoint.profile.record fault.failure }
  else endpoint

def connect (endpoint : Endpoint) : Wire (Except Failure Unit × Endpoint) := do
  match ← Dialogue.query (Wire.Query.connect endpoint.unit) with
  | .ok () => return (.ok (), { endpoint with isOpen := true })
  | .error fault => return (.error fault.failure, endpoint.suffer fault)

def disconnect (endpoint : Endpoint) : Wire (Except Failure Unit × Endpoint) := do
  match ← Dialogue.query (Wire.Query.disconnect endpoint.unit) with
  | .ok () => return (.ok (), { endpoint with isOpen := false })
  | .error fault => return (.error fault.failure, endpoint.suffer fault)

/-- Sends a command. Where delivery fails, the caller finds the command untouched. -/
def execute (endpoint : Endpoint) (command : Scsi.Command) : Wire (Scsi.Answer × Endpoint) := do
  match ← Dialogue.query (Wire.Query.transmit endpoint.unit command) with
  | .ok reply => return (⟨.ok (), command.complete reply⟩, endpoint)
  | .error fault => return (⟨.error fault.failure, command.untouched⟩, endpoint.suffer fault)

end Endpoint

end DriveBridge.Chain
