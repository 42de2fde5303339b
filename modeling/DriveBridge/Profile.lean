import DriveBridge.Failure

/-! What every device carries besides the way it works: its names, the protocols it shows, its
time limit and its last failure. -/
namespace DriveBridge

inductive Protocol where
  | ata | scsi | nvme
  deriving DecidableEq, Repr

/-- The protocols that a device shows at present. -/
structure Protocols where
  ata : Bool := false
  scsi : Bool := false
  nvme : Bool := false
  deriving DecidableEq, Repr

namespace Protocols

def contains (shown : Protocols) : Protocol → Bool
  | .ata => shown.ata
  | .scsi => shown.scsi
  | .nvme => shown.nvme

/-- Shows or hides every protocol of a selection and leaves the others as they are. -/
def set (shown selection : Protocols) (visible : Bool) : Protocols where
  ata := if selection.ata then visible else shown.ata
  scsi := if selection.scsi then visible else shown.scsi
  nvme := if selection.nvme then visible else shown.nvme

theorem contains_set (shown selection : Protocols) (visible : Bool) (protocol : Protocol) :
    (shown.set selection visible).contains protocol =
      if selection.contains protocol then visible else shown.contains protocol := by
  cases protocol <;> rfl

end Protocols

/-- The names of a device: the path it was asked for by, the label that messages use, its
actual type and the type that was asked for. -/
structure Names where
  path : String
  label : String
  type : String
  requested : String
  deriving DecidableEq, Repr

namespace Names

/-- Names whose label is the path. -/
def plain (path type requested : String) : Names := ⟨path, path, type, requested⟩

end Names

/-- Seconds that a command may take unless a device says otherwise. -/
def defaultTimeout : UInt32 := 60

structure Profile where
  names : Names
  protocols : Protocols
  timeout : UInt32 := defaultTimeout
  failure : Option Failure := none
  deriving DecidableEq, Repr

namespace Profile

def label (profile : Profile) : String := profile.names.label

def shows (profile : Profile) (protocol : Protocol) : Bool :=
  profile.protocols.contains protocol

/-- Keeps a failure. It stays until another one replaces it or it is forgotten. -/
def record (failure : Failure) (profile : Profile) : Profile :=
  { profile with failure := some failure }

/-- Keeps the failure of a result. A success leaves what was kept before. -/
def settle {α : Type} (result : Except Failure α) (profile : Profile) : Profile :=
  match result with
  | .ok _ => profile
  | .error failure => profile.record failure

def forget (profile : Profile) : Profile := { profile with failure := none }

def setTimeout (seconds : UInt32) (profile : Profile) : Profile :=
  { profile with timeout := seconds }

def setProtocols (selection : Protocols) (visible : Bool) (profile : Profile) : Profile :=
  { profile with protocols := profile.protocols.set selection visible }

def rename (label : String) (profile : Profile) : Profile :=
  { profile with names := { profile.names with label } }

@[simp] theorem failure_record (failure : Failure) (profile : Profile) :
    (profile.record failure).failure = some failure := rfl

@[simp] theorem settle_ok {α : Type} (value : α) (profile : Profile) :
    profile.settle (.ok value) = profile := rfl

@[simp] theorem settle_error {α : Type} (failure : Failure) (profile : Profile) :
    profile.settle (.error failure : Except Failure α) = profile.record failure := rfl

/-- Of two failures only the later one is kept. -/
theorem record_settle {α : Type} (result : Except Failure α) (failure : Failure)
    (profile : Profile) : (profile.settle result).record failure = profile.record failure := by
  cases result <;> rfl

@[simp] theorem forget_record (failure : Failure) (profile : Profile) :
    (profile.record failure).forget = profile.forget := rfl

@[simp] theorem forget_settle {α : Type} (result : Except Failure α) (profile : Profile) :
    (profile.settle result).forget = profile.forget := by
  cases result <;> rfl

@[simp] theorem timeout_settle {α : Type} (result : Except Failure α) (profile : Profile) :
    (profile.settle result).timeout = profile.timeout := by
  cases result <;> rfl

end Profile

end DriveBridge
