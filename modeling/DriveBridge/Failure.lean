/-! What a failing operation reports: a cause, which a caller may act on, and a message, which
names the part of the chain that gave up. -/
namespace DriveBridge

/-- The classes of failure. -/
inductive Cause where
  /-- The transport failed, or a reply did not validate. -/
  | transfer
  /-- Nothing is there. -/
  | absent
  /-- The request contradicts itself. -/
  | malformed
  /-- The request needs something the translator lacks. -/
  | unsupported
  deriving DecidableEq, Repr

namespace Cause

/-- The number that logs show for a cause. -/
def code : Cause → Nat
  | transfer => 5
  | absent => 19
  | malformed => 22
  | unsupported => 38

/-- The message of a failure that has nothing of its own to say. -/
def description : Cause → String
  | transfer => "Input/output error"
  | absent => "No such device"
  | malformed => "Invalid argument"
  | unsupported => "Function not implemented"

end Cause

structure Failure where
  cause : Cause
  message : String
  deriving DecidableEq, Repr

namespace Failure

/-- The failure that carries only its cause. -/
def ofCause (cause : Cause) : Failure := ⟨cause, cause.description⟩

def isUnsupported (failure : Failure) : Bool := failure.cause == .unsupported

end Failure

end DriveBridge
