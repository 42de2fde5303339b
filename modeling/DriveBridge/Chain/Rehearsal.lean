import DriveBridge.Chain.Endpoint

/-! A party that answers for every endpoint from a script, so that chains can be exercised
without hardware. Commands are answered in turn by the queued replies, whichever endpoint they
reach, and by a plain good completion when the queue is empty. -/
namespace DriveBridge.Chain

/-- What has been done to an endpoint. Refused attempts do not count. -/
structure Usage where
  opens : Nat := 0
  closes : Nat := 0
  deriving DecidableEq, Repr

structure Rehearsal where
  replies : List (Except Fault Scsi.Reply) := []
  /-- The fault that the next attempt to open an endpoint runs into. -/
  nextOpen : Option Fault := none
  /-- The fault that the next attempt to close an endpoint runs into. -/
  nextClose : Option Fault := none
  /-- One entry for each endpoint, in the order in which they were attached. -/
  usage : List Usage := []

namespace Rehearsal

/-- Sense bytes as a transport returns them, as far as its buffer reaches. -/
def senseArea (sense : Bytes) : Scsi.SenseArea :=
  .ofBytes sense (min sense.length Scsi.senseLength)

def noteOpen (rehearsal : Rehearsal) (unit : Nat) : Rehearsal :=
  { rehearsal with
    usage := rehearsal.usage.modify unit fun usage => { usage with opens := usage.opens + 1 } }

def noteClose (rehearsal : Rehearsal) (unit : Nat) : Rehearsal :=
  { rehearsal with
    usage := rehearsal.usage.modify unit fun usage => { usage with closes := usage.closes + 1 } }

/-- Answers one query. -/
def party : (query : Wire.Query) → Rehearsal → Wire.Answer query × Rehearsal
  | .attach, rehearsal =>
      (rehearsal.usage.length, { rehearsal with usage := rehearsal.usage ++ [{}] })
  | .connect unit, rehearsal =>
      match rehearsal.nextOpen with
      | some fault => (.error fault, { rehearsal with nextOpen := none })
      | none => (.ok (), rehearsal.noteOpen unit)
  | .disconnect unit, rehearsal =>
      match rehearsal.nextClose with
      | some fault => (.error fault, { rehearsal with nextClose := none })
      | none => (.ok (), rehearsal.noteClose unit)
  | .transmit _ _, rehearsal =>
      match rehearsal.replies with
      | [] => (.ok {}, rehearsal)
      | reply :: rest => (reply, { rehearsal with replies := rest })

/-- Plays a strategy. -/
def play {α : Type} (rehearsal : Rehearsal) (wire : Wire α) :
    Dialogue.Run Wire.Query Wire.Answer Rehearsal α :=
  wire.run party rehearsal

end Rehearsal

end DriveBridge.Chain
