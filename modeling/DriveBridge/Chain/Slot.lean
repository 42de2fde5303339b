import DriveBridge.Chain.AtaDevice
import DriveBridge.Text.Quoted

/-! The place in which a device owns the device below it. The owned device can be moved out,
after which the owner no longer reaches it and nothing that happens to the owner affects it. -/
namespace DriveBridge.Chain

/-- What every kind of device that can be owned has in common. -/
class Ownable (δ : Type) where
  profile : δ → Profile
  place : δ → Place
  isOpen : δ → Bool
  connect : δ → Wire (Except Failure Unit × δ)
  disconnect : δ → Wire (Except Failure Unit × δ)

instance : Ownable ScsiDevice :=
  ⟨ScsiDevice.profile, ScsiDevice.place, ScsiDevice.isOpen, ScsiDevice.connect,
    ScsiDevice.disconnect⟩

instance : Ownable AtaDevice :=
  ⟨AtaDevice.profile, AtaDevice.place, AtaDevice.isOpen, AtaDevice.connect,
    AtaDevice.disconnect⟩

inductive Slot (δ : Type) where
  | holding (device : δ)
  | released

namespace Slot

variable {δ : Type} [Ownable δ]

/-- What a released slot says to everything that needs the device. -/
def gone : Failure := .ofCause .unsupported

def held? : Slot δ → Option δ
  | holding device => some device
  | released => none

def isReleased : Slot δ → Bool
  | holding _ => false
  | released => true

def isOpen : Slot δ → Bool
  | holding device => Ownable.isOpen device
  | released => false

/-- The label of the device that is held. -/
def label : Slot δ → Except Failure String
  | holding device => .ok (Ownable.profile device).label
  | released => .error gone

/-- Moves the device out without closing it. -/
def release (slot : Slot δ) : Option δ × Slot δ := (slot.held?, released)

def connect : Slot δ → Wire (Except Failure Unit × Slot δ)
  | holding device => do
      let (result, device) ← Ownable.connect device
      return (result, holding device)
  | released => return (.error gone, released)

/-- Closes the device. There is nothing left to close in a released slot. -/
def disconnect : Slot δ → Wire (Except Failure Unit × Slot δ)
  | holding device => do
      let (result, device) ← Ownable.disconnect device
      return (result, holding device)
  | released => return (.ok (), released)

/-- The slot holds the device that is found at a place. -/
def owns (slot : Slot δ) (place : Place) : Bool :=
  match slot with
  | holding device => Ownable.place device == place
  | released => false

/-- The text by which a slot shows what it holds. -/
def describe (slot : Slot δ) : String :=
  let label := match slot with
    | holding device => (Ownable.profile device).label
    | released => "released"
  "Tunnel \x7b dev: " ++ Text.quoted label ++ " \x7d"

/-- Answers a query from the device that is held. -/
def scsiAnswer (query : Scsi.Query) : Slot ScsiDevice → Wire (Scsi.Answer × Slot ScsiDevice)
  | holding device => do
      let (answer, device) ← device.answer query
      return (answer, holding device)
  | released => return (⟨.error gone, query.command.untouched⟩, released)

/-- Has the device that is held execute a request. -/
def perform (query : Ata.Query) : Slot AtaDevice → Wire (Ata.Answer × Slot AtaDevice)
  | holding device => do
      let (answer, device) ← device.perform query
      return (answer, holding device)
  | released => return (query.request.refused query.registers gone, released)

end Slot

end DriveBridge.Chain
