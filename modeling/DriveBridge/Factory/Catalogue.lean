import DriveBridge.Chain.Blueprint
import DriveBridge.Factory.Workshop

/-! A host whose devices are listed by type. -/
namespace DriveBridge.Factory

open Chain

abbrev Listing := List (String × Blueprint)

/-- What a host lists. SCSI and ATA devices are one plain device each unless others are listed;
there is nothing else unless it is listed. -/
structure Catalogue where
  scsi : Listing := [("scsi", .plain)]
  ata : Listing := [("ata", .sat "sat" .always .long .plain {})]
  nvme : Listing := []
  custom : Listing := []
  detect : Option Blueprint := none
  customTypes : String := ""

namespace Catalogue

def unlisted (type : String) : Failure := typeFailure "Unknown device type" type.toList

/-- Builds the device that is listed for a type. -/
def listed {α : Type} (listing : Listing)
    (build : String → Blueprint → Wire (Except Failure α)) (name type : String) :
    Wire (Except Failure α) :=
  match listing.lookup type with
  | some blueprint => build name blueprint
  | none => return .error (unlisted type)

/-- The device that is listed for a type, if there is one. -/
def listed? (listing : Listing) (name type : String) : Wire (Option (Except Failure Device)) :=
  match listing.lookup type with
  | some blueprint => do
      let result ← blueprint.build name
      return some result
  | none => return none

/-- The host that offers what a catalogue lists. It knows no NVMe device but the listed ones, and
cannot tell a device from its name alone unless the catalogue says what to take. -/
def host (catalogue : Catalogue) : Host :=
  let bare : Host :=
    { scsi := listed catalogue.scsi Blueprint.buildScsi
      ata := listed catalogue.ata Blueprint.buildAta
      custom := listed? catalogue.custom
      customTypes := catalogue.customTypes }
  let nvme (name type : String) : Wire (Except Failure Device) := do
    match ← listed? catalogue.nvme name type with
    | some result => return result
    | none => bare.nvme name type
  let detect := match catalogue.detect with
    | some blueprint => fun name => blueprint.build name
    | none => bare.detect
  { bare with nvme, detect }

end Catalogue

end DriveBridge.Factory
