import DriveBridge.Proofs.Factory.Building
import DriveBridge.Proofs.Factory.Language

/-! Translators that are put on top of a device which is there already. The whole type goes to the
reader then, with a plus sign where it has one: nothing has been split off before it. The readers
let the sign stand in front of a number, and that is all they take besides what is documented. -/
namespace DriveBridge.Factory

open Text Chain

section Causes

variable {default : Ata.Sat.Length} {type options : List Char} {failure : Failure}

/-- A type that is not read is a malformed argument, whichever part of it is to blame. -/
theorem satOptions_cause (hFailed : satOptions default options = .error failure) :
    failure.cause = .malformed := by
  unfold satOptions at hFailed
  dsimp only at hFailed
  split at hFailed
  · cases hFailed
  · cases hFailed
    rfl

theorem cypressOptions_cause (hFailed : cypressOptions options = .error failure) :
    failure.cause = .malformed := by
  unfold cypressOptions at hFailed
  dsimp only at hFailed
  split at hFailed
  · split at hFailed
    · cases hFailed
    · cases hFailed
      rfl
  · cases hFailed
    rfl

theorem jmicronOptions_cause (hFailed : jmicronOptions options = .error failure) :
    failure.cause = .malformed := by
  unfold jmicronOptions at hFailed
  dsimp only at hFailed
  split at hFailed
  · cases hFailed
  · split at hFailed
    · cases hFailed
    · cases hFailed
      rfl

theorem ataTranslator_cause (hFailed : ataTranslator default type = .error failure) :
    failure.cause = .malformed := by
  unfold ataTranslator at hFailed
  split at hFailed
  · exact satOptions_cause hFailed
  split at hFailed
  · cases hFailed
  split at hFailed
  · exact cypressOptions_cause hFailed
  split at hFailed
  · exact jmicronOptions_cause hFailed
  split at hFailed
  · cases hFailed
  split at hFailed
  · cases hFailed
  · cases hFailed
    rfl

theorem namedNvme_cause {name : List Char} {fallback : Option Ata.Sat.Length}
    (hFailed : namedNvme type name fallback = .error failure) : failure.cause = .malformed := by
  unfold namedNvme at hFailed
  split at hFailed
  · cases hFailed
  split at hFailed
  · cases hFailed
  split at hFailed
  · cases hFailed
  · split at hFailed
    · cases hFailed
    · cases hFailed
      rfl
  · cases hFailed
    rfl

theorem nvmeTranslator_cause (hFailed : nvmeTranslator default type = .error failure) :
    failure.cause = .malformed := by
  unfold nvmeTranslator at hFailed
  split at hFailed
  · exact namedNvme_cause hFailed
  · exact namedNvme_cause hFailed

theorem routedDrive_cause (hFailed : routedDrive type = .error failure) :
    failure.cause = .malformed := by
  unfold routedDrive at hFailed
  split at hFailed
  · split at hFailed
    · cases hFailed
    · cases hFailed
      rfl
  · cases hFailed
    rfl

end Causes

/-- A device is made exactly for the types of a language, and no other failure than a malformed type
keeps it from being made. -/
def MadeFor {α : Type} (InLanguage : Prop) (result : Except Failure α) : Prop :=
  ((∃ device, result = .ok device) ↔ InLanguage) ∧
    ∀ failure, result = .error failure → failure.cause = .malformed

theorem ensures_refused {α Translator : Type} {InLanguage : Prop} {failure : Failure}
    {read : Except Failure Translator} (hRead : read = .error failure)
    (hTaken : InLanguage → ∃ translator, read = .ok translator)
    (hCause : failure.cause = .malformed) :
    (Workshop.refuse failure : Wire (Except Failure α)).Ensures fun _ result =>
      MadeFor InLanguage result := by
  have hUntaken : ¬ InLanguage := fun hType => by
    obtain ⟨translator, hOk⟩ := hTaken hType
    cases hRead.symm.trans hOk
  have hMade : MadeFor InLanguage (.error failure : Except Failure α) := by
    refine ⟨iff_of_false (fun hDevice => ?_) hUntaken, ?_⟩
    · cases hDevice.choose_spec
    · rintro _ ⟨⟩
      exact hCause
  exact hMade

theorem madeFor_ok {α : Type} {InLanguage : Prop} (device : α) (hType : InLanguage) :
    MadeFor InLanguage (.ok device : Except Failure α) :=
  ⟨iff_of_true ⟨device, rfl⟩ hType, nofun⟩

/-- What comes of putting a translator on top of a device, for a language of types that depends on
which texts are numerals. -/
structure Wraps {α : Type} (InLanguage : Numerals → Prop) (type : List Char) (hold : Hold)
    (toDevice : α → Device) (workshop : Workshop) (below : List Chain.Exchange)
    (outcome : Except Failure α × Workshop) : Prop where
  unasked : below = []
  made : (∃ device, outcome.1 = .ok device) ↔ InLanguage Reads
  /-- The language is the one without signs for every type but those with a sign at a number. -/
  documented : ((∃ device, outcome.1 = .ok device) ↔ InLanguage Spells) ↔
    '+' ∉ type ∨ ¬ InLanguage Reads
  owned : ∀ device, outcome.1 = .ok device →
    (toDevice device).hold = hold ∧ outcome.2 = workshop
  dropped : ∀ failure, outcome.1 = .error failure →
    failure.cause = .malformed ∧ outcome.2 = { workshop with failure := some failure }

section Rules

variable {α : Type} {InLanguage : Numerals → Prop} {type : List Char} {hold : Hold}
  {toDevice : α → Device} {workshop : Workshop} {below : List Chain.Exchange}
  {result : Except Failure α}

theorem wraps_of_taken
    (hTaken : below = [] ∧ (held toDevice result = some hold ∨ held toDevice result = none))
    (hMade : MadeFor (InLanguage Reads) result)
    (hSign : InLanguage Spells → '+' ∉ type)
    (hSame : '+' ∉ type → (InLanguage Reads ↔ InLanguage Spells)) :
    Wraps InLanguage type hold toDevice workshop below (result, workshop.settle result) where
  unasked := hTaken.1
  made := hMade.1
  documented := by
    rw [hMade.1]
    constructor
    · intro hDocumented
      by_cases hReads : InLanguage Reads
      · exact .inl (hSign (hDocumented.mp hReads))
      · exact .inr hReads
    · rintro (hUnsigned | hUnread)
      · exact hSame hUnsigned
      · refine iff_of_false hUnread fun hSpells => ?_
        exact hUnread ((hSame (hSign hSpells)).mpr hSpells)
  owned := by
    rintro device rfl
    exact ⟨Option.some_inj.mp (hTaken.2.resolve_right nofun), rfl⟩
  dropped := by
    rintro failure rfl
    exact ⟨hMade.2 failure rfl, rfl⟩

end Rules

namespace Workshop

variable (workshop : Workshop) (type : List Char)

theorem ensures_overScsi_made (inner : ScsiDevice) :
    (workshop.overScsi type inner).Ensures fun _ result =>
      MadeFor (∃ protocol, AtaType Reads protocol type) result := by
  unfold overScsi
  cases hRead : ataTranslator workshop.settings.satLength type with
  | error failure =>
      refine ensures_refused hRead (fun hType => ?_) (ataTranslator_cause hRead)
      obtain ⟨protocol, hType⟩ := hType
      exact hType.exists_translator.imp fun _ => And.left
  | ok translator =>
      have hType := ataTranslator_type hRead
      cases translator with
      | sat mode length => exact madeFor_ok _ ⟨_, hType⟩
      | bridge encoding => exact madeFor_ok _ ⟨_, hType⟩

theorem ensures_overScsiNvme_made (inner : ScsiDevice) :
    (workshop.overScsiNvme type inner).Ensures fun _ result =>
      MadeFor (NvmeType Reads type) result := by
  unfold overScsiNvme
  cases hRead : nvmeTranslator workshop.settings.satLength type with
  | error failure =>
      exact ensures_refused hRead (NvmeType.exists_translator _) (nvmeTranslator_cause hRead)
  | ok translator => exact madeFor_ok _ (nvmeTranslator_type hRead)

theorem ensures_overAta_made (inner : AtaDevice) :
    (overAta type inner).Ensures fun _ result => MadeFor (RoutedType Reads type) result := by
  unfold overAta
  cases hRead : routedDrive type with
  | error failure =>
      exact ensures_refused hRead RoutedType.exists_drive (routedDrive_cause hRead)
  | ok drive => exact madeFor_ok _ (routedDrive_type hRead)

end Workshop

/-- A translator is put on top of a device exactly for the documented types, and for those that have
a plus sign in front of their number besides. The device is dropped where the type is not read. -/
theorem Workshop.wraps_documented_or_signed (workshop : Workshop) (type : String)
    (scsi : ScsiDevice) (ata : AtaDevice) :
    ((workshop.wrapAta type scsi).Ensures
      (Wraps (fun Numeral => ∃ protocol, AtaType Numeral protocol type.toList) type.toList
        scsi.toDevice.hold Device.ata workshop)) ∧
      ((workshop.wrapNvme type scsi).Ensures
        (Wraps (fun Numeral => NvmeType Numeral type.toList) type.toList
          scsi.toDevice.hold Device.nvme workshop)) ∧
      ((workshop.wrapRouted type ata).Ensures
        (Wraps (fun Numeral => RoutedType Numeral type.toList) type.toList
          (Device.ata ata).hold Device.ata workshop)) := by
  refine ⟨?_, ?_, ?_⟩
  · refine Dialogue.ensures_bind_done_iff.mpr (((workshop.takesOver_overScsi type.toList scsi).and
      (workshop.ensures_overScsi_made type.toList scsi)).mono ?_)
    intro below result ⟨hTaken, hMade⟩
    refine wraps_of_taken hTaken hMade ?_ fun hSign => ?_
    · rintro ⟨protocol, hType⟩
      exact hType.sign_not_mem
    · exact exists_congr fun _ => ⟨.mono (spells_of_reads hSign), .mono reads_of_spells⟩
  · refine Dialogue.ensures_bind_done_iff.mpr
      (((workshop.takesOver_overScsiNvme type.toList scsi).and
        (workshop.ensures_overScsiNvme_made type.toList scsi)).mono ?_)
    intro below result ⟨hTaken, hMade⟩
    exact wraps_of_taken hTaken hMade NvmeType.sign_not_mem fun hSign =>
      ⟨.mono (spells_of_reads hSign), .mono reads_of_spells⟩
  · refine Dialogue.ensures_bind_done_iff.mpr (((takesOver_overAta type.toList ata).and
      (ensures_overAta_made type.toList ata)).mono ?_)
    intro below result ⟨hTaken, hMade⟩
    exact wraps_of_taken hTaken hMade RoutedType.sign_not_mem fun hSign =>
      ⟨.mono (spells_of_reads hSign), .mono reads_of_spells⟩

/-- A device with nothing on top of it, and one that shows ATA, for translators to go on. -/
def bareDevice : ScsiDevice := .endpoint (.new "/dev/sdb" 0)

def satDevice : AtaDevice := .sat (.atop bareDevice.profile "sat" .always .long) bareDevice

/-- A plus sign is taken in front of each kind of number, where none is documented. -/
theorem Workshop.signed_numbers_wrapped :
    let workshop : Workshop := { host := Catalogue.host {} }
    let party := delivering {}
    let length := (workshop.wrapAta "sat,+12" bareDevice).run party ()
    let signature := (workshop.wrapAta "usbcypress,0x+1f" bareDevice).run party ()
    let nsid := (workshop.wrapNvme "sntjmicron,0x+1" bareDevice).run party ()
    let drive := (workshop.wrapRouted "intelliprop,+1" satDevice).run party ()
    (length.value.map (·.1.isOk) = some true ∧
        ∀ protocol, ¬ AtaType Spells protocol "sat,+12".toList) ∧
      (signature.value.map (·.1.isOk) = some true ∧
        ∀ protocol, ¬ AtaType Spells protocol "usbcypress,0x+1f".toList) ∧
      (nsid.value.map (·.1.isOk) = some true ∧ ¬ NvmeType Spells "sntjmicron,0x+1".toList) ∧
      drive.value.map (·.1.isOk) = some true ∧ ¬ RoutedType Spells "intelliprop,+1".toList := by
  intro workshop party length signature nsid drive
  refine ⟨⟨by decide +kernel, fun protocol hType => ?_⟩,
    ⟨by decide +kernel, fun protocol hType => ?_⟩, ⟨by decide +kernel, fun hType => ?_⟩,
    by decide +kernel, fun hType => ?_⟩
  · exact absurd hType.sign_not_mem (by decide)
  · exact absurd hType.sign_not_mem (by decide)
  · exact absurd hType.sign_not_mem (by decide)
  · exact absurd hType.sign_not_mem (by decide)

end DriveBridge.Factory
