import DriveBridge.Factory.Catalogue
import DriveBridge.Proofs.Dialogue.Ensures
import DriveBridge.Proofs.Factory.Grammar

/-! Which devices a workshop makes for which types, if its host has just one SCSI and one ATA type
and none of its own. -/
namespace DriveBridge

/-- One protocol and no other. -/
def Protocols.only : Protocol → Protocols
  | .ata => { ata := true }
  | .scsi => { scsi := true }
  | .nvme => { nvme := true }

theorem Protocols.contains_only (protocol other : Protocol) :
    (only protocol).contains other = decide (protocol = other) := by
  cases protocol <;> cases other <;> rfl

namespace Factory

open Text Chain
open Workshop (isAtaChain)

/-- A maker succeeds for one type only, and shows the protocol then. -/
def Offers {α : Type} (profile : α → Profile) (protocol : Protocol) (wanted type : String)
    (result : Except Failure α) : Prop :=
  ((∃ device, result = .ok device) ↔ type = wanted) ∧
    ∀ device, result = .ok device → (profile device).shows protocol = true

theorem Offers.map {α β : Type} {profile : α → Profile} {protocol : Protocol} {wanted type : String}
    {result : Except Failure α} (hOffers : Offers profile protocol wanted type result)
    {wider : β → Profile} (f : α → β)
    (hShows : ∀ device, (wider (f device)).shows protocol = (profile device).shows protocol) :
    Offers wider protocol wanted type (result.map f) := by
  obtain ⟨hMade, hShown⟩ := hOffers
  cases result with
  | error failure =>
      refine ⟨Iff.trans ⟨nofun, nofun⟩ hMade, nofun⟩
  | ok device =>
      refine ⟨Iff.trans ⟨fun _ => ⟨device, rfl⟩, fun _ => ⟨f device, rfl⟩⟩ hMade, ?_⟩
      rintro _ ⟨⟩
      exact (hShows device).trans (hShown device rfl)

/-- A host with one SCSI and one ATA type, and no types of its own. -/
structure Host.IsPlain (host : Host) : Prop where
  custom : ∀ name type, (host.custom name type).Ensures fun _ result => result = none
  scsi : ∀ name type, (host.scsi name type).Ensures fun _ result =>
    Offers ScsiDevice.profile .scsi "scsi" type result
  ata : ∀ name type, (host.ata name type).Ensures fun _ result =>
    Offers AtaDevice.profile .ata "ata" type result

/-- A listing of one type offers that type. -/
theorem Catalogue.ensures_listed {α : Type} {profile : α → Profile} {protocol : Protocol}
    {build : String → Blueprint → Wire (Except Failure α)} {blueprint : Blueprint} (wanted : String)
    (hBuild : ∀ name, (build name blueprint).Ensures fun _ result =>
      ∃ device, result = .ok device ∧ (profile device).shows protocol = true)
    (name type : String) :
    (listed [(wanted, blueprint)] build name type).Ensures fun _ result =>
      Offers profile protocol wanted type result := by
  unfold listed
  by_cases hType : type = wanted
  · subst hType
    simp only [List.lookup_cons, beq_self_eq_true]
    refine (hBuild name).mono fun _ result hMade => ?_
    obtain ⟨device, rfl, hShows⟩ := hMade
    refine ⟨⟨fun _ => rfl, fun _ => ⟨device, rfl⟩⟩, ?_⟩
    rintro _ ⟨⟩
    exact hShows
  · have hLookup : [(wanted, blueprint)].lookup type = none := by
      simp [List.lookup_cons, beq_eq_false_iff_ne.mpr hType]
    simp only [hLookup]
    exact ⟨⟨nofun, fun h => (hType h).elim⟩, nofun⟩

/-- The host of an empty catalogue. -/
theorem Catalogue.isPlain_host : (host {}).IsPlain where
  custom name type := rfl
  scsi name type := by
    refine ensures_listed "scsi" (fun name => ?_) name type
    exact fun unit => ⟨_, rfl, rfl⟩
  ata name type := by
    refine ensures_listed "ata" (fun name => ?_) name type
    exact fun unit => ⟨_, rfl, rfl⟩

/-- A device is made exactly if a protocol is accepted, and shows that one and no other. -/
structure Yields {α : Type} (profile : α → Profile) (Accepts : Protocol → Prop)
    (result : Except Failure α) : Prop where
  made : ∀ protocol, Accepts protocol →
    ∃ device, result = .ok device ∧ (profile device).protocols = .only protocol
  accepted : ∀ device, result = .ok device → ∃ protocol, Accepts protocol

namespace Yields

variable {α β : Type} {profile : α → Profile} {Accepts Others : Protocol → Prop}
  {result : Except Failure α}

theorem error {failure : Failure} (hNone : ∀ protocol, ¬ Accepts protocol) :
    Yields profile Accepts (.error failure) where
  made protocol hAccepts := (hNone protocol hAccepts).elim
  accepted := nofun

/-- Nothing is accepted where a step has failed that every accepted type passes. -/
theorem of_failed {γ : Type} {step : Except Failure γ} {failure other : Failure}
    (hFailed : step = .error failure)
    (hPassed : ∀ protocol, Accepts protocol → ∃ value, step = .ok value) :
    Yields profile Accepts (.error other) := by
  refine .error fun protocol hAccepts => ?_
  obtain ⟨value, hOk⟩ := hPassed protocol hAccepts
  cases hFailed.symm.trans hOk

theorem ok {device : α} {protocol : Protocol} (hAccepts : ∀ other, Accepts other ↔ other = protocol)
    (hShows : (profile device).protocols = .only protocol) :
    Yields profile Accepts (.ok device) where
  made other hOther := by
    rw [(hAccepts other).mp hOther]
    exact ⟨device, rfl, hShows⟩
  accepted _ _ := ⟨protocol, (hAccepts protocol).mpr rfl⟩

theorem congr (hYields : Yields profile Accepts result)
    (hSame : ∀ protocol, Others protocol ↔ Accepts protocol) : Yields profile Others result where
  made protocol hOther := hYields.made protocol ((hSame protocol).mp hOther)
  accepted device hDevice :=
    (hYields.accepted device hDevice).imp fun protocol => (hSame protocol).mpr

theorem map (hYields : Yields profile Accepts result) {wider : β → Profile} (f : α → β)
    (hProfile : ∀ device, wider (f device) = profile device) :
    Yields wider Accepts (result.map f) where
  made protocol hAccepts := by
    obtain ⟨device, rfl, hShows⟩ := hYields.made protocol hAccepts
    exact ⟨f device, rfl, (congrArg Profile.protocols (hProfile device)).trans hShows⟩
  accepted device hDevice := by
    cases result with
    | error failure => cases hDevice
    | ok made => exact hYields.accepted made rfl

end Yields

namespace Workshop

variable (workshop : Workshop)

theorem ensures_overScsi {head : List Char} (hSign : '+' ∉ head) (inner : ScsiDevice) :
    (workshop.overScsi head inner).Ensures fun _ result =>
      Yields AtaDevice.profile (AtaType Spells · head) result := by
  have hHead : ∀ protocol, AtaType Spells protocol head → ∃ translator,
      ataTranslator workshop.settings.satLength head = .ok translator ∧
        translator.protocol = protocol :=
    fun _ hHead => (hHead.mono reads_of_spells).exists_translator
  unfold overScsi
  cases hRead : ataTranslator workshop.settings.satLength head with
  | error failure =>
      exact .of_failed hRead fun protocol hAccepts => (hHead protocol hAccepts).imp fun _ => And.left
  | ok translator =>
      have hAccepts : ∀ protocol, AtaType Spells protocol head ↔
          protocol = translator.protocol := by
        intro protocol
        constructor
        · intro hAccepts
          obtain ⟨_, hOk, rfl⟩ := hHead protocol hAccepts
          rw [hRead] at hOk
          cases hOk
          rfl
        · rintro rfl
          exact (ataTranslator_type hRead).mono (spells_of_reads hSign)
      match translator with
      | .sat .always _ | .sat .auto _ | .sat .never _ | .bridge _ => exact .ok hAccepts rfl

theorem ensures_overScsiNvme {head : List Char} (hSign : '+' ∉ head) (inner : ScsiDevice) :
    (workshop.overScsiNvme head inner).Ensures fun _ result =>
      Yields NvmeDevice.profile (fun protocol => protocol = .nvme ∧ NvmeType Spells head)
        result := by
  unfold overScsiNvme
  cases hRead : nvmeTranslator workshop.settings.satLength head with
  | error failure =>
      exact .of_failed hRead fun _ hAccepts =>
        (hAccepts.2.mono reads_of_spells).exists_translator _
  | ok translator =>
      have hHead := (nvmeTranslator_type hRead).mono (spells_of_reads hSign)
      exact @Yields.ok _ _ _ _ Protocol.nvme (fun _ => and_iff_left hHead) rfl

theorem ensures_overAta {head : List Char} (hSign : '+' ∉ head) (inner : AtaDevice) :
    (overAta head inner).Ensures fun _ result =>
      Yields AtaDevice.profile (fun protocol => protocol = .ata ∧ RoutedType Spells head)
        result := by
  unfold overAta
  cases hRead : routedDrive head with
  | error failure =>
      exact .of_failed hRead fun _ hAccepts => (hAccepts.2.mono reads_of_spells).exists_drive
  | ok drive =>
      have hHead := (routedDrive_type hRead).mono (spells_of_reads hSign)
      exact @Yields.ok _ _ _ _ Protocol.ata (fun _ => and_iff_left hHead) rfl

section Host

variable (hHost : workshop.host.IsPlain)

include hHost

theorem ensures_scsiBase (name type : String) :
    (workshop.scsiBase name type).Ensures fun _ result =>
      Offers ScsiDevice.profile .scsi "scsi" type result := by
  refine (hHost.scsi name type).bind fun _ result hOffers => ?_
  exact hOffers.map _ fun device => by cases device <;> rfl

theorem ensures_ataBase (name type : String) :
    (workshop.ataBase name type).Ensures fun _ result =>
      Offers AtaDevice.profile .ata "ata" type result := by
  refine (hHost.ata name type).bind fun _ result hOffers => ?_
  exact hOffers.map _ fun device => by cases device <;> rfl

theorem ensures_below (hBase : workshop.settings.baseType = "scsi") (name : String)
    (outer base : List Char) :
    (workshop.below name outer base).Ensures fun _ result =>
      (∃ device, result = .ok device) ↔ ScsiBase base := by
  have hType : (if base.isEmpty then workshop.settings.baseType else String.ofList base) = "scsi" ↔
      ScsiBase base := by
    cases base with
    | nil => exact ⟨fun _ => .inl rfl, fun _ => hBase⟩
    | cons c rest =>
        rw [if_neg (by simp), ← String.toList_inj, String.toList_ofList]
        exact ⟨.inr, fun h => h.resolve_left nofun⟩
  refine (workshop.ensures_scsiBase hHost name _).bind fun _ result hOffers => ?_
  obtain ⟨hMade, hShows⟩ := hOffers
  cases result with
  | error failure => exact Iff.trans ⟨nofun, nofun⟩ (hMade.trans hType)
  | ok device =>
      dsimp only
      rw [if_pos (hShows device rfl)]
      exact Iff.trans ⟨fun _ => ⟨device, rfl⟩, fun _ => ⟨device, rfl⟩⟩ (hMade.trans hType)

variable (hBase : workshop.settings.baseType = "scsi")

include hBase

theorem ensures_ataChain (name : String) {type : List Char} (hType : isAtaChain type = true) :
    (workshop.ataChain name type).Ensures fun _ result =>
      Yields AtaDevice.profile (OverScsi · type) result := by
  refine (workshop.ensures_below hHost hBase name _ _).bind fun _ result hBelow => ?_
  cases result with
  | error failure => exact .of_failed rfl fun _ hAccepts => hBelow.mpr hAccepts.base
  | ok inner =>
      have hInner := hBelow.mp ⟨inner, rfl⟩
      have hOver := workshop.ensures_overScsi (sign_not_mem_head type) inner
      exact hOver.mono fun _ _ hYields => hYields.congr fun _ =>
        ⟨OverScsi.head, fun hHead => ⟨hHead, head_ne_scsi hType, hInner⟩⟩

theorem ensures_nvmeChain (name : String) (type : List Char) :
    (workshop.nvmeChain name type).Ensures fun _ result =>
      Yields NvmeDevice.profile (fun protocol =>
        protocol = .nvme ∧ NvmeType Spells (splitBase type).1 ∧ ScsiBase (splitBase type).2)
        result := by
  refine (workshop.ensures_below hHost hBase name _ _).bind fun _ result hBelow => ?_
  cases result with
  | error failure => exact .of_failed rfl fun _ hAccepts => hBelow.mpr hAccepts.2.2
  | ok inner =>
      have hInner := hBelow.mp ⟨inner, rfl⟩
      have hOver := workshop.ensures_overScsiNvme (sign_not_mem_head type) inner
      exact hOver.mono fun _ _ hYields => hYields.congr fun _ =>
        and_congr_right fun _ => and_iff_left hInner

/-- The device below a multiplexer is there and shows ATA exactly for the types that may stand
there. -/
theorem ensures_ataBelow (name : String) (base : List Char) :
    (workshop.ataBelow name base).Ensures fun _ result =>
      (∃ inner, result = .ok inner ∧ inner.profile.shows .ata = true) ↔
        base = "ata".toList ∨ OverScsi .ata base := by
  unfold ataBelow
  split
  · next hChain =>
    refine (workshop.ensures_ataChain hHost hBase name hChain).mono fun _ result hYields => ?_
    constructor
    · rintro ⟨inner, hInner, hShows⟩
      obtain ⟨protocol, hOver⟩ := hYields.accepted inner hInner
      obtain ⟨_, hSame, hOnly⟩ := hYields.made protocol hOver
      cases hInner.symm.trans hSame
      rw [Profile.shows, hOnly, Protocols.contains_only, decide_eq_true_eq] at hShows
      exact .inr (hShows ▸ hOver)
    · intro hAccepts
      have hOver : OverScsi .ata base := by
        refine hAccepts.resolve_left ?_
        rintro rfl
        cases hChain
      obtain ⟨inner, hInner, hOnly⟩ := hYields.made .ata hOver
      exact ⟨inner, hInner, by rw [Profile.shows, hOnly]; rfl⟩
  · next hChain =>
    refine (workshop.ensures_ataBase hHost name _).mono fun _ result hOffers => ?_
    obtain ⟨hMade, hShows⟩ := hOffers
    rw [← String.toList_inj, String.toList_ofList] at hMade
    constructor
    · rintro ⟨inner, hInner, -⟩
      exact .inl (hMade.mp ⟨inner, hInner⟩)
    · intro hAccepts
      have hPlain := hAccepts.resolve_right fun hOver => hChain (isAtaChain_of_overScsi hOver)
      obtain ⟨inner, hInner⟩ := hMade.mpr hPlain
      exact ⟨inner, hInner, hShows inner hInner⟩

theorem ensures_routedChain (name : String) (type : List Char) :
    (workshop.routedChain name type).Ensures fun _ result =>
      Yields AtaDevice.profile (fun protocol =>
        protocol = .ata ∧ RoutedType Spells (splitBase type).1 ∧ AtaBase (splitBase type).2)
        result := by
  have hBelow : ∀ rest : List Char, AtaBase rest ↔
      (if rest.isEmpty then "ata".toList else rest) = "ata".toList ∨
        OverScsi .ata (if rest.isEmpty then "ata".toList else rest) := by
    intro rest
    cases rest with
    | nil => exact ⟨fun _ => .inl rfl, fun _ => .inl rfl⟩
    | cons c rest => exact ⟨fun h => h.resolve_left nofun, .inr⟩
  refine (workshop.ensures_ataBelow hHost hBase name _).bind fun _ result hAta => ?_
  rw [← hBelow] at hAta
  cases result with
  | error failure =>
      exact .of_failed rfl fun _ hAccepts => (hAta.mpr hAccepts.2.2).imp fun _ => And.left
  | ok inner =>
      dsimp only
      split
      · next hShows =>
        have hInner := hAta.mp ⟨inner, rfl, hShows⟩
        refine (ensures_overAta (sign_not_mem_head type) inner).mono fun _ _ hYields => ?_
        exact hYields.congr fun _ => and_congr_right fun _ => and_iff_left hInner
      · next hHides =>
        refine .error fun protocol hAccepts => ?_
        obtain ⟨_, hOk, hShows⟩ := hAta.mpr hAccepts.2.2
        cases hOk
        exact hHides hShows

theorem ensures_chain (name : String) {type : String} (hType : NamesTranslator type.toList) :
    (workshop.chain name type).Ensures fun _ result =>
      Yields Device.profile (Accepted · type.toList) result := by
  obtain ⟨hAta, hScsi, hNvme, hNsid⟩ := hType.not_plain
  have hNotNvme : ¬ (type = "nvme" ∨ startsWith "nvme,".toList type.toList = true) := by
    rintro (rfl | hStart)
    · exact hNvme rfl
    · cases hNsid.symm.trans hStart
  unfold chain
  rw [if_neg (ne_of_apply_ne _ hAta), if_neg (ne_of_apply_ne _ hScsi), if_neg hNotNvme]
  split
  · next hChain =>
    refine (workshop.ensures_ataChain hHost hBase name hChain).bind fun _ result hYields => ?_
    exact (hYields.congr fun _ => accepted_iff_of_isAtaChain hChain).map _ fun _ => rfl
  · next hNotChain =>
    split
    · next hSnt =>
      refine (workshop.ensures_nvmeChain hHost hBase name _).bind fun _ result hYields => ?_
      have hStart := startsWith_iff.mp hSnt
      exact (hYields.congr fun _ => accepted_iff_of_snt hStart).map _ fun _ => rfl
    · next hNotSnt =>
      have hRouted := (hType.kind.resolve_left hNotChain).resolve_left hNotSnt
      rw [if_pos hRouted]
      refine (workshop.ensures_routedChain hHost hBase name _).bind fun _ result hYields => ?_
      have hStart := startsWith_iff.mp hRouted
      exact (hYields.congr fun _ => accepted_iff_of_intelliprop hStart).map _ fun _ => rfl

end Host

variable {workshop}

/-- Of the types that name a translator, exactly those of the grammar are made into devices, and
a device shows the one protocol that the grammar gives it. -/
theorem make_accepts_grammar (hHost : workshop.host.IsPlain)
    (hBase : workshop.settings.baseType = "scsi") (name : String) {type : String}
    (hType : NamesTranslator type.toList) :
    (workshop.make name type).Ensures fun _ outcome =>
      ((∃ device, outcome.1 = .ok device) ↔ ∃ protocol, Accepted protocol type.toList) ∧
        ∀ device protocol, outcome.1 = .ok device → Accepted protocol type.toList →
          device.profile.protocols = .only protocol := by
  have hDevice : (workshop.forget.device name type).Ensures fun _ result =>
      Yields Device.profile (Accepted · type.toList) result := by
    have hNonempty : ¬ type.isEmpty = true := by
      intro hEmpty
      rw [String.isEmpty_iff.mp hEmpty] at hType
      rcases hType.kind with hKind | hKind | hKind <;> cases hKind
    unfold device
    rw [if_neg hNonempty]
    refine (hHost.custom name type).bind fun _ result hNone => ?_
    rw [hNone]
    exact workshop.forget.ensures_chain hHost hBase name hType
  refine hDevice.bind fun _ result hYields => ⟨⟨?_, ?_⟩, ?_⟩
  · rintro ⟨device, hMade⟩
    exact hYields.accepted device hMade
  · rintro ⟨protocol, hAccepted⟩
    exact (hYields.made protocol hAccepted).imp fun device hMade => hMade.1
  · intro device protocol hMade hAccepted
    obtain ⟨_, hSame, hShows⟩ := hYields.made protocol hAccepted
    cases hMade.symm.trans hSame
    exact hShows

/-- A drive behind a multiplexer behind a bridge that is told its port. -/
theorem make_routed_drive :
    (Catalogue.host {}).IsPlain ∧
      ((⟨{}, Catalogue.host {}, none⟩ : Workshop).make "/dev/sdx"
        "intelliprop,02+usbjmicron,x,1+").Ensures fun _ outcome =>
          ∃ device, outcome.1 = .ok device ∧ device.profile.protocols = { ata := true } := by
  have hZero : IsDigit 10 '0' 0 := ⟨by decide, .inl rfl⟩
  have hOne : IsDigit 10 '1' 1 := ⟨by decide, .inl rfl⟩
  have hTwo : IsDigit 10 '2' 2 := ⟨by decide, .inl rfl⟩
  have hPort : OptionalNumeral (Spells 10) [','] (· ≤ 1) ",1".toList :=
    .present ⟨nofun, [1], .cons hOne .nil, rfl⟩ (by decide)
  have hBridge : OverScsi .ata "usbjmicron,x,1+".toList :=
    ⟨.jmicron .absent .present hPort, nofun, .inl rfl⟩
  have hDrive : RoutedType Spells "intelliprop,02".toList :=
    .drive ⟨nofun, [0, 2], .cons hZero (.cons hTwo .nil), rfl⟩ (by decide)
  have hAccepted : Accepted .ata "intelliprop,02+usbjmicron,x,1+".toList :=
    .routed hDrive (.inr (.inr hBridge))
  have hHost := Catalogue.isPlain_host
  have hType : NamesTranslator "intelliprop,02+usbjmicron,x,1+".toList :=
    .inr (.inr (.inl ⟨_, rfl⟩))
  refine ⟨hHost, (make_accepts_grammar hHost rfl "/dev/sdx" hType).mono ?_⟩
  rintro _ outcome ⟨hMade, hShows⟩
  obtain ⟨device, hDevice⟩ := hMade.mpr ⟨_, hAccepted⟩
  exact ⟨device, hDevice, hShows device _ hDevice hAccepted⟩

end Workshop

end Factory

end DriveBridge
