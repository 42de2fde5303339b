import DriveBridge.Factory.Catalogue
import DriveBridge.Proofs.Chain.Ownership
import DriveBridge.Proofs.Chain.Relay

/-! What happens while a chain is made. The host makes the device at the far end, and that is all
that is asked of anybody: one translator after the other takes the device over as it is, and a step
that fails drops it. What is known of the devices of a host is therefore known of every chain. -/
namespace DriveBridge

namespace Chain

/-- What a device has of the endpoint at its far end. -/
structure Hold where
  unit? : Option Nat
  isOpen : Bool

namespace Device

def hold (device : Device) : Hold := ⟨device.unit?, device.isOpen⟩

@[simp] theorem hold_mapProfile (f : Profile → Profile) (device : Device) :
    (device.mapProfile f).hold = device.hold := by
  cases device with
  | endpoint e | nvme device => rfl
  | ata device => cases device <;> rfl

@[simp] theorem hold_sat (layer : SatLayer) (inner : ScsiDevice) :
    (ata (.sat layer inner)).hold = inner.toDevice.hold := by
  cases inner <;> rfl

@[simp] theorem hold_bridge (layer : BridgeLayer) (inner : ScsiDevice) :
    (ata (.bridge layer inner)).hold = inner.toDevice.hold := by
  cases inner <;> rfl

@[simp] theorem hold_routed (layer : RoutedLayer) (inner : AtaDevice) :
    (ata (.routed layer inner)).hold = (ata inner).hold := rfl

@[simp] theorem hold_atop (inner : ScsiDevice) (requested : String) (vendor : NvmeVendor)
    (nsid : UInt32) (fallback : Option Ata.Sat.Length) :
    (nvme (.atop inner requested vendor nsid fallback)).hold = inner.toDevice.hold := by
  cases inner <;> rfl

end Device

end Chain

namespace Factory

open Chain Dialogue

/-- What the device of a result holds, if there is one. -/
def held {α : Type} (toDevice : α → Device) : Except Failure α → Option Hold
  | .ok device => some (toDevice device).hold
  | .error _ => none

/-- A condition on what has been asked and what is held. -/
abbrev Terms := List Chain.Exchange → Option Hold → Prop

/-- The terms are met at first, and nothing that is dropped breaks them. -/
structure Terms.Fair (terms : Terms) : Prop where
  empty : terms [] none
  dropped : ∀ exchanges hold, terms exchanges hold → terms exchanges none

/-- A step that makes a device, or fails to. -/
def Builds {α : Type} (terms : Terms) (toDevice : α → Device) (step : Wire (Except Failure α)) :
    Prop :=
  step.Ensures fun exchanges result => terms exchanges (held toDevice result)

/-- A step that asks nobody. Its device has taken over what was held before, unless that has been
dropped. -/
def TakesOver {α : Type} (before : Option Hold) (toDevice : α → Device)
    (step : Wire (Except Failure α)) : Prop :=
  step.Ensures fun exchanges result =>
    exchanges = [] ∧ (held toDevice result = before ∨ held toDevice result = none)

/-- Whatever a host makes meets the terms. Where a type is none of its own, nothing that it did to
find out gets in the way of what comes later. -/
structure Host.Supplies (host : Host) (terms : Terms) : Prop where
  scsi : ∀ name type, Builds terms ScsiDevice.toDevice (host.scsi name type)
  ata : ∀ name type, Builds terms Device.ata (host.ata name type)
  nvme : ∀ name type, Builds terms id (host.nvme name type)
  detect : ∀ name, Builds terms id (host.detect name)
  custom : ∀ name type, (host.custom name type).Ensures fun exchanges claimed =>
    match claimed with
    | some result => terms exchanges (held id result)
    | none => ∀ later hold, terms later hold → terms (exchanges ++ later) hold

section Rules

variable {α β : Type} {terms : Terms} {toDevice : α → Device}
  {toOther : β → Device} {before : Option Hold}

theorem takesOver_error (failure : Failure) :
    TakesOver before toDevice (.done (.error failure)) :=
  ⟨rfl, .inr rfl⟩

theorem takesOver_ok {device : α} (hHold : some (toDevice device).hold = before) :
    TakesOver before toDevice (.done (.ok device)) :=
  ⟨rfl, .inl hHold⟩

theorem takesOver_refuse (failure : Failure) :
    TakesOver before toDevice (Workshop.refuse failure) :=
  ⟨rfl, .inr rfl⟩

theorem takesOver_map {result : Except Failure α} {f : α → β}
    (hHold : ∀ device, (toOther (f device)).hold = (toDevice device).hold) :
    TakesOver (held toDevice result) toOther (.done (result.map f)) := by
  cases result with
  | error failure => exact takesOver_error failure
  | ok device => exact takesOver_ok (congrArg some (hHold device))

/-- A device that is taken over has been built like the one that it was made of. -/
theorem Builds.bind {first : Wire (Except Failure α)}
    {next : Except Failure α → Wire (Except Failure β)} (builds : Builds terms toDevice first)
    (fair : terms.Fair)
    (h : ∀ result, TakesOver (held toDevice result) toOther (next result)) :
    Builds terms toOther (first.bind next) := by
  refine Ensures.bind builds fun exchanges result hPost => ?_
  refine (h result).mono fun later outcome ⟨hSilent, hHeld⟩ => ?_
  rw [hSilent, List.append_nil]
  obtain hTaken | hDropped := hHeld
  · exact hTaken ▸ hPost
  · exact hDropped ▸ fair.dropped _ _ hPost

end Rules

namespace Workshop

section TakesOver

variable (workshop : Workshop) (type : List Char)

theorem takesOver_overScsi (inner : ScsiDevice) :
    TakesOver (some inner.toDevice.hold) Device.ata (workshop.overScsi type inner) := by
  unfold overScsi
  dsimp only
  split
  · exact takesOver_refuse _
  · exact takesOver_ok (congrArg some (Device.hold_sat _ _))
  · exact takesOver_ok (congrArg some (Device.hold_bridge _ _))

theorem takesOver_overScsiNvme (inner : ScsiDevice) :
    TakesOver (some inner.toDevice.hold) Device.nvme (workshop.overScsiNvme type inner) := by
  unfold overScsiNvme
  split
  · exact takesOver_refuse _
  · exact takesOver_ok (congrArg some (Device.hold_atop _ _ _ _ _))

theorem takesOver_overAta (inner : AtaDevice) :
    TakesOver (some (Device.ata inner).hold) Device.ata (overAta type inner) := by
  unfold overAta
  split
  · exact takesOver_refuse _
  · exact takesOver_ok (congrArg some (Device.hold_routed _ _))

end TakesOver

section Builds

variable {workshop : Workshop} {terms : Terms}
  (fair : terms.Fair) (hHost : workshop.host.Supplies terms) (name : String)

include fair hHost

theorem builds_scsiBase (type : String) :
    Builds terms ScsiDevice.toDevice (workshop.scsiBase name type) := by
  refine (hHost.scsi name type).bind fair fun result => takesOver_map fun device => ?_
  cases device <;> rfl

theorem builds_ataBase (type : String) : Builds terms Device.ata (workshop.ataBase name type) :=
  (hHost.ata name type).bind fair fun _ =>
    takesOver_map fun device => (Device.ata device).hold_mapProfile _

theorem builds_below (outer base : List Char) :
    Builds terms ScsiDevice.toDevice (workshop.below name outer base) := by
  refine (builds_scsiBase fair hHost name _).bind fair fun result => ?_
  cases result with
  | error failure => exact takesOver_error _
  | ok device =>
      dsimp only
      split
      · exact takesOver_ok rfl
      · exact takesOver_error _

theorem builds_ataChain (type : List Char) :
    Builds terms Device.ata (workshop.ataChain name type) := by
  refine (builds_below fair hHost name _ _).bind fair fun result => ?_
  cases result with
  | error failure => exact takesOver_error _
  | ok inner => exact workshop.takesOver_overScsi _ inner

theorem builds_nvmeChain (type : List Char) :
    Builds terms Device.nvme (workshop.nvmeChain name type) := by
  refine (builds_below fair hHost name _ _).bind fair fun result => ?_
  cases result with
  | error failure => exact takesOver_error _
  | ok inner => exact workshop.takesOver_overScsiNvme _ inner

theorem builds_ataBelow (type : List Char) :
    Builds terms Device.ata (workshop.ataBelow name type) := by
  unfold ataBelow
  split
  · exact builds_ataChain fair hHost name type
  · exact builds_ataBase fair hHost name _

theorem builds_routedChain (type : List Char) :
    Builds terms Device.ata (workshop.routedChain name type) := by
  refine (builds_ataBelow fair hHost name _).bind fair fun result => ?_
  cases result with
  | error failure => exact takesOver_error _
  | ok inner =>
      dsimp only
      split
      · exact takesOver_overAta _ inner
      · exact takesOver_error _

theorem builds_chain (type : String) : Builds terms id (workshop.chain name type) := by
  unfold chain
  dsimp only
  split
  · exact (builds_ataBase fair hHost name _).bind fair fun _ => takesOver_map fun _ => rfl
  split
  · exact (builds_scsiBase fair hHost name _).bind fair fun _ => takesOver_map fun _ => rfl
  split
  · exact (hHost.nvme name type).bind fair fun _ =>
      takesOver_map fun device => device.hold_mapProfile _
  split
  · exact (builds_ataChain fair hHost name _).bind fair fun _ => takesOver_map fun _ => rfl
  split
  · exact (builds_nvmeChain fair hHost name _).bind fair fun _ => takesOver_map fun _ => rfl
  split
  · exact (builds_routedChain fair hHost name _).bind fair fun _ => takesOver_map fun _ => rfl
  · exact fair.empty

theorem builds_device (type : String) : Builds terms id (workshop.device name type) := by
  unfold device
  split
  · exact hHost.detect name
  · refine Ensures.bind (hHost.custom name type) fun before claimed hClaimed => ?_
    cases claimed with
    | some result =>
        show terms (before ++ []) (held id result)
        rw [List.append_nil]
        exact hClaimed
    | none => exact (builds_chain fair hHost name type).mono fun later _ => hClaimed later _

/-- The workshop itself holds no device, before or after. -/
theorem ensures_make (type : String) :
    (workshop.make name type).Ensures fun exchanges outcome =>
      terms exchanges (held id outcome.1) ∧ outcome.2 = workshop.forget.settle outcome.1 := by
  have hForgotten : workshop.forget.host.Supplies terms := hHost
  exact ensures_bind_done_iff.mpr
    ((builds_device fair hForgotten name type).mono fun _ _ hPost => ⟨hPost, rfl⟩)

end Builds

end Workshop

/-- Nobody has been asked for anything but endpoints. A device that is held is all there is: it has
the one endpoint that was attached, and has not opened it. -/
structure OnlyDevice (exchanges : List Chain.Exchange) (hold : Option Hold) : Prop where
  attached : ∀ exchange ∈ exchanges, exchange.query = .attach
  owned : ∀ device, hold = some device →
    ∃ unit, exchanges = [⟨.attach, unit⟩] ∧ device = ⟨some unit, false⟩

theorem fair_onlyDevice : Terms.Fair OnlyDevice where
  empty := ⟨List.forall_mem_nil _, nofun⟩
  dropped _ _ hOnly := ⟨hOnly.attached, nofun⟩

theorem onlyDevice_attached (unit : Nat) :
    OnlyDevice [⟨.attach, unit⟩] (some ⟨some unit, false⟩) where
  attached := List.forall_mem_singleton.mpr rfl
  owned := by
    rintro _ ⟨⟩
    exact ⟨unit, rfl, rfl⟩

/-- A host whose devices are closed and have one endpoint each, with whatever in between. It has no
devices of types of its own, and none for a name without a type. -/
structure Host.MakesTransports (host : Host) : Prop where
  scsi : ∀ name type, Builds OnlyDevice ScsiDevice.toDevice (host.scsi name type)
  ata : ∀ name type, Builds OnlyDevice Device.ata (host.ata name type)
  nvme : ∀ name type, Builds OnlyDevice id (host.nvme name type)
  detect : ∀ name, (host.detect name).Ensures fun exchanges result =>
    exchanges = [] ∧ ∀ device, result ≠ .ok device
  custom : ∀ name type, (host.custom name type).Ensures fun exchanges claimed =>
    exchanges = [] ∧ ∀ device, claimed ≠ some (.ok device)

theorem Host.MakesTransports.supplies {host : Host} (hHost : host.MakesTransports) :
    host.Supplies OnlyDevice where
  scsi := hHost.scsi
  ata := hHost.ata
  nvme := hHost.nvme
  detect name := by
    refine (hHost.detect name).mono fun exchanges result ⟨hSilent, hNone⟩ => ?_
    cases result with
    | error failure => exact hSilent ▸ fair_onlyDevice.empty
    | ok device => exact (hNone device rfl).elim
  custom name type := by
    refine (hHost.custom name type).mono fun exchanges claimed ⟨hSilent, hNone⟩ => ?_
    subst hSilent
    match claimed with
    | none => exact fun _ _ hLater => hLater
    | some (.error failure) => exact fair_onlyDevice.empty
    | some (.ok device) => exact (hNone device rfl).elim

/-- The endpoint at the far end of a description, if there is one, is not open. -/
def Closed : Blueprint → Prop
  | .refused _ => True
  | .endpoint _ isOpen _ => isOpen = false
  | .sat _ _ _ inner _ | .bridge _ _ inner _ | .routed _ inner _ | .nvme _ _ _ _ inner _ =>
      Closed inner

section Closed

variable (name : String) {blueprint : Blueprint}

theorem builds_buildScsi (hClosed : Closed blueprint) :
    Builds OnlyDevice ScsiDevice.toDevice (blueprint.buildScsi name) := by
  induction blueprint with
  | refused _ | bridge _ _ _ _ _ | routed _ _ _ _ | nvme _ _ _ _ _ _ _ =>
      exact fair_onlyDevice.empty
  | endpoint own isOpen adjustment =>
      obtain rfl : isOpen = false := hClosed
      exact onlyDevice_attached
  | sat requested mode length inner adjustment ih =>
      exact (ih hClosed).bind fair_onlyDevice fun _ =>
        takesOver_map fun device => Device.hold_sat _ device

theorem builds_buildAta (hClosed : Closed blueprint) :
    Builds OnlyDevice Device.ata (blueprint.buildAta name) := by
  induction blueprint with
  | refused _ | endpoint _ _ _ | nvme _ _ _ _ _ _ _ => exact fair_onlyDevice.empty
  | sat requested mode length inner adjustment =>
      have hInner := builds_buildScsi name (show Closed inner from hClosed)
      exact hInner.bind fair_onlyDevice fun _ =>
        takesOver_map fun device => Device.hold_sat _ device
  | bridge requested encoding inner adjustment =>
      have hInner := builds_buildScsi name (show Closed inner from hClosed)
      exact hInner.bind fair_onlyDevice fun _ =>
        takesOver_map fun device => Device.hold_bridge _ device
  | routed drive inner adjustment ih =>
      exact (ih hClosed).bind fair_onlyDevice fun _ => takesOver_map fun _ => rfl

theorem builds_build (hClosed : Closed blueprint) :
    Builds OnlyDevice id (blueprint.build name) := by
  unfold Blueprint.build
  split
  · next requested vendor nsid fallback inner adjustment =>
    have hInner := builds_buildScsi name (show Closed inner from hClosed)
    exact hInner.bind fair_onlyDevice fun _ => takesOver_map fun device =>
      Device.hold_atop device requested vendor nsid fallback
  · exact (builds_buildScsi name hClosed).bind fair_onlyDevice fun _ => takesOver_map fun _ => rfl
  all_goals
    exact (builds_buildAta name hClosed).bind fair_onlyDevice fun _ => takesOver_map fun _ => rfl

theorem closed_of_lookup {listing : Listing} {type : String}
    (hListing : ∀ entry ∈ listing, Closed entry.2) (hFound : listing.lookup type = some blueprint) :
    Closed blueprint := by
  obtain ⟨before, after, rfl, -⟩ := List.lookup_eq_some_iff.mp hFound
  exact hListing (type, blueprint) (by simp)

theorem builds_listed {α : Type} {toDevice : α → Device}
    {build : String → Blueprint → Wire (Except Failure α)} {listing : Listing}
    (hListing : ∀ entry ∈ listing, Closed entry.2)
    (hBuild : ∀ name blueprint, Closed blueprint →
      Builds OnlyDevice toDevice (build name blueprint))
    (type : String) : Builds OnlyDevice toDevice (Catalogue.listed listing build name type) := by
  unfold Catalogue.listed
  split
  · next hFound => exact hBuild name _ (closed_of_lookup hListing hFound)
  · exact fair_onlyDevice.empty

theorem ensures_listed? {listing : Listing} (hListing : ∀ entry ∈ listing, Closed entry.2)
    (type : String) :
    (Catalogue.listed? listing name type).Ensures fun exchanges claimed =>
      (claimed = none → exchanges = []) ∧
        ∀ result, claimed = some result → OnlyDevice exchanges (held id result) := by
  unfold Catalogue.listed?
  split
  · next hFound =>
    refine ensures_bind_done_iff.mpr ?_
    refine (builds_build name (closed_of_lookup hListing hFound)).mono fun _ result hOnly => ?_
    refine ⟨nofun, ?_⟩
    rintro _ ⟨⟩
    exact hOnly
  · exact ⟨fun _ => rfl, fun _ hSome => nomatch hSome⟩

/-- A catalogue of such descriptions, none of them for types of its own or for a name alone. -/
theorem makesTransports_host {catalogue : Catalogue} (hCustom : catalogue.custom = [])
    (hDetect : catalogue.detect = none) (hScsi : ∀ entry ∈ catalogue.scsi, Closed entry.2)
    (hAta : ∀ entry ∈ catalogue.ata, Closed entry.2)
    (hNvme : ∀ entry ∈ catalogue.nvme, Closed entry.2) :
    catalogue.host.MakesTransports where
  scsi name type := builds_listed name hScsi (fun name _ => builds_buildScsi name) type
  ata name type := builds_listed name hAta (fun name _ => builds_buildAta name) type
  nvme name type := by
    refine Ensures.bind (ensures_listed? name hNvme type) ?_
    intro exchanges claimed ⟨hNone, hSome⟩
    cases claimed with
    | none => exact (hNone rfl).symm ▸ fair_onlyDevice.empty
    | some result =>
        show OnlyDevice (exchanges ++ []) (held id result)
        rw [List.append_nil]
        exact hSome result rfl
  detect name := by
    simp only [Catalogue.host, hDetect]
    exact ⟨rfl, fun _ hOk => nomatch hOk⟩
  custom name type := by
    simp only [Catalogue.host, hCustom]
    exact ⟨rfl, fun _ hOk => nomatch hOk⟩

/-- The host of an empty catalogue. -/
theorem makesTransports_plain : (Catalogue.host {}).MakesTransports :=
  makesTransports_host rfl rfl (List.forall_mem_singleton.mpr rfl)
    (List.forall_mem_singleton.mpr rfl) (List.forall_mem_nil _)

end Closed

namespace Workshop

variable {workshop : Workshop}

/-- Making a chain sends nothing, and opens and closes nothing. Either there is a device in the end,
which is closed and has the only endpoint that was attached; or all that there is of the call is a
failure, so that whatever was attached has been dropped. -/
theorem make_leaks_nothing (hHost : workshop.host.MakesTransports) (name type : String) :
    (workshop.make name type).Ensures fun exchanges outcome =>
      (∀ exchange ∈ exchanges, exchange.query = .attach) ∧
        ((∃ unit device, exchanges = [⟨.attach, unit⟩] ∧ outcome = (.ok device, workshop.forget) ∧
            device.unit? = some unit ∧ device.isOpen = false) ∨
          ∃ failure, outcome = (.error failure, { workshop with failure := some failure })) := by
  refine (ensures_make fair_onlyDevice hHost.supplies name type).mono ?_
  rintro exchanges ⟨result, after⟩ ⟨hOnly, hAfter⟩
  dsimp only at hOnly hAfter
  subst hAfter
  refine ⟨hOnly.attached, ?_⟩
  cases result with
  | error failure => exact .inr ⟨failure, rfl⟩
  | ok device =>
      obtain ⟨unit, hAttached, hHold⟩ := hOnly.owned _ rfl
      exact .inl ⟨unit, device, hAttached, rfl, congrArg Hold.unit? hHold,
        congrArg Hold.isOpen hHold⟩

/-- Of two bridges over the same kind of device, one is refused for its port, after the device below
it has been made; the other one keeps that device. -/
theorem make_drops_or_owns :
    let workshop : Workshop := ⟨{}, Catalogue.host {}, none⟩
    let run (type : String) := (workshop.make "/dev/sdx" type).run (delivering {}) ()
    workshop.host.MakesTransports ∧
      (exchanges (run "usbjmicron,7").events = [⟨.attach, (0 : Nat)⟩] ∧
        ∃ failure, (run "usbjmicron,7").value =
          some (.error failure, { workshop with failure := some failure })) ∧
      ∃ device, (run "usbjmicron,1").value = some (.ok device, workshop.forget) ∧
        device.unit? = some 0 ∧ device.isOpen = false := by
  intro workshop run
  have hHost : workshop.host.MakesTransports := makesTransports_plain
  have hMake (type : String) :=
    (make_leaks_nothing hHost "/dev/sdx" type).of_run (delivering {}) ()
  refine ⟨hHost, ⟨rfl, ?_⟩, ?_⟩
  · obtain ⟨_, hValue, -, ⟨_, device, -, rfl, -⟩ | ⟨failure, rfl⟩⟩ := hMake "usbjmicron,7"
    · cases hValue
    · exact ⟨failure, hValue⟩
  · obtain ⟨_, hValue, -, ⟨unit, device, hAttached, rfl, hUnit, hClosed⟩ | ⟨failure, rfl⟩⟩ :=
      hMake "usbjmicron,1"
    · have hFirst : exchanges (run "usbjmicron,1").events = [⟨.attach, (0 : Nat)⟩] := rfl
      cases hFirst.symm.trans hAttached
      exact ⟨device, hValue, hUnit, hClosed⟩
    · cases hValue

end Workshop

end Factory

end DriveBridge
