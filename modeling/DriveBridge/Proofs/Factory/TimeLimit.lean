import DriveBridge.Proofs.Chain.TimeLimit
import DriveBridge.Proofs.Factory.Workshop

/-! How the configured time limit comes to the wire. It is set on the device that the host provides,
every translator takes it over from the device that it is put on, and nothing that is asked of the
chain changes it. -/
namespace DriveBridge.Factory

open Chain Dialogue
open Workshop (isAtaChain)

/-- A device that is made, if one is, has the property. -/
def MakesOnly {α : Type} (property : α → Prop) (result : Except Failure α) : Prop :=
  ∀ device, result = .ok device → property device

section MakesOnly

variable {α β : Type} {property : α → Prop} {other : β → Prop}

theorem makesOnly_error {failure : Failure} : MakesOnly property (.error failure) := nofun

theorem makesOnly_ok {device : α} (hProperty : property device) :
    MakesOnly property (.ok device) := by
  rintro _ ⟨⟩
  exact hProperty

theorem MakesOnly.map {result : Except Failure α} {f : α → β} (makes : MakesOnly property result)
    (h : ∀ device, property device → other (f device)) : MakesOnly other (result.map f) := by
  cases result with
  | error failure => exact makesOnly_error
  | ok device => exact makesOnly_ok (h device (makes device rfl))

/-- What is made of a device has a property, if the device that it is made of has one that sees to
it. -/
theorem endsIn_bind_made {first : Wire (Except Failure α)}
    {next : Except Failure α → Wire (Except Failure β)}
    (makes : first.EndsIn (MakesOnly property))
    (hError : ∀ failure, (next (.error failure)).EndsIn (MakesOnly other))
    (hOk : ∀ device, property device → (next (.ok device)).EndsIn (MakesOnly other)) :
    (first.bind next).EndsIn (MakesOnly other) := by
  refine makes.bind fun result hMakes => ?_
  cases result with
  | error failure => exact hError failure
  | ok device => exact hOk device (hMakes device rfl)

end MakesOnly

namespace Workshop

variable (workshop : Workshop) (name : String)

/-- Whatever limit the device of the host came with, it is given the configured one. -/
theorem scsiBase_limit (type : String) :
    (workshop.scsiBase name type).EndsIn
      (MakesOnly fun device => device.profile.timeout = workshop.settings.timeout) := by
  refine KeepsTo.bind (asks_any _) fun result _ => ?_
  have hAny : MakesOnly (fun _ => True) result := fun _ _ => trivial
  exact hAny.map fun device _ => by cases device <;> rfl

theorem below_limit (outer base : List Char) :
    (workshop.below name outer base).EndsIn
      (MakesOnly fun device => device.profile.timeout = workshop.settings.timeout) := by
  refine endsIn_bind_made (workshop.scsiBase_limit name _) (fun _ => makesOnly_error) ?_
  intro device hDevice
  dsimp only
  split
  · exact makesOnly_ok hDevice
  · exact makesOnly_error

theorem refuse_limit {α : Type} {property : α → Prop} (failure : Failure) :
    (refuse failure : Wire (Except Failure α)).EndsIn (MakesOnly property) :=
  KeepsTo.bind (asks_log _ _) fun _ _ => makesOnly_error

theorem overScsi_limit {limit : UInt32} {inner : ScsiDevice}
    (hInner : inner.profile.timeout = limit) (type : List Char) :
    (workshop.overScsi type inner).EndsIn (MakesOnly (AtaDevice.Under limit)) := by
  unfold overScsi
  dsimp only
  split
  · exact refuse_limit _
  · exact makesOnly_ok (Prod.ext hInner hInner)
  · exact makesOnly_ok (Prod.ext hInner hInner)

theorem overScsiNvme_limit {limit : UInt32} {inner : ScsiDevice}
    (hInner : inner.profile.timeout = limit) (type : List Char) :
    (workshop.overScsiNvme type inner).EndsIn
      (MakesOnly fun device => device.inner.Under limit) := by
  unfold overScsiNvme
  split
  · exact refuse_limit _
  · exact makesOnly_ok hInner

theorem overAta_limit {limit : UInt32} {inner : AtaDevice} (hInner : inner.Under limit)
    (type : List Char) : (overAta type inner).EndsIn (MakesOnly (AtaDevice.Under limit)) := by
  unfold overAta
  split
  · exact refuse_limit _
  · exact makesOnly_ok hInner

theorem ataChain_limit (type : List Char) :
    (workshop.ataChain name type).EndsIn
      (MakesOnly (AtaDevice.Under workshop.settings.timeout)) :=
  endsIn_bind_made (workshop.below_limit name _ _) (fun _ => makesOnly_error) fun _ hInner =>
    workshop.overScsi_limit hInner _

theorem nvmeChain_limit (type : List Char) :
    (workshop.nvmeChain name type).EndsIn
      (MakesOnly fun device => device.inner.Under workshop.settings.timeout) :=
  endsIn_bind_made (workshop.below_limit name _ _) (fun _ => makesOnly_error) fun _ hInner =>
    workshop.overScsiNvme_limit hInner _

theorem routedChain_limit {type : List Char} (hBase : isAtaChain (splitBase type).2 = true) :
    (workshop.routedChain name type).EndsIn
      (MakesOnly (AtaDevice.Under workshop.settings.timeout)) := by
  have hRest : (if (splitBase type).2.isEmpty then "ata".toList else (splitBase type).2) =
      (splitBase type).2 := by
    refine if_neg fun hEmpty => ?_
    rw [List.isEmpty_iff.mp hEmpty] at hBase
    cases hBase
  unfold routedChain ataBelow
  dsimp only
  rw [hRest, if_pos hBase]
  refine endsIn_bind_made (workshop.ataChain_limit name _) (fun _ => makesOnly_error) ?_
  intro inner hInner
  dsimp only
  split
  · exact overAta_limit hInner _
  · exact makesOnly_error

end Workshop

/-- The type names a translator to SCSI, or a multiplexer that hangs on one. -/
def OverTransport (type : List Char) : Prop :=
  "sat".toList <+: type ∨ "usb".toList <+: type ∨ "snt".toList <+: type ∨
    "intelliprop".toList <+: type ∧ isAtaChain (splitBase type).2 = true

theorem OverTransport.not_plain {type : List Char} (hType : OverTransport type) :
    type ≠ [] ∧ type ≠ "ata".toList ∧ type ≠ "scsi".toList ∧ type ≠ "nvme".toList ∧
      startsWith "nvme,".toList type = false := by
  rcases hType with ⟨_, rfl⟩ | ⟨_, rfl⟩ | ⟨_, rfl⟩ | ⟨⟨_, rfl⟩, -⟩ <;>
    exact ⟨nofun, nofun, nofun, nofun, rfl⟩

theorem OverTransport.base_of_routed {type : List Char} (hType : OverTransport type)
    (hRouted : startsWith "intelliprop".toList type = true) :
    isAtaChain (splitBase type).2 = true := by
  rcases hType with ⟨_, rfl⟩ | ⟨_, rfl⟩ | ⟨_, rfl⟩ | ⟨-, hBase⟩
  · cases hRouted
  · cases hRouted
  · cases hRouted
  · exact hBase

namespace Workshop

variable (workshop : Workshop) (name : String)

theorem chain_limit {type : String} (hType : OverTransport type.toList) :
    (workshop.chain name type).EndsIn
      (MakesOnly (Device.Under workshop.settings.timeout)) := by
  obtain ⟨-, hAta, hScsi, hNvme, hNsid⟩ := hType.not_plain
  have hNotNvme : ¬ (type = "nvme" ∨ startsWith "nvme,".toList type.toList = true) := by
    rintro (rfl | hStart)
    · exact hNvme rfl
    · cases hNsid.symm.trans hStart
  unfold chain
  rw [if_neg (ne_of_apply_ne _ hAta), if_neg (ne_of_apply_ne _ hScsi), if_neg hNotNvme]
  split
  · exact (workshop.ataChain_limit name _).bind fun _ hMakes => hMakes.map fun _ hUnder => hUnder
  · split
    · exact (workshop.nvmeChain_limit name _).bind fun _ hMakes => hMakes.map fun _ hUnder => hUnder
    · split
      · next hRouted =>
        exact (workshop.routedChain_limit name (hType.base_of_routed hRouted)).bind fun _ hMakes =>
          hMakes.map fun _ hUnder => hUnder
      · exact makesOnly_error

variable {workshop name}

theorem make_limit {type : String}
    (hCustom : (workshop.host.custom name type).EndsIn fun claimed => claimed = none)
    (hType : OverTransport type.toList) :
    (workshop.make name type).EndsIn fun outcome =>
      MakesOnly (Device.Under workshop.settings.timeout) outcome.1 := by
  have hNonempty : ¬ type.isEmpty = true := by
    intro hEmpty
    rw [String.isEmpty_iff.mp hEmpty] at hType
    exact hType.not_plain.1 rfl
  have hDevice : (workshop.forget.device name type).EndsIn
      (MakesOnly (Device.Under workshop.settings.timeout)) := by
    unfold device
    rw [if_neg hNonempty]
    refine KeepsTo.bind hCustom fun claimed hNone => ?_
    rw [hNone]
    exact workshop.forget.chain_limit name hType
  exact hDevice.bind fun _ hMakes => hMakes

/-- Every command that a chain sends once it is made is under the configured time limit. It makes no
difference what is asked of the devices, whether somebody goes on with one that was replaced, or
what the transport answers. -/
theorem configured_limit_on_wire {type : String}
    (hCustom : (workshop.host.custom name type).EndsIn fun claimed => claimed = none)
    (hType : OverTransport type.toList) {making : List Chain.Exchange} {device : Device}
    {after : Workshop} (made : (workshop.make name type).Path making (.ok device, after))
    {uses : List Use} (hUses : ∀ use ∈ uses, ∀ query, use.operation ≠ .scsi query) :
    (useAll [device] uses).Ensures fun below _ =>
      ∀ command ∈ commands below, command.timeout = workshop.settings.timeout := by
  have hUnder := (make_limit hCustom hType).of_path made device rfl
  have hKeeps := keepsTo_useAll (List.forall_mem_singleton.mpr hUnder) hUses
  exact (hKeeps.ensures (Device.safe_useAll _ uses)).mono fun below _ hWithin =>
    timeout_of_mem_commands hWithin.1

/-- A workshop of the plainest host, with a time limit of its own. -/
def hurried : Workshop := { settings := { timeout := 20 }, host := Catalogue.host {} }

/-- What it makes of a bridge to an NVMe drive that may have none. -/
def hurriedBridge : Device :=
  let endpoint := Endpoint.new "/dev/sdx" 0
  .nvme (.atop (.endpoint { endpoint with profile := endpoint.profile.setTimeout 20 })
    "sntasmedia/sat" .asmedia Nvme.broadcast (some .long))

/-- A device is opened, and then a request goes to what has replaced it. -/
def openAndAsk : List Use := [⟨0, .autodetect⟩, ⟨1, .ata { request := {} }⟩]

/-- The bridge turns out to have no NVMe drive. What it is asked for its identity by is under the
configured limit, and so is the command of the SAT device that replaces it. -/
theorem replacement_under_configured :
    let run := (useAll [hurriedBridge] openAndAsk).run (delivering {}) ()
    (∃ making, (hurried.make "/dev/sdx" "sntasmedia/sat").Path making
        (.ok hurriedBridge, hurried)) ∧
      (commands (exchanges run.events)).map Scsi.Command.timeout = [20, 20] ∧
        ∀ command ∈ commands (exchanges run.events), command.timeout = 20 := by
  intro run
  have hMade : ((hurried.make "/dev/sdx" "sntasmedia/sat").run (delivering {}) ()).value =
      some (.ok hurriedBridge, hurried) := rfl
  have made := path_of_run _ _ _ hMade
  refine ⟨⟨_, made⟩, by decide +kernel, ?_⟩
  have hType : OverTransport "sntasmedia/sat".toList := .inr (.inr (.inl ⟨_, rfl⟩))
  have hCustom : (hurried.host.custom "/dev/sdx" "sntasmedia/sat").EndsIn
    fun claimed => claimed = none := rfl
  have hUses : ∀ use ∈ openAndAsk, ∀ query, use.operation ≠ .scsi query :=
    List.forall_mem_cons.mpr ⟨nofun, List.forall_mem_singleton.mpr nofun⟩
  obtain ⟨_, -, hLimits⟩ := (configured_limit_on_wire hCustom hType made hUses).of_run
    (delivering {}) ()
  exact hLimits

end Workshop

end DriveBridge.Factory
