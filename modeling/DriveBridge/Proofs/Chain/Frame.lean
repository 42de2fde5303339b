import DriveBridge.Proofs.Chain.Operation
import DriveBridge.Proofs.Dialogue.KeepsTo

/-! What an operation leaves of a device as it was. A device stays what kind it is, and all that
shows of it from the outside stays, except for the failure that it keeps. Only the probe of a SAT
device may alter more. -/
namespace DriveBridge.Chain

open Dialogue

/-- How a device is made, which it stays for good. -/
inductive Kind where
  | endpoint | sat | bridge | routed | nvme
  deriving DecidableEq

def Device.kind : Device → Kind
  | endpoint _ => .endpoint
  | ata (.sat _ _) => .sat
  | ata (.bridge _ _) => .bridge
  | ata (.routed _ _) => .routed
  | nvme _ => .nvme

/-- From the outside a device is what it was, but for the failure that it keeps. -/
structure Unaltered (before after : Device) : Prop where
  kind : after.kind = before.kind
  profile : after.profile.forget = before.profile.forget

theorem Unaltered.trans {before middle after : Device} (first : Unaltered before middle)
    (second : Unaltered middle after) : Unaltered before after where
  kind := second.kind.trans first.kind
  profile := second.profile.trans first.profile

theorem Unaltered.names {before after : Device} (unaltered : Unaltered before after) :
    after.profile.names = before.profile.names := by
  have hNames : after.profile.forget.names = before.profile.forget.names :=
    congrArg Profile.names unaltered.profile
  exact hNames

theorem Unaltered.timeout {before after : Device} (unaltered : Unaltered before after) :
    after.profile.timeout = before.profile.timeout := by
  have hTimeout : after.profile.forget.timeout = before.profile.forget.timeout :=
    congrArg Profile.timeout unaltered.profile
  exact hTimeout

/-- Of a SAT device only its kind is sure to last, since a probe may alter what it shows. -/
structure Lasts (before after : Device) : Prop where
  kind : after.kind = before.kind
  protocols : before.kind ≠ .sat → after.profile.protocols = before.profile.protocols

theorem Unaltered.lasts {before after : Device} (unaltered : Unaltered before after) :
    Lasts before after where
  kind := unaltered.kind
  protocols _ := by
    have hProtocols : after.profile.forget.protocols = before.profile.forget.protocols :=
      congrArg Profile.protocols unaltered.profile
    exact hProtocols

@[simp] theorem ScsiDevice.profile_mapProfile (f : Profile → Profile) (device : ScsiDevice) :
    (device.mapProfile f).profile = f device.profile := by
  cases device <;> rfl

@[simp] theorem ScsiDevice.profile_toDevice (device : ScsiDevice) :
    device.toDevice.profile = device.profile := by
  cases device <;> rfl

namespace Endpoint

variable (endpoint : Endpoint)

theorem forget_suffer (fault : Fault) :
    (endpoint.suffer fault).profile.forget = endpoint.profile.forget := by
  unfold suffer
  split <;> rfl

theorem unaltered_connect : endpoint.connect.EndsIn fun outcome =>
    Unaltered (.endpoint endpoint) (.endpoint outcome.2) := by
  refine ⟨trivial, fun reply => ?_⟩
  cases reply with
  | ok _ => exact ⟨rfl, rfl⟩
  | error fault => exact ⟨rfl, endpoint.forget_suffer fault⟩

theorem unaltered_disconnect : endpoint.disconnect.EndsIn fun outcome =>
    Unaltered (.endpoint endpoint) (.endpoint outcome.2) := by
  refine ⟨trivial, fun reply => ?_⟩
  cases reply with
  | ok _ => exact ⟨rfl, rfl⟩
  | error fault => exact ⟨rfl, endpoint.forget_suffer fault⟩

end Endpoint

namespace ScsiDevice

variable (device : ScsiDevice)

theorem unaltered_execute (command : Scsi.Command) :
    (device.execute command).EndsIn fun outcome =>
      Unaltered device.toDevice outcome.2.toDevice := by
  cases device with
  | endpoint e =>
      refine ⟨trivial, fun reply => ?_⟩
      cases reply with
      | ok _ => exact ⟨rfl, rfl⟩
      | error fault => exact ⟨rfl, e.forget_suffer fault⟩
  | sat layer inner => exact endsIn_bind fun _ => ⟨rfl, Profile.forget_settle _ _⟩

theorem unaltered_record (failure : Failure) :
    Unaltered device.toDevice (device.mapProfile (·.record failure)).toDevice := by
  cases device <;> exact ⟨rfl, rfl⟩

theorem unaltered_answer (query : Scsi.Query) :
    (ScsiDevice.answer query device).EndsIn fun outcome =>
      Unaltered device.toDevice outcome.2.toDevice := by
  unfold ScsiDevice.answer
  split
  · exact device.unaltered_execute _
  · refine (device.unaltered_execute _).bind fun ⟨answer, after⟩ hAfter => ?_
    dsimp only
    split
    · exact endsIn_bind fun _ => hAfter
    · refine endsIn_bind fun verdict => ?_
      split
      · refine endsIn_bind fun _ => ?_
        exact hAfter.trans (after.unaltered_record _)
      · exact hAfter

theorem unaltered_operate (query : Scsi.Query) : (device.operate query).EndsIn fun outcome =>
    Unaltered device.toDevice outcome.2 :=
  (device.unaltered_answer query).bind fun _ hAfter => hAfter

theorem unaltered_connect : device.connect.EndsIn fun outcome =>
    Unaltered device.toDevice outcome.2.toDevice := by
  cases device with
  | endpoint e => exact e.unaltered_connect.bind fun _ hAfter => hAfter
  | sat layer inner => exact endsIn_bind fun _ => ⟨rfl, Profile.forget_settle _ _⟩

end ScsiDevice

namespace BridgeLayer

variable (layer : BridgeLayer) (inner : ScsiDevice)

theorem forget_settle (result : Except Failure Unit) :
    (layer.settle result).profile.forget = layer.profile.forget := by
  obtain ⟨profile, encoding⟩ := layer
  cases encoding <;> cases result <;> rfl

theorem forget_readRegisters (setup : Ata.JMicron.Setup) (address : UInt16) (buffer : Bytes) :
    (layer.readRegisters setup inner address buffer).EndsIn fun outcome =>
      outcome.2.1.profile.forget = layer.profile.forget :=
  endsIn_bind fun _ => Profile.forget_settle _ _

theorem forget_readTaskFile (setup : Ata.JMicron.Setup)
    (registers : Ata.RegisterFile Ata.OutputRegister) :
    (layer.readTaskFile setup inner registers).EndsIn fun outcome =>
      outcome.2.1.profile.forget = layer.profile.forget :=
  endsIn_bind fun _ => Profile.forget_settle _ _

theorem forget_connect : (layer.connect inner).EndsIn fun outcome =>
    outcome.2.1.profile.forget = layer.profile.forget := by
  refine endsIn_bind fun ⟨result, opened⟩ => ?_
  dsimp only
  split
  · exact rfl
  · unfold findPort
    split
    · exact rfl
    · refine endsIn_bind fun ⟨detected, after⟩ => ?_
      cases detected with
      | error failure => exact endsIn_bind fun _ => rfl
      | ok port => exact endsIn_bind fun _ => rfl
  · exact rfl

end BridgeLayer

namespace AtaDevice

variable (device : AtaDevice)

theorem unaltered_connect : device.connect.EndsIn fun outcome =>
    Unaltered (.ata device) (.ata outcome.2) := by
  cases device with
  | sat layer inner => exact endsIn_bind fun _ => ⟨rfl, Profile.forget_settle _ _⟩
  | bridge layer inner => exact (layer.forget_connect inner).bind fun _ hForget => ⟨rfl, hForget⟩
  | routed layer inner =>
      refine endsIn_bind fun ⟨opened, inner⟩ => ?_
      cases opened with
      | error failure => exact ⟨rfl, rfl⟩
      | ok _ =>
          refine endsIn_bind fun ⟨result, inner⟩ => ?_
          cases result with
          | ok _ => exact ⟨rfl, rfl⟩
          | error failure => exact endsIn_bind fun _ => ⟨rfl, rfl⟩

theorem unaltered_disconnect : device.disconnect.EndsIn fun outcome =>
    Unaltered (.ata device) (.ata outcome.2) := by
  cases device <;> exact endsIn_bind fun _ => ⟨rfl, Profile.forget_settle _ _⟩

theorem unaltered_perform (query : Ata.Query) : (device.perform query).EndsIn fun outcome =>
    Unaltered (.ata device) (.ata outcome.2) := by
  cases device with
  | bridge layer inner => exact endsIn_bind fun _ => ⟨rfl, layer.forget_settle _⟩
  | sat layer inner | routed layer inner =>
      exact endsIn_bind fun _ => ⟨rfl, Profile.forget_settle _ _⟩

theorem unaltered_operate (operation : Operation) : (device.operate operation).EndsIn fun outcome =>
    Unaltered (.ata device) outcome.2 := by
  unfold operate
  split
  · exact (ScsiDevice.sat _ _).unaltered_operate _
  · split
    · exact (BridgeLayer.forget_readRegisters _ _ _ _ _).bind fun _ hForget => ⟨rfl, hForget⟩
    · exact ⟨rfl, rfl⟩
  · split
    · exact (BridgeLayer.forget_readTaskFile _ _ _ _).bind fun _ hForget => ⟨rfl, hForget⟩
    · exact ⟨rfl, rfl⟩
  · exact (unaltered_perform _ _).bind fun _ hAfter => hAfter
  · exact ⟨rfl, rfl⟩

end AtaDevice

namespace NvmeDevice

variable (device : NvmeDevice)

theorem unaltered_connect : device.connect.EndsIn fun outcome =>
    Unaltered (.nvme device) (.nvme outcome.2) :=
  endsIn_bind fun _ => ⟨rfl, Profile.forget_settle _ _⟩

theorem unaltered_disconnect : device.disconnect.EndsIn fun outcome =>
    Unaltered (.nvme device) (.nvme outcome.2) :=
  endsIn_bind fun _ => ⟨rfl, Profile.forget_settle _ _⟩

theorem unaltered_perform (request : Nvme.Request) (completion : Nvme.Completion) :
    (device.perform request completion).EndsIn fun outcome =>
      Unaltered (.nvme device) (.nvme outcome.2) :=
  endsIn_bind fun _ => ⟨rfl, Profile.forget_settle _ _⟩

theorem unaltered_identify : device.identify.EndsIn fun outcome =>
    Unaltered (.nvme device) (.nvme outcome.2) := by
  refine (device.unaltered_perform _ _).bind fun ⟨answer, after⟩ hAfter => ?_
  dsimp only
  split
  · exact hAfter
  · exact endsIn_bind fun _ => hAfter

theorem unaltered_examine : device.examine.EndsIn fun outcome =>
    Unaltered (.nvme device) (.nvme outcome.2) := by
  refine device.unaltered_connect.bind fun ⟨result, opened⟩ hOpened => ?_
  dsimp only
  split
  · refine opened.unaltered_identify.bind fun ⟨identified, after⟩ hIdentified => ?_
    have hAfter := hOpened.trans hIdentified
    dsimp only
    split
    · exact hAfter
    · split
      · exact hAfter
      · exact endsIn_bind fun _ => hAfter
  · exact hOpened

theorem unaltered_autodetect : device.autodetect.EndsIn fun outcome =>
    Unaltered (.nvme device) (.nvme outcome.2) := by
  refine device.unaltered_examine.bind fun ⟨fallback, after⟩ hAfter => ?_
  cases fallback with
  | none => exact hAfter
  | some length =>
      dsimp only
      unfold handOver
      split
      · exact hAfter
      · exact endsIn_bind fun _ => ⟨hAfter.kind, hAfter.profile⟩

end NvmeDevice

namespace Device

variable (device : Device)

theorem unaltered_connect : device.connect.EndsIn fun outcome => Unaltered device outcome.2 := by
  cases device with
  | endpoint e => exact e.unaltered_connect.bind fun _ hAfter => hAfter
  | ata device => exact device.unaltered_connect.bind fun _ hAfter => hAfter
  | nvme device => exact device.unaltered_connect.bind fun _ hAfter => hAfter

theorem unaltered_disconnect :
    device.disconnect.EndsIn fun outcome => Unaltered device outcome.2 := by
  cases device with
  | endpoint e => exact e.unaltered_disconnect.bind fun _ hAfter => hAfter
  | ata device => exact device.unaltered_disconnect.bind fun _ hAfter => hAfter
  | nvme device => exact device.unaltered_disconnect.bind fun _ hAfter => hAfter

theorem kind_mapProfile (f : Profile → Profile) : (device.mapProfile f).kind = device.kind := by
  rcases device with _ | (_ | _ | _) | _ <;> rfl

theorem profile_mapProfile (f : Profile → Profile) :
    (device.mapProfile f).profile = f device.profile := by
  rcases device with _ | (_ | _ | _) | _ <;> rfl

theorem unaltered_openPlainly : device.openPlainly.EndsIn (Unaltered device) := by
  refine device.unaltered_connect.bind fun ⟨result, opened⟩ hOpened => ?_
  cases result with
  | ok _ => exact hOpened
  | error failure =>
      refine endsIn_bind fun _ => hOpened.trans ⟨kind_mapProfile _ _, ?_⟩
      rw [profile_mapProfile]
      rfl

theorem lasts_autodetect : device.autodetect.EndsIn fun outcome => Lasts device outcome.2 := by
  unfold autodetect
  split
  · exact endsIn_bind fun _ => ⟨rfl, fun hOther => (hOther rfl).elim⟩
  · exact (NvmeDevice.unaltered_autodetect _).bind fun _ hAfter => hAfter.lasts
  · exact (unaltered_openPlainly _).bind fun _ hAfter => hAfter.lasts

theorem lasts_operate (operation : Operation) :
    (device.operate operation).EndsIn fun outcome => Lasts device outcome.2 := by
  unfold operate
  split
  · exact device.unaltered_connect.bind fun _ hAfter => hAfter.lasts
  · exact device.unaltered_disconnect.bind fun _ hAfter => hAfter.lasts
  · exact device.lasts_autodetect.bind fun _ hAfter => hAfter
  · split
    · exact ((ScsiDevice.endpoint _).unaltered_operate _).mono fun _ hAfter => hAfter.lasts
    · exact (AtaDevice.unaltered_operate _ _).mono fun _ hAfter => hAfter.lasts
    · exact (NvmeDevice.unaltered_perform _ _ _).bind fun _ hAfter => hAfter.lasts
    · exact ⟨rfl, fun _ => rfl⟩

end Device

end DriveBridge.Chain
