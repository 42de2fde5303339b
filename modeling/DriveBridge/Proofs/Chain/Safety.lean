import DriveBridge.Proofs.Ata.Safety
import DriveBridge.Proofs.Chain.NvmeDevice
import DriveBridge.Proofs.Chain.Operation
import DriveBridge.Proofs.Multiplexer.Routing

/-! Nothing that is asked of a chain breaks it, whatever the transport at its far end answers. Each
layer is safe because the layer below it is, down to the endpoint. -/
namespace DriveBridge.Chain

namespace ScsiDevice

variable (device : ScsiDevice)

theorem safe_connect : device.connect.Safe := device.ensures_connect.safe

theorem safe_answer (query : Scsi.Query) : (ScsiDevice.answer query device).Safe :=
  (device.ensures_answer query).safe

theorem safe_serve {α : Type} {session : Scsi.Session α} (safe : session.Safe) :
    (device.serve session).Safe :=
  safe.through (fun query device => device.safe_answer query) device

theorem safe_operate (query : Scsi.Query) : (device.operate query).Safe :=
  (device.safe_answer query).bind fun _ => Dialogue.safe_done _

end ScsiDevice

theorem SatLayer.safe_probe (layer : SatLayer) (inner : ScsiDevice) : (layer.probe inner).Safe := by
  have hInquiry : (Scsi.inquiry (Bytes.zeros 36)).Safe := by
    unfold Scsi.inquiry
    split
    · exact Dialogue.safe_done _
    · exact (Scsi.safe_sendChecked _ _).bind fun _ => Dialogue.safe_done _
  refine (inner.safe_serve hInquiry).bind fun ⟨⟨result, inquiry⟩, inner⟩ => ?_
  cases result with
  | error failure => exact inner.safe_disconnect.bind fun _ => Dialogue.safe_done _
  | ok _ => exact (Dialogue.safe_log _ _).bind fun _ => Dialogue.safe_done _

theorem SatLayer.safe_autodetect (layer : SatLayer) (inner : ScsiDevice) :
    (layer.autodetect inner).Safe := by
  refine inner.safe_connect.bind fun ⟨result, inner⟩ => ?_
  cases result with
  | error failure => exact Dialogue.safe_done _
  | ok _ =>
      dsimp only
      split
      · exact SatLayer.safe_probe _ _
      · exact Dialogue.safe_done _

namespace BridgeLayer

variable (layer : BridgeLayer) (setup : Ata.JMicron.Setup) (inner : ScsiDevice)

theorem safe_perform (query : Ata.Query) : (layer.perform query).Safe := by
  rw [layer.perform_eq]
  exact layer.translator.safe_perform _ _

theorem safe_readRegisters (address : UInt16) (buffer : Bytes) :
    (layer.readRegisters setup inner address buffer).Safe :=
  (inner.safe_serve (Ata.JMicron.safe_readRegisters _ _ _)).bind fun _ => Dialogue.safe_done _

theorem safe_readTaskFile (registers : Ata.RegisterFile Ata.OutputRegister) :
    (layer.readTaskFile setup inner registers).Safe :=
  (inner.safe_serve (Ata.JMicron.safe_readTaskFile _ _)).bind fun _ => Dialogue.safe_done _

theorem safe_findPort : (layer.findPort setup inner).Safe := by
  unfold findPort
  split
  · exact Dialogue.safe_done _
  · refine (inner.safe_serve (Ata.JMicron.safe_detectPort _)).bind fun ⟨detected, inner⟩ => ?_
    cases detected with
    | error failure => exact inner.safe_disconnect.bind fun _ => Dialogue.safe_done _
    | ok port => exact (Dialogue.safe_log _ _).bind fun _ => Dialogue.safe_done _

theorem safe_connect : (layer.connect inner).Safe := by
  refine inner.safe_connect.bind fun ⟨result, inner⟩ => ?_
  dsimp only
  split
  · exact Dialogue.safe_done _
  · exact safe_findPort _ _ _
  · exact Dialogue.safe_done _

end BridgeLayer

namespace AtaDevice

theorem safe_perform (device : AtaDevice) (query : Ata.Query) : (device.perform query).Safe := by
  induction device with
  | sat layer inner =>
      exact (inner.safe_serve (Ata.Sat.safe_perform _ _ _ _)).bind fun _ => Dialogue.safe_done _
  | bridge layer inner =>
      exact (inner.safe_serve (layer.safe_perform query)).bind fun _ => Dialogue.safe_done _
  | routed layer inner ih => exact ih.bind fun _ => Dialogue.safe_done _

theorem safe_route (device : AtaDevice) (drive : UInt32) : (device.route drive).Safe := by
  have hRoute := (Multiplexer.safe_route drive).through
    (fun query (device : AtaDevice) => device.safe_perform query) device
  exact hRoute.bind fun _ => Dialogue.safe_done _

theorem safe_disconnect (device : AtaDevice) : device.disconnect.Safe := by
  induction device with
  | sat layer inner => exact inner.safe_disconnect.bind fun _ => Dialogue.safe_done _
  | bridge layer inner => exact inner.safe_disconnect.bind fun _ => Dialogue.safe_done _
  | routed layer inner ih => exact ih.bind fun _ => Dialogue.safe_done _

theorem safe_connect (device : AtaDevice) : device.connect.Safe := by
  induction device with
  | sat layer inner => exact inner.safe_connect.bind fun _ => Dialogue.safe_done _
  | bridge layer inner => exact (layer.safe_connect inner).bind fun _ => Dialogue.safe_done _
  | routed layer inner ih =>
      refine ih.bind fun ⟨opened, inner⟩ => ?_
      cases opened with
      | error failure => exact Dialogue.safe_done _
      | ok _ =>
          refine (inner.safe_route layer.drive).bind fun ⟨result, inner⟩ => ?_
          cases result with
          | ok _ => exact Dialogue.safe_done _
          | error failure => exact inner.safe_disconnect.bind fun _ => Dialogue.safe_done _

theorem safe_operate (device : AtaDevice) (operation : Operation) :
    (device.operate operation).Safe := by
  unfold operate
  split
  · exact ScsiDevice.safe_operate _ _
  · split
    · exact (BridgeLayer.safe_readRegisters _ _ _ _ _).bind fun _ => Dialogue.safe_done _
    · exact Dialogue.safe_done _
  · split
    · exact (BridgeLayer.safe_readTaskFile _ _ _ _).bind fun _ => Dialogue.safe_done _
    · exact Dialogue.safe_done _
  · exact (safe_perform _ _).bind fun _ => Dialogue.safe_done _
  · exact Dialogue.safe_done _

end AtaDevice

namespace Slot

variable (slot : Slot ScsiDevice)

theorem safe_connect : slot.connect.Safe := by
  cases slot with
  | holding device => exact device.safe_connect.bind fun _ => Dialogue.safe_done _
  | released => exact Dialogue.safe_done _

theorem safe_disconnect : slot.disconnect.Safe := by
  cases slot with
  | holding device => exact device.safe_disconnect.bind fun _ => Dialogue.safe_done _
  | released => exact Dialogue.safe_done _

theorem answers_any : Slot.Answers (fun _ => True) (fun _ => True) (fun _ => True) := by
  intro query slot _
  have hSafe : (Slot.scsiAnswer query slot).Safe := by
    cases slot with
    | holding device => exact (device.safe_answer query).bind fun _ => Dialogue.safe_done _
    | released => exact Dialogue.safe_done _
  exact hSafe.mono fun _ _ _ => ⟨fun _ _ => trivial, trivial, trivial⟩

end Slot

namespace NvmeDevice

variable (device : NvmeDevice)

theorem safe_connect : device.connect.Safe :=
  device.inner.safe_connect.bind fun _ => Dialogue.safe_done _

theorem safe_disconnect : device.disconnect.Safe :=
  device.inner.safe_disconnect.bind fun _ => Dialogue.safe_done _

theorem safe_perform (request : Nvme.Request) (completion : Nvme.Completion) :
    (device.perform request completion).Safe :=
  (ensures_perform Slot.answers_any trivial request completion).safe

theorem safe_handOver (length : Ata.Sat.Length) : (device.handOver length).Safe := by
  unfold handOver
  split
  · exact Dialogue.safe_done _
  · exact (Dialogue.safe_log _ _).bind fun _ => Dialogue.safe_done _

theorem safe_examine : device.examine.Safe := by
  refine ensures_examine (device.safe_connect.mono fun _ _ _ => ⟨fun _ => trivial, ?_⟩)
  intro length _ _
  refine (ensures_identify Slot.answers_any trivial).mono fun _ _ _ => ?_
  exact ⟨fun _ => trivial, fun _ => trivial⟩

theorem safe_autodetect : device.autodetect.Safe := by
  refine device.safe_examine.bind fun ⟨fallback, device⟩ => ?_
  cases fallback with
  | none => exact Dialogue.safe_done _
  | some length => exact device.safe_handOver length

end NvmeDevice

namespace Endpoint

variable (endpoint : Endpoint)

theorem safe_connect : endpoint.connect.Safe := by
  intro reply
  cases reply <;> exact trivial

theorem safe_disconnect : endpoint.disconnect.Safe := by
  intro reply
  cases reply <;> exact trivial

end Endpoint

namespace Device

variable (device : Device)

theorem safe_connect : device.connect.Safe := by
  cases device with
  | endpoint e => exact e.safe_connect.bind fun _ => Dialogue.safe_done _
  | ata device => exact device.safe_connect.bind fun _ => Dialogue.safe_done _
  | nvme device => exact device.safe_connect.bind fun _ => Dialogue.safe_done _

theorem safe_disconnect : device.disconnect.Safe := by
  cases device with
  | endpoint e => exact e.safe_disconnect.bind fun _ => Dialogue.safe_done _
  | ata device => exact device.safe_disconnect.bind fun _ => Dialogue.safe_done _
  | nvme device => exact device.safe_disconnect.bind fun _ => Dialogue.safe_done _

theorem safe_openPlainly : device.openPlainly.Safe := by
  refine device.safe_connect.bind fun ⟨result, device⟩ => ?_
  cases result with
  | ok _ => exact Dialogue.safe_done _
  | error failure => exact (Dialogue.safe_log _ _).bind fun _ => Dialogue.safe_done _

theorem safe_autodetect : device.autodetect.Safe := by
  unfold autodetect
  split
  · exact (SatLayer.safe_autodetect _ _).bind fun _ => Dialogue.safe_done _
  · exact (NvmeDevice.safe_autodetect _).bind fun _ => Dialogue.safe_done _
  · exact (safe_openPlainly _).bind fun _ => Dialogue.safe_done _

theorem safe_operate (operation : Operation) : (device.operate operation).Safe := by
  unfold operate
  split
  · exact device.safe_connect.bind fun _ => Dialogue.safe_done _
  · exact device.safe_disconnect.bind fun _ => Dialogue.safe_done _
  · exact device.safe_autodetect.bind fun _ => Dialogue.safe_done _
  · split
    · exact ScsiDevice.safe_operate _ _
    · exact AtaDevice.safe_operate _ _
    · exact (NvmeDevice.safe_perform _ _ _).bind fun _ => Dialogue.safe_done _
    · exact Dialogue.safe_done _

theorem safe_operateAll (operations : List Operation) : (device.operateAll operations).Safe := by
  refine (@ensures_operateAll (fun _ => True) (fun _ => True) (fun _ => True) ?_ device trivial
    operations).safe
  intro device operation _
  exact (device.safe_operate operation).mono fun _ _ _ => ⟨fun _ _ => trivial, trivial, trivial⟩

theorem safe_useAll (devices : List Device) (uses : List Use) : (useAll devices uses).Safe := by
  induction uses generalizing devices with
  | nil => exact Dialogue.safe_done _
  | cons use later ih =>
      unfold useAll
      split
      · exact ih devices
      · next device _ => exact (device.safe_operate use.operation).bind fun _ => ih _

/-- No history of a device ends in a breach: whatever is asked of it, in whatever state, and
whatever the transport answers, no byte is read past the end of a buffer and no size outgrows the
machine word, that of a request's sector count included. -/
theorem every_history_ends {State : Type} (operations : List Operation)
    (party : (query : Wire.Query) → State → Wire.Answer query × State) (state : State) :
    ((device.operateAll operations).run party state).value ≠ none ∧
      ∀ request : Ata.Request, request.sectorCount * Ata.sectorSize < Checked.sizeLimit := by
  constructor
  · obtain ⟨value, hValue, -⟩ := (device.safe_operateAll operations).of_run party state
    rw [hValue]
    exact Option.some_ne_none value
  · exact Ata.Request.sectorCount_mul_lt

end Device

end DriveBridge.Chain
