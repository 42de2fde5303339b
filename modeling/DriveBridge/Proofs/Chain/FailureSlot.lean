import DriveBridge.Proofs.Chain.Frame
import DriveBridge.Proofs.Chain.Safety

/-! Where failures are kept. A device keeps what its last operation reported, whatever the devices
below it kept, and whatever closing them again reported on the way out. -/
namespace DriveBridge.Chain

/-- The profile after an operation carries the failure of its result, if it has one, and the
failure from before otherwise. -/
def Settles {α : Type} (before : Profile) (result : Except Failure α) (after : Profile) : Prop :=
  after.failure = (before.settle result).failure

section Layers

variable (layer : SatLayer) (inner : ScsiDevice)

theorem SatLayer.settles_execute (command : Scsi.Command) :
    ((ScsiDevice.sat layer inner).execute command).Ensures fun _ outcome =>
      Settles layer.profile outcome.1.result outcome.2.profile :=
  (inner.ensures_execute command).bind fun _ _ _ => rfl

/-- A SAT device keeps the failures of the SCSI commands that it forwards, those included that
come from sense data. -/
theorem SatLayer.settles_answer (query : Scsi.Query) :
    (ScsiDevice.answer query (.sat layer inner)).Ensures fun _ outcome =>
      Settles layer.profile outcome.1.result outcome.2.profile := by
  unfold ScsiDevice.answer
  split
  · exact layer.settles_execute inner _
  · refine (layer.settles_execute inner _).bind fun _ ⟨answer, after⟩ hSettled => ?_
    dsimp only at hSettled ⊢
    cases hResult : answer.result with
    | error failure => exact hSettled
    | ok _ =>
        simp only [answer.completion.readVerdict_eq, Dialogue.demand_some, Dialogue.bind_eq,
          Dialogue.done_bind]
        split
        · show (after.mapProfile _).profile.failure = some _
          rw [ScsiDevice.profile_mapProfile]
          rfl
        · exact hSettled

end Layers

namespace BridgeLayer

variable (layer : BridgeLayer) (setup : Ata.JMicron.Setup) (inner : ScsiDevice)

theorem settles_readRegisters (address : UInt16) (buffer : Bytes) :
    (layer.readRegisters setup inner address buffer).Ensures fun _ outcome =>
      Settles layer.profile outcome.1.1 outcome.2.1.profile :=
  (inner.safe_serve (Ata.JMicron.safe_readRegisters _ _ _)).ensures_bind fun _ => rfl

theorem settles_readTaskFile (registers : Ata.RegisterFile Ata.OutputRegister) :
    (layer.readTaskFile setup inner registers).Ensures fun _ outcome =>
      Settles layer.profile outcome.1.1 outcome.2.1.profile :=
  (inner.safe_serve (Ata.JMicron.safe_readTaskFile _ _)).ensures_bind fun _ => rfl

theorem settles_findPort : (layer.findPort setup inner).Ensures fun _ outcome =>
    Settles layer.profile outcome.1 outcome.2.1.profile := by
  unfold findPort
  split
  · exact rfl
  · refine (inner.safe_serve (Ata.JMicron.safe_detectPort _)).ensures_bind fun outcome => ?_
    obtain ⟨detected, after⟩ := outcome
    cases detected with
    | error failure => exact after.safe_disconnect.ensures_bind fun _ => rfl
    | ok port => exact rfl

theorem settles_connect : (layer.connect inner).Ensures fun _ outcome =>
    Settles layer.profile outcome.1 outcome.2.1.profile := by
  refine inner.safe_connect.ensures_bind fun ⟨result, after⟩ => ?_
  cases result with
  | error failure => exact rfl
  | ok _ =>
      dsimp only
      split
      · exact rfl
      · exact settles_findPort _ _ _
      · exact rfl

end BridgeLayer

namespace AtaDevice

theorem settles_disconnect (device : AtaDevice) : device.disconnect.Ensures fun _ outcome =>
    Settles device.profile outcome.1 outcome.2.profile := by
  cases device with
  | sat layer inner => exact inner.safe_disconnect.ensures_bind fun _ => rfl
  | bridge layer inner => exact inner.safe_disconnect.ensures_bind fun _ => rfl
  | routed layer inner => exact inner.safe_disconnect.ensures_bind fun _ => rfl

theorem settles_connect (device : AtaDevice) : device.connect.Ensures fun _ outcome =>
    Settles device.profile outcome.1 outcome.2.profile := by
  cases device with
  | sat layer inner => exact inner.safe_connect.ensures_bind fun _ => rfl
  | bridge layer inner =>
      exact (layer.settles_connect inner).bind fun _ ⟨result, layer, inner⟩ hSettled => hSettled
  | routed layer inner =>
      refine inner.safe_connect.ensures_bind fun ⟨opened, inner⟩ => ?_
      cases opened with
      | error failure => exact rfl
      | ok _ =>
          refine (inner.safe_route layer.drive).ensures_bind fun ⟨result, inner⟩ => ?_
          cases result with
          | ok _ => exact rfl
          | error failure => exact inner.safe_disconnect.ensures_bind fun _ => rfl

/-- The device knows a fixed table of operations, each of which begins with a clean slate. -/
def isCypress : AtaDevice → Bool
  | bridge ⟨_, .cypress _⟩ _ => true
  | _ => false

theorem settles_perform (device : AtaDevice) (query : Ata.Query) :
    (device.perform query).Ensures fun _ outcome =>
      outcome.2.profile =
        if device.isCypress then Ata.SmartOperation.settle outcome.1.result device.profile
        else device.profile.settle outcome.1.result := by
  cases device with
  | sat layer inner =>
      exact (inner.safe_serve (Ata.Sat.safe_perform _ _ _ _)).ensures_bind fun _ => rfl
  | bridge layer inner =>
      obtain ⟨profile, encoding⟩ := layer
      refine (inner.safe_serve (BridgeLayer.safe_perform _ query)).ensures_bind fun _ => ?_
      cases encoding <;> exact rfl
  | routed layer inner => exact (inner.safe_perform query).ensures_bind fun _ => rfl

end AtaDevice

namespace NvmeDevice

variable (device : NvmeDevice)

theorem settles_connect : device.connect.Ensures fun _ outcome =>
    Settles device.profile outcome.1 outcome.2.profile :=
  device.inner.safe_connect.ensures_bind fun _ => rfl

theorem settles_disconnect : device.disconnect.Ensures fun _ outcome =>
    Settles device.profile outcome.1 outcome.2.profile :=
  device.inner.safe_disconnect.ensures_bind fun _ => rfl

theorem settles_perform (request : Nvme.Request) (completion : Nvme.Completion) :
    (device.perform request completion).Ensures fun _ outcome =>
      Settles device.profile outcome.1.result outcome.2.profile := by
  refine (ensures_perform Slot.answers_any trivial request completion).mono ?_
  intro below outcome hOutcome
  rw [hOutcome.rest]
  exact rfl

end NvmeDevice

namespace Device

/-- The device turns what it is asked into something else. Only the host's own devices do not. -/
def isTranslator : Device → Bool
  | endpoint _ => false
  | ata _ | nvme _ => true

/-- A success of the operation leaves no failure behind. -/
def forgets : Device → Operation → Bool
  | ata device, .ata _ => device.isCypress
  | _, _ => false

end Device

/-- The failure that a device carries after an operation. -/
structure Step.KeepsFailure (step : Step) : Prop where
  error : ∀ failure, step.outcome = .finished (.error failure) →
    step.after.profile.failure = some failure
  ok : step.outcome = .finished (.ok ()) → step.after.profile.failure =
    if step.before.forgets step.operation then none else step.before.profile.failure

variable {before after : Device} {operation : Operation} {result : Except Failure Unit}

theorem Step.keepsFailure_of_settles (hForgets : before.forgets operation = false)
    (hSettles : Settles before.profile result after.profile) :
    KeepsFailure ⟨before, operation, .finished result, after⟩ where
  error := by
    rintro _ ⟨⟩
    exact hSettles
  ok := by
    rintro ⟨⟩
    rw [hForgets]
    exact hSettles

theorem Step.keepsFailure_of_unfinished {outcome : Outcome}
    (hOutcome : ∀ result, outcome ≠ .finished result) :
    KeepsFailure ⟨before, operation, outcome, after⟩ where
  error := fun _ hError => (hOutcome _ hError).elim
  ok := fun hOk => (hOutcome _ hOk).elim

theorem AtaDevice.keeps_ata (device : AtaDevice) (query : Ata.Query) :
    (device.perform query).Ensures fun _ outcome =>
      Step.KeepsFailure ⟨.ata device, .ata query, .finished outcome.1.result, .ata outcome.2⟩ := by
  refine (device.settles_perform query).mono ?_
  intro _ ⟨⟨result, registers, buffer⟩, after⟩ hProfile
  dsimp only at hProfile ⊢
  cases result with
  | error failure =>
      have hRecorded : after.profile = device.profile.record failure := by
        split at hProfile <;> exact hProfile
      refine ⟨?_, nofun⟩
      rintro _ ⟨⟩
      exact congrArg Profile.failure hRecorded
  | ok _ =>
      refine ⟨nofun, fun _ => ?_⟩
      show after.profile.failure = if device.isCypress then none else device.profile.failure
      rw [hProfile]
      split <;> rfl

theorem AtaDevice.keeps_operate (device : AtaDevice) (operation : Operation) :
    (device.operate operation).Ensures fun _ outcome =>
      Step.KeepsFailure ⟨.ata device, operation, outcome.1, outcome.2⟩ := by
  unfold operate
  split
  · next layer inner query =>
      refine (layer.settles_answer inner query).bind fun _ ⟨answer, after⟩ hSettles => ?_
      refine Step.keepsFailure_of_settles rfl ?_
      rw [ScsiDevice.profile_toDevice]
      exact hSettles
  · split
    · exact (BridgeLayer.settles_readRegisters _ _ _ _ _).bind fun _ _ hSettles =>
        Step.keepsFailure_of_settles rfl hSettles
    · exact Step.keepsFailure_of_unfinished nofun
  · split
    · exact (BridgeLayer.settles_readTaskFile _ _ _ _).bind fun _ _ hSettles =>
        Step.keepsFailure_of_settles rfl hSettles
    · exact Step.keepsFailure_of_unfinished nofun
  · exact (keeps_ata _ _).bind fun _ _ hKeeps => hKeeps
  · exact Step.keepsFailure_of_unfinished nofun

namespace Device

variable (device : Device)

theorem settles_connect (hTranslator : device.isTranslator = true) :
    device.connect.Ensures fun _ outcome =>
      Settles device.profile outcome.1 outcome.2.profile := by
  cases device with
  | endpoint e => cases hTranslator
  | ata device => exact device.settles_connect.bind fun _ _ hSettles => hSettles
  | nvme device => exact device.settles_connect.bind fun _ _ hSettles => hSettles

theorem settles_disconnect (hTranslator : device.isTranslator = true) :
    device.disconnect.Ensures fun _ outcome =>
      Settles device.profile outcome.1 outcome.2.profile := by
  cases device with
  | endpoint e => cases hTranslator
  | ata device => exact device.settles_disconnect.bind fun _ _ hSettles => hSettles
  | nvme device => exact device.settles_disconnect.bind fun _ _ hSettles => hSettles

theorem keeps_operate (hTranslator : device.isTranslator = true) (operation : Operation) :
    (device.operate operation).Ensures fun _ outcome =>
      Step.KeepsFailure ⟨device, operation, outcome.1, outcome.2⟩ := by
  unfold operate
  split
  · exact (device.settles_connect hTranslator).bind fun _ _ hSettles =>
      Step.keepsFailure_of_settles (by cases device <;> rfl) hSettles
  · exact (device.settles_disconnect hTranslator).bind fun _ _ hSettles =>
      Step.keepsFailure_of_settles (by cases device <;> rfl) hSettles
  · exact device.safe_autodetect.ensures_bind fun _ => Step.keepsFailure_of_unfinished nofun
  · split
    · cases hTranslator
    · exact AtaDevice.keeps_operate _ _
    · exact (NvmeDevice.settles_perform _ _ _).bind fun _ _ hSettles =>
        Step.keepsFailure_of_settles rfl hSettles
    · exact Step.keepsFailure_of_unfinished nofun

/-- In every history, a translator that reports a failure holds exactly that failure afterwards, and
one that reports success holds what it held before, except that a request to a translator with a
fixed table of operations leaves it empty. What the devices below keep makes no difference. -/
theorem every_failure_kept (operations : List Operation) :
    (device.operateAll operations).Ensures fun _ history =>
      ∀ step ∈ history.1, step.before.isTranslator = true → step.KeepsFailure := by
  refine Dialogue.Ensures.mono (@ensures_operateAll (fun _ => True)
    (fun step => step.before.isTranslator = true → step.KeepsFailure) (fun _ => True) ?_ device
    trivial operations) fun _ _ hHistory => hHistory.2.1
  intro device operation _
  have hOperate : (device.operate operation).Ensures fun _ outcome =>
      device.isTranslator = true → Step.KeepsFailure ⟨device, operation, outcome.1, outcome.2⟩ := by
    cases hTranslator : device.isTranslator with
    | false => exact (device.safe_operate operation).mono fun _ _ _ => nofun
    | true => exact (device.keeps_operate hTranslator operation).mono fun _ _ hKeeps _ => hKeeps
  exact hOperate.mono fun _ _ hKeeps => ⟨fun _ _ => trivial, hKeeps, trivial⟩

end Device

end DriveBridge.Chain
