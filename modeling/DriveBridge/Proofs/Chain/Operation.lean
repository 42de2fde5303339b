import DriveBridge.Chain.Device
import DriveBridge.Proofs.Dialogue.Ensures

/-! Whatever may be asked of a device, as one transition system. An operation takes a device from
one state to another; a history is what came of a list of operations, and a law that every step
keeps is kept throughout every history. -/
namespace DriveBridge.Chain

/-- What may be asked of a device. Hidden protocols are no obstacle here. -/
inductive Operation where
  | connect
  | disconnect
  | autodetect
  | ata (query : Ata.Query)
  | scsi (query : Scsi.Query)
  | nvme (request : Nvme.Request) (completion : Nvme.Completion)
  /-- Reading registers of a two-port bridge. -/
  | readRegisters (address : UInt16) (buffer : Bytes)
  /-- Reading the task file of a two-port bridge. -/
  | readTaskFile (registers : Ata.RegisterFile Ata.OutputRegister)

inductive Outcome where
  /-- Devices of this kind have no such operation. -/
  | inapplicable
  | finished (result : Except Failure Unit)
  | probed (replacement : Option Device)

namespace ScsiDevice

def operate (device : ScsiDevice) (query : Scsi.Query) : Wire (Outcome × Device) := do
  let (answer, device) ← ScsiDevice.answer query device
  return (.finished answer.result, device.toDevice)

end ScsiDevice

namespace AtaDevice

def operate : AtaDevice → Operation → Wire (Outcome × Device)
  | .sat layer inner, .scsi query => (ScsiDevice.sat layer inner).operate query
  | .bridge layer inner, .readRegisters address buffer =>
      match layer.encoding with
      | .jmicron setup => do
          let ((result, _), layer, inner) ← layer.readRegisters setup inner address buffer
          return (.finished result, .ata (.bridge layer inner))
      | _ => return (.inapplicable, .ata (.bridge layer inner))
  | .bridge layer inner, .readTaskFile registers =>
      match layer.encoding with
      | .jmicron setup => do
          let ((result, _), layer, inner) ← layer.readTaskFile setup inner registers
          return (.finished result, .ata (.bridge layer inner))
      | _ => return (.inapplicable, .ata (.bridge layer inner))
  | device, .ata query => do
      let (answer, device) ← device.perform query
      return (.finished answer.result, .ata device)
  | device, _ => return (.inapplicable, .ata device)

theorem operate_ata (device : AtaDevice) (query : Ata.Query) :
    device.operate (.ata query) = (device.perform query).bind fun outcome =>
      .done (.finished outcome.1.result, .ata outcome.2) := by
  cases device <;> rfl

end AtaDevice

namespace Device

/-- Carries out an operation. -/
def operate (device : Device) : Operation → Wire (Outcome × Device)
  | .connect => do
      let (result, device) ← device.connect
      return (.finished result, device)
  | .disconnect => do
      let (result, device) ← device.disconnect
      return (.finished result, device)
  | .autodetect => do
      let (replacement, device) ← device.autodetect
      return (.probed replacement, device)
  | operation =>
      match device, operation with
      | .endpoint e, .scsi query => (ScsiDevice.endpoint e).operate query
      | .ata device, operation => device.operate operation
      | .nvme device, .nvme request completion => do
          let (answer, device) ← device.perform request completion
          return (.finished answer.result, .nvme device)
      | device, _ => return (.inapplicable, device)

end Device

/-- One operation of a history. -/
structure Step where
  before : Device
  operation : Operation
  outcome : Outcome
  after : Device

/-- Carries out operations one after the other, whatever comes of each. A device that an operation
replaces is gone on with, as somebody may who still holds it. -/
def Device.operateAll (device : Device) : List Operation → Wire (List Step × Device)
  | [] => return ([], device)
  | operation :: later => do
      let (outcome, after) ← device.operate operation
      let (steps, final) ← after.operateAll later
      return (⟨device, operation, outcome, after⟩ :: steps, final)

/-- The device that an operation puts in the place of another one. -/
def Outcome.replacement? : Outcome → Option Device
  | probed replacement => replacement
  | inapplicable | finished _ => none

/-- An operation on one of several devices. -/
structure Use where
  position : Nat
  operation : Operation

/-- Uses devices one after the other, whatever comes of each use. A replacement joins the devices,
beside the one that it is to replace. -/
def useAll (devices : List Device) : List Use → Wire (List Device)
  | [] => return devices
  | use :: later =>
      match devices[use.position]? with
      | none => useAll devices later
      | some device => do
          let (outcome, after) ← device.operate use.operation
          useAll (devices.set use.position after ++ outcome.replacement?.toList) later

/-- A conversation falls into one part for each step of a history. The law tells what the part has to
do with the step. -/
inductive Episodes (Law : List (Dialogue.Exchange Wire.Query Wire.Answer) → Step → Prop) :
    List (Dialogue.Exchange Wire.Query Wire.Answer) → List Step → Prop where
  | nil : Episodes Law [] []
  | cons {first rest : List (Dialogue.Exchange Wire.Query Wire.Answer)} {step : Step}
      {steps : List Step} (law : Law first step) (later : Episodes Law rest steps) :
      Episodes Law (first ++ rest) (step :: steps)

/-- What every step ensures from the states that it keeps to is ensured by every history, for the part
of the conversation that the step has. -/
theorem Device.ensures_episodes {Invariant : Device → Prop}
    {Law : List (Dialogue.Exchange Wire.Query Wire.Answer) → Step → Prop}
    (hStep : ∀ device operation, Invariant device →
      (device.operate operation).Ensures fun exchanges outcome =>
        Law exchanges ⟨device, operation, outcome.1, outcome.2⟩ ∧ Invariant outcome.2)
    {device : Device} (hDevice : Invariant device) (operations : List Operation) :
    (device.operateAll operations).Ensures fun exchanges outcome =>
      Episodes Law exchanges outcome.1 ∧ Invariant outcome.2 := by
  induction operations generalizing device with
  | nil =>
      rw [operateAll, Dialogue.pure_eq, Dialogue.ensures_done_iff]
      exact ⟨.nil, hDevice⟩
  | cons operation later ih =>
      simp only [operateAll, Dialogue.bind_eq, Dialogue.pure_eq]
      refine (hStep device operation hDevice).bind fun first ⟨outcome, after⟩ hOutcome => ?_
      refine (ih hOutcome.2).bind fun rest ⟨steps, final⟩ hHistory => ?_
      rw [Dialogue.ensures_done_iff, List.append_nil]
      exact ⟨.cons hOutcome.1 hHistory.1, hHistory.2⟩

/-- What every step and every exchange of it ensures holds of all of them. -/
theorem Episodes.forall {Allowed : Dialogue.Exchange Wire.Query Wire.Answer → Prop}
    {Law : Step → Prop} {exchanges : List (Dialogue.Exchange Wire.Query Wire.Answer)}
    {steps : List Step}
    (episodes : Episodes (fun first step => (∀ exchange ∈ first, Allowed exchange) ∧ Law step)
      exchanges steps) :
    (∀ exchange ∈ exchanges, Allowed exchange) ∧ ∀ step ∈ steps, Law step := by
  induction episodes with
  | nil => exact ⟨List.forall_mem_nil _, List.forall_mem_nil _⟩
  | cons law _ ih =>
      exact ⟨List.forall_mem_append.mpr ⟨law.1, ih.1⟩, List.forall_mem_cons.mpr ⟨law.2, ih.2⟩⟩

/-- What every step ensures from the states that it keeps to is ensured by every history. -/
theorem Device.ensures_operateAll {Invariant : Device → Prop} {Law : Step → Prop}
    {Allowed : Dialogue.Exchange Wire.Query Wire.Answer → Prop}
    (hStep : ∀ device operation, Invariant device →
      (device.operate operation).Ensures fun exchanges outcome =>
        (∀ exchange ∈ exchanges, Allowed exchange) ∧
          Law ⟨device, operation, outcome.1, outcome.2⟩ ∧ Invariant outcome.2)
    {device : Device} (hDevice : Invariant device) (operations : List Operation) :
    (device.operateAll operations).Ensures fun exchanges outcome =>
      (∀ exchange ∈ exchanges, Allowed exchange) ∧ (∀ step ∈ outcome.1, Law step) ∧
        Invariant outcome.2 := by
  refine Dialogue.Ensures.mono (@ensures_episodes Invariant
    (fun first step => (∀ exchange ∈ first, Allowed exchange) ∧ Law step) ?_ device hDevice
    operations) fun exchanges outcome ⟨hEpisodes, hFinal⟩ => ?_
  · intro device operation hInvariant
    exact (hStep device operation hInvariant).mono fun _ _ ⟨hBelow, hLaw, hAfter⟩ =>
      ⟨⟨hBelow, hLaw⟩, hAfter⟩
  · exact ⟨hEpisodes.forall.1, hEpisodes.forall.2, hFinal⟩

end DriveBridge.Chain
