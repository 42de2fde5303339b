import DriveBridge.Proofs.Chain.Relay
import DriveBridge.Proofs.Chain.Safety

/-! Forwarding, through any number of layers. A SAT device forwards SCSI commands and a drive behind
a multiplexer forwards ATA requests; neither leaves a trace besides the failure that it keeps. -/
namespace DriveBridge.Chain

open Dialogue

/-- Layers on top of a device, the first of them outermost. -/
def ScsiDevice.stacked (layers : List SatLayer) (inner : ScsiDevice) : ScsiDevice :=
  layers.foldr ScsiDevice.sat inner

def AtaDevice.stacked (layers : List RoutedLayer) (inner : AtaDevice) : AtaDevice :=
  layers.foldr AtaDevice.routed inner

/-- The layer keeps the failure of a result. -/
def SatLayer.settled (result : Except Failure Unit) (layer : SatLayer) : SatLayer :=
  { layer with profile := layer.profile.settle result }

def RoutedLayer.settled (result : Except Failure Unit) (layer : RoutedLayer) : RoutedLayer :=
  { layer with profile := layer.profile.settle result }

/-- A command to a stack is a command to the device at the bottom of it, after which every layer
keeps the failure. -/
theorem ScsiDevice.execute_stacked (layers : List SatLayer) (inner : ScsiDevice)
    (command : Scsi.Command) :
    (stacked layers inner).execute command = (inner.execute command).bind fun outcome =>
      done (outcome.1, stacked (layers.map (SatLayer.settled outcome.1.result)) outcome.2) := by
  induction layers with
  | nil => exact (bind_done _).symm
  | cons layer rest ih =>
      show ((stacked rest inner).execute command).bind _ = _
      rw [ih, bind_assoc]
      rfl

theorem AtaDevice.perform_stacked (layers : List RoutedLayer) (inner : AtaDevice)
    (query : Ata.Query) :
    (stacked layers inner).perform query = (inner.perform query).bind fun outcome =>
      done (outcome.1, stacked (layers.map (RoutedLayer.settled outcome.1.result)) outcome.2) := by
  induction layers with
  | nil => exact (bind_done _).symm
  | cons layer rest ih =>
      show ((stacked rest inner).perform query).bind _ = _
      rw [ih, bind_assoc]
      rfl

section Transparent

variable {State Reply Layer Device : Type}

/-- The run through the layers is the direct one for the caller, who gets the same answer, and for
the transport, which sees the same. If it fails, each of as many layers holds the failure; otherwise
the layers are what they were. -/
structure Transparent (stacked : List Layer → Device → Device) (profile : Layer → Profile)
    (result : Reply → Except Failure Unit) (layers : List Layer)
    (direct forwarded : Run Wire.Query Wire.Answer State (Reply × Device)) : Prop where
  events : forwarded.events = direct.events
  state : forwarded.state = direct.state
  answer : ∃ answer after settled, direct.value = some (answer, after) ∧
    forwarded.value = some (answer, stacked settled after) ∧ settled.length = layers.length ∧
      (∀ failure, result answer = .error failure →
        ∀ layer ∈ settled, (profile layer).failure = some failure) ∧
      (result answer = .ok () → settled = layers)

variable {stacked : List Layer → Device → Device} {profile : Layer → Profile}
  {result : Reply → Except Failure Unit} {settled : Except Failure Unit → Layer → Layer}
  {layers : List Layer} {inner forwarded : Wire (Reply × Device)}

theorem transparent_of_eq (safe : inner.Safe)
    (hForwarded : forwarded = inner.bind fun outcome =>
      done (outcome.1, stacked (layers.map (settled (result outcome.1))) outcome.2))
    (hFailed : ∀ failure layer, (profile (settled (.error failure) layer)).failure = some failure)
    (hOk : ∀ layer, settled (.ok ()) layer = layer)
    (party : (query : Wire.Query) → State → Wire.Answer query × State) (state : State) :
    Transparent stacked profile result layers (inner.run party state)
      (forwarded.run party state) := by
  obtain ⟨⟨answer, after⟩, hValue, -⟩ := safe.of_run party state
  rw [hForwarded, run_bind_done, hValue]
  refine ⟨rfl, rfl, answer, after, _, hValue, rfl, List.length_map _, ?_, ?_⟩
  · intro failure hError layer hLayer
    obtain ⟨layer, -, rfl⟩ := List.mem_map.mp hLayer
    rw [hError]
    exact hFailed failure layer
  · intro hSuccess
    rw [hSuccess]
    exact List.map_id'' hOk layers

end Transparent

/-- Through any number of SAT devices a SCSI command, and through any number of multiplexed drives
an ATA request, does what it does without them, whatever is at the bottom and whatever the transport
answers. Every layer holds the failure that came from below. -/
theorem forwarding_transparent {State : Type}
    (party : (query : Wire.Query) → State → Wire.Answer query × State) (state : State) :
    (∀ (layers : List SatLayer) (inner : ScsiDevice) (command : Scsi.Command),
      Transparent ScsiDevice.stacked SatLayer.profile Scsi.Answer.result layers
        ((inner.execute command).run party state)
        (((ScsiDevice.stacked layers inner).execute command).run party state)) ∧
    ∀ (layers : List RoutedLayer) (inner : AtaDevice) (query : Ata.Query),
      Transparent AtaDevice.stacked RoutedLayer.profile Ata.Answer.result layers
        ((inner.perform query).run party state)
        (((AtaDevice.stacked layers inner).perform query).run party state) := by
  constructor
  · intro layers inner command
    exact transparent_of_eq (inner.ensures_execute command).safe
      (ScsiDevice.execute_stacked layers inner command) (fun _ _ => rfl) (fun _ => rfl) party state
  · intro layers inner query
    exact transparent_of_eq (inner.safe_perform query)
      (AtaDevice.perform_stacked layers inner query) (fun _ _ => rfl) (fun _ => rfl) party state

end DriveBridge.Chain
