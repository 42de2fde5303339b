import DriveBridge.Proofs.Chain.NvmeDevice
import Mathlib.Data.List.Forall2

/-! A request to a JMicron bridge on the wire. What the session of the bridge asks comes to the wire
command by command, so that the three phases are the commands that the endpoint gets. -/
namespace DriveBridge.Chain

namespace Slot

/-- How commands to a slot come to the wire: those to a device that is held are transmitted one by
one, and a released slot fails them by itself. -/
def Conveyed (slot : Slot ScsiDevice) (above : List Scsi.Exchange) (below : List Exchange) : Prop :=
  match slot with
  | holding inner => List.Forall₂ (Transmitted inner.place.unit inner.profile.timeout) above below
  | released => below = [] ∧ ∀ exchange ∈ above, exchange.result = .error gone

/-- The slot conveys a command, and goes on to convey the others. -/
def Conveys (slot : Slot ScsiDevice) (exchange : Scsi.Exchange) (first : List Exchange)
    (next : Slot ScsiDevice) : Prop :=
  ∀ above later, next.Conveyed above later → slot.Conveyed (exchange :: above) (first ++ later)

theorem ensures_scsiAnswer (query : Scsi.Query) (slot : Slot ScsiDevice) :
    (scsiAnswer query slot).Ensures fun first outcome =>
      slot.Conveys ⟨query, outcome.1⟩ first outcome.2 := by
  cases slot with
  | holding inner =>
      refine (inner.ensures_answer query).bind fun first outcome hAnswered => ?_
      obtain ⟨exchange, rfl, hTransmitted⟩ := hAnswered.asked
      intro above later hLater
      simp only [Conveyed, hAnswered.place, hAnswered.timeout] at hLater
      exact .cons hTransmitted hLater
  | released =>
      intro above later hLater
      obtain ⟨rfl, hFailed⟩ := hLater
      exact ⟨rfl, List.forall_mem_cons.mpr ⟨rfl, hFailed⟩⟩

theorem conveyed_of_served {slot final : Slot ScsiDevice} {above : List Scsi.Exchange}
    {below : List Exchange} (served : Dialogue.Served Conveys slot above below final) :
    slot.Conveyed above below := by
  induction served with
  | done slot =>
      cases slot with
      | holding inner => exact .nil
      | released => exact ⟨rfl, List.forall_mem_nil _⟩
  | next step _ ih => exact step _ _ ih

end Slot

namespace NvmeDevice

/-- What the session of a bridge ensures, a request to the device does, with the commands that come
to the wire. -/
theorem ensures_perform_conveyed {device : NvmeDevice} {request : Nvme.Request}
    {completion : Nvme.Completion} {post : List Scsi.Exchange → Nvme.Answer → Prop}
    (hSession : (device.vendor.perform device.profile.label request completion).Ensures post) :
    (device.perform request completion).Ensures fun below outcome =>
      ∃ above, device.inner.Conveyed above below ∧ post above outcome.1 := by
  refine (hSession.served Slot.ensures_scsiAnswer).bind fun below outcome hServed => ?_
  obtain ⟨above, hPost, served⟩ := hServed
  exact ⟨above, by simpa using Slot.conveyed_of_served served, hPost⟩

/-- Whatever the endpoint answers, a request that is neither bidirectional nor lacks its buffer takes
three phases, each of them one command on the wire under the time limit of the device below. It
succeeds exactly where all of them do and the response block is signed and without a status; only
such a block and one with a status change the completion. -/
theorem perform_in_three_phases (device : NvmeDevice) (hVendor : device.vendor = .jmicron)
    (request : Nvme.Request) (completion : Nvme.Completion)
    (hDirection : request.direction ≠ .bidirectional)
    (hBuffer : request.direction ≠ .noData →
      ∃ buffer, request.buffer = some buffer ∧ request.size ≤ buffer.length) :
    (device.perform request completion).Ensures fun below outcome =>
      ∃ above, device.inner.Conveyed above below ∧
        Nvme.JMicron.ThreePhases request completion above outcome.1 := by
  refine ensures_perform_conveyed ?_
  rw [hVendor]
  exact Nvme.JMicron.ensures_phases _ hDirection hBuffer

/-- A bridge that answers the response phase, and every other one, with a signed block, whose first
bytes the data phase of a request takes for its data. -/
theorem signed_response_succeeds :
    let device := NvmeDevice.atop (.endpoint (.new "/dev/sdx" 0)) "" .jmicron 0 none
    let block : Bytes := [0x4e, 0x56, 0x4d, 0x45, 0, 0, 0, 0, 7, 0, 0, 0]
    let party : (query : Wire.Query) → Unit → Wire.Answer query × Unit
      | .attach, _ => (0, ())
      | .connect _, _ | .disconnect _, _ => (.ok (), ())
      | .transmit _ _, _ => (.ok { data := block }, ())
    let request : Nvme.Request :=
      { opcode := 0x06, nsid := 1, cdw10 := 0x10, cdw11 := 0x11, cdw12 := 0x12, cdw13 := 0x13,
        cdw14 := 0x14, cdw15 := 0x15, buffer := some [1, 2, 3, 4, 5, 6], size := 4 }
    device.vendor = .jmicron ∧ request.direction = .dataIn ∧
      (∃ buffer, request.buffer = some buffer ∧ request.size ≤ buffer.length) ∧
        ∃ outcome above, ((device.perform request {}).run party ()).value = some outcome ∧
          outcome.1.completion.result = 7 ∧
            outcome.1.buffer = some [0x4e, 0x56, 0x4d, 0x45, 5, 6] ∧ above.length = 3 ∧
              Nvme.JMicron.ThreePhases request {} above outcome.1 := by
  intro device block party request
  have hDirection : request.direction = .dataIn := by decide
  have hBuffer : ∃ buffer, request.buffer = some buffer ∧ request.size ≤ buffer.length :=
    ⟨_, rfl, by decide⟩
  obtain ⟨outcome, hValue, above, -, hPhases⟩ :=
    (perform_in_three_phases device rfl request {} (by simp [hDirection])
      fun _ => hBuffer).of_run party ()
  have hResult : ((device.perform request {}).run party ()).value.map
      (fun outcome => (outcome.1.completion.result, outcome.1.buffer, outcome.1.result.isOk)) =
        some (7, some [0x4e, 0x56, 0x4d, 0x45, 5, 6], true) := by
    decide +kernel
  rw [hValue] at hResult
  obtain ⟨hSeven, hRest⟩ := Prod.mk.inj (Option.some_inj.mp hResult)
  obtain ⟨hData, hOk⟩ := Prod.mk.inj hRest
  have hSucceeded : outcome.1.result = .ok () := by
    cases hCase : outcome.1.result with
    | ok _ => rfl
    | error failure => simp [hCase, Except.isOk, Except.toBool] at hOk
  obtain ⟨_, ⟨_, _, _, hThree, -, -⟩, -, -⟩ := hPhases.success.mp hSucceeded
  exact ⟨rfl, hDirection, hBuffer, outcome, above, hValue, hSeven, hData, by rw [hThree]; rfl,
    hPhases⟩

end NvmeDevice

end DriveBridge.Chain
