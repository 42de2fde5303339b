import DriveBridge.Chain.Device
import DriveBridge.Proofs.Chain.ScsiDevice
import DriveBridge.Proofs.Nvme.JMicron

/-! What a request to an NVMe device ensures, in terms of what its slot answers. The answers of a
slot that holds a device and those of a released one are told apart by whoever uses this. -/
namespace DriveBridge.Chain

theorem NvmeVendor.ensures_perform (vendor : NvmeVendor) (label : String) (request : Nvme.Request)
    (completion : Nvme.Completion) :
    (vendor.perform label request completion).Ensures (Nvme.Handled request completion) := by
  cases vendor with
  | asmedia => exact Nvme.Asmedia.ensures_perform request completion
  | jmicron => exact Nvme.JMicron.ensures_perform request completion label
  | realtek => exact Nvme.Realtek.ensures_perform request completion

/-- A slot answers every query in the same way: the queries to the endpoint that this takes, the
answers that come of it, and the slots that it passes through are of the kinds given. -/
def Slot.Answers (Below : Exchange → Prop) (Reply : Scsi.Exchange → Prop)
    (Within : Slot ScsiDevice → Prop) : Prop :=
  ∀ query slot, Within slot → (Slot.scsiAnswer query slot).Ensures fun below outcome =>
    (∀ exchange ∈ below, Below exchange) ∧ Reply ⟨query, outcome.1⟩ ∧ Within outcome.2

namespace NvmeDevice

variable {Below : Exchange → Prop} {Reply : Scsi.Exchange → Prop} {Within : Slot ScsiDevice → Prop}

/-- How a request may end, given the kinds of what its slot answers. -/
structure Performed (Below : Exchange → Prop) (Reply : Scsi.Exchange → Prop)
    (Within : Slot ScsiDevice → Prop) (device : NvmeDevice) (request : Nvme.Request)
    (below : List Exchange) (outcome : Nvme.Answer × NvmeDevice) : Prop where
  below : ∀ exchange ∈ below, Below exchange
  inner : Within outcome.2.inner
  rest : outcome.2 = { device with
    inner := outcome.2.inner, profile := device.profile.settle outcome.1.result }
  buffer : outcome.1.buffer.map List.length = request.buffer.map List.length
  sent : outcome.1.result = .ok () → ∃ exchange, Reply exchange ∧ exchange.result = .ok ()

theorem ensures_perform (hAnswers : Slot.Answers Below Reply Within) {device : NvmeDevice}
    (hInner : Within device.inner) (request : Nvme.Request) (completion : Nvme.Completion) :
    (device.perform request completion).Ensures (Performed Below Reply Within device request) := by
  have hSession : (device.vendor.perform device.profile.label request completion).Ensures
      fun above answer => (∀ exchange ∈ above, Reply exchange) →
        answer.buffer.map List.length = request.buffer.map List.length ∧
          (answer.result = .ok () → ∃ exchange, Reply exchange ∧ exchange.result = .ok ()) := by
    refine (device.vendor.ensures_perform device.profile.label request completion).mono ?_
    intro above answer hHandled hReply
    refine ⟨hHandled.buffer, fun hOk => ?_⟩
    obtain ⟨exchange, hMem, hSent⟩ := hHandled.sent hOk
    exact ⟨exchange, hReply exchange hMem, hSent⟩
  refine (hSession.through hAnswers hInner).bind fun before outcome hOutcome => ?_
  obtain ⟨hBelow, ⟨hBuffer, hSent⟩, hWithin⟩ := hOutcome
  exact ⟨by simpa using hBelow, hWithin, rfl, hBuffer, hSent⟩

/-- The Identify data is always long enough to be decoded. -/
theorem exists_controller {buffer : Option Bytes}
    (hBuffer : buffer.map List.length = Nvme.identifyRequest.buffer.map List.length) :
    ∃ controller, Nvme.Controller.ofBytes? (buffer.getD []) = some controller := by
  have hLength : (buffer.getD []).length = Nvme.identifyLength := by
    cases buffer with
    | none => cases hBuffer
    | some data => simpa [Nvme.identifyRequest] using hBuffer
  have hLong : Nvme.headerLength ≤ (buffer.getD []).length := by
    rw [hLength]
    decide
  unfold Nvme.Controller.ofBytes?
  rw [if_pos hLong]
  exact ⟨_, rfl⟩

theorem ensures_identify (hAnswers : Slot.Answers Below Reply Within) {device : NvmeDevice}
    (hInner : Within device.inner) :
    device.identify.Ensures fun below outcome =>
      (∀ exchange ∈ below, Below exchange) ∧ Within outcome.2.inner := by
  refine (ensures_perform hAnswers hInner _ _).bind fun before outcome hOutcome => ?_
  obtain ⟨answer, after⟩ := outcome
  dsimp only
  cases hResult : answer.result with
  | error failure => exact ⟨by simpa using hOutcome.below, hOutcome.inner⟩
  | ok _ =>
      have hDecoded := exists_controller hOutcome.buffer
      obtain ⟨controller, hController⟩ := hDecoded
      simp only [hController, Dialogue.demand_some, Dialogue.bind_eq, Dialogue.done_bind]
      exact ⟨by simpa using hOutcome.below, hOutcome.inner⟩

/-- What Identify Controller brought is a failure, or names no model. -/
def Identified.Nameless (identified : Identified) : Prop :=
  ∀ controller, identified.result = .ok controller → controller.model.isEmpty = true

/-- To examine a device is to open it, and to identify the drive where that is in doubt. A SAT device
is called for if that brings no model. -/
theorem ensures_examine {device : NvmeDevice}
    {post : List Exchange → Option Ata.Sat.Length × NvmeDevice → Prop}
    (ensures : device.connect.Ensures fun before outcome =>
      ((outcome.1 = .ok () → outcome.2.fallback = none) → post before (none, outcome.2)) ∧
        ∀ length, outcome.1 = .ok () → outcome.2.fallback = some length →
          outcome.2.identify.Ensures fun sent asked =>
            (asked.1.Nameless → post (before ++ sent) (some length, asked.2)) ∧
              (¬ asked.1.Nameless → post (before ++ sent) (none, asked.2))) :
    device.examine.Ensures post := by
  refine ensures.bind ?_
  rintro before ⟨result, opened⟩ ⟨hCertain, hDoubt⟩
  dsimp only at hCertain hDoubt ⊢
  split
  · next length hLength =>
      refine (hDoubt length rfl hLength).bind ?_
      rintro sent ⟨identified, seen⟩ ⟨hGone, hThere⟩
      rw [← List.append_nil sent] at hGone hThere
      dsimp only at hGone hThere ⊢
      split
      · next failure hFailed =>
          exact hGone fun _ hOk => by cases hFailed.symm.trans hOk
      · next controller hOk =>
          split
          · next hEmpty =>
              refine hGone fun other hOther => ?_
              cases hOk.symm.trans hOther
              exact hEmpty
          · next hNamed => exact hThere fun hNameless => hNamed (hNameless controller hOk)
  · next hOther =>
      rw [← List.append_nil before] at hCertain
      refine hCertain fun hOk => Option.eq_none_iff_forall_ne_some.mpr fun length hLength => ?_
      exact hOther length hOk hLength

end NvmeDevice

end DriveBridge.Chain
