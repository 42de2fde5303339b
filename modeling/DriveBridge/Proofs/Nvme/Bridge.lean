import DriveBridge.Nvme.Bridge.Asmedia
import DriveBridge.Nvme.Bridge.Realtek
import DriveBridge.Nvme.Identify
import DriveBridge.Proofs.Scsi.Plan

/-! What every bridge to an NVMe drive ensures, whatever the request is and whatever comes back: it
never breaks, it gives the buffer back as long as it was, it reports success only if a command
went through, and a failure of it has a source. The bridges that need one command for a request are
settled here. -/
namespace DriveBridge.Nvme

/-- How a request may end, given the conversation that it led to. -/
structure Carried (request : Request) (exchanges : List Scsi.Exchange) (answer : Answer) :
    Prop where
  buffer : answer.buffer.map List.length = request.buffer.map List.length
  sent : answer.result = .ok () → ∃ exchange ∈ exchanges, exchange.result = .ok ()

/-- A request that fails has a source for its failure. Its completion is as it was, unless the drive
has reported a status by it. -/
def FailsCleanly (completion : Completion) (exchanges : List Scsi.Exchange) (answer : Answer) :
    Prop :=
  ∀ failure, answer.result = .error failure →
    (answer.completion = completion ∨ failure.cause = .transfer) ∧
      Scsi.Traced exchanges failure

/-- How a request may end, with how it fails. -/
structure Handled (request : Request) (completion : Completion) (exchanges : List Scsi.Exchange)
    (answer : Answer) : Prop extends Carried request exchanges answer where
  fails : FailsCleanly completion exchanges answer

section Handled

variable {request : Request} {completion : Completion} {failure : Failure}
  {buffer : Option Bytes}

/-- A request that fails before anything is sent. -/
theorem Handled.unsent (hBuffer : buffer.map List.length = request.buffer.map List.length) :
    Handled request completion [] ⟨.error failure, completion, buffer⟩ where
  buffer := hBuffer
  sent := nofun
  fails _ _ := ⟨.inl rfl, .unsent⟩

theorem Handled.refused : Handled request completion [] (request.refused completion failure) :=
  .unsent rfl

/-- What is laid over a buffer leaves it as long as it was. -/
theorem map_length_overlay (buffer : Option Bytes) (data : Bytes) :
    (buffer.map (Bytes.overlay data)).map List.length = buffer.map List.length := by
  cases buffer <;> simp

theorem Request.transferred?_of_le {buffer : Bytes} (hBuffer : request.buffer = some buffer)
    (hRoom : request.size ≤ buffer.length) :
    request.transferred? = some (buffer.take request.size) := by
  simp only [transferred?, hBuffer, if_pos hRoom]

theorem Request.exists_of_transferred? {data : Bytes}
    (hData : request.transferred? = some data) :
    ∃ buffer, request.buffer = some buffer ∧ request.size ≤ buffer.length ∧
      data = buffer.take request.size := by
  unfold Request.transferred? at hData
  split at hData
  · next buffer hBuffer =>
      split at hData
      · next hRoom =>
          cases hData
          exact ⟨buffer, hBuffer, hRoom, rfl⟩
      · cases hData
  · cases hData

theorem Request.length_of_transferred? {data : Bytes} (hData : request.transferred? = some data) :
    data.length = request.size := by
  obtain ⟨_, _, hRoom, rfl⟩ := Request.exists_of_transferred? hData
  exact List.length_take_of_le hRoom

/-- A command whose result is passed on. -/
theorem ensures_last (label : String) (command : Scsi.Command) {finish : Bytes → Option Bytes}
    (hFinish : ∀ data, (finish data).map List.length = request.buffer.map List.length) :
    ((Scsi.sendChecked label command).bind fun answer =>
      .done ⟨answer.result, completion, finish answer.completion.data⟩).Ensures
        (Handled request completion) := by
  refine Scsi.ensures_sendChecked_bind fun reply => ?_
  exact {
    buffer := hFinish reply.completion.data
    sent := fun hOk => ⟨_, List.mem_singleton_self _, hOk⟩
    fails := fun _ hFailed => ⟨.inl rfl, .of_result hFailed⟩ }

end Handled

variable (request : Request) (completion : Completion)

theorem Asmedia.ensures_perform :
    (Asmedia.perform request completion).Ensures (Handled request completion) := by
  unfold Asmedia.perform
  cases Asmedia.check request with
  | error failure => exact Handled.refused
  | ok _ =>
      cases request.transferred? with
      | none => exact Handled.refused
      | some data => exact ensures_last _ _ (map_length_overlay request.buffer)

namespace Realtek

theorem transferLength_le (length : Nat) : transferLength request length ≤ length := by
  unfold transferLength
  split
  · next hLong => exact Nat.le_of_lt hLong.2
  · exact Nat.le_refl _

/-- Only a log page above the limit is cut, so that what is left out has a length. -/
theorem exists_truncation {length : Nat} (hCut : transferLength request length < length) :
    ∃ entry, truncation length = some entry := by
  have hLimit : logLimit ≤ length := by
    unfold transferLength at hCut
    split at hCut
    · next hLong => exact Nat.le_of_lt hLong.2
    · exact (Nat.lt_irrefl _ hCut).elim
  simp [truncation, Checked.sub_of_le hLimit]

theorem ensures_perform :
    (perform request completion).Ensures (Handled request completion) := by
  unfold perform
  cases check request with
  | error failure => exact Handled.refused
  | ok _ =>
      cases request.transferred? with
      | none => exact Handled.refused
      | some data =>
          have hFits : transferLength request data.length ≤ (Bytes.zeros data.length).length := by
            rw [Bytes.length_zeros]
            exact transferLength_le request data.length
          have hCleared := map_length_overlay request.buffer (Bytes.zeros data.length)
          simp only [Checked.cut_of_le hFits, Dialogue.demand_some, Dialogue.bind_eq,
            Dialogue.done_bind]
          split
          · next hCut =>
              obtain ⟨entry, hEntry⟩ := exists_truncation request hCut
              simp only [hEntry, Dialogue.demand_some, Dialogue.done_bind]
              rw [Dialogue.ensures_log_bind_iff]
              split
              · exact ensures_last _ _ fun data => (map_length_overlay _ data).trans hCleared
              · exact Handled.unsent hCleared
          · split
            · exact ensures_last _ _ fun data => (map_length_overlay _ data).trans hCleared
            · exact Handled.unsent hCleared

end Realtek

end DriveBridge.Nvme
