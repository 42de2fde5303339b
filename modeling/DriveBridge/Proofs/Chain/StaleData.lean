import DriveBridge.Proofs.Ata.SatVerdict
import DriveBridge.Proofs.Chain.Relay
import DriveBridge.Proofs.Chain.Safety

/-! What a failed read leaves in its buffer. The buffer is cleared before the command is sent, and
again where the sense data reports an error. Sense data that nobody asked for and that reports none
fails the command as well, and the data that came with it stays. -/
namespace DriveBridge

namespace Ata

/-- The bytes that a request transfers are all 0 in the buffer. -/
def Request.Cleared (request : Request) (buffer : Option Bytes) : Prop :=
  ∃ bytes, buffer = some bytes ∧ bytes.take request.size = Bytes.zeros request.size

variable {request : Request}

theorem Request.Consistent.cleared_bufferAfter_iff {count : Nat} {data : Bytes}
    (hConsistent : request.Consistent count) (hIn : request.direction = .dataIn)
    (hLength : data.length = request.size) :
    request.Cleared (request.bufferAfter data) ↔ data = Bytes.zeros request.size := by
  obtain ⟨buffer, hBuffer, hRoom⟩ := hConsistent.buffer (by simp [hIn])
  have hTake : (Bytes.overlay data buffer).take request.size = data := by
    rw [← hLength] at hRoom ⊢
    exact Bytes.take_overlay hRoom
  simp only [Cleared, bufferAfter, hBuffer, Option.map_some, Option.some.injEq, exists_eq_left',
    hTake]

/-- What is cleared is clear, whatever was written there before. -/
theorem Request.Consistent.cleared_bufferCleared {count : Nat}
    (hConsistent : request.Consistent count) (hIn : request.direction = .dataIn) (data : Bytes) :
    request.Cleared { request with buffer := request.bufferAfter data }.bufferCleared := by
  have hAfter := hConsistent.afterTransfer data
  unfold bufferCleared
  simp only [hIn]
  exact (hAfter.cleared_bufferAfter_iff hIn (Bytes.length_zeros _)).mpr rfl

/-- A read that is ruled a failure is cleared unless the verdict reports no error. Then what was
transferred stays. -/
theorem Sat.cleared_concluded_iff {completion : Scsi.Completion} {failure : Failure}
    {registers : RegisterFile OutputRegister} (hConsistent : request.Consistent request.sectorCount)
    (hIn : request.direction = .dataIn) (hLength : completion.data.length = request.size)
    (hError : (concluded request completion registers).result = .error failure) :
    request.Cleared (concluded request completion registers).buffer ↔
      (completion.verdict = .noError → completion.data = Bytes.zeros request.size) := by
  obtain ⟨-, hDiscard⟩ := rule_failed hError
  dsimp only [concluded]
  by_cases hVerdict : completion.verdict = .noError
  · rw [if_neg fun h => hDiscard.mp h hVerdict]
    rw [hConsistent.cleared_bufferAfter_iff hIn hLength]
    exact ⟨fun h _ => h, fun h => h hVerdict⟩
  · rw [if_pos (hDiscard.mpr hVerdict)]
    exact iff_of_true (hConsistent.cleared_bufferCleared hIn _) fun h => (hVerdict h).elim

namespace Sat

variable {length : Length} {timeout : UInt32}

theorem data_command (hIn : request.direction = .dataIn) :
    (command length timeout request).data = Bytes.zeros request.size := by
  simp [command, Request.carriage, hIn]

theorem data_complete_command (hIn : request.direction = .dataIn) (reply : Scsi.Reply) :
    ((command length timeout request).complete reply).data =
      Bytes.overlay reply.data (Bytes.zeros request.size) := by
  rw [← @data_command _ length timeout hIn, Scsi.Command.complete]
  simp [command, Direction.toScsi, hIn]

end Sat

end Ata

namespace Chain

/-- The transport delivers data, and it is not all 0 in the given size. The sense data that comes
with it reports no error. -/
def Exchange.BringsData (size : Nat) : Exchange → Prop
  | ⟨.transmit _ command, reply⟩ =>
      match reply with
      | .ok reply => (command.complete reply).verdict = .noError ∧
          ¬ ∀ position < size, reply.data.byte position = 0
      | .error _ => False
  | _ => False

/-- A read by way of SAT that fails after its command was sent leaves nothing in the buffer, except
for data that came with sense data which reports no error. That stays. -/
theorem SatLayer.failed_read_cleared_iff (layer : SatLayer) (inner : ScsiDevice) (query : Ata.Query)
    (hIn : query.request.direction = .dataIn) :
    ((AtaDevice.sat layer inner).perform query).Ensures fun below outcome =>
      below ≠ [] → ∀ failure, outcome.1.result = .error failure →
        (query.request.Cleared outcome.1.buffer ↔
          ∀ exchange ∈ below, ¬ Exchange.BringsData query.request.size exchange) := by
  have hPaths := (layer.translator.safe_perform query.request query.registers).ensures_path
  refine (layer.ensures_perform inner hPaths).mono fun below outcome hServed => ?_
  obtain ⟨above, path, hRelays⟩ := hServed
  intro hSent failure hFailed
  have hAsked := hRelays.ne_nil_iff.mpr hSent
  have hAccepts := (Ata.Translator.sends_iff_accepts path).mp hAsked
  have hConsistent := ((query.request.check_eq_ok_iff _ _).mp hAccepts.checked).1
  obtain ⟨reply, rfl, hAnswer⟩ := (Ata.Sat.path_perform_iff hAccepts.checked hAccepts.fits).mp path
  obtain ⟨exchange, _, hRelayed, hRest, rfl⟩ := List.forall₂_cons_left_iff.mp hRelays
  cases List.forall₂_nil_left_iff.mp hRest
  simp only [List.mem_singleton, forall_eq]
  cases hRelayed.transmitted with
  | lost _ fault =>
      rw [hAnswer]
      refine iff_of_true ?_ id
      refine (hConsistent.cleared_bufferAfter_iff hIn hConsistent.length_carriage).mpr ?_
      simp [Ata.Request.carriage, hIn]
  | delivered _ reply result judged =>
      cases judged.mpr (.inl rfl)
      have hConcluded : outcome.1 = Ata.Sat.concluded query.request
          ((Ata.Sat.command layer.length layer.profile.timeout query.request).complete reply)
          query.registers := hAnswer
      rw [hConcluded] at hFailed ⊢
      have hLength : ((Ata.Sat.command layer.length layer.profile.timeout query.request).complete
          reply).data.length = query.request.size := by
        simp [Ata.Sat.data_command hIn]
      rw [Ata.Sat.cleared_concluded_iff hConsistent hIn hLength hFailed,
        Ata.Sat.data_complete_command hIn, Bytes.overlay_zeros_eq_zeros_iff]
      constructor
      · exact fun hZeros hBrings => hBrings.2 (hZeros hBrings.1)
      · exact fun hBrings hVerdict => Classical.byContradiction fun hData =>
          hBrings ⟨hVerdict, hData⟩

/-- A SAT device over an endpoint. -/
def satDisk : AtaDevice :=
  let endpoint := Endpoint.new "/dev/sdb" 0
  .sat (.atop endpoint.profile "" .always .long) (.endpoint endpoint)

/-- A read of the one sector that identifies the drive. No registers are wanted. -/
def sectorRead : Ata.Query :=
  let request : Ata.Request :=
    { registers := ({} : Ata.RegisterFile _).set .command Ata.Opcode.identify }
  ⟨request.setData .dataIn (Bytes.zeros Ata.sectorSize) 1, {}⟩

/-- A sector that arrives with 14 bytes of sense data. -/
def sectorReply (key : UInt8) : Scsi.Reply where
  data := List.replicate 512 0x5a
  sense := .ofBytes ([0x70, 0, key] ++ Bytes.zeros 11) 14
  status := Sense.checkCondition

theorem verdict_sectorReply_error (command : Scsi.Command) :
    (command.complete (sectorReply 0x03)).verdict = .mediumHardware := by
  change (Sense.summary (sectorReply 0x03).status (sectorReply 0x03).sense.returned).verdict = _
  decide

/-- A read that fails with a medium error leaves nothing of what arrived. -/
theorem SatLayer.medium_error_cleared :
    ∃ outcome,
      ((satDisk.perform sectorRead).run (delivering (sectorReply 0x03)) ()).value = some outcome ∧
        outcome.1.result.isOk = false ∧ sectorRead.request.Cleared outcome.1.buffer := by
  have hFailed : ((satDisk.perform sectorRead).run (delivering (sectorReply 0x03)) ()).value.map
      (fun outcome => outcome.1.result) =
        some (.error ⟨.transfer, "scsi error medium or hardware error (serious)"⟩) := by
    decide +kernel
  have hSent : (Dialogue.exchanges
      ((satDisk.perform sectorRead).run (delivering (sectorReply 0x03)) ()).events).length = 1 := by
    decide +kernel
  have hIn : sectorRead.request.direction = .dataIn := rfl
  generalize sectorRead = query at hFailed hSent hIn ⊢
  obtain ⟨outcome, hValue, hCleared⟩ := Dialogue.Ensures.of_run
    (failed_read_cleared_iff _ _ query hIn) (delivering (sectorReply 0x03)) ()
  rw [satDisk, hValue] at hFailed
  have hResult := Option.some_inj.mp hFailed
  refine ⟨outcome, hValue, congrArg Except.isOk hResult, ?_⟩
  refine (hCleared (List.ne_nil_of_length_eq_add_one hSent) _ hResult).mpr ?_
  intro exchange hMember hBrings
  obtain ⟨_, hAnswer⟩ := Dialogue.answer_of_mem_run _ _ _ exchange hMember
  obtain ⟨query, answer⟩ := exchange
  cases query with
  | attach | connect _ | disconnect _ => exact hBrings
  | transmit unit command =>
      cases hAnswer
      cases (verdict_sectorReply_error command).symm.trans hBrings.1

/-- A read that fails because of sense data that nobody asked for keeps what arrived. -/
theorem SatLayer.unasked_sense_kept :
    let run := (satDisk.perform sectorRead).run (delivering (sectorReply 0x00)) ()
    Dialogue.exchanges run.events ≠ [] ∧ ∃ outcome, run.value = some outcome ∧
      outcome.1.result.isOk = false ∧ ¬ sectorRead.request.Cleared outcome.1.buffer := by
  intro run
  have hSent : (Dialogue.exchanges run.events).length = 1 := by decide +kernel
  have hKept : run.value.map (fun outcome => (outcome.1.result.isOk, outcome.1.buffer)) =
      some (false, some (List.replicate 512 0x5a)) := by
    decide +kernel
  obtain ⟨outcome, hValue, hOutcome⟩ := Option.map_eq_some_iff.mp hKept
  obtain ⟨hFailed, hBuffer⟩ := Prod.mk.inj hOutcome
  refine ⟨List.ne_nil_of_length_eq_add_one hSent, outcome, hValue, hFailed, fun hCleared => ?_⟩
  rw [hBuffer] at hCleared
  obtain ⟨bytes, hBytes, hZeros⟩ := hCleared
  cases hBytes
  exact absurd (congrArg (Bytes.byte · 0) hZeros) (by decide)

end Chain

end DriveBridge
