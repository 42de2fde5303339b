import DriveBridge.Proofs.Ata.Buffer
import DriveBridge.Proofs.Chain.Relay

/-! The data of a request to an ATA device, on the wire: a read that succeeds has taken it from the
reply to one command, a write has sent it with one, and nothing else changes the buffer. -/
namespace DriveBridge.Chain

open Dialogue

/-- What becomes of the data of a request that one command moves, after so many others. -/
structure MovesData (phase : Nat) (request : Ata.Request) (below : List Exchange)
    (answer : Ata.Answer) : Prop where
  /-- The bytes that were replied, cut at the size; zeros up to the size; what lay past it. -/
  read : request.direction = .dataIn → answer.result = .ok () →
    ∃ sent reply before, below[phase]? = some sent ∧
      Filled sent (Bytes.zeros request.size) reply ∧ request.buffer = some before ∧
      answer.buffer = some (reply.data.take request.size ++
        Bytes.zeros (request.size - reply.data.length) ++ before.drop request.size)
  /-- The bytes that were to be transferred, and no others. -/
  written : request.direction = .dataOut → answer.result = .ok () →
    ∃ before, request.buffer = some before ∧
      (commands below).flatMap Scsi.Command.payload = before.take request.size
  unread : request.direction ≠ .dataIn → answer.buffer = request.buffer

section Carried

variable {phase : Nat} {request : Ata.Request} {answer : Ata.Answer} {inner : ScsiDevice}
  {above before after : List Scsi.Exchange} {below : List Exchange} {carrier : Scsi.Exchange}

/-- What was replied to a command is laid over zeros, and those over the buffer. -/
theorem buffer_of_filled {limit : UInt32} {unit : Nat} {sent : Exchange}
    (carries : request.Carries carrier.command) (hIn : request.direction = .dataIn)
    (transmitted : Transmitted unit limit carrier sent) (hOk : carrier.result = .ok ()) :
    ∃ reply before, Filled sent (Bytes.zeros request.size) reply ∧ request.buffer = some before ∧
      request.bufferAfter carrier.answer.completion.data = some (reply.data.take request.size ++
        Bytes.zeros (request.size - reply.data.length) ++ before.drop request.size) := by
  have hInward : carrier.command.direction = .fromDevice := by
    rw [carries.direction, hIn]
    rfl
  have hBlank : carrier.command.data = Bytes.zeros request.size := by
    rw [carries.data, Ata.Request.carriage, hIn]
  obtain ⟨reply, hFilled, hData⟩ := transmitted.exists_filled hOk hInward
  obtain ⟨before, hBefore, hRoom⟩ := carries.consistent.buffer (by simp [hIn])
  rw [hBlank] at hFilled hData
  have hLength : carrier.answer.completion.data.length = request.size := by
    rw [hData, Bytes.length_overlay, Bytes.length_zeros]
  refine ⟨reply, before, hFilled, hBefore, ?_⟩
  rw [Ata.Request.bufferAfter, hBefore, Option.map_some, Bytes.overlay_of_length_le (by omega),
    hLength, hData, Bytes.overlay_zeros]

/-- A command that is not to be filled comes back as it was sent. -/
theorem buffer_of_unfilled {limit : UInt32} {unit : Nat} {sent : Exchange}
    (carries : request.Carries carrier.command) (hOutward : request.direction ≠ .dataIn)
    (transmitted : Transmitted unit limit carrier sent) :
    request.bufferAfter carrier.answer.completion.data = request.buffer := by
  have hDirection : carrier.command.direction ≠ .fromDevice := by
    rw [carries.direction]
    cases hDirection : request.direction with
    | dataIn => exact (hOutward hDirection).elim
    | noData | dataOut => exact nofun
  rw [transmitted.data_eq (by rwa [Scsi.Query.direction_sent]), Scsi.Query.data_sent]
  show request.bufferAfter carrier.command.data = request.buffer
  rw [carries.data, Ata.Request.bufferAfter_carriage hOutward]

/-- Where only one command takes anything along, that is all that is sent. -/
theorem payloads_eq (relays : inner.Relays (before ++ carrier :: after) below)
    (others : ∀ other ∈ before ++ after, other.command.payload = []) :
    (commands below).flatMap Scsi.Command.payload = carrier.command.payload := by
  obtain ⟨hBefore, hAfter⟩ := List.forall_mem_append.mp others
  have hPayload : (fun exchange : Scsi.Exchange => Scsi.Command.payload
      (exchange.query.sent inner.profile.timeout)) = fun exchange => exchange.command.payload :=
    funext fun exchange => exchange.query.payload_sent _
  rw [relays.commands_eq, List.flatMap_map, hPayload, List.flatMap_append, List.flatMap_cons,
    List.flatMap_eq_nil_iff.mpr hBefore, List.flatMap_eq_nil_iff.mpr hAfter, List.nil_append,
    List.append_nil]

theorem movesData_of_moves (moves : Ata.Moves phase request above answer)
    (relays : inner.Relays above below) : MovesData phase request below answer := by
  cases moves with
  | unmoved kept failed =>
      exact ⟨fun _ hOk => (failed hOk).elim, fun _ hOk => (failed hOk).elim, fun _ => kept⟩
  | moved before after carrier split reached carries others delivered laid =>
      subst split
      have hCarrier : (before ++ carrier :: after)[phase]? = some carrier := by
        rw [← reached, List.getElem?_append_right (Nat.le_refl _), Nat.sub_self]
        rfl
      obtain ⟨sent, hSent, relayed⟩ := exists_counterpart relays hCarrier
      refine ⟨fun hIn hOk => ?_, fun hOut _ => ?_, fun hOutward => ?_⟩
      · obtain ⟨reply, given, hFilled, hGiven, hLeft⟩ :=
          buffer_of_filled carries hIn relayed.transmitted (delivered hOk)
        exact ⟨sent, reply, given, hSent, hFilled, hGiven, (laid (.inl hOk)).trans hLeft⟩
      · obtain ⟨given, hGiven, -⟩ := carries.consistent.buffer (by simp [hOut])
        refine ⟨given, hGiven, ?_⟩
        rw [payloads_eq relays others, Scsi.Command.payload, carries.direction, carries.data,
          Ata.Request.carriage, hOut, hGiven]
        rfl
      · rw [laid (.inr hOutward), buffer_of_unfilled carries hOutward relayed.transmitted]

end Carried

/-- Whatever the endpoint replies, and however many multiplexers lie between: a read that succeeds has
left in the buffer what was replied to the command that moves the data, cut at the size, with zeros up
to the size, and has left the rest of the buffer alone. A write that succeeds has sent the bytes to be
transferred, once and nothing else. Requests that do not read leave the buffer as it was, however they
end. Left out are requests for the health where they take a byte of their own, and bridges that have
operations of their own. -/
theorem AtaDevice.moves_data (device : AtaDevice) (query : Ata.Query)
    (hCarries : device.bottom.CarriesData query.request) :
    (device.perform query).Ensures fun below outcome =>
      MovesData (device.bottom.dataPhase query.request) query.request below outcome.1 := by
  refine (device.ensures_perform_bottom (Ata.Translator.ensures_moves hCarries)).mono ?_
  intro below outcome ⟨inner, above, moves, relays⟩
  exact movesData_of_moves moves relays

/-- A drive behind a multiplexer, and a bridge that takes 48-bit requests in two commands. -/
def multiplexedDisk : AtaDevice :=
  let endpoint := Endpoint.new "/dev/sdb" 0
  let bridge : AtaDevice := .bridge (.atop endpoint.profile "" .sunplus) (.endpoint endpoint)
  .routed (.atop bridge.profile 1) bridge

/-- A 48-bit read of one sector. The buffer has two bytes more than that. -/
def extendedRead : Ata.Query :=
  let request : Ata.Request :=
    { registers := ({} : Ata.RegisterFile _).set .command Ata.Opcode.readLogExt }
  ⟨request.setDataInExtended (List.replicate 514 0xff) 1, {}⟩

/-- Three bytes that are replied to the second command end up in the buffer. -/
theorem AtaDevice.short_sector_padded :
    let run := (multiplexedDisk.perform extendedRead).run (delivering { data := [1, 2, 3] }) ()
    ∃ outcome, run.value = some outcome ∧
      outcome.1.buffer = some ([1, 2, 3] ++ Bytes.zeros 509 ++ [0xff, 0xff]) ∧
        MovesData 1 extendedRead.request (exchanges run.events) outcome.1 := by
  intro run
  have hLeft : run.value.map (·.1.buffer) =
      some (some ([1, 2, 3] ++ Bytes.zeros 509 ++ [0xff, 0xff])) := by
    decide +kernel
  have hExtended : extendedRead.request.registers.isExtended = true := by decide
  subst run
  generalize extendedRead = query at hLeft hExtended ⊢
  have hPhase : multiplexedDisk.bottom.dataPhase query.request = 1 := if_pos hExtended
  obtain ⟨outcome, hValue, moves⟩ := Dialogue.Ensures.of_run
    (multiplexedDisk.moves_data query trivial) (delivering { data := [1, 2, 3] }) ()
  rw [hPhase] at moves
  rw [hValue] at hLeft
  exact ⟨outcome, hValue, Option.some_inj.mp hLeft, moves⟩

end DriveBridge.Chain
