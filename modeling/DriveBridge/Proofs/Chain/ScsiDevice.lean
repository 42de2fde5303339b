import DriveBridge.Chain.ScsiDevice
import DriveBridge.Proofs.Dialogue.Ensures
import DriveBridge.Proofs.Scsi.Plan
import DriveBridge.Proofs.Scsi.SenseReader

/-! What a device that takes SCSI commands ensures, however many layers it has: one query to the
endpoint for each operation, and the failure of it kept on top. -/
namespace DriveBridge

/-- The command of a query as it is sent. A labelled one is under the time limit of the device. -/
def Scsi.Query.sent (query : Scsi.Query) (limit : UInt32) : Scsi.Command :=
  match query.label with
  | none => query.command
  | some _ => { query.command with timeout := limit }

namespace Scsi.Query

variable (query : Query) (limit : UInt32)

@[simp] theorem direction_sent : (query.sent limit).direction = query.command.direction := by
  unfold sent
  split <;> rfl

@[simp] theorem data_sent : (query.sent limit).data = query.command.data := by
  unfold sent
  split <;> rfl

@[simp] theorem payload_sent : (query.sent limit).payload = query.command.payload := by
  simp only [Command.payload, direction_sent, data_sent]

end Scsi.Query

namespace Chain

/-- A query to an endpoint with the answer that it got. -/
abbrev Exchange := Dialogue.Exchange Wire.Query Wire.Answer

/-- How opening a device may end. -/
structure Connected (device : ScsiDevice) (exchanges : List Exchange)
    (outcome : Except Failure Unit × ScsiDevice) : Prop where
  asked : ∃ reply, exchanges = [⟨.connect device.place.unit, reply⟩] ∧
    outcome.1 = reply.mapError Fault.failure
  place : outcome.2.place = device.place
  isOpen : outcome.1 = .ok () → outcome.2.isOpen = true

/-- How a query comes to the wire, as one command to the endpoint. A reply makes it a success, except
that a labelled query fails where the sense data reports an error. -/
inductive Transmitted (unit : Nat) (limit : UInt32) : Scsi.Exchange → Exchange → Prop where
  | lost (query : Scsi.Query) (fault : Fault) :
      Transmitted unit limit ⟨query, ⟨.error fault.failure, (query.sent limit).untouched⟩⟩
        ⟨.transmit unit (query.sent limit), .error fault⟩
  | delivered (query : Scsi.Query) (reply : Scsi.Reply) (result : Except Failure Unit)
      (judged : result = .ok () ↔
        query.label = none ∨ ((query.sent limit).complete reply).verdict.isError = false) :
      Transmitted unit limit ⟨query, ⟨result, (query.sent limit).complete reply⟩⟩
        ⟨.transmit unit (query.sent limit), .ok reply⟩

theorem Transmitted.query_eq {unit : Nat} {limit : UInt32} {above : Scsi.Exchange}
    {exchange : Exchange} (transmitted : Transmitted unit limit above exchange) :
    exchange.query = .transmit unit (above.query.sent limit) := by
  cases transmitted <;> rfl

/-- An unlabelled query is sent as it is, whatever the time limit. -/
theorem Transmitted.of_unlabelled {unit : Nat} {limit other : UInt32} {command : Scsi.Command}
    {answer : Scsi.Answer} {exchange : Exchange}
    (transmitted : Transmitted unit limit ⟨⟨command, none⟩, answer⟩ exchange) :
    Transmitted unit other ⟨⟨command, none⟩, answer⟩ exchange := by
  cases transmitted with
  | lost _ fault => exact .lost ⟨command, none⟩ fault
  | delivered _ reply result judged => exact .delivered ⟨command, none⟩ reply result judged

/-- A labelled query is sent like an unlabelled one under the time limit of the device. What has
arrived is judged afterwards. -/
theorem Transmitted.of_judged {unit : Nat} {limit : UInt32} {command : Scsi.Command}
    {answer : Scsi.Answer} {exchange : Exchange} (label : String) (judged : Except Failure Unit)
    (transmitted :
      Transmitted unit limit ⟨⟨{ command with timeout := limit }, none⟩, answer⟩ exchange)
    (hLost : ∀ failure, answer.result = .error failure → judged = .error failure)
    (hDelivered : answer.result = .ok () →
      (judged = .ok () ↔ answer.completion.verdict.isError = false)) :
    Transmitted unit limit ⟨⟨command, some label⟩, { answer with result := judged }⟩ exchange := by
  cases transmitted with
  | lost _ fault =>
      rw [hLost _ rfl]
      exact .lost ⟨command, some label⟩ fault
  | delivered _ reply result hResult =>
      have hJudged := hDelivered (hResult.mpr (.inl rfl))
      refine .delivered ⟨command, some label⟩ reply judged (hJudged.trans ?_)
      exact ⟨.inr, fun h => h.resolve_left (Option.some_ne_none label)⟩

/-- How a query to a device may end. -/
structure Answered (device : ScsiDevice) (query : Scsi.Query) (exchanges : List Exchange)
    (outcome : Scsi.Answer × ScsiDevice) : Prop where
  asked : ∃ exchange, exchanges = [exchange] ∧
    Transmitted device.place.unit device.profile.timeout ⟨query, outcome.1⟩ exchange
  place : outcome.2.place = device.place
  isOpen : outcome.2.isOpen = device.isOpen
  timeout : outcome.2.profile.timeout = device.profile.timeout

@[simp] theorem Endpoint.unit_suffer (endpoint : Endpoint) (fault : Fault) :
    (endpoint.suffer fault).unit = endpoint.unit := by
  unfold suffer
  split <;> rfl

@[simp] theorem Endpoint.isOpen_suffer (endpoint : Endpoint) (fault : Fault) :
    (endpoint.suffer fault).isOpen = endpoint.isOpen := by
  unfold suffer
  split <;> rfl

@[simp] theorem Endpoint.timeout_suffer (endpoint : Endpoint) (fault : Fault) :
    (endpoint.suffer fault).profile.timeout = endpoint.profile.timeout := by
  unfold suffer
  split <;> rfl

namespace ScsiDevice

@[simp] theorem place_mapProfile (f : Profile → Profile) (device : ScsiDevice) :
    (device.mapProfile f).place = device.place := by
  cases device <;> rfl

@[simp] theorem isOpen_mapProfile (f : Profile → Profile) (device : ScsiDevice) :
    (device.mapProfile f).isOpen = device.isOpen := by
  cases device <;> rfl

@[simp] theorem timeout_record (failure : Failure) (device : ScsiDevice) :
    (device.mapProfile (·.record failure)).profile.timeout = device.profile.timeout := by
  cases device <;> rfl

theorem ensures_connect (device : ScsiDevice) : device.connect.Ensures (Connected device) := by
  induction device with
  | endpoint e =>
      intro reply
      cases reply with
      | ok _ => exact ⟨⟨_, rfl, rfl⟩, rfl, fun _ => rfl⟩
      | error fault => exact ⟨⟨_, rfl, rfl⟩, by simp [place], nofun⟩
  | sat layer inner ih =>
      refine ih.bind fun before outcome hInner => ?_
      obtain ⟨reply, hBefore, hResult⟩ := hInner.asked
      exact ⟨⟨reply, (List.append_nil _).trans hBefore, hResult⟩, congrArg Place.above hInner.place,
        hInner.isOpen⟩

theorem safe_disconnect (device : ScsiDevice) : device.disconnect.Safe := by
  induction device with
  | endpoint e =>
      intro reply
      cases reply <;> exact trivial
  | sat layer inner ih => exact ih.bind fun _ => Dialogue.safe_done _

theorem ensures_execute (device : ScsiDevice) (command : Scsi.Command) :
    (device.execute command).Ensures (Answered device ⟨command, none⟩) := by
  induction device with
  | endpoint e =>
      intro reply
      cases reply with
      | ok reply =>
          exact ⟨⟨_, rfl, .delivered ⟨command, none⟩ reply _ (by simp)⟩, rfl, rfl, rfl⟩
      | error fault =>
          refine ⟨⟨_, rfl, .lost ⟨command, none⟩ fault⟩, ?_, ?_, ?_⟩
          · simp [place]
          · simp [isOpen]
          · simp [profile]
  | sat layer inner ih =>
      refine ih.bind fun before outcome hInner => ?_
      obtain ⟨exchange, hBefore, hTransmitted⟩ := hInner.asked
      refine ⟨⟨exchange, (List.append_nil _).trans hBefore, hTransmitted.of_unlabelled⟩, ?_, ?_, ?_⟩
      · exact congrArg Place.above hInner.place
      · exact hInner.isOpen
      · exact Profile.timeout_settle _ _

theorem ensures_executeChecked (device : ScsiDevice) (label : String) (command : Scsi.Command) :
    (device.executeChecked label command).Ensures (Answered device ⟨command, some label⟩) := by
  refine (device.ensures_execute _).bind fun before outcome hSent => ?_
  obtain ⟨answer, after⟩ := outcome
  obtain ⟨exchange, hBefore, hTransmitted⟩ := hSent.asked
  dsimp only
  cases hResult : answer.result with
  | error failure =>
      refine ⟨⟨exchange, (List.append_nil _).trans hBefore, ?_⟩, hSent.place, hSent.isOpen,
        hSent.timeout⟩
      exact hTransmitted.of_judged label answer.result (fun _ h => h)
        fun h => by simp [hResult] at h
  | ok _ =>
      simp only [answer.completion.readVerdict_eq, Dialogue.demand_some, Dialogue.bind_eq,
        Dialogue.done_bind]
      split
      · next hError =>
          refine ⟨⟨exchange, (List.append_nil _).trans hBefore, ?_⟩, ?_, ?_, ?_⟩
          · exact hTransmitted.of_judged label _ (fun _ h => by simp [hResult] at h)
              fun _ => by simp [hError]
          · exact (place_mapProfile _ _).trans hSent.place
          · exact (isOpen_mapProfile _ _).trans hSent.isOpen
          · exact (timeout_record _ _).trans hSent.timeout
      · next hNone =>
          refine ⟨⟨exchange, (List.append_nil _).trans hBefore, ?_⟩, hSent.place, hSent.isOpen,
            hSent.timeout⟩
          exact hTransmitted.of_judged label answer.result (fun _ h => h)
            fun _ => by simpa [hResult] using hNone

theorem ensures_answer (query : Scsi.Query) (device : ScsiDevice) :
    (ScsiDevice.answer query device).Ensures (Answered device query) := by
  obtain ⟨command, label⟩ := query
  cases label with
  | none => exact device.ensures_execute command
  | some label => exact device.ensures_executeChecked label command

end ScsiDevice

end Chain

end DriveBridge
