import DriveBridge.Proofs.Chain.Safety

/-! How devices conduct themselves on the wire. Opening and closing a device is one attempt each. A
command goes to the endpoint once, and the reply to it decides what the caller finds; while a device
carries out commands it stays where it is and as open as it is. -/
namespace DriveBridge.Chain

open Dialogue

/-- What a caller finds after a command, given what came back for it. -/
def received (command : Scsi.Command) : Except Fault Scsi.Reply → Scsi.Answer
  | .ok reply => ⟨.ok (), command.complete reply⟩
  | .error fault => ⟨.error fault.failure, command.untouched⟩

/-- An answer after a look at the sense data, which only a labelled query gets. -/
def judged (label : Option String) (answer : Scsi.Answer) : Scsi.Answer :=
  match label, answer.result with
  | some label, .ok () =>
      if answer.completion.verdict.isError then
        let text := answer.completion.verdict.text
        { answer with result := .error ⟨.transfer, s!"{label}scsi error {text}"⟩ }
      else answer
  | _, _ => answer

@[simp] theorem completion_judged (label : Option String) (answer : Scsi.Answer) :
    (judged label answer).completion = answer.completion := by
  unfold judged
  split
  · split <;> rfl
  · rfl

/-- Where a device is found, and whether it is open. -/
structure Standing where
  place : Place
  isOpen : Bool

def Standing.above (standing : Standing) : Standing :=
  { standing with place := standing.place.above }

def ScsiDevice.standing (device : ScsiDevice) : Standing := ⟨device.place, device.isOpen⟩

def AtaDevice.standing (device : AtaDevice) : Standing := ⟨device.place, device.isOpen⟩

/-- A device carries out commands: nothing else goes to its endpoint, and how it stands does not
change. -/
structure Steady (before : Standing) (below : List Exchange) (after : Standing) : Prop where
  commands : ∀ exchange ∈ below, ∃ command, exchange.query = .transmit before.place.unit command
  standing : after = before

/-- How opening a device that opens nothing but its endpoint may end. -/
structure Opens (before : Standing) (below : List Exchange) (result : Except Failure Unit)
    (after : Standing) : Prop where
  asked : ∃ reply, below = [⟨.connect before.place.unit, reply⟩] ∧
    result = reply.mapError Fault.failure
  place : after.place = before.place
  opened : result = .ok () → after.isOpen = true
  refused : result ≠ .ok () → after.isOpen = before.isOpen

/-- How closing a device may end. -/
structure Closes (before : Standing) (below : List Exchange) (result : Except Failure Unit)
    (after : Standing) : Prop where
  asked : ∃ reply, below = [⟨.disconnect before.place.unit, reply⟩] ∧
    result = reply.mapError Fault.failure
  place : after.place = before.place
  isOpen : result = .ok () → after.isOpen = false

section Above

variable {before after : Standing} {below : List Exchange}

theorem Steady.above (steady : Steady before below after) : Steady before.above below after.above where
  commands := steady.commands
  standing := congrArg Standing.above steady.standing

theorem Opens.above {result : Except Failure Unit} (opens : Opens before below result after) :
    Opens before.above below result after.above where
  asked := opens.asked
  place := congrArg Place.above opens.place
  opened := opens.opened
  refused := opens.refused

theorem Opens.standing_of_ok {result : Except Failure Unit}
    (opens : Opens before below result after) (hOk : result = .ok ()) :
    after = ⟨before.place, true⟩ := by
  rw [← opens.place, ← opens.opened hOk]

theorem Closes.above {result : Except Failure Unit} (closes : Closes before below result after) :
    Closes before.above below result after.above where
  asked := closes.asked
  place := congrArg Place.above closes.place
  isOpen := closes.isOpen

end Above

/-- A session is carried out as its commands are. -/
theorem Steady.through {Query State α : Type} {Answer : Query → Type} {stands : State → Standing}
    {reply : (query : Query) → State → Wire (Answer query × State)}
    (hReply : ∀ query state, (reply query state).Ensures fun below outcome =>
      Steady (stands state) below (stands outcome.2))
    {session : Dialogue Query Answer α} (safe : session.Safe) (state : State) :
    (session.through reply state).Ensures fun below outcome =>
      Steady (stands state) below (stands outcome.2) := by
  induction session generalizing state with
  | done value => exact ⟨List.forall_mem_nil _, rfl⟩
  | breach => exact safe
  | note entry rest ih => exact ih safe state
  | ask query next ih =>
      refine (hReply query state).bind fun first outcome hFirst => ?_
      refine (ih outcome.1 (safe _) outcome.2).mono fun later final hLater => ?_
      obtain ⟨hLaterCommands, hLater⟩ := hLater
      rw [hFirst.standing] at hLaterCommands hLater
      exact ⟨List.forall_mem_append.mpr ⟨hFirst.commands, hLaterCommands⟩, hLater⟩

namespace ScsiDevice

variable (device : ScsiDevice)

theorem ensures_opens : device.connect.Ensures fun below outcome =>
    Opens device.standing below outcome.1 outcome.2.standing := by
  induction device with
  | endpoint e =>
      intro reply
      cases reply with
      | ok _ => exact ⟨⟨_, rfl, rfl⟩, rfl, fun _ => rfl, fun hRefused => (hRefused rfl).elim⟩
      | error fault =>
          refine ⟨⟨_, rfl, rfl⟩, by simp [standing, place], nofun, fun _ => ?_⟩
          exact e.isOpen_suffer fault
  | sat layer inner ih => exact ensures_bind_done_iff.mpr (ih.mono fun _ _ hInner => hInner.above)

theorem ensures_closes : device.disconnect.Ensures fun below outcome =>
    Closes device.standing below outcome.1 outcome.2.standing := by
  induction device with
  | endpoint e =>
      intro reply
      cases reply with
      | ok _ => exact ⟨⟨_, rfl, rfl⟩, rfl, fun _ => rfl⟩
      | error fault => exact ⟨⟨_, rfl, rfl⟩, by simp [standing, place], nofun⟩
  | sat layer inner ih => exact ensures_bind_done_iff.mpr (ih.mono fun _ _ hInner => hInner.above)

theorem ensures_received (command : Scsi.Command) :
    (device.execute command).Ensures fun below outcome =>
      ∃ reply, below = [⟨.transmit device.place.unit command, reply⟩] ∧
        outcome.1 = received command reply := by
  induction device with
  | endpoint e =>
      intro reply
      cases reply <;> exact ⟨_, rfl, rfl⟩
  | sat layer inner ih => exact ensures_bind_done_iff.mpr ih

theorem ensures_judged (query : Scsi.Query) :
    (ScsiDevice.answer query device).Ensures fun below outcome =>
      ∃ reply, below = [⟨.transmit device.place.unit (query.sent device.profile.timeout), reply⟩] ∧
        outcome.1 = judged query.label (received (query.sent device.profile.timeout) reply) := by
  obtain ⟨command, label⟩ := query
  cases label with
  | none => exact device.ensures_received command
  | some label =>
      refine (device.ensures_received _).bind fun below ⟨answer, after⟩ ⟨reply, hBelow, hAnswer⟩ => ?_
      -- What follows is silent, so that it only remains to see what becomes of the answer.
      have hSilent {outcome : Scsi.Answer × ScsiDevice}
          (hJudged : outcome.1 = judged (some label) answer) :
          ∃ reply, below ++ [] = [⟨.transmit device.place.unit
              (Scsi.Query.sent ⟨command, some label⟩ device.profile.timeout), reply⟩] ∧
            outcome.1 = judged (some label)
              (received (Scsi.Query.sent ⟨command, some label⟩ device.profile.timeout) reply) :=
        ⟨reply, (List.append_nil _).trans hBelow, hJudged.trans (congrArg _ hAnswer)⟩
      dsimp only
      cases hResult : answer.result with
      | error failure => exact hSilent (by simp only [judged, hResult])
      | ok _ =>
          simp only [answer.completion.readVerdict_eq, demand_some, bind_eq, done_bind]
          split
          · next hError => exact hSilent (by simp only [judged, hResult, hError, if_true])
          · next hNone =>
              exact hSilent (by simp only [judged, hResult, hNone, Bool.false_eq_true, if_false])

/-- A device that serves one labelled command. -/
theorem ensures_checked {α : Type} (label : String) (command : Scsi.Command)
    (finish : Scsi.Answer → α) :
    (device.serve ((Scsi.sendChecked label command).bind fun answer =>
      .done (finish answer))).Ensures fun below outcome =>
        outcome.2.standing = device.standing ∧
        ∃ reply, below = [⟨.transmit device.place.unit
            { command with timeout := device.profile.timeout }, reply⟩] ∧
          outcome.1 = finish (judged (some label)
            (received { command with timeout := device.profile.timeout } reply)) := by
  have hServe : device.serve ((Scsi.sendChecked label command).bind fun answer =>
      .done (finish answer)) = (ScsiDevice.answer ⟨command, some label⟩ device).bind fun outcome =>
        .done (finish outcome.1, outcome.2) := rfl
  rw [hServe, ensures_bind_done_iff]
  refine ((device.ensures_judged _).and (device.ensures_answer _)).mono ?_
  intro below outcome ⟨⟨reply, hBelow, hAnswer⟩, hAnswered⟩
  refine ⟨?_, reply, hBelow, congrArg finish hAnswer⟩
  rw [standing, hAnswered.place, hAnswered.isOpen, standing]

/-- A device that serves a session carries out commands. -/
theorem ensures_steady {α : Type} {session : Scsi.Session α} (safe : session.Safe) :
    (device.serve session).Ensures fun below outcome =>
      Steady device.standing below outcome.2.standing := by
  refine Steady.through (fun query state => ?_) safe device
  refine (state.ensures_answer query).mono fun below outcome hAnswered => ?_
  obtain ⟨exchange, rfl, hTransmitted⟩ := hAnswered.asked
  refine ⟨List.forall_mem_singleton.mpr ⟨_, hTransmitted.query_eq⟩, ?_⟩
  rw [standing, hAnswered.place, hAnswered.isOpen, standing]

end ScsiDevice

namespace AtaDevice

variable (device : AtaDevice)

theorem ensures_closes : device.disconnect.Ensures fun below outcome =>
    Closes device.standing below outcome.1 outcome.2.standing := by
  induction device with
  | sat layer inner | bridge layer inner =>
      exact ensures_bind_done_iff.mpr (inner.ensures_closes.mono fun _ _ hInner => hInner.above)
  | routed layer inner ih =>
      exact ensures_bind_done_iff.mpr (ih.mono fun _ _ hInner => hInner.above)

theorem ensures_steady (query : Ata.Query) : (device.perform query).Ensures fun below outcome =>
    Steady device.standing below outcome.2.standing := by
  induction device with
  | sat layer inner =>
      have hInner := inner.ensures_steady (Ata.Sat.safe_perform query.request query.registers
        layer.length layer.profile.timeout)
      exact ensures_bind_done_iff.mpr (hInner.mono fun _ _ steady => steady.above)
  | bridge layer inner =>
      have hInner := inner.ensures_steady (layer.safe_perform query)
      exact ensures_bind_done_iff.mpr (hInner.mono fun _ _ steady => steady.above)
  | routed layer inner ih =>
      exact ensures_bind_done_iff.mpr (ih.mono fun _ _ steady => steady.above)

theorem ensures_steady_route (drive : UInt32) : (device.route drive).Ensures fun below outcome =>
    Steady device.standing below outcome.2.standing := by
  have hServed := Steady.through (fun query (state : AtaDevice) => state.ensures_steady query)
    (Multiplexer.safe_route drive) device
  refine ensures_bind_done_iff.mpr (hServed.mono fun below outcome steady => ?_)
  refine ⟨steady.commands, Eq.trans ?_ steady.standing⟩
  cases outcome.2 <;> rfl

end AtaDevice

end DriveBridge.Chain
