import DriveBridge.Scsi.Command

/-! Sessions that keep failures as they go. A translator keeps the failure of every command when it
is answered, and a failure of its own on the way out. What has been kept in the end is compared with
a session that keeps nothing: it says and sends the same, and its value tells what has been kept. -/
namespace DriveBridge.Scsi

/-- A session of a translator, with the profile that failures are kept in. -/
abbrev Keeper := StateT Profile Session

namespace Keeper

/-- Ends with a failure, which is kept. -/
def fail {α : Type} (failure : Failure) (value : α) : Keeper α := do
  modify (·.record failure)
  return value

/-- Does what a session does, which keeps nothing. -/
def lift {α : Type} (session : Session α) : Keeper α := StateT.lift session

theorem lift_pure {α : Type} (value : α) : lift (pure value) = pure value := rfl

/-- Answers a command, and keeps it if that is a failure. -/
def kept (session : Session Answer) : Keeper Answer := do
  let answer ← lift session
  modify (·.settle answer.result)
  return answer

/-- Sends a command and leaves its sense data to the caller. -/
def send (command : Command) : Keeper Answer := kept (Scsi.send command)

/-- Sends a command whose sense data the device below judges. -/
def sendChecked (label : String) (command : Command) : Keeper Answer :=
  kept (Scsi.sendChecked label command)

end Keeper

/-- The keeper goes the way of the session, and its profile ends as the value tells. -/
def Keeps {α : Type} (profile : Profile) (keeper : Keeper α) (session : Session α)
    (after : α → Profile) : Prop :=
  keeper.run profile = session.bind fun value => .done (value, after value)

section Keeps

variable {α β : Type} {profile : Profile} {after : α → Profile} {value : α}

theorem keeps_pure (h : after value = profile) : Keeps profile (pure value) (pure value) after :=
  congrArg (fun profile => Dialogue.done (value, profile)) h.symm

theorem keeps_fail {failure : Failure} (h : after value = profile.record failure) :
    Keeps profile (.fail failure value) (pure value) after :=
  congrArg (fun profile => Dialogue.done (value, profile)) h.symm

theorem keeps_lift (session : Session α) :
    Keeps profile (.lift session) session fun _ => profile := rfl

theorem keeps_send (command : Command) :
    Keeps profile (.send command) (send command) fun answer => profile.settle answer.result := rfl

theorem keeps_sendChecked (label : String) (command : Command) :
    Keeps profile (.sendChecked label command) (sendChecked label command)
      fun answer => profile.settle answer.result := rfl

theorem Keeps.bind {first : Keeper β} {first' : Session β} {middle : β → Profile}
    {next : β → Keeper α} {next' : β → Session α} (keeps : Keeps profile first first' middle)
    (h : ∀ value, Keeps (middle value) (next value) (next' value) after) :
    Keeps profile (first >>= next) (first' >>= next') after := by
  show (first.run profile).bind (fun outcome => (next outcome.1).run outcome.2) =
    (first'.bind next').bind _
  rw [keeps, Dialogue.bind_assoc, Dialogue.bind_assoc]
  exact congrArg first'.bind (funext h)

/-- The same goes on after either of two sessions. -/
theorem keeps_ite_bind {c : Prop} [Decidable c] {first second : Keeper β}
    {first' second' : Session β} {middle : β → Profile} {next : β → Keeper α}
    {next' : β → Session α} (pos : Keeps profile first first' middle)
    (neg : Keeps profile second second' middle)
    (h : ∀ value, Keeps (middle value) (next value) (next' value) after) :
    Keeps profile (if c then first >>= next else second >>= next)
      (if c then first' >>= next' else second' >>= next') after := by
  split
  · exact pos.bind h
  · exact neg.bind h

/-- Something may come first. -/
theorem keeps_ite_rest {c : Prop} [Decidable c] {first rest : Keeper α} {first' rest' : Session α}
    (h : Keeps profile rest rest' after → Keeps profile first first' after)
    (keeps : Keeps profile rest rest' after) :
    Keeps profile (if c then first else rest) (if c then first' else rest') after := by
  split
  · exact h keeps
  · exact keeps

/-- What the profile says is known on the way. -/
theorem keeps_get_bind {next : Profile → Keeper α} {session : Session α}
    (keeps : Keeps profile (next profile) session after) :
    Keeps profile (get >>= next) session after := keeps

theorem keeps_modify_bind {f : Profile → Profile} {next : PUnit → Keeper α} {session : Session α}
    (keeps : Keeps (f profile) (next ⟨⟩) session after) :
    Keeps profile (modify f >>= next) session after := keeps

/-- The same holds where both are served by a device, or by whatever stands in its place. -/
theorem Keeps.through {keeper : Keeper α} {session : Session α} {State Query' : Type}
    {Answer' : Query' → Type} (keeps : Keeps profile keeper session after)
    (answer : Query → State → Dialogue Query' Answer' (Answer × State)) (state : State) :
    (keeper.run profile).through answer state =
      (session.through answer state).bind fun served =>
        .done ((served.1, after served.1), served.2) := by
  rw [keeps, Dialogue.through_bind]
  rfl

end Keeps

end DriveBridge.Scsi
