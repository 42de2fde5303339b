/-! A dialogue is a finite strategy for talking to a party that answers queries. It is data:
what it asks next depends on the answers so far and on nothing else, so a statement about
every possible party is a statement about every path through the tree.

`through` lets one dialogue answer the queries of another, which is how a translator sits on
the device below it. `run` plays a dialogue against a party with a state. -/
namespace DriveBridge

inductive Level where
  | trace | debug | info | warn | error
  deriving DecidableEq, Repr

/-- A log record. -/
structure Note where
  level : Level
  text : String
  deriving DecidableEq, Repr

/-- `breach` is the end of a run that broke a contract of the code it called, such as a cut
past the end of a buffer. It is not a failure that a caller could handle. -/
inductive Dialogue (Query : Type) (Answer : Query → Type) (α : Type) where
  | done (value : α)
  | breach
  | note (entry : Note) (rest : Dialogue Query Answer α)
  | ask (query : Query) (next : Answer query → Dialogue Query Answer α)

namespace Dialogue

variable {Query : Type} {Answer : Query → Type} {α β γ : Type}

protected def bind : Dialogue Query Answer α → (α → Dialogue Query Answer β) →
    Dialogue Query Answer β
  | done value, f => f value
  | breach, _ => breach
  | note entry rest, f => note entry (rest.bind f)
  | ask query next, f => ask query fun answer => (next answer).bind f

instance : Inhabited (Dialogue Query Answer α) := ⟨breach⟩

instance : Monad (Dialogue Query Answer) where
  pure := done
  bind := Dialogue.bind

theorem pure_eq (value : α) : (pure value : Dialogue Query Answer α) = done value := rfl

theorem bind_eq (first : Dialogue Query Answer α) (f : α → Dialogue Query Answer β) :
    first >>= f = first.bind f := rfl

@[simp] theorem done_bind (value : α) (f : α → Dialogue Query Answer β) :
    (done value).bind f = f value := rfl

@[simp] theorem breach_bind (f : α → Dialogue Query Answer β) :
    (breach : Dialogue Query Answer α).bind f = breach := rfl

@[simp] theorem note_bind (entry : Note) (rest : Dialogue Query Answer α)
    (f : α → Dialogue Query Answer β) :
    (note entry rest).bind f = note entry (rest.bind f) := rfl

@[simp] theorem ask_bind (query : Query) (next : Answer query → Dialogue Query Answer α)
    (f : α → Dialogue Query Answer β) :
    (ask query next).bind f = ask query fun answer => (next answer).bind f := rfl

@[simp] theorem bind_done (dialogue : Dialogue Query Answer α) :
    dialogue.bind done = dialogue := by
  induction dialogue with
  | done _ => rfl
  | breach => rfl
  | note entry rest ih => simp [ih]
  | ask query next ih => simp [ih]

theorem bind_assoc (dialogue : Dialogue Query Answer α) (f : α → Dialogue Query Answer β)
    (g : β → Dialogue Query Answer γ) :
    (dialogue.bind f).bind g = dialogue.bind fun value => (f value).bind g := by
  induction dialogue with
  | done _ => rfl
  | breach => rfl
  | note entry rest ih => simp [ih]
  | ask query next ih => simp [ih]

instance : LawfulMonad (Dialogue Query Answer) :=
  LawfulMonad.mk' _ (fun dialogue => bind_done dialogue) (fun value f => done_bind value f)
    (fun dialogue f g => bind_assoc dialogue f g)

/-- One query, answered. -/
def query (query : Query) : Dialogue Query Answer (Answer query) := ask query done

/-- One log record. -/
def log (level : Level) (text : String) : Dialogue Query Answer Unit :=
  note ⟨level, text⟩ (done ())

def logAll : List Note → Dialogue Query Answer Unit
  | [] => done ()
  | entry :: rest => note entry (logAll rest)

/-- Goes on with a value that the contract promises. -/
def demand : Option α → Dialogue Query Answer α
  | some value => done value
  | none => breach

@[simp] theorem demand_some (value : α) :
    (demand (some value) : Dialogue Query Answer α) = done value := rfl

/-- Answers every query of the first dialogue by a dialogue with the party below, threading
the state of whoever sits in between. -/
def through {State Query' : Type} {Answer' : Query' → Type}
    (answer : (query : Query) → State → Dialogue Query' Answer' (Answer query × State)) :
    Dialogue Query Answer α → State → Dialogue Query' Answer' (α × State)
  | done value, state => done (value, state)
  | breach, _ => breach
  | note entry rest, state => note entry (through answer rest state)
  | ask query next, state =>
      (answer query state).bind fun reply => through answer (next reply.1) reply.2

section Through

variable {State Query' : Type} {Answer' : Query' → Type}
  (answer : (query : Query) → State → Dialogue Query' Answer' (Answer query × State))

@[simp] theorem through_done (value : α) (state : State) :
    through answer (done value) state = done (value, state) := rfl

@[simp] theorem through_breach (state : State) :
    through answer (breach : Dialogue Query Answer α) state = breach := rfl

@[simp] theorem through_note (entry : Note) (rest : Dialogue Query Answer α) (state : State) :
    through answer (note entry rest) state = note entry (through answer rest state) := rfl

@[simp] theorem through_ask (query : Query) (next : Answer query → Dialogue Query Answer α)
    (state : State) :
    through answer (ask query next) state =
      (answer query state).bind fun reply => through answer (next reply.1) reply.2 := rfl

theorem through_bind (dialogue : Dialogue Query Answer α) (f : α → Dialogue Query Answer β)
    (state : State) :
    through answer (dialogue.bind f) state =
      (through answer dialogue state).bind fun result => through answer (f result.1) result.2 := by
  induction dialogue generalizing state with
  | done _ => rfl
  | breach => rfl
  | note entry rest ih => simp [ih]
  | ask query next ih => simp [ih, bind_assoc]

end Through

/-- What an observer of a run sees, in order. -/
inductive Event (Query : Type) (Answer : Query → Type) where
  | noted (entry : Note)
  | asked (query : Query) (answer : Answer query)

/-- A finished run. There is no value after a breach. -/
structure Run (Query : Type) (Answer : Query → Type) (State α : Type) where
  value : Option α
  events : List (Event Query Answer)
  state : State

/-- Plays a dialogue against a party whose answers depend on its state. -/
def run {State : Type} (party : (query : Query) → State → Answer query × State) :
    Dialogue Query Answer α → State → Run Query Answer State α
  | done value, state => ⟨some value, [], state⟩
  | breach, state => ⟨none, [], state⟩
  | note entry rest, state =>
      let later := run party rest state
      ⟨later.value, .noted entry :: later.events, later.state⟩
  | ask query next, state =>
      let reply := party query state
      let later := run party (next reply.1) reply.2
      ⟨later.value, .asked query reply.1 :: later.events, later.state⟩

end Dialogue

end DriveBridge
