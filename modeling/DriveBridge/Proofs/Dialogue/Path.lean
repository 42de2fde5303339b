import DriveBridge.Dialogue

/-! The conversations that a dialogue can lead to. A path records what was asked and what was
answered, and ends in a value; the answers are not constrained by any party. What holds on every
path therefore holds against every party. -/
namespace DriveBridge.Dialogue

variable {Query : Type} {Answer : Query → Type} {α β : Type}

/-- A query with the answer that it got. -/
structure Exchange (Query : Type) (Answer : Query → Type) where
  query : Query
  answer : Answer query

/-- A dialogue may lead through these exchanges, in this order and without others, to this value.
Log records are passed over. No path ends in a breach. -/
inductive Path : Dialogue Query Answer α → List (Exchange Query Answer) → α → Prop where
  | done (value : α) : Path (done value) [] value
  | note {entry : Note} {rest : Dialogue Query Answer α}
      {exchanges : List (Exchange Query Answer)} {value : α}
      (later : Path rest exchanges value) : Path (note entry rest) exchanges value
  | ask {query : Query} {next : Answer query → Dialogue Query Answer α}
      {exchanges : List (Exchange Query Answer)} {value : α} (answer : Answer query)
      (later : Path (next answer) exchanges value) :
      Path (ask query next) (⟨query, answer⟩ :: exchanges) value

@[simp] theorem path_done_iff {value result : α} {exchanges : List (Exchange Query Answer)} :
    Path (done value) exchanges result ↔ exchanges = [] ∧ result = value := by
  constructor
  · intro hPath
    cases hPath
    exact ⟨rfl, rfl⟩
  · intro hEnds
    obtain ⟨rfl, rfl⟩ := hEnds
    exact .done _

@[simp] theorem not_path_breach {value : α} {exchanges : List (Exchange Query Answer)} :
    ¬ Path breach exchanges value := by
  intro hPath
  cases hPath

@[simp] theorem path_note_iff {entry : Note} {rest : Dialogue Query Answer α} {value : α}
    {exchanges : List (Exchange Query Answer)} :
    Path (note entry rest) exchanges value ↔ Path rest exchanges value := by
  constructor
  · intro hPath
    cases hPath with
    | note later => exact later
  · exact .note

@[simp] theorem path_ask_iff {query : Query} {next : Answer query → Dialogue Query Answer α}
    {exchanges : List (Exchange Query Answer)} {value : α} :
    Path (ask query next) exchanges value ↔
      ∃ answer later, exchanges = ⟨query, answer⟩ :: later ∧ Path (next answer) later value := by
  constructor
  · intro hPath
    cases hPath with
    | ask answer later => exact ⟨answer, _, rfl, later⟩
  · intro hPath
    obtain ⟨answer, _, rfl, later⟩ := hPath
    exact .ask answer later

/-- A path through two dialogues in sequence falls into a path through each. -/
theorem path_bind_iff {first : Dialogue Query Answer α} {next : α → Dialogue Query Answer β}
    {exchanges : List (Exchange Query Answer)} {value : β} :
    Path (first.bind next) exchanges value ↔
      ∃ before middle after, exchanges = before ++ after ∧ Path first before middle ∧
        Path (next middle) after value := by
  induction first generalizing exchanges with
  | done middle =>
      constructor
      · intro hNext
        exact ⟨[], middle, exchanges, rfl, .done middle, hNext⟩
      · intro hParts
        obtain ⟨before, _, after, rfl, hBefore, hAfter⟩ := hParts
        obtain ⟨rfl, rfl⟩ := path_done_iff.mp hBefore
        exact hAfter
  | breach => simp
  | note entry rest ih => simp [ih]
  | ask query rest ih =>
      simp only [ask_bind, path_ask_iff, ih]
      constructor
      · intro hAsked
        obtain ⟨answer, _, rfl, before, middle, after, rfl, hBefore, hAfter⟩ := hAsked
        exact ⟨_, middle, after, rfl, ⟨answer, before, rfl, hBefore⟩, hAfter⟩
      · intro hParts
        obtain ⟨_, middle, after, rfl, ⟨answer, before, rfl, hBefore⟩, hAfter⟩ := hParts
        exact ⟨answer, _, rfl, before, middle, after, rfl, hBefore, hAfter⟩

@[simp] theorem path_log_bind_iff {level : Level} {text : String}
    {next : Unit → Dialogue Query Answer α} {exchanges : List (Exchange Query Answer)} {value : α} :
    Path ((log level text).bind next) exchanges value ↔ Path (next ()) exchanges value :=
  path_note_iff

/-- Log records in front of a dialogue make no difference to its paths. -/
@[simp] theorem path_logAll_bind_iff {notes : List Note} {next : Unit → Dialogue Query Answer α}
    {exchanges : List (Exchange Query Answer)} {value : α} :
    Path ((logAll notes).bind next) exchanges value ↔ Path (next ()) exchanges value := by
  induction notes with
  | nil => rfl
  | cons entry rest ih => simpa [logAll] using ih

/-- The answers of a conversation determine its queries and its value. -/
theorem Path.value_unique {dialogue : Dialogue Query Answer α}
    {exchanges : List (Exchange Query Answer)} {value other : α}
    (path : Path dialogue exchanges value) (again : Path dialogue exchanges other) :
    other = value := by
  induction path with
  | done value => exact (path_done_iff.mp again).2
  | note later ih => exact ih (path_note_iff.mp again)
  | ask answer later ih =>
      obtain ⟨answer', _, hEq, hLater⟩ := path_ask_iff.mp again
      cases hEq
      exact ih hLater

/-- Where one dialogue answers the queries of another, every path contains one of the dialogue
that asks. -/
theorem path_of_path_through {State Query' : Type} {Answer' : Query' → Type}
    (reply : (query : Query) → State → Dialogue Query' Answer' (Answer query × State))
    (dialogue : Dialogue Query Answer α) (state : State) {below : List (Exchange Query' Answer')}
    {value : α} {final : State}
    (path : Path (dialogue.through reply state) below (value, final)) :
    ∃ exchanges, Path dialogue exchanges value := by
  induction dialogue generalizing state below with
  | done result =>
      obtain ⟨-, hValue⟩ := path_done_iff.mp path
      cases hValue
      exact ⟨[], .done value⟩
  | breach => exact (not_path_breach path).elim
  | note entry rest ih =>
      obtain ⟨exchanges, hRest⟩ := ih state (path_note_iff.mp path)
      exact ⟨exchanges, .note hRest⟩
  | ask query next ih =>
      obtain ⟨_, ⟨answer, _⟩, _, -, -, hLater⟩ := path_bind_iff.mp path
      obtain ⟨exchanges, hNext⟩ := ih answer _ hLater
      exact ⟨_, .ask answer hNext⟩

/-- The exchanges among the events of a run. -/
def exchanges : List (Event Query Answer) → List (Exchange Query Answer)
  | [] => []
  | .noted _ :: rest => exchanges rest
  | .asked query answer :: rest => ⟨query, answer⟩ :: exchanges rest

/-- Whatever party a dialogue is played against, a run that ends follows a path. -/
theorem path_of_run {State : Type} (party : (query : Query) → State → Answer query × State)
    (dialogue : Dialogue Query Answer α) (state : State) {value : α}
    (ended : (dialogue.run party state).value = some value) :
    Path dialogue (exchanges (dialogue.run party state).events) value := by
  induction dialogue generalizing state with
  | done result =>
      have hResult : result = value := by simpa [run] using ended
      subst hResult
      exact .done _
  | breach => simp [run] at ended
  | note entry rest ih => exact .note (ih state ended)
  | ask query next ih => exact .ask _ (ih _ _ ended)

/-- What is made of the value of a dialogue afterwards changes nothing else about its runs. -/
theorem run_bind_done {State : Type} (party : (query : Query) → State → Answer query × State)
    (dialogue : Dialogue Query Answer α) (finish : α → β) (state : State) :
    (dialogue.bind fun value => done (finish value)).run party state =
      ⟨(dialogue.run party state).value.map finish, (dialogue.run party state).events,
        (dialogue.run party state).state⟩ := by
  induction dialogue generalizing state with
  | done value | breach => rfl
  | note entry rest ih => simp only [note_bind, run, ih]
  | ask query next ih => simp only [ask_bind, run, ih]

/-- Every answer of a run was given by the party, in some state. -/
theorem answer_of_mem_run {State : Type} (party : (query : Query) → State → Answer query × State)
    (dialogue : Dialogue Query Answer α) (state : State) :
    ∀ exchange ∈ exchanges (dialogue.run party state).events,
      ∃ state, exchange.answer = (party exchange.query state).1 := by
  induction dialogue generalizing state with
  | done value | breach => exact List.forall_mem_nil _
  | note entry rest ih => exact ih state
  | ask query next ih => exact List.forall_mem_cons.mpr ⟨⟨state, rfl⟩, ih _ _⟩

end DriveBridge.Dialogue
