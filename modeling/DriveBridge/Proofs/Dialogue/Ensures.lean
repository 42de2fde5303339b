import DriveBridge.Proofs.Dialogue.Path

/-! What a dialogue ensures: no answers lead it to a breach, and whatever they are, what was said
and the value it ends in meet a condition. The rules follow the ways dialogues are put together,
so that a statement about a device is found from the statements about its parts. -/
namespace DriveBridge.Dialogue

variable {Query : Type} {Answer : Query → Type} {α β : Type}

def Ensures : Dialogue Query Answer α → (List (Exchange Query Answer) → α → Prop) → Prop
  | done value, post => post [] value
  | breach, _ => False
  | note _ rest, post => rest.Ensures post
  | ask query next, post =>
      ∀ answer, (next answer).Ensures fun later value => post (⟨query, answer⟩ :: later) value

/-- No answers lead to a breach. -/
def Safe (dialogue : Dialogue Query Answer α) : Prop := dialogue.Ensures fun _ _ => True

section Rules

variable {post weaker other : List (Exchange Query Answer) → α → Prop}

@[simp] theorem ensures_done_iff {value : α} : (done value).Ensures post ↔ post [] value := Iff.rfl

theorem Ensures.mono {dialogue : Dialogue Query Answer α} (ensures : dialogue.Ensures post)
    (h : ∀ exchanges value, post exchanges value → weaker exchanges value) :
    dialogue.Ensures weaker := by
  induction dialogue generalizing post weaker with
  | done value => exact h [] value ensures
  | breach => exact ensures
  | note entry rest ih => exact ih ensures h
  | ask query next ih =>
      intro answer
      exact ih answer (ensures answer) fun later value => h (⟨query, answer⟩ :: later) value

theorem Ensures.and {dialogue : Dialogue Query Answer α} (ensures : dialogue.Ensures post)
    (also : dialogue.Ensures other) :
    dialogue.Ensures fun exchanges value => post exchanges value ∧ other exchanges value := by
  induction dialogue generalizing post other with
  | done value => exact ⟨ensures, also⟩
  | breach => exact ensures
  | note entry rest ih => exact ih ensures also
  | ask query next ih =>
      intro answer
      exact ih answer (ensures answer) (also answer)

theorem Ensures.safe {dialogue : Dialogue Query Answer α} (ensures : dialogue.Ensures post) :
    dialogue.Safe :=
  ensures.mono fun _ _ _ => trivial

/-- Two dialogues in sequence ensure what the second one does from wherever the first one ends. -/
theorem ensures_bind_iff {first : Dialogue Query Answer α} {next : α → Dialogue Query Answer β}
    {post : List (Exchange Query Answer) → β → Prop} :
    (first.bind next).Ensures post ↔
      first.Ensures fun before middle =>
        (next middle).Ensures fun after value => post (before ++ after) value := by
  induction first generalizing post with
  | done middle => exact Iff.rfl
  | breach => exact Iff.rfl
  | note entry rest ih => exact ih
  | ask query rest ih => exact forall_congr' fun answer => ih answer

theorem Ensures.bind {first : Dialogue Query Answer α} {next : α → Dialogue Query Answer β}
    {middle : List (Exchange Query Answer) → α → Prop}
    {post : List (Exchange Query Answer) → β → Prop} (ensures : first.Ensures middle)
    (h : ∀ before value, middle before value →
      (next value).Ensures fun after result => post (before ++ after) result) :
    (first.bind next).Ensures post :=
  ensures_bind_iff.mpr (ensures.mono h)

/-- What is made of the end of a dialogue takes no more exchanges. -/
theorem ensures_bind_done_iff {first : Dialogue Query Answer α} {finish : α → β}
    {post : List (Exchange Query Answer) → β → Prop} :
    (first.bind fun value => done (finish value)).Ensures post ↔
      first.Ensures fun exchanges value => post exchanges (finish value) := by
  simp only [ensures_bind_iff, ensures_done_iff, List.append_nil]

theorem Safe.bind {first : Dialogue Query Answer α} {next : α → Dialogue Query Answer β}
    (safe : first.Safe) (h : ∀ value, (next value).Safe) : (first.bind next).Safe :=
  Ensures.bind safe fun _ value _ => h value

/-- After a safe dialogue, whatever it may have ended in. -/
theorem Safe.ensures_bind {first : Dialogue Query Answer α} {next : α → Dialogue Query Answer β}
    {post : β → Prop} (safe : first.Safe)
    (h : ∀ value, (next value).Ensures fun _ result => post result) :
    (first.bind next).Ensures fun _ result => post result :=
  Ensures.bind safe fun _ value _ => h value

theorem ensures_log_bind_iff {level : Level} {text : String}
    {next : Unit → Dialogue Query Answer α} :
    ((log level text).bind next).Ensures post ↔ (next ()).Ensures post := Iff.rfl

@[simp] theorem safe_done (value : α) : (done value : Dialogue Query Answer α).Safe := trivial

@[simp] theorem safe_query (query : Query) :
    (Dialogue.query query : Dialogue Query Answer (Answer query)).Safe := fun _ => trivial

@[simp] theorem safe_log (level : Level) (text : String) :
    (log level text : Dialogue Query Answer Unit).Safe := trivial

@[simp] theorem ensures_logAll_iff {notes : List Note}
    {post : List (Exchange Query Answer) → Unit → Prop} :
    (logAll notes : Dialogue Query Answer Unit).Ensures post ↔ post [] () := by
  induction notes with
  | nil => exact Iff.rfl
  | cons entry rest ih => exact ih

end Rules

/-- Against every party, a run ends and meets the condition. -/
theorem Ensures.of_run {dialogue : Dialogue Query Answer α} {State : Type}
    {post : List (Exchange Query Answer) → α → Prop} (ensures : dialogue.Ensures post)
    (party : (query : Query) → State → Answer query × State) (state : State) :
    ∃ value, (dialogue.run party state).value = some value ∧
      post (exchanges (dialogue.run party state).events) value := by
  induction dialogue generalizing post state with
  | done value => exact ⟨value, rfl, ensures⟩
  | breach => exact ensures.elim
  | note entry rest ih => exact ih ensures state
  | ask query next ih => exact ih (party query state).1 (ensures _) (party query state).2

/-- Every value that a dialogue may end in is the end of a path. -/
theorem Safe.ensures_path {dialogue : Dialogue Query Answer α} (safe : dialogue.Safe) :
    dialogue.Ensures fun exchanges value => Path dialogue exchanges value := by
  induction dialogue with
  | done value => exact .done value
  | breach => exact safe
  | note entry rest ih => exact (ih safe).mono fun _ _ path => .note path
  | ask query next ih =>
      intro answer
      exact (ih answer (safe answer)).mono fun _ _ path => .ask answer path

/-- On every path, what the dialogue ensures holds at the end. -/
theorem Ensures.of_path {dialogue : Dialogue Query Answer α}
    {post : List (Exchange Query Answer) → α → Prop} (ensures : dialogue.Ensures post)
    {exchanges : List (Exchange Query Answer)} {value : α}
    (path : Path dialogue exchanges value) : post exchanges value := by
  induction path generalizing post with
  | done value => exact ensures
  | note later ih => exact ih ensures
  | ask answer later ih => exact ih (ensures answer)

section Through

variable {State Query' : Type} {Answer' : Query' → Type}
  {reply : (query : Query) → State → Dialogue Query' Answer' (Answer query × State)}

/-- A conversation with whoever sits in between, and the one that was had below to answer it, query
by query. The relation says how one query is answered. -/
inductive Served
    (Step : State → Exchange Query Answer → List (Exchange Query' Answer') → State → Prop) :
    State → List (Exchange Query Answer) → List (Exchange Query' Answer') → State → Prop where
  | done (state : State) : Served Step state [] [] state
  | next {state middle final : State} {exchange : Exchange Query Answer}
      {above : List (Exchange Query Answer)} {first later : List (Exchange Query' Answer')}
      (step : Step state exchange first middle) (rest : Served Step middle above later final) :
      Served Step state (exchange :: above) (first ++ later) final

/-- Where a dialogue is answered by another one, it ensures what it does, for a conversation that
the one below serves. -/
theorem Ensures.served {dialogue : Dialogue Query Answer α} {state : State}
    {Step : State → Exchange Query Answer → List (Exchange Query' Answer') → State → Prop}
    {post : List (Exchange Query Answer) → α → Prop} (ensures : dialogue.Ensures post)
    (hReply : ∀ query state, (reply query state).Ensures fun below result =>
      Step state ⟨query, result.1⟩ below result.2) :
    (dialogue.through reply state).Ensures fun below result =>
      ∃ above, post above result.1 ∧ Served Step state above below result.2 := by
  induction dialogue generalizing state post with
  | done value => exact ⟨[], ensures, .done state⟩
  | breach => exact ensures
  | note entry rest ih => exact ih ensures
  | ask query next ih =>
      refine Ensures.bind (hReply query state) fun first result hStep => ?_
      refine (ih result.1 (ensures result.1)).mono fun later result' hLater => ?_
      obtain ⟨above, hPost, hServed⟩ := hLater
      exact ⟨⟨query, result.1⟩ :: above, hPost, .next hStep hServed⟩

/-- Where a dialogue is answered by another one, it ensures what it does for the answers that
occur, provided that each answer keeps to the terms that later ones count on. -/
theorem Ensures.through {dialogue : Dialogue Query Answer α} {state : State}
    {Invariant : State → Prop} {Reply : Exchange Query Answer → Prop}
    {Below : Exchange Query' Answer' → Prop} {post : α → Prop}
    (ensures : dialogue.Ensures fun above value =>
      (∀ exchange ∈ above, Reply exchange) → post value)
    (hReply : ∀ query state, Invariant state → (reply query state).Ensures fun below result =>
      (∀ exchange ∈ below, Below exchange) ∧ Reply ⟨query, result.1⟩ ∧ Invariant result.2)
    (hState : Invariant state) :
    (dialogue.through reply state).Ensures fun below result =>
      (∀ exchange ∈ below, Below exchange) ∧ post result.1 ∧ Invariant result.2 := by
  induction dialogue generalizing state with
  | done value => exact ⟨nofun, ensures nofun, hState⟩
  | breach => exact ensures
  | note entry rest ih => exact ih ensures hState
  | ask query next ih =>
      refine Ensures.bind (hReply query state hState) ?_
      intro before result hResult
      obtain ⟨hBefore, hAnswer, hNext⟩ := hResult
      have hRest := (ensures result.1).mono fun above value h hAbove =>
        h (List.forall_mem_cons.mpr ⟨hAnswer, hAbove⟩)
      refine (ih result.1 hRest hNext).mono ?_
      intro after result' hAfter
      obtain ⟨hLater, hValue, hFinal⟩ := hAfter
      exact ⟨List.forall_mem_append.mpr ⟨hBefore, hLater⟩, hValue, hFinal⟩

theorem Safe.through {dialogue : Dialogue Query Answer α} (safe : dialogue.Safe)
    (hReply : ∀ query state, (reply query state).Safe) (state : State) :
    (dialogue.through reply state).Safe := by
  induction dialogue generalizing state with
  | done value => trivial
  | breach => exact safe
  | note entry rest ih => exact ih safe state
  | ask query next ih => exact (hReply query state).bind fun result => ih result.1 (safe _) result.2

end Through

end DriveBridge.Dialogue
