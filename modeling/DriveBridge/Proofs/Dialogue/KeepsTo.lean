import DriveBridge.Proofs.Dialogue.Ensures

/-! What a dialogue keeps to: the queries that it may ask, whatever the answers so far, and a
condition on every value that it may end in. A breach is no objection, so that nothing has to be
known of the answers to find out what is asked. Of a safe dialogue it is all part of what the
dialogue ensures. -/
namespace DriveBridge.Dialogue

variable {Query : Type} {Answer : Query → Type} {α β : Type}

def KeepsTo (allowed : Query → Prop) : Dialogue Query Answer α → (α → Prop) → Prop
  | done value, post => post value
  | breach, _ => True
  | note _ rest, post => rest.KeepsTo allowed post
  | ask query next, post => allowed query ∧ ∀ answer, (next answer).KeepsTo allowed post

/-- Only such queries are asked. -/
def Asks (dialogue : Dialogue Query Answer α) (allowed : Query → Prop) : Prop :=
  dialogue.KeepsTo allowed fun _ => True

/-- Whatever value the dialogue ends in meets the condition. -/
def EndsIn (dialogue : Dialogue Query Answer α) (post : α → Prop) : Prop :=
  dialogue.KeepsTo (fun _ => True) post

section Rules

variable {allowed wider : Query → Prop} {post weaker : α → Prop}

@[simp] theorem keepsTo_done_iff {value : α} :
    (done value : Dialogue Query Answer α).KeepsTo allowed post ↔ post value := Iff.rfl

theorem KeepsTo.mono {dialogue : Dialogue Query Answer α} (keeps : dialogue.KeepsTo allowed post)
    (hAllowed : ∀ query, allowed query → wider query) (hPost : ∀ value, post value → weaker value) :
    dialogue.KeepsTo wider weaker := by
  induction dialogue with
  | done value => exact hPost value keeps
  | breach => trivial
  | note entry rest ih => exact ih keeps
  | ask query next ih => exact ⟨hAllowed query keeps.1, fun answer => ih answer (keeps.2 answer)⟩

theorem EndsIn.mono {dialogue : Dialogue Query Answer α} (ends : dialogue.EndsIn post)
    (h : ∀ value, post value → weaker value) : dialogue.EndsIn weaker :=
  KeepsTo.mono ends (fun _ hAllowed => hAllowed) h

theorem KeepsTo.asks {dialogue : Dialogue Query Answer α} (keeps : dialogue.KeepsTo allowed post) :
    dialogue.Asks allowed :=
  keeps.mono (fun _ hAllowed => hAllowed) fun _ _ => trivial

theorem KeepsTo.bind {first : Dialogue Query Answer α} {next : α → Dialogue Query Answer β}
    {middle : α → Prop} {post : β → Prop} (keeps : first.KeepsTo allowed middle)
    (h : ∀ value, middle value → (next value).KeepsTo allowed post) :
    (first.bind next).KeepsTo allowed post := by
  induction first with
  | done value => exact h value keeps
  | breach => trivial
  | note entry rest ih => exact ih keeps
  | ask query rest ih => exact ⟨keeps.1, fun answer => ih answer (keeps.2 answer)⟩

/-- Every dialogue keeps to what is no restriction. -/
theorem asks_any (dialogue : Dialogue Query Answer α) : dialogue.Asks fun _ => True := by
  induction dialogue with
  | done value | breach => trivial
  | note entry rest ih => exact ih
  | ask query next ih => exact ⟨trivial, ih⟩

theorem asks_done (value : α) : (done value : Dialogue Query Answer α).Asks allowed := trivial

theorem asks_log (level : Level) (text : String) :
    (log level text : Dialogue Query Answer Unit).Asks allowed := trivial

theorem Asks.bind {first : Dialogue Query Answer α} {next : α → Dialogue Query Answer β}
    (asks : first.Asks allowed) (h : ∀ value, (next value).Asks allowed) :
    (first.bind next).Asks allowed :=
  KeepsTo.bind asks fun value _ => h value

/-- Where the end is settled by what comes last, it does not matter what came before. -/
theorem endsIn_bind {first : Dialogue Query Answer α} {next : α → Dialogue Query Answer β}
    {post : β → Prop} (h : ∀ value, (next value).EndsIn post) : (first.bind next).EndsIn post :=
  KeepsTo.bind (asks_any first) fun value _ => h value

/-- What a contract promises is not a question to anybody. -/
theorem asks_demand (promised : Option α) :
    (demand promised : Dialogue Query Answer α).Asks allowed := by
  cases promised <;> trivial

theorem asks_logAll (notes : List Note) :
    (logAll notes : Dialogue Query Answer Unit).Asks allowed := by
  induction notes with
  | nil => trivial
  | cons entry rest ih => exact ih

/-- A safe dialogue ensures what it keeps to. -/
theorem KeepsTo.ensures {dialogue : Dialogue Query Answer α}
    (keeps : dialogue.KeepsTo allowed post) (safe : dialogue.Safe) :
    dialogue.Ensures fun exchanges value =>
      (∀ exchange ∈ exchanges, allowed exchange.query) ∧ post value := by
  induction dialogue with
  | done value => exact ⟨List.forall_mem_nil _, keeps⟩
  | breach => exact safe
  | note entry rest ih => exact ih keeps safe
  | ask query next ih =>
      intro answer
      refine (ih answer (keeps.2 answer) (safe answer)).mono fun later value hLater => ?_
      exact ⟨List.forall_mem_cons.mpr ⟨keeps.1, hLater.1⟩, hLater.2⟩

/-- On every path, the value at the end meets the condition. -/
theorem KeepsTo.of_path {dialogue : Dialogue Query Answer α}
    (keeps : dialogue.KeepsTo allowed post) {exchanges : List (Exchange Query Answer)} {value : α}
    (path : Path dialogue exchanges value) : post value := by
  induction path with
  | done value => exact keeps
  | note later ih => exact ih keeps
  | ask answer later ih => exact ih (keeps.2 answer)

/-- A safe dialogue that asks nothing goes straight to its value. -/
theorem Asks.ensures_silent {dialogue : Dialogue Query Answer α}
    (silent : dialogue.Asks fun _ => False) (safe : dialogue.Safe) :
    dialogue.Ensures fun exchanges value => exchanges = [] ∧ Path dialogue [] value := by
  refine ((KeepsTo.ensures silent safe).and safe.ensures_path).mono ?_
  intro exchanges value ⟨hSilent, hPath⟩
  obtain rfl := List.eq_nil_iff_forall_not_mem.mpr hSilent.1
  exact ⟨rfl, hPath⟩

end Rules

/-- Where every query has answers, a condition that is ensured can be met. -/
theorem Ensures.exists_exchanges [∀ query, Nonempty (Answer query)]
    {dialogue : Dialogue Query Answer α} {post : List (Exchange Query Answer) → α → Prop}
    (ensures : dialogue.Ensures post) : ∃ exchanges value, post exchanges value := by
  induction dialogue generalizing post with
  | done value => exact ⟨[], value, ensures⟩
  | breach => exact ensures.elim
  | note entry rest ih => exact ih ensures
  | ask query next ih =>
      obtain ⟨answer⟩ := ‹∀ query, Nonempty (Answer query)› query
      obtain ⟨later, value, hPost⟩ := ih answer (ensures answer)
      exact ⟨⟨query, answer⟩ :: later, value, hPost⟩

theorem Ensures.keepsTo [∀ query, Nonempty (Answer query)] {dialogue : Dialogue Query Answer α}
    {allowed : Query → Prop} {post : α → Prop}
    (ensures : dialogue.Ensures fun exchanges value =>
      (∀ exchange ∈ exchanges, allowed exchange.query) ∧ post value) :
    dialogue.KeepsTo allowed post := by
  induction dialogue with
  | done value => exact ensures.2
  | breach => trivial
  | note entry rest ih => exact ih ensures
  | ask query next ih =>
      constructor
      · obtain ⟨answer⟩ := ‹∀ query, Nonempty (Answer query)› query
        obtain ⟨_, _, hAllowed, -⟩ := (ensures answer).exists_exchanges
        exact (List.forall_mem_cons.mp hAllowed).1
      · intro answer
        refine ih answer ((ensures answer).mono fun later value hLater => ?_)
        exact ⟨(List.forall_mem_cons.mp hLater.1).2, hLater.2⟩

section Through

variable {State Query' : Type} {Answer' : Query' → Type}
  {reply : (query : Query) → State → Dialogue Query' Answer' (Answer query × State)}
  {allowed : Query → Prop} {below : Query' → Prop}

/-- Where a dialogue is answered by another one, what is asked below is what it takes to answer the
queries that it keeps to, from the states that the answers keep to. -/
theorem KeepsTo.through {dialogue : Dialogue Query Answer α} {post : α → Prop} {state : State}
    {Invariant : State → Prop}
    (keeps : dialogue.KeepsTo allowed post)
    (hReply : ∀ query state, allowed query → Invariant state →
      (reply query state).KeepsTo below fun result => Invariant result.2)
    (hState : Invariant state) :
    (dialogue.through reply state).KeepsTo below fun result =>
      post result.1 ∧ Invariant result.2 := by
  induction dialogue generalizing state with
  | done value => exact ⟨keeps, hState⟩
  | breach => trivial
  | note entry rest ih => exact ih keeps hState
  | ask query next ih =>
      refine (hReply query state keeps.1 hState).bind fun result hResult => ?_
      exact ih result.1 (keeps.2 result.1) hResult

theorem asks_through (dialogue : Dialogue Query Answer α)
    (hReply : ∀ query state, (reply query state).Asks below) (state : State) :
    (dialogue.through reply state).Asks below := by
  induction dialogue generalizing state with
  | done value | breach => trivial
  | note entry rest ih => exact ih state
  | ask query next ih => exact (hReply query state).bind fun result => ih result.1 result.2

end Through

end DriveBridge.Dialogue
