import DriveBridge.Dialogue

/-! Dialogues that go the same way: they say the same in the same order, whatever the answers, and
end in values that belong together. Where these have to be equal, so are the dialogues. -/
namespace DriveBridge.Dialogue

variable {Query : Type} {Answer : Query → Type} {α β γ δ : Type}

inductive Alike (R : α → β → Prop) : Dialogue Query Answer α → Dialogue Query Answer β → Prop where
  | done {value : α} {other : β} (related : R value other) : Alike R (done value) (done other)
  | breach : Alike R breach breach
  | note {entry : Note} {rest : Dialogue Query Answer α} {rest' : Dialogue Query Answer β}
      (later : Alike R rest rest') : Alike R (note entry rest) (note entry rest')
  | ask {query : Query} {next : Answer query → Dialogue Query Answer α}
      {next' : Answer query → Dialogue Query Answer β}
      (later : ∀ answer, Alike R (next answer) (next' answer)) :
      Alike R (ask query next) (ask query next')

variable {R : α → β → Prop} {S : γ → δ → Prop}

theorem Alike.bind {first : Dialogue Query Answer α} {first' : Dialogue Query Answer β}
    {next : α → Dialogue Query Answer γ} {next' : β → Dialogue Query Answer δ}
    (alike : Alike R first first')
    (h : ∀ value other, R value other → Alike S (next value) (next' other)) :
    Alike S (first.bind next) (first'.bind next') := by
  induction alike with
  | done related => exact h _ _ related
  | breach => exact .breach
  | note later ih => exact .note ih
  | ask later ih => exact .ask ih

/-- What is made of the value at the end makes no difference to the way there. -/
theorem alike_bind_done {dialogue : Dialogue Query Answer β} {finish : β → α}
    (h : ∀ value, R (finish value) value) :
    Alike R (dialogue.bind fun value => .done (finish value)) dialogue := by
  induction dialogue with
  | done value => exact .done (h value)
  | breach => exact .breach
  | note entry rest ih => exact .note ih
  | ask query next ih => exact .ask ih

theorem alike_refl (dialogue : Dialogue Query Answer α) : Alike (· = ·) dialogue dialogue := by
  induction dialogue with
  | done value => exact .done rfl
  | breach => exact .breach
  | note entry rest ih => exact .note ih
  | ask query next ih => exact .ask ih

theorem Alike.eq {dialogue other : Dialogue Query Answer α} (alike : Alike (· = ·) dialogue other) :
    dialogue = other := by
  induction alike with
  | done related => exact congrArg Dialogue.done related
  | breach => rfl
  | note later ih => exact congrArg (Dialogue.note _) ih
  | ask later ih => exact congrArg (Dialogue.ask _) (funext ih)

end DriveBridge.Dialogue
