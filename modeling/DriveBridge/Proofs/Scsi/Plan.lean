import DriveBridge.Scsi.Command
import DriveBridge.Proofs.Dialogue.Ensures

/-! Conversations that follow a plan, which is a list of commands. They are sent in order, each
only if the one before it went through, so that a conversation without failures tells the plan. -/
namespace DriveBridge.Scsi

/-- A command as it was sent, with what came back. -/
abbrev Exchange := Dialogue.Exchange Query fun _ => Answer

namespace Exchange

def command (exchange : Exchange) : Command := exchange.query.command

def result (exchange : Exchange) : Except Failure Unit := exchange.answer.result

end Exchange

/-- Where a failure comes from. A session fails before it sends anything, because a transfer failed,
or because a command did, which then fails the session alike. -/
def Traced (exchanges : List Exchange) (failure : Failure) : Prop :=
  exchanges = [] ∨ failure.cause = .transfer ∨
    ∃ exchange ∈ exchanges, exchange.result = .error failure

section Traced

variable {failure : Failure} {exchange : Exchange} {later : List Exchange}

theorem Traced.unsent : Traced [] failure := .inl rfl

theorem Traced.of_transfer (hCause : failure.cause = .transfer) : Traced later failure :=
  .inr (.inl hCause)

theorem Traced.of_result (hResult : exchange.result = .error failure) :
    Traced (exchange :: later) failure :=
  .inr (.inr ⟨exchange, List.mem_cons_self, hResult⟩)

/-- What happened before makes no difference to where a failure comes from. -/
theorem Traced.cons (traced : Traced later failure) (hSent : later ≠ []) :
    Traced (exchange :: later) failure := by
  rcases traced with hNone | hCause | ⟨exchange, hMember, hResult⟩
  · exact (hSent hNone).elim
  · exact .of_transfer hCause
  · exact .inr (.inr ⟨exchange, List.mem_cons_of_mem _ hMember, hResult⟩)

end Traced

inductive Follows : List Command → List Exchange → Prop where
  | done : Follows [] []
  | failed {plan : List Command} {exchange : Exchange} {failure : Failure}
      (failed : exchange.result = .error failure) : Follows (exchange.command :: plan) [exchange]
  | next {plan : List Command} {exchange : Exchange} {later : List Exchange}
      (delivered : exchange.result = .ok ()) (rest : Follows plan later) :
      Follows (exchange.command :: plan) (exchange :: later)

theorem Follows.single (exchange : Exchange) : Follows [exchange.command] [exchange] := by
  cases hResult : exchange.result with
  | error failure => exact .failed hResult
  | ok _ => exact .next hResult .done

theorem Follows.ne_nil {plan : List Command} {exchanges : List Exchange}
    (follows : Follows plan exchanges) (hPlan : plan ≠ []) : exchanges ≠ [] := by
  cases follows with
  | done => exact (hPlan rfl).elim
  | failed | next => exact List.cons_ne_nil _ _

/-- Where nothing failed, the plan was carried out to its end. -/
theorem Follows.commands_eq {plan : List Command} {exchanges : List Exchange}
    (follows : Follows plan exchanges)
    (delivered : ∀ exchange ∈ exchanges, exchange.result = .ok ()) :
    exchanges.map Exchange.command = plan := by
  induction follows with
  | done => rfl
  | failed failed =>
      rw [delivered _ (List.mem_singleton_self _)] at failed
      cases failed
  | next _ _ ih =>
      rw [List.map_cons, ih fun exchange h => delivered exchange (List.mem_cons_of_mem _ h)]

/-- What was sent is the start of the plan. -/
theorem Follows.commands_prefix {plan : List Command} {exchanges : List Exchange}
    (follows : Follows plan exchanges) : exchanges.map Exchange.command <+: plan := by
  induction follows with
  | done => exact List.nil_prefix
  | @failed plan exchange failure _ => exact List.prefix_append [exchange.command] plan
  | @next plan exchange later _ _ ih => exact (List.prefix_cons_inj exchange.command).mpr ih

/-- Only the last of the commands may have failed. -/
theorem Follows.delivered {plan : List Command} {exchanges : List Exchange}
    (follows : Follows plan exchanges) :
    ∀ exchange ∈ exchanges.dropLast, exchange.result = .ok () := by
  induction follows with
  | done => exact List.forall_mem_nil _
  | failed _ => exact List.forall_mem_nil _
  | @next plan exchange later hDelivered _ ih =>
      cases later with
      | nil => exact List.forall_mem_nil _
      | cons second later => exact List.forall_mem_cons.mpr ⟨hDelivered, ih⟩

/-- So many entries of a list from its start on are there, and have a property. -/
def Completed {α : Type} (property : α → Prop) (list : List α) (count : Nat) : Prop :=
  ∀ index < count, ∃ entry, list[index]? = some entry ∧ property entry

section Completed

variable {α : Type} {property : α → Prop} {entry : α} {list : List α} {count : Nat}

theorem completed_zero : Completed property list 0 := nofun

theorem not_completed_nil : ¬ Completed property [] (count + 1) := by
  intro hCompleted
  obtain ⟨_, hEntry, -⟩ := hCompleted 0 (Nat.zero_lt_succ count)
  cases hEntry

theorem completed_cons_iff :
    Completed property (entry :: list) (count + 1) ↔
      property entry ∧ Completed property list count := by
  unfold Completed
  rw [Nat.forall_lt_succ_left]
  simp only [List.getElem?_cons_zero, List.getElem?_cons_succ, Option.some.injEq,
    exists_eq_left']

end Completed

/-- A command of the plan is sent exactly if all before it were, and went through. -/
theorem Follows.reached_iff {plan : List Command} {exchanges : List Exchange}
    (follows : Follows plan exchanges) {phase : Nat} (hPhase : phase < plan.length) :
    phase < exchanges.length ↔
      Completed (fun exchange => Exchange.result exchange = .ok ()) exchanges phase := by
  induction follows generalizing phase with
  | done => cases hPhase
  | @failed plan exchange failure failed =>
      cases phase with
      | zero => exact iff_of_true Nat.zero_lt_one completed_zero
      | succ phase => simp [completed_cons_iff, failed]
  | next delivered _ ih =>
      cases phase with
      | zero => exact iff_of_true (Nat.zero_lt_succ _) completed_zero
      | succ phase =>
          rw [completed_cons_iff, List.length_cons, Nat.succ_lt_succ_iff,
            ih (Nat.lt_of_succ_lt_succ hPhase)]
          exact (and_iff_right delivered).symm

/-- The plan is carried out to its end exactly if nothing failed. -/
theorem Follows.completed_iff {plan : List Command} {exchanges : List Exchange}
    (follows : Follows plan exchanges) :
    Completed (fun exchange => Exchange.result exchange = .ok ()) exchanges plan.length ↔
      ∀ exchange ∈ exchanges, exchange.result = .ok () := by
  induction follows with
  | done => exact iff_of_true completed_zero (List.forall_mem_nil _)
  | failed failed => simp [completed_cons_iff, failed]
  | next _ _ ih => rw [List.length_cons, completed_cons_iff, ih, List.forall_mem_cons]

/-- A session that begins with a command ensures what it does for every answer. -/
theorem ensures_send_bind {α : Type} {command : Command} {next : Answer → Session α}
    {post : List Exchange → α → Prop}
    (h : ∀ answer, (next answer).Ensures fun later value =>
      post (⟨⟨command, none⟩, answer⟩ :: later) value) :
    ((send command).bind next).Ensures post := h

/-- A session that begins with a checked command ensures what it does for every answer. -/
theorem ensures_sendChecked_bind {α : Type} {label : String} {command : Command}
    {next : Answer → Session α} {post : List Exchange → α → Prop}
    (h : ∀ answer, (next answer).Ensures fun later value =>
      post (⟨⟨command, some label⟩, answer⟩ :: later) value) :
    ((sendChecked label command).bind next).Ensures post := h

/-- The same, where only the command and that it is judged matter. -/
theorem ensures_judged_bind {α : Type} {label : String} {command : Command}
    {next : Answer → Session α} {post : List Exchange → α → Prop}
    (h : ∀ exchange : Exchange, exchange.command = command → exchange.query.label ≠ none →
      (next exchange.answer).Ensures fun later value => post (exchange :: later) value) :
    ((sendChecked label command).bind next).Ensures post :=
  fun answer => h ⟨⟨command, some label⟩, answer⟩ rfl (Option.some_ne_none label)

end DriveBridge.Scsi
