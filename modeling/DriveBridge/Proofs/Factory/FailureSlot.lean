import DriveBridge.Proofs.Dialogue.KeepsTo
import DriveBridge.Proofs.Factory.Building
import DriveBridge.Proofs.Factory.Stepwise

/-! The failure that a workshop keeps. Whatever is asked of it, in whatever order, it is the one
that the last failing call returned, until a call that starts anew. -/
namespace DriveBridge.Factory

open Chain Dialogue

/-- What may be asked of a workshop. Devices to put a translator on may come from anywhere. -/
inductive Call where
  | make (name type : String)
  | wrapAta (type : String) (inner : ScsiDevice)
  | wrapNvme (type : String) (inner : ScsiDevice)
  | wrapRouted (type : String) (inner : AtaDevice)
  | forget
  /-- The host is in another state from now on. -/
  | setHost (host : Host)

/-- An older failure is forgotten first. -/
def Call.startsAnew : Call → Bool
  | make .. | forget => true
  | wrapAta .. | wrapNvme .. | wrapRouted .. | setHost _ => false

/-- A call, the failure that it returned, and the one that the workshop kept right after. -/
structure Entry where
  call : Call
  returned : Option Failure
  kept : Option Failure

/-- The call neither failed nor made the workshop forget. -/
def Entry.IsQuiet (entry : Entry) : Prop :=
  entry.returned = none ∧ entry.call.startsAnew = false

/-- The failure of a result, if it is one. -/
def failure? {α : Type} : Except Failure α → Option Failure
  | .ok _ => none
  | .error failure => some failure

/-- The failure is that of the last failing call, and no later call has started anew. -/
def LastFailure (entries : List Entry) (failure : Failure) : Prop :=
  ∃ earlier entry later, entries = earlier ++ entry :: later ∧ entry.returned = some failure ∧
    ∀ next ∈ later, next.IsQuiet

theorem lastFailure_cons_iff {entry : Entry} {later : List Entry} {failure : Failure} :
    LastFailure (entry :: later) failure ↔
      LastFailure later failure ∨
        entry.returned = some failure ∧ ∀ next ∈ later, next.IsQuiet := by
  constructor
  · rintro ⟨earlier, last, quiet, hEntries, hReturned, hQuiet⟩
    obtain ⟨-, hHead⟩ | ⟨before, -, hLater⟩ := List.cons_eq_append_iff.mp hEntries
    · cases hHead
      exact .inr ⟨hReturned, hQuiet⟩
    · exact .inl ⟨before, last, quiet, hLater, hReturned, hQuiet⟩
  · rintro (⟨earlier, last, quiet, rfl, hReturned, hQuiet⟩ | ⟨hReturned, hQuiet⟩)
    · exact ⟨entry :: earlier, last, quiet, rfl, hReturned, hQuiet⟩
    · exact ⟨[], entry, later, rfl, hReturned, hQuiet⟩

namespace Workshop

/-- What a call tells of the result of a step: its failure, if it has one. -/
def report {α : Type} (step : Wire (Except Failure α × Workshop)) :
    Wire (Option Failure × Workshop) := do
  let (result, after) ← step
  return (failure? result, after)

def call (workshop : Workshop) : Call → Wire (Option Failure × Workshop)
  | .make name type => report (workshop.make name type)
  | .wrapAta type inner => report (workshop.wrapAta type inner)
  | .wrapNvme type inner => report (workshop.wrapNvme type inner)
  | .wrapRouted type inner => report (workshop.wrapRouted type inner)
  | .forget => return (none, workshop.forget)
  | .setHost host => return (none, { workshop with host })

/-- Calls one after the other, whatever comes of each. -/
def callAll (workshop : Workshop) : List Call → Wire (List Entry × Workshop)
  | [] => return ([], workshop)
  | call :: later => do
      let (returned, after) ← workshop.call call
      let (entries, final) ← after.callAll later
      return (⟨call, returned, after.failure⟩ :: entries, final)

/-- What is told of a step that is settled at its end. -/
theorem report_settle {α : Type} (workshop : Workshop) (step : Wire (Except Failure α)) :
    report (step.bind fun result => .done (result, workshop.settle result)) =
      step.bind fun result => .done (failure? result, workshop.settle result) :=
  Dialogue.bind_assoc step _ _

section Kept

variable (workshop : Workshop)

theorem report_keeps {α : Type} (step : Wire (Except Failure α)) :
    (report (step.bind fun result => .done (result, workshop.settle result))).EndsIn
      fun outcome => outcome.2.failure = outcome.1.or workshop.failure := by
  rw [report_settle]
  refine endsIn_bind fun result => ?_
  cases result <;> exact rfl

/-- After a call, the workshop keeps the failure that it returned, or else the older one, unless
that has been forgotten. -/
theorem call_keeps (call : Call) :
    (workshop.call call).EndsIn fun outcome => outcome.2.failure =
      outcome.1.or (if call.startsAnew then none else workshop.failure) := by
  cases call with
  | make name type => exact workshop.forget.report_keeps (workshop.forget.device name type)
  | wrapAta type inner => exact workshop.report_keeps (workshop.overScsi type.toList inner)
  | wrapNvme type inner => exact workshop.report_keeps (workshop.overScsiNvme type.toList inner)
  | wrapRouted type inner => exact workshop.report_keeps (overAta type.toList inner)
  | forget | setHost _ => exact rfl

/-- What the workshop keeps after calls, given what it kept before them. -/
structure History (calls : List Call) (entries : List Entry) (after : Workshop) : Prop where
  calls : entries.map Entry.call = calls
  kept : ∀ entry ∈ entries, ∀ failure, entry.returned = some failure → entry.kept = some failure
  failure_iff : ∀ failure, after.failure = some failure ↔
    LastFailure entries failure ∨
      workshop.failure = some failure ∧ ∀ entry ∈ entries, entry.IsQuiet

variable {workshop}

theorem History.nil : History workshop [] [] workshop where
  calls := rfl
  kept := List.forall_mem_nil _
  failure_iff failure := by
    have hNone : ¬ LastFailure [] failure := fun ⟨_, _, _, hEntries, _⟩ => by simp at hEntries
    simp [hNone]

theorem History.cons {call : Call} {returned : Option Failure} {middle after : Workshop}
    {later : List Call} {entries : List Entry}
    (hMiddle : middle.failure =
      returned.or (if call.startsAnew then none else workshop.failure))
    (history : History middle later entries after) :
    History workshop (call :: later) (⟨call, returned, middle.failure⟩ :: entries) after where
  calls := congrArg (call :: ·) history.calls
  kept := by
    refine List.forall_mem_cons.mpr ⟨?_, history.kept⟩
    rintro failure rfl
    exact hMiddle
  failure_iff failure := by
    -- What is kept in the middle is new, or it was kept before the first call and that was quiet.
    have hFirst : middle.failure = some failure ↔ returned = some failure ∨
        workshop.failure = some failure ∧ (returned = none ∧ call.startsAnew = false) := by
      rw [hMiddle]
      cases returned <;> cases call.startsAnew <;> simp
    rw [history.failure_iff, lastFailure_cons_iff, List.forall_mem_cons, hFirst, or_and_right,
      and_assoc, or_assoc]
    rfl

theorem callAll_history (calls : List Call) :
    (workshop.callAll calls).EndsIn fun outcome =>
      History workshop calls outcome.1 outcome.2 := by
  induction calls generalizing workshop with
  | nil => exact .nil
  | cons call later ih =>
      refine (workshop.call_keeps call).bind fun ⟨_, middle⟩ hMiddle => ?_
      exact (@ih middle).bind fun _ history => history.cons hMiddle

end Kept

end Workshop

/-- The host breaks no contract, whatever it is asked to make. -/
structure Host.Safe (host : Host) : Prop where
  scsi : ∀ name type, (host.scsi name type).Safe
  ata : ∀ name type, (host.ata name type).Safe
  nvme : ∀ name type, (host.nvme name type).Safe
  detect : ∀ name, (host.detect name).Safe
  custom : ∀ name type, (host.custom name type).Safe

theorem Host.Safe.supplies {host : Host} (safe : host.Safe) : host.Supplies fun _ _ => True where
  scsi := safe.scsi
  ata := safe.ata
  nvme := safe.nvme
  detect := safe.detect
  custom name type := by
    refine (safe.custom name type).mono fun _ claimed _ => ?_
    cases claimed with
    | some result => trivial
    | none => exact fun _ _ _ => trivial

/-- A host that makes transports breaks no contract. -/
theorem Host.MakesTransports.safe {host : Host} (hHost : host.MakesTransports) : host.Safe where
  scsi name type := (hHost.scsi name type).safe
  ata name type := (hHost.ata name type).safe
  nvme name type := (hHost.nvme name type).safe
  detect name := (hHost.detect name).safe
  custom name type := (hHost.custom name type).safe

/-- The call brings no host that breaks a contract. -/
def Call.Safe : Call → Prop
  | setHost host => host.Safe
  | make .. | wrapAta .. | wrapNvme .. | wrapRouted .. | forget => True

namespace Workshop

section Safe

variable {workshop : Workshop}

theorem host_settle {α : Type} (result : Except Failure α) :
    (workshop.settle result).host = workshop.host := by
  cases result <;> rfl

/-- A step that breaks no contract leaves the host alone. -/
theorem ensures_report {α : Type} {step : Wire (Except Failure α)} (safe : step.Safe) :
    (report (step.bind fun result => .done (result, workshop.settle result))).Ensures
      fun _ outcome => outcome.2.host = workshop.host := by
  rw [report_settle]
  exact safe.ensures_bind fun result => host_settle result

theorem safe_device (safe : workshop.host.Safe) (name type : String) :
    (workshop.forget.device name type).Safe :=
  Ensures.safe (builds_device ⟨trivial, fun _ _ _ => trivial⟩
    (show workshop.forget.host.Supplies _ from safe.supplies) name type)

theorem ensures_call (safe : workshop.host.Safe) (call : Call) (hCall : call.Safe) :
    (workshop.call call).Ensures fun _ outcome => outcome.2.host.Safe := by
  have hSame : ∀ outcome : Option Failure × Workshop, outcome.2.host = workshop.host →
      outcome.2.host.Safe := fun _ hHost => hHost ▸ safe
  cases call with
  | make name type => exact (ensures_report (safe_device safe name type)).mono fun _ => hSame
  | wrapAta type inner =>
      exact (ensures_report (workshop.takesOver_overScsi _ inner).safe).mono fun _ => hSame
  | wrapNvme type inner =>
      exact (ensures_report (workshop.takesOver_overScsiNvme _ inner).safe).mono fun _ => hSame
  | wrapRouted type inner =>
      exact (ensures_report (takesOver_overAta _ inner).safe).mono fun _ => hSame
  | forget => exact safe
  | setHost host => exact hCall

theorem safe_callAll (safe : workshop.host.Safe) (calls : List Call)
    (hCalls : ∀ call ∈ calls, call.Safe) : (workshop.callAll calls).Safe := by
  induction calls generalizing workshop with
  | nil => exact safe_done _
  | cons call later ih =>
      obtain ⟨hCall, hLater⟩ := List.forall_mem_cons.mp hCalls
      refine Ensures.bind (ensures_call safe call hCall) fun _ ⟨_, middle⟩ hMiddle => ?_
      exact (ih hMiddle hLater).bind fun _ => safe_done _

end Safe

/-- Whatever is asked of a new workshop, with whatever hosts, the failure that it keeps is that of
the last call that failed, unless one that starts anew came after it; and a failure that is returned
is kept as it is. Hosts that break no contract are all it takes to get through the calls. It makes
no difference whether the steps of a call keep failures too, in the words in which they find
them. -/
theorem last_failure_kept (settings : Settings) (host : Host) (calls : List Call) :
    ((⟨settings, host, none⟩ : Workshop).callAll calls).EndsIn (fun (entries, after) =>
        entries.map Entry.call = calls ∧
          (∀ entry ∈ entries, ∀ failure, entry.returned = some failure →
            entry.kept = some failure) ∧
          ∀ failure, after.failure = some failure ↔ LastFailure entries failure) ∧
      (host.Safe → (∀ call ∈ calls, call.Safe) →
        ((⟨settings, host, none⟩ : Workshop).callAll calls).Safe) ∧
      ∀ (workshop : Workshop) (name type : String),
        Stepwise.make workshop name type = workshop.make name type := by
  refine ⟨?_, fun safe => safe_callAll safe calls, stepwise_make⟩
  refine (callAll_history calls).mono fun _ history => ?_
  refine ⟨history.calls, history.kept, fun failure => ?_⟩
  have hFresh : ¬ (none = some failure) := nofun
  rw [history.failure_iff, or_iff_left fun hOld => hFresh hOld.1]

/-- A wrong option below a multiplexer, and then a bridge that can be made. -/
theorem reworded_failure_kept :
    let calls : List Call :=
      [.make "/dev/sdx" "intelliprop,0+sat,13",
        .wrapAta "usbsunplus" (.endpoint (Endpoint.new "/dev/sdx" 1))]
    let failure : Failure := ⟨.malformed,
      "Type 'intelliprop,0+...': Option '-d sat[,auto][,N]' requires N to be 0, 12 or 16"⟩
    let run := ((⟨{}, Catalogue.host {}, none⟩ : Workshop).callAll calls).run (delivering {}) ()
    (Catalogue.host {}).Safe ∧ ∃ entries after, run.value = some (entries, after) ∧
      entries.map Entry.returned = [some failure, none] ∧ LastFailure entries failure ∧
        after.failure = some failure := by
  intro calls failure run
  have hHost := makesTransports_plain
  obtain ⟨keeps, safe, -⟩ := last_failure_kept {} (Catalogue.host {}) calls
  have hCalls : ∀ call ∈ calls, call.Safe :=
    List.forall_mem_cons.mpr ⟨trivial, List.forall_mem_singleton.mpr trivial⟩
  obtain ⟨⟨entries, after⟩, hValue, -, -, -, hLast⟩ :=
    (keeps.ensures (safe hHost.safe hCalls)).of_run (delivering {}) ()
  have hRun : run.value.map (fun outcome => (outcome.1.map Entry.returned, outcome.2.failure)) =
      some ([some failure, none], some failure) := rfl
  rw [show run.value = some (entries, after) from hValue] at hRun
  obtain ⟨hReturned, hFailure⟩ := Prod.mk.inj (Option.some.inj hRun)
  exact ⟨hHost.safe, entries, after, hValue, hReturned, (hLast failure).mp hFailure, hFailure⟩

end Workshop

end DriveBridge.Factory
