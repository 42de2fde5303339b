import DriveBridge.Factory.Workshop
import DriveBridge.Proofs.Dialogue.Alike

/-! The workshop step by step. A wrong option is kept as soon as it is found, in the words in which
it is found, whatever a translator above makes of it on the way out. What the host reports, and what
is made of that, is kept by nobody but the call as a whole. To the caller this is the same as
keeping the failure of the call at its end. -/
namespace DriveBridge.Factory.Workshop

open Chain Dialogue

variable (workshop : Workshop) (name : String)

/-- A step that keeps nothing. -/
def unkept {α : Type} (step : Wire α) : Wire (α × Workshop) := do
  let result ← step
  return (result, workshop)

namespace Stepwise

/-- A translator from ATA to SCSI with the device below it. -/
def ataChain (type : List Char) : Wire (Except Failure AtaDevice × Workshop) := do
  let (outer, base) := splitBase type
  match ← workshop.below name outer base with
  | .error failure => return (.error failure, workshop)
  | .ok inner => workshop.wrapAta (String.ofList outer) inner

/-- An NVMe translator with the device below it. -/
def nvmeChain (type : List Char) : Wire (Except Failure NvmeDevice × Workshop) := do
  let (outer, base) := splitBase type
  match ← workshop.below name outer base with
  | .error failure => return (.error failure, workshop)
  | .ok inner => workshop.wrapNvme (String.ofList outer) inner

/-- The ATA device below a multiplexer. -/
def ataBelow (type : List Char) : Wire (Except Failure AtaDevice × Workshop) :=
  if isAtaChain type then ataChain workshop name type
  else workshop.unkept (workshop.ataBase name (String.ofList type))

/-- A routed drive with the device below it. A failure below is told in other words from here on;
what has been kept of it stays as it was found. -/
def routedChain (type : List Char) : Wire (Except Failure AtaDevice × Workshop) := do
  let (outer, rest) := splitBase type
  let base := if rest.isEmpty then "ata".toList else rest
  match ← ataBelow workshop name base with
  | (.error failure, after) => return (.error (baseFailure outer failure.message), after)
  | (.ok inner, after) =>
      if inner.profile.shows .ata then after.wrapRouted (String.ofList outer) inner
      else
        let reason := "Device type '" ++ String.ofList base ++ "' is not ATA"
        return (.error (baseFailure outer reason), after)

/-- A result as that of a device of any kind. -/
def widen {α : Type} (wider : α → Device) (step : Wire (Except Failure α × Workshop)) :
    Wire (Except Failure Device × Workshop) := do
  let (result, after) ← step
  return (result.map wider, after)

/-- The device for a name and a type that the host does not claim for itself. -/
def chain (type : String) : Wire (Except Failure Device × Workshop) :=
  let chars := type.toList
  if type = "ata" then widen .ata (workshop.unkept (workshop.ataBase name type))
  else if type = "scsi" then
    widen ScsiDevice.toDevice (workshop.unkept (workshop.scsiBase name type))
  else if type = "nvme" ∨ startsWith "nvme,".toList chars then
    widen (·.mapProfile (·.setTimeout workshop.settings.timeout))
      (workshop.unkept (workshop.host.nvme name type))
  else if isAtaChain chars then widen .ata (ataChain workshop name chars)
  else if startsWith "snt".toList chars then widen .nvme (nvmeChain workshop name chars)
  else if startsWith "intelliprop".toList chars then
    widen .ata (routedChain workshop name chars)
  else return (.error (typeFailure "Unknown device type" chars), workshop)

/-- The device for a name and a type. -/
def device (type : String) : Wire (Except Failure Device × Workshop) := do
  if type.isEmpty then workshop.unkept (workshop.host.detect name)
  else match ← workshop.host.custom name type with
    | some result => return (result, workshop)
    | none => chain workshop name type

/-- Makes the closed device for a name and a type. The failure of the call is kept once more, since
it may be one that no step has kept, or not in these words. -/
def make (type : String) : Wire (Except Failure Device × Workshop) := do
  let (result, after) ← device workshop.forget name type
  return (result, after.settle result)

end Stepwise

section Settle

variable {α β : Type} {workshop} {after : Workshop} {failure other : Failure}

@[simp] theorem settle_settle (result : Except Failure α) :
    (workshop.settle result).settle result = workshop.settle result := by
  cases result <;> rfl

@[simp] theorem settle_map (wider : α → β) (result : Except Failure α) :
    workshop.settle (result.map wider) = workshop.settle result := by
  cases result <;> rfl

/-- The outcome of a step that may have kept failures on the way. It has the result of the step, and
once that is settled, nothing is left of what was kept before. -/
structure KeepsLast (workshop : Workshop) (outcome : Except Failure α × Workshop)
    (result : Except Failure α) : Prop where
  same : outcome.1 = result
  settled : outcome.2.settle result = workshop.settle result

/-- Of two failures, only the later one is kept. -/
theorem KeepsLast.reworded
    (keeps : KeepsLast workshop (.error failure, after) (.error failure : Except Failure α)) :
    KeepsLast workshop (.error other, after) (.error other : Except Failure β) where
  same := rfl
  settled := congrArg (·.settle (.error other : Except Failure β)) keeps.settled

/-- Nothing has been kept on the way to a success. -/
theorem KeepsLast.after_eq {device : α}
    (keeps : KeepsLast workshop (.ok device, after) (.ok device)) : after = workshop :=
  keeps.settled

end Settle

section Alike

theorem alike_unkept {α : Type} (step : Wire (Except Failure α)) :
    Alike (KeepsLast workshop) (workshop.unkept step) step :=
  alike_bind_done fun _ => ⟨rfl, rfl⟩

/-- Keeping the failure of a step at its end keeps nothing else. -/
theorem alike_settled {α : Type} (step : Wire (Except Failure α)) :
    Alike (KeepsLast workshop) (step.bind fun result => .done (result, workshop.settle result))
      step :=
  alike_bind_done fun _ => ⟨rfl, settle_settle _⟩

theorem alike_wrapAta (type : List Char) (inner : ScsiDevice) :
    Alike (KeepsLast workshop) (workshop.wrapAta (String.ofList type) inner)
      (workshop.overScsi type inner) := by
  unfold wrapAta
  rw [String.toList_ofList]
  exact workshop.alike_settled _

theorem alike_wrapNvme (type : List Char) (inner : ScsiDevice) :
    Alike (KeepsLast workshop) (workshop.wrapNvme (String.ofList type) inner)
      (workshop.overScsiNvme type inner) := by
  unfold wrapNvme
  rw [String.toList_ofList]
  exact workshop.alike_settled _

theorem alike_wrapRouted (type : List Char) (inner : AtaDevice) :
    Alike (KeepsLast workshop) (workshop.wrapRouted (String.ofList type) inner)
      (overAta type inner) := by
  unfold wrapRouted
  rw [String.toList_ofList]
  exact workshop.alike_settled _

theorem alike_ataChain (type : List Char) :
    Alike (KeepsLast workshop) (Stepwise.ataChain workshop name type)
      (workshop.ataChain name type) := by
  refine (alike_refl _).bind ?_
  rintro result _ rfl
  cases result with
  | error failure => exact .done ⟨rfl, rfl⟩
  | ok inner => exact workshop.alike_wrapAta _ inner

theorem alike_nvmeChain (type : List Char) :
    Alike (KeepsLast workshop) (Stepwise.nvmeChain workshop name type)
      (workshop.nvmeChain name type) := by
  refine (alike_refl _).bind ?_
  rintro result _ rfl
  cases result with
  | error failure => exact .done ⟨rfl, rfl⟩
  | ok inner => exact workshop.alike_wrapNvme _ inner

theorem alike_ataBelow (type : List Char) :
    Alike (KeepsLast workshop) (Stepwise.ataBelow workshop name type)
      (workshop.ataBelow name type) := by
  unfold Stepwise.ataBelow ataBelow
  split
  · exact workshop.alike_ataChain name type
  · exact workshop.alike_unkept _

theorem alike_routedChain (type : List Char) :
    Alike (KeepsLast workshop) (Stepwise.routedChain workshop name type)
      (workshop.routedChain name type) := by
  refine (workshop.alike_ataBelow name _).bind ?_
  rintro ⟨result, after⟩ _ ⟨rfl, hSettled⟩
  have keeps : KeepsLast workshop (result, after) result := ⟨rfl, hSettled⟩
  cases result with
  | error failure => exact .done keeps.reworded
  | ok inner =>
      obtain rfl := keeps.after_eq
      dsimp only
      split
      · exact after.alike_wrapRouted _ inner
      · exact .done ⟨rfl, rfl⟩

theorem alike_widen {α : Type} {wider : α → Device} {step : Wire (Except Failure α × Workshop)}
    {plain : Wire (Except Failure α)} (alike : Alike (KeepsLast workshop) step plain) :
    Alike (KeepsLast workshop) (Stepwise.widen wider step)
      (plain.bind fun result => .done (result.map wider)) := by
  refine alike.bind ?_
  rintro ⟨result, after⟩ _ ⟨rfl, hSettled⟩
  refine .done ⟨rfl, ?_⟩
  rw [settle_map, settle_map]
  exact hSettled

theorem alike_chain (type : String) :
    Alike (KeepsLast workshop) (Stepwise.chain workshop name type)
      (workshop.chain name type) := by
  unfold Stepwise.chain chain
  dsimp only
  split
  · exact workshop.alike_widen (workshop.alike_unkept _)
  split
  · exact workshop.alike_widen (workshop.alike_unkept _)
  split
  · exact workshop.alike_widen (workshop.alike_unkept _)
  split
  · exact workshop.alike_widen (workshop.alike_ataChain name _)
  split
  · exact workshop.alike_widen (workshop.alike_nvmeChain name _)
  split
  · exact workshop.alike_widen (workshop.alike_routedChain name _)
  · exact .done ⟨rfl, rfl⟩

theorem alike_device (type : String) :
    Alike (KeepsLast workshop) (Stepwise.device workshop name type)
      (workshop.device name type) := by
  unfold Stepwise.device device
  split
  · exact workshop.alike_unkept _
  · refine (alike_refl _).bind ?_
    rintro claimed _ rfl
    cases claimed with
    | some result => exact .done ⟨rfl, rfl⟩
    | none => exact workshop.alike_chain name type

/-- It makes no difference to the outcome of a call, nor to what is said on the way, whether
failures are kept where they are found as well. -/
theorem stepwise_make (type : String) :
    Stepwise.make workshop name type = workshop.make name type := by
  refine Alike.eq ((workshop.forget.alike_device name type).bind ?_)
  rintro ⟨result, after⟩ _ ⟨rfl, hSettled⟩
  exact .done (congrArg (Prod.mk result) hSettled)

end Alike

end DriveBridge.Factory.Workshop
