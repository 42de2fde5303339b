import DriveBridge.Proofs.Chain.Safety

/-! Who owns the device below an NVMe device, while that one is probed and ever after. A probe opens
the device below once and never closes it, and leaves it with one owner: the NVMe device, or the
SAT device that replaces it. An NVMe device that has nothing below it has no way to reach anything,
however it is used. -/
namespace DriveBridge.Chain

@[simp] theorem ScsiDevice.place?_toDevice (device : ScsiDevice) :
    device.toDevice.place? = some device.place := by
  cases device <;> rfl

/-- A device that is held stays held, in a state that answering keeps up. -/
theorem Slot.answers_held {Below : Exchange → Prop} {Kept : ScsiDevice → Prop}
    (hAnswer : ∀ query device, Kept device →
      (ScsiDevice.answer query device).Ensures fun below outcome =>
        (∀ exchange ∈ below, Below exchange) ∧ Kept outcome.2) :
    Slot.Answers Below (fun _ => True) fun slot => ∃ kept, slot = .holding kept ∧ Kept kept := by
  rintro query _ ⟨device, rfl, hKept⟩
  refine (hAnswer query device hKept).bind fun below outcome ⟨hBelow, hAfter⟩ => ?_
  rw [← List.append_nil below] at hBelow
  exact ⟨hBelow, trivial, outcome.2, rfl, hAfter⟩

/-- A device that is held stays where it is and as open as it is, and only gets commands. -/
theorem Slot.answers_holding (place : Place) (isOpen : Bool) :
    Slot.Answers (fun exchange => ∃ command, exchange.query = .transmit place.unit command)
      (fun _ => True)
      (fun slot => ∃ kept, slot = .holding kept ∧ kept.place = place ∧ kept.isOpen = isOpen) := by
  refine answers_held fun query device ⟨hPlace, hOpen⟩ => ?_
  refine (device.ensures_answer query).mono fun below outcome hAnswered => ?_
  obtain ⟨exchange, rfl, hTransmitted⟩ := hAnswered.asked
  rw [hPlace] at hTransmitted
  refine ⟨fun other hMem => ?_, hAnswered.place.trans hPlace, hAnswered.isOpen.trans hOpen⟩
  rw [List.mem_singleton.mp hMem]
  exact ⟨_, hTransmitted.query_eq⟩

/-- A released slot fails every query by itself. -/
theorem Slot.answers_released :
    Slot.Answers (fun _ => False) (fun exchange => exchange.result = .error Slot.gone)
      (· = .released) := by
  rintro query _ rfl
  exact ⟨List.forall_mem_nil _, rfl, rfl⟩

/-- Once has the device been opened, and only commands were sent to it after that: none at all if
it did not open. It has stayed where it was. -/
structure OpenedOnce (before after : ScsiDevice) (exchanges : List Exchange) : Prop where
  asked : ∃ reply later, exchanges = ⟨.connect before.place.unit, reply⟩ :: later ∧
    (∀ exchange ∈ later, ∃ command, exchange.query = .transmit before.place.unit command) ∧
    (∀ fault, reply = .error fault → later = []) ∧ (reply = .ok () → after.isOpen = true)
  place : after.place = before.place

namespace OpenedOnce

variable {before opened after : ScsiDevice} {exchanges sent : List Exchange}

theorem of_connected {result : Except Failure Unit}
    (hConnected : Connected before exchanges (result, after)) :
    OpenedOnce before after exchanges := by
  obtain ⟨⟨reply, rfl, hResult⟩, hPlace, hOpen⟩ := hConnected
  refine ⟨⟨reply, [], rfl, List.forall_mem_nil _, fun _ _ => rfl, ?_⟩, hPlace⟩
  rintro rfl
  exact hOpen hResult

/-- Commands to a device that has been opened leave it open. -/
theorem of_commands (hConnected : Connected before exchanges (.ok (), opened))
    (hSent : ∀ exchange ∈ sent, ∃ command, exchange.query = .transmit opened.place.unit command)
    (hPlace : after.place = opened.place) (hOpen : after.isOpen = opened.isOpen) :
    OpenedOnce before after (exchanges ++ sent) := by
  obtain ⟨⟨reply, rfl, hResult⟩, hStill, hOpened⟩ := hConnected
  rw [show opened.place = before.place from hStill] at hSent hPlace
  refine ⟨⟨reply, sent, rfl, hSent, ?_, fun _ => hOpen.trans (hOpened rfl)⟩, hPlace⟩
  rintro fault rfl
  cases hResult

end OpenedOnce

namespace Step

/-- What comes of an operation on an NVMe device that has nothing below it. -/
def ComesToNothing (step : Step) : Prop :=
  match step.operation with
  | .connect => step.outcome = .finished (.error Slot.gone)
  | .disconnect => step.outcome = .finished (.ok ())
  | .autodetect => step.outcome = .probed none
  | .nvme _ _ => ∃ failure, step.outcome = .finished (.error failure)
  | .ata _ | .scsi _ | .readRegisters _ _ | .readTaskFile _ => step.outcome = .inapplicable

end Step

/-- No endpoint hears of whatever is asked of the device, which never opens and never owns
anything. -/
def Device.Stranded (device : Device) : Prop :=
  ∀ operations, (device.operateAll operations).Ensures fun exchanges outcome =>
    exchanges = [] ∧ (∀ step ∈ outcome.1, step.ComesToNothing) ∧ outcome.2.isOpen = false ∧
      ∀ other, outcome.2.owns other = false

namespace NvmeDevice

section Released

variable {device : NvmeDevice}

theorem ensures_perform_of_released (hReleased : device.inner = .released) (request : Nvme.Request)
    (completion : Nvme.Completion) :
    (device.perform request completion).Ensures fun exchanges outcome =>
      exchanges = [] ∧ (∃ failure, outcome.1.result = .error failure) ∧
        outcome.2.inner = .released := by
  refine (ensures_perform Slot.answers_released hReleased request completion).mono ?_
  intro below outcome hPerformed
  refine ⟨List.eq_nil_iff_forall_not_mem.mpr hPerformed.below, ?_, hPerformed.inner⟩
  cases hResult : outcome.1.result with
  | error failure => exact ⟨failure, rfl⟩
  | ok _ =>
      obtain ⟨exchange, hFailed, hSent⟩ := hPerformed.sent hResult
      rw [hFailed] at hSent
      cases hSent

theorem connect_of_released (hReleased : device.inner = .released) :
    ∃ after, device.connect = .done (.error Slot.gone, after) ∧ after.inner = .released := by
  unfold connect
  rw [hReleased]
  exact ⟨_, rfl, rfl⟩

theorem disconnect_of_released (hReleased : device.inner = .released) :
    ∃ after, device.disconnect = .done (.ok (), after) ∧ after.inner = .released := by
  unfold disconnect
  rw [hReleased]
  exact ⟨_, rfl, rfl⟩

theorem autodetect_of_released (hReleased : device.inner = .released) :
    ∃ after, device.autodetect = .done (none, after) ∧ after.inner = .released := by
  obtain ⟨after, hConnect, hAfter⟩ := connect_of_released hReleased
  refine ⟨after, ?_, hAfter⟩
  unfold autodetect examine
  rw [hConnect]
  rfl

theorem ensures_operate_of_released (hReleased : device.inner = .released) (operation : Operation) :
    ((Device.nvme device).operate operation).Ensures fun exchanges outcome =>
      exchanges = [] ∧ Step.ComesToNothing ⟨.nvme device, operation, outcome.1, outcome.2⟩ ∧
        ∃ after, outcome.2 = .nvme after ∧ after.inner = .released := by
  cases operation with
  | connect =>
      obtain ⟨after, hConnect, hAfter⟩ := connect_of_released hReleased
      simp only [Device.operate, Device.connect, hConnect]
      exact ⟨rfl, rfl, after, rfl, hAfter⟩
  | disconnect =>
      obtain ⟨after, hDisconnect, hAfter⟩ := disconnect_of_released hReleased
      simp only [Device.operate, Device.disconnect, hDisconnect]
      exact ⟨rfl, rfl, after, rfl, hAfter⟩
  | autodetect =>
      obtain ⟨after, hAutodetect, hAfter⟩ := autodetect_of_released hReleased
      simp only [Device.operate, Device.autodetect, hAutodetect]
      exact ⟨rfl, rfl, after, rfl, hAfter⟩
  | nvme request completion =>
      refine (ensures_perform_of_released hReleased request completion).bind ?_
      intro before outcome hFailed
      obtain ⟨rfl, ⟨failure, hError⟩, hAfter⟩ := hFailed
      exact ⟨rfl, ⟨failure, congrArg Outcome.finished hError⟩, outcome.2, rfl, hAfter⟩
  | ata query => exact ⟨rfl, rfl, device, rfl, hReleased⟩
  | scsi query => exact ⟨rfl, rfl, device, rfl, hReleased⟩
  | readRegisters address buffer => exact ⟨rfl, rfl, device, rfl, hReleased⟩
  | readTaskFile registers => exact ⟨rfl, rfl, device, rfl, hReleased⟩

theorem stranded_of_released (hReleased : device.inner = .released) :
    (Device.nvme device).Stranded := by
  intro operations
  have hHistory := @Device.ensures_operateAll
    (fun device => ∃ nvme, device = .nvme nvme ∧ nvme.inner = .released) Step.ComesToNothing
    (fun _ => False) ?_ (.nvme device) ⟨device, rfl, hReleased⟩ operations
  · refine hHistory.mono fun exchanges outcome hOutcome => ?_
    obtain ⟨hSilent, hSteps, final, hFinal, hEmpty⟩ := hOutcome
    refine ⟨List.eq_nil_iff_forall_not_mem.mpr hSilent, hSteps, ?_, fun other => ?_⟩
    · rw [hFinal]
      simp [Device.isOpen, isOpen, hEmpty, Slot.isOpen]
    · rw [hFinal]
      simp [Device.owns, Device.inner?, hEmpty, Slot.held?]
  · rintro _ operation ⟨nvme, rfl, hNvme⟩
    refine (ensures_operate_of_released hNvme operation).mono fun exchanges outcome hOutcome => ?_
    obtain ⟨rfl, hStep, hAfter⟩ := hOutcome
    exact ⟨List.forall_mem_nil _, hStep, hAfter⟩

end Released

section Probe

variable {device : NvmeDevice} {inner : ScsiDevice}

/-- What the device below ensures when it is opened, the NVMe device does. -/
theorem ensures_connect_of_holding (hInner : device.inner = .holding inner)
    {post : List Exchange → Except Failure Unit × ScsiDevice → Prop}
    (ensures : inner.connect.Ensures post) :
    device.connect.Ensures fun exchanges outcome =>
      outcome.2.fallback = device.fallback ∧ outcome.2.vendor = device.vendor ∧
        ∃ kept, outcome.2.inner = .holding kept ∧ post exchanges (outcome.1, kept) := by
  unfold connect
  rw [hInner]
  have hSlot : (Slot.holding inner).connect.Ensures fun exchanges outcome => ∃ kept,
      outcome.2 = .holding kept ∧ post exchanges (outcome.1, kept) :=
    Dialogue.ensures_bind_done_iff.mpr (ensures.mono fun _ outcome h => ⟨outcome.2, rfl, h⟩)
  exact Dialogue.ensures_bind_done_iff.mpr (hSlot.mono fun _ _ h => ⟨rfl, rfl, h⟩)

/-- Identifying a drive takes commands only. -/
theorem ensures_identify_of_holding (hInner : device.inner = .holding inner) :
    device.identify.Ensures fun exchanges outcome =>
      (∀ exchange ∈ exchanges, ∃ command, exchange.query = .transmit inner.place.unit command) ∧
        ∃ kept, outcome.2.inner = .holding kept ∧ kept.place = inner.place ∧
          kept.isOpen = inner.isOpen :=
  ensures_identify (Slot.answers_holding inner.place inner.isOpen) ⟨inner, hInner, rfl, rfl⟩

/-- The device below an NVMe device is held all through the probe, and a SAT device is called for
only if it has opened. -/
theorem ensures_examine_of_holding (hInner : device.inner = .holding inner) :
    device.examine.Ensures fun exchanges outcome => ∃ kept, outcome.2.inner = .holding kept ∧
      OpenedOnce inner kept exchanges ∧
        ∀ length, outcome.1 = some length → device.fallback = some length ∧ kept.isOpen = true := by
  refine ensures_examine ((ensures_connect_of_holding hInner inner.ensures_connect).mono ?_)
  rintro before ⟨result, opened⟩ ⟨hFallback, -, held, hHeld, hConnected⟩
  refine ⟨fun _ => ⟨held, hHeld, .of_connected hConnected, nofun⟩, ?_⟩
  rintro length rfl hLength
  refine (ensures_identify_of_holding hHeld).mono ?_
  rintro sent ⟨identified, seen⟩ ⟨hSent, kept, hKept, hPlace, hOpen⟩
  have hProbed := OpenedOnce.of_commands hConnected hSent hPlace hOpen
  refine ⟨fun _ => ⟨kept, hKept, hProbed, ?_⟩, fun _ => ⟨kept, hKept, hProbed, nofun⟩⟩
  rintro _ ⟨⟩
  exact ⟨hFallback.symm.trans hLength, hOpen.trans (hConnected.isOpen rfl)⟩

/-- Who has the device below after a probe, given the states that the examination left it and the
NVMe device in. Neither state is touched when it moves. -/
inductive Settled (fallback : Option Ata.Sat.Length) (kept : ScsiDevice) (seen : NvmeDevice) :
    Option AtaDevice × NvmeDevice → Prop where
  | stays : Settled fallback kept seen (none, seen)
  | moves (length : Ata.Sat.Length) (wanted : fallback = some length)
      (isOpen : kept.isOpen = true) :
      Settled fallback kept seen
        (some (.sat (.atop kept.profile "sat" .always length) kept),
          { seen with inner := .released })

/-- The devices that are there after a probe. -/
def survivors (outcome : Option AtaDevice × NvmeDevice) : List Device :=
  .nvme outcome.2 :: (outcome.1.map Device.ata).toList

theorem Settled.countP_owns {fallback : Option Ata.Sat.Length} {kept : ScsiDevice}
    {seen : NvmeDevice} {outcome : Option AtaDevice × NvmeDevice}
    (hSettled : Settled fallback kept seen outcome) (hHeld : seen.inner = .holding kept) :
    (survivors outcome).countP (·.owns kept.toDevice) = 1 := by
  cases hSettled with
  | stays =>
      simp [survivors, Device.owns, Device.inner?, hHeld, Slot.held?]
  | moves length wanted isOpen =>
      simp [survivors, Device.owns, Device.inner?, Slot.held?]

/-- A probe leaves the device below with one owner, opened once and never closed. If that is a new
one, the device is in the state that the examination left it in, and nothing that is done with the
NVMe device from then on reaches it. -/
theorem autodetect_leaves_one_owner (hInner : device.inner = .holding inner) :
    device.autodetect.Ensures fun exchanges outcome => ∃ kept found seen,
      OpenedOnce inner kept exchanges ∧ device.examine.Path exchanges (found, seen) ∧
        seen.inner = .holding kept ∧ Settled device.fallback kept seen outcome ∧
          (survivors outcome).countP (·.owns kept.toDevice) = 1 ∧
            (outcome.1 ≠ none → (Device.nvme outcome.2).Stranded) := by
  have hExamine := (ensures_examine_of_holding hInner).and device.safe_examine.ensures_path
  refine hExamine.bind fun before ⟨found, seen⟩ hSeen => ?_
  obtain ⟨⟨kept, hKept, hOpened, hFound⟩, hPath⟩ := hSeen
  dsimp only at hKept hFound ⊢
  cases found with
  | none =>
      have hStays : Settled device.fallback kept seen (none, seen) := .stays
      rw [← List.append_nil before] at hOpened hPath
      exact ⟨kept, none, seen, hOpened, hPath, hKept, hStays, hStays.countP_owns hKept, nofun⟩
  | some length =>
      obtain ⟨hWanted, hIsOpen⟩ := hFound length rfl
      have hMoves : Settled device.fallback kept seen _ := .moves length hWanted hIsOpen
      have hGone : (Device.nvme { seen with inner := .released }).Stranded :=
        stranded_of_released rfl
      simp only [handOver, hKept, Slot.held?]
      rw [← List.append_nil before] at hOpened hPath
      exact ⟨kept, some length, seen, hOpened, hPath, hKept, hMoves, hMoves.countP_owns hKept,
        fun _ => hGone⟩

/-- A bridge that opens and then takes no command, so that a SAT device takes over. -/
theorem silent_drive_moves :
    let drive := ScsiDevice.endpoint (.new "/dev/sdx" 0)
    let device := NvmeDevice.atop drive "" .asmedia 0 (some .short)
    let party : (query : Wire.Query) → Unit → Wire.Answer query × Unit
      | .attach, _ => (0, ())
      | .connect _, _ | .disconnect _, _ => (.ok (), ())
      | .transmit _ _, _ => (.error ⟨.ofCause .transfer, true⟩, ())
    device.inner = .holding drive ∧ ∃ outcome,
      (device.autodetect.run party ()).value = some outcome ∧ outcome.1.isSome = true ∧
        (Device.nvme outcome.2).Stranded := by
  intro drive device party
  have hInner : device.inner = .holding drive := rfl
  obtain ⟨outcome, hValue, _, _, _, -, -, -, -, -, hGone⟩ :=
    (autodetect_leaves_one_owner hInner).of_run party ()
  have hReplaced : ((device.autodetect.run party ()).value.map (·.1.isSome)) = some true := by
    decide +kernel
  rw [hValue] at hReplaced
  have hSome : outcome.1.isSome = true := Option.some_inj.mp hReplaced
  exact ⟨hInner, outcome, hValue, hSome, hGone (Option.isSome_iff_ne_none.mp hSome)⟩

end Probe

end NvmeDevice

end DriveBridge.Chain
