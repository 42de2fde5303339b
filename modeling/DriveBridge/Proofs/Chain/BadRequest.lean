import DriveBridge.Proofs.Ata.FailedRequest
import DriveBridge.Proofs.Chain.NvmePhases
import DriveBridge.Proofs.Chain.Relay

/-! A failure that blames the request is found before anything is sent. What goes wrong later is a
failed transfer, or what the transport itself failed with. -/
namespace DriveBridge.Chain

/-- The transport has not failed with a cause that would blame a request. -/
def Sound (below : List Exchange) : Prop :=
  ∀ exchange ∈ below, ∀ failure, Exchange.failure? exchange = some failure →
    failure.cause ≠ .malformed ∧ failure.cause ≠ .unsupported

/-- A failure that blames the request, for what it is or for what it would take. What a bridge says
of a byte that it cannot read does not. -/
def BlamesRequest (failure : Failure) : Prop :=
  failure.cause = .malformed ∨ failure.cause = .unsupported ∧ ¬ Ata.JMicron.Unreadable failure

section BlamesRequest

variable {failure : Failure}

theorem BlamesRequest.cause_ne (blames : BlamesRequest failure) : failure.cause ≠ .transfer := by
  intro hTransfer
  rcases blames with hCause | ⟨hCause, -⟩ <;> cases hTransfer.symm.trans hCause

theorem BlamesRequest.not_unreadable (blames : BlamesRequest failure) :
    ¬ Ata.JMicron.Unreadable failure := by
  intro hUnreadable
  rcases blames with hCause | ⟨-, hReadable⟩
  · cases hUnreadable <;> cases hCause
  · exact hReadable hUnreadable

theorem ScsiDevice.Relays.exists_relayed {device : ScsiDevice} {above : List Scsi.Exchange}
    {below : List Exchange} (relays : device.Relays above below) {exchange : Scsi.Exchange}
    (hMember : exchange ∈ above) :
    ∃ sent ∈ below, Relayed device.place.unit device.profile.timeout exchange sent := by
  obtain ⟨phase, hExchange⟩ := List.mem_iff_getElem?.mp hMember
  obtain ⟨sent, hSent, hRelayed⟩ := exists_counterpart relays hExchange
  exact ⟨sent, List.mem_of_getElem? hSent, hRelayed⟩

/-- A failure that has a source and blames the request comes from before the first command. -/
theorem ScsiDevice.Relays.unsent {device : ScsiDevice} {above : List Scsi.Exchange}
    {below : List Exchange} (relays : device.Relays above below)
    (traced : Scsi.Traced above failure) (sound : Sound below)
    (blames : BlamesRequest failure) : below = [] := by
  rcases traced with rfl | hCause | ⟨exchange, hMember, hFailed⟩
  · exact List.forall₂_nil_left_iff.mp relays
  · exact (blames.cause_ne hCause).elim
  · obtain ⟨sent, hSent, hRelayed⟩ := relays.exists_relayed hMember
    rcases hRelayed.blamed failure hFailed with hCause | hTransport
    · exact (blames.cause_ne hCause).elim
    · obtain ⟨hMalformed, hUnsupported⟩ := sound sent hSent failure hTransport
      rcases blames with hCause | ⟨hCause, -⟩
      · exact (hMalformed hCause).elim
      · exact (hUnsupported hCause).elim

end BlamesRequest

/-- Nothing is sent for a request to a device that takes ATA commands, if the request is blamed, and
the registers are as they were. -/
theorem AtaDevice.ensures_blamed_unsent (device : AtaDevice) (query : Ata.Query) :
    (device.perform query).Ensures fun below outcome =>
      ∀ failure, outcome.1.result = .error failure → Sound below → BlamesRequest failure →
        below = [] ∧ outcome.1.registers = query.registers := by
  refine (device.ensures_perform fun translator =>
    translator.ensures_failsCleanly query.request query.registers).mono ?_
  intro below outcome hServed failure hFailed hSound hBlames
  obtain ⟨inner, above, hFails, hRelays⟩ := hServed
  obtain ⟨hRegisters, hSource⟩ := hFails failure hFailed
  have hTraced := hSource.resolve_right hBlames.not_unreadable
  exact ⟨hRelays.unsent hTraced hSound hBlames, hRegisters⟩

namespace Slot

/-- A session on a slot that holds a device is one on the device. -/
theorem through_holding {α : Type} (session : Scsi.Session α) (device : ScsiDevice) :
    session.through scsiAnswer (holding device) =
      (device.serve session).bind fun outcome => .done (outcome.1, holding outcome.2) := by
  unfold ScsiDevice.serve
  induction session generalizing device with
  | done value => rfl
  | breach => rfl
  | note entry rest ih => simp [ih]
  | ask query next ih =>
      simp only [Dialogue.through_ask, scsiAnswer, Dialogue.bind_eq, Dialogue.bind_assoc,
        Dialogue.pure_eq, Dialogue.done_bind, ih]

end Slot

namespace NvmeDevice

/-- What the session of a bridge ensures, a request to a device with another one below it does, with
the commands of the session on the wire. -/
theorem ensures_perform_relayed {device : NvmeDevice} {inner : ScsiDevice} {request : Nvme.Request}
    {completion : Nvme.Completion} {post : List Scsi.Exchange → Nvme.Answer → Prop}
    (hInner : device.inner = .holding inner)
    (hSession : (device.vendor.perform device.profile.label request completion).Ensures post) :
    (device.perform request completion).Ensures fun below outcome =>
      ∃ above, post above outcome.1 ∧ inner.Relays above below := by
  unfold perform
  rw [hInner, Slot.through_holding]
  rw [Dialogue.bind_eq, Dialogue.bind_assoc]
  exact Dialogue.ensures_bind_done_iff.mpr (ScsiDevice.ensures_serve hSession inner)

theorem ensures_blamed_unsent (device : NvmeDevice) (request : Nvme.Request)
    (completion : Nvme.Completion) :
    (device.perform request completion).Ensures fun below outcome =>
      ∀ failure, outcome.1.result = .error failure → Sound below → BlamesRequest failure →
        below = [] ∧ outcome.1.completion = completion := by
  have hSession := (device.vendor.ensures_perform device.profile.label request completion).mono
    fun _ _ hHandled => hHandled.fails
  cases hInner : device.inner with
  | holding inner =>
      refine (ensures_perform_relayed hInner hSession).mono ?_
      intro below outcome hServed failure hFailed hSound hBlames
      obtain ⟨above, hFails, hRelays⟩ := hServed
      obtain ⟨hCompletion, hTraced⟩ := hFails failure hFailed
      exact ⟨hRelays.unsent hTraced hSound hBlames, hCompletion.resolve_right hBlames.cause_ne⟩
  | released =>
      refine (ensures_perform_conveyed hSession).mono ?_
      intro below outcome hServed failure hFailed hSound hBlames
      obtain ⟨above, hConveyed, hFails⟩ := hServed
      rw [hInner] at hConveyed
      exact ⟨hConveyed.1, (hFails failure hFailed).1.resolve_right hBlames.cause_ne⟩

end NvmeDevice

/-- Whatever the device, as long as the transport does not blame a request by itself: a request that
is blamed has sent nothing, and leaves its registers or its completion as they were. -/
theorem blamed_requests_unsent :
    (∀ (device : AtaDevice) (query : Ata.Query), (device.perform query).Ensures fun below outcome =>
      ∀ failure, outcome.1.result = .error failure → Sound below → BlamesRequest failure →
        below = [] ∧ outcome.1.registers = query.registers) ∧
    ∀ (device : NvmeDevice) (request : Nvme.Request) (completion : Nvme.Completion),
      (device.perform request completion).Ensures fun below outcome =>
        ∀ failure, outcome.1.result = .error failure → Sound below → BlamesRequest failure →
          below = [] ∧ outcome.1.completion = completion :=
  ⟨AtaDevice.ensures_blamed_unsent, NvmeDevice.ensures_blamed_unsent⟩

theorem sound_of_delivering {α : Type} (reply : Scsi.Reply) (dialogue : Wire α) :
    Sound (Dialogue.exchanges (dialogue.run (delivering reply) ()).events) := by
  intro exchange hMember failure hFailure
  obtain ⟨_, hAnswer⟩ := Dialogue.answer_of_mem_run _ _ _ exchange hMember
  obtain ⟨query, answer⟩ := exchange
  cases query <;> cases hAnswer <;> cases hFailure

/-- A request without data that has a size contradicts itself, and one that identifies a controller
needs a buffer. Nothing is sent for either. -/
theorem malformed_requests_unsent :
    let inner : ScsiDevice := .endpoint (.new "/dev/sdb" 0)
    let disk : AtaDevice := .sat (.atop inner.profile "" .always .long) inner
    let drive : NvmeDevice := .atop inner "" .asmedia 0 none
    let query : Ata.Query := { request := { size := 1 } }
    let request : Nvme.Request := { Nvme.identifyRequest with buffer := none }
    let asked := (disk.perform query).run (delivering {}) ()
    let identified := (drive.perform request {}).run (delivering {}) ()
    (∃ outcome, asked.value = some outcome ∧ Dialogue.exchanges asked.events = [] ∧
        outcome.1.result = .error ((Ata.Refusal.sizeWithoutData 1).failure (some "SAT")) ∧
          outcome.1.registers = query.registers) ∧
      ∃ outcome, identified.value = some outcome ∧ Dialogue.exchanges identified.events = [] ∧
        outcome.1.result = .error Nvme.bufferFailure ∧ outcome.1.completion = {} := by
  intro inner disk drive query request asked identified
  constructor
  · obtain ⟨outcome, hValue, hUnsent⟩ := Dialogue.Ensures.of_run
      (blamed_requests_unsent.1 disk query) (delivering {}) ()
    have hRefused : asked.value.map (fun outcome => outcome.1.result) =
        some (.error ((Ata.Refusal.sizeWithoutData 1).failure (some "SAT"))) := rfl
    rw [hValue] at hRefused
    have hFailed := Option.some_inj.mp hRefused
    obtain ⟨hNone, hRegisters⟩ := hUnsent _ hFailed (sound_of_delivering _ _) (.inl rfl)
    exact ⟨outcome, hValue, hNone, hFailed, hRegisters⟩
  · obtain ⟨outcome, hValue, hUnsent⟩ := Dialogue.Ensures.of_run
      (blamed_requests_unsent.2 drive request {}) (delivering {}) ()
    have hRefused : identified.value.map (fun outcome => outcome.1.result) =
        some (.error Nvme.bufferFailure) := rfl
    rw [hValue] at hRefused
    have hFailed := Option.some_inj.mp hRefused
    obtain ⟨hNone, hCompletion⟩ := hUnsent _ hFailed (sound_of_delivering _ _) (.inl rfl)
    exact ⟨outcome, hValue, hNone, hFailed, hCompletion⟩

end DriveBridge.Chain
