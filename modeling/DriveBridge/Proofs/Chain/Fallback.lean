import DriveBridge.Proofs.Chain.Frame
import DriveBridge.Proofs.Chain.NvmeBuffer
import DriveBridge.Proofs.Chain.Ownership
import DriveBridge.Proofs.Text.Padding

/-! When an NVMe device gives way to a SAT device. It asks for the identity of the controller where
that is in doubt, and gives way exactly if the command fails or the drive names no model. The SAT
device takes over the device below as it is, with its path and its time limit. -/
namespace DriveBridge

open Text (IsPad)

/-- A field is padding exactly if all bytes at its places are. Places past the end hold zeros. -/
theorem Bytes.forall_mem_field_iff {data : Bytes} {start count : Nat} :
    (∀ byte ∈ (data.drop start).take count, IsPad byte) ↔
      ∀ place, start ≤ place → place < start + count → IsPad (data.byte place) := by
  constructor
  · intro hField place hStart hEnd
    by_cases hInside : place < data.length
    · have hByte : ((data.drop start).take count)[place - start]? = some (data.byte place) := by
        rw [List.getElem?_take_of_lt (by omega), List.getElem?_drop, Nat.add_sub_cancel' hStart,
          Bytes.byte, List.getD_eq_getElem?_getD, List.getElem?_eq_getElem hInside]
        rfl
      exact hField _ (List.mem_of_getElem? hByte)
    · rw [Bytes.byte_of_length_le (Nat.not_lt.mp hInside)]
      exact .inr rfl
  · intro hPlaces byte hMem
    obtain ⟨index, hIndex, rfl⟩ := List.mem_iff_getElem.mp hMem
    have hBounds := hIndex
    rw [List.length_take, List.length_drop] at hBounds
    have hPad := hPlaces (start + index) (by omega) (by omega)
    rw [Bytes.byte, List.getD_eq_getElem?_getD, List.getElem?_eq_getElem (by omega)] at hPad
    rwa [List.getElem_take, List.getElem_drop]

namespace Nvme

/-- The identity that a drive delivers names a model: its place is not all padding. What is missing
of the data counts as zeros. -/
def NamesModel (data : Bytes) : Prop :=
  ∃ place, 24 ≤ place ∧ place < 64 ∧ ¬ IsPad (data.byte place)

theorem Controller.model_isEmpty_iff {data : Bytes} {controller : Controller}
    (hDecoded : Controller.ofBytes? data = some controller) :
    controller.model.isEmpty = true ↔ ¬ NamesModel data := by
  have hModel : controller.modelField = (data.drop 24).take 40 := by
    unfold Controller.ofBytes? at hDecoded
    split at hDecoded
    · cases hDecoded
      rfl
    · cases hDecoded
  rw [Controller.model, Text.ofField_isEmpty_iff, hModel, Bytes.forall_mem_field_iff]
  unfold NamesModel
  push Not
  rfl

/-- What was read without a cut is the data as far as the transfer goes. -/
theorem ReadInto.byte_eq {size place : Nat} {data before after : Bytes}
    (into : ReadInto size size data before after) (hPlace : place < size) :
    after.byte place = data.byte place := by
  have hInside : after.take size = Bytes.overlay data (Bytes.zeros size) := by
    rw [into.inside, Bytes.overlay_zeros, List.length_take]
    congr 2
    omega
  have hByte : after.byte place = Bytes.byte (after.take size) place := by
    rw [Bytes.byte, Bytes.byte, List.getD_eq_getElem?_getD, List.getD_eq_getElem?_getD,
      List.getElem?_take_of_lt hPlace]
  rw [hByte, hInside, Bytes.byte_overlay_zeros hPlace]

end Nvme

namespace Chain

open Nvme (NamesModel)

theorem Filled.reply_unique {exchange : Exchange} {data data' : Bytes} {reply reply' : Scsi.Reply}
    (filled : Filled exchange data reply) (again : Filled exchange data' reply') :
    reply' = reply := by
  obtain ⟨unit, command, rfl, -⟩ := filled
  obtain ⟨_, _, hSame, -⟩ := again
  cases hSame
  rfl

/-- A device that may have been used in between, but is still the one that it was. -/
structure SameDevice (before after : ScsiDevice) : Prop where
  place : after.place = before.place
  unaltered : Unaltered before.toDevice after.toDevice

theorem SameDevice.refl (device : ScsiDevice) : SameDevice device device := ⟨rfl, rfl, rfl⟩

theorem SameDevice.trans {before middle after : ScsiDevice} (first : SameDevice before middle)
    (second : SameDevice middle after) : SameDevice before after where
  place := second.place.trans first.place
  unaltered := first.unaltered.trans second.unaltered

theorem SameDevice.names {before after : ScsiDevice} (same : SameDevice before after) :
    after.profile.names = before.profile.names := by
  simpa using same.unaltered.names

theorem SameDevice.timeout {before after : ScsiDevice} (same : SameDevice before after) :
    after.profile.timeout = before.profile.timeout := by
  simpa using same.unaltered.timeout

theorem ScsiDevice.ensures_connect_same (device : ScsiDevice) :
    device.connect.Ensures fun below outcome =>
      Connected device below outcome ∧ SameDevice device outcome.2 := by
  have hUnaltered := device.unaltered_connect.ensures device.safe_connect
  refine (device.ensures_connect.and hUnaltered).mono fun below outcome hBoth => ?_
  obtain ⟨hConnected, -, hAfter⟩ := hBoth
  exact ⟨hConnected, hConnected.place, hAfter⟩

/-- A device that is held stays the same, and as open as it is. -/
theorem Slot.answers_same (inner : ScsiDevice) :
    Slot.Answers (fun _ => True) (fun _ => True) fun slot =>
      ∃ kept, slot = .holding kept ∧ SameDevice inner kept ∧ kept.isOpen = inner.isOpen := by
  refine answers_held fun query device ⟨hSame, hOpen⟩ => ?_
  have hUnaltered := (device.unaltered_answer query).ensures (device.safe_answer query)
  refine ((device.ensures_answer query).and hUnaltered).mono fun below outcome hBoth => ?_
  obtain ⟨hAnswered, -, hAfter⟩ := hBoth
  exact ⟨fun _ _ => trivial, hSame.trans ⟨hAnswered.place, hAfter⟩, hAnswered.isOpen.trans hOpen⟩

/-- Identify Controller has got this answer, sent by a device that has just opened. -/
def Identifies (device : NvmeDevice) (unit : Nat) (later : List Exchange) (answer : Nvme.Answer) :
    Prop :=
  ∃ opened seen, device.connect.Path [⟨.connect unit, .ok ()⟩] (.ok (), opened) ∧
    (opened.perform Nvme.identifyRequest {}).Path later (answer, seen)

theorem Identifies.answer_unique {device : NvmeDevice} {unit : Nat} {later : List Exchange}
    {answer answer' : Nvme.Answer} (identifies : Identifies device unit later answer)
    (again : Identifies device unit later answer') : answer' = answer := by
  obtain ⟨opened, seen, hOpened, hAnswer⟩ := identifies
  obtain ⟨opened', seen', hOpened', hAnswer'⟩ := again
  obtain ⟨-, rfl⟩ := Prod.mk.inj (hOpened.value_unique hOpened')
  obtain ⟨rfl, -⟩ := Prod.mk.inj (hAnswer.value_unique hAnswer')
  rfl

/-- No NVMe drive has answered Identify Controller: the command fails, or what is delivered in its
data phase names no model. -/
inductive NoDrive (vendor : NvmeVendor) (later : List Exchange) (answer : Nvme.Answer) : Prop where
  | failed {failure : Failure} (fails : answer.result = .error failure)
  | nameless {sent : Exchange} {reply : Scsi.Reply} (phase : later[vendor.dataPhase]? = some sent)
      (filled : Filled sent (Bytes.zeros Nvme.identifyLength) reply)
      (blank : ¬ NamesModel reply.data)

namespace NvmeDevice

variable {device : NvmeDevice} {inner : ScsiDevice}

/-- The model is looked for in what was delivered. -/
theorem exists_delivered {vendor : NvmeVendor} {later : List Exchange} {buffer : Option Bytes}
    {controller : Nvme.Controller} (hasRead : HasRead vendor Nvme.identifyRequest later buffer)
    (hDecoded : Nvme.Controller.ofBytes? (buffer.getD []) = some controller) :
    ∃ sent reply, later[vendor.dataPhase]? = some sent ∧
      Filled sent (Bytes.zeros Nvme.identifyLength) reply ∧
        (controller.model.isEmpty = true ↔ ¬ NamesModel reply.data) := by
  obtain ⟨phase, filled, given, rfl, into⟩ := hasRead
  have hWhole : vendor.transferred Nvme.identifyRequest = Nvme.identifyLength := by
    cases vendor <;> rfl
  rw [hWhole] at filled into
  refine ⟨_, _, phase, filled, ?_⟩
  rw [Nvme.Controller.model_isEmpty_iff hDecoded]
  refine not_congr (exists_congr fun place => ?_)
  refine and_congr_right fun _ => and_congr_right fun hEnd => ?_
  have hPlace : place < Nvme.identifyLength := hEnd.trans (by decide)
  rw [Option.getD_some, into.byte_eq hPlace]

theorem ensures_identify_nameless (device : NvmeDevice) :
    device.identify.Ensures fun later outcome => ∃ answer,
      (device.perform Nvme.identifyRequest {}).Path later (answer, outcome.2) ∧
        (outcome.1.Nameless ↔ NoDrive device.vendor later answer) := by
  have hReads : Nvme.identifyRequest.direction = .dataIn := by decide
  have hPerform := (ensures_perform Slot.answers_any trivial Nvme.identifyRequest {}).and
    ((device.ensures_read _ {} hReads).and
      (device.safe_perform Nvme.identifyRequest {}).ensures_path)
  refine hPerform.bind fun later ⟨answer, seen⟩ ⟨hPerformed, hHasRead, hPath⟩ => ?_
  dsimp only at hHasRead ⊢
  cases hResult : answer.result with
  | error failure =>
      refine ⟨answer, by simpa using hPath, iff_of_true nofun (.failed hResult)⟩
  | ok _ =>
      obtain ⟨controller, hDecoded⟩ := exists_controller hPerformed.buffer
      simp only [hDecoded, Dialogue.demand_some, Dialogue.bind_eq, Dialogue.done_bind]
      refine ⟨answer, by simpa using hPath, ?_⟩
      obtain ⟨sent, reply, hSent, hFilled, hEmpty⟩ := exists_delivered (hHasRead hResult) hDecoded
      rw [List.append_nil]
      constructor
      · intro hNameless
        exact .nameless hSent hFilled (hEmpty.mp (hNameless controller rfl))
      · rintro (hFailed | ⟨hSent', hFilled', hBlank⟩) _ ⟨⟩
        · cases hResult.symm.trans hFailed
        · cases hSent.symm.trans hSent'
          rw [hFilled.reply_unique hFilled'] at hBlank
          exact hEmpty.mpr hBlank

/-- How a device is examined: what is asked of the endpoint, and which SAT device is called for. -/
inductive Examined (device : NvmeDevice) (unit : Nat) :
    List Exchange → Option Ata.Sat.Length → Prop where
  | unopened (fault : Fault) : Examined device unit [⟨.connect unit, .error fault⟩] none
  | trusted (certain : device.fallback = none) : Examined device unit [⟨.connect unit, .ok ()⟩] none
  | gone {length : Ata.Sat.Length} {later : List Exchange} {answer : Nvme.Answer}
      (doubted : device.fallback = some length) (identifies : Identifies device unit later answer)
      (noDrive : NoDrive device.vendor later answer) :
      Examined device unit (⟨.connect unit, .ok ()⟩ :: later) (some length)
  | there {length : Ata.Sat.Length} {later : List Exchange} {answer : Nvme.Answer}
      (doubted : device.fallback = some length) (identifies : Identifies device unit later answer)
      (drive : ¬ NoDrive device.vendor later answer) :
      Examined device unit (⟨.connect unit, .ok ()⟩ :: later) none

/-- The device below is held all through an examination. It is open where a SAT device is called
for. -/
theorem ensures_examine_same (hInner : device.inner = .holding inner) :
    device.examine.Ensures fun below outcome => Examined device inner.place.unit below outcome.1 ∧
      ∃ kept, outcome.2.inner = .holding kept ∧ SameDevice inner kept ∧
        (outcome.1.isSome = true → kept.isOpen = true) := by
  refine ensures_examine (((ensures_connect_of_holding hInner inner.ensures_connect_same).and
    device.safe_connect.ensures_path).mono ?_)
  rintro before ⟨result, opened⟩ ⟨⟨hFallback, hVendor, held, hHeld, hConnected, hSame⟩, hOpened⟩
  obtain ⟨reply, rfl, hResult⟩ := hConnected.asked
  dsimp only at hFallback hVendor hResult hOpened ⊢
  constructor
  · intro hCertain
    refine ⟨?_, held, hHeld, hSame, nofun⟩
    cases reply with
    | error fault => exact .unopened fault
    | ok _ => exact .trusted (hFallback.symm.trans (hCertain hResult))
  · rintro length rfl hLength
    cases reply with
    | error fault => cases hResult
    | ok _ =>
        have hIdentify := opened.ensures_identify_nameless.and
          (ensures_identify (Slot.answers_same held) ⟨held, hHeld, .refl held, rfl⟩)
        refine hIdentify.mono ?_
        rintro later ⟨identified, seen⟩ ⟨⟨answer, hAnswer, hNameless⟩, -, kept, hKept, hStill, hOpen⟩
        rw [hVendor] at hNameless
        have hDoubted : device.fallback = some length := hFallback.symm.trans hLength
        have hIdentifies : Identifies device inner.place.unit later answer :=
          ⟨opened, seen, hOpened, hAnswer⟩
        have hStays := hSame.trans hStill
        have hIsOpen : kept.isOpen = true := hOpen.trans (hConnected.isOpen rfl)
        constructor
        · intro hGone
          have hNoDrive := hNameless.mp hGone
          exact ⟨.gone hDoubted hIdentifies hNoDrive, kept, hKept, hStays, fun _ => hIsOpen⟩
        · intro hThere
          have hDrive := fun noDrive => hThere (hNameless.mpr noDrive)
          exact ⟨.there hDoubted hIdentifies hDrive, kept, hKept, hStays, nofun⟩

/-- A SAT device is called for exactly if there is doubt, the device has opened, and no NVMe drive
answers. -/
theorem Examined.isSome_iff {unit : Nat} {below : List Exchange} {found : Option Ata.Sat.Length}
    (examined : Examined device unit below found) :
    found.isSome = true ↔ device.fallback.isSome = true ∧ ∃ later answer,
      below = ⟨.connect unit, .ok ()⟩ :: later ∧ Identifies device unit later answer ∧
        NoDrive device.vendor later answer := by
  cases examined with
  | unopened fault => exact iff_of_false nofun fun ⟨_, _, _, hBelow, _⟩ => by cases hBelow
  | trusted certain => exact iff_of_false nofun fun ⟨hDoubt, _⟩ => by simp [certain] at hDoubt
  | @gone length later answer doubted identifies noDrive =>
      have hDoubt := Option.isSome_of_eq_some doubted
      exact iff_of_true rfl ⟨hDoubt, later, answer, rfl, identifies, noDrive⟩
  | there doubted identifies drive =>
      refine iff_of_false nofun fun ⟨_, later, answer, hBelow, hIdentifies, hNoDrive⟩ => drive ?_
      obtain ⟨-, rfl⟩ := List.cons.inj hBelow
      rwa [identifies.answer_unique hIdentifies] at hNoDrive

theorem Examined.commands_eq_nil {unit : Nat} {below : List Exchange}
    {found : Option Ata.Sat.Length} (examined : Examined device unit below found)
    (hCertain : device.fallback = none) : commands below = [] := by
  cases examined with
  | unopened fault | trusted certain => rfl
  | gone doubted | there doubted => cases hCertain.symm.trans doubted

theorem Examined.fallback_eq {unit : Nat} {below : List Exchange} {length : Ata.Sat.Length}
    (examined : Examined device unit below (some length)) : device.fallback = some length := by
  cases examined with
  | gone doubted => exact doubted

/-- A SAT device that takes over a device from below an NVMe device. -/
structure TakesOver (length : Ata.Sat.Length) (inner : ScsiDevice) (layer : SatLayer)
    (kept : ScsiDevice) : Prop where
  same : SameDevice inner kept
  isOpen : (AtaDevice.sat layer kept).isOpen = true
  length : layer.length = length
  mode : layer.mode = .always
  protocols : layer.profile.protocols = { ata := true }
  requested : layer.profile.names.requested = "sat"
  path : layer.profile.names.path = inner.profile.names.path
  timeout : layer.profile.timeout = inner.profile.timeout

theorem TakesOver.of_same {kept : ScsiDevice} (length : Ata.Sat.Length)
    (same : SameDevice inner kept) (hOpen : kept.isOpen = true) :
    TakesOver length inner (.atop kept.profile "sat" .always length) kept where
  same := same
  isOpen := hOpen
  length := rfl
  mode := rfl
  protocols := rfl
  requested := rfl
  path := by
    show kept.profile.names.path = inner.profile.names.path
    rw [same.names]
  timeout := same.timeout

/-- What opening an NVMe device may come to, where there is doubt about the drive. -/
structure Decided (device : NvmeDevice) (inner : ScsiDevice) (below : List Exchange)
    (outcome : Option AtaDevice × NvmeDevice) : Prop where
  replaced_iff : outcome.1.isSome = true ↔ device.fallback.isSome = true ∧ ∃ later answer,
    below = ⟨.connect inner.place.unit, .ok ()⟩ :: later ∧
      Identifies device inner.place.unit later answer ∧ NoDrive device.vendor later answer
  replacement : ∀ replacement, outcome.1 = some replacement → outcome.2.inner = .released ∧
    ∃ length layer kept, device.fallback = some length ∧ replacement = .sat layer kept ∧
      TakesOver length inner layer kept
  keeps : outcome.1 = none → ∃ kept, outcome.2.inner = .holding kept ∧ SameDevice inner kept
  unasked : device.fallback = none → commands below = []

/-- Whatever the endpoint answers, an NVMe device gives way to a SAT device exactly if it has
opened, may give way, and Identify Controller fails or delivers no model. -/
theorem gives_way_iff_no_drive (hInner : device.inner = .holding inner) :
    device.autodetect.Ensures (Decided device inner) := by
  refine (ensures_examine_same hInner).bind ?_
  rintro below ⟨found, seen⟩ ⟨hExamined, kept, hKept, hSame, hOpen⟩
  dsimp only at hExamined hKept hOpen ⊢
  rw [← List.append_nil below] at hExamined
  cases found with
  | none => exact {
      replaced_iff := hExamined.isSome_iff
      replacement := fun _ hReplaced => by cases hReplaced
      keeps := fun _ => ⟨kept, hKept, hSame⟩
      unasked := hExamined.commands_eq_nil }
  | some length =>
      simp only [handOver, hKept, Slot.held?]
      exact {
        replaced_iff := hExamined.isSome_iff
        replacement := by
          rintro _ ⟨⟩
          have hTakesOver := TakesOver.of_same length hSame (hOpen rfl)
          exact ⟨rfl, length, _, kept, hExamined.fallback_eq, rfl, hTakesOver⟩
        keeps := fun hKeeps => by cases hKeeps
        unasked := hExamined.commands_eq_nil }

/-- A drive whose identity is all blanks, behind a Realtek bridge, turns out to be a SATA drive. -/
theorem blank_drive_gives_way :
    let drive := ScsiDevice.endpoint (.new "/dev/sdg" 0)
    let device := NvmeDevice.atop drive "sntrealtek/sat" .realtek Nvme.broadcast (some .short)
    let run := device.autodetect.run (delivering { data := List.replicate 64 0x20 }) ()
    device.inner = .holding drive ∧ ∃ outcome, run.value = some outcome ∧
      outcome.1.isSome = true ∧ Decided device drive (Dialogue.exchanges run.events) outcome := by
  intro drive device run
  have hInner : device.inner = .holding drive := rfl
  obtain ⟨outcome, hValue, hDecided⟩ := (gives_way_iff_no_drive hInner).of_run
    (delivering { data := List.replicate 64 0x20 }) ()
  have hReplaced : run.value.map (·.1.isSome) = some true := by
    decide +kernel
  refine ⟨hInner, outcome, hValue, ?_, hDecided⟩
  rw [hValue] at hReplaced
  exact Option.some_inj.mp hReplaced

end NvmeDevice

end Chain

end DriveBridge
