import DriveBridge.Proofs.Nvme.Bridge

/-! What the bridges take that need one command for a request. They look at the operation and at the
dwords that the CDB has no room for, then at the buffer, then at the length of the transfer. A request
that passes is sent by one command that reads. -/
namespace DriveBridge.Nvme

/-- The admin commands that fit through the narrow bridges. -/
inductive Request.Narrow (request : Request) : Prop where
  | controller (identifies : request.opcode = Opcode.identify)
      (whole : request.cdw10 = identifyController)
  | firstNamespace (identifies : request.opcode = Opcode.identify)
      (single : request.cdw10 = identifyNamespace) (first : request.nsid = 1)
  | logPage (reads : request.opcode = Opcode.getLogPage)
      (ofController : request.nsid = broadcast ∨ request.nsid = 0)

/-- There is a buffer, and it has room for what is to be transferred. -/
def Request.HasBuffer (request : Request) : Prop :=
  ∃ buffer, request.buffer = some buffer ∧ request.size ≤ buffer.length

/-- The buffer, cleared as far as the request goes. -/
def Request.cleared (request : Request) : Option Bytes :=
  request.bufferAfter (Bytes.zeros request.size)

/-- A check that lets requests through under a condition, and calls the others unsupported. -/
inductive Judges (condition : Prop) : Except Failure Unit → Prop where
  | passed (holds : condition) : Judges condition (.ok ())
  | unsupported (fails : ¬ condition) (message : String) :
      Judges condition (.error ⟨.unsupported, message⟩)

/-- A further check narrows the condition. -/
theorem Judges.and_not {condition : Prop} {first : Except Failure Unit}
    (judges : Judges condition first) (refused : Prop) [Decidable refused] (message : String) :
    Judges (condition ∧ ¬ refused) (do
      first
      if refused then .error ⟨.unsupported, message⟩) := by
  cases judges with
  | unsupported fails text => exact .unsupported (fun h => fails h.1) text
  | passed holds =>
      show Judges _ (if refused then .error ⟨.unsupported, message⟩ else .ok ())
      split
      · next hRefused => exact .unsupported (fun h => h.2 hRefused) message
      · next hPassed => exact .passed ⟨holds, hPassed⟩

section Request

variable {request : Request}

theorem Request.Narrow.direction (narrow : request.Narrow) : request.direction = .dataIn := by
  unfold Request.direction
  cases narrow with
  | controller hOpcode | firstNamespace hOpcode | logPage hOpcode =>
      rw [hOpcode]
      rfl

theorem judges_narrow (request : Request) : Judges request.Narrow (narrow request) := by
  have hDistinct : Opcode.identify ≠ Opcode.getLogPage := by decide
  unfold narrow
  split
  · next hIdentify =>
      have hLogPage : request.opcode ≠ Opcode.getLogPage := hIdentify ▸ hDistinct
      split
      · next hWhole => exact .passed (.controller hIdentify hWhole)
      · split
        · next hSingle =>
            split
            · next hFirst => exact .passed (.firstNamespace hIdentify hSingle hFirst)
            · exact .unsupported (fun hNarrow => by cases hNarrow <;> contradiction) _
        · exact .unsupported (fun hNarrow => by cases hNarrow <;> contradiction) _
  · split
    · next hLogPage =>
        split
        · next hAll => exact .passed (.logPage hLogPage hAll)
        · exact .unsupported (fun hNarrow => by cases hNarrow <;> contradiction) _
    · exact .unsupported (fun hNarrow => by cases hNarrow <;> contradiction) _

theorem Request.exists_transferred? (hBuffer : request.HasBuffer) :
    ∃ data, request.transferred? = some data ∧ data.length = request.size := by
  obtain ⟨buffer, hSome, hRoom⟩ := hBuffer
  exact ⟨_, transferred?_of_le hSome hRoom, List.length_take_of_le hRoom⟩

theorem Request.transferred?_eq_none (hBuffer : ¬ request.HasBuffer) :
    request.transferred? = none := by
  unfold transferred?
  split
  · next buffer hSome => exact if_neg fun hRoom => hBuffer ⟨buffer, hSome, hRoom⟩
  · rfl

/-- What fills all that is transferred leaves nothing of the cleared buffer. -/
theorem Request.cleared_map_overlay {data : Bytes} (hData : request.size ≤ data.length) :
    request.cleared.map (Bytes.overlay data) = request.bufferAfter data := by
  have hCovers : (Bytes.zeros request.size).length ≤ data.length := by
    rwa [Bytes.length_zeros]
  rw [cleared, bufferAfter, Option.map_map]
  exact congrArg (Option.map · request.buffer) (funext (Bytes.overlay_overlay hCovers))

end Request

/-- A bridge that takes a request in one command that reads. -/
structure NarrowBridge where
  /-- The dwords that the CDB has no room for are 0. -/
  DwordsFit : Request → Prop
  /-- The CDB can tell the length of the transfer. -/
  LengthFits : Request → Prop
  /-- Bytes that are transferred. -/
  transferred : Request → Nat
  cdb : Request → Bytes
  transferred_le (request : Request) : transferred request ≤ request.size

namespace NarrowBridge

/-- The bridge has an encoding for the operation with its dwords. -/
structure Encodes (bridge : NarrowBridge) (request : Request) : Prop where
  narrow : request.Narrow
  dwords : bridge.DwordsFit request

/-- The requests that the bridge sends. -/
structure Accepts (bridge : NarrowBridge) (request : Request) : Prop
    extends Encodes bridge request where
  buffer : request.HasBuffer
  length : bridge.LengthFits request

def command (bridge : NarrowBridge) (request : Request) : Scsi.Command where
  cdb := bridge.cdb request
  direction := .fromDevice
  data := Bytes.zeros (bridge.transferred request)

/-- How a request may go. A transfer that is too long is found when the buffer has been cleared. -/
inductive Course (bridge : NarrowBridge) (request : Request) (completion : Completion) :
    List Scsi.Exchange → Answer → Prop where
  | unsupported {failure : Failure} (fails : ¬ bridge.Encodes request)
      (cause : failure.cause = .unsupported) :
      Course bridge request completion [] (request.refused completion failure)
  | unbuffered {failure : Failure} (encodes : bridge.Encodes request)
      (fails : ¬ request.HasBuffer) (cause : failure.cause = .malformed) :
      Course bridge request completion [] (request.refused completion failure)
  | tooLong {failure : Failure} (encodes : bridge.Encodes request) (hasBuffer : request.HasBuffer)
      (fails : ¬ bridge.LengthFits request) (cause : failure.cause = .malformed) :
      Course bridge request completion []
        ⟨.error failure, completion, request.cleared⟩
  | sent {exchange : Scsi.Exchange} {buffer : Option Bytes} (accepts : bridge.Accepts request)
      (command_eq : exchange.command = bridge.command request)
      (judged : exchange.query.label ≠ none)
      (filled : exchange.answer.completion.data.length = bridge.transferred request →
        buffer = request.cleared.map (Bytes.overlay exchange.answer.completion.data)) :
      Course bridge request completion [exchange] ⟨exchange.result, completion, buffer⟩

end NarrowBridge

namespace Asmedia

def bridge : NarrowBridge where
  DwordsFit request := request.cdw11 = 0 ∧ request.cdw14 = 0 ∧ request.cdw15 = 0
  LengthFits _ := True
  transferred request := request.size
  cdb := cdb
  transferred_le request := Nat.le_refl request.size

theorem judges_check (request : Request) : Judges (bridge.Encodes request) (check request) := by
  have hEncodes : bridge.Encodes request ↔ request.Narrow ∧
      ¬ (request.cdw11 ≠ 0 ∨ request.cdw14 ≠ 0 ∨ request.cdw15 ≠ 0) := by
    simp only [not_or, Decidable.not_not]
    exact ⟨fun h => ⟨h.narrow, h.dwords⟩, fun h => ⟨h.1, h.2⟩⟩
  rw [hEncodes]
  exact (judges_narrow request).and_not _ _

theorem ensures_course (request : Request) (completion : Completion) :
    (perform request completion).Ensures (bridge.Course request completion) := by
  have hJudges := judges_check request
  unfold perform
  generalize check request = verdict at hJudges ⊢
  cases hJudges with
  | unsupported fails message => exact .unsupported fails rfl
  | passed encodes =>
      by_cases hBuffer : request.HasBuffer
      · obtain ⟨data, hData, hLength⟩ := Request.exists_transferred? hBuffer
        simp only [hData, hLength]
        refine Scsi.ensures_judged_bind fun exchange hCommand hJudged => ?_
        refine .sent ⟨encodes, hBuffer, trivial⟩ hCommand hJudged fun hFilled => ?_
        exact (Request.cleared_map_overlay (Nat.le_of_eq hFilled.symm)).symm
      · simp only [Request.transferred?_eq_none hBuffer]
        exact .unbuffered encodes hBuffer rfl

end Asmedia

namespace Realtek

def bridge : NarrowBridge where
  DwordsFit request := request.cdw11 = 0 ∧ request.cdw12 = 0 ∧ request.cdw13 = 0 ∧
    request.cdw14 = 0 ∧ request.cdw15 = 0
  LengthFits request := request.opcode = Opcode.getLogPage ∨ request.size ≤ 0xffff
  transferred request := transferLength request request.size
  cdb request := cdb request (transferLength request request.size)
  transferred_le request := transferLength_le request request.size

theorem judges_check (request : Request) : Judges (bridge.Encodes request) (check request) := by
  have hEncodes : bridge.Encodes request ↔ request.Narrow ∧
      ¬ (request.cdw11 ≠ 0 ∨ request.cdw12 ≠ 0 ∨ request.cdw13 ≠ 0 ∨ request.cdw14 ≠ 0 ∨
        request.cdw15 ≠ 0) := by
    simp only [not_or, Decidable.not_not]
    exact ⟨fun h => ⟨h.narrow, h.dwords⟩, fun h => ⟨h.1, h.2⟩⟩
  rw [hEncodes]
  exact (judges_narrow request).and_not _ _

/-- A log page is cut to a length that fits. -/
theorem transferLength_lt_iff {request : Request} :
    transferLength request request.size < 65536 ↔ bridge.LengthFits request := by
  show _ ↔ request.opcode = Opcode.getLogPage ∨ request.size ≤ 0xffff
  unfold transferLength logLimit
  by_cases hLogPage : request.opcode = Opcode.getLogPage
  · simp only [hLogPage, true_and, true_or, iff_true]
    split <;> omega
  · simp only [hLogPage, false_and, if_false, false_or]
    omega

/-- What becomes of a request whose buffer has been cleared. -/
theorem ensures_cleared (label : String) {failure : Failure} {request : Request}
    {completion : Completion} (encodes : bridge.Encodes request) (hBuffer : request.HasBuffer)
    (cause : failure.cause = .malformed) :
    Dialogue.Ensures
      (if transferLength request request.size < 65536 then
        (Scsi.sendChecked label (bridge.command request)).bind fun answer =>
          .done ⟨answer.result, completion,
            request.cleared.map (Bytes.overlay answer.completion.data)⟩
      else .done ⟨.error failure, completion, request.cleared⟩)
      (bridge.Course request completion) := by
  split
  · next hShort =>
      refine Scsi.ensures_judged_bind fun exchange hCommand hJudged => ?_
      exact .sent ⟨encodes, hBuffer, transferLength_lt_iff.mp hShort⟩ hCommand hJudged fun _ => rfl
  · next hLong =>
      exact .tooLong encodes hBuffer (fun hFits => hLong (transferLength_lt_iff.mpr hFits)) cause

theorem ensures_course (request : Request) (completion : Completion) :
    (perform request completion).Ensures (bridge.Course request completion) := by
  have hJudges := judges_check request
  unfold perform
  generalize check request = verdict at hJudges ⊢
  cases hJudges with
  | unsupported fails message => exact .unsupported fails rfl
  | passed encodes =>
      by_cases hBuffer : request.HasBuffer
      · obtain ⟨data, hData, hLength⟩ := Request.exists_transferred? hBuffer
        have hLimit := transferLength_le request request.size
        have hWithin : transferLength request request.size ≤ (Bytes.zeros request.size).length := by
          rwa [Bytes.length_zeros]
        simp only [hData, hLength, Checked.cut_of_le hWithin, Bytes.take_zeros hLimit,
          Dialogue.demand_some, Dialogue.bind_eq, Dialogue.done_bind]
        split
        · next hTruncated =>
            obtain ⟨entry, hEntry⟩ := exists_truncation request hTruncated
            simp only [hEntry, Dialogue.demand_some, Dialogue.done_bind]
            exact Dialogue.ensures_log_bind_iff.mpr (ensures_cleared _ encodes hBuffer rfl)
        · exact ensures_cleared _ encodes hBuffer rfl
      · simp only [Request.transferred?_eq_none hBuffer]
        exact .unbuffered encodes hBuffer rfl

end Realtek

end DriveBridge.Nvme
