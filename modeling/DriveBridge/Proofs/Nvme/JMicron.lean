import DriveBridge.Nvme.Bridge.JMicron
import DriveBridge.Proofs.Nvme.Bridge

/-! The bridge that takes a request in three commands. Its session is walked through once, which
tells what it sends and where it may stop; how a request ends is then read off the block that the
last command brings. -/
namespace DriveBridge.Nvme.JMicron

/-! ### Commands -/

/-- The phase in which an operation code moves data, by its two low bits. -/
def dataPhase (opcode : UInt8) : Phase :=
  if opcode &&& 3 = 1 then .dataOut else if opcode &&& 3 = 2 then .dataIn else .nonData

def Phase.direction : Phase → Scsi.Direction
  | .command | .dataOut => .toDevice
  | .dataIn | .response => .fromDevice
  | .nonData => .none

/-- The second byte of a CDB, by which the phases are told apart. -/
def Phase.mark : Phase → UInt8
  | .command => 0x80
  | .nonData => 0x81
  | .dataIn => 0x82
  | .dataOut => 0x83
  | .response => 0x8f

/-- A command that announces a phase, and comes with a buffer of the length that its CDB is made
for. The CDB has three bytes for the length, the most significant one first. -/
structure Announces (command : Scsi.Command) (phase : Phase) (length : Nat) : Prop where
  cdb : command.cdb = [0xa1, phase.mark, 0, (length / 0x10000).toUInt8, (length / 0x100).toUInt8,
    length.toUInt8, 0, 0, 0, 0, 0, 0]
  direction : command.direction = phase.direction
  length : command.data.length = length

/-- The dwords of a command block that are not 0 by design, which are its first ones. -/
def dwords (request : Request) : List UInt32 :=
  [signature, 0, request.opcode.toUInt32, request.nsid] ++ List.replicate 8 0 ++
    [request.cdw10, request.cdw11, request.cdw12, request.cdw13, request.cdw14, request.cdw15]

/-- A block holds the dwords of a request, little endian, and zeros after them. Of a clamped request
it holds another dword 12. -/
structure Encodes (request : Request) (block : Bytes) : Prop where
  length : block.length = blockLength
  dword : ∀ index, (index = 12 → isClamped request = false) →
    block.le32At (4 * index) = (dwords request).getD index 0

/-- Bytes that the data phase of a request moves. -/
def dataLength (request : Request) : Nat :=
  if request.direction = .noData then 0 else transferLength request

def blockCommand (request : Request) : Scsi.Command :=
  { cdb := cdb .command blockLength, direction := .toDevice, data := commandBlock request }

def responseCommand : Scsi.Command :=
  { cdb := cdb .response blockLength, direction := .fromDevice, data := Bytes.zeros blockLength }

/-- The commands of a request, given what its data phase moves. -/
def phases (request : Request) (data : Bytes) : List Scsi.Command :=
  [blockCommand request, dataCommand request.direction data, responseCommand]

section Commands

variable (request : Request)

theorem transferLength_le : transferLength request ≤ request.size := by
  unfold transferLength isClamped
  split
  · next hClamped =>
      simp only [Bool.and_eq_true, decide_eq_true_eq] at hClamped
      exact Nat.le_of_lt hClamped.2
  · exact Nat.le_refl _

theorem sentCdw10_of_not_clamped {request : Request} (h : isClamped request = false) :
    sentCdw10 request = request.cdw10 := by
  simp [sentCdw10, h]

theorem commandBlock_eq_flatMap :
    commandBlock request =
      ((dwords request).set 12 (sentCdw10 request)).flatMap Bytes.le32 ++ Bytes.zeros 440 := rfl

/-- The dwords of a command block, read back. -/
theorem le32At_commandBlock (index : Nat) :
    (commandBlock request).le32At (4 * index) =
      ((dwords request).set 12 (sentCdw10 request)).getD index 0 := by
  have hZeros : Bytes.zeros 440 = (List.replicate 110 0).flatMap Bytes.le32 :=
    (Bytes.flatMap_le32_zeros 110).symm
  rw [commandBlock_eq_flatMap, hZeros, ← List.flatMap_append, Bytes.le32At_flatMap_le32,
    Bytes.getD_append_zeros]

theorem encodes_commandBlock : Encodes request (commandBlock request) where
  length := length_commandBlock request
  dword := by
    intro index hIndex
    rw [le32At_commandBlock]
    by_cases hCount : index = 12
    · rw [sentCdw10_of_not_clamped (hIndex hCount), hCount]
      rfl
    · simp [List.getD_eq_getElem?_getD, List.getElem?_set_ne (Ne.symm hCount)]

theorem dataPhase_eq : dataPhase request.opcode = match request.direction with
    | .dataIn => .dataIn
    | .dataOut => .dataOut
    | .noData | .bidirectional => .nonData := by
  unfold dataPhase Request.direction Direction.ofOpcode
  simp only [← UInt8.toNat_inj]
  generalize (request.opcode &&& 3).toNat = bits
  match bits with
  | 0 | 1 | 2 => rfl
  | _ + 3 => simp

theorem Phase.eq_of_mark_eq {phase other : Phase} (hMark : phase.mark = other.mark) :
    phase = other := by
  revert hMark
  cases phase <;> cases other <;> decide

/-- The phases are told apart on the wire, whatever their lengths are. -/
theorem Announces.phase_unique {command : Scsi.Command} {phase other : Phase}
    {length otherLength : Nat} (announces : Announces command phase length)
    (announcesOther : Announces command other otherLength) : phase = other := by
  have hCdb := announces.cdb.symm.trans announcesOther.cdb
  exact Phase.eq_of_mark_eq (List.cons.inj (List.cons.inj hCdb).2).1

/-- The bytes of a CDB. -/
theorem cdb_eq (phase : Phase) (length : Nat) : cdb phase length =
    [0xa1, phase.mark, 0, (length / 0x10000).toUInt8, (length / 0x100).toUInt8, length.toUInt8,
      0, 0, 0, 0, 0, 0] := by
  have hMark : 0x80 ||| phase.code = phase.mark := by cases phase <;> rfl
  rw [cdb, hMark, Bytes.be24_toUInt32]
  rfl

theorem announces_blockCommand : Announces (blockCommand request) .command blockLength :=
  ⟨cdb_eq .command blockLength, rfl, length_commandBlock request⟩

theorem announces_dataCommand {data : Bytes} (hData : data.length = dataLength request)
    (hDirection : request.direction ≠ .bidirectional) :
    Announces (dataCommand request.direction data) (dataPhase request.opcode)
      (dataLength request) := by
  rw [dataPhase_eq, ← hData]
  cases hCase : request.direction with
  | noData =>
      have hNothing : data.length = 0 := by simpa [dataLength, hCase] using hData
      rw [hNothing]
      exact ⟨cdb_eq .nonData 0, rfl, rfl⟩
  | dataIn => exact ⟨cdb_eq .dataIn data.length, rfl, rfl⟩
  | dataOut => exact ⟨cdb_eq .dataOut data.length, rfl, rfl⟩
  | bidirectional => exact (hDirection hCase).elim

theorem announces_responseCommand : Announces responseCommand .response blockLength :=
  ⟨cdb_eq .response blockLength, rfl, Bytes.length_zeros _⟩

end Commands

/-! ### Responses -/

/-- All commands of a request went through, and this is what the last one brought. -/
def Responded (exchanges : List Scsi.Exchange) (block : Bytes) : Prop :=
  ∃ sent moved answered, exchanges = [sent, moved, answered] ∧
    (∀ exchange ∈ exchanges, exchange.result = .ok ()) ∧ answered.answer.completion.data = block

/-- The status of a response block. -/
def statusField (block : Bytes) : UInt32 := block.le32At 20 >>> 17

section Responses

variable {block : Bytes}

theorem Responded.unique {exchanges : List Scsi.Exchange} {other : Bytes}
    (responded : Responded exchanges block) (again : Responded exchanges other) :
    other = block := by
  obtain ⟨_, _, answered, rfl, -, rfl⟩ := responded
  obtain ⟨_, _, _, hEq, -, rfl⟩ := again
  cases hEq
  rfl

/-- The status field has 15 bits, so that nothing of it is cut off. -/
theorem toUInt32_statusOf (dword : UInt32) : (statusOf dword).toUInt32 = dword >>> 17 := by
  have hDword := dword.toNat_lt
  have hBound : dword.toNat / 2 ^ 17 < 2 ^ 16 := by omega
  refine UInt32.toNat_inj.mp ?_
  simp [statusOf, Nat.shiftRight_eq_div_pow]
  omega

variable (completion : Completion)

theorem concluded_of_ne (hSignature : block.le32At 0 ≠ signature) :
    ∃ message, concluded block completion = some (.error ⟨.transfer, message⟩, completion) :=
  ⟨_, if_pos hSignature⟩

theorem concluded_of_status (hSignature : block.le32At 0 = signature)
    (hStatus : statusField block ≠ 0) :
    ∃ message, concluded block completion = some (.error ⟨.transfer, message⟩,
      { completion with status := statusOf (block.le32At 20), statusValid := true }) := by
  have hNonzero : statusOf (block.le32At 20) ≠ 0 := by
    intro hZero
    apply hStatus
    rw [statusField, ← toUInt32_statusOf, hZero]
    rfl
  have hPositive : 0 < statusOf (block.le32At 20) := UInt16.pos_iff_ne_zero.mpr hNonzero
  simp [concluded, hSignature, hPositive, statusFailure?, hNonzero]

theorem concluded_of_success (hSignature : block.le32At 0 = signature)
    (hStatus : statusField block = 0) :
    concluded block completion = some (.ok (), { completion with result := block.le32At 8 }) := by
  have hZero : statusOf (block.le32At 20) = 0 := by
    rw [← UInt16.toUInt32_inj, toUInt32_statusOf]
    exact hStatus
  simp [concluded, hSignature, hZero]

/-- A response block always has a conclusion. -/
theorem exists_concluded (block : Bytes) :
    ∃ conclusion, concluded block completion = some conclusion := by
  by_cases hSignature : block.le32At 0 = signature
  · by_cases hStatus : statusField block = 0
    · exact ⟨_, concluded_of_success completion hSignature hStatus⟩
    · obtain ⟨_, hConclusion⟩ := concluded_of_status completion hSignature hStatus
      exact ⟨_, hConclusion⟩
  · obtain ⟨_, hConclusion⟩ := concluded_of_ne completion hSignature
    exact ⟨_, hConclusion⟩

/-- Only a signed block without a status concludes in a success. -/
theorem signed_of_concluded {conclusion : Except Failure Unit × Completion}
    (hConclusion : concluded block completion = some conclusion) (hOk : conclusion.1 = .ok ()) :
    block.le32At 0 = signature ∧ statusField block = 0 := by
  by_cases hSignature : block.le32At 0 = signature
  · refine ⟨hSignature, Decidable.byContradiction fun hStatus => ?_⟩
    obtain ⟨message, hFailed⟩ := concluded_of_status completion hSignature hStatus
    rw [hFailed] at hConclusion
    cases hConclusion
    cases hOk
  · obtain ⟨failure, hFailed⟩ := concluded_of_ne completion hSignature
    rw [hFailed] at hConclusion
    cases hConclusion
    cases hOk

/-- A block that concludes in a failure is one of a failed transfer. -/
theorem concluded_error {failure : Failure} {conclusion : Except Failure Unit × Completion}
    (hConclusion : concluded block completion = some conclusion)
    (hError : conclusion.1 = .error failure) : failure.cause = .transfer := by
  by_cases hSignature : block.le32At 0 = signature
  · by_cases hStatus : statusField block = 0
    · rw [concluded_of_success completion hSignature hStatus] at hConclusion
      cases hConclusion
      cases hError
    · obtain ⟨message, hFailed⟩ := concluded_of_status completion hSignature hStatus
      rw [hFailed] at hConclusion
      cases hConclusion
      cases hError
      rfl
  · obtain ⟨message, hFailed⟩ := concluded_of_ne completion hSignature
    rw [hFailed] at hConclusion
    cases hConclusion
    cases hError
    rfl

end Responses

/-! ### The session -/

/-- How the conversation about a request ends. -/
inductive Ended (completion : Completion) : List Scsi.Exchange → Answer → Prop where
  | stopped {exchanges : List Scsi.Exchange} {failure : Failure} (buffer : Option Bytes)
      (failed : ∃ exchange ∈ exchanges, exchange.result = .error failure) :
      Ended completion exchanges ⟨.error failure, completion, buffer⟩
  | concluded {exchanges : List Scsi.Exchange} {block : Bytes}
      {conclusion : Except Failure Unit × Completion} (buffer : Option Bytes)
      (responded : Responded exchanges block)
      (conclusion_eq : JMicron.concluded block completion = some conclusion) :
      Ended completion exchanges ⟨conclusion.1, conclusion.2, buffer⟩

theorem Ended.sent {completion : Completion} {exchanges : List Scsi.Exchange} {answer : Answer}
    (ended : Ended completion exchanges answer) (hOk : answer.result = .ok ()) :
    ∃ exchange ∈ exchanges, exchange.result = .ok () := by
  cases ended with
  | stopped => cases hOk
  | concluded _ responded _ =>
      obtain ⟨sent, _, _, rfl, hDelivered, -⟩ := responded
      exact ⟨sent, List.mem_cons_self, hDelivered sent List.mem_cons_self⟩

/-- A session stops with the failure of its last command, and concludes with none but of a
transfer. -/
theorem Ended.failsCleanly {completion : Completion} {exchanges : List Scsi.Exchange}
    {answer : Answer} (ended : Ended completion exchanges answer) :
    FailsCleanly completion exchanges answer := by
  intro failure hFailed
  cases ended with
  | stopped buffer failed =>
      cases hFailed
      exact ⟨.inl rfl, .inr (.inr failed)⟩
  | concluded buffer responded conclusion_eq =>
      have hCause := concluded_error completion conclusion_eq hFailed
      exact ⟨.inr hCause, .of_transfer hCause⟩

/-- What a walk through the session leads to. -/
structure Walked (request : Request) (data : Bytes) (buffer : Option Bytes)
    (completion : Completion) (exchanges : List Scsi.Exchange) (answer : Answer) : Prop where
  follows : Scsi.Follows (phases request data) exchanges
  judged : ∀ exchange ∈ exchanges, exchange.query.label ≠ none
  buffer : answer.buffer.map List.length = buffer.map List.length
  ended : Ended completion exchanges answer

section Session

variable (request : Request) (data : Bytes) (buffer : Option Bytes) (completion : Completion)

/-- The last phase, after the other two went through. -/
theorem ensures_respond {sent moved : Scsi.Exchange} (hSent : sent.result = .ok ())
    (hMoved : moved.result = .ok ()) :
    (respond buffer completion).Ensures fun later answer =>
      Scsi.Follows [responseCommand] later ∧ (∀ exchange ∈ later, exchange.query.label ≠ none) ∧
        answer.buffer = buffer ∧ Ended completion (sent :: moved :: later) answer := by
  refine Scsi.ensures_judged_bind fun answered hCommand hJudged => ?_
  have hFollows : Scsi.Follows [responseCommand] [answered] := by
    rw [responseCommand, ← hCommand]
    exact .single answered
  cases hAnswered : answered.answer.result with
  | error failure =>
      have hFailed : ∃ exchange ∈ [sent, moved, answered], exchange.result = .error failure :=
        ⟨answered, by simp, hAnswered⟩
      exact ⟨hFollows, by simpa using hJudged, rfl, .stopped buffer hFailed⟩
  | ok _ =>
      obtain ⟨conclusion, hConclusion⟩ :=
        exists_concluded completion answered.answer.completion.data
      have hResponded : Responded [sent, moved, answered] answered.answer.completion.data :=
        ⟨sent, moved, answered, rfl, by simpa using ⟨hSent, hMoved, hAnswered⟩, rfl⟩
      simp only [hConclusion]
      exact ⟨hFollows, by simpa using hJudged, rfl, .concluded buffer hResponded hConclusion⟩

theorem ensures_exchange : (exchange request data buffer completion).Ensures
    (Walked request data buffer completion) := by
  refine Scsi.ensures_judged_bind fun sent hSentCommand hSentJudged => ?_
  have hPlan : phases request data =
      [sent.command, dataCommand request.direction data, responseCommand] := by
    rw [hSentCommand]
    rfl
  cases hSent : sent.answer.result with
  | error failure =>
      exact {
        follows := hPlan ▸ .failed hSent
        judged := by simpa using hSentJudged
        buffer := rfl
        ended := .stopped buffer ⟨sent, by simp, hSent⟩ }
  | ok _ =>
      refine Scsi.ensures_judged_bind fun moved hMovedCommand hMovedJudged => ?_
      have hBuffer := map_length_overlay buffer moved.answer.completion.data
      rw [← hMovedCommand] at hPlan
      cases hMoved : moved.answer.result with
      | error failure =>
          exact {
            follows := hPlan ▸ .next hSent (.failed hMoved)
            judged := by simpa using ⟨hSentJudged, hMovedJudged⟩
            buffer := hBuffer
            ended := .stopped _ ⟨moved, by simp, hMoved⟩ }
      | ok _ =>
          refine (ensures_respond _ completion hSent hMoved).mono fun later answer hLater => ?_
          obtain ⟨hFollows, hJudged, hAnswer, hEnded⟩ := hLater
          exact {
            follows := hPlan ▸ .next hSent (.next hMoved hFollows)
            judged := by simpa using ⟨hSentJudged, hMovedJudged, hJudged⟩
            buffer := (congrArg (Option.map List.length) hAnswer).trans hBuffer
            ended := hEnded }

/-- What the data phase of a request moves, and the buffer that it finds. A buffer that is to be
filled has been cleared. -/
inductive Prepared (request : Request) : Bytes → Option Bytes → Prop where
  | noData (hDirection : request.direction = .noData) : Prepared request [] request.buffer
  | dataIn {data : Bytes} (hDirection : request.direction = .dataIn)
      (hData : request.transferred? = some data) :
      Prepared request ((Bytes.zeros data.length).take (transferLength request))
        (request.bufferAfter (Bytes.zeros data.length))
  | dataOut {data : Bytes} (hDirection : request.direction = .dataOut)
      (hData : request.transferred? = some data) :
      Prepared request (data.take (transferLength request)) request.buffer

variable {request data buffer}

theorem Prepared.length_data (prepared : Prepared request data buffer) :
    data.length = dataLength request := by
  have hLength := transferLength_le request
  cases prepared with
  | noData hDirection => simp [dataLength, hDirection]
  | dataIn hDirection hData =>
      simp [dataLength, hDirection, Request.length_of_transferred? hData, hLength]
  | dataOut hDirection hData =>
      simp [dataLength, hDirection, Request.length_of_transferred? hData, hLength]

theorem Prepared.direction_ne (prepared : Prepared request data buffer) :
    request.direction ≠ .bidirectional := by
  cases prepared with
  | noData hDirection | dataIn hDirection | dataOut hDirection => simp [hDirection]

theorem Prepared.length_buffer (prepared : Prepared request data buffer) :
    buffer.map List.length = request.buffer.map List.length := by
  cases prepared with
  | noData | dataOut => rfl
  | dataIn => exact map_length_overlay _ _

theorem exists_prepared (hDirection : request.direction ≠ .bidirectional)
    (hBuffer : request.direction ≠ .noData →
      ∃ buffer, request.buffer = some buffer ∧ request.size ≤ buffer.length) :
    ∃ data buffer, Prepared request data buffer := by
  have hData : request.direction ≠ .noData → ∃ data, request.transferred? = some data := by
    intro hMoves
    obtain ⟨buffer, hSome, hFits⟩ := hBuffer hMoves
    exact ⟨_, Request.transferred?_of_le hSome hFits⟩
  cases hCase : request.direction with
  | noData => exact ⟨_, _, .noData hCase⟩
  | dataIn =>
      obtain ⟨data, hSome⟩ := hData (by simp [hCase])
      exact ⟨_, _, .dataIn hCase hSome⟩
  | dataOut =>
      obtain ⟨data, hSome⟩ := hData (by simp [hCase])
      exact ⟨_, _, .dataOut hCase hSome⟩
  | bidirectional => exact (hDirection hCase).elim

/-- A request whose data is at hand goes through the three phases. -/
theorem perform_of_prepared (label : String) (prepared : Prepared request data buffer) :
    perform label request completion =
      (Dialogue.logAll (if isClamped request then [clamping label] else [])).bind fun _ =>
        exchange request data buffer completion := by
  cases prepared with
  | noData hDirection => simp [perform, hDirection, Dialogue.bind_eq]
  | @dataIn data hDirection hData =>
      have hFits : transferLength request ≤ (Bytes.zeros data.length).length := by
        rw [Bytes.length_zeros, Request.length_of_transferred? hData]
        exact transferLength_le request
      simp [perform, hDirection, hData, Dialogue.bind_eq, Checked.cut_of_le hFits]
  | @dataOut data hDirection hData =>
      have hFits : transferLength request ≤ data.length := by
        rw [Request.length_of_transferred? hData]
        exact transferLength_le request
      simp [perform, hDirection, hData, Dialogue.bind_eq, Checked.cut_of_le hFits]

/-- Any other request is refused. -/
theorem perform_of_not_prepared (label : String)
    (hNone : ∀ data buffer, ¬ Prepared request data buffer) :
    ∃ notes failure, perform label request completion =
      (Dialogue.logAll notes).bind fun _ => .done (request.refused completion failure) := by
  cases hDirection : request.direction with
  | noData => exact (hNone _ _ (.noData hDirection)).elim
  | bidirectional => exact ⟨[], _, by simp [perform, hDirection]; rfl⟩
  | dataIn =>
      cases hData : request.transferred? with
      | some data => exact (hNone _ _ (.dataIn hDirection hData)).elim
      | none => exact ⟨_, bufferFailure, by simp [perform, hDirection, hData]; rfl⟩
  | dataOut =>
      cases hData : request.transferred? with
      | some data => exact (hNone _ _ (.dataOut hDirection hData)).elim
      | none => exact ⟨_, bufferFailure, by simp [perform, hDirection, hData]; rfl⟩

/-- What the three phases ensure, a request whose data is at hand does. -/
theorem Prepared.ensures {post : List Scsi.Exchange → Answer → Prop} (label : String)
    (prepared : Prepared request data buffer)
    (ensures : (exchange request data buffer completion).Ensures post) :
    (perform label request completion).Ensures post := by
  rw [perform_of_prepared completion label prepared]
  exact Dialogue.ensures_bind_iff.mpr (Dialogue.ensures_logAll_iff.mpr ensures)

theorem ensures_walked (label : String) (prepared : Prepared request data buffer) :
    (perform label request completion).Ensures (Walked request data buffer completion) :=
  prepared.ensures completion label (ensures_exchange request data buffer completion)

theorem ensures_unsent (label : String) (hNone : ∀ data buffer, ¬ Prepared request data buffer) :
    (perform label request completion).Ensures fun exchanges answer =>
      exchanges = [] ∧ ∃ failure, answer = request.refused completion failure := by
  obtain ⟨notes, failure, hPerform⟩ := perform_of_not_prepared completion label hNone
  rw [hPerform]
  exact Dialogue.ensures_bind_iff.mpr (Dialogue.ensures_logAll_iff.mpr ⟨rfl, failure, rfl⟩)

theorem ensures_perform (request : Request) (completion : Completion) (label : String) :
    (perform label request completion).Ensures (Handled request completion) := by
  by_cases hPrepared : ∃ data buffer, Prepared request data buffer
  · obtain ⟨data, buffer, prepared⟩ := hPrepared
    refine (ensures_walked completion label prepared).mono fun exchanges answer walked => ?_
    exact {
      buffer := walked.buffer.trans prepared.length_buffer
      sent := walked.ended.sent
      fails := walked.ended.failsCleanly }
  · simp only [not_exists] at hPrepared
    refine (ensures_unsent completion label hPrepared).mono fun exchanges answer hUnsent => ?_
    obtain ⟨rfl, failure, rfl⟩ := hUnsent
    exact Handled.refused

end Session

/-! ### The protocol -/

/-- How a request goes in three phases: what is sent, and what the caller finds afterwards. -/
structure ThreePhases (request : Request) (completion : Completion)
    (exchanges : List Scsi.Exchange) (answer : Answer) : Prop where
  /-- The command block goes out, the data phase follows, and the response block comes back. -/
  commands : ∃ block data response,
    exchanges.map Scsi.Exchange.command <+: [block, data, response] ∧
      Announces block .command blockLength ∧ Encodes request block.data ∧
        Announces data (dataPhase request.opcode) (dataLength request) ∧
          Announces response .response blockLength
  /-- Sense data that reports an error fails every one of them. -/
  judged : ∀ exchange ∈ exchanges, exchange.query.label ≠ none
  /-- A phase is reached only if the one before it went through. -/
  delivered : ∀ exchange ∈ exchanges.dropLast, exchange.result = .ok ()
  /-- Nothing but a failure ends them early. -/
  complete : (∀ exchange ∈ exchanges, exchange.result = .ok ()) → exchanges.length = 3
  success : answer.result = .ok () ↔
    ∃ block, Responded exchanges block ∧ block.le32At 0 = signature ∧ statusField block = 0
  result : ∀ block, Responded exchanges block → block.le32At 0 = signature →
    statusField block = 0 → answer.completion = { completion with result := block.le32At 8 }
  refused : ∀ block, Responded exchanges block → block.le32At 0 = signature →
    statusField block ≠ 0 → (∃ message, answer.result = .error ⟨.transfer, message⟩) ∧
      answer.completion.status.toUInt32 = statusField block ∧
        answer.completion.statusValid = true ∧ answer.completion.result = completion.result
  untouched : (∀ block, Responded exchanges block → block.le32At 0 ≠ signature) →
    answer.completion = completion

section Protocol

variable {request : Request} {completion : Completion} {exchanges : List Scsi.Exchange}
  {answer : Answer}

/-- A request whose phases went through ends in what the response block says. -/
theorem Ended.eq_of_concluded {block : Bytes} {conclusion : Except Failure Unit × Completion}
    (ended : Ended completion exchanges answer) (responded : Responded exchanges block)
    (hConclusion : JMicron.concluded block completion = some conclusion) :
    answer.result = conclusion.1 ∧ answer.completion = conclusion.2 := by
  cases ended with
  | stopped _ failed =>
      obtain ⟨_, _, _, -, hDelivered, -⟩ := responded
      obtain ⟨exchange, hMem, hFailed⟩ := failed
      rw [hDelivered exchange hMem] at hFailed
      cases hFailed
  | concluded _ again h =>
      rw [responded.unique again, hConclusion] at h
      cases h
      exact ⟨rfl, rfl⟩

/-- Without a signed response block the request fails, and the completion stays as it was. -/
theorem Ended.untouched (ended : Ended completion exchanges answer)
    (hUnsigned : ∀ block, Responded exchanges block → block.le32At 0 ≠ signature) :
    (∃ failure, answer.result = .error failure) ∧ answer.completion = completion := by
  cases ended with
  | stopped _ _ => exact ⟨⟨_, rfl⟩, rfl⟩
  | concluded buffer responded h =>
      obtain ⟨_, hNe⟩ := concluded_of_ne completion (hUnsigned _ responded)
      have hEnds := (Ended.concluded buffer responded h).eq_of_concluded responded hNe
      exact ⟨⟨_, hEnds.1⟩, hEnds.2⟩

theorem Ended.success_iff (ended : Ended completion exchanges answer) :
    answer.result = .ok () ↔
      ∃ block, Responded exchanges block ∧ block.le32At 0 = signature ∧ statusField block = 0 := by
  constructor
  · intro hOk
    cases ended with
    | stopped _ _ => cases hOk
    | concluded _ responded hConclusion =>
        exact ⟨_, responded, signed_of_concluded completion hConclusion hOk⟩
  · rintro ⟨block, responded, hSignature, hStatus⟩
    exact (ended.eq_of_concluded responded (concluded_of_success completion hSignature hStatus)).1

/-- A request that is not refused from the start goes in three phases. -/
theorem ensures_phases (label : String) (hDirection : request.direction ≠ .bidirectional)
    (hBuffer : request.direction ≠ .noData →
      ∃ buffer, request.buffer = some buffer ∧ request.size ≤ buffer.length) :
    (perform label request completion).Ensures (ThreePhases request completion) := by
  obtain ⟨data, buffer, prepared⟩ := exists_prepared hDirection hBuffer
  refine (ensures_walked completion label prepared).mono fun exchanges answer walked => ?_
  show ThreePhases request completion exchanges answer
  exact {
    commands := ⟨_, _, _, walked.follows.commands_prefix, announces_blockCommand request,
      encodes_commandBlock request,
      announces_dataCommand request prepared.length_data hDirection, announces_responseCommand⟩
    judged := walked.judged
    delivered := walked.follows.delivered
    complete := fun hDelivered => by
      rw [← List.length_map Scsi.Exchange.command, walked.follows.commands_eq hDelivered]
      rfl
    success := walked.ended.success_iff
    result := fun block responded hSignature hStatus =>
      (walked.ended.eq_of_concluded responded
        (concluded_of_success completion hSignature hStatus)).2
    refused := fun block responded hSignature hStatus => by
      obtain ⟨message, hConclusion⟩ := concluded_of_status completion hSignature hStatus
      obtain ⟨hResult, hCompletion⟩ := walked.ended.eq_of_concluded responded hConclusion
      refine ⟨⟨message, hResult⟩, ?_⟩
      rw [hCompletion]
      exact ⟨toUInt32_statusOf _, rfl, rfl⟩
    untouched := fun hUnsigned => (walked.ended.untouched hUnsigned).2 }

end Protocol

end DriveBridge.Nvme.JMicron
