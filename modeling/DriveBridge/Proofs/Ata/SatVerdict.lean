import DriveBridge.Proofs.Ata.Translator
import DriveBridge.Proofs.Scsi.Sense

/-! When a SAT translator reports success. The transport says that the command went through, and
three readings of the sense data decide the rest: its header, the verdict on the completion, and
the status byte of the drive in an ATA Return descriptor. -/
namespace DriveBridge.Ata.Sat

/-- The sense data holds an ATA Return descriptor that declares itself complete. Its status byte
says that the drive is ready and neither busy nor in error. -/
def ReportsReady (sense : Bytes) : Prop :=
  ∃ found, Sense.descriptor? sense returnDescriptorType = some found ∧
    12 ≤ (found.byte 1).toNat ∧ found.byte 13 &&& 0xc1 = 0x40

theorem ReturnDescriptor.isReady_iff {sense found : Bytes} {descriptor : ReturnDescriptor}
    (hFound : Sense.descriptor? sense returnDescriptorType = some found)
    (hDescriptor : ofSense? sense = some descriptor) :
    descriptor.isReady = true ↔ ReportsReady sense := by
  rw [ofSense?, hFound] at hDescriptor
  cases hDescriptor
  simp only [isReady, ReportsReady, hFound, Option.some.injEq, exists_eq_left', Bool.and_eq_true,
    decide_eq_true_eq, beq_iff_eq, Bytes.byte_overlay_zeros (by omega : 1 < 14),
    Bytes.byte_overlay_zeros (by omega : 13 < 14)]
  constructor
  · intro hReady
    obtain ⟨hExtent, hStatus⟩ := hReady
    exact ⟨by omega, hStatus⟩
  · intro hReady
    obtain ⟨hDeclared, hStatus⟩ := hReady
    exact ⟨by omega, hStatus⟩

theorem answered_result (request : Request) (header : Sense.Header)
    (found : Option ReturnDescriptor) (area : Bytes) (registers : RegisterFile OutputRegister) :
    (answered request header found area registers).result = .ok () := by
  cases found with
  | some descriptor => rfl
  | none =>
      simp only [answered]
      split <;> rfl

theorem answered_discard (request : Request) (header : Sense.Header)
    (found : Option ReturnDescriptor) (area : Bytes) (registers : RegisterFile OutputRegister) :
    (answered request header found area registers).discard = false := by
  cases found with
  | some descriptor => rfl
  | none =>
      simp only [answered]
      split <;> rfl

/-- The descriptor that a ruling goes by. -/
def descriptorFor? (header : Sense.Header) (sense : Bytes) : Option ReturnDescriptor :=
  if header.isDescriptor then ReturnDescriptor.ofSense? sense else none

theorem isReady_descriptorFor?_iff {header : Sense.Header} {sense : Bytes}
    (hHeader : Sense.header? sense = some header) :
    (descriptorFor? header sense).any ReturnDescriptor.isReady = true ↔ ReportsReady sense := by
  unfold descriptorFor?
  cases hFound : Sense.descriptor? sense returnDescriptorType with
  | none => simp [ReportsReady, ReturnDescriptor.ofSense?, hFound]
  | some found =>
      obtain ⟨_, hSome, hFormat⟩ := Sense.header?_of_descriptor? hFound
      cases hHeader.symm.trans hSome
      rw [if_pos hFormat]
      have hDescriptor : ∃ descriptor, ReturnDescriptor.ofSense? sense = some descriptor := by
        rw [ReturnDescriptor.ofSense?, hFound]
        exact ⟨_, rfl⟩
      obtain ⟨descriptor, hDescriptor⟩ := hDescriptor
      rw [hDescriptor]
      exact ReturnDescriptor.isReady_iff hFound hDescriptor

/-- The ruling where no error is left to report. -/
def reading (request : Request) (header : Sense.Header) (completion : Scsi.Completion)
    (registers : RegisterFile OutputRegister) : Ruling :=
  let found := descriptorFor? header completion.senseData
  if request.wantsRegisters then answered request header found completion.sense.raw registers
  else unasked header found completion.sense.raw registers

/-- The verdict reports an error, and no drive overrules it. -/
def standsAsError (request : Request) (header : Sense.Header) (completion : Scsi.Completion) :
    Bool :=
  completion.verdict.isError && !(request.wantsRegisters &&
    (descriptorFor? header completion.senseData).any ReturnDescriptor.isReady)

/-- A ruling on sense data that can be read is the verdict where that stands, and discards the data.
Otherwise it is what the sense data says, with or without a record of the drive that overruled. -/
theorem rule_cases {completion : Scsi.Completion} {header : Sense.Header} (request : Request)
    (registers : RegisterFile OutputRegister)
    (hHeader : Sense.header? completion.senseData = some header) :
    standsAsError request header completion = true ∧ (∃ notes,
        rule request completion registers =
          { result := .error ⟨.transfer, "scsi error " ++ completion.verdict.text⟩
            registers, discard := true, notes }) ∨
      standsAsError request header completion = false ∧ ∃ notes,
        rule request completion registers =
          { reading request header completion registers with notes } := by
  have hFound : (if header.isDescriptor = true then
      ReturnDescriptor.ofSense? completion.senseData else none) =
      descriptorFor? header completion.senseData := rfl
  simp only [rule, weigh, hHeader, hFound]
  unfold standsAsError reading
  generalize descriptorFor? header completion.senseData = found
  cases completion.verdict.isError with
  | false => cases found <;> exact .inr ⟨rfl, _, rfl⟩
  | true =>
      cases found with
      | none => cases request.wantsRegisters <;> exact .inl ⟨rfl, _, rfl⟩
      | some descriptor =>
          cases request.wantsRegisters with
          | false => exact .inl ⟨rfl, _, rfl⟩
          | true =>
              cases hReady : descriptor.isReady with
              | false =>
                  simp only [Option.any_some, hReady]
                  exact .inl ⟨rfl, _, rfl⟩
              | true =>
                  simp only [Option.any_some, hReady]
                  exact .inr ⟨rfl, _, rfl⟩

theorem reading_result (request : Request) (header : Sense.Header)
    (completion : Scsi.Completion) (registers : RegisterFile OutputRegister) :
    (reading request header completion registers).result =
      if request.wantsRegisters then .ok () else .error ⟨.transfer, "SAT command failed"⟩ := by
  unfold reading
  cases request.wantsRegisters with
  | true => exact answered_result _ _ _ _ _
  | false => rfl

theorem reading_discard (request : Request) (header : Sense.Header)
    (completion : Scsi.Completion) (registers : RegisterFile OutputRegister) :
    (reading request header completion registers).discard = false := by
  unfold reading
  cases request.wantsRegisters with
  | true => exact answered_discard _ _ _ _ _
  | false => rfl

theorem standsAsError_eq_false_iff {completion : Scsi.Completion} {header : Sense.Header}
    (request : Request) (hHeader : Sense.header? completion.senseData = some header) :
    standsAsError request header completion = false ↔ completion.verdict = .noError ∨
      request.wantsRegisters = true ∧ ReportsReady completion.senseData := by
  rw [← isReady_descriptorFor?_iff hHeader, standsAsError]
  simp only [Sense.Verdict.isError, Bool.and_eq_false_iff, Bool.not_eq_false', Bool.and_eq_true,
    bne_eq_false_iff_eq]

/-- A completion is ruled a success if nobody can read its sense data, or if registers were
wanted and either the verdict or the drive reports no error. -/
theorem rule_ok_iff (request : Request) (completion : Scsi.Completion)
    (registers : RegisterFile OutputRegister) :
    (rule request completion registers).result = .ok () ↔
      Sense.header? completion.senseData = none ∨
        request.wantsRegisters = true ∧
          (completion.verdict = .noError ∨ ReportsReady completion.senseData) := by
  cases hHeader : Sense.header? completion.senseData with
  | none => simp [rule, hHeader]
  | some header =>
      have hIff := standsAsError_eq_false_iff request hHeader
      rcases rule_cases request registers hHeader with ⟨hStands, _, hRule⟩ | ⟨hStands, _, hRule⟩
      · rw [hStands] at hIff
        rw [hRule]
        grind
      · rw [hRule, reading_result]
        cases hWants : request.wantsRegisters <;> grind

/-- Whatever a ruling holds against a completion is a failed transfer. -/
theorem rule_error {request : Request} {completion : Scsi.Completion} {failure : Failure}
    {registers : RegisterFile OutputRegister}
    (hError : (rule request completion registers).result = .error failure) :
    failure.cause = .transfer := by
  cases hHeader : Sense.header? completion.senseData with
  | none => simp [rule, hHeader] at hError
  | some header =>
      rcases rule_cases request registers hHeader with ⟨-, _, hRule⟩ | ⟨-, _, hRule⟩
      · rw [hRule] at hError
        cases hError
        rfl
      · rw [hRule, reading_result] at hError
        split at hError <;> cases hError
        rfl

/-- A ruling against a completion leaves the registers alone, and discards the data exactly if the
verdict reports an error. -/
theorem rule_failed {request : Request} {completion : Scsi.Completion} {failure : Failure}
    {registers : RegisterFile OutputRegister}
    (hError : (rule request completion registers).result = .error failure) :
    (rule request completion registers).registers = registers ∧
      ((rule request completion registers).discard = true ↔ completion.verdict ≠ .noError) := by
  cases hHeader : Sense.header? completion.senseData with
  | none => simp [rule, hHeader] at hError
  | some header =>
      rcases rule_cases request registers hHeader with ⟨hStands, _, hRule⟩ | ⟨hStands, _, hRule⟩
      · rw [hRule]
        refine ⟨rfl, iff_of_true rfl fun hNone => ?_⟩
        rw [(standsAsError_eq_false_iff request hHeader).mpr (.inl hNone)] at hStands
        cases hStands
      · have hWants : request.wantsRegisters = false := by
          rw [hRule, reading_result] at hError
          cases hWants : request.wantsRegisters with
          | false => rfl
          | true => simp [hWants] at hError
        have hNone : completion.verdict = .noError := by
          rcases (standsAsError_eq_false_iff request hHeader).mp hStands with hNone | ⟨hSome, -⟩
          · exact hNone
          · cases hWants.symm.trans hSome
        rw [hRule, reading, if_neg (by simp [hWants])]
        exact ⟨rfl, iff_of_false Bool.false_ne_true fun hError => hError hNone⟩

/-- The bits that are looked at: busy and error clear, ready set. -/
theorem status_ready_iff (status : UInt8) :
    status &&& 0xc1 = 0x40 ↔
      status &&& 0x80 = 0 ∧ status &&& 0x01 = 0 ∧ status &&& 0x40 ≠ 0 := by
  have hBits : ∀ bits : BitVec 8, UInt8.ofBitVec bits &&& 0xc1 = 0x40 ↔
      UInt8.ofBitVec bits &&& 0x80 = 0 ∧ UInt8.ofBitVec bits &&& 0x01 = 0 ∧
        UInt8.ofBitVec bits &&& 0x40 ≠ 0 := by decide
  exact hBits status.toBitVec

variable {length : Length} {timeout : UInt32} {request : Request}

/-- What a SAT translator makes of a completion that the transport delivers. A status byte that
reports an error, or a drive that is busy or not ready, never turns an error into a success, and
where no registers were wanted no sense data that can be read is one. -/
theorem perform_verdict (hAccepts : (Translator.sat length timeout).Accepts request)
    (registers : RegisterFile OutputRegister) (completion : Scsi.Completion) :
    ∃ answer, Dialogue.Path (perform length timeout request registers)
        [⟨⟨command length timeout request, none⟩, ⟨.ok (), completion⟩⟩] answer ∧
      (answer.result = .ok () ↔
        Sense.header? completion.senseData = none ∨
          request.wantsRegisters = true ∧
            (completion.verdict = .noError ∨
              (∃ header, Sense.header? completion.senseData = some header ∧
                header.isDescriptor = true) ∧ ReportsReady completion.senseData)) ∧
      (∀ found, Sense.descriptor? completion.senseData returnDescriptorType = some found →
        completion.verdict ≠ .noError →
        found.byte 13 &&& 0x80 ≠ 0 ∨ found.byte 13 &&& 0x01 ≠ 0 ∨ found.byte 13 &&& 0x40 = 0 →
        answer.result ≠ .ok ()) ∧
      (request.wantsRegisters = false → Sense.header? completion.senseData ≠ none →
        ∃ message, answer.result = .error ⟨.transfer, message⟩) := by
  have hOk := rule_ok_iff request completion registers
  refine ⟨concluded request completion registers, ?_, ?_, ?_, ?_⟩
  · exact path_delivered hAccepts.checked hAccepts.fits registers completion
  · rw [concluded, hOk]
    refine or_congr_right (and_congr_right fun _ => or_congr_right ?_)
    constructor
    · intro hReady
      obtain ⟨found, hFound, hReady⟩ := hReady
      exact ⟨Sense.header?_of_descriptor? hFound, found, hFound, hReady⟩
    · exact And.right
  · intro found hFound hError hStatus hSuccess
    rcases hOk.mp hSuccess with hHeader | ⟨-, hVerdict | hReady⟩
    · exact Sense.header?_ne_none_of_verdict hError hHeader
    · exact hError hVerdict
    · obtain ⟨other, hOther, -, hReady⟩ := hReady
      cases hFound.symm.trans hOther
      obtain ⟨hBusy, hFault, hDrive⟩ := (status_ready_iff _).mp hReady
      rcases hStatus with hStatus | hStatus | hStatus
      · exact hStatus hBusy
      · exact hStatus hFault
      · exact hDrive hStatus
  · intro hUnasked hHeader
    cases hResult : (rule request completion registers).result with
    | ok _ =>
        rcases hOk.mp hResult with hNone | ⟨hWants, -⟩
        · exact (hHeader hNone).elim
        · cases hUnasked.symm.trans hWants
    | error failure =>
        obtain ⟨cause, message⟩ := failure
        have hCause : cause = .transfer := rule_error hResult
        exact ⟨message, by rw [concluded, hResult, hCause]⟩

/-- A drive that is ready overrules the sense key next to its status. -/
theorem hardware_error_overruled :
    let request : Request := { wanted := fun register => register == .status }
    let sense : Bytes := [0x72, 0x04, 0, 0, 0, 0, 0, 14] ++ [0x09, 12] ++ Bytes.zeros 11 ++ [0x50]
    let completion : Scsi.Completion := ⟨[], .ofBytes sense 22, Sense.checkCondition, 0⟩
    completion.verdict = .mediumHardware ∧
      ∃ answer, Dialogue.Path (perform .short 60 request {})
        [⟨⟨command .short 60 request, none⟩, ⟨.ok (), completion⟩⟩] answer ∧
        answer.result = .ok () := by
  intro request sense completion
  have hAccepts : (Translator.sat .short 60).Accepts request := ⟨rfl, nofun⟩
  obtain ⟨answer, hPath, hOk, -⟩ := perform_verdict hAccepts {} completion
  have hReady : ReportsReady completion.senseData := by
    refine ⟨[0x09, 12] ++ Bytes.zeros 11 ++ [0x50], ?_, by decide, by decide⟩
    have hSense : completion.senseData = sense := by decide
    rw [hSense]
    cbv
  refine ⟨by decide, answer, hPath, hOk.mpr (.inr ⟨by decide, .inr ⟨?_, hReady⟩⟩)⟩
  obtain ⟨found, hFound, -⟩ := hReady
  exact Sense.header?_of_descriptor? hFound

end DriveBridge.Ata.Sat
