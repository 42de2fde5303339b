import DriveBridge.Proofs.Ata.SatVerdict

/-! The output registers that a successful request gets back. Every translator returns those that
its format has room for, which need not be those that were wanted. -/
namespace DriveBridge.Ata

variable {request : Request} {registers : RegisterFile OutputRegister} {answer : Answer}
  {exchanges : List Scsi.Exchange} {register : OutputRegister}

theorem Request.wantsRegisters_of_wanted (hWanted : request.wanted register = true) :
    request.wantsRegisters = true :=
  List.any_eq_true.mpr ⟨register, register.mem_all, hWanted⟩

/-- A session that ends in a failure at once has not succeeded. -/
theorem not_ok_of_failed {Query : Type} {Reply : Query → Type} {failure : Failure}
    {buffer : Option Bytes} {below : List (Dialogue.Exchange Query Reply)}
    (path : Dialogue.Path (.done ⟨.error failure, registers, buffer⟩) below answer) :
    answer.result ≠ .ok () := by
  rw [(Dialogue.path_done_iff.mp path).2]
  nofun

namespace Sat

/-- The sense data holds output registers: in an ATA Return descriptor, or in the fixed format
where that says so and the status of the drive is not 0. -/
def CarriesRegisters (completion : Scsi.Completion) : Prop :=
  (∃ found, Sense.descriptor? completion.senseData returnDescriptorType = some found) ∨
    ∃ header, Sense.header? completion.senseData = some header ∧
      header.isDescriptor = false ∧ header.asc = 0 ∧ header.ascq = Sense.ascqAtaRegisters ∧
      completion.sense.raw.byte 4 ≠ 0

theorem isSome_descriptor_registers (descriptor : ReturnDescriptor) (extended : Bool)
    (file : RegisterFile OutputRegister) :
    ((descriptor.registers extended file).current register).isSome = true := by
  simp only [ReturnDescriptor.registers]
  split
  · rw [RegisterFile.current_setAllPrevious, RegisterFile.isSome_current_setAll_iff]
    exact .inl (by cases register <;> simp)
  · rw [RegisterFile.isSome_current_setAll_iff]
    exact .inl (by cases register <;> simp)

theorem isSome_fixedRegisters (area : Bytes) (extended : Bool)
    (file : RegisterFile OutputRegister) :
    ((fixedRegisters area extended file).current register).isSome = true := by
  simp only [fixedRegisters]
  split
  · rw [RegisterFile.current_setAllPrevious, RegisterFile.isSome_current_setAll_iff]
    exact .inl (by cases register <;> simp)
  · rw [RegisterFile.isSome_current_setAll_iff]
    exact .inl (by cases register <;> simp)

/-- The descriptor that a ruling goes by is there whenever the sense data has one. -/
theorem isSome_descriptorFor?_iff {header : Sense.Header} {sense : Bytes}
    (hHeader : Sense.header? sense = some header) :
    (descriptorFor? header sense).isSome = true ↔
      ∃ found, Sense.descriptor? sense returnDescriptorType = some found := by
  unfold descriptorFor? ReturnDescriptor.ofSense?
  cases hFound : Sense.descriptor? sense returnDescriptorType with
  | none => simp
  | some found =>
      obtain ⟨_, hSome, hFormat⟩ := Sense.header?_of_descriptor? hFound
      cases hHeader.symm.trans hSome
      simp [hFormat]

/-- A ruling that is a success with sense data that can be read has read the registers. -/
theorem rule_registers {completion : Scsi.Completion} {header : Sense.Header}
    (hHeader : Sense.header? completion.senseData = some header)
    (hOk : (rule request completion registers).result = .ok ()) :
    (rule request completion registers).registers =
      (answered request header (descriptorFor? header completion.senseData) completion.sense.raw
        registers).registers := by
  rcases rule_cases request registers hHeader with ⟨-, _, hRule⟩ | ⟨-, _, hRule⟩
  · rw [hRule] at hOk
    cases hOk
  · rcases (rule_ok_iff _ _ _).mp hOk with hNone | ⟨hWants, -⟩
    · cases hHeader.symm.trans hNone
    · rw [hRule, reading, if_pos hWants]

theorem answered_registers_iff (header : Sense.Header) (found : Option ReturnDescriptor)
    (area : Bytes) :
    ((answered request header found area {}).registers.current register).isSome = true ↔
      found.isSome = true ∨ header.isDescriptor = false ∧ header.asc = 0 ∧
        header.ascq = Sense.ascqAtaRegisters ∧ area.byte 4 ≠ 0 := by
  cases found with
  | some descriptor => simp [answered, isSome_descriptor_registers]
  | none =>
      simp only [answered]
      have hGuard : (!header.isDescriptor && header.asc == 0 &&
          header.ascq == Sense.ascqAtaRegisters && area.byte 4 != 0) = true ↔
          header.isDescriptor = false ∧ header.asc = 0 ∧ header.ascq = Sense.ascqAtaRegisters ∧
            area.byte 4 ≠ 0 := by
        simp only [Bool.and_eq_true, Bool.not_eq_true', beq_iff_eq, bne_iff_ne, and_assoc]
      rw [← hGuard]
      split
      next hFixed => simp [isSome_fixedRegisters, hFixed]
      next hOther => simp [hOther]

/-- Where registers were wanted and the ruling is a success, all of them come back or none. -/
theorem rule_registers_iff {completion : Scsi.Completion}
    (hOk : (rule request completion {}).result = .ok ()) :
    ((rule request completion {}).registers.current register).isSome = true ↔
      CarriesRegisters completion := by
  unfold CarriesRegisters
  cases hHeader : Sense.header? completion.senseData with
  | none =>
      have hUnread : (rule request completion {}).registers = {} := by simp only [rule, hHeader]
      rw [hUnread]
      constructor
      · intro hSet
        cases hSet
      · intro hCarries
        rcases hCarries with ⟨found, hFound⟩ | ⟨header, hSome, -⟩
        · obtain ⟨_, hSome, -⟩ := Sense.header?_of_descriptor? hFound
          cases hHeader.symm.trans hSome
        · cases hSome
  | some header =>
      rw [rule_registers hHeader hOk, answered_registers_iff, isSome_descriptorFor?_iff hHeader]
      simp only [Option.some.injEq, exists_eq_left']

/-- A session that succeeds is one command that the transport delivered. -/
theorem exists_completion_of_ok {length : Length} {timeout : UInt32}
    (path : Dialogue.Path (perform length timeout request registers) exchanges answer)
    (hOk : answer.result = .ok ()) :
    ∃ completion,
      exchanges = [⟨⟨command length timeout request, none⟩, ⟨.ok (), completion⟩⟩] ∧
        answer = concluded request completion registers := by
  cases hChecked : request.check support (some "SAT") with
  | error failure =>
      rw [perform, hChecked] at path
      exact (not_ok_of_failed path hOk).elim
  | ok _ =>
      have hFits : request.registers.isExtended = true → length = .long := by
        intro hExtended
        cases length with
        | long => rfl
        | short =>
            rw [perform_short hChecked hExtended] at path
            exact (not_ok_of_failed path hOk).elim
      obtain ⟨⟨result, completion⟩, rfl, rfl⟩ := (path_perform_iff hChecked hFits).mp path
      cases result with
      | error failure => cases hOk
      | ok _ => exact ⟨completion, rfl, rfl⟩

theorem returned_iff {length : Length} {timeout : UInt32}
    (path : Dialogue.Path (perform length timeout request {}) exchanges answer)
    (hOk : answer.result = .ok ()) :
    (answer.registers.current register).isSome = true ↔
      ∃ exchange ∈ exchanges, CarriesRegisters exchange.answer.completion := by
  obtain ⟨completion, rfl, rfl⟩ := exists_completion_of_ok path hOk
  simp only [List.mem_singleton, exists_eq_left]
  exact rule_registers_iff hOk

end Sat

namespace SmartOperation

/-- An operation that succeeds has been found, and reports the registers that are its own. -/
theorem returned_iff {answer : Ata.Answer} {below : List (Dialogue.Exchange Query fun _ => Answer)}
    (hChecked : request.check support none = .ok ())
    (path : Dialogue.Path (perform request {}) below answer) (hOk : answer.result = .ok ()) :
    ∃ operation select, ofRequest request = .ok (operation, select) ∧
      ((answer.registers.current register).isSome = true ↔
        operation = .checkPowerMode ∧ register = .sectorCount ∨
          operation = .statusCheck ∧ (register = .lbaMid ∨ register = .lbaHigh)) := by
  cases hMapped : ofRequest request with
  | error unmapped =>
      rw [perform, hChecked, hMapped] at path
      exact (not_ok_of_failed path hOk).elim
  | ok found =>
      obtain ⟨operation, select⟩ := found
      rw [perform_eq hChecked hMapped] at path
      obtain ⟨reply, _, rfl, hDone⟩ := Dialogue.path_ask_iff.mp path
      rw [(Dialogue.path_done_iff.mp hDone).2] at hOk ⊢
      refine ⟨operation, select, rfl, ?_⟩
      unfold concluded at hOk ⊢
      cases hResult : reply.result with
      | error failure =>
          rw [hResult] at hOk
          cases hOk
      | ok health =>
          cases operation <;>
            simp [reported, RegisterFile.isSome_current_setAll_iff, apply_ite Option.isSome]

end SmartOperation

namespace JMicron

variable {setup : Setup}

/-- The only request for registers that passes is the one for the health. -/
theorem asksHealth_of_wanted
    (hChecked : request.check (support setup.extended) (some "JMicron") = .ok ())
    (hWanted : request.wanted register = true) : asksHealth request = true := by
  have hWants := request.wantsRegisters_of_wanted hWanted
  rcases ((request.check_eq_ok_iff _ _).mp hChecked).2.registers hWants with hAll | ⟨hHealth, -⟩
  · cases hAll
  · rw [asksHealth, hHealth, hWants]
    rfl

/-- The byte that tells the health stands for two registers. -/
theorem healthRegisters_iff {completion : Scsi.Completion}
    {returned : RegisterFile OutputRegister}
    (hHealth : healthRegisters completion {} = .ok returned) :
    (returned.current register).isSome = true ↔ register = .lbaMid ∨ register = .lbaHigh := by
  simp only [healthRegisters] at hHealth
  split at hHealth
  · cases hHealth
  · split at hHealth
    · cases hHealth
      simp [RegisterFile.isSome_current_setAll_iff]
    · split at hHealth <;> cases hHealth
      simp [RegisterFile.isSome_current_setAll_iff]

theorem returned_iff (hChecked : request.check (support setup.extended) (some "JMicron") = .ok ())
    (path : Dialogue.Path (perform setup request {}) exchanges answer)
    (hOk : answer.result = .ok ()) (hWanted : request.wanted register = true) :
    (answer.registers.current register).isSome = true ↔
      register = .lbaMid ∨ register = .lbaHigh := by
  cases hPort : setup.port with
  | none =>
      rw [perform_unknownPort hPort hChecked] at path
      exact (not_ok_of_failed path hOk).elim
  | some port =>
      rw [perform_eq hPort hChecked] at path
      obtain ⟨reply, later, rfl, hLater⟩ := Dialogue.path_ask_iff.mp path
      have hAnswer : answer = concluded request reply {} := (Dialogue.path_done_iff.mp hLater).2
      rw [hAnswer] at hOk ⊢
      simp only [concluded, asksHealth_of_wanted hChecked hWanted, if_true] at hOk ⊢
      cases hResult : reply.result with
      | error failure =>
          rw [hResult] at hOk
          cases hOk
      | ok _ =>
          cases hHealth : healthRegisters reply.completion {} with
          | error failure =>
              rw [hResult, hHealth] at hOk
              cases hOk
          | ok returned => exact healthRegisters_iff hHealth

end JMicron

namespace Prolific

theorem isSome_returnedRegisters (raw : Bytes) (file : RegisterFile OutputRegister) :
    ((returnedRegisters raw file).current register).isSome = true := by
  rw [returnedRegisters, RegisterFile.isSome_current_setAll_iff]
  exact .inl (by cases register <;> simp)

theorem returned (hChecked : request.check support (some "Prolific") = .ok ())
    (path : Dialogue.Path (perform request registers) exchanges answer)
    (hOk : answer.result = .ok ()) (hWanted : request.wanted register = true) :
    (answer.registers.current register).isSome = true := by
  have hReadBack := ((ensures_perform hChecked).of_path path).returned hOk
  obtain ⟨raw, hReturned⟩ := hReadBack (request.wantsRegisters_of_wanted hWanted)
  rw [hReturned]
  exact isSome_returnedRegisters raw registers

end Prolific

namespace Sunplus

theorem isSome_returnedRegisters (raw : Bytes) (file : RegisterFile OutputRegister) :
    ((returnedRegisters raw file).current register).isSome = true := by
  rw [returnedRegisters, RegisterFile.isSome_current_setAll_iff]
  exact .inl (by cases register <;> simp)

theorem returned (hChecked : request.check support (some "Sunplus") = .ok ())
    (path : Dialogue.Path (perform request registers) exchanges answer)
    (hOk : answer.result = .ok ()) (hWanted : request.wanted register = true) :
    (answer.registers.current register).isSome = true := by
  have hReadBack := ((ensures_perform hChecked).of_path path).returned hOk
  obtain ⟨raw, hReturned⟩ := hReadBack (request.wantsRegisters_of_wanted hWanted)
  rw [hReturned]
  exact isSome_returnedRegisters raw registers

end Sunplus

/-- The registers that a translator returns with a request that succeeds. -/
def Translator.Returns (translator : Translator) (request : Request)
    (exchanges : List Scsi.Exchange) (register : OutputRegister) : Prop :=
  match translator with
  | sat _ _ => ∃ exchange ∈ exchanges, Sat.CarriesRegisters exchange.answer.completion
  | cypress _ _ _ =>
      ∃ operation select, SmartOperation.ofRequest request = .ok (operation, select) ∧
        (operation = .checkPowerMode ∧ register = .sectorCount ∨
          operation = .statusCheck ∧ (register = .lbaMid ∨ register = .lbaHigh))
  | jmicron _ => register = .lbaMid ∨ register = .lbaHigh
  | prolific | sunplus => True

theorem Translator.returned_iff {translator : Translator}
    (path : Dialogue.Path (translator.perform request {}) exchanges answer)
    (hOk : answer.result = .ok ()) (hWanted : request.wanted register = true) :
    (answer.registers.current register).isSome = true ↔
      translator.Returns request exchanges register := by
  cases hChecked : request.check translator.support translator.tag with
  | error failure =>
      rw [perform_refused hChecked] at path
      exact (not_ok_of_failed path hOk).elim
  | ok _ =>
      cases translator with
      | sat length timeout => exact Sat.returned_iff path hOk
      | cypress signature timeout label =>
          obtain ⟨_, ⟨_, _⟩, _, -, hThrough, hDone⟩ := Dialogue.path_bind_iff.mp path
          obtain ⟨below, hBelow⟩ := Dialogue.path_of_path_through _ _ _ hThrough
          cases (Dialogue.path_done_iff.mp hDone).2
          obtain ⟨operation, select, hMapped, hIff⟩ :=
            SmartOperation.returned_iff hChecked hBelow hOk
          rw [hIff, Returns]
          constructor
          · exact fun h => ⟨operation, select, hMapped, h⟩
          · intro hReturns
            obtain ⟨_, _, hKnown, h⟩ := hReturns
            cases hMapped.symm.trans hKnown
            exact h
      | jmicron setup => exact JMicron.returned_iff hChecked path hOk hWanted
      | prolific => exact iff_of_true (Prolific.returned hChecked path hOk hWanted) trivial
      | sunplus => exact iff_of_true (Sunplus.returned hChecked path hOk hWanted) trivial

/-- A successful request gets back all the registers that it wanted exactly if they are among
those that the translator returns. Only two of the bridges return whatever is wanted. -/
theorem Translator.wanted_returned_iff (translator : Translator) (request : Request)
    (exchanges : List Scsi.Exchange) (answer : Answer)
    (path : Dialogue.Path (translator.perform request {}) exchanges answer)
    (hOk : answer.result = .ok ()) :
    (∀ register, request.wanted register = true →
        (answer.registers.current register).isSome = true) ↔
      ∀ register, request.wanted register = true → translator.Returns request exchanges register :=
  forall₂_congr fun _ hWanted => returned_iff path hOk hWanted

/-- Fixed format sense data brings back every register. -/
theorem Translator.fixed_sense_returns_all :
    let request : Request := { wanted := fun _ => true }
    let sense : Bytes := [0x70, 0, 0x01, 0, 0x50, 0, 0, 10, 0, 0, 0x4f, 0xc2, 0, 0x1d]
    let completion : Scsi.Completion := ⟨[], .ofBytes sense 14, Sense.checkCondition, 0⟩
    ∃ answer, Dialogue.Path ((sat .long 60).perform request {})
        [⟨⟨Sat.command .long 60 request, none⟩, ⟨.ok (), completion⟩⟩] answer ∧
      answer.result = .ok () ∧
      ∀ register, (answer.registers.current register).isSome = true := by
  intro request sense completion
  have path : Dialogue.Path (Sat.perform .long 60 request {}) _ _ :=
    Sat.path_delivered rfl (fun _ => rfl) {} completion
  have hOk : (Sat.concluded request completion {}).result = .ok () :=
    (Sat.rule_ok_iff request completion {}).mpr (.inr ⟨by decide, .inl (by decide)⟩)
  have hCarries : Sat.CarriesRegisters completion :=
    .inr ⟨⟨0x70, 1, 0, 0x1d, 0⟩, by decide, by decide, rfl, rfl, by decide⟩
  refine ⟨_, path, hOk, fun register => ?_⟩
  exact (wanted_returned_iff (sat .long 60) request _ _ path hOk).mpr
    (fun _ _ => ⟨_, List.mem_singleton_self _, hCarries⟩) register rfl

/-- The bridge with the fixed table reads the registers of SMART RETURN STATUS and then drops
them, where not the upper of the two that tell the health was wanted but the lower. -/
theorem Translator.smart_status_dropped :
    let request : Request :=
      { registers := ({} : RegisterFile InputRegister).setAll
          [(.features, SmartFeature.returnStatus), (.lbaMid, healthyMid), (.lbaHigh, healthyHigh),
            (.command, Opcode.smart)]
        wanted := fun register => register == .lbaMid }
    ∃ exchanges answer, Dialogue.Path
        ((cypress Cypress.defaultSignature 60 "").perform request {}) exchanges answer ∧
      answer.result = .ok () ∧ ¬ ∀ register, request.wanted register = true →
        (answer.registers.current register).isSome = true := by
  intro request
  let reply : Scsi.Reply := { data := [0, 0, 0, 0, healthyMid, healthyHigh, 0, 0x50] }
  let party : Scsi.Query → Unit → Scsi.Answer × Unit := fun query state =>
    (⟨.ok (), query.command.complete reply⟩, state)
  have path : Dialogue.Path ((cypress Cypress.defaultSignature 60 "").perform request {}) _
      ⟨.ok (), {}, none⟩ := Dialogue.path_of_run party _ () rfl
  refine ⟨_, _, path, rfl, fun hAll => ?_⟩
  cases hAll .lbaMid rfl

end DriveBridge.Ata
