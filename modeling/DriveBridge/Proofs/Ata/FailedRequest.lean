import DriveBridge.Proofs.Ata.Safety
import DriveBridge.Proofs.Ata.SatVerdict

/-! How a request fails. Whatever the translator, it fails with its registers as they were, and the
failure comes from a command that went wrong or from before the first one. One bridge tells the
health by a byte that it may leave out or garble, and then reports a lack of its own. -/
namespace DriveBridge.Ata

/-- What a bridge reports whose byte for the health is missing or unknown. -/
inductive JMicron.Unreadable : Failure → Prop where
  | missing : Unreadable ⟨.unsupported, "Incomplete response, status byte missing [JMicron]"⟩
  | invalid (status : UInt8) : Unreadable
      ⟨.unsupported,
        let byte := Text.hex 2 status.toNat
        s!"Invalid status byte (0x{byte}) [JMicron]"⟩

/-- A request that fails leaves the registers alone, and its failure has a source. -/
def FailsCleanly (registers : RegisterFile OutputRegister) (exchanges : List Scsi.Exchange)
    (answer : Answer) : Prop :=
  ∀ failure, answer.result = .error failure → answer.registers = registers ∧
    (Scsi.Traced exchanges failure ∨ JMicron.Unreadable failure)

section FailsCleanly

variable {request : Request} {registers returned : RegisterFile OutputRegister}
  {failure : Failure} {buffer : Option Bytes} {exchange : Scsi.Exchange}
  {exchanges later : List Scsi.Exchange}

theorem FailsCleanly.refused : FailsCleanly registers [] (request.refused registers failure) :=
  fun _ _ => ⟨rfl, .inl .unsent⟩

theorem FailsCleanly.of_ok : FailsCleanly registers exchanges ⟨.ok (), returned, buffer⟩ := nofun

theorem FailsCleanly.traced (hTraced : Scsi.Traced exchanges failure) :
    FailsCleanly registers exchanges ⟨.error failure, registers, buffer⟩ := by
  rintro _ ⟨⟩
  exact ⟨rfl, .inl hTraced⟩

/-- A command that fails, fails the request alike. -/
theorem FailsCleanly.failed (hResult : exchange.result = .error failure) :
    FailsCleanly registers (exchange :: later) ⟨.error failure, registers, buffer⟩ :=
  .traced (.of_result hResult)

end FailsCleanly

section Translators

variable {request : Request} {registers : RegisterFile OutputRegister}

theorem Sat.ensures_failsCleanly {length : Length} {timeout : UInt32}
    (hChecked : request.check support (some "SAT") = .ok ()) :
    (perform length timeout request registers).Ensures (FailsCleanly registers) := by
  by_cases hFits : request.registers.isExtended = true → length = .long
  · refine (safe_perform request registers length timeout).ensures_path.mono ?_
    intro exchanges answer path
    obtain ⟨reply, rfl, rfl⟩ := (path_perform_iff hChecked hFits).mp path
    cases hResult : reply.result with
    | error failure => exact .failed hResult
    | ok _ =>
        intro failure hError
        exact ⟨(rule_failed hError).1, .inl (.of_transfer (rule_error hError))⟩
  · obtain ⟨hExtended, hShort⟩ := Classical.not_imp.mp hFits
    cases length with
    | long => exact (hShort rfl).elim
    | short =>
        rw [perform_short hChecked hExtended]
        exact FailsCleanly.refused

theorem Cypress.ensures_failsCleanly {signature : UInt8} {timeout : UInt32} {label : String} :
    (perform signature timeout label request registers).Ensures (FailsCleanly registers) := by
  refine (ensures_perform request registers).mono fun exchanges answer hPerformed => ?_
  cases hPerformed with
  | refused failure unsent =>
      rw [unsent]
      exact .refused
  | operated operation select outcome checked mapped course =>
      unfold SmartOperation.concluded
      cases hResult : outcome.result with
      | error failure => exact .traced (course.operated.traced failure hResult)
      | ok health => exact .of_ok

namespace JMicron

theorem healthRegisters_error {completion : Scsi.Completion} {failure : Failure}
    (hError : healthRegisters completion registers = .error failure) : Unreadable failure := by
  unfold healthRegisters at hError
  dsimp only at hError
  split at hError
  · cases hError
    exact .missing
  · split at hError
    · cases hError
    · split at hError <;> cases hError
      exact .invalid _

theorem ensures_failsCleanly {setup : Setup}
    (hChecked : request.check (support setup.extended) (some "JMicron") = .ok ()) :
    (perform setup request registers).Ensures (FailsCleanly registers) := by
  cases hPort : setup.port with
  | none =>
      rw [perform_unknownPort hPort hChecked]
      exact FailsCleanly.refused
  | some port =>
      rw [perform_eq hPort hChecked]
      refine Scsi.ensures_sendChecked_bind fun reply => ?_
      unfold concluded
      cases hResult : reply.result with
      | error failure => exact FailsCleanly.failed hResult
      | ok _ =>
          dsimp only
          split
          · cases hHealth : healthRegisters reply.completion registers with
            | ok returned => exact FailsCleanly.of_ok
            | error failure =>
                rintro _ ⟨⟩
                exact ⟨rfl, .inr (healthRegisters_error hHealth)⟩
          · exact FailsCleanly.of_ok

end JMicron

theorem Phased.failsCleanly {plan : List Scsi.Command}
    {Returned : RegisterFile OutputRegister → Prop} {exchanges : List Scsi.Exchange}
    {answer : Answer} (phased : Phased plan registers Returned exchanges answer) :
    FailsCleanly registers exchanges answer :=
  fun failure hFailed => ⟨phased.kept failure hFailed, .inl (phased.traced failure hFailed)⟩

end Translators

/-- Whatever the translator, a request fails cleanly. -/
theorem Translator.ensures_failsCleanly (translator : Translator) (request : Request)
    (registers : RegisterFile OutputRegister) :
    (translator.perform request registers).Ensures (FailsCleanly registers) := by
  cases hChecked : request.check translator.support translator.tag with
  | error failure =>
      rw [perform_refused hChecked]
      exact FailsCleanly.refused
  | ok _ =>
      cases translator with
      | sat length timeout => exact Sat.ensures_failsCleanly hChecked
      | cypress signature timeout label => exact Cypress.ensures_failsCleanly
      | jmicron setup => exact JMicron.ensures_failsCleanly hChecked
      | prolific => exact (Prolific.ensures_perform hChecked).mono fun _ _ => Phased.failsCleanly
      | sunplus => exact (Sunplus.ensures_perform hChecked).mono fun _ _ => Phased.failsCleanly

end DriveBridge.Ata
