import DriveBridge.Proofs.Ata.Cypress

/-! No request and no answer breaks a translator. A request is checked before its buffer is cut,
what a device returns is read within the bounds it has, and both hold for whatever the device
below says. -/
namespace DriveBridge

namespace Scsi

theorem safe_send (command : Command) : (send command).Safe := Dialogue.safe_query _

theorem safe_sendChecked (label : String) (command : Command) : (sendChecked label command).Safe :=
  Dialogue.safe_query _

end Scsi

namespace Ata

variable (request : Request) (registers : RegisterFile OutputRegister)

/-- The product that a request is checked against is small, whatever the registers hold. -/
theorem Request.sectorCount_mul_lt : request.sectorCount * sectorSize < Checked.sizeLimit := by
  have hHigh := (request.registers.previousValue .sectorCount).toNat_lt
  have hLow := (request.registers.value .sectorCount).toNat_lt
  unfold Request.sectorCount sectorSize Checked.sizeLimit
  omega

namespace Sat

theorem safe_conclude {request : Request} (hConsistent : request.Consistent request.sectorCount)
    (completion : Scsi.Completion) : (conclude request completion registers).Safe := by
  rw [conclude_eq hConsistent]
  exact Dialogue.ensures_bind_iff.mpr (Dialogue.ensures_logAll_iff.mpr trivial)

theorem safe_perform (length : Length) (timeout : UInt32) :
    (perform length timeout request registers).Safe := by
  unfold perform
  cases hChecked : request.check support (some "SAT") with
  | error failure => exact Dialogue.safe_done _
  | ok _ =>
      have hConsistent := ((request.check_eq_ok_iff _ _).mp hChecked).1
      simp only [hConsistent.transfer_eq, Dialogue.bind_eq, Dialogue.done_bind]
      split
      · exact Dialogue.safe_done _
      · refine (Scsi.safe_send _).bind fun answer => ?_
        cases answer.result with
        | error failure => exact (Dialogue.safe_log _ _).bind fun _ => Dialogue.safe_done _
        | ok _ => exact safe_conclude registers hConsistent answer.completion

end Sat

namespace JMicron

variable (setup : Setup)

theorem safe_perform
    (hChecked : request.check (support setup.extended) (some "JMicron") = .ok ()) :
    (perform setup request registers).Safe := by
  cases hPort : setup.port with
  | none =>
      rw [perform_unknownPort hPort hChecked]
      exact Dialogue.safe_done _
  | some port =>
      rw [perform_eq hPort hChecked]
      exact (Scsi.safe_sendChecked _ _).bind fun _ => Dialogue.safe_done _

theorem safe_readRegisters (trailer : Bool) (address : UInt16) (buffer : Bytes) :
    (readRegisters trailer address buffer).Safe :=
  (Scsi.safe_sendChecked _ _).bind fun _ => Dialogue.safe_done _

theorem safe_readTaskFile : (readTaskFile setup registers).Safe := by
  unfold readTaskFile
  cases setup.port with
  | none => exact Dialogue.safe_done _
  | some port =>
      refine (safe_readRegisters _ _ _).bind fun ⟨result, raw⟩ => ?_
      cases result <;> exact Dialogue.safe_done _

theorem safe_detectPort (trailer : Bool) : (detectPort trailer).Safe := by
  refine (safe_readRegisters _ _ _).bind fun ⟨result, status⟩ => ?_
  cases result <;> exact Dialogue.safe_done _

end JMicron

theorem Translator.safe_perform (translator : Translator) :
    (translator.perform request registers).Safe := by
  cases hChecked : request.check translator.support translator.tag with
  | error failure =>
      rw [perform_refused hChecked]
      exact Dialogue.safe_done _
  | ok _ =>
      cases translator with
      | sat length timeout => exact Sat.safe_perform request registers length timeout
      | cypress signature timeout label => exact (Cypress.ensures_perform request registers).safe
      | jmicron setup => exact JMicron.safe_perform request registers setup hChecked
      | prolific => exact (Prolific.ensures_perform hChecked).safe
      | sunplus => exact (Sunplus.ensures_perform hChecked).safe

end Ata

end DriveBridge
