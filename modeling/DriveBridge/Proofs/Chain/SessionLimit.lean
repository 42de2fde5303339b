import DriveBridge.Chain.Device
import DriveBridge.Proofs.Ata.Translator
import DriveBridge.Proofs.Chain.ScsiDevice
import DriveBridge.Proofs.Dialogue.KeepsTo

/-! Under which time limit a translator sends its commands. One that judges sense data by itself
brings its own limit along; one that leaves this to the device below leaves the limit to it, too. -/
namespace DriveBridge

namespace Scsi

variable {limit below : UInt32}

/-- Over a device with the one time limit, a query is sent under the other. -/
def SentUnder (limit below : UInt32) (query : Query) : Prop := (query.sent below).timeout = limit

theorem asks_send {command : Command} (hTimeout : command.timeout = limit) :
    (send command).Asks (SentUnder limit below) :=
  ⟨hTimeout, fun answer => Dialogue.asks_done answer⟩

/-- What the device below judges, it sends under its own limit. -/
theorem asks_sendChecked (label : String) (command : Command) :
    (sendChecked label command).Asks (SentUnder below below) :=
  ⟨rfl, fun answer => Dialogue.asks_done answer⟩

theorem asks_inquiry (buffer : Bytes) : (inquiry buffer).Asks (SentUnder below below) := by
  unfold inquiry
  split
  · exact Dialogue.asks_done _
  · exact (asks_sendChecked _ _).bind fun _ => Dialogue.asks_done _

end Scsi

namespace Ata

open Dialogue Scsi

variable {timeout below : UInt32} {request : Request} {registers : RegisterFile OutputRegister}

namespace Request

variable {Query : Type} {Answer : Query → Type} {allowed : Query → Prop}

theorem asks_transferred :
    (request.transferred : Dialogue Query Answer Bytes).Asks allowed := by
  unfold transferred
  split
  · exact asks_done _
  · exact asks_demand _

theorem asks_transfer :
    (request.transfer : Dialogue Query Answer (Scsi.Direction × Bytes)).Asks allowed := by
  unfold transfer
  split
  · exact asks_done _
  · exact asks_transferred.bind fun _ => asks_done _
  · exact asks_transferred.bind fun _ => asks_done _

theorem asks_clear :
    (request.clear : Dialogue Query Answer (Option Bytes)).Asks allowed := by
  unfold clear
  split
  · exact asks_transferred.bind fun _ => asks_done _
  · exact asks_done _
  · exact asks_done _

end Request

namespace Sat

/-- Nothing is asked once the command is completed. -/
theorem asks_conclude {allowed : Scsi.Query → Prop} (completion : Scsi.Completion) :
    (conclude request completion registers).Asks allowed := by
  refine (asks_demand _).bind fun ruling => ?_
  refine (asks_logAll _).bind fun _ => ?_
  dsimp only
  split
  · exact Request.asks_clear.bind fun _ => asks_done _
  · exact asks_done _

theorem asks_perform (length : Length) :
    (perform length timeout request registers).Asks (SentUnder timeout below) := by
  unfold perform
  split
  · exact asks_done _
  · split
    · exact asks_done _
    · refine Request.asks_transfer.bind fun ⟨direction, data⟩ => ?_
      refine (asks_send rfl).bind fun answer => ?_
      dsimp only
      split
      · exact (asks_log _ _).bind fun _ => asks_done _
      · exact asks_conclude _

end Sat

namespace Cypress

theorem asks_exchange (cdb : Bytes) (direction : Scsi.Direction) (data : Bytes) :
    (exchange timeout cdb direction data).Asks (SentUnder timeout below) := by
  refine (asks_send rfl).bind fun answer => ?_
  dsimp only
  split
  · exact (asks_log _ _).bind fun _ => asks_done _
  · refine (asks_demand _).bind fun hasSense => ?_
    split
    · exact (asks_demand _).bind fun _ => asks_done _
    · exact asks_done _

variable {signature : UInt8} {label : String}

theorem asks_readBack (query : SmartOperation.Query) (file : TaskFile) (data : Bytes) :
    (readBack signature timeout label query file data).Asks (SentUnder timeout below) := by
  refine (asks_exchange _ _ _).bind fun ⟨result, received⟩ => ?_
  dsimp only
  split
  · exact asks_done _
  · refine (asks_log _ _).bind fun _ => ?_
    split
    · exact asks_done _
    · split
      · exact asks_done _
      · exact (asks_log _ _).bind fun _ => asks_done _
    · exact asks_done _

theorem asks_operate (query : SmartOperation.Query) :
    (operate signature timeout label query).Asks (SentUnder timeout below) := by
  unfold operate
  dsimp only
  split
  · exact asks_done _
  · refine (asks_demand _).bind fun sent => ?_
    refine (asks_exchange _ _ _).bind fun ⟨result, received⟩ => ?_
    dsimp only
    split
    · exact asks_done _
    · split
      · exact asks_readBack _ _ _
      · exact asks_done _

theorem asks_perform :
    (perform signature timeout label request registers).Asks (SentUnder timeout below) := by
  refine Asks.bind (asks_through _ (fun query _ => ?_) ()) fun _ => asks_done _
  exact (asks_operate query).bind fun _ => asks_done _

end Cypress

namespace JMicron

theorem asks_perform (setup : Setup) :
    (perform setup request registers).Asks (SentUnder below below) := by
  unfold perform
  split
  · exact asks_done _
  · split
    · exact asks_done _
    · dsimp only
      split
      · refine (asks_sendChecked _ _).bind fun answer => ?_
        split
        · exact asks_done _
        · split <;> exact asks_done _
      · refine Request.asks_transfer.bind fun ⟨direction, data⟩ => ?_
        refine (asks_sendChecked _ _).bind fun answer => ?_
        split <;> exact asks_done _

theorem asks_readRegisters (trailer : Bool) (address : UInt16) (buffer : Bytes) :
    (readRegisters trailer address buffer).Asks (SentUnder below below) :=
  (asks_sendChecked _ _).bind fun _ => asks_done _

theorem asks_readTaskFile (setup : Setup) :
    (readTaskFile setup registers).Asks (SentUnder below below) := by
  unfold readTaskFile
  split
  · exact asks_done _
  · refine (asks_readRegisters _ _ _).bind fun ⟨result, raw⟩ => ?_
    cases result <;> exact asks_done _

theorem asks_detectPort (trailer : Bool) :
    (detectPort trailer).Asks (SentUnder below below) := by
  refine (asks_readRegisters _ _ _).bind fun ⟨result, status⟩ => ?_
  cases result <;> exact asks_done _

end JMicron

namespace Prolific

theorem asks_perform : (perform request registers).Asks (SentUnder below below) := by
  unfold perform
  split
  · exact asks_done _
  · refine Request.asks_transfer.bind fun ⟨direction, data⟩ => ?_
    refine (asks_sendChecked _ _).bind fun answer => ?_
    dsimp only
    split
    · exact asks_done _
    · split
      · refine (asks_sendChecked _ _).bind fun read => ?_
        split
        · exact asks_done _
        · exact (asks_log _ _).bind fun _ => asks_done _
      · exact asks_done _

end Prolific

namespace Sunplus

theorem asks_readBack (buffer : Option Bytes) :
    (readBack request registers buffer).Asks (SentUnder below below) := by
  unfold readBack
  split
  · refine (asks_sendChecked _ _).bind fun read => ?_
    split <;> exact asks_done _
  · exact asks_done _

theorem asks_execute : (execute request registers).Asks (SentUnder below below) := by
  refine Request.asks_transfer.bind fun ⟨direction, data⟩ => ?_
  refine (asks_sendChecked _ _).bind fun answer => ?_
  dsimp only
  split
  · exact asks_done _
  · exact asks_readBack _

theorem asks_perform : (perform request registers).Asks (SentUnder below below) := by
  unfold perform
  split
  · exact asks_done _
  · split
    · refine (asks_sendChecked _ _).bind fun preset => ?_
      split
      · exact asks_done _
      · exact asks_execute
    · exact asks_execute

end Sunplus

namespace Translator

/-- The time limit of a translator's commands over a device with another one. -/
def limit (translator : Translator) (below : UInt32) : UInt32 :=
  match translator with
  | sat _ timeout | cypress _ timeout _ => timeout
  | jmicron _ | prolific | sunplus => below

theorem asks_perform (translator : Translator) (below : UInt32) (request : Request)
    (registers : RegisterFile OutputRegister) :
    (translator.perform request registers).Asks (SentUnder (translator.limit below) below) := by
  cases translator with
  | sat length timeout => exact Sat.asks_perform length
  | cypress signature timeout label => exact Cypress.asks_perform
  | jmicron setup => exact JMicron.asks_perform setup
  | prolific => exact Prolific.asks_perform
  | sunplus => exact Sunplus.asks_perform

end Translator

end Ata

namespace Nvme

open Dialogue Scsi

variable {below : UInt32} {request : Request} {completion : Completion}

theorem Asmedia.asks_perform :
    (Asmedia.perform request completion).Asks (SentUnder below below) := by
  unfold Asmedia.perform
  split
  · exact asks_done _
  · split
    · exact asks_done _
    · exact (asks_sendChecked _ _).bind fun _ => asks_done _

theorem Realtek.asks_perform :
    (Realtek.perform request completion).Asks (SentUnder below below) := by
  unfold Realtek.perform
  split
  · exact asks_done _
  · split
    · exact asks_done _
    · dsimp only
      split
      · refine (asks_demand _).bind fun _ => (asks_log _ _).bind fun _ => ?_
        split
        · exact (asks_demand _).bind fun _ => (asks_sendChecked _ _).bind fun _ => asks_done _
        · exact asks_done _
      · split
        · exact (asks_demand _).bind fun _ => (asks_sendChecked _ _).bind fun _ => asks_done _
        · exact asks_done _

namespace JMicron

theorem asks_respond (buffer : Option Bytes) :
    (respond buffer completion).Asks (SentUnder below below) := by
  refine (asks_sendChecked _ _).bind fun reply => ?_
  split
  · exact asks_done _
  · refine (asks_log _ _).bind fun _ => ?_
    exact (asks_demand _).bind fun _ => asks_done _

theorem asks_exchange (data : Bytes) (buffer : Option Bytes) :
    (exchange request data buffer completion).Asks (SentUnder below below) := by
  refine (asks_sendChecked _ _).bind fun sent => ?_
  split
  · exact asks_done _
  · refine (asks_sendChecked _ _).bind fun moved => ?_
    dsimp only
    split
    · exact asks_done _
    · exact asks_respond _

theorem asks_perform (label : String) :
    (perform label request completion).Asks (SentUnder below below) := by
  unfold perform
  split
  · exact asks_done _
  · refine (asks_logAll _).bind fun _ => ?_
    split
    · exact asks_exchange _ _
    · exact asks_done _
    · exact (asks_demand _).bind fun _ => asks_exchange _ _
    · exact (asks_demand _).bind fun _ => asks_exchange _ _

end JMicron

end Nvme

/-- A bridge to an NVMe drive leaves the time limit to the device below. -/
theorem Chain.NvmeVendor.asks_perform (vendor : NvmeVendor) (below : UInt32) (label : String)
    (request : Nvme.Request) (completion : Nvme.Completion) :
    (vendor.perform label request completion).Asks (Scsi.SentUnder below below) := by
  cases vendor with
  | asmedia => exact Nvme.Asmedia.asks_perform
  | jmicron => exact Nvme.JMicron.asks_perform label
  | realtek => exact Nvme.Realtek.asks_perform

end DriveBridge
