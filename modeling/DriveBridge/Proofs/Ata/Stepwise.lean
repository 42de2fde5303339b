import DriveBridge.Ata.Bridge.Prolific
import DriveBridge.Ata.Bridge.Sunplus
import DriveBridge.Proofs.Ata.Plan
import DriveBridge.Proofs.Scsi.Keeper

/-! The translators from ATA step by step. Each way out of a request keeps its own failure: a check
that fails, a command that does, and what a translator finds wrong with a completed command. To the
caller this is the same as keeping the failure of the answer at its end. -/
namespace DriveBridge.Ata

open Scsi (Keeper Keeps keeps_pure keeps_fail keeps_lift keeps_send keeps_sendChecked keeps_get_bind
  keeps_modify_bind keeps_ite_bind)
open Scsi.Keeper (fail lift)

/-- Refuses a request. -/
def refuse (request : Request) (registers : RegisterFile OutputRegister) (failure : Failure) :
    Keeper Answer :=
  fail failure (request.refused registers failure)

namespace Sat.Stepwise

/-- Concludes a request whose command was completed. -/
def conclude (request : Request) (completion : Scsi.Completion)
    (registers : RegisterFile OutputRegister) : Keeper Answer := do
  let ruling ← lift (Dialogue.demand (readRuling request completion registers))
  lift (Dialogue.logAll ruling.notes)
  let left := { request with buffer := request.bufferAfter completion.data }
  let buffer ← if ruling.discard then lift left.clear else pure left.buffer
  match ruling.result with
  | .error failure => fail failure ⟨.error failure, ruling.registers, buffer⟩
  | .ok () => return ⟨.ok (), ruling.registers, buffer⟩

/-- Executes a request by one ATA PASS-THROUGH command. -/
def perform (length : Length) (request : Request) (registers : RegisterFile OutputRegister) :
    Keeper Answer := do
  match request.check support (some "SAT") with
  | .error failure => refuse request registers failure
  | .ok () =>
    if request.registers.isExtended && length == .short then
      refuse request registers
        ⟨.unsupported, "48-bit ATA commands require SAT ATA PASS-THROUGH (16)"⟩
    else
      let (direction, data) ← lift request.transfer
      let timeout := (← get).timeout
      let answer ← Keeper.send { cdb := cdb length request, direction, data, timeout }
      match answer.result with
      | .error failure =>
          let code := failure.cause.code
          let message := failure.message
          lift (Dialogue.log .debug
            s!"SAT: scsi_pass_through() failed, errno={code} [{message}]")
          return ⟨.error failure, registers, request.bufferAfter answer.completion.data⟩
      | .ok () => conclude request answer.completion registers

end Sat.Stepwise

namespace SmartOperation.Stepwise

/-- Executes a request by the one operation it stands for. An older failure is forgotten before the
operation is carried out. -/
def perform (operate : Query → Keeper SmartOperation.Answer) (request : Request)
    (registers : RegisterFile OutputRegister) : Keeper Ata.Answer := do
  match request.check support none with
  | .error failure => refuse request registers failure
  | .ok () =>
    match ofRequest request with
    | .error unmapped => refuse request registers ⟨.unsupported, unmapped.message⟩
    | .ok (operation, select) =>
      modify Profile.forget
      let data ← lift (if operation = .checkPowerMode then pure (Bytes.zeros sectorSize)
        else request.transferred)
      let answer ← operate ⟨operation, select, data⟩
      return concluded operation request answer registers

end SmartOperation.Stepwise

namespace Cypress.Stepwise

/-- Sends one ATACB. -/
def exchange (cdb : Bytes) (direction : Scsi.Direction) (data : Bytes) :
    Keeper (Except Failure Unit × Bytes) := do
  let timeout := (← get).timeout
  let answer ← Keeper.send { cdb, direction, data, timeout }
  let completion := answer.completion
  match answer.result with
  | .error failure =>
      let code := failure.cause.code
      let message := failure.message
      lift (Dialogue.log .debug ("UsbCypressDevice::ata_command_interface: scsi_pass_through() " ++
        s!"failed, errno={code} [{message}]"))
      return (.error failure, completion.data)
  | .ok () =>
      if ← lift (Dialogue.demand completion.readHasSense) then
        let verdict ← lift (Dialogue.demand completion.readVerdict)
        let text := verdict.text
        let failure : Failure := ⟨.transfer, s!"ATACB command failed: {text} [USB Cypress]"⟩
        fail failure (.error failure, completion.data)
      else return (.ok (), completion.data)

/-- Reads the registers of the command before and concludes from them. -/
def readBack (signature : UInt8) (query : SmartOperation.Query) (file : TaskFile) (data : Bytes) :
    Keeper SmartOperation.Answer := do
  let (result, registers) ← exchange (file.cdb signature TaskFile.readByte) .fromDevice
    (Bytes.zeros taskFileLength)
  match result with
  | .error failure => return ⟨.error failure, data⟩
  | .ok () =>
    let values := Text.hexList registers
    lift (Dialogue.log .trace s!"Values from ATA Return Descriptor are: {values}")
    match query.operation with
    | .checkPowerMode => return ⟨.ok .passed, Bytes.overlay [registers.byte 2] data⟩
    | .statusCheck =>
        match health? (registers.byte 4) (registers.byte 5) with
        | some health => return ⟨.ok health, data⟩
        | none =>
            let label := (← get).label
            let mid := Text.hex 2 (registers.byte 4).toNat
            let high := Text.hex 2 (registers.byte 5).toNat
            lift (Dialogue.log .warn (s!"{label}: SMART STATUS returned lba_mid 0x{mid}, " ++
              s!"lba_high 0x{high}; this may be due to a race in the Cypress bridge, " ++
              "retry without other disk access"))
            let failure : Failure :=
              ⟨.transfer, "Error SMART Status command failed [USB Cypress]"⟩
            fail failure ⟨.error failure, data⟩
    | _ => return ⟨.ok .passed, data⟩

/-- Carries out one operation of the table. -/
def operate (signature : UInt8) (query : SmartOperation.Query) :
    Keeper SmartOperation.Answer := do
  let file := taskFile query.operation query.select
  let cdb := file.cdb signature file.actionByte
  let length := query.data.length
  if file.direction ≠ .none ∧ length < sectorSize then
    let failure : Failure :=
      ⟨.malformed, s!"Buffer length {length} smaller than transfer size 512"⟩
    fail failure ⟨.error failure, query.data⟩
  else
    let sent ← lift (Dialogue.demand (file.sector query.data))
    let (result, received) ← exchange cdb file.direction sent
    let data := Bytes.overlay received query.data
    match result with
    | .error failure => return ⟨.error failure, data⟩
    | .ok () =>
        if file.readBack then readBack signature query file data
        else return ⟨.ok .passed, data⟩

/-- Executes a request by the operation that it stands for. -/
def perform (signature : UInt8) (request : Request) (registers : RegisterFile OutputRegister) :
    Keeper Answer :=
  SmartOperation.Stepwise.perform (operate signature) request registers

end Cypress.Stepwise

namespace JMicron.Stepwise

/-- Reads registers of the bridge into a buffer. -/
def readRegisters (trailer : Bool) (address : UInt16) (buffer : Bytes) :
    Keeper (Except Failure Unit × Bytes) := do
  let answer ← Keeper.sendChecked "UsbJmicronDevice::get_registers: "
    { cdb := registerCdb trailer address buffer.length, direction := .fromDevice, data := buffer }
  return (answer.result, answer.completion.data)

/-- Reads the output registers that the last command left in the task file of the port. -/
def readTaskFile (setup : Setup) (registers : RegisterFile OutputRegister) :
    Keeper (Except Failure Unit × RegisterFile OutputRegister) := do
  match setup.port with
  | none => fail unknownPort (.error unknownPort, registers)
  | some port =>
      let (result, raw) ← readRegisters setup.trailer port.taskFileAddress (Bytes.zeros 16)
      match result with
      | .error failure => return (.error failure, registers)
      | .ok () => return (.ok (), taskFileRegisters raw registers)

/-- Executes a request by one vendor command. -/
def perform (setup : Setup) (request : Request) (registers : RegisterFile OutputRegister) :
    Keeper Answer := do
  match request.check (support setup.extended) (some "JMicron") with
  | .error failure => refuse request registers failure
  | .ok () =>
    match setup.port with
    | none => refuse request registers unknownPort
    | some port =>
      let (direction, data) ← if asksHealth request
        then pure (Scsi.Direction.fromDevice, [0xff]) else lift request.transfer
      let answer ← Keeper.sendChecked "UsbJmicronDevice::ata_pass_through: "
        { cdb := cdb setup port request, direction, data }
      let buffer := if asksHealth request then request.buffer
        else request.bufferAfter answer.completion.data
      match answer.result with
      | .error failure => return ⟨.error failure, registers, buffer⟩
      | .ok () =>
          if asksHealth request then
            match healthRegisters answer.completion registers with
            | .error failure => fail failure ⟨.error failure, registers, buffer⟩
            | .ok registers => return ⟨.ok (), registers, buffer⟩
          else return ⟨.ok (), registers, buffer⟩

end JMicron.Stepwise

namespace Prolific.Stepwise

/-- Executes a request, and reads the output registers where they are wanted. -/
def perform (request : Request) (registers : RegisterFile OutputRegister) : Keeper Answer := do
  match request.check support (some "Prolific") with
  | .error failure => refuse request registers failure
  | .ok () =>
    let (direction, data) ← lift request.transfer
    let answer ← Keeper.sendChecked "UsbProlificDevice::ata_pass_through: "
      { cdb := cdb request, direction, data }
    let buffer := request.bufferAfter answer.completion.data
    match answer.result with
    | .error failure => return ⟨.error failure, registers, buffer⟩
    | .ok () =>
      if request.wantsRegisters then
        let read ← Keeper.sendChecked "UsbProlificDevice::scsi_pass_through (get registers): "
          { cdb := registerCdb, direction := .fromDevice, data := Bytes.zeros 16 }
        match read.result with
        | .error failure => return ⟨.error failure, registers, buffer⟩
        | .ok () =>
            let values := Text.hexList read.completion.data
            lift (Dialogue.log .trace s!"Prolific registers: {values}")
            return ⟨.ok (), returnedRegisters read.completion.data registers, buffer⟩
      else return ⟨.ok (), registers, buffer⟩

end Prolific.Stepwise

namespace Sunplus.Stepwise

/-- Reads the output registers where they are wanted. -/
def readBack (request : Request) (registers : RegisterFile OutputRegister)
    (buffer : Option Bytes) : Keeper Answer := do
  if request.wantsRegisters then
    let read ← Keeper.sendChecked "UsbSunplusDevice::scsi_pass_through (get registers): "
      { cdb := registerCdb, direction := .fromDevice, data := Bytes.zeros 8 }
    match read.result with
    | .error failure => return ⟨.error failure, registers, buffer⟩
    | .ok () => return ⟨.ok (), returnedRegisters read.completion.data registers, buffer⟩
  else return ⟨.ok (), registers, buffer⟩

/-- Executes a request whose previous registers, if it has any, are loaded. -/
def execute (request : Request) (registers : RegisterFile OutputRegister) : Keeper Answer := do
  let (direction, data) ← lift request.transfer
  let answer ← Keeper.sendChecked "UsbSunplusDevice::scsi_pass_through: "
    { cdb := cdb request, direction, data }
  let buffer := request.bufferAfter answer.completion.data
  match answer.result with
  | .error failure => return ⟨.error failure, registers, buffer⟩
  | .ok () => readBack request registers buffer

/-- Executes a request by up to three commands. -/
def perform (request : Request) (registers : RegisterFile OutputRegister) : Keeper Answer := do
  match request.check support (some "Sunplus") with
  | .error failure => refuse request registers failure
  | .ok () =>
    if request.registers.isExtended then
      let preset ← Keeper.sendChecked "UsbSunplusDevice::scsi_pass_through (presetting): "
        { cdb := presetCdb request }
      match preset.result with
      | .error failure => return ⟨.error failure, registers, request.buffer⟩
      | .ok () => execute request registers
    else execute request registers

end Sunplus.Stepwise

section Keeps

variable {profile : Profile} {request : Request} {registers : RegisterFile OutputRegister}

/-- What a profile keeps of a request in the end. -/
abbrev settled (profile : Profile) (answer : Answer) : Profile := profile.settle answer.result

theorem keeps_refuse {failure : Failure} :
    Keeps profile (refuse request registers failure) (pure (request.refused registers failure))
      (settled profile) := keeps_fail rfl

namespace Sat

theorem keeps_conclude (completion : Scsi.Completion) :
    Keeps profile (Stepwise.conclude request completion registers)
      (conclude request completion registers) (settled profile) := by
  refine (keeps_lift _).bind fun ruling => (keeps_lift _).bind fun _ => ?_
  refine keeps_ite_bind (keeps_lift _) (keeps_pure rfl) fun buffer => ?_
  cases ruling.result with
  | error failure => exact keeps_fail rfl
  | ok _ => exact keeps_pure rfl

theorem keeps_perform (length : Length) :
    Keeps profile (Stepwise.perform length request registers)
      (perform length profile.timeout request registers) (settled profile) := by
  unfold Stepwise.perform perform
  cases request.check support (some "SAT") with
  | error failure => exact keeps_refuse
  | ok _ =>
      dsimp only
      split
      · exact keeps_refuse
      · refine (keeps_lift _).bind fun transfer => keeps_get_bind ?_
        refine (keeps_send _).bind fun answer => ?_
        cases answer.result with
        | error failure => exact (keeps_lift _).bind fun _ => keeps_pure rfl
        | ok _ => exact keeps_conclude answer.completion

end Sat

namespace SmartOperation

theorem sector_eq {count : Nat} {operation : SmartOperation}
    (hConsistent : request.Consistent count) :
    (if operation = .checkPowerMode then pure (Bytes.zeros sectorSize)
      else request.transferred : Scsi.Session Bytes) = pure (sector operation request) := by
  unfold sector
  split
  · rfl
  · exact hConsistent.transferred_eq

/-- Whoever carries operations out keeps the failure of an operation. -/
theorem keeps_perform {operate : Query → Keeper Answer} {plain : Query → Scsi.Session Answer}
    (keeps : ∀ query, Keeps profile.forget (operate query) (plain query)
      fun answer => profile.forget.settle answer.result) :
    Keeps profile (Stepwise.perform operate request registers)
      (((perform request registers).through
        (fun query (_ : Unit) => (plain query).bind fun answer => .done (answer, ()))
        ()).bind fun result => .done result.1)
      fun answer => settle answer.result profile := by
  unfold Stepwise.perform
  cases hChecked : request.check support none with
  | error failure =>
      unfold perform
      rw [hChecked]
      exact keeps_fail rfl
  | ok _ =>
      dsimp only
      cases hMapped : ofRequest request with
      | error unmapped =>
          unfold perform
          rw [hChecked, hMapped]
          exact keeps_fail rfl
      | ok mapped =>
          obtain ⟨operation, select⟩ := mapped
          rw [perform_eq hChecked hMapped]
          -- What is lent is there, and the query for the operation is answered by a session.
          refine keeps_modify_bind ?_
          simp only [sector_eq ((request.check_eq_ok_iff _ _).mp hChecked).1,
            Scsi.Keeper.lift_pure, pure_bind, Dialogue.query, Dialogue.ask_bind,
            Dialogue.done_bind, Dialogue.through_ask, Dialogue.through_done, Dialogue.bind_assoc]
          refine (keeps _).bind fun answer => keeps_pure ?_
          unfold concluded
          cases answer.result with
          | error failure => rfl
          | ok health => rfl

end SmartOperation

namespace Cypress

theorem keeps_exchange (cdb : Bytes) (direction : Scsi.Direction) (data : Bytes) :
    Keeps profile (Stepwise.exchange cdb direction data)
      (exchange profile.timeout cdb direction data) fun result => profile.settle result.1 := by
  refine keeps_get_bind ((keeps_send _).bind fun answer => ?_)
  dsimp only
  cases answer.result with
  | error failure => exact (keeps_lift _).bind fun _ => keeps_pure rfl
  | ok _ =>
      refine (keeps_lift _).bind fun hasSense => ?_
      cases hasSense with
      | true => exact (keeps_lift _).bind fun verdict => keeps_fail rfl
      | false => exact keeps_pure rfl

theorem keeps_readBack (signature : UInt8) (query : SmartOperation.Query) (file : TaskFile)
    (data : Bytes) :
    Keeps profile (Stepwise.readBack signature query file data)
      (readBack signature profile.timeout profile.label query file data)
      fun answer => profile.settle answer.result := by
  refine (keeps_exchange _ _ _).bind fun exchanged => ?_
  obtain ⟨result, registers⟩ := exchanged
  cases result with
  | error failure => exact keeps_pure rfl
  | ok _ =>
      refine (keeps_lift _).bind fun _ => ?_
      cases query.operation with
      | statusCheck =>
          dsimp only
          cases health? (registers.byte 4) (registers.byte 5) with
          | some health => exact keeps_pure rfl
          | none => exact keeps_get_bind ((keeps_lift _).bind fun _ => keeps_fail rfl)
      | _ => exact keeps_pure rfl

theorem keeps_operate (signature : UInt8) (query : SmartOperation.Query) :
    Keeps profile (Stepwise.operate signature query)
      (operate signature profile.timeout profile.label query)
      fun answer => profile.settle answer.result := by
  unfold Stepwise.operate operate
  dsimp only
  split
  · exact keeps_fail rfl
  · refine (keeps_lift _).bind fun sent => (keeps_exchange _ _ _).bind fun exchanged => ?_
    obtain ⟨result, received⟩ := exchanged
    cases result with
    | error failure => exact keeps_pure rfl
    | ok _ =>
        dsimp only
        split
        · exact keeps_readBack signature query _ _
        · exact keeps_pure rfl

theorem keeps_perform (signature : UInt8) :
    Keeps profile (Stepwise.perform signature request registers)
      (perform signature profile.timeout profile.label request registers)
      fun answer => SmartOperation.settle answer.result profile :=
  SmartOperation.keeps_perform (keeps_operate signature)

end Cypress

namespace JMicron

theorem keeps_readRegisters (trailer : Bool) (address : UInt16) (buffer : Bytes) :
    Keeps profile (Stepwise.readRegisters trailer address buffer)
      (readRegisters trailer address buffer) fun read => profile.settle read.1 :=
  (keeps_sendChecked _ _).bind fun _ => keeps_pure rfl

theorem keeps_readTaskFile (setup : Setup) :
    Keeps profile (Stepwise.readTaskFile setup registers) (readTaskFile setup registers)
      fun read => profile.settle read.1 := by
  unfold Stepwise.readTaskFile readTaskFile
  cases setup.port with
  | none => exact keeps_fail rfl
  | some port =>
      refine (keeps_readRegisters _ _ _).bind fun read => ?_
      obtain ⟨result, raw⟩ := read
      cases result with
      | error failure => exact keeps_pure rfl
      | ok _ => exact keeps_pure rfl

theorem keeps_perform (setup : Setup) :
    Keeps profile (Stepwise.perform setup request registers) (perform setup request registers)
      (settled profile) := by
  unfold Stepwise.perform perform
  cases request.check (support setup.extended) (some "JMicron") with
  | error failure => exact keeps_refuse
  | ok _ =>
      dsimp only
      cases setup.port with
      | none => exact keeps_refuse
      | some port =>
          refine keeps_ite_bind (keeps_pure rfl) (keeps_lift _) fun transfer => ?_
          refine (keeps_sendChecked _ _).bind fun answer => ?_
          cases answer.result with
          | error failure => exact keeps_pure rfl
          | ok _ =>
              dsimp only
              split
              · cases healthRegisters answer.completion registers with
                | error failure => exact keeps_fail rfl
                | ok told => exact keeps_pure rfl
              · exact keeps_pure rfl

end JMicron

namespace Prolific

theorem keeps_perform :
    Keeps profile (Stepwise.perform request registers) (perform request registers)
      (settled profile) := by
  unfold Stepwise.perform perform
  cases request.check support (some "Prolific") with
  | error failure => exact keeps_refuse
  | ok _ =>
      refine (keeps_lift _).bind fun transfer => (keeps_sendChecked _ _).bind fun answer => ?_
      dsimp only
      cases answer.result with
      | error failure => exact keeps_pure rfl
      | ok _ =>
          dsimp only
          split
          · refine (keeps_sendChecked _ _).bind fun read => ?_
            cases read.result with
            | error failure => exact keeps_pure rfl
            | ok _ => exact (keeps_lift _).bind fun _ => keeps_pure rfl
          · exact keeps_pure rfl

end Prolific

namespace Sunplus

theorem keeps_readBack (buffer : Option Bytes) :
    Keeps profile (Stepwise.readBack request registers buffer)
      (readBack request registers buffer) (settled profile) := by
  unfold Stepwise.readBack readBack
  split
  · refine (keeps_sendChecked _ _).bind fun read => ?_
    cases read.result with
    | error failure => exact keeps_pure rfl
    | ok _ => exact keeps_pure rfl
  · exact keeps_pure rfl

theorem keeps_execute :
    Keeps profile (Stepwise.execute request registers) (execute request registers)
      (settled profile) := by
  refine (keeps_lift _).bind fun transfer => (keeps_sendChecked _ _).bind fun answer => ?_
  dsimp only
  cases answer.result with
  | error failure => exact keeps_pure rfl
  | ok _ => exact keeps_readBack _

theorem keeps_perform :
    Keeps profile (Stepwise.perform request registers) (perform request registers)
      (settled profile) := by
  unfold Stepwise.perform perform
  cases request.check support (some "Sunplus") with
  | error failure => exact keeps_refuse
  | ok _ =>
      dsimp only
      split
      · refine (keeps_sendChecked _ _).bind fun preset => ?_
        cases preset.result with
        | error failure => exact keeps_pure rfl
        | ok _ => exact keeps_execute
      · exact keeps_execute

end Sunplus

end Keeps

end DriveBridge.Ata
