import DriveBridge.Ata.Smart
import DriveBridge.Text.Hex

/-! Bridges that take ATA commands in an ATACB, a vendor CDB with room for the operations of the
fixed table. The registers of a command are read back by a second ATACB, which anything else
that reaches the disk in between will garble. -/
namespace DriveBridge.Ata.Cypress

/-- First byte of the CDB, by which the bridge recognises its own commands. -/
def defaultSignature : UInt8 := 0x24

/-- The registers of an operation, and whether its result is read back. -/
structure TaskFile where
  command : UInt8
  features : UInt8
  sectorCount : UInt8 := 0
  lbaLow : UInt8 := 0
  direction : Scsi.Direction := .none
  readBack : Bool := false

/-- The registers by which an operation is carried out. -/
def taskFile (operation : SmartOperation) (select : UInt8) : TaskFile :=
  let smart := Opcode.smart
  match operation with
  | .checkPowerMode => { command := Opcode.checkPowerMode, features := 0, readBack := true }
  | .readValues =>
      { command := smart, features := SmartFeature.readData, sectorCount := 1,
        direction := .fromDevice }
  | .readThresholds =>
      { command := smart, features := SmartFeature.readThresholds, sectorCount := 1, lbaLow := 1,
        direction := .fromDevice }
  | .readLog =>
      { command := smart, features := SmartFeature.readLog, sectorCount := 1, lbaLow := select,
        direction := .fromDevice }
  | .writeLog =>
      { command := smart, features := SmartFeature.writeLog, sectorCount := 1, lbaLow := select,
        direction := .toDevice }
  | .identify =>
      { command := Opcode.identify, features := 0, sectorCount := 1, direction := .fromDevice }
  | .identifyPacket =>
      { command := Opcode.identifyPacket, features := 0, sectorCount := 1,
        direction := .fromDevice }
  | .enable => { command := smart, features := SmartFeature.enable, lbaLow := 1 }
  | .disable => { command := smart, features := SmartFeature.disable, lbaLow := 1 }
  | .status | .statusCheck =>
      { command := smart, features := SmartFeature.returnStatus, readBack := true }
  | .autoOffline =>
      { command := smart, features := SmartFeature.autoOffline, sectorCount := select }
  | .autosave => { command := smart, features := SmartFeature.autosave, sectorCount := select }
  | .immediateOffline =>
      { command := smart, features := SmartFeature.immediateOffline, lbaLow := select }

namespace TaskFile

def isIdentify (file : TaskFile) : Bool :=
  file.command == Opcode.identify || file.command == Opcode.identifyPacket

/-- The third byte of the CDB of a command. -/
def actionByte (file : TaskFile) : UInt8 := if file.isIdentify then 0x80 else 0

/-- The third byte of the CDB that reads the registers of the command before it. -/
def readByte : UInt8 := 0x01

/-- The buffer of a command, given one of at least a sector if it transfers any data. What the
device is to fill is cleared. -/
def sector (file : TaskFile) (data : Bytes) : Checked Bytes :=
  match file.direction with
  | .none => return []
  | .fromDevice => do
      let room ← Checked.cut data sectorSize
      return Bytes.zeros room.length
  | .toDevice => Checked.cut data sectorSize

/-- A CDB, given its third byte. The fourth selects the registers from features to command. -/
def cdb (file : TaskFile) (signature action : UInt8) : Bytes :=
  let (mid, high) :=
    if file.command = Opcode.smart then (healthyMid, healthyHigh) else (0, 0)
  [signature, 0x24, action, 0xbe, 1, 0, file.features, file.sectorCount, file.lbaLow, mid, high,
    0, file.command, 0, 0, 0]

end TaskFile

/-- Sends one ATACB. Sense data means that the command failed or that the bridge is another
one. The data is returned as the transport left it. -/
def exchange (timeout : UInt32) (cdb : Bytes) (direction : Scsi.Direction) (data : Bytes) :
    Scsi.Session (Except Failure Unit × Bytes) := do
  let answer ← Scsi.send { cdb, direction, data, timeout }
  let completion := answer.completion
  match answer.result with
  | .error failure =>
      let code := failure.cause.code
      let message := failure.message
      Dialogue.log .debug ("UsbCypressDevice::ata_command_interface: scsi_pass_through() " ++
        s!"failed, errno={code} [{message}]")
      return (.error failure, completion.data)
  | .ok () =>
      if ← Dialogue.demand completion.readHasSense then
        let verdict ← Dialogue.demand completion.readVerdict
        let text := verdict.text
        return (.error ⟨.transfer, s!"ATACB command failed: {text} [USB Cypress]"⟩,
          completion.data)
      else return (.ok (), completion.data)

/-- The health that SMART RETURN STATUS reports by its address bytes, if they are known. -/
def health? (mid high : UInt8) : Option Health :=
  if mid = healthyMid ∧ high = healthyHigh then some .passed
  else if mid = failingMid ∧ high = failingHigh then some .thresholdExceeded
  else none

/-- Registers that the second ATACB returns. -/
def taskFileLength : Nat := 8

/-- Reads the registers of the command before and concludes from them. -/
def readBack (signature : UInt8) (timeout : UInt32) (label : String)
    (query : SmartOperation.Query) (file : TaskFile) (data : Bytes) :
    Scsi.Session SmartOperation.Answer := do
  let (result, registers) ← exchange timeout (file.cdb signature TaskFile.readByte) .fromDevice
    (Bytes.zeros taskFileLength)
  match result with
  | .error failure => return ⟨.error failure, data⟩
  | .ok () =>
    let values := Text.hexList registers
    Dialogue.log .trace s!"Values from ATA Return Descriptor are: {values}"
    match query.operation with
    | .checkPowerMode => return ⟨.ok .passed, Bytes.overlay [registers.byte 2] data⟩
    | .statusCheck =>
        match health? (registers.byte 4) (registers.byte 5) with
        | some health => return ⟨.ok health, data⟩
        | none =>
            let mid := Text.hex 2 (registers.byte 4).toNat
            let high := Text.hex 2 (registers.byte 5).toNat
            Dialogue.log .warn (s!"{label}: SMART STATUS returned lba_mid 0x{mid}, " ++
              s!"lba_high 0x{high}; this may be due to a race in the Cypress bridge, " ++
              "retry without other disk access")
            return ⟨.error ⟨.transfer, "Error SMART Status command failed [USB Cypress]"⟩, data⟩
    | _ => return ⟨.ok .passed, data⟩

/-- Carries out one operation of the table. -/
def operate (signature : UInt8) (timeout : UInt32) (label : String)
    (query : SmartOperation.Query) : Scsi.Session SmartOperation.Answer := do
  let file := taskFile query.operation query.select
  let cdb := file.cdb signature file.actionByte
  let length := query.data.length
  if file.direction ≠ .none ∧ length < sectorSize then
    return ⟨.error ⟨.malformed, s!"Buffer length {length} smaller than transfer size 512"⟩,
      query.data⟩
  else
    let sent ← Dialogue.demand (file.sector query.data)
    let (result, received) ← exchange timeout cdb file.direction sent
    let data := Bytes.overlay received query.data
    match result with
    | .error failure => return ⟨.error failure, data⟩
    | .ok () =>
        if file.readBack then readBack signature timeout label query file data
        else return ⟨.ok .passed, data⟩

/-- Executes a request by the operation that it stands for. -/
def perform (signature : UInt8) (timeout : UInt32) (label : String) (request : Request)
    (registers : RegisterFile OutputRegister) : Scsi.Session Answer :=
  ((SmartOperation.perform request registers).through
    (fun query (_ : Unit) =>
      (operate signature timeout label query).bind fun answer => .done (answer, ()))
    ()).bind fun result => .done result.1

end DriveBridge.Ata.Cypress
