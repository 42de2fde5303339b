import DriveBridge.Ata.Request
import DriveBridge.Text.Hex

/-! Bridges with a vendor CDB that carries a whole 28-bit register file, and a second one that
reads the output registers. -/
namespace DriveBridge.Ata.Prolific

def support : Support :=
  { dataOut := true, extendedZero := true, outputRegisters := true, smartStatus := true }

/-- The bytes by which the bridge recognises its own commands. -/
def checkWord : Bytes := [0x06, 0x7b]

/-- The CDB of a request. -/
def cdb (request : Request) : Bytes :=
  let register := request.registers.value
  let length := if request.direction = .noData then 0 else request.size
  let mode : UInt8 := if request.direction = .dataOut then 0x05 else 0x15
  [0xd8, mode, 0, register .features] ++ checkWord ++ Bytes.be32 length.toUInt32 ++
    [register .sectorCount, register .lbaLow, register .lbaMid, register .lbaHigh,
      register .device ||| 0xa0, register .command]

/-- The CDB that reads the output registers of the command before it. -/
def registerCdb : Bytes := [0xd7, 0, 0, 0] ++ checkWord ++ Bytes.zeros 10

/-- The output registers in the bytes that the bridge returns. The bytes between them repeat
the features and the command. -/
def returnedRegisters (raw : Bytes) (file : RegisterFile OutputRegister) :
    RegisterFile OutputRegister :=
  file.setAll
    [(.status, raw.byte 0), (.error, raw.byte 1), (.sectorCount, raw.byte 2),
      (.lbaLow, raw.byte 4), (.lbaMid, raw.byte 6), (.lbaHigh, raw.byte 8),
      (.device, raw.byte 10)]

/-- Executes a request, and reads the output registers where they are wanted. -/
def perform (request : Request) (registers : RegisterFile OutputRegister) :
    Scsi.Session Answer := do
  match request.check support (some "Prolific") with
  | .error failure => return request.refused registers failure
  | .ok () =>
    let (direction, data) ← request.transfer
    let answer ← Scsi.sendChecked "UsbProlificDevice::ata_pass_through: "
      { cdb := cdb request, direction, data }
    let buffer := request.bufferAfter answer.completion.data
    match answer.result with
    | .error failure => return ⟨.error failure, registers, buffer⟩
    | .ok () =>
      if request.wantsRegisters then
        let read ← Scsi.sendChecked "UsbProlificDevice::scsi_pass_through (get registers): "
          { cdb := registerCdb, direction := .fromDevice, data := Bytes.zeros 16 }
        match read.result with
        | .error failure => return ⟨.error failure, registers, buffer⟩
        | .ok () =>
            let values := Text.hexList read.completion.data
            Dialogue.log .trace s!"Prolific registers: {values}"
            return ⟨.ok (), returnedRegisters read.completion.data registers, buffer⟩
      else return ⟨.ok (), registers, buffer⟩

end DriveBridge.Ata.Prolific
