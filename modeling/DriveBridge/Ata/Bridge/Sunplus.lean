import DriveBridge.Ata.Request

/-! Bridges with one vendor operation code and three subcommands: one loads the previous
registers of a 48-bit command, one executes a command, one reads the output registers. -/
namespace DriveBridge.Ata.Sunplus

def support : Support := { dataOut := true, outputRegisters := true, extended := true }

/-- The CDB that loads the previous registers. -/
def presetCdb (request : Request) : Bytes :=
  let before := request.registers.previousValue
  [0xf8, 0, 0x23, 0, 0, before .features, before .sectorCount, before .lbaLow, before .lbaMid,
    before .lbaHigh, 0, 0]

def protocol : Direction → UInt8
  | .noData => 0x00
  | .dataIn => 0x10
  | .dataOut => 0x11

/-- The CDB that executes a request. The transfer length is counted in sectors. -/
def cdb (request : Request) : Bytes :=
  let register := request.registers.value
  let length := if request.direction = .noData then 0 else request.size
  [0xf8, 0, 0x22, protocol request.direction, (length / sectorSize).toUInt8,
    register .features, register .sectorCount, register .lbaLow, register .lbaMid,
    register .lbaHigh, register .device ||| 0xa0, register .command]

/-- The CDB that reads the output registers of the command before it. -/
def registerCdb : Bytes := [0xf8, 0, 0x21] ++ Bytes.zeros 9

/-- The output registers in the bytes that the bridge returns. The first byte is not one. -/
def returnedRegisters (raw : Bytes) (file : RegisterFile OutputRegister) :
    RegisterFile OutputRegister :=
  file.setAll
    [(.error, raw.byte 1), (.sectorCount, raw.byte 2), (.lbaLow, raw.byte 3),
      (.lbaMid, raw.byte 4), (.lbaHigh, raw.byte 5), (.device, raw.byte 6),
      (.status, raw.byte 7)]

/-- Reads the output registers where they are wanted. -/
def readBack (request : Request) (registers : RegisterFile OutputRegister)
    (buffer : Option Bytes) : Scsi.Session Answer := do
  if request.wantsRegisters then
    let read ← Scsi.sendChecked "UsbSunplusDevice::scsi_pass_through (get registers): "
      { cdb := registerCdb, direction := .fromDevice, data := Bytes.zeros 8 }
    match read.result with
    | .error failure => return ⟨.error failure, registers, buffer⟩
    | .ok () => return ⟨.ok (), returnedRegisters read.completion.data registers, buffer⟩
  else return ⟨.ok (), registers, buffer⟩

/-- Executes a request whose previous registers, if it has any, are loaded. -/
def execute (request : Request) (registers : RegisterFile OutputRegister) :
    Scsi.Session Answer := do
  let (direction, data) ← request.transfer
  let answer ← Scsi.sendChecked "UsbSunplusDevice::scsi_pass_through: "
    { cdb := cdb request, direction, data }
  let buffer := request.bufferAfter answer.completion.data
  match answer.result with
  | .error failure => return ⟨.error failure, registers, buffer⟩
  | .ok () => readBack request registers buffer

/-- Executes a request by up to three commands. An ATA error comes back as sense data that
reports a medium error. -/
def perform (request : Request) (registers : RegisterFile OutputRegister) :
    Scsi.Session Answer := do
  match request.check support (some "Sunplus") with
  | .error failure => return request.refused registers failure
  | .ok () =>
    if request.registers.isExtended then
      let preset ← Scsi.sendChecked "UsbSunplusDevice::scsi_pass_through (presetting): "
        { cdb := presetCdb request }
      match preset.result with
      | .error failure => return ⟨.error failure, registers, request.buffer⟩
      | .ok () => execute request registers
    else execute request registers

end DriveBridge.Ata.Sunplus
