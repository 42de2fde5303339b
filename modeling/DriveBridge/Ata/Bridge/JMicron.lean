import DriveBridge.Ata.Request
import DriveBridge.Text.Hex

/-! Two-port bridges with a vendor CDB for ATA commands and a window on their own registers.
Chips of another maker that speak the same way want a trailer after the CDB. The bridge returns
no output registers, except that SMART RETURN STATUS transfers one byte that tells the health. -/
namespace DriveBridge.Ata.JMicron

inductive Port where
  | zero | one
  deriving DecidableEq, Repr

namespace Port

def ofIndex? (index : UInt32) : Option Port :=
  if index = 0 then some zero else if index = 1 then some one else none

def name : Port → String
  | zero => "Zero"
  | one => "One"

/-- The bits of the device register that select the drive on a port. -/
def deviceBits : Port → UInt8
  | zero => 0xa0
  | one => 0xb0

/-- Where the bridge keeps the output registers of the drive on a port. -/
def taskFileAddress : Port → UInt16
  | zero => 0x8000
  | one => 0x9000

end Port

/-- What is known of a bridge. The port may have to be found out first. -/
structure Setup where
  trailer : Bool
  /-- 48-bit commands whose previous bytes are 0 may be sent. -/
  extended : Bool
  port : Option Port

namespace Setup

/-- A bridge as it was asked for. Chips that want the trailer have port 0 only. -/
def ofOptions (trailer extended : Bool) (port : Option Port) : Setup :=
  ⟨trailer, extended, if port.isNone && trailer then some .zero else port⟩

end Setup

/-- The CDB with the trailer, if the chip wants one. -/
def finish (trailer : Bool) (cdb : Bytes) : Bytes :=
  if trailer then cdb ++ [0x06, 0x7b] else cdb

/-- The CDB that reads `length` bytes of the registers of the bridge. -/
def registerCdb (trailer : Bool) (address : UInt16) (length : Nat) : Bytes :=
  finish trailer ([0xdf, 0x10, 0] ++ Bytes.be16 length.toUInt16 ++ [0] ++ Bytes.be16 address ++
    [0, 0, 0, 0xfd])

/-- Reads registers of the bridge into a buffer. -/
def readRegisters (trailer : Bool) (address : UInt16) (buffer : Bytes) :
    Scsi.Session (Except Failure Unit × Bytes) := do
  let answer ← Scsi.sendChecked "UsbJmicronDevice::get_registers: "
    { cdb := registerCdb trailer address buffer.length, direction := .fromDevice, data := buffer }
  return (answer.result, answer.completion.data)

def unknownPort : Failure := ⟨.transfer, "Unknown JMicron port"⟩

/-- The output registers in the task file of a port. -/
def taskFileRegisters (raw : Bytes) (file : RegisterFile OutputRegister) :
    RegisterFile OutputRegister :=
  file.setAll
    [(.sectorCount, raw.byte 0), (.lbaMid, raw.byte 4), (.lbaLow, raw.byte 6),
      (.device, raw.byte 9), (.lbaHigh, raw.byte 10), (.error, raw.byte 13),
      (.status, raw.byte 14)]

/-- Reads the output registers that the last command left in the task file of the port. Old
chips have them elsewhere, and another command in between overwrites them. -/
def readTaskFile (setup : Setup) (registers : RegisterFile OutputRegister) :
    Scsi.Session (Except Failure Unit × RegisterFile OutputRegister) := do
  match setup.port with
  | none => return (.error unknownPort, registers)
  | some port =>
      let (result, raw) ← readRegisters setup.trailer port.taskFileAddress (Bytes.zeros 16)
      match result with
      | .error failure => return (.error failure, registers)
      | .ok () => return (.ok (), taskFileRegisters raw registers)

/-- Where the bridge tells which of its ports have a drive. -/
def portStatusAddress : UInt16 := 0x720f

/-- The port that a port status tells of, if it tells of exactly one. -/
def detected (status : UInt8) : Except Failure Port :=
  let ports := status &&& 0x44
  if ports = 0x04 then .ok .zero
  else if ports = 0x40 then .ok .one
  else if ports = 0x44 then
    .error ⟨.malformed, "Two devices connected, try '-d usbjmicron,[01]'"⟩
  else .error ⟨.absent, "No device connected"⟩

/-- Finds out which port has a drive. -/
def detectPort (trailer : Bool) : Scsi.Session (Except Failure Port) := do
  let (result, status) ← readRegisters trailer portStatusAddress [0]
  match result with
  | .error failure => return .error failure
  | .ok () => return detected (status.byte 0)

def support (extended : Bool) : Support :=
  { dataOut := true, smartStatus := true, extendedZero := extended }

/-- The only request for registers that the bridge can serve. -/
def asksHealth (request : Request) : Bool := request.isSmartStatus && request.wantsRegisters

/-- The CDB of a request. The transfer length has 16 bits; a request for the health transfers
one byte to the host whatever its direction is. -/
def cdb (setup : Setup) (port : Port) (request : Request) : Bytes :=
  let register := request.registers.value
  let length := if asksHealth request then 1
    else if request.direction = .noData then 0 else request.size
  let toHost : UInt8 :=
    if asksHealth request ∨ request.direction ≠ .dataOut then 0x10 else 0
  finish setup.trailer
    ([0xdf, toHost, 0] ++ Bytes.be16 length.toUInt16 ++
      [register .features, register .sectorCount, register .lbaLow, register .lbaMid,
        register .lbaHigh, register .device ||| port.deviceBits, register .command])

/-- The registers that stand for the byte which tells the health. Some chips leave the byte
out, others always answer the same. -/
def healthRegisters (completion : Scsi.Completion) (registers : RegisterFile OutputRegister) :
    Except Failure (RegisterFile OutputRegister) :=
  let status := completion.data.byte 0
  if completion.residual = 1 then
    .error ⟨.unsupported, "Incomplete response, status byte missing [JMicron]"⟩
  else if status = healthyHigh then
    .ok (registers.setAll [(.lbaMid, healthyMid), (.lbaHigh, healthyHigh)])
  else if status = failingHigh then
    .ok (registers.setAll [(.lbaMid, failingMid), (.lbaHigh, failingHigh)])
  else
    let byte := Text.hex 2 status.toNat
    .error ⟨.unsupported, s!"Invalid status byte (0x{byte}) [JMicron]"⟩

/-- Executes a request by one vendor command. -/
def perform (setup : Setup) (request : Request) (registers : RegisterFile OutputRegister) :
    Scsi.Session Answer := do
  match request.check (support setup.extended) (some "JMicron") with
  | .error failure => return request.refused registers failure
  | .ok () =>
    match setup.port with
    | none => return request.refused registers unknownPort
    | some port =>
      let (direction, data) ← if asksHealth request
        then pure (Scsi.Direction.fromDevice, [0xff]) else request.transfer
      let answer ← Scsi.sendChecked "UsbJmicronDevice::ata_pass_through: "
        { cdb := cdb setup port request, direction, data }
      let buffer := if asksHealth request then request.buffer
        else request.bufferAfter answer.completion.data
      match answer.result with
      | .error failure => return ⟨.error failure, registers, buffer⟩
      | .ok () =>
          if asksHealth request then
            match healthRegisters answer.completion registers with
            | .error failure => return ⟨.error failure, registers, buffer⟩
            | .ok registers => return ⟨.ok (), registers, buffer⟩
          else return ⟨.ok (), registers, buffer⟩

end DriveBridge.Ata.JMicron
