import DriveBridge.Ata.Request

/-! Some translators know no ATA commands, only a fixed table of operations. This module finds
the operation that a request stands for and turns the outcome of the operation back into the
answer to the request. -/
namespace DriveBridge.Ata

inductive SmartOperation where
  | enable | disable | autosave | immediateOffline | autoOffline
  /-- SMART RETURN STATUS whose registers nobody reads. -/
  | status
  /-- SMART RETURN STATUS whose outcome is reported back. -/
  | statusCheck
  | readValues | readThresholds | readLog | writeLog | identify | identifyPacket
  | checkPowerMode
  deriving DecidableEq, Repr

/-- Why a request stands for no operation. -/
inductive Unmapped where
  | command | feature
  deriving DecidableEq, Repr

def Unmapped.message : Unmapped → String
  | command => "Non-SMART commands not implemented"
  | feature => "Unknown SMART command"

/-- How an operation that succeeded ended. -/
inductive Health where
  | passed
  /-- The drive said that a threshold was exceeded. -/
  | thresholdExceeded
  deriving DecidableEq, Repr

namespace SmartOperation

/-- The operation of a SMART request, with the value that the operation carries along: the log
address or self-test of the low address byte, or the setting of the sector count. -/
def ofSmart (request : Request) : Except Unmapped (SmartOperation × UInt8) :=
  let feature := request.registers.value .features
  let low := request.registers.value .lbaLow
  let count := request.registers.value .sectorCount
  if feature = SmartFeature.enable then .ok (enable, 0)
  else if feature = SmartFeature.readData then .ok (readValues, 0)
  else if feature = SmartFeature.readThresholds then .ok (readThresholds, 0)
  else if feature = SmartFeature.readLog then .ok (readLog, low)
  else if feature = SmartFeature.writeLog then .ok (writeLog, low)
  else if feature = SmartFeature.disable then .ok (disable, 0)
  else if feature = SmartFeature.returnStatus then
    .ok (if request.wanted .lbaHigh then statusCheck else status, 0)
  else if feature = SmartFeature.autoOffline then .ok (autoOffline, count)
  else if feature = SmartFeature.autosave then .ok (autosave, count)
  else if feature = SmartFeature.immediateOffline then .ok (immediateOffline, low)
  else .error .feature

/-- The operation that a request stands for. -/
def ofRequest (request : Request) : Except Unmapped (SmartOperation × UInt8) :=
  let command := request.registers.value .command
  if command = Opcode.identify then .ok (identify, 0)
  else if command = Opcode.identifyPacket then .ok (identifyPacket, 0)
  else if command = Opcode.checkPowerMode then .ok (checkPowerMode, 0)
  else if command = Opcode.smart then ofSmart request
  else .error .command

/-- An operation to be executed, with the sector it transfers, if it transfers one. -/
structure Query where
  operation : SmartOperation
  select : UInt8
  data : Bytes

/-- How an operation went, and the data as it was left. -/
structure Answer where
  result : Except Failure Health
  data : Bytes

/-- A strategy for getting something done with operations of the table. -/
abbrev Session := Dialogue Query fun _ => Answer

def support : Support := { dataOut := true, outputRegisters := true }

/-- The address bytes by which SMART RETURN STATUS tells the health of a drive. -/
def signature : Health → UInt8 × UInt8
  | .passed => (healthyMid, healthyHigh)
  | .thresholdExceeded => (failingMid, failingHigh)

/-- The output registers after an operation that succeeded. The power mode is the first byte
of the data, and a health verdict is written the way the drive would write it. -/
def reported (operation : SmartOperation) (health : Health) (data : Bytes)
    (registers : RegisterFile OutputRegister) : RegisterFile OutputRegister :=
  match operation with
  | checkPowerMode => registers.set .sectorCount (data.byte 0)
  | statusCheck =>
      registers.setAll [(.lbaMid, (signature health).1), (.lbaHigh, (signature health).2)]
  | _ => registers

/-- Executes a request by the one operation it stands for. CHECK POWER MODE works on a sector of
its own, every other operation on the part of the buffer to be transferred. -/
def perform (request : Request) (registers : RegisterFile OutputRegister) :
    Session Ata.Answer := do
  match request.check support none with
  | .error failure => return request.refused registers failure
  | .ok () =>
    match ofRequest request with
    | .error unmapped =>
        return request.refused registers ⟨.unsupported, unmapped.message⟩
    | .ok (operation, select) =>
      let data ← if operation = .checkPowerMode then pure (Bytes.zeros sectorSize)
        else request.transferred
      let answer ← Dialogue.query ⟨operation, select, data⟩
      let buffer := if operation = .checkPowerMode then request.buffer
        else request.bufferAfter answer.data
      match answer.result with
      | .error failure => return ⟨.error failure, registers, buffer⟩
      | .ok health => return ⟨.ok (), reported operation health answer.data registers, buffer⟩

/-- Keeps the failure of a request. A request that succeeds also forgets an older failure. -/
def settle (result : Except Failure Unit) (profile : Profile) : Profile :=
  match result with
  | .ok () => profile.forget
  | .error failure => profile.record failure

end SmartOperation

end DriveBridge.Ata
