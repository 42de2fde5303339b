import DriveBridge.Ata.Register
import DriveBridge.Scsi.Command

/-! An ATA request, and the check that every translator makes before it sends anything: that
the request does not contradict itself, and that the translator can carry it. -/
namespace DriveBridge.Ata

def sectorSize : Nat := 512

namespace Opcode

def readLogExt : UInt8 := 0x2f
def writeLogExt : UInt8 := 0x3f
def identifyPacket : UInt8 := 0xa1
def smart : UInt8 := 0xb0
def checkPowerMode : UInt8 := 0xe5
def identify : UInt8 := 0xec

end Opcode

namespace SmartFeature

/-- The features register tells the SMART commands apart. This value reads the attributes. -/
def readData : UInt8 := 0xd0
def readThresholds : UInt8 := 0xd1
def autosave : UInt8 := 0xd2
def immediateOffline : UInt8 := 0xd4
def readLog : UInt8 := 0xd5
def writeLog : UInt8 := 0xd6
def enable : UInt8 := 0xd8
def disable : UInt8 := 0xd9
def returnStatus : UInt8 := 0xda
def autoOffline : UInt8 := 0xdb

end SmartFeature

/-- The middle and high address byte that a SMART command carries, and that SMART RETURN STATUS
gives back while the drive is in good health. -/
def healthyMid : UInt8 := 0x4f
/-- See `healthyMid`. -/
def healthyHigh : UInt8 := 0xc2
/-- The middle and high address byte that say that a threshold was exceeded. -/
def failingMid : UInt8 := 0xf4
/-- See `failingMid`. -/
def failingHigh : UInt8 := 0x2c

inductive Direction where
  | noData | dataIn | dataOut
  deriving DecidableEq, Repr

/-- A request. The first `size` bytes of the buffer are transferred. -/
structure Request where
  registers : RegisterFile InputRegister := {}
  /-- The registers that the caller wants back. -/
  wanted : OutputRegister → Bool := fun _ => false
  direction : Direction := .noData
  buffer : Option Bytes := none
  size : Nat := 0

/-- What a translator is able to carry. -/
structure Support where
  dataOut : Bool := false
  /-- Of the output registers only those of SMART RETURN STATUS come back. -/
  smartStatus : Bool := false
  outputRegisters : Bool := false
  multiSector : Bool := false
  /-- 48-bit commands whose previous bytes are all 0. -/
  extendedZero : Bool := false
  extended : Bool := false

/-- Why a request is turned down. -/
inductive Refusal where
  | sizeWithoutData (size : Nat)
  | bufferMissing
  | countMismatch (count size : Nat)
  | bufferShort (length size : Nat)
  | dataOut
  | outputRegisters
  | multiSector
  | extended
  | extendedNonzero
  deriving DecidableEq, Repr

namespace Refusal

def cause : Refusal → Cause
  | sizeWithoutData _ | bufferMissing | countMismatch _ _ | bufferShort _ _ => .malformed
  | dataOut | outputRegisters | multiSector | extended | extendedNonzero => .unsupported

def message : Refusal → String
  | sizeWithoutData size => s!"Buffer size {size} > 0 for NO DATA command"
  | bufferMissing => "Buffer not set for DATA IN/OUT command"
  | countMismatch count size => s!"Sector count {count} does not match buffer size {size}"
  | bufferShort length size => s!"Buffer length {length} smaller than transfer size {size}"
  | dataOut => "DATA OUT ATA commands not implemented"
  | outputRegisters => "Read of ATA output registers not implemented"
  | multiSector => "Multi-sector ATA commands not implemented"
  | extended => "48-bit ATA commands not implemented"
  | extendedNonzero => "48-bit ATA commands not fully implemented"

/-- The failure of a refused request. Only what the translator lacks is marked with its tag. -/
def failure (tag : Option String) (refusal : Refusal) : Failure :=
  match refusal.cause, tag with
  | .unsupported, some tag => ⟨.unsupported, refusal.message ++ " [" ++ tag ++ "]"⟩
  | cause, _ => ⟨cause, refusal.message⟩

end Refusal

namespace Request

/-- Prepares the transfer of `count` sectors by a 28-bit command. -/
def setData (request : Request) (direction : Direction) (buffer : Bytes) (count : UInt8) :
    Request :=
  { request with
    registers := request.registers.set .sectorCount count
    direction := direction
    size := count.toNat * sectorSize
    buffer := some buffer }

/-- Prepares the transfer of `count` sectors to the host by a 48-bit command. -/
def setDataInExtended (request : Request) (buffer : Bytes) (count : UInt16) : Request :=
  { request with
    registers := request.registers.setWide .sectorCount count
    direction := .dataIn
    size := count.toNat * sectorSize
    buffer := some buffer }

def isSmartStatus (request : Request) : Bool :=
  request.registers.value .command == Opcode.smart &&
    request.registers.value .features == SmartFeature.returnStatus

def wantsRegisters (request : Request) : Bool := OutputRegister.all.any request.wanted

/-- The sector count that a data command is checked against. The previous byte weighs 65536. -/
def sectorCount (request : Request) : Nat :=
  (request.registers.previousValue .sectorCount).toNat * 65536 +
    (request.registers.value .sectorCount).toNat

/-- The contradiction in a request, if there is one. The first that applies is named. -/
def contradiction? (request : Request) : Option Refusal :=
  match request.direction with
  | .noData => if request.size = 0 then none else some (.sizeWithoutData request.size)
  | .dataIn | .dataOut =>
      match request.buffer with
      | none => some .bufferMissing
      | some buffer =>
          if request.sectorCount * sectorSize ≠ request.size then
            some (.countMismatch request.sectorCount request.size)
          else if buffer.length < request.size then
            some (.bufferShort buffer.length request.size)
          else none

/-- What a translator would need to carry a request, if it lacks something. The first thing
that it lacks is named. -/
def lacking? (request : Request) (support : Support) : Option Refusal :=
  if request.direction = .dataOut ∧ !support.dataOut then some .dataOut
  else if request.wantsRegisters ∧ !support.outputRegisters ∧
      !(request.isSmartStatus && support.smartStatus) then some .outputRegisters
  else if request.size ≠ 0 ∧ request.size ≠ sectorSize ∧ !support.multiSector then
    some .multiSector
  else if request.registers.isExtended ∧ !(support.extendedZero || support.extended) then
    some .extended
  else if request.registers.needsExtended ∧ !support.extended then some .extendedNonzero
  else none

def refusal? (request : Request) (support : Support) : Option Refusal :=
  match request.contradiction? with
  | some refusal => some refusal
  | none => request.lacking? support

/-- Checks a request. Nothing is sent. -/
def check (request : Request) (support : Support) (tag : Option String) :
    Except Failure Unit :=
  match request.refusal? support with
  | some refusal => .error (refusal.failure tag)
  | none => .ok ()

/-- The bytes to be transferred. The check has promised that the buffer reaches that far. -/
def transferred (request : Request) {Query : Type} {Answer : Query → Type} :
    Dialogue Query Answer Bytes :=
  match request.buffer with
  | none => return []
  | some buffer => Dialogue.demand (Checked.cut buffer request.size)

/-- The buffer after a transfer: the bytes that came back, then what lay past them. -/
def bufferAfter (request : Request) (data : Bytes) : Option Bytes :=
  request.buffer.map (Bytes.overlay data)

/-- The buffer with the bytes to be transferred cleared, where the device was to fill them. -/
def bufferCleared (request : Request) : Option Bytes :=
  match request.direction with
  | .dataIn => request.bufferAfter (Bytes.zeros request.size)
  | .noData | .dataOut => request.buffer

/-- Clears the bytes to be transferred, where the device was to fill them. -/
def clear (request : Request) {Query : Type} {Answer : Query → Type} :
    Dialogue Query Answer (Option Bytes) := do
  match request.direction with
  | .dataIn =>
      let data ← request.transferred
      return request.bufferAfter (Bytes.zeros data.length)
  | .noData | .dataOut => return request.buffer

/-- The direction and buffer of the SCSI command that carries the data of a request. A buffer
that the device is to fill is cleared first. -/
def transfer (request : Request) {Query : Type} {Answer : Query → Type} :
    Dialogue Query Answer (Scsi.Direction × Bytes) := do
  match request.direction with
  | .noData => return (.none, [])
  | .dataIn =>
      let data ← request.transferred
      return (.fromDevice, Bytes.zeros data.length)
  | .dataOut =>
      let data ← request.transferred
      return (.toDevice, data)

end Request

/-- How a request went: the result, the output registers and the buffer, each as the caller
finds it afterwards. -/
structure Answer where
  result : Except Failure Unit
  registers : RegisterFile OutputRegister
  buffer : Option Bytes

/-- A request to be executed, with the output registers that it may write. -/
structure Query where
  request : Request
  registers : RegisterFile OutputRegister := {}

/-- A strategy for getting something done with ATA commands. -/
abbrev Session := Dialogue Query fun _ => Answer

def send (request : Request) : Session Answer := Dialogue.query { request }

namespace Request

/-- A request that ends before anything was transferred. -/
def refused (request : Request) (registers : RegisterFile OutputRegister)
    (failure : Failure) : Answer :=
  ⟨.error failure, registers, request.buffer⟩

end Request

end DriveBridge.Ata
