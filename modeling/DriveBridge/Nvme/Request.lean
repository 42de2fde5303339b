import DriveBridge.Scsi.Command
import DriveBridge.Text.Hex

/-! NVMe admin commands: the request, the completion, and the part of the request that every
bridge looks at. -/
namespace DriveBridge.Nvme

/-- The namespace id that stands for all namespaces of a controller. -/
def broadcast : UInt32 := 0xffffffff

/-- Bytes of the Identify Controller data. -/
def identifyLength : Nat := 4096

namespace Opcode

def getLogPage : UInt8 := 0x02
def identify : UInt8 := 0x06

end Opcode

/-- What Identify is asked for, as the value of its tenth dword. -/
def identifyNamespace : UInt32 := 0
/-- See `identifyNamespace`. -/
def identifyController : UInt32 := 1

/-- The log page of the device self-test. -/
def selfTestLog : UInt8 := 0x06

inductive Direction where
  | noData | dataOut | dataIn | bidirectional
  deriving DecidableEq, Repr

/-- The direction that the two low bits of an operation code tell. -/
def Direction.ofOpcode (opcode : UInt8) : Direction :=
  match (opcode &&& 3).toNat with
  | 0 => .noData
  | 1 => .dataOut
  | 2 => .dataIn
  | _ => .bidirectional

/-- A request. The first `size` bytes of the buffer are transferred. -/
structure Request where
  opcode : UInt8 := 0
  nsid : UInt32 := 0
  cdw10 : UInt32 := 0
  cdw11 : UInt32 := 0
  cdw12 : UInt32 := 0
  cdw13 : UInt32 := 0
  cdw14 : UInt32 := 0
  cdw15 : UInt32 := 0
  buffer : Option Bytes := none
  size : Nat := 0

/-- What a controller reports: a result dword, and the status where it is not 0. -/
structure Completion where
  result : UInt32 := 0
  status : UInt16 := 0
  statusValid : Bool := false
  deriving DecidableEq, Repr

namespace Request

def direction (request : Request) : Direction := .ofOpcode request.opcode

/-- Prepares a command that reads into a whole buffer. There is none where the operation code
does not read. -/
def setDataIn? (request : Request) (opcode : UInt8) (buffer : Bytes) : Option Request :=
  if Direction.ofOpcode opcode = .dataIn then
    some { request with opcode, size := buffer.length, buffer := some buffer }
  else none

/-- The bytes to be transferred, if the buffer is there and reaches that far. -/
def transferred? (request : Request) : Option Bytes :=
  match request.buffer with
  | some buffer => if request.size ≤ buffer.length then some (buffer.take request.size) else none
  | none => none

/-- The buffer after a transfer: the bytes that came back, then what lay past them. -/
def bufferAfter (request : Request) (data : Bytes) : Option Bytes :=
  request.buffer.map (Bytes.overlay data)

end Request

/-- A failure that carries a completion status. The status 0 is no failure. -/
def statusFailure? (status : UInt16) (lead : String) (completion : Completion) :
    Option (Failure × Completion) :=
  if status = 0 then none
  else
    let number := Text.hex 2 status.toNat
    some (⟨.transfer, lead ++ s!"NVMe Status 0x{number}"⟩,
      { completion with status, statusValid := true })

/-- How a request went, with the completion and the buffer as the caller finds them. -/
structure Answer where
  result : Except Failure Unit
  completion : Completion
  buffer : Option Bytes

namespace Request

/-- A request that ends before anything was transferred. -/
def refused (request : Request) (completion : Completion) (failure : Failure) : Answer :=
  ⟨.error failure, completion, request.buffer⟩

end Request

/-- The data phase lacks a buffer, or it is too short. -/
def bufferFailure : Failure := ⟨.malformed, "NVMe data buffer missing or too short"⟩

/-- The admin commands that fit through the narrow bridges: Identify of the controller and of
the first namespace, and log pages of the controller. -/
def narrow (request : Request) : Except Failure Unit :=
  if request.opcode = Opcode.identify then
    if request.cdw10 = identifyController then .ok ()
    else if request.cdw10 = identifyNamespace then
      if request.nsid = 1 then .ok ()
      else
        let nsid := Text.hex 1 request.nsid.toNat
        .error ⟨.unsupported, s!"NVMe Identify Namespace 0x{nsid} not supported"⟩
    else
      let dword := Text.hex 8 request.cdw10.toNat
      .error ⟨.unsupported, s!"NVMe Identify with CDW10=0x{dword} not supported"⟩
  else if request.opcode = Opcode.getLogPage then
    if request.nsid = broadcast ∨ request.nsid = 0 then .ok ()
    else
      let nsid := Text.hex 1 request.nsid.toNat
      .error ⟨.unsupported, s!"NVMe Get Log Page with NSID=0x{nsid} not supported"⟩
  else
    let opcode := Text.hex 2 request.opcode.toNat
    .error ⟨.unsupported, s!"NVMe admin command 0x{opcode} not supported"⟩

end DriveBridge.Nvme
