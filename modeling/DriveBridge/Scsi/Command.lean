import DriveBridge.Dialogue
import DriveBridge.Profile
import DriveBridge.Scsi.SenseReader

/-! One SCSI command, what a transport may answer, and what is left for the caller to read. -/
namespace DriveBridge.Scsi

/-- Which way the transfer buffer goes. -/
inductive Direction where
  | none | fromDevice | toDevice
  deriving DecidableEq, Repr

/-- A command as it is handed to a device. The transfer length is the length of `data`. -/
structure Command where
  cdb : Bytes
  direction : Direction := .none
  data : Bytes := []
  timeout : UInt32 := defaultTimeout

/-- Bytes that a transport has for sense data. -/
def senseLength : Nat := 32

/-- The sense buffer of a command, and how many of its bytes the transport says it filled. -/
structure SenseArea where
  raw : Bytes
  length_raw : raw.length = senseLength
  filled : Nat

namespace SenseArea

/-- Sense bytes laid into an empty buffer, cut where the buffer ends. -/
def ofBytes (sense : Bytes) (filled : Nat) : SenseArea where
  raw := Bytes.overlay sense (Bytes.zeros senseLength)
  length_raw := by simp
  filled := filled

def empty : SenseArea := ofBytes [] 0

/-- The sense bytes that the device returned. -/
def returned (area : SenseArea) : Bytes := area.raw.take area.filled

end SenseArea

/-- What a transport delivers. A command that got an answer has succeeded as far as the
transport is concerned; the status and the sense data say how the device took it. -/
structure Reply where
  data : Bytes := []
  sense : SenseArea := .empty
  status : UInt8 := 0
  residual : Int32 := 0

/-- What the caller of a command finds afterwards. -/
structure Completion where
  data : Bytes
  sense : SenseArea
  status : UInt8
  residual : Int32

namespace Command

/-- The command as it was before anything came back. -/
def untouched (command : Command) : Completion := ⟨command.data, .empty, 0, 0⟩

/-- The command after a reply. Only a buffer that the device was to fill is written, as far as
the reply reaches, and it keeps its length. -/
def complete (command : Command) (reply : Reply) : Completion where
  data := match command.direction with
    | .fromDevice => Bytes.overlay reply.data command.data
    | .none | .toDevice => command.data
  sense := reply.sense
  status := reply.status
  residual := reply.residual

/-- The bytes that leave for the device. -/
def payload (command : Command) : Bytes :=
  match command.direction with
  | .toDevice => command.data
  | .none | .fromDevice => []

@[simp] theorem length_complete_data (command : Command) (reply : Reply) :
    (command.complete reply).data.length = command.data.length := by
  simp only [complete]
  split <;> simp

end Command

namespace Completion

/-- The sense bytes that the device returned. -/
def senseData (completion : Completion) : Bytes := completion.sense.returned

def verdict (completion : Completion) : Sense.Verdict :=
  (Sense.summary completion.status completion.senseData).verdict

/-- The command ended with sense data, and the data has a header. -/
def hasSense (completion : Completion) : Bool :=
  completion.status == Sense.checkCondition && (Sense.header? completion.senseData).isSome

/-- Reads the sense bytes that the device returned. The transport may claim more than it has
room for. -/
def readSense (completion : Completion) : Checked Bytes :=
  Checked.cut completion.sense.raw (min completion.sense.filled senseLength)

def readVerdict (completion : Completion) : Checked Sense.Verdict := do
  let sense ← completion.readSense
  let summary ← Sense.readSummary completion.status sense
  return summary.verdict

def readHasSense (completion : Completion) : Checked Bool :=
  if completion.status = Sense.checkCondition then do
    let sense ← completion.readSense
    let header ← Sense.readHeader sense
    return header.isSome
  else return false

end Completion

/-- A command for the device below. With a label the device applies its own time limit and
turns sense data that reports an error into a failure whose message begins with the label. -/
structure Query where
  command : Command
  label : Option String := none

/-- How a command went, and what is left of it in either case. -/
structure Answer where
  result : Except Failure Unit
  completion : Completion

/-- A strategy for getting something done with SCSI commands. -/
abbrev Session := Dialogue Query fun _ => Answer

/-- Sends a command and leaves its sense data to the caller. -/
def send (command : Command) : Session Answer := Dialogue.query ⟨command, none⟩

/-- Sends a command whose sense data the device below judges. -/
def sendChecked (label : String) (command : Command) : Session Answer :=
  Dialogue.query ⟨command, some label⟩

/-- Largest allocation length of a standard INQUIRY. -/
def inquiryLimit : Nat := 1023

/-- A standard INQUIRY for as many bytes as the buffer has. -/
def inquiryCommand (length : Nat) : Command where
  cdb := [0x12, 0, 0] ++ Bytes.be16 length.toUInt16 ++ [0]
  direction := .fromDevice
  data := Bytes.zeros length

/-- Reads the standard INQUIRY data into a buffer, which is cleared first. A buffer that is
too long is refused, with nothing sent or cleared. -/
def inquiry (buffer : Bytes) : Session (Except Failure Unit × Bytes) :=
  if inquiryLimit < buffer.length then
    let length := buffer.length
    return (.error ⟨.malformed, s!"INQUIRY allocation length {length} too large"⟩, buffer)
  else do
    let answer ← sendChecked "" (inquiryCommand buffer.length)
    return (answer.result, answer.completion.data)

end DriveBridge.Scsi
