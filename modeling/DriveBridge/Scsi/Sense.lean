import DriveBridge.Bytes

/-! Sense data, in which a SCSI device explains how a command ended. It comes in a fixed format
and in a descriptor format, either of which may arrive cut short, so every reader here is a
function of all byte strings. -/
namespace DriveBridge.Sense

/-- The status byte of a command that ended with sense data. -/
def checkCondition : UInt8 := 0x02

/-- Sense keys, the coarse reason that a device gives. -/
inductive Key where
  | noSense | recoveredError | notReady | mediumError | hardwareError | illegalRequest
  | unitAttention | dataProtect | blankCheck | vendorSpecific | copyAborted | abortedCommand
  | reserved | volumeOverflow | miscompare | completed
  deriving DecidableEq, Repr

/-- The key that the low four bits of a byte stand for. -/
def Key.ofByte (byte : UInt8) : Key :=
  match (byte &&& 0xf).toNat with
  | 0x0 => .noSense
  | 0x1 => .recoveredError
  | 0x2 => .notReady
  | 0x3 => .mediumError
  | 0x4 => .hardwareError
  | 0x5 => .illegalRequest
  | 0x6 => .unitAttention
  | 0x7 => .dataProtect
  | 0x8 => .blankCheck
  | 0x9 => .vendorSpecific
  | 0xa => .copyAborted
  | 0xb => .abortedCommand
  | 0xc => .reserved
  | 0xd => .volumeOverflow
  | 0xe => .miscompare
  | _ => .completed

/-- Additional sense code of a device that is not ready. -/
def ascNotReady : UInt8 := 0x04
/-- Additional sense code of an unknown operation code. -/
def ascUnknownOpcode : UInt8 := 0x20
/-- Additional sense code of a field that the device does not take. -/
def ascInvalidField : UInt8 := 0x24
/-- Additional sense code of a drive without a medium. -/
def ascNoMedium : UInt8 := 0x3a
/-- The qualifier that, with code 0, says that ATA registers came along. -/
def ascqAtaRegisters : UInt8 := 0x1d

/-- The fields that both formats share. What was cut off reads as 0. -/
structure Header where
  responseCode : UInt8
  senseKey : UInt8
  asc : UInt8
  ascq : UInt8
  additionalLength : UInt8
  deriving DecidableEq, Repr

def Header.isDescriptor (header : Header) : Bool := 0x72 ≤ header.responseCode

/-- The part of fixed format sense data that its own length byte covers. -/
def fixedExtent (sense : Bytes) : Bytes := sense.take ((sense.byte 7).toNat + 8)

/-- Reads the header. There is none where the data is empty or its first byte is that of
another format. -/
def header? (sense : Bytes) : Option Header :=
  match sense with
  | [] => none
  | first :: _ =>
      if first &&& 0x70 = 0x70 then
        let code := first &&& 0x7f
        if 0x72 ≤ code then
          some ⟨code, sense.byte 1 &&& 0xf, sense.byte 2, sense.byte 3, sense.byte 7⟩
        else
          let extent := fixedExtent sense
          some ⟨code, sense.byte 2 &&& 0xf, extent.byte 12, extent.byte 13, 0⟩
      else none

/-- The bytes in which descriptor format sense data keeps its descriptors. -/
def descriptors (sense : Bytes) : Bytes := (sense.drop 8).take (sense.byte 7).toNat

/-- Walks a list of descriptors, each a type byte, a length byte and that many bytes, to the
first of a given type. The last one may be cut short, down to its type byte. -/
def findDescriptor? (type : UInt8) : Bytes → Option Bytes
  | [] => none
  | [last] => if last = type then some [last] else none
  | kind :: count :: rest =>
      if kind = type then some (kind :: count :: rest.take count.toNat)
      else findDescriptor? type (rest.drop count.toNat)
  termination_by region => region.length
  decreasing_by
    simp only [List.length_cons, List.length_drop]
    omega

/-- The first descriptor of a type, with its two header bytes. Only current and deferred
descriptor format sense data has descriptors. -/
def descriptor? (sense : Bytes) (type : UInt8) : Option Bytes :=
  if 8 ≤ sense.length ∧ 0x72 ≤ sense.byte 0 ∧ sense.byte 0 ≤ 0x73 then
    findDescriptor? type (descriptors sense)
  else none

/-- What the verdict on a command goes by. -/
structure Summary where
  responseCode : UInt8 := 0
  senseKey : UInt8 := 0
  asc : UInt8 := 0
  ascq : UInt8 := 0
  deriving DecidableEq, Repr

/-- Sums up a completion. All is 0 unless the status announces sense data. Fixed format codes
are read as far as the data reaches, whatever its length byte says. -/
def summary (status : UInt8) (sense : Bytes) : Summary :=
  if status ≠ checkCondition ∨ sense = [] then {}
  else
    let code := sense.byte 0 &&& 0x7f
    if 0x72 ≤ code then
      if 3 < sense.length then
        ⟨code, sense.byte 1 &&& 0xf, sense.byte 2, sense.byte 3⟩
      else { responseCode := code }
    else if 0x70 ≤ code ∧ 2 < sense.length then
      if 13 < sense.length then
        ⟨code, sense.byte 2 &&& 0xf, sense.byte 12, sense.byte 13⟩
      else { responseCode := code, senseKey := sense.byte 2 &&& 0xf }
    else { responseCode := code }

/-- The classes that a summary falls into. -/
inductive Verdict where
  | noError | notReady | badOpcode | badField | badParam | badResponse | noMedium
  | becomingReady | tryAgain | mediumHardware | unknown | abortedCommand | protection
  | miscompare
  deriving DecidableEq, Repr

namespace Verdict

def isError (verdict : Verdict) : Bool := verdict != .noError

def text : Verdict → String
  | noError => "no error"
  | notReady => "device not ready"
  | badOpcode => "unsupported scsi opcode"
  | badField => "unsupported field in scsi command"
  | badParam => "badly formed scsi parameters"
  | badResponse => "scsi response fails sanity test"
  | noMedium => "no medium present"
  | becomingReady => "device will be ready soon"
  | tryAgain => "unit attention reported, try again"
  | mediumHardware => "medium or hardware error (serious)"
  | unknown => "unknown error (unexpected sense key)"
  | abortedCommand => "aborted command"
  | protection => "data protection error"
  | miscompare => "miscompare"

end Verdict

/-- The class of a summary. The key decides, except that a device that is not ready and a
refused request are told apart by their codes. -/
def Summary.verdict (summary : Summary) : Verdict :=
  match Key.ofByte summary.senseKey with
  | .noSense | .recoveredError | .completed => .noError
  | .notReady =>
      if summary.asc = ascNoMedium then .noMedium
      else if summary.asc = ascNotReady ∧ summary.ascq = 1 then .becomingReady
      else .notReady
  | .mediumError | .hardwareError => .mediumHardware
  | .illegalRequest =>
      if summary.asc = ascUnknownOpcode then .badOpcode
      else if summary.asc = ascInvalidField then .badField
      else .badParam
  | .unitAttention => .tryAgain
  | .abortedCommand => .abortedCommand
  | .dataProtect => .protection
  | .miscompare => .miscompare
  | .blankCheck | .vendorSpecific | .copyAborted | .reserved | .volumeOverflow => .unknown

end DriveBridge.Sense
