import DriveBridge.Ata.Request
import DriveBridge.Text.Hex

/-! SAT, the standard way to reach an ATA drive through a SCSI device. The registers of a request
travel in the CDB of ATA PASS-THROUGH, which is 12 or 16 bytes long, and the resulting registers
come back in sense data: in the ATA Return descriptor, or in fixed format sense data. -/
namespace DriveBridge.Ata.Sat

/-- The ATA PASS-THROUGH command in use. The short one has no room for previous registers. -/
inductive Length where
  | short | long
  deriving DecidableEq, Repr

def Length.bytes : Length → Nat
  | .short => 12
  | .long => 16

/-- The long command carries every request. What the short one lacks is checked apart. -/
def support : Support :=
  { dataOut := true, outputRegisters := true, multiSector := true, extended := true }

/-- The protocol field: no data, data in and data out by programmed transfer. -/
def protocol : Direction → UInt8
  | .noData => 3
  | .dataIn => 4
  | .dataOut => 5

/-- The second and third byte of the CDB: protocol and 48-bit flag, then the flags that ask for
sense data, give the direction, and say that the sector count counts blocks. -/
def transferBytes (request : Request) : Bytes :=
  let extend : UInt8 := if request.registers.isExtended then 1 else 0
  let wantSense : UInt8 := if request.wantsRegisters then 0x20 else 0
  let flags : UInt8 := match request.direction with
    | .noData => 0x0c
    | .dataIn => 0x0e
    | .dataOut => 0x06
  [protocol request.direction <<< 1 ||| extend, wantSense ||| flags]

/-- The CDB of a request. -/
def cdb (length : Length) (request : Request) : Bytes :=
  let now := request.registers.value
  let before := request.registers.previousValue
  match length with
  | .short =>
      [0xa1] ++ transferBytes request ++
        [now .features, now .sectorCount, now .lbaLow, now .lbaMid, now .lbaHigh,
          now .device, now .command, 0, 0]
  | .long =>
      [0x85] ++ transferBytes request ++
        [before .features, now .features, before .sectorCount, now .sectorCount,
          before .lbaLow, now .lbaLow, before .lbaMid, now .lbaMid,
          before .lbaHigh, now .lbaHigh, now .device, now .command, 0]

theorem length_cdb (length : Length) (request : Request) :
    (cdb length request).length = length.bytes := by
  cases length <;> rfl

/-- Descriptor type of the ATA Return descriptor. -/
def returnDescriptorType : UInt8 := 0x09

/-- An ATA Return descriptor. `raw` has zeros where the sense data ended early; `extent` is the
length that the descriptor declares, between 12 and 14. -/
structure ReturnDescriptor where
  raw : Bytes
  length_raw : raw.length = 14
  extent : Nat
  extent_le : extent ≤ 14

namespace ReturnDescriptor

/-- The first ATA Return descriptor of sense data. -/
def ofSense? (sense : Bytes) : Option ReturnDescriptor :=
  (Sense.descriptor? sense returnDescriptorType).map fun found =>
    let raw := Bytes.overlay found (Bytes.zeros 14)
    { raw
      length_raw := by simp [raw]
      extent := min (max ((raw.byte 1).toNat + 2) 12) 14
      extent_le := Nat.min_le_right _ _ }

/-- Reads the first ATA Return descriptor. -/
def read (sense : Bytes) : Checked (Option ReturnDescriptor) := do
  match ← Sense.readDescriptor sense returnDescriptorType with
  | none => return none
  | some found =>
      let raw ← Checked.copy found (Bytes.zeros 14) (min found.length 14)
      let declared ← Checked.index raw.1 1
      let length ← Checked.add declared.toNat 2
      return some {
        raw := raw.1
        length_raw := by simpa using raw.2
        extent := min (max length 12) 14
        extent_le := Nat.min_le_right _ _ }

/-- The status byte says that the drive is ready and saw no error. -/
def isReady (descriptor : ReturnDescriptor) : Bool :=
  13 < descriptor.extent && descriptor.raw.byte 13 &&& 0xc1 == 0x40

/-- The registers that the descriptor holds. The previous ones count for 48-bit commands. -/
def registers (descriptor : ReturnDescriptor) (extended : Bool)
    (file : RegisterFile OutputRegister) : RegisterFile OutputRegister :=
  let byte := descriptor.raw.byte
  let file := file.setAll
    [(.error, byte 3), (.sectorCount, byte 5), (.lbaLow, byte 7), (.lbaMid, byte 9),
      (.lbaHigh, byte 11), (.device, byte 12), (.status, byte 13)]
  if extended then
    file.setAllPrevious
      [(.sectorCount, byte 4), (.lbaLow, byte 6), (.lbaMid, byte 8), (.lbaHigh, byte 10)]
  else file

def note (descriptor : ReturnDescriptor) (level : Level) : Note :=
  let values := Text.hexList (descriptor.raw.take descriptor.extent)
  ⟨level, s!"Values from ATA Return Descriptor are: {values}"⟩

end ReturnDescriptor

/-- The registers of a fixed format sense buffer. Of the previous ones it tells at most that
they are 0, by two flags that are clear. -/
def fixedRegisters (area : Bytes) (extended : Bool) (file : RegisterFile OutputRegister) :
    RegisterFile OutputRegister :=
  let byte := area.byte
  let file := file.setAll
    [(.error, byte 3), (.status, byte 4), (.device, byte 5), (.sectorCount, byte 6),
      (.lbaLow, byte 9), (.lbaMid, byte 10), (.lbaHigh, byte 11)]
  if extended && byte 8 &&& 0x60 == 0 then
    file.setAllPrevious [(.sectorCount, 0), (.lbaLow, 0), (.lbaMid, 0), (.lbaHigh, 0)]
  else file

/-- What the sense data of a completed command amounts to. -/
structure Ruling where
  result : Except Failure Unit
  registers : RegisterFile OutputRegister
  /-- The data that arrived is not to be trusted. -/
  discard : Bool := false
  notes : List Note := []

/-- Sense data that nobody asked for. It fails the command; what it says about the registers
is logged. -/
def unasked (header : Sense.Header) (found : Option ReturnDescriptor) (area : Bytes)
    (registers : RegisterFile OutputRegister) : Ruling :=
  let key := Sense.Key.ofByte header.senseKey
  let harmless := (key == .noSense || key == .recoveredError) && header.asc == 0 &&
    header.ascq == Sense.ascqAtaRegisters
  let notes : List Note := match harmless, found with
    | true, some descriptor => [descriptor.note .debug]
    | true, none =>
        if header.isDescriptor then []
        else
          let error := Text.hex 1 (area.byte 3).toNat
          let status := Text.hex 1 (area.byte 4).toNat
          let device := Text.hex 1 (area.byte 5).toNat
          let count := Text.hex 1 (area.byte 6).toNat
          [⟨.debug, "Values from ATA fixed format sense are: " ++
            s!"error 0x{error}, status 0x{status}, device 0x{device}, count 0x{count}"⟩]
    | false, _ => []
  { result := .error ⟨.transfer, "SAT command failed"⟩, registers, notes }

/-- The registers that come back with sense data that was asked for. -/
def answered (request : Request) (header : Sense.Header) (found : Option ReturnDescriptor)
    (area : Bytes) (registers : RegisterFile OutputRegister) : Ruling :=
  let extended := request.registers.isExtended
  match found with
  | some descriptor =>
      { result := .ok ()
        registers := descriptor.registers extended registers
        notes := [descriptor.note .trace] }
  | none =>
      if !header.isDescriptor && header.asc == 0 && header.ascq == Sense.ascqAtaRegisters &&
          area.byte 4 != 0 then
        { result := .ok (), registers := fixedRegisters area extended registers }
      else { result := .ok (), registers }

/-- Rules on a completed command by what its sense data says. A status byte of the drive that
reports success outweighs a sense key that reports an error. -/
def weigh (request : Request) (header : Sense.Header) (found : Option ReturnDescriptor)
    (verdict : Sense.Verdict) (area : Bytes) (registers : RegisterFile OutputRegister) : Ruling :=
  let overruled := match found with
    | some descriptor => verdict.isError && request.wantsRegisters && descriptor.isReady
    | none => false
  if verdict.isError && !overruled then
    let text := verdict.text
    { result := .error ⟨.transfer, s!"scsi error {text}"⟩
      registers
      discard := true
      notes := ⟨.debug, s!"SAT: scsi error: {text}"⟩ ::
        (found.map fun descriptor => descriptor.note .trace).toList }
  else
    let ruling :=
      if request.wantsRegisters then answered request header found area registers
      else unasked header found area registers
    match overruled, found with
    | true, some descriptor =>
        let status := Text.hex 2 (descriptor.raw.byte 13).toNat
        let note : Note := ⟨.debug,
          s!"ATA status (0x{status}) indicates success, ignoring SCSI sense_key"⟩
        { ruling with notes := note :: ruling.notes }
    | _, _ => ruling

/-- What a completed command amounts to. Without readable sense data it succeeded. -/
def rule (request : Request) (completion : Scsi.Completion)
    (registers : RegisterFile OutputRegister) : Ruling :=
  let sense := completion.senseData
  match Sense.header? sense with
  | none => { result := .ok (), registers }
  | some header =>
    let found := if header.isDescriptor then ReturnDescriptor.ofSense? sense else none
    weigh request header found completion.verdict completion.sense.raw registers

/-- Reads the sense data of a completed command and rules on it. -/
def readRuling (request : Request) (completion : Scsi.Completion)
    (registers : RegisterFile OutputRegister) : Checked Ruling := do
  let sense ← completion.readSense
  match ← Sense.readHeader sense with
  | none => return { result := .ok (), registers }
  | some header =>
    let found ← if header.isDescriptor then ReturnDescriptor.read sense else pure none
    let verdict ← completion.readVerdict
    return weigh request header found verdict completion.sense.raw registers

/-- Concludes a request whose command was completed. Data that is not to be trusted is cleared. -/
def conclude (request : Request) (completion : Scsi.Completion)
    (registers : RegisterFile OutputRegister) : Scsi.Session Answer := do
  let ruling ← Dialogue.demand (readRuling request completion registers)
  Dialogue.logAll ruling.notes
  let left := { request with buffer := request.bufferAfter completion.data }
  let buffer ← if ruling.discard then left.clear else pure left.buffer
  return ⟨ruling.result, ruling.registers, buffer⟩

/-- Executes a request by one ATA PASS-THROUGH command. -/
def perform (length : Length) (timeout : UInt32) (request : Request)
    (registers : RegisterFile OutputRegister) : Scsi.Session Answer := do
  match request.check support (some "SAT") with
  | .error failure => return request.refused registers failure
  | .ok () =>
    if request.registers.isExtended && length == .short then
      return request.refused registers
        ⟨.unsupported, "48-bit ATA commands require SAT ATA PASS-THROUGH (16)"⟩
    else
      let (direction, data) ← request.transfer
      let answer ← Scsi.send { cdb := cdb length request, direction, data, timeout }
      match answer.result with
      | .error failure =>
          let code := failure.cause.code
          let message := failure.message
          Dialogue.log .debug s!"SAT: scsi_pass_through() failed, errno={code} [{message}]"
          return ⟨.error failure, registers, request.bufferAfter answer.completion.data⟩
      | .ok () => conclude request answer.completion registers

end DriveBridge.Ata.Sat
