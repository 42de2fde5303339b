import DriveBridge.Nvme.Request

/-! Bridges that take a command in three exchanges, each shaped like ATA PASS-THROUGH (12): a
command block goes out, the data phase follows, and a response block comes back. -/
namespace DriveBridge.Nvme.JMicron

/-- First dword of a command block and of a response block. -/
def signature : UInt32 := 0x454d564e

/-- Bytes of a command block and of a response block. -/
def blockLength : Nat := 512

/-- The largest part of the self-test log that the bridge transfers. More would hang it. -/
def selfTestLimit : Nat := 0x218

inductive Phase where
  | command | nonData | dataIn | dataOut | response
  deriving DecidableEq, Repr

def Phase.code : Phase → UInt8
  | .command => 0x0
  | .nonData => 0x1
  | .dataIn => 0x2
  | .dataOut => 0x3
  | .response => 0xf

/-- The CDB of a phase, which announces the length of its transfer in 24 bits. -/
def cdb (phase : Phase) (length : Nat) : Bytes :=
  [0xa1, 0x80 ||| phase.code, 0] ++ Bytes.be24 length.toUInt32 ++ Bytes.zeros 6

/-- The request reads more of the self-test log than the bridge can transfer. -/
def isClamped (request : Request) : Bool :=
  request.opcode == Opcode.getLogPage && request.cdw10.toUInt8 == selfTestLog &&
    selfTestLimit < request.size

/-- Bytes of the data phase. -/
def transferLength (request : Request) : Nat :=
  if isClamped request then selfTestLimit else request.size

/-- The tenth dword as it is sent. Its upper half counts dwords, less one, and is made to fit a
clamped transfer. -/
def sentCdw10 (request : Request) : UInt32 :=
  let count : UInt32 := (selfTestLimit / 4 - 1).toUInt32
  if isClamped request then request.cdw10 &&& (0xffff : UInt32) ||| count <<< 16
  else request.cdw10

/-- The command block of a request. -/
def commandBlock (request : Request) : Bytes :=
  Bytes.le32 signature ++ Bytes.zeros 4 ++ Bytes.le32 request.opcode.toUInt32 ++
    Bytes.le32 request.nsid ++ Bytes.zeros 32 ++ Bytes.le32 (sentCdw10 request) ++
    Bytes.le32 request.cdw11 ++ Bytes.le32 request.cdw12 ++ Bytes.le32 request.cdw13 ++
    Bytes.le32 request.cdw14 ++ Bytes.le32 request.cdw15 ++ Bytes.zeros 440

theorem length_commandBlock (request : Request) :
    (commandBlock request).length = blockLength := by
  simp [commandBlock, blockLength, Bytes.le32]

/-- The status field of the third completion dword. -/
def statusOf (dword : UInt32) : UInt16 := (dword >>> 17).toUInt16

/-- What a response block says about a request. A status that is not 0 has a failure. -/
def concluded (block : Bytes) (completion : Completion) :
    Checked (Except Failure Unit × Completion) :=
  let status := statusOf (block.le32At 20)
  if block.le32At 0 ≠ signature then
    return (.error ⟨.transfer, "Out of spec JMicron NVMe reply"⟩, completion)
  else if 0 < status then do
    let (failure, completion) ← statusFailure? status "" completion
    return (.error failure, completion)
  else return (.ok (), { completion with result := block.le32At 8 })

/-- The command of the data phase. -/
def dataCommand (direction : Direction) (data : Bytes) : Scsi.Command :=
  match direction with
  | .dataIn => { cdb := cdb .dataIn data.length, direction := .fromDevice, data }
  | .dataOut => { cdb := cdb .dataOut data.length, direction := .toDevice, data }
  | .noData | .bidirectional => { cdb := cdb .nonData 0 }

/-- Reads the response block and concludes from it. -/
def respond (buffer : Option Bytes) (completion : Completion) : Scsi.Session Answer := do
  let reply ← Scsi.sendChecked "SntJmicron::nvme_pass_through:Reply: "
    { cdb := cdb .response blockLength, direction := .fromDevice,
      data := Bytes.zeros blockLength }
  match reply.result with
  | .error failure => return ⟨.error failure, completion, buffer⟩
  | .ok () =>
      let block := reply.completion.data
      let found := Text.hex 8 (block.le32At 0).toNat
      let result := Text.hex 8 (block.le32At 8).toNat
      let status := Text.hex 8 (block.le32At 20).toNat
      Dialogue.log .trace
        s!"JMicron reply: signature 0x{found}, dw0 0x{result}, dw3 0x{status}"
      let conclusion ← Dialogue.demand (concluded block completion)
      return ⟨conclusion.1, conclusion.2, buffer⟩

/-- The three phases of a request whose data is at hand. -/
def exchange (request : Request) (data : Bytes) (buffer : Option Bytes)
    (completion : Completion) : Scsi.Session Answer := do
  let sent ← Scsi.sendChecked "SntJmicron::nvme_pass_through:NVM: "
    { cdb := cdb .command blockLength, direction := .toDevice, data := commandBlock request }
  match sent.result with
  | .error failure => return ⟨.error failure, completion, buffer⟩
  | .ok () =>
    let moved ← Scsi.sendChecked "SntJmicron::nvme_pass_through:Data: "
      (dataCommand request.direction data)
    let buffer := buffer.map (Bytes.overlay moved.completion.data)
    match moved.result with
    | .error failure => return ⟨.error failure, completion, buffer⟩
    | .ok () => respond buffer completion

def clamping (label : String) : Note :=
  let limit := Text.hex 3 selfTestLimit
  ⟨.warn, s!"{label}: NVMe self-test log truncated to 0x{limit} bytes"⟩

/-- Executes a request. A buffer that the device is to fill is cleared as far as the request
goes, also past a clamp. -/
def perform (label : String) (request : Request) (completion : Completion) :
    Scsi.Session Answer := do
  if request.direction = .bidirectional then
    return request.refused completion ⟨.malformed,
      "SntJmicron::nvme_pass_through: bidirectional transfers not supported"⟩
  else
    Dialogue.logAll (if isClamped request then [clamping label] else [])
    match request.direction, request.transferred? with
    | .noData, _ => exchange request [] request.buffer completion
    | _, none => return request.refused completion bufferFailure
    | .dataIn, some data =>
        let cleared := Bytes.zeros data.length
        let sent ← Dialogue.demand (Checked.cut cleared (transferLength request))
        exchange request sent (request.bufferAfter cleared) completion
    | _, some data =>
        let sent ← Dialogue.demand (Checked.cut data (transferLength request))
        exchange request sent request.buffer completion

end DriveBridge.Nvme.JMicron
