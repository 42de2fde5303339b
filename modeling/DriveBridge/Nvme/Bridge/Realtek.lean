import DriveBridge.Nvme.Request

/-! Bridges whose CDB has room for the low byte of the tenth dword only. -/
namespace DriveBridge.Nvme.Realtek

/-- The largest part of a log page that the bridge transfers correctly. -/
def logLimit : Nat := 0x200

/-- Bytes to be transferred of a buffer. What a log page has beyond the limit stays 0. -/
def transferLength (request : Request) (length : Nat) : Nat :=
  if request.opcode = Opcode.getLogPage ∧ logLimit < length then logLimit else length

/-- The CDB of a request. -/
def cdb (request : Request) (length : Nat) : Bytes :=
  [0xe4] ++ Bytes.le16 length.toUInt16 ++ [request.opcode, request.cdw10.toUInt8] ++
    Bytes.zeros 11

/-- Checks what the bridge cannot encode. -/
def check (request : Request) : Except Failure Unit := do
  narrow request
  if request.cdw11 ≠ 0 ∨ request.cdw12 ≠ 0 ∨ request.cdw13 ≠ 0 ∨ request.cdw14 ≠ 0 ∨
      request.cdw15 ≠ 0 then
    .error ⟨.unsupported, "Nonzero NVMe command dwords 11-15 not supported"⟩

/-- Says how much of a log page is not transferred. -/
def truncation (length : Nat) : Checked Note := do
  let rest ← Checked.sub length logLimit
  let kept := Text.hex 3 logLimit
  let cleared := Text.hex 3 rest
  return ⟨.warn, s!"NVMe Get Log truncated to 0x{kept} bytes, 0x{cleared} bytes zero filled"⟩

/-- Executes a request by one command that reads. The buffer is cleared before the length turns
out to be too much for the CDB. -/
def perform (request : Request) (completion : Completion) : Scsi.Session Answer := do
  match check request with
  | .error failure => return request.refused completion failure
  | .ok () =>
    match request.transferred? with
    | none => return request.refused completion bufferFailure
    | some data =>
      let length := transferLength request data.length
      let cleared := Bytes.zeros data.length
      let buffer := request.bufferAfter cleared
      if length < data.length then
        let entry ← Dialogue.demand (truncation data.length)
        Dialogue.log entry.level entry.text
      if length < 65536 then
        let sent ← Dialogue.demand (Checked.cut cleared length)
        let answer ← Scsi.sendChecked "SntRealtek::nvme_pass_through: "
          { cdb := cdb request length, direction := .fromDevice, data := sent }
        return ⟨answer.result, completion, buffer.map (Bytes.overlay answer.completion.data)⟩
      else
        let size := Text.hex 1 length
        return ⟨.error ⟨.malformed,
          s!"NVMe transfer size 0x{size} too large for Realtek bridge"⟩, completion, buffer⟩

end DriveBridge.Nvme.Realtek
