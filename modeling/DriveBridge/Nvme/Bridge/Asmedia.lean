import DriveBridge.Nvme.Request

/-! Bridges whose CDB has room for parts of the tenth dword and for the twelfth and thirteenth. -/
namespace DriveBridge.Nvme.Asmedia

/-- The CDB of a request. -/
def cdb (request : Request) : Bytes :=
  [0xe6, request.opcode, 0, request.cdw10.toUInt8, 0, 0, (request.cdw10 >>> 24).toUInt8,
    (request.cdw10 >>> 16).toUInt8] ++ Bytes.be32 request.cdw13 ++ Bytes.be32 request.cdw12

/-- Checks what the bridge cannot encode. -/
def check (request : Request) : Except Failure Unit := do
  narrow request
  if request.cdw11 ≠ 0 ∨ request.cdw14 ≠ 0 ∨ request.cdw15 ≠ 0 then
    .error ⟨.unsupported, "Nonzero NVMe command dwords 11, 14, or 15 not supported"⟩

/-- Executes a request by one command that reads. -/
def perform (request : Request) (completion : Completion) : Scsi.Session Answer := do
  match check request with
  | .error failure => return request.refused completion failure
  | .ok () =>
    match request.transferred? with
    | none => return request.refused completion bufferFailure
    | some data =>
      let answer ← Scsi.sendChecked "SntAsmedia::nvme_pass_through: "
        { cdb := cdb request, direction := .fromDevice, data := Bytes.zeros data.length }
      return ⟨answer.result, completion, request.bufferAfter answer.completion.data⟩

end DriveBridge.Nvme.Asmedia
