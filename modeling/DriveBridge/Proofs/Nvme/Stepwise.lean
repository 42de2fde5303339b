import DriveBridge.Nvme.Bridge.Asmedia
import DriveBridge.Nvme.Bridge.JMicron
import DriveBridge.Nvme.Bridge.Realtek
import DriveBridge.Proofs.Scsi.Keeper

/-! The translators from NVMe step by step. A request that a bridge cannot encode, a command that
fails and a response block that tells of a failure are kept where they are found. To the caller this
is the same as keeping the failure of the answer at its end. -/
namespace DriveBridge.Nvme

open Scsi (Keeper Keeps keeps_pure keeps_fail keeps_lift keeps_sendChecked keeps_get_bind
  keeps_ite_rest)
open Scsi.Keeper (fail lift)

/-- Refuses a request. -/
def refuse (request : Request) (completion : Completion) (failure : Failure) : Keeper Answer :=
  fail failure (request.refused completion failure)

namespace Asmedia.Stepwise

/-- Executes a request by one command that reads. -/
def perform (request : Request) (completion : Completion) : Keeper Answer := do
  match check request with
  | .error failure => refuse request completion failure
  | .ok () =>
    match request.transferred? with
    | none => refuse request completion bufferFailure
    | some data =>
      let answer ← Keeper.sendChecked "SntAsmedia::nvme_pass_through: "
        { cdb := cdb request, direction := .fromDevice, data := Bytes.zeros data.length }
      return ⟨answer.result, completion, request.bufferAfter answer.completion.data⟩

end Asmedia.Stepwise

namespace JMicron.Stepwise

/-- Reads the response block and concludes from it. -/
def respond (buffer : Option Bytes) (completion : Completion) : Keeper Answer := do
  let reply ← Keeper.sendChecked "SntJmicron::nvme_pass_through:Reply: "
    { cdb := cdb .response blockLength, direction := .fromDevice,
      data := Bytes.zeros blockLength }
  match reply.result with
  | .error failure => return ⟨.error failure, completion, buffer⟩
  | .ok () =>
      let block := reply.completion.data
      let found := Text.hex 8 (block.le32At 0).toNat
      let result := Text.hex 8 (block.le32At 8).toNat
      let status := Text.hex 8 (block.le32At 20).toNat
      lift (Dialogue.log .trace
        s!"JMicron reply: signature 0x{found}, dw0 0x{result}, dw3 0x{status}")
      match ← lift (Dialogue.demand (concluded block completion)) with
      | (.error failure, completion) => fail failure ⟨.error failure, completion, buffer⟩
      | (.ok (), completion) => return ⟨.ok (), completion, buffer⟩

/-- The three phases of a request whose data is at hand. -/
def exchange (request : Request) (data : Bytes) (buffer : Option Bytes)
    (completion : Completion) : Keeper Answer := do
  let sent ← Keeper.sendChecked "SntJmicron::nvme_pass_through:NVM: "
    { cdb := cdb .command blockLength, direction := .toDevice, data := commandBlock request }
  match sent.result with
  | .error failure => return ⟨.error failure, completion, buffer⟩
  | .ok () =>
    let moved ← Keeper.sendChecked "SntJmicron::nvme_pass_through:Data: "
      (dataCommand request.direction data)
    let buffer := buffer.map (Bytes.overlay moved.completion.data)
    match moved.result with
    | .error failure => return ⟨.error failure, completion, buffer⟩
    | .ok () => respond buffer completion

/-- Executes a request. -/
def perform (request : Request) (completion : Completion) : Keeper Answer := do
  if request.direction = .bidirectional then
    refuse request completion ⟨.malformed,
      "SntJmicron::nvme_pass_through: bidirectional transfers not supported"⟩
  else
    let label := (← get).label
    lift (Dialogue.logAll (if isClamped request then [clamping label] else []))
    match request.direction, request.transferred? with
    | .noData, _ => exchange request [] request.buffer completion
    | _, none => refuse request completion bufferFailure
    | .dataIn, some data =>
        let cleared := Bytes.zeros data.length
        let sent ← lift (Dialogue.demand (Checked.cut cleared (transferLength request)))
        exchange request sent (request.bufferAfter cleared) completion
    | _, some data =>
        let sent ← lift (Dialogue.demand (Checked.cut data (transferLength request)))
        exchange request sent request.buffer completion

end JMicron.Stepwise

namespace Realtek.Stepwise

/-- Executes a request by one command that reads. -/
def perform (request : Request) (completion : Completion) : Keeper Answer := do
  match check request with
  | .error failure => refuse request completion failure
  | .ok () =>
    match request.transferred? with
    | none => refuse request completion bufferFailure
    | some data =>
      let length := transferLength request data.length
      let cleared := Bytes.zeros data.length
      let buffer := request.bufferAfter cleared
      if length < data.length then
        let entry ← lift (Dialogue.demand (truncation data.length))
        lift (Dialogue.log entry.level entry.text)
      if length < 65536 then
        let sent ← lift (Dialogue.demand (Checked.cut cleared length))
        let answer ← Keeper.sendChecked "SntRealtek::nvme_pass_through: "
          { cdb := cdb request length, direction := .fromDevice, data := sent }
        return ⟨answer.result, completion, buffer.map (Bytes.overlay answer.completion.data)⟩
      else
        let size := Text.hex 1 length
        let failure : Failure :=
          ⟨.malformed, s!"NVMe transfer size 0x{size} too large for Realtek bridge"⟩
        fail failure ⟨.error failure, completion, buffer⟩

end Realtek.Stepwise

section Keeps

variable {profile : Profile} {request : Request} {completion : Completion}

/-- What a profile keeps of a request in the end. -/
abbrev settled (profile : Profile) (answer : Answer) : Profile := profile.settle answer.result

theorem keeps_refuse {failure : Failure} :
    Keeps profile (refuse request completion failure) (pure (request.refused completion failure))
      (settled profile) := keeps_fail rfl

theorem Asmedia.keeps_perform :
    Keeps profile (Stepwise.perform request completion) (perform request completion)
      (settled profile) := by
  unfold Stepwise.perform perform
  cases check request with
  | error failure => exact keeps_refuse
  | ok _ =>
      dsimp only
      cases request.transferred? with
      | none => exact keeps_refuse
      | some data => exact (keeps_sendChecked _ _).bind fun answer => keeps_pure rfl

namespace JMicron

theorem keeps_respond (buffer : Option Bytes) :
    Keeps profile (Stepwise.respond buffer completion) (respond buffer completion)
      (settled profile) := by
  refine (keeps_sendChecked _ _).bind fun reply => ?_
  cases reply.result with
  | error failure => exact keeps_pure rfl
  | ok _ =>
      refine (keeps_lift _).bind fun _ => (keeps_lift _).bind fun conclusion => ?_
      obtain ⟨result, completion⟩ := conclusion
      cases result with
      | error failure => exact keeps_fail rfl
      | ok _ => exact keeps_pure rfl

theorem keeps_exchange (data : Bytes) (buffer : Option Bytes) :
    Keeps profile (Stepwise.exchange request data buffer completion)
      (exchange request data buffer completion) (settled profile) := by
  refine (keeps_sendChecked _ _).bind fun sent => ?_
  cases sent.result with
  | error failure => exact keeps_pure rfl
  | ok _ =>
      refine (keeps_sendChecked _ _).bind fun moved => ?_
      dsimp only
      cases moved.result with
      | error failure => exact keeps_pure rfl
      | ok _ => exact keeps_respond _

theorem keeps_perform :
    Keeps profile (Stepwise.perform request completion)
      (perform profile.label request completion) (settled profile) := by
  unfold Stepwise.perform perform
  split
  · exact keeps_refuse
  · refine keeps_get_bind ((keeps_lift _).bind fun _ => ?_)
    cases request.direction with
    | noData => exact keeps_exchange _ _
    | dataIn | dataOut | bidirectional =>
        cases request.transferred? with
        | none => exact keeps_refuse
        | some data => exact (keeps_lift _).bind fun sent => keeps_exchange sent _

end JMicron

theorem Realtek.keeps_perform :
    Keeps profile (Stepwise.perform request completion) (perform request completion)
      (settled profile) := by
  unfold Stepwise.perform perform
  cases check request with
  | error failure => exact keeps_refuse
  | ok _ =>
      dsimp only
      cases request.transferred? with
      | none => exact keeps_refuse
      | some data =>
          refine keeps_ite_rest (fun keeps => ?_) ?_
          · exact (keeps_lift _).bind fun entry => (keeps_lift _).bind fun _ => keeps
          · split
            · refine (keeps_lift _).bind fun sent => ?_
              exact (keeps_sendChecked _ _).bind fun answer => keeps_pure rfl
            · exact keeps_fail rfl

end Keeps

end DriveBridge.Nvme
