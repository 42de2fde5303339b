import DriveBridge.Chain.Device
import DriveBridge.Proofs.Ata.Stepwise
import DriveBridge.Proofs.Nvme.Stepwise

/-! Devices step by step. A device keeps what its translator keeps, in the moment it does. What
opening and closing the device below brings is kept as well, also where it is closed because
something failed: the failure is kept after that, and again on every device that it passes. To the
caller this is the same as keeping the failure of each call at its end. -/
namespace DriveBridge.Chain

open Scsi (Keeper Keeps)

namespace SatLayer.Stepwise

/-- Asks the device below who it is. -/
def probe (layer : SatLayer) (inner : ScsiDevice) : Wire (SatLayer × ScsiDevice) := do
  let ((result, inquiry), inner) ← inner.serve (Scsi.inquiry (Bytes.zeros 36))
  match result with
  | .error failure =>
      let (closed, inner) ← inner.disconnect
      let layer := { layer with profile := layer.profile.settle closed }
      let failure : Failure := ⟨failure.cause, "INQUIRY [SAT]: " ++ failure.message⟩
      return ({ layer with profile := layer.profile.record failure }, inner)
  | .ok () =>
      let sat := isSat inquiry
      let path := layer.profile.names.path
      let finding := if sat then "SAT layer detected" else "no SAT layer, using SCSI"
      Dialogue.log .info s!"{path}: {finding}"
      return (layer.decided inner.profile sat, inner)

/-- Opens the device, and probes what is behind it where the mode asks for that. -/
def autodetect (layer : SatLayer) (inner : ScsiDevice) : Wire (SatLayer × ScsiDevice) := do
  let (result, inner) ← inner.connect
  let layer := { layer with profile := layer.profile.settle result }
  match result with
  | .error _ => return (layer, inner)
  | .ok () => if layer.mode = .auto then probe layer inner else return (layer, inner)

end SatLayer.Stepwise

namespace BridgeLayer.Stepwise

/-- Executes a request in the encoding of the bridge. -/
def perform (layer : BridgeLayer) (query : Ata.Query) : Keeper Ata.Answer :=
  match layer.encoding with
  | .cypress signature =>
      Ata.Cypress.Stepwise.perform signature query.request query.registers
  | .jmicron setup => Ata.JMicron.Stepwise.perform setup query.request query.registers
  | .prolific => Ata.Prolific.Stepwise.perform query.request query.registers
  | .sunplus => Ata.Sunplus.Stepwise.perform query.request query.registers

/-- Reads registers of a two-port bridge into a buffer. -/
def readRegisters (layer : BridgeLayer) (setup : Ata.JMicron.Setup) (inner : ScsiDevice)
    (address : UInt16) (buffer : Bytes) :
    Wire ((Except Failure Unit × Bytes) × BridgeLayer × ScsiDevice) := do
  let ((read, profile), inner) ← inner.serve
    ((Ata.JMicron.Stepwise.readRegisters setup.trailer address buffer).run layer.profile)
  return (read, { layer with profile }, inner)

/-- Reads the task file of a two-port bridge. -/
def readTaskFile (layer : BridgeLayer) (setup : Ata.JMicron.Setup) (inner : ScsiDevice)
    (registers : Ata.RegisterFile Ata.OutputRegister) :
    Wire ((Except Failure Unit × Ata.RegisterFile Ata.OutputRegister) ×
      BridgeLayer × ScsiDevice) := do
  let ((read, profile), inner) ← inner.serve
    ((Ata.JMicron.Stepwise.readTaskFile setup registers).run layer.profile)
  return (read, { layer with profile }, inner)

/-- Closes the device below because of a failure. -/
def giveUp (layer : BridgeLayer) (inner : ScsiDevice) (failure : Failure) :
    Wire (Except Failure Unit × BridgeLayer × ScsiDevice) := do
  let (closed, inner) ← inner.disconnect
  let layer := { layer with profile := layer.profile.settle closed }
  return (.error failure, layer.record failure, inner)

/-- Finds out the port of an open bridge where it is not known. -/
def findPort (layer : BridgeLayer) (setup : Ata.JMicron.Setup) (inner : ScsiDevice) :
    Wire (Except Failure Unit × BridgeLayer × ScsiDevice) := do
  if setup.port.isSome then return (.ok (), layer, inner)
  else
    let ((read, status), layer, inner) ←
      readRegisters layer setup inner Ata.JMicron.portStatusAddress [0]
    match read with
    | .error failure => giveUp layer inner failure
    | .ok () =>
      match Ata.JMicron.detected (status.byte 0) with
      | .error failure => giveUp layer inner failure
      | .ok port =>
          let label := layer.profile.label
          let name := port.name
          Dialogue.log .info s!"{label}: device found on JMicron port {name}"
          let encoding : Encoding := .jmicron { setup with port := some port }
          return (.ok (), { layer with encoding }, inner)

/-- Opens the device below, and makes the bridge ready for commands. -/
def connect (layer : BridgeLayer) (inner : ScsiDevice) :
    Wire (Except Failure Unit × BridgeLayer × ScsiDevice) := do
  let (opened, inner) ← inner.connect
  let layer := { layer with profile := layer.profile.settle opened }
  match opened, layer.encoding with
  | .error failure, _ => return (.error failure, layer, inner)
  | .ok (), .jmicron setup => findPort layer setup inner
  | .ok (), _ => return (.ok (), layer, inner)

end BridgeLayer.Stepwise

namespace AtaDevice.Stepwise

/-- Executes a request by way of the device below. -/
def perform : AtaDevice → Ata.Query → Wire (Ata.Answer × AtaDevice)
  | sat layer inner, query => do
      let ((answer, profile), inner) ← inner.serve
        ((Ata.Sat.Stepwise.perform layer.length query.request query.registers).run layer.profile)
      return (answer, sat { layer with profile } inner)
  | bridge layer inner, query => do
      let ((answer, profile), inner) ← inner.serve
        ((BridgeLayer.Stepwise.perform layer query).run layer.profile)
      return (answer, bridge { layer with profile } inner)
  | routed layer inner, query => do
      let (answer, inner) ← perform inner query
      return (answer, routed { layer with profile := layer.profile.settle answer.result } inner)

/-- Ends with a failure, which is kept on the device. -/
def fail (device : AtaDevice) (failure : Failure) : Wire (Except Failure Unit × AtaDevice) :=
  return (.error failure, device.mapProfile (·.record failure))

/-- Reads the page of a multiplexer behind the device. -/
def readPage (device : AtaDevice) : Wire (Except Failure Multiplexer.Page × AtaDevice) := do
  let (answer, device) ← perform device { request := Multiplexer.readRequest }
  match answer.result with
  | .error failure => return (.error failure, device)
  | .ok () => return (.ok (.ofBytes (answer.buffer.getD [])), device)

/-- Writes a page and makes sure that it has taken effect. -/
def writePage (device : AtaDevice) (page : Multiplexer.Page) :
    Wire (Except Failure Unit × AtaDevice) := do
  let (written, device) ← perform device { request := Multiplexer.writeRequest page }
  match written.result with
  | .error failure => fail device (Multiplexer.stepFailed "Write Log" failure)
  | .ok () =>
    let (read, device) ← readPage device
    match read with
    | .error failure => fail device (Multiplexer.stepFailed "Secondary Read Log" failure)
    | .ok check =>
        if check.driveSelect = page.driveSelect then return (.ok (), device)
        else fail device (Multiplexer.wrongDrive check.driveSelect page.driveSelect)

/-- Has a multiplexer behind the device route a drive. -/
def route (device : AtaDevice) (drive : UInt32) : Wire (Except Failure Unit × AtaDevice) := do
  let (read, device) ← readPage device
  match read with
  | .error failure => fail device (Multiplexer.stepFailed "Initial Read Log" failure)
  | .ok page =>
    if !page.crcOk then
      let residue := Text.hex 4 page.residue.toNat
      Dialogue.log .warn s!"intelliprop: received log crc(0x{residue}) is invalid"
    let number := Text.hex 8 drive.toNat
    Dialogue.log .debug s!"intelliprop: change to port 0x{number}"
    let next := Multiplexer.revised page drive
    if next.crcOk then writePage device next
    else
      let residue := Text.hexCapital 4 next.residue.toNat
      fail device
        ⟨.transfer, s!"intelliprop: Re-calculated log crc(0x{residue}) is invalid!"⟩

/-- Opens a device. A drive behind a multiplexer is routed on the way. -/
def connect : AtaDevice → Wire (Except Failure Unit × AtaDevice)
  | sat layer inner => do
      let (result, inner) ← inner.connect
      return (result, sat { layer with profile := layer.profile.settle result } inner)
  | bridge layer inner => do
      let (result, layer, inner) ← BridgeLayer.Stepwise.connect layer inner
      return (result, bridge layer inner)
  | routed layer inner => do
      let (opened, inner) ← connect inner
      let layer := { layer with profile := layer.profile.settle opened }
      match opened with
      | .error failure => return (.error failure, routed layer inner)
      | .ok () =>
        let (result, inner) ← route inner layer.drive
        match result with
        | .ok () => return (.ok (), routed layer inner)
        | .error failure =>
            -- What closing reports is kept, and then written over.
            let (closed, inner) ← inner.disconnect
            let layer := { layer with profile := layer.profile.settle closed }
            return (.error failure, routed (layer.record failure) inner)

end AtaDevice.Stepwise

namespace NvmeVendor.Stepwise

/-- Executes a request in the encoding of the bridge. -/
def perform (vendor : NvmeVendor) (request : Nvme.Request) (completion : Nvme.Completion) :
    Keeper Nvme.Answer :=
  match vendor with
  | asmedia => Nvme.Asmedia.Stepwise.perform request completion
  | jmicron => Nvme.JMicron.Stepwise.perform request completion
  | realtek => Nvme.Realtek.Stepwise.perform request completion

end NvmeVendor.Stepwise

namespace NvmeDevice.Stepwise

/-- Executes a request in the encoding of the bridge. -/
def perform (device : NvmeDevice) (request : Nvme.Request) (completion : Nvme.Completion) :
    Wire (Nvme.Answer × NvmeDevice) := do
  let ((answer, profile), inner) ←
    ((NvmeVendor.Stepwise.perform device.vendor request completion).run device.profile).through
      Slot.scsiAnswer device.inner
  return (answer, { device with inner, profile })

end NvmeDevice.Stepwise

section Equal

namespace SatLayer

variable (layer : SatLayer) (inner : ScsiDevice)

theorem stepwise_probe : Stepwise.probe layer inner = layer.probe inner := by
  refine bind_congr fun asked => ?_
  obtain ⟨⟨result, inquiry⟩, inner⟩ := asked
  cases result with
  | error failure =>
      refine bind_congr fun closed => ?_
      dsimp only
      rw [Profile.record_settle]
  | ok _ => rfl

theorem stepwise_autodetect : Stepwise.autodetect layer inner = layer.autodetect inner := by
  refine bind_congr fun opened => ?_
  obtain ⟨result, inner⟩ := opened
  cases result with
  | error failure => rfl
  | ok _ =>
      dsimp only
      rw [stepwise_probe]

end SatLayer

namespace BridgeLayer

variable (layer : BridgeLayer) (inner : ScsiDevice)

theorem keeps_perform (query : Ata.Query) :
    Keeps layer.profile (Stepwise.perform layer query) (layer.perform query)
      fun answer => (layer.settle answer.result).profile := by
  unfold Stepwise.perform perform settle
  cases layer.encoding with
  | cypress signature => exact Ata.Cypress.keeps_perform signature
  | jmicron setup => exact Ata.JMicron.keeps_perform setup
  | prolific => exact Ata.Prolific.keeps_perform
  | sunplus => exact Ata.Sunplus.keeps_perform

theorem settle_eq (result : Except Failure Unit) :
    { layer with profile := (layer.settle result).profile } = layer.settle result := by
  unfold settle
  split <;> rfl

theorem stepwise_readRegisters (setup : Ata.JMicron.Setup) (address : UInt16) (buffer : Bytes) :
    Stepwise.readRegisters layer setup inner address buffer =
      layer.readRegisters setup inner address buffer := by
  unfold Stepwise.readRegisters readRegisters ScsiDevice.serve
  rw [(Ata.JMicron.keeps_readRegisters _ _ _).through, Dialogue.bind_eq, Dialogue.bind_assoc]
  rfl

theorem stepwise_readTaskFile (setup : Ata.JMicron.Setup)
    (registers : Ata.RegisterFile Ata.OutputRegister) :
    Stepwise.readTaskFile layer setup inner registers =
      layer.readTaskFile setup inner registers := by
  unfold Stepwise.readTaskFile readTaskFile ScsiDevice.serve
  rw [(Ata.JMicron.keeps_readTaskFile _).through, Dialogue.bind_eq, Dialogue.bind_assoc]
  rfl

theorem giveUp_eq (failure : Failure) :
    Stepwise.giveUp layer inner failure = inner.disconnect.bind fun closed =>
      .done (.error failure, layer.record failure, closed.2) := by
  refine bind_congr fun closed => ?_
  unfold record
  dsimp only
  rw [Profile.record_settle]
  rfl

theorem stepwise_findPort (setup : Ata.JMicron.Setup) :
    Stepwise.findPort layer setup inner = layer.findPort setup inner := by
  unfold Stepwise.findPort findPort
  split
  · rfl
  · -- Both read the port status first. Here the layer has kept its failure before it gives up.
    rw [stepwise_readRegisters]
    unfold readRegisters ScsiDevice.serve Ata.JMicron.detectPort
    simp only [Dialogue.bind_eq, Dialogue.through_bind, Dialogue.bind_assoc]
    refine congrArg (Dialogue.bind _) (funext fun read => ?_)
    obtain ⟨⟨result, status⟩, inner⟩ := read
    cases result with
    | error failure => exact giveUp_eq _ inner failure
    | ok _ =>
        dsimp only [Dialogue.pure_eq, Dialogue.done_bind, Dialogue.through_done]
        cases Ata.JMicron.detected (status.byte 0) with
        | error failure => exact giveUp_eq _ inner failure
        | ok port => rfl

theorem stepwise_connect : Stepwise.connect layer inner = layer.connect inner := by
  refine bind_congr fun opened => ?_
  obtain ⟨result, inner⟩ := opened
  cases result with
  | error failure => rfl
  | ok _ =>
      obtain ⟨profile, encoding⟩ := layer
      cases encoding with
      | jmicron setup => exact stepwise_findPort _ inner setup
      | cypress _ | prolific | sunplus => rfl

end BridgeLayer

namespace AtaDevice

theorem stepwise_perform (device : AtaDevice) (query : Ata.Query) :
    Stepwise.perform device query = device.perform query := by
  induction device with
  | sat layer inner =>
      unfold Stepwise.perform perform ScsiDevice.serve
      rw [(Ata.Sat.keeps_perform _).through, Dialogue.bind_eq, Dialogue.bind_assoc]
      rfl
  | bridge layer inner =>
      unfold Stepwise.perform perform ScsiDevice.serve
      rw [(layer.keeps_perform query).through, Dialogue.bind_eq, Dialogue.bind_assoc]
      refine congrArg (Dialogue.bind _) (funext fun served => ?_)
      exact congrArg (fun layer => Dialogue.done (served.1, bridge layer served.2))
        (layer.settle_eq served.1.result)
  | routed layer inner ih =>
      unfold Stepwise.perform perform
      rw [ih]

theorem serve_bind {α β : Type} (device : AtaDevice) (session : Ata.Session α)
    (next : α → Ata.Session β) :
    device.serve (session >>= next) =
      (device.serve session).bind fun served => served.2.serve (next served.1) :=
  Dialogue.through_bind _ session next device

theorem stepwise_send (device : AtaDevice) (request : Ata.Request) :
    Stepwise.perform device { request } = device.serve (Ata.send request) :=
  (stepwise_perform device { request }).trans (Dialogue.bind_done _).symm

theorem stepwise_readPage (device : AtaDevice) :
    Stepwise.readPage device = device.serve Multiplexer.readPage := by
  unfold Stepwise.readPage Multiplexer.readPage
  rw [stepwise_send, serve_bind]
  refine bind_congr fun performed => ?_
  obtain ⟨answer, device⟩ := performed
  dsimp only
  cases answer.result with
  | error failure => rfl
  | ok _ => rfl

/-- The step does what the session does, and then keeps its failure on the device. -/
def Mirrors (device : AtaDevice) (step : Wire (Except Failure Unit × AtaDevice))
    (session : Ata.Session (Except Failure Unit)) : Prop :=
  step = (device.serve session).bind fun served =>
    .done (served.1, served.2.mapProfile (·.settle served.1))

section Mirrors

variable {device : AtaDevice} {step first : Wire (Except Failure Unit × AtaDevice)}
  {session first' : Ata.Session (Except Failure Unit)}

theorem mirrors_ok : Mirrors device (pure (.ok (), device)) (pure (.ok ())) := by
  cases device <;> rfl

theorem mirrors_fail (failure : Failure) :
    Mirrors device (Stepwise.fail device failure) (pure (.error failure)) := rfl

theorem Mirrors.log (mirrors : Mirrors device step session) (level : Level) (text : String) :
    Mirrors device (Dialogue.log level text >>= fun _ => step)
      (Dialogue.log level text >>= fun _ => session) :=
  congrArg (Dialogue.note ⟨level, text⟩) mirrors

theorem mirrors_ite_rest {c : Prop} [Decidable c]
    (h : Mirrors device step session → Mirrors device first first')
    (mirrors : Mirrors device step session) :
    Mirrors device (if c then first else step) (if c then first' else session) := by
  split
  · exact h mirrors
  · exact mirrors

theorem mirrors_bind {α : Type} {before : Wire (α × AtaDevice)} {before' : Ata.Session α}
    {next : α × AtaDevice → Wire (Except Failure Unit × AtaDevice)}
    {next' : α → Ata.Session (Except Failure Unit)} (same : before = device.serve before')
    (h : ∀ value device, Mirrors device (next (value, device)) (next' value)) :
    Mirrors device (before >>= next) (before' >>= next') := by
  unfold Mirrors
  rw [same, serve_bind, Dialogue.bind_assoc]
  exact bind_congr fun served => h served.1 served.2

theorem mirrors_writePage (page : Multiplexer.Page) :
    Mirrors device (Stepwise.writePage device page) (Multiplexer.writePage page) := by
  refine mirrors_bind (stepwise_send _ _) fun answer device => ?_
  dsimp only
  cases answer.result with
  | error failure => exact mirrors_fail _
  | ok _ =>
      refine mirrors_bind (stepwise_readPage _) fun result device => ?_
      cases result with
      | error failure => exact mirrors_fail _
      | ok check =>
          dsimp only
          split
          · exact mirrors_ok
          · exact mirrors_fail _

end Mirrors

theorem stepwise_route (device : AtaDevice) (drive : UInt32) :
    Stepwise.route device drive = device.route drive := by
  show Mirrors device (Stepwise.route device drive) (Multiplexer.route drive)
  refine mirrors_bind (stepwise_readPage _) fun result device => ?_
  cases result with
  | error failure => exact mirrors_fail _
  | ok page =>
      refine mirrors_ite_rest (fun mirrors => mirrors.log _ _) (Mirrors.log ?_ _ _)
      dsimp only
      split
      · exact mirrors_writePage _
      · exact mirrors_fail _

theorem stepwise_connect (device : AtaDevice) :
    Stepwise.connect device = device.connect := by
  induction device with
  | sat layer inner => rfl
  | bridge layer inner =>
      unfold Stepwise.connect connect
      rw [BridgeLayer.stepwise_connect]
  | routed layer inner ih =>
      unfold Stepwise.connect connect
      rw [ih]
      refine bind_congr fun opened => ?_
      obtain ⟨result, inner⟩ := opened
      cases result with
      | error failure => rfl
      | ok _ =>
          dsimp only
          rw [stepwise_route]
          refine bind_congr fun routed => ?_
          obtain ⟨result, inner⟩ := routed
          cases result with
          | ok _ => rfl
          | error failure =>
              refine bind_congr fun closed => ?_
              unfold RoutedLayer.record
              dsimp only
              rw [Profile.record_settle]
              rfl

end AtaDevice

theorem NvmeVendor.keeps_perform (vendor : NvmeVendor) {profile : Profile}
    (request : Nvme.Request) (completion : Nvme.Completion) :
    Keeps profile (NvmeVendor.Stepwise.perform vendor request completion)
      (vendor.perform profile.label request completion)
      fun answer => profile.settle answer.result := by
  cases vendor with
  | asmedia => exact Nvme.Asmedia.keeps_perform
  | jmicron => exact Nvme.JMicron.keeps_perform
  | realtek => exact Nvme.Realtek.keeps_perform

namespace NvmeDevice

variable (device : NvmeDevice)

theorem stepwise_perform (request : Nvme.Request) (completion : Nvme.Completion) :
    Stepwise.perform device request completion = device.perform request completion := by
  unfold Stepwise.perform perform
  rw [(device.vendor.keeps_perform request completion).through, Dialogue.bind_eq,
    Dialogue.bind_assoc]
  rfl

end NvmeDevice

end Equal

end DriveBridge.Chain
