import DriveBridge.Ata.Bridge.Cypress
import DriveBridge.Ata.Bridge.JMicron
import DriveBridge.Ata.Sat
import DriveBridge.Proofs.Ata.Acceptance
import DriveBridge.Proofs.Scsi.Plan
import DriveBridge.Proofs.Scsi.SenseReader

/-! What the translators send for a request that they accept. The request alone determines the
plan: the command that carries its data, and the commands around it. The translator that knows
a fixed table of operations carries out one of them instead. -/
namespace DriveBridge.Ata

/-- The direction as the device below is told it. -/
def Direction.toScsi : Direction → Scsi.Direction
  | noData => .none
  | dataIn => .fromDevice
  | dataOut => .toDevice

namespace Request

/-- The buffer that goes with the command of a request. One that is to be filled is cleared. -/
def carriage (request : Request) : Bytes :=
  match request.direction with
  | .noData => []
  | .dataIn => Bytes.zeros request.size
  | .dataOut => (request.buffer.getD []).take request.size

/-- The bytes that are transferred, written back where they were, change nothing. -/
theorem bufferAfter_take (request : Request) :
    request.bufferAfter ((request.buffer.getD []).take request.size) = request.buffer := by
  unfold bufferAfter
  cases request.buffer <;> simp

variable {request : Request} {count : Nat}

theorem Consistent.size_le (hConsistent : request.Consistent count) :
    request.size ≤ (request.buffer.getD []).length := by
  by_cases hNoData : request.direction = .noData
  · rw [hConsistent.noData hNoData]
    exact Nat.zero_le _
  · obtain ⟨buffer, hBuffer, hLength⟩ := hConsistent.buffer hNoData
    rw [hBuffer]
    exact hLength

theorem Consistent.length_carriage (hConsistent : request.Consistent count) :
    request.carriage.length = request.size := by
  unfold carriage
  cases hDirection : request.direction with
  | noData => exact (hConsistent.noData hDirection).symm
  | dataIn => exact Bytes.length_zeros _
  | dataOut => exact List.length_take_of_le hConsistent.size_le

variable {Query : Type} {Answer : Query → Type}

/-- A consistent request never asks for more than its buffer has. -/
theorem Consistent.transferred_eq (hConsistent : request.Consistent count) :
    (request.transferred : Dialogue Query Answer Bytes) =
      Dialogue.done ((request.buffer.getD []).take request.size) := by
  unfold transferred
  have hSize := hConsistent.size_le
  cases hBuffer : request.buffer with
  | none => simp [Dialogue.pure_eq]
  | some buffer =>
      rw [hBuffer] at hSize
      change request.size ≤ buffer.length at hSize
      simp [Checked.cut_of_le hSize]

theorem Consistent.transfer_eq (hConsistent : request.Consistent count) :
    (request.transfer : Dialogue Query Answer (Scsi.Direction × Bytes)) =
      Dialogue.done (request.direction.toScsi, request.carriage) := by
  unfold transfer carriage Direction.toScsi
  rw [hConsistent.transferred_eq]
  cases hDirection : request.direction with
  | noData | dataOut => rfl
  | dataIn =>
      obtain ⟨buffer, hBuffer, hLength⟩ := hConsistent.buffer (by simp [hDirection])
      simp [Dialogue.bind_eq, Dialogue.pure_eq, hBuffer, Nat.min_eq_left hLength]

theorem Consistent.clear_eq (hConsistent : request.Consistent count) :
    (request.clear : Dialogue Query Answer (Option Bytes)) =
      Dialogue.done request.bufferCleared := by
  unfold clear bufferCleared
  rw [hConsistent.transferred_eq]
  cases hDirection : request.direction with
  | noData | dataOut => rfl
  | dataIn =>
      obtain ⟨buffer, hBuffer, hLength⟩ := hConsistent.buffer (by simp [hDirection])
      simp [Dialogue.bind_eq, Dialogue.pure_eq, hBuffer, Nat.min_eq_left hLength]

/-- What came back has left the buffer as long as it was. -/
theorem Consistent.afterTransfer (hConsistent : request.Consistent count) (data : Bytes) :
    ({ request with buffer := request.bufferAfter data } : Request).Consistent count where
  noData := hConsistent.noData
  count := hConsistent.count
  buffer := by
    intro hDirection
    obtain ⟨buffer, hBuffer, hLength⟩ := hConsistent.buffer hDirection
    refine ⟨Bytes.overlay data buffer, ?_, ?_⟩
    · exact congrArg (Option.map (Bytes.overlay data)) hBuffer
    · rw [Bytes.length_overlay]
      exact hLength

end Request

/-- The commands of a request. The carrier is the one that the data goes with. -/
structure Plan where
  before : List Scsi.Command := []
  carrier : Scsi.Command
  after : List Scsi.Command := []

def Plan.commands (plan : Plan) : List Scsi.Command := plan.before ++ plan.carrier :: plan.after

theorem Plan.commands_ne_nil (plan : Plan) : plan.commands ≠ [] :=
  List.append_ne_nil_of_right_ne_nil _ (List.cons_ne_nil _ _)

variable {request : Request} {registers : RegisterFile OutputRegister} {answer : Answer}
  {exchanges : List Scsi.Exchange}

namespace Sat

variable {length : Length} {timeout : UInt32}

def command (length : Length) (timeout : UInt32) (request : Request) : Scsi.Command where
  cdb := cdb length request
  direction := request.direction.toScsi
  data := request.carriage
  timeout := timeout

/-- What is left of a request whose command the transport delivered. -/
def concluded (request : Request) (completion : Scsi.Completion)
    (registers : RegisterFile OutputRegister) : Answer :=
  let ruling := rule request completion registers
  let buffer := request.bufferAfter completion.data
  ⟨ruling.result, ruling.registers,
    if ruling.discard then { request with buffer }.bufferCleared else buffer⟩

theorem readDescriptor_eq (sense : Bytes) :
    ReturnDescriptor.read sense = some (ReturnDescriptor.ofSense? sense) := by
  unfold ReturnDescriptor.read ReturnDescriptor.ofSense?
  rw [Sense.readDescriptor_eq]
  cases Sense.descriptor? sense returnDescriptorType with
  | none => rfl
  | some found =>
      have hCopy : Checked.copy found (Bytes.zeros 14) (min found.length 14) = some _ :=
        Checked.copy_of_eq_min (by rw [Bytes.length_zeros])
      have hDeclared : 1 < (Bytes.overlay found (Bytes.zeros 14)).length := by simp
      have hByte := ((Bytes.overlay found (Bytes.zeros 14)).byte 1).toNat_lt
      have hSum : ((Bytes.overlay found (Bytes.zeros 14)).byte 1).toNat + 2 < Checked.sizeLimit := by
        unfold Checked.sizeLimit
        omega
      simp only [Option.bind_eq_bind, Option.bind_some, hCopy, Checked.index_of_lt hDeclared,
        Checked.add_of_lt hSum]
      rfl

theorem readRuling_eq (request : Request) (completion : Scsi.Completion)
    (registers : RegisterFile OutputRegister) :
    readRuling request completion registers = some (rule request completion registers) := by
  unfold readRuling rule
  simp only [completion.readSense_eq, completion.readVerdict_eq, Sense.readHeader_eq,
    Option.bind_eq_bind, Option.bind_some]
  cases Sense.header? completion.senseData with
  | none => rfl
  | some header => cases hDescriptor : header.isDescriptor <;> simp [hDescriptor, readDescriptor_eq]

theorem conclude_eq (hConsistent : request.Consistent request.sectorCount)
    (completion : Scsi.Completion) (registers : RegisterFile OutputRegister) :
    conclude request completion registers =
      (Dialogue.logAll (rule request completion registers).notes).bind fun _ =>
        .done (concluded request completion registers) := by
  have hAfter := hConsistent.afterTransfer completion.data
  unfold conclude concluded
  rw [readRuling_eq]
  cases hDiscard : (rule request completion registers).discard <;>
    simp [hDiscard, Dialogue.bind_eq, Dialogue.pure_eq, hAfter.clear_eq]

/-- A request that is accepted is one command. -/
theorem path_perform_iff (hChecked : request.check support (some "SAT") = .ok ())
    (hFits : request.registers.isExtended = true → length = .long) :
    Dialogue.Path (perform length timeout request registers) exchanges answer ↔
      ∃ reply, exchanges = [⟨⟨command length timeout request, none⟩, reply⟩] ∧
        answer = match reply.result with
          | .error failure =>
              ⟨.error failure, registers, request.bufferAfter reply.completion.data⟩
          | .ok () => concluded request reply.completion registers := by
  have hConsistent := ((request.check_eq_ok_iff _ _).mp hChecked).1
  have hLong : (request.registers.isExtended && length == .short) = false := by
    cases hExtended : request.registers.isExtended with
    | false => rfl
    | true => rw [hFits hExtended]; rfl
  unfold perform
  rw [hChecked]
  simp only [hLong, hConsistent.transfer_eq, Scsi.send, Dialogue.query, Dialogue.bind_eq,
    Dialogue.done_bind, Dialogue.ask_bind, Dialogue.path_ask_iff, Bool.false_eq_true, if_false]
  constructor
  · intro hPath
    obtain ⟨reply, later, rfl, hLater⟩ := hPath
    refine ⟨reply, ?_⟩
    cases hResult : reply.result with
    | error failure =>
        simp only [hResult, Dialogue.path_log_bind_iff] at hLater
        obtain ⟨rfl, hAnswer⟩ := Dialogue.path_done_iff.mp hLater
        exact ⟨rfl, hAnswer⟩
    | ok _ =>
        simp only [hResult, conclude_eq hConsistent, Dialogue.path_logAll_bind_iff] at hLater
        obtain ⟨rfl, hAnswer⟩ := Dialogue.path_done_iff.mp hLater
        exact ⟨rfl, hAnswer⟩
  · intro hReply
    obtain ⟨reply, rfl, hAnswer⟩ := hReply
    refine ⟨reply, [], rfl, ?_⟩
    cases hResult : reply.result with
    | error failure =>
        simp only [hResult, Dialogue.path_log_bind_iff] at hAnswer ⊢
        exact Dialogue.path_done_iff.mpr ⟨rfl, hAnswer⟩
    | ok _ =>
        simp only [hResult, conclude_eq hConsistent, Dialogue.path_logAll_bind_iff] at hAnswer ⊢
        exact Dialogue.path_done_iff.mpr ⟨rfl, hAnswer⟩

theorem path_delivered (hChecked : request.check support (some "SAT") = .ok ())
    (hFits : request.registers.isExtended = true → length = .long)
    (registers : RegisterFile OutputRegister) (completion : Scsi.Completion) :
    Dialogue.Path (perform length timeout request registers)
      [⟨⟨command length timeout request, none⟩, ⟨.ok (), completion⟩⟩]
      (concluded request completion registers) :=
  (path_perform_iff hChecked hFits).mpr ⟨_, rfl, rfl⟩

/-- The short command has no room for a 48-bit request. -/
theorem perform_short (hChecked : request.check support (some "SAT") = .ok ())
    (hExtended : request.registers.isExtended = true) :
    perform .short timeout request registers = .done (request.refused registers
      ⟨.unsupported, "48-bit ATA commands require SAT ATA PASS-THROUGH (16)"⟩) := by
  rw [perform, hChecked]
  simp only [hExtended]
  rfl

theorem follows_plan (hChecked : request.check support (some "SAT") = .ok ())
    (hFits : request.registers.isExtended = true → length = .long)
    (path : Dialogue.Path (perform length timeout request registers) exchanges answer) :
    Scsi.Follows [command length timeout request] exchanges := by
  obtain ⟨reply, rfl, -⟩ := (path_perform_iff hChecked hFits).mp path
  exact .single ⟨⟨command length timeout request, none⟩, reply⟩

end Sat

namespace JMicron

variable {setup : Setup} {port : Port}

def command (setup : Setup) (port : Port) (request : Request) : Scsi.Command where
  cdb := cdb setup port request
  direction := if asksHealth request then .fromDevice else request.direction.toScsi
  data := if asksHealth request then [0xff] else request.carriage

theorem perform_unknownPort (hPort : setup.port = none)
    (hChecked : request.check (support setup.extended) (some "JMicron") = .ok ()) :
    perform setup request registers = .done (request.refused registers unknownPort) := by
  rw [perform, hChecked, hPort]
  rfl

/-- What is left of a request whose command was answered. -/
def concluded (request : Request) (reply : Scsi.Answer) (registers : RegisterFile OutputRegister) :
    Answer :=
  let buffer := if asksHealth request then request.buffer
    else request.bufferAfter reply.completion.data
  match reply.result with
  | .error failure => ⟨.error failure, registers, buffer⟩
  | .ok () =>
      if asksHealth request then
        match healthRegisters reply.completion registers with
        | .error failure => ⟨.error failure, registers, buffer⟩
        | .ok returned => ⟨.ok (), returned, buffer⟩
      else ⟨.ok (), registers, buffer⟩

/-- A request that is accepted is one command. -/
theorem perform_eq (hPort : setup.port = some port)
    (hChecked : request.check (support setup.extended) (some "JMicron") = .ok ()) :
    perform setup request registers =
      (Scsi.sendChecked "UsbJmicronDevice::ata_pass_through: " (command setup port request)).bind
        fun reply => .done (concluded request reply registers) := by
  have hConsistent := ((request.check_eq_ok_iff _ _).mp hChecked).1
  rw [perform, hChecked, hPort]
  unfold command concluded
  cases hHealth : asksHealth request with
  | false =>
      simp only [hConsistent.transfer_eq, Dialogue.bind_eq, Dialogue.done_bind, Dialogue.pure_eq,
        Bool.false_eq_true, if_false]
      congr 1
      funext reply
      cases reply.result <;> rfl
  | true =>
      simp only [Dialogue.pure_eq, Dialogue.bind_eq, Dialogue.done_bind, if_true]
      congr 1
      funext reply
      cases reply.result with
      | error failure => rfl
      | ok _ => cases healthRegisters reply.completion registers <;> rfl

theorem follows_plan (hPort : setup.port = some port)
    (hChecked : request.check (support setup.extended) (some "JMicron") = .ok ())
    (path : Dialogue.Path (perform setup request registers) exchanges answer) :
    Scsi.Follows [command setup port request] exchanges := by
  rw [perform_eq hPort hChecked] at path
  obtain ⟨reply, later, rfl, hLater⟩ := Dialogue.path_ask_iff.mp path
  rw [(Dialogue.path_done_iff.mp hLater).1]
  exact .single ⟨⟨command setup port request, some _⟩, reply⟩

end JMicron

namespace SmartOperation

variable {operation : SmartOperation} {select : UInt8}

/-- The sector that an operation works on. -/
def sector (operation : SmartOperation) (request : Request) : Bytes :=
  if operation = .checkPowerMode then Bytes.zeros sectorSize
  else (request.buffer.getD []).take request.size

/-- What is left of a request whose operation was carried out. -/
def concluded (operation : SmartOperation) (request : Request) (answer : SmartOperation.Answer)
    (registers : RegisterFile OutputRegister) : Ata.Answer :=
  let buffer := if operation = .checkPowerMode then request.buffer
    else request.bufferAfter answer.data
  match answer.result with
  | .error failure => ⟨.error failure, registers, buffer⟩
  | .ok health => ⟨.ok (), reported operation health answer.data registers, buffer⟩

theorem perform_eq (hChecked : request.check support none = .ok ())
    (hMapped : ofRequest request = .ok (operation, select)) :
    perform request registers =
      (Dialogue.query ⟨operation, select, sector operation request⟩).bind fun answer =>
        .done (concluded operation request answer registers) := by
  have hConsistent := ((request.check_eq_ok_iff _ _).mp hChecked).1
  unfold perform
  rw [hChecked, hMapped]
  unfold sector concluded
  by_cases hPower : operation = .checkPowerMode
  · simp only [hPower, if_true, Dialogue.pure_eq, Dialogue.bind_eq, Dialogue.done_bind]
    congr 1
    funext answer
    cases answer.result <;> rfl
  · simp only [hPower, if_false, hConsistent.transferred_eq, Dialogue.pure_eq, Dialogue.bind_eq,
      Dialogue.done_bind]
    congr 1
    funext answer
    cases answer.result <;> rfl

end SmartOperation

namespace Cypress

namespace TaskFile

/-- The buffer that goes with the first ATACB, given one of at least a sector if any data moves. -/
def carriage (file : TaskFile) (data : Bytes) : Bytes :=
  match file.direction with
  | .none => []
  | .fromDevice => Bytes.zeros sectorSize
  | .toDevice => data.take sectorSize

theorem sector_eq {file : TaskFile} {data : Bytes}
    (hRoom : file.direction ≠ .none → sectorSize ≤ data.length) :
    file.sector data = some (file.carriage data) := by
  unfold sector carriage
  cases hDirection : file.direction with
  | none => rfl
  | fromDevice | toDevice =>
      have hLength := hRoom (by simp [hDirection])
      simp [Checked.cut_of_le hLength, Nat.min_eq_left hLength]

/-- The ATACB that carries out a command. -/
def carrier (file : TaskFile) (signature : UInt8) (timeout : UInt32) (data : Bytes) :
    Scsi.Command where
  cdb := file.cdb signature file.actionByte
  direction := file.direction
  data := file.carriage data
  timeout := timeout

/-- The ATACB that reads the registers of the command before it. -/
def reader (file : TaskFile) (signature : UInt8) (timeout : UInt32) : Scsi.Command where
  cdb := file.cdb signature readByte
  direction := .fromDevice
  data := Bytes.zeros taskFileLength
  timeout := timeout

end TaskFile

def plan (signature : UInt8) (timeout : UInt32) (query : SmartOperation.Query) : Plan :=
  let file := taskFile query.operation query.select
  { carrier := file.carrier signature timeout query.data
    after := if file.readBack then [file.reader signature timeout] else [] }

end Cypress

end DriveBridge.Ata
