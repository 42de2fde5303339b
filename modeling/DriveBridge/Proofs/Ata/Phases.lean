import DriveBridge.Ata.Bridge.Prolific
import DriveBridge.Ata.Bridge.Sunplus
import DriveBridge.Proofs.Ata.Plan

/-! Translators that take a request in phases. Each phase is one command whose sense data the device
below judges, and the request succeeds exactly if all of them do. -/
namespace DriveBridge.Ata

/-- How a request in phases may end, given the commands that are planned for it, the registers as
they were, and what is said of those that a success returns. -/
structure Phased (plan : List Scsi.Command) (registers : RegisterFile OutputRegister)
    (Returned : RegisterFile OutputRegister → Prop) (exchanges : List Scsi.Exchange)
    (answer : Answer) : Prop where
  follows : Scsi.Follows plan exchanges
  judged : ∀ exchange ∈ exchanges, exchange.query.label ≠ none
  success : answer.result = .ok () ↔ ∀ exchange ∈ exchanges, exchange.result = .ok ()
  returned : answer.result = .ok () → Returned answer.registers
  kept : ∀ failure, answer.result = .error failure → answer.registers = registers
  traced : ∀ failure, answer.result = .error failure → Scsi.Traced exchanges failure

section Phased

variable {plan : List Scsi.Command} {registers returned : RegisterFile OutputRegister}
  {Returned : RegisterFile OutputRegister → Prop} {answer : Answer} {exchange : Scsi.Exchange}
  {later : List Scsi.Exchange} {failure : Failure} {buffer : Option Bytes}

theorem Phased.done (hReturned : Returned returned) :
    Phased [] registers Returned [] ⟨.ok (), returned, buffer⟩ where
  follows := .done
  judged := List.forall_mem_nil _
  success := iff_of_true rfl (List.forall_mem_nil _)
  returned _ := hReturned
  kept := nofun
  traced := nofun

theorem Phased.failed (hJudged : exchange.query.label ≠ none)
    (hFailed : exchange.result = .error failure) :
    Phased (exchange.command :: plan) registers Returned [exchange]
      ⟨.error failure, registers, buffer⟩ where
  follows := .failed hFailed
  judged := by simpa using hJudged
  success := by simp [hFailed]
  returned := nofun
  kept _ _ := rfl
  traced := by
    rintro _ ⟨⟩
    exact .of_result hFailed

theorem Phased.next (hJudged : exchange.query.label ≠ none)
    (hDelivered : exchange.result = .ok ()) (rest : Phased plan registers Returned later answer) :
    Phased (exchange.command :: plan) registers Returned (exchange :: later) answer where
  follows := .next hDelivered rest.follows
  judged := List.forall_mem_cons.mpr ⟨hJudged, rest.judged⟩
  success := by simp [hDelivered, rest.success]
  returned := rest.returned
  kept := rest.kept
  traced failure hFailed := by
    refine (rest.traced failure hFailed).cons ?_
    rintro rfl
    cases hFailed.symm.trans (rest.success.mpr (List.forall_mem_nil _))

/-- A phase that fails ends the request, and one that does not leaves the rest of the plan. -/
theorem ensures_phase_bind {label : String} {command : Scsi.Command}
    {next : Scsi.Answer → Scsi.Session Answer}
    (failed : ∀ answer failure, answer.result = .error failure →
      ∃ buffer, next answer = .done ⟨.error failure, registers, buffer⟩)
    (delivered : ∀ answer, answer.result = .ok () →
      (next answer).Ensures (Phased plan registers Returned)) :
    ((Scsi.sendChecked label command).bind next).Ensures
      (Phased (command :: plan) registers Returned) := by
  refine Scsi.ensures_judged_bind fun exchange hCommand hJudged => ?_
  rw [← hCommand]
  cases hResult : exchange.answer.result with
  | error failure =>
      obtain ⟨buffer, hDone⟩ := failed _ _ hResult
      rw [hDone]
      exact Phased.failed hJudged hResult
  | ok _ => exact (delivered _ hResult).mono fun _ _ rest => rest.next hJudged hResult

end Phased

variable {request : Request} {registers : RegisterFile OutputRegister} {answer : Answer}
  {exchanges : List Scsi.Exchange}

/-- Where any registers are wanted, those are returned that the bridge was asked for and sent back
as bytes. -/
def Request.ReadBack (request : Request)
    (decode : Bytes → RegisterFile OutputRegister → RegisterFile OutputRegister)
    (registers returned : RegisterFile OutputRegister) : Prop :=
  request.wantsRegisters = true → ∃ raw, returned = decode raw registers

namespace Prolific

/-- The command that carries out a request. Its second byte tells the direction, the length has four
bytes, the most significant one first, and two bits of the device register are forced. -/
def command (request : Request) : Scsi.Command where
  cdb :=
    let register := request.registers.value
    let length := if request.direction = .noData then 0 else request.size
    [0xd8, if request.direction = .dataOut then 0x05 else 0x15, 0, register .features, 0x06, 0x7b,
      (length / 0x1000000).toUInt8, (length / 0x10000).toUInt8, (length / 0x100).toUInt8,
      length.toUInt8, register .sectorCount, register .lbaLow, register .lbaMid,
      register .lbaHigh, register .device ||| 0xa0, register .command]
  direction := request.direction.toScsi
  data := request.carriage

/-- The command that reads the output registers. -/
def readCommand : Scsi.Command where
  cdb := [0xd7, 0, 0, 0, 0x06, 0x7b, 0, 0, 0, 0, 0, 0, 0, 0, 0, 0]
  direction := .fromDevice
  data := Bytes.zeros 16

theorem command_eq (request : Request) : command request =
    { cdb := cdb request, direction := request.direction.toScsi, data := request.carriage } := by
  rw [cdb, Bytes.be32_toUInt32]
  rfl

def plan (request : Request) : Plan where
  carrier := command request
  after := if request.wantsRegisters then [readCommand] else []

theorem ensures_perform (hChecked : request.check support (some "Prolific") = .ok ()) :
    (perform request registers).Ensures (Phased (plan request).commands registers
      (request.ReadBack returnedRegisters registers)) := by
  have hConsistent := ((request.check_eq_ok_iff _ _).mp hChecked).1
  unfold perform
  rw [hChecked]
  simp only [hConsistent.transfer_eq, Dialogue.bind_eq, Dialogue.done_bind, ← command_eq]
  refine ensures_phase_bind ?_ fun answer hDelivered => ?_
  · intro answer failure hFailed
    simp only [hFailed]
    exact ⟨_, rfl⟩
  simp only [hDelivered, plan]
  split
  · refine ensures_phase_bind ?_ fun read hRead => ?_
    · intro read failure hFailed
      simp only [hFailed]
      exact ⟨_, rfl⟩
    · simp only [hRead]
      exact Phased.done fun _ => ⟨_, rfl⟩
  next hUnwanted => exact Phased.done fun hWants => (hUnwanted hWants).elim

theorem follows_plan (hChecked : request.check support (some "Prolific") = .ok ())
    (path : Dialogue.Path (perform request registers) exchanges answer) :
    Scsi.Follows (plan request).commands exchanges :=
  ((ensures_perform hChecked).of_path path).follows

end Prolific

namespace Sunplus

/-- The command that loads the previous registers. -/
def presetCommand (request : Request) : Scsi.Command where
  cdb :=
    let before := request.registers.previousValue
    [0xf8, 0, 0x23, 0, 0, before .features, before .sectorCount, before .lbaLow, before .lbaMid,
      before .lbaHigh, 0, 0]

/-- The command that carries out a request. Its fourth byte tells the direction and its fifth the
number of sectors, and two bits of the device register are forced. -/
def command (request : Request) : Scsi.Command where
  cdb :=
    let register := request.registers.value
    let protocol : UInt8 := match request.direction with
      | .noData => 0x00
      | .dataIn => 0x10
      | .dataOut => 0x11
    let length := if request.direction = .noData then 0 else request.size
    [0xf8, 0, 0x22, protocol, (length / 512).toUInt8, register .features, register .sectorCount,
      register .lbaLow, register .lbaMid, register .lbaHigh, register .device ||| 0xa0,
      register .command]
  direction := request.direction.toScsi
  data := request.carriage

/-- The command that reads the output registers. -/
def readCommand : Scsi.Command where
  cdb := [0xf8, 0, 0x21, 0, 0, 0, 0, 0, 0, 0, 0, 0]
  direction := .fromDevice
  data := Bytes.zeros 8

def plan (request : Request) : Plan where
  before := if request.registers.isExtended then [presetCommand request] else []
  carrier := command request
  after := if request.wantsRegisters then [readCommand] else []

theorem command_eq (request : Request) : command request =
    { cdb := cdb request, direction := request.direction.toScsi, data := request.carriage } := by
  unfold command cdb protocol
  cases request.direction <;> rfl

theorem ensures_execute (hConsistent : request.Consistent request.sectorCount) :
    (execute request registers).Ensures (Phased (command request :: (plan request).after) registers
      (request.ReadBack returnedRegisters registers)) := by
  unfold execute
  simp only [hConsistent.transfer_eq, Dialogue.bind_eq, Dialogue.done_bind, ← command_eq]
  refine ensures_phase_bind ?_ fun answer hDelivered => ?_
  · intro answer failure hFailed
    simp only [hFailed]
    exact ⟨_, rfl⟩
  simp only [hDelivered, readBack, plan]
  split
  · refine ensures_phase_bind ?_ fun read hRead => ?_
    · intro read failure hFailed
      simp only [hFailed]
      exact ⟨_, rfl⟩
    · simp only [hRead]
      exact Phased.done fun _ => ⟨_, rfl⟩
  next hUnwanted => exact Phased.done fun hWants => (hUnwanted hWants).elim

theorem ensures_perform (hChecked : request.check support (some "Sunplus") = .ok ()) :
    (perform request registers).Ensures (Phased (plan request).commands registers
      (request.ReadBack returnedRegisters registers)) := by
  have hConsistent := ((request.check_eq_ok_iff _ _).mp hChecked).1
  have hExecute := @ensures_execute _ registers hConsistent
  unfold perform
  rw [hChecked]
  dsimp only
  split
  next hExtended =>
    have hPlan : (plan request).commands =
        presetCommand request :: command request :: (plan request).after := by
      simp [plan, Plan.commands, hExtended]
    rw [hPlan]
    refine ensures_phase_bind ?_ fun preset hPreset => ?_
    · intro preset failure hFailed
      simp only [hFailed]
      exact ⟨_, rfl⟩
    · simp only [hPreset]
      exact hExecute
  next hPlain =>
    have hPlan : (plan request).commands = command request :: (plan request).after := by
      simp [plan, Plan.commands, hPlain]
    rw [hPlan]
    exact hExecute

theorem follows_plan (hChecked : request.check support (some "Sunplus") = .ok ())
    (path : Dialogue.Path (perform request registers) exchanges answer) :
    Scsi.Follows (plan request).commands exchanges :=
  ((ensures_perform hChecked).of_path path).follows

end Sunplus

end DriveBridge.Ata
