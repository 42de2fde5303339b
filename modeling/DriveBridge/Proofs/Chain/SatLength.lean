import DriveBridge.Proofs.Chain.Relay
import DriveBridge.Proofs.Chain.Safety
import DriveBridge.Proofs.Chain.SessionLimit

/-! The two lengths of ATA PASS-THROUGH. A request without previous registers fits both, and it
makes no difference which of them is taken: the command says the same, and what comes back is read
in the same way. -/
namespace DriveBridge

namespace Ata.Sat

open Dialogue

/-- Where the CDB holds a register. -/
def Length.position : Length → InputRegister → Nat
  | .short, .features => 3
  | .short, .sectorCount => 4
  | .short, .lbaLow => 5
  | .short, .lbaMid => 6
  | .short, .lbaHigh => 7
  | .short, .device => 8
  | .short, .command => 9
  | .long, .features => 4
  | .long, .sectorCount => 6
  | .long, .lbaLow => 8
  | .long, .lbaMid => 10
  | .long, .lbaHigh => 12
  | .long, .device => 13
  | .long, .command => 14

/-- Where the CDB holds a previous register, if it has room for it. -/
def Length.previousPosition? : Length → InputRegister → Option Nat
  | .long, .features => some 3
  | .long, .sectorCount => some 5
  | .long, .lbaLow => some 7
  | .long, .lbaMid => some 9
  | .long, .lbaHigh => some 11
  | .long, .device | .long, .command | .short, _ => none

theorem byte_cdb (length : Length) (request : Request) (register : InputRegister) :
    (cdb length request).byte (length.position register) = request.registers.value register := by
  cases length <;> cases register <;> rfl

theorem byte_cdb_previous {length : Length} {register : InputRegister} {position : Nat}
    (hPosition : length.previousPosition? register = some position) (request : Request) :
    (cdb length request).byte position = request.registers.previousValue register := by
  cases length <;> cases register <;> cases hPosition <;> rfl

/-- The protocol and the flags. -/
theorem transferBytes_cdb (length : Length) (request : Request) :
    ((cdb length request).drop 1).take 2 = transferBytes request := by
  cases length <;> rfl

/-- Two commands, one of each length, that say the same. Neither has any previous registers. -/
structure Twins (length other : Length) (one two : Scsi.Command) : Prop where
  direction : two.direction = one.direction
  data : two.data = one.data
  timeout : two.timeout = one.timeout
  lengths : one.cdb.length = length.bytes ∧ two.cdb.length = other.bytes
  transfer : (two.cdb.drop 1).take 2 = (one.cdb.drop 1).take 2
  registers : ∀ register,
    two.cdb.byte (other.position register) = one.cdb.byte (length.position register)
  previous : ∀ register position,
    (length.previousPosition? register = some position → one.cdb.byte position = 0) ∧
      (other.previousPosition? register = some position → two.cdb.byte position = 0)

theorem twins_command {request : Request} (hNarrow : request.registers.isExtended = false)
    (length other : Length) (timeout : UInt32) :
    Twins length other (command length timeout request) (command other timeout request) where
  direction := rfl
  data := rfl
  timeout := rfl
  lengths := ⟨length_cdb length request, length_cdb other request⟩
  transfer := (transferBytes_cdb other request).trans (transferBytes_cdb length request).symm
  registers register :=
    (byte_cdb other request register).trans (byte_cdb length request register).symm
  previous register position := by
    have hZero := RegisterFile.previousValue_eq_zero_of_not_extended hNarrow register
    exact ⟨fun hPosition => (byte_cdb_previous hPosition request).trans hZero,
      fun hPosition => (byte_cdb_previous hPosition request).trans hZero⟩

/-- What follows on the command, given what became of it. -/
def followUp (request : Request) (registers : RegisterFile OutputRegister)
    (answer : Scsi.Answer) : Scsi.Session Answer := do
  match answer.result with
  | .error failure =>
      let code := failure.cause.code
      let message := failure.message
      Dialogue.log .debug s!"SAT: scsi_pass_through() failed, errno={code} [{message}]"
      return ⟨.error failure, registers, request.bufferAfter answer.completion.data⟩
  | .ok () => conclude request answer.completion registers

theorem perform_eq {request : Request} {registers : RegisterFile OutputRegister} {timeout : UInt32}
    (hChecked : request.check support (some "SAT") = .ok ())
    (hNarrow : request.registers.isExtended = false) (length : Length) :
    perform length timeout request registers =
      (Scsi.send (command length timeout request)).bind (followUp request registers) := by
  have hConsistent := ((request.check_eq_ok_iff _ _).mp hChecked).1
  unfold perform
  rw [hChecked, hNarrow]
  simp only [hConsistent.transfer_eq, Dialogue.bind_eq, Dialogue.done_bind, Bool.false_and,
    Bool.false_eq_true, if_false]
  rfl

variable {request : Request} {registers : RegisterFile OutputRegister} {answer : Scsi.Answer}

theorem asks_followUp {allowed : Scsi.Query → Prop} :
    (followUp request registers answer).Asks allowed := by
  unfold followUp
  split
  · exact (asks_log _ _).bind fun _ => asks_done _
  · exact asks_conclude _

theorem safe_followUp (hConsistent : request.Consistent request.sectorCount) :
    (followUp request registers answer).Safe := by
  unfold followUp
  split
  · exact (safe_log _ _).bind fun _ => safe_done _
  · exact safe_conclude registers hConsistent _

end Ata.Sat

namespace Chain

open Dialogue
open Ata.Sat (Length Twins)

/-- What an endpoint makes of the reply to a command. -/
def Endpoint.receive (endpoint : Endpoint) (command : Scsi.Command) :
    Except Fault Scsi.Reply → Scsi.Answer × Endpoint
  | .ok reply => (⟨.ok (), command.complete reply⟩, endpoint)
  | .error fault => (⟨.error fault.failure, command.untouched⟩, endpoint.suffer fault)

def ScsiDevice.receive :
    ScsiDevice → Scsi.Command → Except Fault Scsi.Reply → Scsi.Answer × ScsiDevice
  | endpoint e, command, reply =>
      ((e.receive command reply).1, endpoint (e.receive command reply).2)
  | sat layer inner, command, reply =>
      let (answer, inner) := inner.receive command reply
      (answer, sat { layer with profile := layer.profile.settle answer.result } inner)

/-- A command goes to the endpoint once. -/
theorem ScsiDevice.execute_eq_ask (device : ScsiDevice) (command : Scsi.Command) :
    device.execute command = .ask (.transmit device.place.unit command) fun reply =>
      .done (device.receive command reply) := by
  induction device with
  | endpoint e =>
      refine congrArg (Dialogue.ask _) (funext fun reply => ?_)
      cases reply <;> rfl
  | sat layer inner ih =>
      show (inner.execute command).bind _ = _
      rw [ih]
      rfl

/-- What is received depends on no more of the command than its direction and its data. -/
theorem ScsiDevice.receive_congr (device : ScsiDevice) {one two : Scsi.Command}
    (hDirection : two.direction = one.direction) (hData : two.data = one.data) :
    device.receive two = device.receive one := by
  induction device with
  | endpoint e =>
      have hComplete : two.complete = one.complete := by
        funext reply
        simp only [Scsi.Command.complete, hDirection, hData]
      have hUntouched : two.untouched = one.untouched := by
        simp only [Scsi.Command.untouched, hData]
      funext reply
      cases reply <;> simp only [receive, Endpoint.receive, hComplete, hUntouched]
  | sat layer inner ih =>
      funext reply
      simp only [receive, ih]

theorem ScsiDevice.ensures_followUp (inner : ScsiDevice) {request : Ata.Request}
    (hConsistent : request.Consistent request.sectorCount)
    (registers : Ata.RegisterFile Ata.OutputRegister) (answer : Scsi.Answer) :
    (inner.serve (Ata.Sat.followUp request registers answer)).Ensures fun later outcome =>
      later = [] ∧ (inner.serve (Ata.Sat.followUp request registers answer)).Path [] outcome := by
  have hSilent : (inner.serve (Ata.Sat.followUp request registers answer)).Asks fun _ => False := by
    have hNever : ∀ query device, False → True →
        (ScsiDevice.answer query device).KeepsTo (fun _ => False) fun _ => True :=
      fun _ _ hFalse _ => hFalse.elim
    exact (Ata.Sat.asks_followUp.through hNever trivial).asks
  exact hSilent.ensures_silent (inner.safe_serve (Ata.Sat.safe_followUp hConsistent))

/-- The conversations about a request at two lengths: nothing is sent, or one command each, which
say the same and get the same reply. -/
inductive Interchanged (length other : Length) : List Exchange → List Exchange → Prop where
  | unsent : Interchanged length other [] []
  | sent {unit : Nat} {one two : Scsi.Command} {reply : Except Fault Scsi.Reply}
      (twins : Twins length other one two) :
      Interchanged length other [⟨.transmit unit one, reply⟩] [⟨.transmit unit two, reply⟩]

theorem ScsiDevice.ensures_serve_interchanged (inner : ScsiDevice) {query : Ata.Query}
    (hNarrow : query.request.registers.isExtended = false) (timeout : UInt32)
    (length other : Length) :
    (inner.serve (Ata.Sat.perform length timeout query.request query.registers)).Ensures
      fun below outcome => ∃ below', Interchanged length other below below' ∧
        (inner.serve (Ata.Sat.perform other timeout query.request query.registers)).Path below'
          outcome := by
  cases hChecked : query.request.check Ata.Sat.support (some "SAT") with
  | error failure =>
      unfold Ata.Sat.perform
      rw [hChecked]
      exact ⟨[], .unsent, .done _⟩
  | ok _ =>
      have hConsistent := ((query.request.check_eq_ok_iff _ _).mp hChecked).1
      have twins := Ata.Sat.twins_command hNarrow length other timeout
      rw [Ata.Sat.perform_eq hChecked hNarrow, Ata.Sat.perform_eq hChecked hNarrow]
      show ((inner.execute _).bind _).Ensures _
      rw [inner.execute_eq_ask]
      intro reply
      have hLast (answer : Scsi.Answer) (inner' : ScsiDevice) :=
        inner'.ensures_followUp hConsistent query.registers answer
      refine (hLast _ _).mono fun later result hResult => ?_
      obtain ⟨rfl, hPath⟩ := hResult
      refine ⟨_, .sent twins, ?_⟩
      show ((inner.execute _).bind _).Path _ _
      rw [inner.execute_eq_ask, inner.receive_congr twins.direction twins.data, ask_bind]
      exact path_ask_iff.mpr ⟨reply, [], rfl, hPath⟩

/-- The two lengths are interchangeable for every request without previous registers: whatever
happens at one of them can happen at the other, with a command that says the same and gets the same
reply, and it leaves the same answer and the same device, its failure and all that is below
included. -/
theorem SatLayer.lengths_interchangeable (layer : SatLayer) (inner : ScsiDevice) {query : Ata.Query}
    (hNarrow : query.request.registers.isExtended = false) (length other : Length) :
    ((AtaDevice.sat { layer with length } inner).perform query).Ensures fun below outcome =>
      ∃ (below' : List Exchange) (after : SatLayer) (inner' : ScsiDevice),
        Interchanged length other below below' ∧
          outcome.2 = .sat { after with length } inner' ∧
            ((AtaDevice.sat { layer with length := other } inner).perform query).Path below'
              (outcome.1, .sat { after with length := other } inner') := by
  have hServed := inner.ensures_serve_interchanged hNarrow layer.profile.timeout length other
  refine hServed.bind fun below ⟨answer, inner'⟩ ⟨below', hBelow, hPath⟩ => ?_
  refine ⟨below', { layer with profile := layer.profile.settle answer.result }, inner', ?_, rfl, ?_⟩
  · rw [List.append_nil]
    exact hBelow
  · exact path_bind_iff.mpr ⟨_, _, [], (List.append_nil _).symm, hPath, .done _⟩

/-- IDENTIFY DEVICE. -/
def identifyQuery : Ata.Query :=
  let request : Ata.Request :=
    { registers := ({} : Ata.RegisterFile _).set .command Ata.Opcode.identify }
  ⟨request.setData .dataIn (Bytes.zeros 512) 1, {}⟩

def plainLayer : SatLayer := .atop (Endpoint.new "/dev/sdb" 0).profile "sat" .always .long

/-- IDENTIFY DEVICE by the short command, and what the long one makes of the same sector. -/
theorem SatLayer.identify_interchanged :
    let disk (length : Length) : AtaDevice :=
      .sat { plainLayer with length } (.endpoint (.new "/dev/sdb" 0))
    let run := ((disk .short).perform identifyQuery).run
      (delivering { data := List.replicate 512 0x5a }) ()
    (commands (exchanges run.events)).map Scsi.Command.cdb =
        [[0xa1, 0x08, 0x0e, 0, 1, 0, 0, 0, 0, 0xec, 0, 0]] ∧
      ∃ outcome, run.value = some outcome ∧
        ∃ (below' : List Exchange) (after : SatLayer) (inner' : ScsiDevice),
          Interchanged .short .long (exchanges run.events) below' ∧
            ((disk .long).perform identifyQuery).Path below'
              (outcome.1, .sat { after with length := .long } inner') := by
  intro disk run
  refine ⟨by decide +kernel, ?_⟩
  have hNarrow : identifyQuery.request.registers.isExtended = false := by decide
  subst run
  generalize identifyQuery = query at hNarrow ⊢
  obtain ⟨outcome, hValue, below', after, inner', hBelow, -, hPath⟩ :=
    (plainLayer.lengths_interchangeable (.endpoint (.new "/dev/sdb" 0)) hNarrow .short .long).of_run
      (delivering { data := List.replicate 512 0x5a }) ()
  exact ⟨outcome, hValue, below', after, inner', hBelow, hPath⟩

end Chain

end DriveBridge
