import DriveBridge.Proofs.Ata.Translator

/-! What the commands of a request tell about it. The formats differ in what they have room for,
and each loses something; the check keeps away the requests for which that would matter. -/
namespace DriveBridge.Ata

variable {first second : Request}

/-- Two requests say the same, up to device bits that a bridge sets anyway. -/
structure Request.Agree (forced : UInt8) (first second : Request) : Prop where
  size : first.size = second.size
  direction : first.size ≠ 0 → first.direction = second.direction
  current : ∀ register, register ≠ .device →
    first.registers.value register = second.registers.value register
  device : first.registers.value .device ||| forced = second.registers.value .device ||| forced
  previous : ∀ register, register ≠ .device → register ≠ .command →
    first.registers.previousValue register = second.registers.previousValue register

namespace Sat

theorem direction_of_transferBytes (hBytes : transferBytes first = transferBytes second) :
    first.direction = second.direction := by
  simp only [transferBytes, List.cons.injEq] at hBytes
  obtain ⟨hProtocol, -, -⟩ := hBytes
  revert hProtocol
  cases first.direction <;> cases second.direction <;> cases first.registers.isExtended <;>
    cases second.registers.isExtended <;> decide

theorem agree_of_long (hFirst : first.Consistent first.sectorCount)
    (hSecond : second.Consistent second.sectorCount) (hCdb : cdb .long first = cdb .long second) :
    first.Agree 0 second := by
  have hDirection := direction_of_transferBytes
    (congrArg (fun bytes : Bytes => (bytes.drop 1).take 2) hCdb)
  simp only [cdb, transferBytes, List.cons_append, List.nil_append, List.cons.injEq, true_and,
    and_true] at hCdb
  obtain ⟨-, -, hFeatures', hFeatures, hCount', hCount, hLow', hLow, hMid', hMid, hHigh', hHigh,
    hDevice, hCommand⟩ := hCdb
  have hSectors : first.sectorCount = second.sectorCount := by
    rw [Request.sectorCount, Request.sectorCount, hCount', hCount]
  rw [← hSectors] at hSecond
  constructor
  · exact hFirst.size_eq hSecond hDirection
  · exact fun _ => hDirection
  · exact InputRegister.forall_ne_device hFeatures hCount hLow hMid hHigh hCommand
  · rw [hDevice]
  · exact InputRegister.forall_wide hFeatures' hCount' hLow' hMid' hHigh'

theorem agree_of_short (hFirst : first.Consistent first.sectorCount)
    (hSecond : second.Consistent second.sectorCount)
    (hNarrow : first.registers.isExtended = false) (hNarrow' : second.registers.isExtended = false)
    (hCdb : cdb .short first = cdb .short second) : first.Agree 0 second := by
  have hDirection := direction_of_transferBytes
    (congrArg (fun bytes : Bytes => (bytes.drop 1).take 2) hCdb)
  have hPrevious : ∀ register, first.registers.previousValue register =
      second.registers.previousValue register := by
    intro register
    rw [RegisterFile.previousValue_eq_zero_of_not_extended hNarrow,
      RegisterFile.previousValue_eq_zero_of_not_extended hNarrow']
  simp only [cdb, transferBytes, List.cons_append, List.nil_append, List.cons.injEq, true_and,
    and_true] at hCdb
  obtain ⟨-, -, hFeatures, hCount, hLow, hMid, hHigh, hDevice, hCommand⟩ := hCdb
  have hSectors : first.sectorCount = second.sectorCount := by
    rw [Request.sectorCount, Request.sectorCount, hPrevious, hCount]
  rw [← hSectors] at hSecond
  constructor
  · exact hFirst.size_eq hSecond hDirection
  · exact fun _ => hDirection
  · exact InputRegister.forall_ne_device hFeatures hCount hLow hMid hHigh hCommand
  · rw [hDevice]
  · exact fun register _ _ => hPrevious register

end Sat

/-- A format without previous registers and with one sector at most. It need only tell the
current registers, one sector from none, and whether data leaves for the device. -/
theorem Request.agree_of_narrow {support : Support} {forced : UInt8} {Code : Type}
    (hSectors : support.multiSector = false) (hExtended : support.extended = false)
    (hFirst : first.Consistent first.sectorCount ∧ first.Supported support)
    (hSecond : second.Consistent second.sectorCount ∧ second.Supported support)
    (encode : Nat → Code) (hApart : encode 0 ≠ encode sectorSize)
    (hLength : encode first.size = encode second.size)
    (hOut : first.direction = .dataOut ↔ second.direction = .dataOut)
    (hCurrent : ∀ register, register ≠ .device →
      first.registers.value register = second.registers.value register)
    (hDevice : first.registers.value .device ||| forced =
      second.registers.value .device ||| forced) : first.Agree forced second := by
  obtain ⟨hConsistent, hSupported⟩ := hFirst
  obtain ⟨hConsistent', hSupported'⟩ := hSecond
  have hSize := hSupported.size_eq encode hApart hSectors hSupported' hLength
  have hDirection := hConsistent.direction_eq hConsistent' hSize hOut
  refine ⟨hSize, hDirection, hCurrent, hDevice, ?_⟩
  intro register _ _
  rw [hSupported.previousValue_eq_zero hExtended, hSupported'.previousValue_eq_zero hExtended]

namespace JMicron

variable {setup : Setup} {port : Port}

theorem finish_injective {trailer : Bool} {left right : Bytes}
    (hFinished : finish trailer left = finish trailer right) : left = right := by
  cases trailer with
  | false => exact hFinished
  | true => exact List.append_cancel_right hFinished

theorem agree_of_cdb
    (hFirst : first.Consistent first.sectorCount ∧
      first.Supported (JMicron.support setup.extended))
    (hSecond : second.Consistent second.sectorCount ∧
      second.Supported (JMicron.support setup.extended))
    (hHealth : asksHealth first = false) (hHealth' : asksHealth second = false)
    (hCdb : cdb setup port first = cdb setup port second) :
    first.Agree port.deviceBits second := by
  replace hCdb := finish_injective hCdb
  simp only [hHealth, hHealth', hFirst.1.length_eq, hSecond.1.length_eq, Bool.false_eq_true,
    if_false, false_or, Bytes.be16, List.cons_append, List.nil_append, List.cons.injEq, true_and,
    and_true] at hCdb
  obtain ⟨hToHost, hLength, -, hFeatures, hCount, hLow, hMid, hHigh, hDevice, hCommand⟩ := hCdb
  have hOut : first.direction = .dataOut ↔ second.direction = .dataOut := by
    revert hToHost
    cases first.direction <;> cases second.direction <;> decide
  exact Request.agree_of_narrow rfl rfl hFirst hSecond
    (fun size => (size.toUInt16 >>> 8).toUInt8) (by decide) hLength hOut
    (InputRegister.forall_ne_device hFeatures hCount hLow hMid hHigh hCommand) hDevice

end JMicron

namespace Prolific

theorem agree_of_cdb
    (hFirst : first.Consistent first.sectorCount ∧ first.Supported Prolific.support)
    (hSecond : second.Consistent second.sectorCount ∧ second.Supported Prolific.support)
    (hCdb : cdb first = cdb second) : first.Agree 0xa0 second := by
  simp only [cdb, checkWord, hFirst.1.length_eq, hSecond.1.length_eq, Bytes.be32,
    List.cons_append, List.nil_append, List.cons.injEq, true_and, and_true] at hCdb
  obtain ⟨hMode, hFeatures, -, -, hLength, -, hCount, hLow, hMid, hHigh, hDevice, hCommand⟩ := hCdb
  have hOut : first.direction = .dataOut ↔ second.direction = .dataOut := by
    revert hMode
    cases first.direction <;> cases second.direction <;> decide
  exact Request.agree_of_narrow rfl rfl hFirst hSecond
    (fun size => (size.toUInt32 >>> 8).toUInt8) (by decide) hLength hOut
    (InputRegister.forall_ne_device hFeatures hCount hLow hMid hHigh hCommand) hDevice

end Prolific

namespace Sunplus

theorem agree_of_cdb
    (hFirst : first.Consistent first.sectorCount ∧ first.Supported Sunplus.support)
    (hSecond : second.Consistent second.sectorCount ∧ second.Supported Sunplus.support)
    (hPrevious : ∀ register, register ≠ .device → register ≠ .command →
      first.registers.previousValue register = second.registers.previousValue register)
    (hCdb : cdb first = cdb second) : first.Agree 0xa0 second := by
  simp only [cdb, hFirst.1.length_eq, hSecond.1.length_eq, List.cons.injEq, true_and,
    and_true] at hCdb
  obtain ⟨hProtocol, hLength, hFeatures, hCount, hLow, hMid, hHigh, hDevice, hCommand⟩ := hCdb
  have hDirection : first.direction = second.direction := by
    revert hProtocol
    cases first.direction <;> cases second.direction <;> decide
  constructor
  · exact hFirst.2.size_eq (fun size => (size / sectorSize).toUInt8) (by decide) rfl hSecond.2
      hLength
  · exact fun _ => hDirection
  · exact InputRegister.forall_ne_device hFeatures hCount hLow hMid hHigh hCommand
  · exact hDevice
  · exact hPrevious

/-- The preset command carries the previous registers. Its third byte tells it from the others,
so that one request is a 48-bit one exactly if the other is. -/
theorem agree_of_plan
    (hFirst : first.Consistent first.sectorCount ∧ first.Supported Sunplus.support)
    (hSecond : second.Consistent second.sectorCount ∧ second.Supported Sunplus.support)
    (hCdbs : (plan first).commands.map (·.cdb) = (plan second).commands.map (·.cdb)) :
    first.Agree 0xa0 second := by
  have hApart : ∀ preset carrier : Request, presetCdb preset ≠ cdb carrier := by
    intro preset carrier hSame
    simp [presetCdb, cdb] at hSame
  have hAgree := agree_of_cdb hFirst hSecond
  unfold plan Plan.commands at hCdbs
  cases hExtended : first.registers.isExtended with
  | false =>
      cases hExtended' : second.registers.isExtended with
      | false =>
          simp only [hExtended, hExtended', Bool.false_eq_true, if_false, List.nil_append,
            List.map_cons, List.cons.injEq] at hCdbs
          refine hAgree (fun register _ _ => ?_) hCdbs.1
          rw [RegisterFile.previousValue_eq_zero_of_not_extended hExtended,
            RegisterFile.previousValue_eq_zero_of_not_extended hExtended']
      | true =>
          simp only [hExtended, hExtended', Bool.false_eq_true, if_false, if_true,
            List.nil_append, List.cons_append, List.map_cons, List.cons.injEq] at hCdbs
          exact (hApart second first hCdbs.1.symm).elim
  | true =>
      cases hExtended' : second.registers.isExtended with
      | false =>
          simp only [hExtended, hExtended', Bool.false_eq_true, if_false, if_true,
            List.nil_append, List.cons_append, List.map_cons, List.cons.injEq] at hCdbs
          exact (hApart first second hCdbs.1).elim
      | true =>
          simp only [hExtended, hExtended', if_true, List.nil_append, List.cons_append,
            List.map_cons, List.cons.injEq] at hCdbs
          obtain ⟨hPreset, hCdb, -⟩ := hCdbs
          simp only [presetCommand, List.cons.injEq, true_and, and_true] at hPreset
          obtain ⟨hFeatures, hCount, hLow, hMid, hHigh⟩ := hPreset
          exact hAgree (InputRegister.forall_wide hFeatures hCount hLow hMid hHigh) hCdb

end Sunplus

/-- One of the commands carries the data of a request, as it is. Those in front of it have no
data, and those behind it read registers. -/
def Request.CarriedBy (request : Request) (commands : List Scsi.Command) : Prop :=
  ∃ before carrier after, commands = before ++ carrier :: after ∧
    (∀ command ∈ before, command.direction = .none ∧ command.data = []) ∧
    carrier.direction = request.direction.toScsi ∧ carrier.data = request.carriage ∧
    carrier.data.length = request.size ∧
    ∀ command ∈ after, command = Prolific.readCommand ∨ command = Sunplus.readCommand

namespace Translator

/-- The bits of the device register that a translator sets in every command. -/
def forcedBits? : Translator → Option UInt8
  | sat _ _ => some 0
  | cypress _ _ _ => none
  | jmicron setup => setup.port.map JMicron.Port.deviceBits
  | prolific | sunplus => some 0xa0

/-- A request for the health over a bridge that returns it in place of data. -/
def AsksHealth : Translator → Request → Prop
  | jmicron _, request => JMicron.asksHealth request = true
  | _, _ => False

def plan? (translator : Translator) (request : Request) : Option Plan :=
  match translator with
  | sat length timeout => some { carrier := Sat.command length timeout request }
  | cypress _ _ _ => none
  | jmicron setup => setup.port.map fun port => { carrier := JMicron.command setup port request }
  | prolific => some (Prolific.plan request)
  | sunplus => some (Sunplus.plan request)

variable {translator : Translator} {forced : UInt8} {request : Request} {plan plan' : Plan}

theorem exists_plan (hForced : translator.forcedBits? = some forced) (request : Request) :
    ∃ plan, translator.plan? request = some plan := by
  cases translator with
  | cypress signature timeout label => cases hForced
  | sat length timeout => exact ⟨_, rfl⟩
  | jmicron setup =>
      obtain ⟨port, hPort, -⟩ := Option.map_eq_some_iff.mp hForced
      exact ⟨_, Option.map_eq_some_iff.mpr ⟨port, hPort, rfl⟩⟩
  | prolific => exact ⟨_, rfl⟩
  | sunplus => exact ⟨_, rfl⟩

theorem follows_plan {registers : RegisterFile OutputRegister} {exchanges : List Scsi.Exchange}
    {answer : Answer} (hPlan : translator.plan? request = some plan)
    (hAccepts : translator.Accepts request)
    (path : Dialogue.Path (translator.perform request registers) exchanges answer) :
    Scsi.Follows plan.commands exchanges := by
  have hChecked := hAccepts.checked
  cases translator with
  | cypress signature timeout label => cases hPlan
  | sat length timeout =>
      cases hPlan
      exact Sat.follows_plan hChecked hAccepts.fits path
  | jmicron setup =>
      obtain ⟨port, hPort, rfl⟩ := Option.map_eq_some_iff.mp hPlan
      exact JMicron.follows_plan hPort hChecked path
  | prolific =>
      cases hPlan
      exact Prolific.follows_plan hChecked path
  | sunplus =>
      cases hPlan
      exact Sunplus.follows_plan hChecked path

theorem carriedBy_plan (hPlan : translator.plan? request = some plan)
    (hAccepts : translator.Accepts request) (hHealth : ¬ translator.AsksHealth request) :
    request.CarriedBy plan.commands := by
  have hConsistent := ((request.check_eq_ok_iff _ _).mp hAccepts.checked).1
  refine ⟨plan.before, plan.carrier, plan.after, rfl, ?_⟩
  cases translator with
  | cypress signature timeout label => cases hPlan
  | sat length timeout =>
      cases hPlan
      exact ⟨nofun, rfl, rfl, hConsistent.length_carriage, nofun⟩
  | jmicron setup =>
      obtain ⟨port, hPort, rfl⟩ := Option.map_eq_some_iff.mp hPlan
      have hData : ¬ JMicron.asksHealth request = true := hHealth
      have hCarriage : (JMicron.command setup port request).data = request.carriage :=
        if_neg hData
      refine ⟨nofun, if_neg hData, hCarriage, ?_, nofun⟩
      rw [hCarriage]
      exact hConsistent.length_carriage
  | prolific =>
      cases hPlan
      refine ⟨nofun, rfl, rfl, hConsistent.length_carriage, fun command hCommand => .inl ?_⟩
      simp only [Prolific.plan, List.mem_ite_nil_right, List.mem_singleton] at hCommand
      exact hCommand.2
  | sunplus =>
      cases hPlan
      refine ⟨fun command hCommand => ?_, rfl, rfl, hConsistent.length_carriage,
        fun command hCommand => .inr ?_⟩
      · simp only [Sunplus.plan, List.mem_ite_nil_right, List.mem_singleton] at hCommand
        rw [hCommand.2]
        exact ⟨rfl, rfl⟩
      · simp only [Sunplus.plan, List.mem_ite_nil_right, List.mem_singleton] at hCommand
        exact hCommand.2

theorem agree_of_plan {first second : Request} (hForced : translator.forcedBits? = some forced)
    (hFirst : translator.Accepts first) (hSecond : translator.Accepts second)
    (hHealth : ¬ translator.AsksHealth first) (hHealth' : ¬ translator.AsksHealth second)
    (hPlan : translator.plan? first = some plan) (hPlan' : translator.plan? second = some plan')
    (hCdbs : plan.commands.map (·.cdb) = plan'.commands.map (·.cdb)) :
    first.Agree forced second := by
  have hValid := (first.check_eq_ok_iff _ _).mp hFirst.checked
  have hValid' := (second.check_eq_ok_iff _ _).mp hSecond.checked
  cases translator with
  | cypress signature timeout label => cases hForced
  | sat length timeout =>
      cases hForced
      cases hPlan
      cases hPlan'
      have hCdb : Sat.cdb length first = Sat.cdb length second := List.head_eq_of_cons_eq hCdbs
      cases length with
      | long => exact Sat.agree_of_long hValid.1 hValid'.1 hCdb
      | short =>
          have hNarrow := Bool.eq_false_iff.mpr fun h => nomatch hFirst.fits h
          have hNarrow' := Bool.eq_false_iff.mpr fun h => nomatch hSecond.fits h
          exact Sat.agree_of_short hValid.1 hValid'.1 hNarrow hNarrow' hCdb
  | jmicron setup =>
      obtain ⟨port, hPort, rfl⟩ := Option.map_eq_some_iff.mp hForced
      rw [plan?, hPort] at hPlan hPlan'
      cases hPlan
      cases hPlan'
      exact JMicron.agree_of_cdb hValid hValid'
        (Bool.eq_false_iff.mpr hHealth) (Bool.eq_false_iff.mpr hHealth')
        (List.head_eq_of_cons_eq hCdbs)
  | prolific =>
      cases hForced
      cases hPlan
      cases hPlan'
      have hCdb : (Prolific.command first).cdb = (Prolific.command second).cdb :=
        List.head_eq_of_cons_eq hCdbs
      rw [Prolific.command_eq, Prolific.command_eq] at hCdb
      exact Prolific.agree_of_cdb hValid hValid' hCdb
  | sunplus =>
      cases hForced
      cases hPlan
      cases hPlan'
      exact Sunplus.agree_of_plan hValid hValid' hCdbs

/-- Two requests whose commands are the same, and all went through, say the same. Each of them
hands its data to the device below as it is. -/
theorem lossless {first second : Request} {registers registers' : RegisterFile OutputRegister}
    {exchanges exchanges' : List Scsi.Exchange} {answer answer' : Answer}
    (hForced : translator.forcedBits? = some forced)
    (hFirst : translator.Accepts first) (hSecond : translator.Accepts second)
    (hHealth : ¬ translator.AsksHealth first) (hHealth' : ¬ translator.AsksHealth second)
    (path : Dialogue.Path (translator.perform first registers) exchanges answer)
    (path' : Dialogue.Path (translator.perform second registers') exchanges' answer')
    (delivered : ∀ exchange ∈ exchanges, exchange.result = .ok ())
    (delivered' : ∀ exchange ∈ exchanges', exchange.result = .ok ())
    (hCdbs : exchanges.map (·.command.cdb) = exchanges'.map (·.command.cdb)) :
    first.Agree forced second ∧ first.CarriedBy (exchanges.map Scsi.Exchange.command) ∧
      second.CarriedBy (exchanges'.map Scsi.Exchange.command) := by
  obtain ⟨plan, hPlan⟩ := exists_plan hForced first
  obtain ⟨plan', hPlan'⟩ := exists_plan hForced second
  have hCommands := (follows_plan hPlan hFirst path).commands_eq delivered
  have hCommands' := (follows_plan hPlan' hSecond path').commands_eq delivered'
  have hSame : plan.commands.map (·.cdb) = plan'.commands.map (·.cdb) := by
    rw [← hCommands, ← hCommands', List.map_map, List.map_map]
    exact hCdbs
  rw [hCommands, hCommands']
  exact ⟨agree_of_plan hForced hFirst hSecond hHealth hHealth' hPlan hPlan' hSame,
    carriedBy_plan hPlan hFirst hHealth, carriedBy_plan hPlan' hSecond hHealth'⟩

/-- The bits that select a drive are set by the bridge, so that a request without them and one
with them make the same command. Nothing else may differ. -/
theorem agree_up_to_select_bits :
    let first : Request :=
      { registers := ({} : RegisterFile InputRegister).set .command Opcode.checkPowerMode }
    let second : Request := { first with registers := first.registers.set .device 0xb0 }
    let setup : JMicron.Setup := ⟨true, false, some .one⟩
    let sent : Request → Scsi.Exchange := fun request =>
      let command := JMicron.command setup .one request
      ⟨⟨command, some "UsbJmicronDevice::ata_pass_through: "⟩, ⟨.ok (), command.complete {}⟩⟩
    Dialogue.Path ((jmicron setup).perform first {}) [sent first] ⟨.ok (), {}, none⟩ ∧
      Dialogue.Path ((jmicron setup).perform second {}) [sent second] ⟨.ok (), {}, none⟩ ∧
      (sent first).command.cdb = (sent second).command.cdb ∧ first.Agree 0xb0 second := by
  intro first second setup sent
  let party : Scsi.Query → Unit → Scsi.Answer × Unit := fun query state =>
    (⟨.ok (), query.command.complete {}⟩, state)
  have path : Dialogue.Path ((jmicron setup).perform first {}) [sent first] ⟨.ok (), {}, none⟩ :=
    Dialogue.path_of_run party _ () rfl
  have path' : Dialogue.Path ((jmicron setup).perform second {}) [sent second] ⟨.ok (), {}, none⟩ :=
    Dialogue.path_of_run party _ () rfl
  have hFirst : (jmicron setup).Accepts first := ⟨rfl, rfl⟩
  have hSecond : (jmicron setup).Accepts second := ⟨rfl, rfl⟩
  have delivered : ∀ request, ∀ exchange ∈ [sent request], exchange.result = .ok () := by
    intro request exchange hExchange
    rw [List.mem_singleton.mp hExchange]
    rfl
  have hCdb : (sent first).command.cdb = (sent second).command.cdb := by decide
  have hAgree := lossless rfl hFirst hSecond nofun nofun path path' (delivered first)
    (delivered second) (congrArg ([·]) hCdb)
  exact ⟨path, path', hCdb, hAgree.1⟩

end Translator

end DriveBridge.Ata
