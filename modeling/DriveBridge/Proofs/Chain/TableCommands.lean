import DriveBridge.Proofs.Ata.Cypress
import DriveBridge.Proofs.Chain.Relay

/-! The command that reaches a drive behind a bridge of the fixed table. A request is taken apart
into an operation, and the operation is put together again from the table, with defaults of its own.
What the bridge is sent is nevertheless what was asked for. -/
namespace DriveBridge

namespace Ata

/-- An ATACB has the registers of a request in it. The table fills in the ones that the command does
not depend on. -/
structure Request.InAtacb (request : Request) (command : Scsi.Command) : Prop where
  length : command.cdb.length = 16
  opcode : command.cdb.byte 12 = request.registers.value .command
  smart : request.registers.value .command = Opcode.smart →
    command.cdb.byte 6 = request.registers.value .features ∧
      command.cdb.byte 9 = 0x4f ∧ command.cdb.byte 10 = 0xc2
  select : request.registers.value .command = Opcode.smart →
    request.registers.value .features ∈
      [SmartFeature.readLog, SmartFeature.writeLog, SmartFeature.immediateOffline] →
        command.cdb.byte 8 = request.registers.value .lbaLow
  setting : request.registers.value .command = Opcode.smart →
    request.registers.value .features ∈ [SmartFeature.autoOffline, SmartFeature.autosave] →
      command.cdb.byte 7 = request.registers.value .sectorCount
  sector : command.direction ≠ .none → command.cdb.byte 7 = request.registers.value .sectorCount
  identify : command.cdb.byte 2 &&& 0x80 = 0x80 ↔
    request.registers.value .command = Opcode.identify ∨
      request.registers.value .command = Opcode.identifyPacket

/-- The requests whose result is in the registers that the drive returns. -/
def Request.ReadsBack (request : Request) : Prop :=
  request.registers.value .command = Opcode.checkPowerMode ∨ request.isSmartStatus = true

namespace SmartOperation

variable {request : Request} {operation : SmartOperation} {select feature : UInt8}

theorem exists_feature (hSmart : operation.opcode = Opcode.smart) :
    ∃ feature, operation.feature? = some feature := by
  cases operation with
  | identify | identifyPacket | checkPowerMode => exact absurd hSmart (by decide)
  | _ => exact ⟨_, rfl⟩

theorem selectRegister?_eq_lbaLow (hFeature : operation.feature? = some feature)
    (hSelect : feature ∈
      [SmartFeature.readLog, SmartFeature.writeLog, SmartFeature.immediateOffline]) :
    operation.selectRegister? = some .lbaLow := by
  cases operation with
  | identify | identifyPacket | checkPowerMode => cases hFeature
  | readLog | writeLog | immediateOffline => rfl
  | _ =>
      cases hFeature
      exact absurd hSelect (by decide)

theorem selectRegister?_eq_sectorCount (hFeature : operation.feature? = some feature)
    (hSetting : feature ∈ [SmartFeature.autoOffline, SmartFeature.autosave]) :
    operation.selectRegister? = some .sectorCount := by
  cases operation with
  | identify | identifyPacket | checkPowerMode => cases hFeature
  | autoOffline | autosave => rfl
  | _ =>
      cases hFeature
      exact absurd hSetting (by decide)

end SmartOperation

namespace Cypress

section TaskFile

variable (operation : SmartOperation) (select : UInt8)

@[simp] theorem command_taskFile : (taskFile operation select).command = operation.opcode := by
  cases operation <;> rfl

theorem features_taskFile {feature : UInt8} (hFeature : operation.feature? = some feature) :
    (taskFile operation select).features = feature := by
  cases operation <;> cases hFeature <;> rfl

theorem lbaLow_taskFile (hSelect : operation.selectRegister? = some .lbaLow) :
    (taskFile operation select).lbaLow = select := by
  cases operation <;> cases hSelect <;> rfl

theorem sectorCount_taskFile (hSelect : operation.selectRegister? = some .sectorCount) :
    (taskFile operation select).sectorCount = select := by
  cases operation <;> cases hSelect <;> rfl

/-- The table moves one sector at most. -/
theorem sectorCount_taskFile_of_moves (hMoves : (taskFile operation select).direction ≠ .none) :
    (taskFile operation select).sectorCount = 1 := by
  cases operation with
  | readValues | readThresholds | readLog | writeLog | identify | identifyPacket => rfl
  | _ => exact (hMoves rfl).elim

theorem isIdentify_taskFile_iff : (taskFile operation select).isIdentify = true ↔
    operation.opcode = Opcode.identify ∨ operation.opcode = Opcode.identifyPacket := by
  simp only [TaskFile.isIdentify, command_taskFile, Bool.or_eq_true, beq_iff_eq]

end TaskFile

theorem TaskFile.byte_cdb_smart {file : TaskFile} (hSmart : file.command = Opcode.smart)
    (signature action : UInt8) : (file.cdb signature action).byte 9 = healthyMid ∧
      (file.cdb signature action).byte 10 = healthyHigh := by
  unfold cdb
  rw [if_pos hSmart]
  exact ⟨rfl, rfl⟩

section Request

variable {request : Request} {operation : SmartOperation} {select : UInt8}

open SmartOperation (StandsFor)

/-- The registers that only some of the operations read back are read back for the requests whose
result they are. -/
theorem readBack_taskFile_iff (stands : StandsFor request operation select) :
    (taskFile operation select).readBack = true ↔ request.ReadsBack := by
  rw [Request.ReadsBack, stands.isSmartStatus_iff, ← stands.checkPowerMode_iff]
  cases operation <;> simp [taskFile]

/-- The one sector that the table moves is the one that the request has counted. -/
theorem sectorCount_of_moves (hChecked : request.check SmartOperation.support none = .ok ())
    (hMoves : (taskFile operation select).direction ≠ .none)
    (hRoom : sectorSize ≤ (SmartOperation.sector operation request).length) :
    request.registers.value .sectorCount = 1 := by
  obtain ⟨hConsistent, hSupported⟩ := (request.check_eq_ok_iff _ _).mp hChecked
  rw [length_sector hConsistent hMoves] at hRoom
  have hSize : request.size = sectorSize := by
    rcases hSupported.size_cases rfl with hNone | hOne
    · rw [hNone] at hRoom
      exact absurd hRoom (by decide)
    · exact hOne
  have hData : request.direction ≠ .noData :=
    hConsistent.direction_ne_noData (by rw [hSize]; decide)
  have hCount := hConsistent.count hData
  rw [hSize] at hCount
  unfold Request.sectorCount sectorSize at hCount
  rw [← UInt8.toNat_inj]
  change _ = 1
  omega

theorem inAtacb_carrier (hChecked : request.check SmartOperation.support none = .ok ())
    (stands : StandsFor request operation select)
    (hRoom : (taskFile operation select).direction ≠ .none →
      sectorSize ≤ (SmartOperation.sector operation request).length)
    (signature : UInt8) (timeout : UInt32) (data : Bytes) :
    request.InAtacb ((taskFile operation select).carrier signature timeout data) where
  length := rfl
  opcode := (command_taskFile operation select).trans stands.command.symm
  smart hSmart := by
    have hOpcode := stands.command.symm.trans hSmart
    obtain ⟨feature, hFeature⟩ := SmartOperation.exists_feature hOpcode
    refine ⟨?_, TaskFile.byte_cdb_smart ((command_taskFile operation select).trans hOpcode) _ _⟩
    rw [stands.feature feature hFeature]
    exact features_taskFile operation select hFeature
  select hSmart hSelect := by
    have hOpcode := stands.command.symm.trans hSmart
    obtain ⟨feature, hFeature⟩ := SmartOperation.exists_feature hOpcode
    rw [stands.feature feature hFeature] at hSelect
    have hRegister := SmartOperation.selectRegister?_eq_lbaLow hFeature hSelect
    refine (lbaLow_taskFile operation select hRegister).trans ?_
    rw [stands.select, hRegister]
    rfl
  setting hSmart hSetting := by
    have hOpcode := stands.command.symm.trans hSmart
    obtain ⟨feature, hFeature⟩ := SmartOperation.exists_feature hOpcode
    rw [stands.feature feature hFeature] at hSetting
    have hRegister := SmartOperation.selectRegister?_eq_sectorCount hFeature hSetting
    refine (sectorCount_taskFile operation select hRegister).trans ?_
    rw [stands.select, hRegister]
    rfl
  sector hMoves := by
    rw [sectorCount_of_moves hChecked hMoves (hRoom hMoves)]
    exact sectorCount_taskFile_of_moves operation select hMoves
  identify := by
    rw [stands.command, ← isIdentify_taskFile_iff operation select]
    change (taskFile operation select).actionByte &&& 0x80 = 0x80 ↔ _
    unfold TaskFile.actionByte
    cases (taskFile operation select).isIdentify <;> decide

end Request

end Cypress

end Ata

namespace Chain

/-- The endpoint delivers a command, and no sense data comes with the reply. -/
def Unobjected (command : Scsi.Command) (answer : Except Fault Scsi.Reply) : Prop :=
  ∃ reply, answer = .ok reply ∧ (command.complete reply).hasSense = false

/-- What a session gets for an ATACB, given what the endpoint answered. -/
structure Reflects (command : Scsi.Command) (answer : Scsi.Answer)
    (reply : Except Fault Scsi.Reply) : Prop where
  judged : Ata.Cypress.judged answer = .ok () ↔ Unobjected command reply
  completion : ∀ received, reply = .ok received → answer.completion = command.complete received

theorem Transmitted.exists_reflected {unit : Nat} {limit : UInt32} {command : Scsi.Command}
    {answer : Scsi.Answer} {below : Exchange}
    (transmitted : Transmitted unit limit ⟨⟨command, none⟩, answer⟩ below) :
    ∃ reply, below = ⟨.transmit unit command, reply⟩ ∧ Reflects command answer reply := by
  cases transmitted with
  | lost query fault => exact ⟨.error fault, rfl, iff_of_false nofun nofun, nofun⟩
  | delivered query reply result judged =>
      refine ⟨.ok reply, rfl, ?_, fun received hReceived => ?_⟩
      · rw [judged.mpr (.inl rfl), Ata.Cypress.judged]
        dsimp only
        constructor
        · intro hJudged
          split at hJudged
          · cases hJudged
          · next hSense => exact ⟨reply, rfl, eq_false_of_ne_true hSense⟩
        · rintro ⟨_, ⟨⟩, hSense⟩
          exact if_neg (ne_true_of_eq_false hSense)
      · cases hReceived
        rfl

section Relays

variable {inner : ScsiDevice} {first second : Scsi.Command} {answer next : Scsi.Answer}
  {below : List Exchange}

theorem ScsiDevice.Relays.exists_carrier (relays : inner.Relays [⟨⟨first, none⟩, answer⟩] below) :
    ∃ reply, below = [⟨.transmit inner.place.unit first, reply⟩] ∧
      Reflects first answer reply := by
  obtain ⟨exchange, hRelayed, rfl⟩ := relays.exists_one
  obtain ⟨reply, rfl, hReflects⟩ := hRelayed.transmitted.exists_reflected
  exact ⟨reply, rfl, hReflects⟩

theorem ScsiDevice.Relays.exists_carrier_reader
    (relays : inner.Relays [⟨⟨first, none⟩, answer⟩, ⟨⟨second, none⟩, next⟩] below) :
    ∃ reply later, below = [⟨.transmit inner.place.unit first, reply⟩,
      ⟨.transmit inner.place.unit second, later⟩] ∧
        Reflects first answer reply ∧ Reflects second next later := by
  obtain ⟨exchange, _, hRelayed, hLater, rfl⟩ := List.forall₂_cons_left_iff.mp relays
  obtain ⟨reply, rfl, hReflects⟩ := hRelayed.transmitted.exists_reflected
  obtain ⟨later, rfl, hReader⟩ := exists_carrier hLater
  exact ⟨reply, later, rfl, hReflects, hReader⟩

end Relays

/-- How a request goes on the wire. A second ATACB asks for the registers that the first one left,
and differs from it only in the byte that says so. Nothing succeeds without the last ATACB. -/
inductive Commanded (unit : Nat) (request : Ata.Request) :
    List Exchange → Except Failure Unit → Prop where
  | unsent (failure : Failure) : Commanded unit request [] (.error failure)
  | once (command : Scsi.Command) (answer : Except Fault Scsi.Reply)
      (result : Except Failure Unit) (carried : request.InAtacb command)
      (last : ¬ (request.ReadsBack ∧ Unobjected command answer))
      (success : result = .ok () ↔ Unobjected command answer) :
      Commanded unit request [⟨.transmit unit command, answer⟩] result
  | twice (first second : Scsi.Command) (answer next : Except Fault Scsi.Reply)
      (result : Except Failure Unit) (carried : request.InAtacb first)
      (readsBack : request.ReadsBack) (unobjected : Unobjected first answer)
      (same : second.cdb = first.cdb.set 2 0x01)
      (success : result = .ok () → Unobjected second next) :
      Commanded unit request
        [⟨.transmit unit first, answer⟩, ⟨.transmit unit second, next⟩] result

section Cypress

variable {signature : UInt8} {timeout : UInt32} {request : Ata.Request}
  {operation : Ata.SmartOperation} {select : UInt8} {outcome : Ata.SmartOperation.Answer}
  {inner : ScsiDevice} {above : List Scsi.Exchange} {below : List Exchange}

open Ata.Cypress

theorem commanded_of_course {registers : Ata.RegisterFile Ata.OutputRegister}
    (hChecked : request.check Ata.SmartOperation.support none = .ok ())
    (stands : Ata.SmartOperation.StandsFor request operation select)
    (course : Course signature timeout
      ⟨operation, select, Ata.SmartOperation.sector operation request⟩ above outcome)
    (relays : inner.Relays above below) :
    Commanded inner.place.unit request below
      (Ata.SmartOperation.concluded operation request outcome registers).result := by
  have hResult := Ata.SmartOperation.result_concluded operation request outcome registers
  cases course with
  | short failure hMoves hShort =>
      cases List.forall₂_nil_left_iff.mp relays
      exact .unsent failure
  | failed reply failure hRoom hFailed =>
      obtain ⟨answer, rfl, hCarrier⟩ := relays.exists_carrier
      have hObjected : ¬ Unobjected _ answer := fun h => by
        cases hFailed.symm.trans (hCarrier.judged.mpr h)
      exact .once _ answer _ (inAtacb_carrier hChecked stands hRoom _ _ _)
        (fun h => hObjected h.2) (iff_of_false (by rw [hResult]; nofun) hObjected)
  | carried reply hRoom hDone hUnread =>
      obtain ⟨answer, rfl, hCarrier⟩ := relays.exists_carrier
      have hPlain : ¬ request.ReadsBack := fun h => by
        cases hUnread.symm.trans ((readBack_taskFile_iff stands).mpr h)
      exact .once _ answer _ (inAtacb_carrier hChecked stands hRoom _ _ _)
        (fun h => hPlain h.1) (iff_of_true hResult (hCarrier.judged.mp hDone))
  | read reply second hRoom hDone hReads =>
      obtain ⟨answer, next, rfl, hCarrier, hReader⟩ := relays.exists_carrier_reader
      refine .twice _ _ answer next _ (inAtacb_carrier hChecked stands hRoom _ _ _)
        ((readBack_taskFile_iff stands).mp hReads) (hCarrier.judged.mp hDone) rfl fun hOk => ?_
      cases hOut : (concludedRead operation _ second).result with
      | error failure =>
          rw [hOut] at hResult
          cases hResult.symm.trans hOk
      | ok health => exact hReader.judged.mp (judged_of_concludedRead hOut)

end Cypress

/-- A bridge of the fixed table is given something for a request exactly if it accepts it. -/
theorem BridgeLayer.ensures_performed (profile : Profile) (signature : UInt8)
    (inner : ScsiDevice) (query : Ata.Query) :
    let layer : BridgeLayer := ⟨profile, .cypress signature⟩
    ((AtaDevice.bridge layer inner).perform query).Ensures fun below outcome =>
      (below ≠ [] ↔ layer.translator.Accepts query.request) ∧ ∃ above,
        Ata.Cypress.Performed signature profile.timeout query.request query.registers above
          outcome.1 ∧ inner.Relays above below := by
  intro layer
  have hAccepts : (layer.translator.perform query.request query.registers).Ensures
      fun above _ => above ≠ [] ↔ layer.translator.Accepts query.request :=
    (layer.translator.safe_perform _ _).ensures_path.mono fun _ _ path =>
      Ata.Translator.sends_iff_accepts path
  have hPerform := (Ata.Cypress.ensures_perform query.request query.registers).and hAccepts
  refine (layer.ensures_perform inner hPerform).mono fun below outcome hServed => ?_
  obtain ⟨above, ⟨hPerformed, hAccepts⟩, hRelays⟩ := hServed
  exact ⟨hRelays.ne_nil_iff.symm.trans hAccepts, above, hPerformed, hRelays⟩

/-- What a bridge of the fixed table sends for a request is what the request asks for, and a request
for which it sends nothing fails. -/
theorem BridgeLayer.sends_what_is_asked (profile : Profile) (signature : UInt8)
    (inner : ScsiDevice) (query : Ata.Query) :
    let layer : BridgeLayer := ⟨profile, .cypress signature⟩
    ((AtaDevice.bridge layer inner).perform query).Ensures fun below outcome =>
      (below ≠ [] ↔ layer.translator.Accepts query.request) ∧
        Commanded inner.place.unit query.request below outcome.1.result := by
  intro layer
  refine (BridgeLayer.ensures_performed profile signature inner query).mono ?_
  intro below outcome ⟨hAccepts, above, hPerformed, hRelays⟩
  refine ⟨hAccepts, ?_⟩
  generalize outcome.1 = answer at hPerformed
  cases hPerformed with
  | refused failure unsent =>
      rw [unsent] at hRelays
      cases List.forall₂_nil_left_iff.mp hRelays
      exact .unsent failure
  | operated operation select outcome checked mapped course =>
      exact commanded_of_course checked
        (Ata.SmartOperation.ofRequest_eq_ok_iff.mp mapped) course hRelays

end Chain

end DriveBridge
