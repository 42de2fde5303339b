import DriveBridge.Proofs.Ata.Plan

/-! Requests that are carried out as an operation of the fixed table. Which operation that is, is
said by the registers in which the operation is asked for. Whoever carries operations out is called
once for such a request, and is lent either the bytes to be transferred or a sector of its own. -/
namespace DriveBridge.Ata.SmartOperation

/-- The command by which an operation is asked for. -/
def opcode : SmartOperation → UInt8
  | identify => Opcode.identify
  | identifyPacket => Opcode.identifyPacket
  | checkPowerMode => Opcode.checkPowerMode
  | enable | disable | autosave | immediateOffline | autoOffline | status | statusCheck
  | readValues | readThresholds | readLog | writeLog => Opcode.smart

/-- The features byte by which an operation is told from the other ones of its command. -/
def feature? : SmartOperation → Option UInt8
  | identify | identifyPacket | checkPowerMode => none
  | enable => some SmartFeature.enable
  | disable => some SmartFeature.disable
  | autosave => some SmartFeature.autosave
  | immediateOffline => some SmartFeature.immediateOffline
  | autoOffline => some SmartFeature.autoOffline
  | status | statusCheck => some SmartFeature.returnStatus
  | readValues => some SmartFeature.readData
  | readThresholds => some SmartFeature.readThresholds
  | readLog => some SmartFeature.readLog
  | writeLog => some SmartFeature.writeLog

/-- The register that holds what an operation carries along. -/
def selectRegister? : SmartOperation → Option InputRegister
  | readLog | writeLog | immediateOffline => some .lbaLow
  | autoOffline | autosave => some .sectorCount
  | enable | disable | status | statusCheck | readValues | readThresholds | identify
  | identifyPacket | checkPowerMode => none

/-- The registers of a request ask for an operation. Whether the outcome of SMART RETURN STATUS is
reported back depends on one of the registers that are wanted. -/
structure StandsFor (request : Request) (operation : SmartOperation) (select : UInt8) : Prop where
  command : request.registers.value .command = operation.opcode
  feature : ∀ feature, operation.feature? = some feature →
    request.registers.value .features = feature
  select : select = (operation.selectRegister?.map request.registers.value).getD 0
  unreported : operation = .status → request.wanted .lbaHigh = false
  reported : operation = .statusCheck → request.wanted .lbaHigh = true

section Mapping

variable {request : Request} {operation : SmartOperation} {select : UInt8}

/-- One row of the table of SMART commands, and the rows after it. -/
theorem standsFor_of_row {found : SmartOperation} {carried feature : UInt8}
    {rest : Except Unmapped (SmartOperation × UInt8)}
    (hCommand : request.registers.value .command = found.opcode)
    (hFeature : found.feature? = some feature)
    (hSelect : carried = (found.selectRegister?.map request.registers.value).getD 0)
    (hPlain : found ≠ .status ∧ found ≠ .statusCheck)
    (hRest : rest = .ok (operation, select) → StandsFor request operation select)
    (hMapped : (if request.registers.value .features = feature then .ok (found, carried)
      else rest) = .ok (operation, select)) : StandsFor request operation select := by
  split at hMapped
  · next hRow =>
    cases hMapped
    refine ⟨hCommand, fun other hOther => ?_, hSelect, fun h => (hPlain.1 h).elim,
      fun h => (hPlain.2 h).elim⟩
    rw [hRow, ← Option.some_inj, ← hFeature, hOther]
  · exact hRest hMapped

theorem standsFor_of_smart (hCommand : request.registers.value .command = Opcode.smart)
    (hMapped : ofSmart request = .ok (operation, select)) : StandsFor request operation select := by
  revert hMapped
  refine standsFor_of_row hCommand rfl rfl (by decide) ?_
  refine standsFor_of_row hCommand rfl rfl (by decide) ?_
  refine standsFor_of_row hCommand rfl rfl (by decide) ?_
  refine standsFor_of_row hCommand rfl rfl (by decide) ?_
  refine standsFor_of_row hCommand rfl rfl (by decide) ?_
  refine standsFor_of_row hCommand rfl rfl (by decide) fun hMapped => ?_
  split at hMapped
  · next hStatus =>
    cases hHigh : request.wanted .lbaHigh with
    | true =>
        rw [hHigh] at hMapped
        cases hMapped
        exact ⟨hCommand, fun _ h => hStatus.trans (Option.some_inj.mp h), rfl, nofun, fun _ => hHigh⟩
    | false =>
        rw [hHigh] at hMapped
        cases hMapped
        exact ⟨hCommand, fun _ h => hStatus.trans (Option.some_inj.mp h), rfl, fun _ => hHigh, nofun⟩
  · revert hMapped
    refine standsFor_of_row hCommand rfl rfl (by decide) ?_
    refine standsFor_of_row hCommand rfl rfl (by decide) ?_
    exact standsFor_of_row hCommand rfl rfl (by decide) nofun

/-- The operation that is found for a request is the one that its registers ask for. -/
theorem ofRequest_eq_ok_iff :
    ofRequest request = .ok (operation, select) ↔ StandsFor request operation select := by
  constructor
  · intro hMapped
    unfold ofRequest at hMapped
    dsimp only at hMapped
    split at hMapped
    · next hCommand =>
      cases hMapped
      exact ⟨hCommand, nofun, rfl, nofun, nofun⟩
    split at hMapped
    · next hCommand =>
      cases hMapped
      exact ⟨hCommand, nofun, rfl, nofun, nofun⟩
    split at hMapped
    · next hCommand =>
      cases hMapped
      exact ⟨hCommand, nofun, rfl, nofun, nofun⟩
    split at hMapped
    · next hCommand => exact standsFor_of_smart hCommand hMapped
    · cases hMapped
  · intro hStands
    obtain ⟨hCommand, hFeature, rfl, hUnreported, hReported⟩ := hStands
    cases operation with
    | identify | identifyPacket | checkPowerMode =>
        rw [ofRequest, hCommand]
        rfl
    | status =>
        rw [ofRequest, hCommand]
        simp only [ofSmart, hFeature _ rfl, hUnreported rfl]
        rfl
    | statusCheck =>
        rw [ofRequest, hCommand]
        simp only [ofSmart, hFeature _ rfl, hReported rfl]
        rfl
    | _ =>
        rw [ofRequest, hCommand]
        simp only [ofSmart, hFeature _ rfl]
        rfl

namespace StandsFor

variable (stands : StandsFor request operation select)

include stands

/-- A request for the power mode has an operation of its own, -/
theorem checkPowerMode_iff :
    operation = .checkPowerMode ↔ request.registers.value .command = Opcode.checkPowerMode := by
  rw [stands.command]
  cases operation <;> decide

/-- and SMART RETURN STATUS has two, -/
theorem isSmartStatus_iff :
    request.isSmartStatus = true ↔ operation = .status ∨ operation = .statusCheck := by
  rw [Request.isSmartStatus, Bool.and_eq_true, beq_iff_eq, beq_iff_eq, stands.command]
  cases operation with
  | status | statusCheck => simp [opcode, stands.feature _ rfl]
  | identify | identifyPacket | checkPowerMode =>
      exact iff_of_false (fun h => absurd h.1 (by decide)) (by decide)
  | _ =>
      rw [stands.feature _ rfl]
      exact iff_of_false (fun h => absurd h.2 (by decide)) (by decide)

end StandsFor

/-- A request for the health is carried out as one operation, which carries nothing along. -/
theorem ofRequest_of_isSmartStatus (hStatus : request.isSmartStatus = true)
    (hHigh : request.wanted .lbaHigh = true) : ofRequest request = .ok (statusCheck, 0) := by
  simp only [Request.isSmartStatus, Bool.and_eq_true, beq_iff_eq] at hStatus
  refine ofRequest_eq_ok_iff.mpr ⟨hStatus.1, fun _ h => ?_, rfl, nofun, fun _ => hHigh⟩
  exact hStatus.2.trans (Option.some_inj.mp h)

end Mapping

section Conclusion

variable {request : Request} {operation : SmartOperation} {select : UInt8}
  {registers : RegisterFile OutputRegister}

theorem buffer_concluded (operation : SmartOperation) (request : Request)
    (outcome : Answer) (registers : RegisterFile OutputRegister) :
    (concluded operation request outcome registers).buffer =
      if operation = .checkPowerMode then request.buffer
      else request.bufferAfter outcome.data := by
  unfold concluded
  cases outcome.result <;> rfl

theorem result_concluded (operation : SmartOperation) (request : Request) (outcome : Answer)
    (registers : RegisterFile OutputRegister) :
    (concluded operation request outcome registers).result = outcome.result.map fun _ => () := by
  unfold concluded
  cases outcome.result <;> rfl

end Conclusion

end DriveBridge.Ata.SmartOperation
