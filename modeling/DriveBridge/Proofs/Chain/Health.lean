import DriveBridge.Proofs.Chain.SectorDirection
import DriveBridge.Proofs.Chain.TableCommands

/-! The health of a drive behind a bridge that returns no registers. The registers that tell it are
made up, from what a second command has read or from a single byte. They are made up only from what
the drive has said: nothing that is missing or garbled looks like the health of a drive. -/
namespace DriveBridge

namespace Ata

open SmartOperation (signature)

theorem SmartOperation.signature_ne_zero (health : Health) :
    (signature health).1 ≠ 0 ∧ (signature health).2 ≠ 0 := by
  cases health <;> decide

/-- What stands in the room for the byte tells no health either. -/
theorem SmartOperation.signature_ne_filler (health : Health) : (signature health).2 ≠ 0xff := by
  cases health <;> decide

theorem Cypress.health?_eq_some_iff {mid high : UInt8} {health : Health} :
    health? mid high = some health ↔ mid = (signature health).1 ∧ high = (signature health).2 := by
  unfold health?
  cases health with
  | passed =>
      split
      · next hPassed => exact iff_of_true rfl hPassed
      · next hOther =>
          refine iff_of_false ?_ hOther
          split <;> nofun
  | thresholdExceeded =>
      split
      · next hPassed =>
          refine iff_of_false nofun fun hFailing => ?_
          exact absurd (hPassed.2.symm.trans hFailing.2) (by decide)
      · split
        · next hFailing => exact iff_of_true rfl hFailing
        · next hOther => exact iff_of_false nofun hOther

/-- Registers that were not read do not tell a health, since none is told by a zero. -/
theorem Cypress.health?_byte_iff {registers : Bytes} {health : Health} :
    health? (registers.byte 4) (registers.byte 5) = some health ↔
      registers[4]? = some (signature health).1 ∧ registers[5]? = some (signature health).2 := by
  have hZero := SmartOperation.signature_ne_zero health
  rw [health?_eq_some_iff, Bytes.byte_eq_iff hZero.1, Bytes.byte_eq_iff hZero.2]

namespace JMicron

/-- A byte tells a health if it was transferred. -/
def Tells (completion : Scsi.Completion) (health : Health) : Prop :=
  completion.residual ≠ 1 ∧ completion.data.byte 0 = (signature health).2

/-- The registers are made up from the health that the byte tells, and not without one. -/
theorem healthRegisters_cases (completion : Scsi.Completion)
    (registers : RegisterFile OutputRegister) :
    (∃ health, Tells completion health ∧ healthRegisters completion registers =
      .ok ((registers.set .lbaMid (signature health).1).set .lbaHigh (signature health).2)) ∨
      (∀ health, ¬ Tells completion health) ∧
        ∃ failure, healthRegisters completion registers = .error failure := by
  unfold healthRegisters
  dsimp only
  split
  · next hMissing => exact .inr ⟨fun _ hTells => hTells.1 hMissing, _, rfl⟩
  split
  · next hComplete hPassed => exact .inl ⟨.passed, ⟨hComplete, hPassed⟩, rfl⟩
  split
  · next hComplete _ hFailing => exact .inl ⟨.thresholdExceeded, ⟨hComplete, hFailing⟩, rfl⟩
  · next hPassed hFailing =>
      refine .inr ⟨fun health hTells => ?_, _, rfl⟩
      cases health with
      | passed => exact hPassed hTells.2
      | thresholdExceeded => exact hFailing hTells.2

end JMicron

end Ata

namespace Chain

open Ata.SmartOperation (signature)

/-- A request has succeeded with the two registers that tell the health, and with no other register
changed. -/
structure ReportsHealth (before : Ata.RegisterFile Ata.OutputRegister) (answer : Ata.Answer)
    (mid high : UInt8) : Prop where
  success : answer.result = .ok ()
  registers : answer.registers = (before.set .lbaMid mid).set .lbaHigh high

/-- What a request for the health comes to, given which bytes a drive has told. -/
structure HealthVerdict (Told : UInt8 → UInt8 → Prop)
    (before : Ata.RegisterFile Ata.OutputRegister) (answer : Ata.Answer) : Prop where
  passed : ReportsHealth before answer 0x4f 0xc2 ↔ Told 0x4f 0xc2
  failing : ReportsHealth before answer 0xf4 0x2c ↔ Told 0xf4 0x2c
  success : answer.result = .ok () →
    ReportsHealth before answer 0x4f 0xc2 ∨ ReportsHealth before answer 0xf4 0x2c
  failure : ∀ failure, answer.result = .error failure → answer.registers = before

section Verdict

variable {Told : UInt8 → UInt8 → Prop} {before : Ata.RegisterFile Ata.OutputRegister}
  {answer : Ata.Answer}

theorem ReportsHealth.high_eq {mid high mid' high' : UInt8}
    (reports : ReportsHealth before answer mid high)
    (reports' : ReportsHealth before answer mid' high') : high = high' := by
  have hHigh := congrArg (fun registers => registers.current Ata.OutputRegister.lbaHigh)
    (reports.registers.symm.trans reports'.registers)
  exact Option.some_inj.mp hHigh

theorem HealthVerdict.of_told {health : Ata.Health}
    (hTold : Told (signature health).1 (signature health).2)
    (hOnly : ∀ mid high, Told mid high → high = (signature health).2)
    (reports : ReportsHealth before answer (signature health).1 (signature health).2) :
    HealthVerdict Told before answer := by
  have hFailure : ∀ failure, answer.result = .error failure → answer.registers = before := by
    intro failure hFailed
    cases reports.success.symm.trans hFailed
  cases health with
  | passed =>
      refine ⟨iff_of_true reports hTold, iff_of_false (fun reports' => ?_) fun hOther => ?_,
        fun _ => .inl reports, hFailure⟩
      · exact absurd (reports.high_eq reports') (by decide)
      · exact absurd (hOnly _ _ hOther) (by decide)
  | thresholdExceeded =>
      refine ⟨iff_of_false (fun reports' => ?_) fun hOther => ?_, iff_of_true reports hTold,
        fun _ => .inr reports, hFailure⟩
      · exact absurd (reports.high_eq reports') (by decide)
      · exact absurd (hOnly _ _ hOther) (by decide)

theorem HealthVerdict.of_untold {failure : Failure}
    (hUntold : ∀ health, ¬ Told (signature health).1 (signature health).2)
    (hResult : answer.result = .error failure) (hRegisters : answer.registers = before) :
    HealthVerdict Told before answer := by
  have hFails : answer.result ≠ .ok () := by
    rw [hResult]
    nofun
  exact ⟨iff_of_false (fun reports => hFails reports.success) (hUntold .passed),
    iff_of_false (fun reports => hFails reports.success) (hUntold .thresholdExceeded),
    fun hOk => (hFails hOk).elim, fun _ _ => hRegisters⟩

end Verdict

namespace Encoding

/-- The requests for which a bridge makes the registers up. -/
def AsksHealth : Encoding → Ata.Request → Prop
  | cypress _, request => request.isSmartStatus = true ∧ request.wanted .lbaHigh = true
  | jmicron _, request => request.isSmartStatus = true ∧ request.wantsRegisters = true
  | prolific, _ | sunplus, _ => False

/-- Every command went through, and the drive has told its health by these bytes: in the registers
that were read back, or by the byte that was transferred for the upper one. -/
inductive Told : Encoding → List Exchange → UInt8 → UInt8 → Prop where
  | read {signature mid high : UInt8} {unit : Nat} {first second : Scsi.Command}
      {carried registers : Scsi.Reply} (hCarrier : (first.complete carried).hasSense = false)
      (hReader : (second.complete registers).hasSense = false)
      (hMid : registers.data[4]? = some mid) (hHigh : registers.data[5]? = some high) :
      Told (.cypress signature)
        [⟨.transmit unit first, .ok carried⟩, ⟨.transmit unit second, .ok registers⟩] mid high
  | transferred {setup : Ata.JMicron.Setup} {mid high : UInt8} {unit : Nat}
      {command : Scsi.Command} {reply : Scsi.Reply}
      (hVerdict : (command.complete reply).verdict.isError = false) (hComplete : reply.residual ≠ 1)
      (hHigh : reply.data[0]? = some high) :
      Told (.jmicron setup) [⟨.transmit unit command, .ok reply⟩] mid high

end Encoding

section Cypress

variable {signature : UInt8} {timeout : UInt32} {request : Ata.Request}
  {registers : Ata.RegisterFile Ata.OutputRegister} {outcome : Ata.SmartOperation.Answer}
  {data : Bytes} {inner : ScsiDevice} {above : List Scsi.Exchange} {below : List Exchange}

open Ata.Cypress

theorem healthVerdict_of_course
    (course : Course signature timeout ⟨.statusCheck, 0, data⟩ above outcome)
    (relays : inner.Relays above below) :
    HealthVerdict ((Encoding.cypress signature).Told below) registers
      (Ata.SmartOperation.concluded .statusCheck request outcome registers) := by
  cases course with
  | short failure hMoves hShort => exact (hMoves rfl).elim
  | carried reply hRoom hDone hUnread => cases hUnread
  | failed reply failure hRoom hFailed =>
      obtain ⟨exchange, -, rfl⟩ := relays.exists_one
      exact .of_untold (fun health hTold => by cases hTold) rfl rfl
  | read reply second hRoom hDone hReads =>
      obtain ⟨answer, next, rfl, hCarrier, hReader⟩ := relays.exists_carrier_reader
      cases hSecondJudged : judged second with
      | error failure =>
          rw [concludedRead_of_failed hSecondJudged]
          refine .of_untold (fun health hTold => ?_) rfl rfl
          cases hTold with
          | read _ hSense _ _ =>
              cases hSecondJudged.symm.trans (hReader.judged.mpr ⟨_, rfl, hSense⟩)
      | ok _ =>
          obtain ⟨carried, rfl, hFirst⟩ := hCarrier.judged.mp hDone
          obtain ⟨read, rfl, hSense⟩ := hReader.judged.mp hSecondJudged
          have hByte {position : Nat} (hPosition : position < taskFileLength) :
              second.completion.data.byte position = read.data.byte position := by
            rw [hReader.completion read rfl]
            exact Bytes.byte_overlay_zeros hPosition
          rw [concludedRead_of_done hSecondJudged, readOut, hByte (by decide), hByte (by decide)]
          cases hHealth : health? (read.data.byte 4) (read.data.byte 5) with
          | none =>
              refine .of_untold (fun health hTold => ?_) rfl rfl
              cases hTold with
              | read _ _ hMid hHigh => cases hHealth.symm.trans (health?_byte_iff.mpr ⟨hMid, hHigh⟩)
          | some health =>
              obtain ⟨hMid, hHigh⟩ := health?_byte_iff.mp hHealth
              refine .of_told (.read hFirst hSense hMid hHigh) (fun mid high hTold => ?_) ⟨rfl, rfl⟩
              cases hTold with
              | read _ _ _ hOther => exact Option.some_inj.mp (hOther.symm.trans hHigh)

end Cypress

theorem healthVerdict_of_transmitted {setup : Ata.JMicron.Setup} {request : Ata.Request}
    {registers : Ata.RegisterFile Ata.OutputRegister} {unit : Nat} {limit : UInt32}
    {query : Scsi.Query} {answer : Scsi.Answer} {below : Exchange}
    (hAsks : Ata.JMicron.asksHealth request = true) (hJudged : query.label ≠ none)
    (hInward : query.command.direction = .fromDevice) (hRoom : query.command.data = [0xff])
    (transmitted : Transmitted unit limit ⟨query, answer⟩ below) :
    HealthVerdict ((Encoding.jmicron setup).Told [below]) registers
      (Ata.JMicron.concluded request answer registers) := by
  unfold Ata.JMicron.concluded
  rw [hAsks]
  cases transmitted with
  | lost query fault =>
      exact .of_untold (fun health hTold => by cases hTold) rfl rfl
  | delivered query reply result judged =>
      have hTells (health : Ata.Health) :
          Ata.JMicron.Tells ((query.sent limit).complete reply) health ↔
            reply.residual ≠ 1 ∧ reply.data[0]? = some (signature health).2 := by
        simp only [Ata.JMicron.Tells, Scsi.Command.complete, Scsi.Query.direction_sent,
          Scsi.Query.data_sent, hInward, hRoom]
        exact and_congr_right fun _ => Bytes.byte_overlay_singleton_eq_iff
          (Ata.SmartOperation.signature_ne_filler health)
      cases result with
      | error failure =>
          refine .of_untold (fun health hTold => ?_) rfl rfl
          cases hTold with
          | transferred hVerdict _ _ => cases judged.mpr (.inr hVerdict)
      | ok _ =>
          have hVerdict := (judged.mp rfl).resolve_left hJudged
          dsimp only
          rcases Ata.JMicron.healthRegisters_cases ((query.sent limit).complete reply) registers with
            ⟨health, hHealth, hRegisters⟩ | ⟨hNone, failure, hFailed⟩
          · obtain ⟨hComplete, hHigh⟩ := (hTells health).mp hHealth
            rw [hRegisters]
            refine .of_told (.transferred hVerdict hComplete hHigh) (fun mid high hTold => ?_)
              ⟨rfl, rfl⟩
            cases hTold with
            | transferred _ _ hOther => exact Option.some_inj.mp (hOther.symm.trans hHigh)
          · rw [hFailed]
            refine .of_untold (fun health hTold => ?_) rfl rfl
            cases hTold with
            | transferred _ hComplete hHigh =>
                exact hNone health ((hTells health).mpr ⟨hComplete, hHigh⟩)

/-- A request for the health is answered by what the drive has told, and fails where it told
nothing, with the registers as they were. -/
theorem BridgeLayer.reports_health (layer : BridgeLayer) (inner : ScsiDevice) (query : Ata.Query)
    (hAccepts : layer.translator.Accepts query.request)
    (hAsks : layer.encoding.AsksHealth query.request) :
    ((AtaDevice.bridge layer inner).perform query).Ensures fun below outcome =>
      HealthVerdict (layer.encoding.Told below) query.registers outcome.1 := by
  obtain ⟨profile, encoding⟩ := layer
  cases encoding with
  | cypress signature =>
      refine (BridgeLayer.ensures_performed profile signature inner query).mono ?_
      intro below outcome ⟨hSends, above, hPerformed, hRelays⟩
      have hSent := hRelays.ne_nil_iff.mpr (hSends.mpr hAccepts)
      generalize outcome.1 = answer at hPerformed
      cases hPerformed with
      | refused failure unsent => exact (hSent unsent).elim
      | operated operation select outcome checked mapped course =>
          have hHealth := Ata.SmartOperation.ofRequest_of_isSmartStatus hAsks.1 hAsks.2
          cases mapped.symm.trans hHealth
          exact healthVerdict_of_course course hRelays
  | jmicron setup =>
      obtain ⟨port, hPort⟩ := Option.isSome_iff_exists.mp hAccepts.fits
      have hHealth : Ata.JMicron.asksHealth query.request = true :=
        Bool.and_eq_true_iff.mpr hAsks
      have hPerform : (Ata.JMicron.perform setup query.request query.registers).Ensures
          fun above answer => ∃ label reply,
            above = [⟨⟨Ata.JMicron.command setup port query.request, some label⟩, reply⟩] ∧
              answer = Ata.JMicron.concluded query.request reply query.registers := by
        rw [Ata.JMicron.perform_eq hPort hAccepts.checked]
        exact Scsi.ensures_sendChecked_bind fun reply => ⟨_, reply, rfl, rfl⟩
      refine (BridgeLayer.ensures_perform ⟨profile, .jmicron setup⟩ inner hPerform).mono ?_
      intro below outcome ⟨_, ⟨label, reply, rfl, hAnswer⟩, hRelays⟩
      obtain ⟨exchange, hRelayed, rfl⟩ := hRelays.exists_one
      rw [hAnswer]
      refine healthVerdict_of_transmitted hHealth (Option.some_ne_none label) ?_ ?_
        hRelayed.transmitted
      · rw [Ata.JMicron.command, hHealth]
        rfl
      · rw [Ata.JMicron.command, hHealth]
        rfl
  | prolific => exact hAsks.elim
  | sunplus => exact hAsks.elim

/-- SMART RETURN STATUS, with the upper of the two registers wanted. -/
def healthQuery : Ata.Query where
  request :=
    { registers := ({} : Ata.RegisterFile _).setAll
        [(.command, Ata.Opcode.smart), (.features, Ata.SmartFeature.returnStatus)]
      wanted := fun register => register == .lbaHigh }
  registers := {}

/-- A bridge of the other kind, with the drive on its first port. -/
def portLayer : BridgeLayer :=
  .atop (Endpoint.new "/dev/sdb" 0).profile "" (.jmicron ⟨false, false, some .zero⟩)

/-- A drive that has exceeded a threshold is reported as failing, and one that has not as healthy. -/
theorem BridgeLayer.health_of_drives :
    let failing := delivering { data := [0, 0, 0, 0, 0xf4, 0x2c, 0xa0, 0x50] }
    let healthy := delivering { data := [0xc2] }
    let endpoint := ScsiDevice.endpoint (.new "/dev/sdb" 0)
    let table := ((AtaDevice.bridge tableLayer endpoint).perform healthQuery).run failing ()
    let port := ((AtaDevice.bridge portLayer endpoint).perform healthQuery).run healthy ()
    (∃ outcome, table.value = some outcome ∧ ReportsHealth {} outcome.1 0xf4 0x2c) ∧
      ∃ outcome, port.value = some outcome ∧ ReportsHealth {} outcome.1 0x4f 0xc2 := by
  intro failing healthy endpoint table port
  constructor
  · obtain ⟨outcome, hValue, hVerdict⟩ := Dialogue.Ensures.of_run
      (tableLayer.reports_health endpoint healthQuery
        ⟨rfl, .statusCheck, 0, rfl, fun hMoves => (hMoves rfl).elim⟩ ⟨rfl, rfl⟩) failing ()
    exact ⟨outcome, hValue, hVerdict.failing.mpr (.read rfl rfl rfl rfl)⟩
  · obtain ⟨outcome, hValue, hVerdict⟩ := Dialogue.Ensures.of_run
      (portLayer.reports_health endpoint healthQuery ⟨rfl, rfl⟩ ⟨rfl, rfl⟩) healthy ()
    exact ⟨outcome, hValue, hVerdict.passed.mpr (.transferred (by decide +kernel) (by decide) rfl)⟩

end Chain

end DriveBridge
