import DriveBridge.Proofs.Ata.FailedRequest
import DriveBridge.Proofs.Chain.Relay

/-! Bridges that take a request in phases, on the wire. The plan of a request is carried out phase
by phase: nothing is sent after a phase that went wrong, and only a plan carried out to its end is
a success. -/
namespace DriveBridge.Chain

open Scsi (Completed)

/-- The endpoint delivers the command, and the sense data that comes with it reports no error. -/
def Exchange.Delivered : Exchange → Prop
  | ⟨.transmit _ command, reply⟩ =>
      match reply with
      | .ok reply => (command.complete reply).verdict.isError = false
      | .error _ => False
  | _ => False

/-- How a plan is carried out on the wire. -/
structure PhaseByPhase (inner : ScsiDevice) (plan : List Scsi.Command) (below : List Exchange)
    (result : Except Failure Unit) : Prop where
  /-- The commands are the start of the plan, under the time limit of the device below. -/
  commands : below.map Dialogue.Exchange.query <+: plan.map fun command =>
    .transmit inner.place.unit { command with timeout := inner.profile.timeout }
  /-- A phase is sent exactly if every earlier one was, and was delivered. -/
  reached : ∀ phase < plan.length,
    (phase < below.length ↔ Completed Exchange.Delivered below phase)
  /-- The request succeeds exactly if the whole plan completed that way. -/
  success : result = .ok () ↔ Completed Exchange.Delivered below plan.length

section Relays

variable {inner : ScsiDevice} {above : List Scsi.Exchange} {below : List Exchange}

theorem Relayed.delivered_iff {unit : Nat} {limit : UInt32} {above : Scsi.Exchange}
    {below : Exchange} (relayed : Relayed unit limit above below)
    (hJudged : above.query.label ≠ none) : above.result = .ok () ↔ Exchange.Delivered below := by
  cases relayed.transmitted with
  | lost query fault => exact iff_of_false nofun id
  | delivered query reply result judged => exact judged.trans (or_iff_right hJudged)

/-- Judged commands complete above as they do on the wire. -/
theorem ScsiDevice.Relays.completed_iff (relays : inner.Relays above below)
    (hJudged : ∀ exchange ∈ above, exchange.query.label ≠ none) (count : Nat) :
    Completed (fun exchange => Scsi.Exchange.result exchange = .ok ()) above count ↔
      Completed Exchange.Delivered below count := by
  induction relays generalizing count with
  | nil =>
      cases count with
      | zero => exact iff_of_true Scsi.completed_zero Scsi.completed_zero
      | succ count => exact iff_of_false Scsi.not_completed_nil Scsi.not_completed_nil
  | cons relayed _ ih =>
      obtain ⟨hFirst, hLater⟩ := List.forall_mem_cons.mp hJudged
      cases count with
      | zero => exact iff_of_true Scsi.completed_zero Scsi.completed_zero
      | succ count =>
          rw [Scsi.completed_cons_iff, Scsi.completed_cons_iff, relayed.delivered_iff hFirst,
            ih hLater]

/-- Judged commands come to the wire as they are, but for the time limit. -/
theorem ScsiDevice.Relays.queries_of_judged (relays : inner.Relays above below)
    (hJudged : ∀ exchange ∈ above, exchange.query.label ≠ none) :
    below.map Dialogue.Exchange.query = (above.map Scsi.Exchange.command).map fun command =>
      .transmit inner.place.unit { command with timeout := inner.profile.timeout } := by
  rw [relays.queries_eq, List.map_map]
  refine List.map_congr_left fun exchange hMember => ?_
  obtain ⟨label, hLabel⟩ := Option.ne_none_iff_exists'.mp (hJudged exchange hMember)
  simp only [Scsi.Query.sent, hLabel]
  rfl

section Plan

variable {plan : List Scsi.Command} (relays : inner.Relays above below)
  (follows : Scsi.Follows plan above)
  (hJudged : ∀ exchange ∈ above, exchange.query.label ≠ none)

include relays follows hJudged

/-- The start of a plan comes to the wire, -/
theorem ScsiDevice.Relays.queries_prefix :
    below.map Dialogue.Exchange.query <+: plan.map fun command =>
      .transmit inner.place.unit { command with timeout := inner.profile.timeout } := by
  rw [relays.queries_of_judged hJudged]
  exact follows.commands_prefix.map _

/-- and a command of it exactly if all before it did, and were delivered. -/
theorem ScsiDevice.Relays.reached_iff {phase : Nat} (hPhase : phase < plan.length) :
    phase < below.length ↔ Completed Exchange.Delivered below phase := by
  rw [← relays.completed_iff hJudged, ← follows.reached_iff hPhase, List.Forall₂.length_eq relays]

end Plan

theorem phaseByPhase_of_phased {plan : List Scsi.Command}
    {registers : Ata.RegisterFile Ata.OutputRegister}
    {Returned : Ata.RegisterFile Ata.OutputRegister → Prop} {answer : Ata.Answer}
    (phased : Ata.Phased plan registers Returned above answer) (relays : inner.Relays above below) :
    PhaseByPhase inner plan below answer.result where
  commands := relays.queries_prefix phased.follows phased.judged
  reached := fun _ hPhase => relays.reached_iff phased.follows phased.judged hPhase
  success := by
    rw [← relays.completed_iff phased.judged, phased.follows.completed_iff]
    exact phased.success

end Relays

theorem BridgeLayer.ensures_phaseByPhase (layer : BridgeLayer) (inner : ScsiDevice)
    {query : Ata.Query} {translator : Ata.Translator} {plan : List Scsi.Command}
    {Returned : Ata.RegisterFile Ata.OutputRegister → Prop}
    (hTranslator : layer.translator = translator)
    (phased : (translator.perform query.request query.registers).Ensures
      (Ata.Phased plan query.registers Returned)) :
    ((AtaDevice.bridge layer inner).perform query).Ensures fun below outcome =>
      PhaseByPhase inner plan below outcome.1.result := by
  rw [← hTranslator] at phased
  refine (layer.ensures_perform inner phased).mono fun below outcome hServed => ?_
  obtain ⟨above, hPhased, hRelays⟩ := hServed
  exact phaseByPhase_of_phased hPhased hRelays

/-- The bridges that take a request in phases carry out its plan phase by phase, and whatever the
device, a request that fails leaves the registers as they were. -/
theorem phases_all_or_nothing :
    (∀ (layer : BridgeLayer) (inner : ScsiDevice) (query : Ata.Query), layer.encoding = .sunplus →
      layer.translator.Accepts query.request →
        ((AtaDevice.bridge layer inner).perform query).Ensures fun below outcome =>
          PhaseByPhase inner (Ata.Sunplus.plan query.request).commands below outcome.1.result) ∧
    (∀ (layer : BridgeLayer) (inner : ScsiDevice) (query : Ata.Query), layer.encoding = .prolific →
      layer.translator.Accepts query.request →
        ((AtaDevice.bridge layer inner).perform query).Ensures fun below outcome =>
          PhaseByPhase inner (Ata.Prolific.plan query.request).commands below outcome.1.result) ∧
    ∀ (device : AtaDevice) (query : Ata.Query), (device.perform query).Ensures fun _ outcome =>
      ∀ failure, outcome.1.result = .error failure → outcome.1.registers = query.registers := by
  refine ⟨fun layer inner query hEncoding hAccepts => ?_,
    fun layer inner query hEncoding hAccepts => ?_, fun device query => ?_⟩
  · have hTranslator : layer.translator = .sunplus := by rw [BridgeLayer.translator, hEncoding]
    rw [hTranslator] at hAccepts
    exact layer.ensures_phaseByPhase inner hTranslator
      (Ata.Sunplus.ensures_perform hAccepts.checked)
  · have hTranslator : layer.translator = .prolific := by rw [BridgeLayer.translator, hEncoding]
    rw [hTranslator] at hAccepts
    exact layer.ensures_phaseByPhase inner hTranslator
      (Ata.Prolific.ensures_perform hAccepts.checked)
  · refine (device.ensures_perform fun translator =>
      translator.ensures_failsCleanly query.request query.registers).mono ?_
    intro below outcome hServed failure hFailed
    obtain ⟨_, _, hFails, -⟩ := hServed
    exact (hFails failure hFailed).1

/-- Where every command is delivered, a 48-bit request that wants a register back takes three phases
on one bridge, and a narrow one two phases on the other. Where the first command fails, there are no
more, and the registers stay as they were. -/
theorem phases_completed :
    let inner : ScsiDevice := .endpoint (.new "/dev/sdb" 0)
    let bridge : Encoding → BridgeLayer := .atop inner.profile ""
    let narrow : Ata.Request := { wanted := fun register => register == .status }
    let wide : Ata.Request :=
      { narrow with registers := ({} : Ata.RegisterFile _).setWide .lbaLow 0x100 }
    let before : Ata.RegisterFile Ata.OutputRegister := ({} : Ata.RegisterFile _).set .error 0x04
    let failing : Scsi.Reply :=
      { sense := .ofBytes ([0x70, 0, 0x03] ++ Bytes.zeros 11) 14, status := Sense.checkCondition }
    let loaded := ((AtaDevice.bridge (bridge .sunplus) inner).perform { request := wide }).run
      (delivering {}) ()
    let read := ((AtaDevice.bridge (bridge .prolific) inner).perform { request := narrow }).run
      (delivering {}) ()
    let failed := ((AtaDevice.bridge (bridge .sunplus) inner).perform ⟨wide, before⟩).run
      (delivering failing) ()
    Completed Exchange.Delivered (Dialogue.exchanges loaded.events) 3 ∧
      Completed Exchange.Delivered (Dialogue.exchanges read.events) 2 ∧
        (Dialogue.exchanges failed.events).length = 1 ∧
          ∃ outcome, failed.value = some outcome ∧ outcome.1.registers = before := by
  intro inner bridge narrow wide before failing loaded read failed
  obtain ⟨hSunplus, hProlific, hFailures⟩ := phases_all_or_nothing
  refine ⟨?_, ?_, by decide +kernel, ?_⟩
  · obtain ⟨outcome, hValue, hPhases⟩ := Dialogue.Ensures.of_run
      (hSunplus (bridge .sunplus) inner { request := wide } rfl ⟨rfl, trivial⟩) (delivering {}) ()
    have hOk : loaded.value.map (fun outcome => outcome.1.result) = some (.ok ()) := by
      decide +kernel
    rw [hValue] at hOk
    exact hPhases.success.mp (Option.some_inj.mp hOk)
  · obtain ⟨outcome, hValue, hPhases⟩ := Dialogue.Ensures.of_run
      (hProlific (bridge .prolific) inner { request := narrow } rfl ⟨rfl, trivial⟩)
      (delivering {}) ()
    have hOk : read.value.map (fun outcome => outcome.1.result) = some (.ok ()) := by
      decide +kernel
    rw [hValue] at hOk
    exact hPhases.success.mp (Option.some_inj.mp hOk)
  · obtain ⟨outcome, hValue, hKept⟩ := Dialogue.Ensures.of_run
      (hFailures (.bridge (bridge .sunplus) inner) ⟨wide, before⟩) (delivering failing) ()
    have hError : failed.value.map (fun outcome => outcome.1.result) = some (.error ⟨.transfer,
        "UsbSunplusDevice::scsi_pass_through (presetting): " ++
          "scsi error medium or hardware error (serious)"⟩) := by
      decide +kernel
    rw [hValue] at hError
    exact ⟨outcome, hValue, hKept _ (Option.some_inj.mp hError)⟩

end DriveBridge.Chain
