import DriveBridge.Proofs.Chain.Conduct
import DriveBridge.Proofs.Chain.Views

/-! Which protocol a SAT device shows. It is one of ATA and SCSI from the beginning, and nothing but
the probe that belongs to its mode ever changes which one. The probe goes by the INQUIRY data of the
device below; where that device does not answer, the SAT device is left as it was and closed. -/
namespace DriveBridge.Chain

open Dialogue

/-- The INQUIRY by which a SAT device asks the device below who it is. -/
def inquiryUnder (limit : UInt32) : Scsi.Command where
  cdb := [0x12, 0, 0, 0, 36, 0]
  direction := .fromDevice
  data := Bytes.zeros 36
  timeout := limit

/-- What comes back for the INQUIRY, judged by its sense data. -/
def inquired (limit : UInt32) (reply : Except Fault Scsi.Reply) : Scsi.Answer :=
  judged (some "") (received (inquiryUnder limit) reply)

/-- The reply comes from a SAT layer: padded with zeros to 36 bytes, it declares all of them, and
names the vendor of ATA devices. -/
def NamesSat (data : Bytes) : Prop :=
  let inquiry : Bytes := (data ++ Bytes.zeros 36).take 36
  31 ≤ (inquiry.byte 4).toNat ∧ (inquiry.drop 8).take 8 = "ATA     ".toUTF8.data.toList

/-- How a SAT device of a mode is opened where it probes what is behind it, over an endpoint of that
number and a device of that time limit. -/
inductive Probe (mode : SatMode) (unit : Nat) (limit : UInt32) (before after : Profile)
    (isOpen : Bool) : List Exchange → Prop where
  | refused (fault : Fault) (kept : after = before.record fault.failure) :
      Probe mode unit limit before after isOpen [⟨.connect unit, .error fault⟩]
  /-- Only one of the modes asks. -/
  | unasked (settled : mode ≠ .auto) (kept : after = before) :
      Probe mode unit limit before after isOpen [⟨.connect unit, .ok ()⟩]
  | unanswered (reply : Except Fault Scsi.Reply) (failure : Failure) (closing : Except Fault Unit)
      (auto : mode = .auto) (failed : (inquired limit reply).result = .error failure)
      (kept : after = before.record ⟨failure.cause, "INQUIRY [SAT]: " ++ failure.message⟩)
      (closed : closing = .ok () → isOpen = false) :
      Probe mode unit limit before after isOpen
        [⟨.connect unit, .ok ()⟩, ⟨.transmit unit (inquiryUnder limit), reply⟩,
          ⟨.disconnect unit, closing⟩]
  | answered (reply : Scsi.Reply) (sat : Bool) (auto : mode = .auto)
      (sound : (inquired limit (.ok reply)).result = .ok ())
      (decided : sat = true ↔ NamesSat reply.data)
      (shown : after.protocols = { before.protocols with ata := sat, scsi := !sat })
      (opened : isOpen = true) :
      Probe mode unit limit before after isOpen
        [⟨.connect unit, .ok ()⟩, ⟨.transmit unit (inquiryUnder limit), .ok reply⟩]

theorem isSat_iff (data : Bytes) :
    SatLayer.isSat (Bytes.overlay data (Bytes.zeros 36)) = true ↔ NamesSat data := by
  have hPadded : Bytes.overlay data (Bytes.zeros 36) = (data ++ Bytes.zeros 36).take 36 := by
    rw [Bytes.overlay_zeros, List.take_append, Bytes.take_zeros (Nat.sub_le _ _)]
  have hVendor : SatLayer.ataVendor = "ATA     ".toUTF8.data.toList := by decide
  rw [SatLayer.isSat, hPadded, hVendor]
  simp only [NamesSat, Bool.and_eq_true, decide_eq_true_eq, beq_iff_eq]
  refine and_congr_left fun _ => ?_
  omega

theorem ScsiDevice.ensures_inquiry (device : ScsiDevice) :
    (device.serve (Scsi.inquiry (Bytes.zeros 36))).Ensures fun below outcome =>
      outcome.2.standing = device.standing ∧
      ∃ reply, below = [⟨.transmit device.place.unit (inquiryUnder device.profile.timeout), reply⟩] ∧
        outcome.1 = ((inquired device.profile.timeout reply).result,
          (inquired device.profile.timeout reply).completion.data) :=
  device.ensures_checked "" (Scsi.inquiryCommand 36) fun answer =>
    (answer.result, answer.completion.data)

namespace SatLayer

variable (layer : SatLayer) (inner : ScsiDevice)

theorem ensures_probe (hMode : layer.mode = .auto) (hOpen : inner.isOpen = true) :
    (layer.probe inner).Ensures fun below outcome => outcome.1.mode = layer.mode ∧
      Probe layer.mode inner.place.unit inner.profile.timeout layer.profile outcome.1.profile
        outcome.2.isOpen (⟨.connect inner.place.unit, .ok ()⟩ :: below) := by
  refine inner.ensures_inquiry.bind fun below ⟨⟨result, inquiry⟩, asked⟩ hAsked => ?_
  obtain ⟨hStanding, reply, rfl, hOutcome⟩ := hAsked
  obtain ⟨hResult, hInquiry⟩ := Prod.mk.inj hOutcome
  have hPlace : asked.place = inner.place := congrArg Standing.place hStanding
  have hStillOpen : asked.isOpen = true := (congrArg Standing.isOpen hStanding).trans hOpen
  cases result with
  | error failure =>
      refine asked.ensures_closes.bind fun closing ⟨closed, after⟩ hClosed => ?_
      obtain ⟨ending, rfl, hEnding⟩ := hClosed.asked
      refine ⟨rfl, ?_⟩
      show Probe _ _ _ _ _ _ [_, _, ⟨.disconnect asked.place.unit, ending⟩]
      rw [hPlace]
      refine .unanswered reply failure ending hMode hResult.symm rfl fun hOk => ?_
      subst hOk
      exact hClosed.isOpen hEnding
  | ok _ =>
      refine ⟨rfl, ?_⟩
      cases reply with
      | error fault => cases hResult
      | ok reply =>
          refine .answered reply _ hMode hResult.symm ?_ rfl hStillOpen
          rw [← isSat_iff, hInquiry, inquired, completion_judged]
          rfl

theorem ensures_autodetect : (layer.autodetect inner).Ensures fun below outcome =>
    outcome.1.mode = layer.mode ∧
      Probe layer.mode inner.place.unit inner.profile.timeout layer.profile outcome.1.profile
        outcome.2.isOpen below := by
  have hUnaltered := inner.unaltered_connect.ensures inner.safe_connect
  refine (inner.ensures_connect.and hUnaltered).bind fun below ⟨result, opened⟩ hBoth => ?_
  obtain ⟨hOpened, -, hUnaltered⟩ := hBoth
  obtain ⟨reply, rfl, hResult⟩ := hOpened.asked
  have hPlace : opened.place = inner.place := hOpened.place
  cases reply with
  | error fault =>
      obtain rfl : result = .error fault.failure := hResult
      exact ⟨rfl, .refused fault rfl⟩
  | ok _ =>
      obtain rfl : result = .ok () := hResult
      have hLimit : opened.profile.timeout = inner.profile.timeout := by
        simpa using hUnaltered.timeout
      dsimp only
      split
      · next hMode =>
          refine (layer.ensures_probe opened hMode (hOpened.isOpen rfl)).mono fun rest outcome h => ?_
          rw [hPlace, hLimit] at h
          exact h
      · next hMode => exact ⟨rfl, .unasked hMode rfl⟩

/-- All of the layer but the failure that it keeps. -/
def forget : SatLayer := { layer with profile := layer.profile.forget }

end SatLayer

/-- The layer of a SAT device, but for the failure. -/
def Device.layer? : Device → Option SatLayer
  | .ata (.sat layer _) => some layer.forget
  | _ => none

theorem Device.exists_of_layer? {device : Device} {layer : SatLayer}
    (hLayer : device.layer? = some layer) :
    ∃ after inner, device = .ata (.sat after inner) ∧ after.forget = layer := by
  unfold layer? at hLayer
  split at hLayer
  · next after inner => exact ⟨after, inner, rfl, Option.some.inj hLayer⟩
  · cases hLayer

namespace SatLayer

variable (layer : SatLayer) (inner : ScsiDevice)

theorem forget_settle (result : Except Failure Unit) :
    forget { layer with profile := layer.profile.settle result } = layer.forget := by
  rw [forget, Profile.forget_settle, forget]

theorem layer_answer (query : Scsi.Query) :
    (ScsiDevice.answer query (.sat layer inner)).EndsIn fun outcome =>
      outcome.2.toDevice.layer? = some layer.forget := by
  have hExecute (command : Scsi.Command) :
      ((ScsiDevice.sat layer inner).execute command).EndsIn fun outcome =>
        outcome.2.toDevice.layer? = some layer.forget :=
    endsIn_bind fun outcome => congrArg some (layer.forget_settle outcome.1.result)
  unfold ScsiDevice.answer
  split
  · exact hExecute _
  · refine (hExecute _).bind fun ⟨answer, after⟩ hAfter => ?_
    dsimp only
    split
    · exact endsIn_bind fun _ => hAfter
    · refine endsIn_bind fun verdict => ?_
      split
      · refine endsIn_bind fun _ => Eq.trans ?_ hAfter
        cases after <;> rfl
      · exact hAfter

/-- Whatever else is asked of a SAT device leaves its layer alone. -/
theorem layer_operate {operation : Operation} (hOther : operation ≠ .autodetect) :
    ((Device.ata (.sat layer inner)).operate operation).EndsIn fun outcome =>
      outcome.2.layer? = some layer.forget := by
  cases operation with
  | autodetect => exact (hOther rfl).elim
  | connect | disconnect | ata query =>
      simp only [Device.operate, Device.connect, Device.disconnect, AtaDevice.connect,
        AtaDevice.disconnect, AtaDevice.operate, AtaDevice.perform, bind_eq, pure_eq, bind_assoc,
        done_bind]
      exact endsIn_bind fun outcome => congrArg some (layer.forget_settle _)
  | scsi query => exact (layer.layer_answer inner query).bind fun _ hAfter => hAfter
  | nvme _ _ | readRegisters _ _ | readTaskFile _ => exact rfl

end SatLayer

/-- The device shows one of ATA and SCSI, and gives the views that it shows. -/
structure Device.ExposesOne (device : Device) : Prop where
  shown : device.profile.shows .scsi = !device.profile.shows .ata
  views : ∀ protocol, device.givesView protocol = device.profile.shows protocol

/-- A layer of the mode that shows one protocol, which is the one of the mode unless it probes. -/
structure SatLayer.InMode (mode : SatMode) (layer : SatLayer) : Prop where
  ofMode : layer.mode = mode
  shown : ∃ sat : Bool, layer.profile.protocols = { ata := sat, scsi := !sat }
  fixed : mode ≠ .auto → layer.profile.protocols = mode.protocols

/-- What a step of a SAT device of a mode does to what the device shows. -/
structure Step.ShowsByProbe (mode : SatMode) (below : List Exchange) (step : Step) : Prop where
  before : step.before.ExposesOne
  after : step.after.ExposesOne
  fixed : mode ≠ .auto → step.after.profile.protocols = mode.protocols
  other : step.operation ≠ .autodetect →
    step.after.profile.protocols = step.before.profile.protocols
  probe : step.operation = .autodetect → step.outcome = .probed none ∧
    ∃ inner unit, step.before.inner? = some inner ∧ step.before.unit? = some unit ∧
      Probe mode unit inner.profile.timeout step.before.profile step.after.profile step.after.isOpen
        below

namespace SatLayer

variable {mode : SatMode} {layer : SatLayer}

theorem InMode.exposesOne (inMode : layer.InMode mode) (inner : ScsiDevice) :
    (Device.ata (.sat layer inner)).ExposesOne := by
  obtain ⟨sat, hShown⟩ := inMode.shown
  have hShows (protocol : Protocol) :
      (Device.ata (.sat layer inner)).profile.shows protocol =
        Protocols.contains { ata := sat, scsi := !sat } protocol :=
    congrArg (·.contains protocol) hShown
  refine ⟨by rw [hShows, hShows]; rfl, fun protocol => Bool.eq_iff_iff.mpr ?_⟩
  rw [Device.givesView_iff, hShows]
  cases protocol <;> simp [Device.kind, Kind.implemented, Protocols.contains]

theorem inMode_forget_iff : layer.forget.InMode mode ↔ layer.InMode mode :=
  ⟨fun ⟨hMode, hShown, hFixed⟩ => ⟨hMode, hShown, hFixed⟩,
    fun ⟨hMode, hShown, hFixed⟩ => ⟨hMode, hShown, hFixed⟩⟩

/-- A probe leaves the layer in its mode. -/
theorem InMode.probed (inMode : layer.InMode mode) {after : SatLayer} {unit : Nat} {limit : UInt32}
    {isOpen : Bool} {below : List Exchange} (hMode : after.mode = layer.mode)
    (probe : Probe layer.mode unit limit layer.profile after.profile isOpen below) :
    after.InMode mode := by
  have hKept (hProtocols : after.profile.protocols = layer.profile.protocols) :
      after.InMode mode :=
    ⟨hMode.trans inMode.ofMode, hProtocols ▸ inMode.shown, hProtocols ▸ inMode.fixed⟩
  cases probe with
  | refused fault kept => exact hKept (by rw [kept]; rfl)
  | unasked settled kept => exact hKept (by rw [kept])
  | unanswered reply failure closing auto failed kept closed => exact hKept (by rw [kept]; rfl)
  | answered reply sat auto sound decided shown opened =>
      obtain ⟨before, hBefore⟩ := inMode.shown
      refine ⟨hMode.trans inMode.ofMode, ⟨sat, ?_⟩, fun hOther => ?_⟩
      · rw [shown, hBefore]
      · exact (hOther (inMode.ofMode.symm.trans auto)).elim

theorem showsByProbe (inMode : layer.InMode mode) (inner : ScsiDevice) (operation : Operation) :
    ((Device.ata (.sat layer inner)).operate operation).Ensures fun below outcome =>
      Step.ShowsByProbe mode below ⟨.ata (.sat layer inner), operation, outcome.1, outcome.2⟩ ∧
        ∃ after inner, outcome.2 = .ata (.sat after inner) ∧ after.InMode mode := by
  by_cases hProbe : operation = .autodetect
  · subst hProbe
    show (((layer.autodetect inner).bind _).bind _).Ensures _
    rw [bind_assoc]
    refine ensures_bind_done_iff.mpr ((layer.ensures_autodetect inner).mono ?_)
    intro below ⟨after, opened⟩ ⟨hMode, hCourse⟩
    have hAfter := inMode.probed hMode hCourse
    rw [inMode.ofMode] at hCourse
    refine ⟨⟨inMode.exposesOne inner, hAfter.exposesOne opened, hAfter.fixed,
      fun hOther => (hOther rfl).elim, fun _ => ⟨rfl, inner.toDevice, _, rfl, rfl, ?_⟩⟩,
      after, opened, rfl, hAfter⟩
    rw [ScsiDevice.profile_toDevice]
    exact hCourse
  · have hKept := (layer.layer_operate inner hProbe).ensures (Device.safe_operate _ operation)
    refine hKept.mono fun below ⟨outcome, device⟩ ⟨_, hLayer⟩ => ?_
    obtain ⟨after, inner', rfl, hForget⟩ := Device.exists_of_layer? hLayer
    have hAfter : after.InMode mode := by
      rw [← inMode_forget_iff, hForget, inMode_forget_iff]
      exact inMode
    have hProtocols : after.forget.profile.protocols = layer.forget.profile.protocols :=
      congrArg (·.profile.protocols) hForget
    exact ⟨⟨inMode.exposesOne inner, hAfter.exposesOne inner', hAfter.fixed, fun _ => hProtocols,
      fun hAutodetect => (hProbe hAutodetect).elim⟩, after, inner', rfl, hAfter⟩

end SatLayer

/-- Throughout every history of a SAT device, whatever the endpoint answers, the device shows exactly
one of ATA and SCSI. Which one is settled by the mode, or by the last probe that got an answer: by
nothing but that, where the mode is the one that probes, and by the mode for good otherwise. A probe
without an answer leaves protocols and names as they were, closes the device, and keeps what failed;
and none ever has the device replaced. -/
theorem SatLayer.protocol_follows_probe (inner : ScsiDevice) (requested : String) (mode : SatMode)
    (length : Ata.Sat.Length) (operations : List Operation) :
    ((Device.ata (.sat (.atop inner.profile requested mode length) inner)).operateAll
      operations).Ensures fun below history =>
        Episodes (Step.ShowsByProbe mode) below history.1 ∧ history.2.ExposesOne := by
  have hAtop : (atop inner.profile requested mode length).InMode mode := by
    refine ⟨rfl, ?_, fun _ => rfl⟩
    cases mode
    · exact ⟨true, rfl⟩
    · exact ⟨false, rfl⟩
    · exact ⟨false, rfl⟩
  refine Ensures.mono (@Device.ensures_episodes
    (fun device => ∃ layer inner, device = .ata (.sat layer inner) ∧ layer.InMode mode)
    (Step.ShowsByProbe mode) ?_ _ ⟨_, inner, rfl, hAtop⟩ operations) ?_
  · rintro _ operation ⟨layer, inner, rfl, inMode⟩
    exact showsByProbe inMode inner operation
  · rintro below ⟨steps, _⟩ ⟨hEpisodes, layer, inner, rfl, inMode⟩
    exact ⟨hEpisodes, inMode.exposesOne inner⟩

end DriveBridge.Chain
