import DriveBridge.Proofs.Ata.Safety
import DriveBridge.Proofs.Chain.ScsiDevice
import Mathlib.Data.List.Forall2

/-! A session that a device serves, on the wire: one command to the endpoint for each of the
session's own, in order. A command fails because the transport does, or because sense data makes it
a failed transfer; no layer in between has a reason of its own. -/
namespace DriveBridge.Chain

/-- What the transport itself fails with in an exchange, if it does. -/
def Exchange.failure? : Exchange → Option Failure
  | ⟨.attach, _⟩ => none
  | ⟨.connect _, reply⟩ | ⟨.disconnect _, reply⟩ | ⟨.transmit _ _, reply⟩ =>
      match reply with
      | .ok _ => none
      | .error fault => some fault.failure

/-- The command that an endpoint gets with a query, if it gets one. -/
def Wire.Query.command? : Wire.Query → Option Scsi.Command
  | .attach | .connect _ | .disconnect _ => none
  | .transmit _ command => some command

/-- The commands of a conversation. -/
def commands (below : List Exchange) : List Scsi.Command :=
  (below.map Dialogue.Exchange.query).filterMap Wire.Query.command?

/-- A command that the device was not to answer with data comes back with the data it had. -/
theorem Transmitted.data_eq {unit : Nat} {limit : UInt32} {above : Scsi.Exchange} {below : Exchange}
    (transmitted : Transmitted unit limit above below)
    (hDirection : (above.query.sent limit).direction ≠ .fromDevice) :
    above.answer.completion.data = (above.query.sent limit).data := by
  cases transmitted with
  | lost query fault => rfl
  | delivered query reply result judged =>
      dsimp only [Scsi.Command.complete]
      split
      next hFrom => exact (hDirection hFrom).elim
      all_goals rfl

/-- A command on the wire is given so much data to be filled, and gets this reply. -/
def Filled (exchange : Exchange) (data : Bytes) (reply : Scsi.Reply) : Prop :=
  ∃ unit command, exchange = ⟨.transmit unit command, .ok reply⟩ ∧
    command.direction = .fromDevice ∧ command.data = data

/-- A command that went through, and has data to be filled, comes back with the reply laid over it. -/
theorem Transmitted.exists_filled {unit : Nat} {limit : UInt32} {above : Scsi.Exchange}
    {below : Exchange} (transmitted : Transmitted unit limit above below)
    (hOk : above.result = .ok ()) (hInward : above.command.direction = .fromDevice) :
    ∃ reply, Filled below above.command.data reply ∧
      above.answer.completion.data = Bytes.overlay reply.data above.command.data := by
  cases transmitted with
  | lost query fault => cases hOk
  | delivered query reply result judged =>
      have hDirection := (query.direction_sent limit).trans hInward
      have hData := query.data_sent limit
      refine ⟨reply, ⟨unit, query.sent limit, rfl, hDirection, hData⟩, ?_⟩
      simp only [Scsi.Command.complete, hDirection, hData]
      rfl

/-- Where the exchanges of two conversations go together one by one, each has its counterpart. -/
theorem exists_counterpart {related : Scsi.Exchange → Exchange → Prop} {above : List Scsi.Exchange}
    {below : List Exchange} (paired : List.Forall₂ related above below) {phase : Nat}
    {exchange : Scsi.Exchange} (hExchange : above[phase]? = some exchange) :
    ∃ sent, below[phase]? = some sent ∧ related exchange sent := by
  obtain ⟨hPhase, rfl⟩ := List.getElem?_eq_some_iff.mp hExchange
  have hBelow : phase < below.length := paired.length_eq ▸ hPhase
  exact ⟨below[phase], List.getElem?_eq_getElem hBelow, paired.get hPhase hBelow⟩

/-- How a command comes to the wire, and what it may fail with. -/
structure Relayed (unit : Nat) (limit : UInt32) (above : Scsi.Exchange) (below : Exchange) :
    Prop where
  transmitted : Transmitted unit limit above below
  blamed : ∀ failure, above.result = .error failure →
    failure.cause = .transfer ∨ below.failure? = some failure

namespace ScsiDevice

/-- The commands of a session on the wire, one by one. -/
def Relays (device : ScsiDevice) : List Scsi.Exchange → List Exchange → Prop :=
  List.Forall₂ (Relayed device.place.unit device.profile.timeout)

/-- The device relays a command, and goes on to relay the others. -/
def RelaysNext (device : ScsiDevice) (exchange : Scsi.Exchange) (first : List Exchange)
    (after : ScsiDevice) : Prop :=
  ∀ above later, after.Relays above later → device.Relays (exchange :: above) (first ++ later)

theorem Relays.ne_nil_iff {device : ScsiDevice} {above : List Scsi.Exchange} {below : List Exchange}
    (relays : device.Relays above below) : above ≠ [] ↔ below ≠ [] := by
  cases relays with
  | nil => exact iff_of_false (fun h => h rfl) fun h => h rfl
  | cons _ _ => exact iff_of_true (List.cons_ne_nil _ _) (List.cons_ne_nil _ _)

theorem Relays.exists_one {device : ScsiDevice} {exchange : Scsi.Exchange} {below : List Exchange}
    (relays : device.Relays [exchange] below) :
    ∃ sent, Relayed device.place.unit device.profile.timeout exchange sent ∧ below = [sent] := by
  obtain ⟨sent, rest, hRelayed, hRest, rfl⟩ := List.forall₂_cons_left_iff.mp relays
  cases List.forall₂_nil_left_iff.mp hRest
  exact ⟨sent, hRelayed, rfl⟩

/-- The commands on the wire are those of the session, each as it is sent. -/
theorem Relays.queries_eq {device : ScsiDevice} {above : List Scsi.Exchange} {below : List Exchange}
    (relays : device.Relays above below) :
    below.map Dialogue.Exchange.query = above.map fun exchange =>
      .transmit device.place.unit (exchange.query.sent device.profile.timeout) := by
  induction relays with
  | nil => rfl
  | cons relayed _ ih => rw [List.map_cons, List.map_cons, relayed.transmitted.query_eq, ih]

theorem Relays.commands_eq {device : ScsiDevice} {above : List Scsi.Exchange}
    {below : List Exchange} (relays : device.Relays above below) :
    commands below = above.map fun exchange => exchange.query.sent device.profile.timeout := by
  rw [commands, relays.queries_eq, List.filterMap_map]
  exact congrFun List.filterMap_eq_map' above

theorem ensures_execute_blamed (device : ScsiDevice) (command : Scsi.Command) :
    (device.execute command).Ensures fun below outcome =>
      ∀ failure, outcome.1.result = .error failure →
        ∃ exchange ∈ below, Exchange.failure? exchange = some failure := by
  induction device with
  | endpoint e =>
      intro reply
      cases reply with
      | ok reply => exact nofun
      | error fault =>
          rintro _ ⟨⟩
          exact ⟨_, List.mem_singleton_self _, rfl⟩
  | sat layer inner ih =>
      exact Dialogue.ensures_bind_done_iff.mpr ih

theorem ensures_answer_blamed (query : Scsi.Query) (device : ScsiDevice) :
    (ScsiDevice.answer query device).Ensures fun below outcome =>
      ∀ failure, outcome.1.result = .error failure → failure.cause = .transfer ∨
        ∃ exchange ∈ below, Exchange.failure? exchange = some failure := by
  obtain ⟨command, label⟩ := query
  cases label with
  | none =>
      exact (device.ensures_execute_blamed command).mono fun _ _ hBlamed failure hFailed =>
        .inr (hBlamed failure hFailed)
  | some label =>
      refine (device.ensures_execute_blamed _).bind fun before ⟨answer, after⟩ hBlamed => ?_
      dsimp only at hBlamed ⊢
      cases hResult : answer.result with
      | error failure =>
          intro failure' hFailed
          rw [List.append_nil]
          exact .inr (hBlamed failure' hFailed)
      | ok _ =>
          simp only [answer.completion.readVerdict_eq, Dialogue.demand_some, Dialogue.bind_eq,
            Dialogue.done_bind]
          split
          · rintro _ ⟨⟩
            exact .inl rfl
          · intro failure hFailed
            cases hResult.symm.trans hFailed

/-- A command to a device comes to the wire once. The device stays where it is and keeps its time
limit, so that this goes for the next command, too. -/
theorem ensures_answer_relayed (query : Scsi.Query) (device : ScsiDevice) :
    (ScsiDevice.answer query device).Ensures fun first outcome =>
      device.RelaysNext ⟨query, outcome.1⟩ first outcome.2 := by
  refine ((device.ensures_answer query).and (device.ensures_answer_blamed query)).mono ?_
  intro first outcome ⟨hAnswered, hBlamed⟩ above later hLater
  obtain ⟨exchange, rfl, hTransmitted⟩ := hAnswered.asked
  simp only [Relays, hAnswered.place, hAnswered.timeout] at hLater
  refine .cons ⟨hTransmitted, fun failure hFailed => ?_⟩ hLater
  simpa using hBlamed failure hFailed

theorem relays_of_served {device final : ScsiDevice} {above : List Scsi.Exchange}
    {below : List Exchange} (served : Dialogue.Served RelaysNext device above below final) :
    device.Relays above below := by
  induction served with
  | done device => exact .nil
  | next step _ ih => exact step _ _ ih

/-- What a session ensures, it ensures on a device, with its commands on the wire. -/
theorem ensures_serve {α : Type} {session : Scsi.Session α}
    {post : List Scsi.Exchange → α → Prop} (ensures : session.Ensures post) (device : ScsiDevice) :
    (device.serve session).Ensures fun below outcome =>
      ∃ above, post above outcome.1 ∧ device.Relays above below := by
  refine (ensures.served fun query device => device.ensures_answer_relayed query).mono ?_
  intro below outcome ⟨above, hPost, served⟩
  exact ⟨above, hPost, relays_of_served served⟩

end ScsiDevice

section Translators

variable {query : Ata.Query} {post : List Scsi.Exchange → Ata.Answer → Prop}

/-- What a translator ensures, the device with it on top does. -/
theorem SatLayer.ensures_perform (layer : SatLayer) (inner : ScsiDevice)
    (ensures : (layer.translator.perform query.request query.registers).Ensures post) :
    ((AtaDevice.sat layer inner).perform query).Ensures fun below outcome =>
      ∃ above, post above outcome.1 ∧ inner.Relays above below :=
  Dialogue.ensures_bind_done_iff.mpr (ScsiDevice.ensures_serve ensures inner)

theorem BridgeLayer.ensures_perform (layer : BridgeLayer) (inner : ScsiDevice)
    (ensures : (layer.translator.perform query.request query.registers).Ensures post) :
    ((AtaDevice.bridge layer inner).perform query).Ensures fun below outcome =>
      ∃ above, post above outcome.1 ∧ inner.Relays above below := by
  rw [← layer.perform_eq] at ensures
  exact Dialogue.ensures_bind_done_iff.mpr (ScsiDevice.ensures_serve ensures inner)

/-- The translator that a device comes down to. Drives behind multiplexers are reached by way of it. -/
def AtaDevice.bottom : AtaDevice → Ata.Translator
  | sat layer _ => layer.translator
  | bridge layer _ => layer.translator
  | routed _ inner => inner.bottom

/-- What the translator at the bottom ensures, the device does, however many layers it has. -/
theorem AtaDevice.ensures_perform_bottom (device : AtaDevice)
    (ensures : (device.bottom.perform query.request query.registers).Ensures post) :
    (device.perform query).Ensures fun below outcome =>
      ∃ (inner : ScsiDevice) (above : List Scsi.Exchange),
        post above outcome.1 ∧ inner.Relays above below := by
  induction device with
  | sat layer inner =>
      exact (layer.ensures_perform inner ensures).mono fun _ _ hServed => ⟨inner, hServed⟩
  | bridge layer inner =>
      exact (layer.ensures_perform inner ensures).mono fun _ _ hServed => ⟨inner, hServed⟩
  | routed layer inner ih =>
      exact Dialogue.ensures_bind_done_iff.mpr (ih ensures)

/-- What every translator ensures, every device does. -/
theorem AtaDevice.ensures_perform (device : AtaDevice)
    (ensures : ∀ translator : Ata.Translator,
      (translator.perform query.request query.registers).Ensures post) :
    (device.perform query).Ensures fun below outcome =>
      ∃ (inner : ScsiDevice) (above : List Scsi.Exchange),
        post above outcome.1 ∧ inner.Relays above below :=
  device.ensures_perform_bottom (ensures device.bottom)

end Translators

/-- An endpoint that delivers every command with the same reply. -/
def delivering (reply : Scsi.Reply) : (query : Wire.Query) → Unit → Wire.Answer query × Unit
  | .attach, _ => (0, ())
  | .connect _, _ | .disconnect _, _ => (.ok (), ())
  | .transmit _ _, _ => (.ok reply, ())

end DriveBridge.Chain
