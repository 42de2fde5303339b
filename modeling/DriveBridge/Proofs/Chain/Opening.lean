import DriveBridge.Chain.Rehearsal
import DriveBridge.Proofs.Chain.Conduct
import DriveBridge.Proofs.Chain.Relay
import DriveBridge.Proofs.Chain.Routing
import DriveBridge.Proofs.Chain.Views

/-! Opening devices that do more for it than their endpoint does: two-port bridges find out their
port, and drives behind a multiplexer are routed. Either all of it is done, or the device is closed
again and says why, and the port of a bridge that was found is the port for good. -/
namespace DriveBridge.Chain

open Dialogue

/-- What is known of a bridge, if it has two ports. -/
def BridgeLayer.setup? (layer : BridgeLayer) : Option Ata.JMicron.Setup :=
  match layer.encoding with
  | .jmicron setup => some setup
  | .cypress _ | .prolific | .sunplus => none

/-- What is known of the two-port bridge that a device comes down to, if it is one. -/
def AtaDevice.setup? : AtaDevice → Option Ata.JMicron.Setup
  | sat _ _ => none
  | bridge layer _ => layer.setup?
  | routed _ inner => inner.setup?

def Device.setup? : Device → Option Ata.JMicron.Setup
  | .ata device => device.setup?
  | .endpoint _ | .nvme _ => none

/-- The command that reads the port status of a two-port bridge, one byte at its address. -/
def portStatusUnder (limit : UInt32) (trailer : Bool) : Scsi.Command where
  cdb := [0xdf, 0x10, 0, 0, 1, 0, 0x72, 0x0f, 0, 0, 0, 0xfd] ++
    if trailer then [0x06, 0x7b] else []
  direction := .fromDevice
  data := [0]
  timeout := limit

theorem portStatusUnder_eq (limit : UInt32) (trailer : Bool) :
    portStatusUnder limit trailer =
      { cdb := Ata.JMicron.registerCdb trailer Ata.JMicron.portStatusAddress 1
        direction := .fromDevice
        data := [0]
        timeout := limit } := by
  cases trailer <;> rfl

/-- The port that a reply to it tells of, or why it tells of none. -/
def portTold (limit : UInt32) (trailer : Bool) (reply : Except Fault Scsi.Reply) :
    Except Failure Ata.JMicron.Port :=
  let answer := judged (some "UsbJmicronDevice::get_registers: ")
    (received (portStatusUnder limit trailer) reply)
  match answer.result with
  | .error failure => .error failure
  | .ok () => Ata.JMicron.detected (answer.completion.data.byte 0)

/-- Why a device does not open, and what was said until it gave up. -/
inductive Unopened : AtaDevice → List Exchange → Failure → Prop where
  /-- The endpoint does not open. -/
  | refused (device : AtaDevice) (fault : Fault) :
      Unopened device [⟨.connect device.place.unit, .error fault⟩] fault.failure
  /-- A two-port bridge does not tell which of its ports has a drive. -/
  | undetected {layer : BridgeLayer} {inner : ScsiDevice} {setup : Ata.JMicron.Setup}
      {reply : Except Fault Scsi.Reply} {failure : Failure} (kind : layer.setup? = some setup)
      (unknown : setup.port = none)
      (untold : portTold inner.profile.timeout setup.trailer reply = .error failure) :
      Unopened (.bridge layer inner)
        [⟨.connect inner.place.unit, .ok ()⟩,
          ⟨.transmit inner.place.unit (portStatusUnder inner.profile.timeout setup.trailer), reply⟩]
        failure
  /-- The device that a multiplexer hangs on does not open. -/
  | beneath {layer : RoutedLayer} {inner : AtaDevice} {effort : List Exchange} {failure : Failure}
      (unopened : Unopened inner effort failure) : Unopened (.routed layer inner) effort failure
  /-- A step of the routing fails. -/
  | unrouted {layer : RoutedLayer} {inner opened after : AtaDevice} {opening routing : List Exchange}
      {requests : List Ata.Exchange} {failure : Failure}
      (connected : inner.connect.Path opening (.ok (), opened))
      (course : Multiplexer.Course layer.drive requests (.error failure))
      (served : Served AtaDevice.Performs opened requests routing after) :
      Unopened (.routed layer inner) (opening ++ routing) failure

/-- How opening a closed device may end. Where it fails, closing again is the last thing that is
done, and is not what is reported. -/
inductive Opening (device : AtaDevice) (below : List Exchange) :
    Except Failure Unit × AtaDevice → Prop where
  | opened {after : AtaDevice} (standing : after.standing = ⟨device.place, true⟩)
      (known : ∀ setup, after.setup? = some setup → setup.port.isSome = true) :
      Opening device below (.ok (), after)
  | failed {after : AtaDevice} {failure : Failure} (effort cleanup : List Exchange)
      (split : below = effort ++ cleanup) (cause : Unopened device effort failure)
      (closing : ∀ exchange ∈ cleanup, exchange.query = .disconnect device.place.unit)
      (kept : after.profile.failure = some failure)
      (closed : (∀ unit fault, (⟨.disconnect unit, .error fault⟩ : Exchange) ∉ below) →
        after.isOpen = false) :
      Opening device below (.error failure, after)

theorem ensures_portTold (inner : ScsiDevice) (trailer : Bool) :
    (inner.serve (Ata.JMicron.detectPort trailer)).Ensures fun below outcome =>
      outcome.2.standing = inner.standing ∧
      ∃ reply, below =
          [⟨.transmit inner.place.unit (portStatusUnder inner.profile.timeout trailer), reply⟩] ∧
        outcome.1 = portTold inner.profile.timeout trailer reply := by
  let finish (answer : Scsi.Answer) : Except Failure Ata.JMicron.Port :=
    match answer.result with
    | .error failure => .error failure
    | .ok () => Ata.JMicron.detected (answer.completion.data.byte 0)
  have hDetect : Ata.JMicron.detectPort trailer =
      (Scsi.sendChecked "UsbJmicronDevice::get_registers: "
        (portStatusUnder defaultTimeout trailer)).bind fun answer => .done (finish answer) := by
    rw [portStatusUnder_eq]
    refine congrArg (Dialogue.ask _) (funext fun answer => ?_)
    obtain ⟨result, completion⟩ := answer
    cases result <;> rfl
  rw [hDetect]
  exact inner.ensures_checked _ _ finish

namespace AtaDevice

theorem setup_mapProfile (f : Profile → Profile) (device : AtaDevice) :
    (device.mapProfile f).setup? = device.setup? := by
  cases device <;> rfl

theorem setup_perform (device : AtaDevice) (query : Ata.Query) :
    (device.perform query).EndsIn fun outcome => outcome.2.setup? = device.setup? := by
  induction device with
  | sat layer inner => exact endsIn_bind fun _ => rfl
  | bridge layer inner =>
      obtain ⟨profile, encoding⟩ := layer
      refine endsIn_bind fun _ => ?_
      cases encoding <;> exact rfl
  | routed layer inner ih => exact ih.bind fun _ hInner => hInner

theorem setup_route (device : AtaDevice) (drive : UInt32) :
    (device.route drive).EndsIn fun outcome => outcome.2.setup? = device.setup? := by
  have hServed := (asks_any (Multiplexer.route drive)).through
    (fun query (state : AtaDevice) _ (hState : state.setup? = device.setup?) =>
      (state.setup_perform query).mono fun _ hAfter => hAfter.trans hState) rfl
  exact KeepsTo.bind hServed fun outcome hAfter => (setup_mapProfile _ _).trans hAfter.2

end AtaDevice

theorem Closes.closed {before after : Standing} {below : List Exchange}
    {result : Except Failure Unit} (closes : Closes before below result after)
    (hNone : ∀ unit fault, (⟨.disconnect unit, .error fault⟩ : Exchange) ∉ below) :
    after.isOpen = false := by
  obtain ⟨reply, rfl, hResult⟩ := closes.asked
  cases reply with
  | ok _ => exact closes.isOpen hResult
  | error fault => exact (hNone _ _ (List.mem_singleton_self _)).elim

theorem Closes.queries {before after : Standing} {below : List Exchange}
    {result : Except Failure Unit} (closes : Closes before below result after) :
    ∀ exchange ∈ below, exchange.query = .disconnect before.place.unit := by
  obtain ⟨reply, rfl, -⟩ := closes.asked
  exact List.forall_mem_singleton.mpr rfl

/-- A device that its endpoint refuses to open is as closed as it was. -/
theorem Opening.refused {device after : AtaDevice} {fault : Fault}
    (kept : after.profile.failure = some fault.failure) (closed : after.isOpen = false) :
    Opening device [⟨.connect device.place.unit, .error fault⟩] (.error fault.failure, after) :=
  .failed _ [] rfl (.refused device fault) (List.forall_mem_nil _) kept fun _ => closed

theorem BridgeLayer.ensures_findPort {layer : BridgeLayer} {inner opened : ScsiDevice}
    {setup : Ata.JMicron.Setup} (kind : layer.setup? = some setup)
    (hOpened : opened.standing = ⟨inner.place, true⟩)
    (hLimit : opened.profile.timeout = inner.profile.timeout) :
    (layer.findPort setup opened).Ensures fun below outcome =>
      Opening (.bridge layer inner) (⟨.connect inner.place.unit, .ok ()⟩ :: below)
        (outcome.1, .bridge outcome.2.1 outcome.2.2) := by
  have hPlace : opened.place = inner.place := congrArg Standing.place hOpened
  unfold findPort
  split
  · next hKnown =>
      refine .opened (congrArg Standing.above hOpened) fun _ hSetup => ?_
      cases kind.symm.trans hSetup
      exact hKnown
  · next hUnknown =>
      have hUnported : setup.port = none := Option.not_isSome_iff_eq_none.mp hUnknown
      refine (ensures_portTold opened setup.trailer).bind fun below ⟨detected, asked⟩ hAsked => ?_
      obtain ⟨hStanding, reply, rfl, hDetected⟩ := hAsked
      have hAskedStanding : asked.standing = ⟨inner.place, true⟩ := hStanding.trans hOpened
      rw [hPlace, hLimit]
      rw [hLimit] at hDetected
      cases detected with
      | error failure =>
          refine asked.ensures_closes.bind fun closing ⟨closed, after⟩ hCloses => ?_
          have hQueries := hCloses.queries
          rw [hAskedStanding] at hQueries
          have hCause : Unopened (.bridge layer inner) [_, _] failure :=
            .undetected kind hUnported hDetected.symm
          refine .failed [_, _] (closing ++ []) rfl hCause ?_ rfl ?_
          · rw [List.append_nil]
            exact hQueries
          · refine fun hNone => hCloses.closed fun unit fault hMember => hNone unit fault ?_
            simp [hMember]
      | ok port =>
          refine .opened (congrArg Standing.above hAskedStanding) fun _ hSetup => ?_
          cases hSetup
          rfl

theorem BridgeLayer.ensures_opening (layer : BridgeLayer) (inner : ScsiDevice)
    (hClosed : inner.isOpen = false) :
    (layer.connect inner).Ensures fun below outcome =>
      Opening (.bridge layer inner) below (outcome.1, .bridge outcome.2.1 outcome.2.2) := by
  have hUnaltered := inner.unaltered_connect.ensures inner.safe_connect
  refine (inner.ensures_opens.and hUnaltered).bind fun below ⟨result, opened⟩ hBoth => ?_
  obtain ⟨hOpens, -, hUnaltered⟩ := hBoth
  have hLimit : opened.profile.timeout = inner.profile.timeout := by
    simpa using hUnaltered.timeout
  obtain ⟨reply, rfl, hResult⟩ := hOpens.asked
  cases reply with
  | error fault =>
      obtain rfl : result = .error fault.failure := hResult
      exact .refused rfl ((hOpens.refused nofun).trans hClosed)
  | ok _ =>
      obtain rfl : result = .ok () := hResult
      have hStanding : opened.standing = ⟨inner.place, true⟩ := hOpens.standing_of_ok rfl
      have hPlain (hKind : layer.setup? = none) :
          Opening (.bridge layer inner) [⟨.connect inner.place.unit, .ok ()⟩]
            (.ok (), .bridge layer opened) :=
        .opened (congrArg Standing.above hStanding) fun _ hSetup => by cases hKind.symm.trans hSetup
      obtain ⟨profile, encoding⟩ := layer
      cases encoding with
      | jmicron setup => exact ensures_findPort rfl hStanding hLimit
      | cypress signature => exact hPlain rfl
      | prolific => exact hPlain rfl
      | sunplus => exact hPlain rfl

namespace AtaDevice

theorem ensures_opening (device : AtaDevice) (hClosed : device.isOpen = false) :
    device.connect.Ensures (Opening device) := by
  induction device with
  | sat layer inner =>
      refine ensures_bind_done_iff.mpr (inner.ensures_opens.mono ?_)
      rintro below ⟨result, opened⟩ hOpens
      obtain ⟨reply, rfl, hResult⟩ := hOpens.asked
      cases reply with
      | error fault =>
          obtain rfl : result = .error fault.failure := hResult
          exact .refused rfl ((hOpens.refused nofun).trans hClosed)
      | ok _ =>
          obtain rfl : result = .ok () := hResult
          exact .opened (congrArg Standing.above (hOpens.standing_of_ok rfl)) nofun
  | bridge layer inner => exact ensures_bind_done_iff.mpr (layer.ensures_opening inner hClosed)
  | routed layer inner ih =>
      refine ((ih hClosed).and inner.safe_connect.ensures_path).bind ?_
      rintro opening ⟨result, opened⟩ ⟨hOpening, hPath⟩
      cases hOpening with
      | failed effort cleanup split cause closing kept closed =>
          refine .failed effort cleanup ?_ (.beneath cause) closing rfl fun hNone => ?_
          · rw [List.append_nil, split]
          · rw [List.append_nil] at hNone
            exact closed hNone
      | opened standing known =>
          have hRouted := ((opened.ensures_course layer.drive).and
            (opened.ensures_steady_route layer.drive)).and
              ((opened.setup_route layer.drive).ensures (opened.safe_route layer.drive))
          refine hRouted.bind fun routing ⟨result, there⟩ hRouting => ?_
          obtain ⟨⟨⟨requests, after, course, served, -⟩, steady⟩, -, hSetup⟩ := hRouting
          have hStanding : there.standing = ⟨inner.place, true⟩ := steady.standing.trans standing
          cases result with
          | ok _ =>
              refine .opened (congrArg Standing.above hStanding) fun setup hKnown => ?_
              exact known setup (hSetup.symm.trans hKnown)
          | error failure =>
              refine there.ensures_closes.bind fun closing ⟨closed, final⟩ hCloses => ?_
              have hQueries := hCloses.queries
              rw [hStanding] at hQueries
              refine .failed (opening ++ routing) closing ?_ (.unrouted hPath course served) hQueries
                rfl fun hNone => hCloses.closed fun unit fault hMember => hNone unit fault ?_
              · simp
              · simp [hMember]

end AtaDevice

/-- What is known of a bridge whose port is known is what is known of it afterwards. -/
def PortLasts (before after : Option Ata.JMicron.Setup) : Prop :=
  ∀ setup, before = some setup → setup.port.isSome = true → after = some setup

section PortLasts

variable {before middle after : Option Ata.JMicron.Setup}

theorem PortLasts.trans (first : PortLasts before middle) (later : PortLasts middle after) :
    PortLasts before after :=
  fun setup hBefore hKnown => later setup (first setup hBefore hKnown) hKnown

theorem PortLasts.of_eq (hSame : after = before) : PortLasts before after :=
  fun _ hBefore _ => hSame.trans hBefore

/-- There is nothing to last where there is no such bridge. -/
theorem PortLasts.of_none (hNone : before = none) : PortLasts before after :=
  fun _ hBefore _ => by cases hNone.symm.trans hBefore

end PortLasts

theorem BridgeLayer.port_lasts_connect (layer : BridgeLayer) (inner : ScsiDevice) :
    (layer.connect inner).EndsIn fun outcome =>
      PortLasts layer.setup? outcome.2.1.setup? := by
  refine endsIn_bind fun ⟨result, opened⟩ => ?_
  dsimp only
  split
  · exact .of_eq rfl
  · next setup hEncoding =>
      unfold findPort
      split
      · exact .of_eq rfl
      · next hUnknown =>
          -- Whatever comes of the port status, there was no port before.
          have hUnported (after : Option Ata.JMicron.Setup) : PortLasts layer.setup? after := by
            intro known hKnown hPort
            rw [setup?, hEncoding] at hKnown
            cases hKnown
            exact (hUnknown hPort).elim
          refine endsIn_bind fun ⟨detected, asked⟩ => ?_
          cases detected with
          | error failure => exact endsIn_bind fun _ => hUnported _
          | ok port => exact endsIn_bind fun _ => hUnported _
  · exact .of_eq rfl

namespace AtaDevice

variable (device : AtaDevice)

theorem setup_disconnect : device.disconnect.EndsIn fun outcome =>
    outcome.2.setup? = device.setup? := by
  induction device with
  | sat layer inner | bridge layer inner => exact endsIn_bind fun _ => rfl
  | routed layer inner ih => exact ih.bind fun _ hInner => hInner

theorem port_lasts_connect : device.connect.EndsIn fun outcome =>
    PortLasts device.setup? outcome.2.setup? := by
  induction device with
  | sat layer inner => exact endsIn_bind fun _ => .of_eq rfl
  | bridge layer inner => exact (layer.port_lasts_connect inner).bind fun _ hLasts => hLasts
  | routed layer inner ih =>
      refine ih.bind fun ⟨result, opened⟩ hOpened => ?_
      cases result with
      | error failure => exact hOpened
      | ok _ =>
          refine (opened.setup_route layer.drive).bind fun ⟨result, there⟩ hSetup => ?_
          have hThere := hOpened.trans (.of_eq hSetup)
          cases result with
          | ok _ => exact hThere
          | error failure =>
              exact there.setup_disconnect.bind fun _ hClosed => hThere.trans (.of_eq hClosed)

theorem port_lasts_operate (operation : Operation) : (device.operate operation).EndsIn fun outcome =>
    PortLasts device.setup? outcome.2.setup? := by
  unfold operate
  split
  · exact endsIn_bind fun _ => PortLasts.of_none rfl
  · next layer inner address buffer =>
      split
      · next setup _ =>
          have hRead : (layer.readRegisters setup inner address buffer).EndsIn fun outcome =>
              outcome.2.1.setup? = layer.setup? := endsIn_bind fun _ => rfl
          exact hRead.bind fun _ hSame => .of_eq hSame
      · exact PortLasts.of_eq rfl
  · next layer inner registers =>
      split
      · next setup _ =>
          have hRead : (layer.readTaskFile setup inner registers).EndsIn fun outcome =>
              outcome.2.1.setup? = layer.setup? := endsIn_bind fun _ => rfl
          exact hRead.bind fun _ hSame => .of_eq hSame
      · exact PortLasts.of_eq rfl
  · exact (setup_perform _ _).bind fun _ hAfter => .of_eq hAfter
  · exact PortLasts.of_eq rfl

/-- A bridge that does not know its port carries out nothing. -/
theorem perform_unported {device : AtaDevice} {setup : Ata.JMicron.Setup} {query : Ata.Query}
    (kind : device.setup? = some setup) (unknown : setup.port = none)
    (hChecked : query.request.check (Ata.JMicron.support setup.extended) (some "JMicron") = .ok ()) :
    ∃ final, device.perform query =
      .done (query.request.refused query.registers Ata.JMicron.unknownPort, final) := by
  induction device with
  | sat layer inner => cases kind
  | bridge layer inner =>
      obtain ⟨profile, encoding⟩ := layer
      cases encoding with
      | cypress _ | prolific | sunplus => cases kind
      | jmicron found =>
          cases kind
          have hPerform : BridgeLayer.perform ⟨profile, .jmicron setup⟩ query =
              .done (query.request.refused query.registers Ata.JMicron.unknownPort) :=
            Ata.JMicron.perform_unknownPort unknown hChecked
          unfold perform
          rw [hPerform]
          exact ⟨_, rfl⟩
  | routed layer inner ih =>
      obtain ⟨final, hInner⟩ := ih kind
      unfold perform
      rw [hInner]
      exact ⟨_, rfl⟩

end AtaDevice

namespace Device

theorem setup_mapProfile (f : Profile → Profile) (device : Device) :
    (device.mapProfile f).setup? = device.setup? := by
  cases device with
  | endpoint _ | nvme _ => rfl
  | ata device => exact AtaDevice.setup_mapProfile f device

theorem port_lasts_operate (device : Device) (operation : Operation) :
    (device.operate operation).EndsIn fun outcome =>
      PortLasts device.setup? outcome.2.setup? := by
  cases device with
  | endpoint _ | nvme _ => exact EndsIn.mono (asks_any _) fun _ _ => .of_none rfl
  | ata device =>
      have hConnect : (Device.ata device).connect.EndsIn fun outcome =>
          PortLasts device.setup? outcome.2.setup? :=
        device.port_lasts_connect.bind fun _ hLasts => hLasts
      have hDisconnect : (Device.ata device).disconnect.EndsIn fun outcome =>
          PortLasts device.setup? outcome.2.setup? :=
        device.setup_disconnect.bind fun _ hSame => .of_eq hSame
      have hPlain : (Device.ata device).openPlainly.EndsIn fun after =>
          PortLasts device.setup? after.setup? := by
        refine hConnect.bind fun ⟨result, opened⟩ hOpened => ?_
        cases result with
        | ok _ => exact hOpened
        | error failure =>
            exact endsIn_bind fun _ => hOpened.trans (.of_eq (setup_mapProfile _ _))
      have hAutodetect : (Device.ata device).autodetect.EndsIn fun outcome =>
          PortLasts device.setup? outcome.2.setup? := by
        cases device with
        | sat layer inner => exact endsIn_bind fun _ => PortLasts.of_none rfl
        | bridge _ _ | routed _ _ => exact hPlain.bind fun _ hLasts => hLasts
      unfold operate
      split
      · exact hConnect.bind fun _ hLasts => hLasts
      · exact hDisconnect.bind fun _ hLasts => hLasts
      · exact hAutodetect.bind fun _ hLasts => hLasts
      · exact device.port_lasts_operate _

theorem port_lasts_actAll (device : Device) (acts : List Act) :
    (device.actAll acts).EndsIn fun after => PortLasts device.setup? after.setup? := by
  induction acts generalizing device with
  | nil => exact PortLasts.of_eq rfl
  | cons act later ih =>
      have hAct : (device.act act).EndsIn fun after => PortLasts device.setup? after.setup? := by
        cases act with
        | operate operation => exact (device.port_lasts_operate operation).bind fun _ hAfter => hAfter
        | setProtocols _ _ | setTimeout _ | setNames _ | record _ | forget =>
            exact PortLasts.of_eq (setup_mapProfile _ _)
      exact hAct.bind fun middle hFirst => (ih middle).mono fun after hLater => hFirst.trans hLater

end Device

/-- What holds of the port of a two-port bridge however it was used, given what was known before. -/
structure KeepsPort (before : Option Ata.JMicron.Setup) (after : Device) : Prop where
  lasts : PortLasts before after.setup?
  /-- Without a port, a request that passes its check fails, and nothing is sent. -/
  unported : ∀ setup query, after.setup? = some setup → setup.port = none →
    query.request.check (Ata.JMicron.support setup.extended) (some "JMicron") = .ok () →
      ∃ final, after.operate (.ata query) =
        .done (.finished (.error ⟨.transfer, "Unknown JMicron port"⟩), final)

theorem keepsPort_of_lasts {before : Option Ata.JMicron.Setup} {after : Device}
    (lasts : PortLasts before after.setup?) : KeepsPort before after where
  lasts := lasts
  unported setup query kind unknown hChecked := by
    cases after with
    | endpoint _ | nvme _ => cases kind
    | ata device =>
        obtain ⟨final, hPerform⟩ := AtaDevice.perform_unported kind unknown hChecked
        refine ⟨.ata final, ?_⟩
        show device.operate (.ata query) = _
        rw [AtaDevice.operate_ata, hPerform]
        rfl

/-- Whatever the endpoint answers, a closed device that opens is open, and a two-port bridge that it
comes down to knows its port. One that does not open reports, and keeps, why it gave up, whatever is
then said about closing it again, and is closed unless that failed. However the device is used from
any state on, a port that is known stays as it is, and without a known port no request that is
accepted is sent. -/
theorem AtaDevice.opens_cleanly (device : AtaDevice) :
    (device.isOpen = false → device.connect.Ensures (Opening device)) ∧
      ∀ acts, ((Device.ata device).actAll acts).Ensures fun _ after =>
        KeepsPort device.setup? after := by
  refine ⟨device.ensures_opening, fun acts => ?_⟩
  have hLasts := (Device.ata device).port_lasts_actAll acts
  refine (hLasts.ensures (Device.safe_actAll _ acts)).mono fun _ after hAfter => ?_
  exact keepsPort_of_lasts hAfter.2

/-- A two-port bridge with a drive on both ports, which does not close again either. It says what the
matter with the ports is, and carries out nothing. -/
theorem AtaDevice.occupied_ports_reported :
    let endpoint := Endpoint.new "/dev/sdb" 0
    let bridge : AtaDevice :=
      .bridge (.atop endpoint.profile "" (.jmicron ⟨false, false, none⟩)) (.endpoint endpoint)
    let stuck : Rehearsal :=
      { replies := [.ok { data := [0x44] }], nextClose := some ⟨⟨.transfer, "stuck"⟩, true⟩ }
    let run := stuck.play bridge.connect
    bridge.isOpen = false ∧
      (∃ outcome, run.value = some outcome ∧
        outcome.1 = .error ⟨.malformed, "Two devices connected, try '-d usbjmicron,[01]'"⟩ ∧
          Opening bridge (exchanges run.events) outcome) ∧
      ∃ final, (Device.ata bridge).operate (.ata { request := {} }) =
        .done (.finished (.error ⟨.transfer, "Unknown JMicron port"⟩), final) := by
  intro endpoint bridge stuck run
  obtain ⟨hOpens, hLater⟩ := bridge.opens_cleanly
  obtain ⟨outcome, hValue, hOpening⟩ := (hOpens rfl).of_run Rehearsal.party stuck
  have hKeeps : KeepsPort bridge.setup? (.ata bridge) := hLater []
  have hReported : run.value.map (·.1) =
      some (.error ⟨.malformed, "Two devices connected, try '-d usbjmicron,[01]'"⟩) := by
    decide +kernel
  refine ⟨rfl, ⟨outcome, hValue, ?_, hOpening⟩, hKeeps.unported _ _ rfl rfl (by decide)⟩
  rw [show run.value = some outcome from hValue] at hReported
  exact Option.some_inj.mp hReported

end DriveBridge.Chain
