import DriveBridge.Proofs.Chain.Relay
import DriveBridge.Proofs.Chain.Safety
import DriveBridge.Proofs.Chain.SessionLimit

/-! Under which time limit commands come to the wire. The endpoint gets them from the translator on
top, some under the translator's own limit, the others under that of the device right below it. A
chain whose limits are all the same sends every command under that one, whatever is asked of it. -/
namespace DriveBridge.Chain

instance Wire.instNonemptyAnswer (query : Wire.Query) : Nonempty (Wire.Answer query) := by
  cases query with
  | attach => exact ⟨(0 : Nat)⟩
  | connect unit | disconnect unit => exact ⟨(.ok () : Except Fault Unit)⟩
  | transmit unit command => exact ⟨(.ok {} : Except Fault Scsi.Reply)⟩

/-- Whatever command the query sends is under the time limit. -/
def Wire.Query.Within (limit : UInt32) (query : Wire.Query) : Prop :=
  ∀ command, query.command? = some command → command.timeout = limit

/-- Where every query is within the limit, every command is. -/
theorem timeout_of_mem_commands {limit : UInt32} {below : List Exchange}
    (hWithin : ∀ exchange ∈ below, exchange.query.Within limit) :
    ∀ command ∈ commands below, command.timeout = limit := by
  intro command hMember
  obtain ⟨query, hQuery, hCommand⟩ := List.mem_filterMap.mp hMember
  obtain ⟨exchange, hExchange, rfl⟩ := List.mem_map.mp hQuery
  exact hWithin exchange hExchange command hCommand

open Dialogue
open Scsi (SentUnder)
open Wire.Query (Within)

variable {limit : UInt32}

namespace ScsiDevice

variable (device : ScsiDevice)

/-- Opening a device sends no command. -/
theorem keepsTo_connect : device.connect.KeepsTo (Within limit) fun outcome =>
    outcome.2.profile.timeout = device.profile.timeout := by
  induction device with
  | endpoint e =>
      refine ⟨nofun, fun reply => ?_⟩
      cases reply with
      | ok _ => exact rfl
      | error fault => exact Endpoint.timeout_suffer e fault
  | sat layer inner ih => exact ih.bind fun outcome _ => Profile.timeout_settle _ _

theorem keepsTo_disconnect : device.disconnect.KeepsTo (Within limit) fun outcome =>
    outcome.2.profile.timeout = device.profile.timeout := by
  induction device with
  | endpoint e =>
      refine ⟨nofun, fun reply => ?_⟩
      cases reply with
      | ok _ => exact rfl
      | error fault => exact Endpoint.timeout_suffer e fault
  | sat layer inner ih => exact ih.bind fun outcome _ => Profile.timeout_settle _ _

/-- A query comes to the wire as one command, which is the query as it is sent. -/
theorem keepsTo_answer {query : Scsi.Query} (hSent : SentUnder limit device.profile.timeout query) :
    (ScsiDevice.answer query device).KeepsTo (Within limit) fun outcome =>
      outcome.2.profile.timeout = device.profile.timeout := by
  refine Ensures.keepsTo ((device.ensures_answer query).mono ?_)
  intro below outcome hAnswered
  obtain ⟨exchange, rfl, hTransmitted⟩ := hAnswered.asked
  refine ⟨List.forall_mem_singleton.mpr ?_, hAnswered.timeout⟩
  rw [hTransmitted.query_eq]
  rintro _ ⟨⟩
  exact hSent

theorem keepsTo_serve {α : Type} {session : Scsi.Session α} {device : ScsiDevice} {own : UInt32}
    (hAsks : session.Asks (SentUnder limit own)) (hOwn : device.profile.timeout = own) :
    (device.serve session).KeepsTo (Within limit) fun outcome =>
      outcome.2.profile.timeout = own := by
  have hReply : ∀ query device, SentUnder limit own query → device.profile.timeout = own →
      (ScsiDevice.answer query device).KeepsTo (Within limit) fun outcome =>
        outcome.2.profile.timeout = own := by
    rintro query device hSent rfl
    exact device.keepsTo_answer hSent
  exact (hAsks.through hReply hOwn).mono (fun _ hQuery => hQuery) fun _ hOutcome => hOutcome.2

end ScsiDevice

namespace AtaDevice

/-- The limits that count for the commands of a device: that of its translator, and that of the
device right below the translator. -/
def limits : AtaDevice → UInt32 × UInt32
  | sat layer inner => (layer.profile.timeout, inner.profile.timeout)
  | bridge layer inner => (layer.profile.timeout, inner.profile.timeout)
  | routed _ inner => inner.limits

/-- The limits that count are one and the same. -/
def Under (limit : UInt32) (device : AtaDevice) : Prop := device.limits = (limit, limit)

theorem limits_mapProfile {f : Profile → Profile}
    (hTimeout : ∀ profile, (f profile).timeout = profile.timeout) (device : AtaDevice) :
    (device.mapProfile f).limits = device.limits := by
  cases device with
  | sat layer inner => exact Prod.ext (hTimeout layer.profile) rfl
  | bridge layer inner => exact Prod.ext (hTimeout layer.profile) rfl
  | routed layer inner => rfl

end AtaDevice

namespace SatLayer

variable (layer : SatLayer)

theorem keepsTo_perform (inner : ScsiDevice) (query : Ata.Query) :
    ((AtaDevice.sat layer inner).perform query).KeepsTo (Within layer.profile.timeout)
      fun outcome => outcome.2.limits = (AtaDevice.sat layer inner).limits := by
  refine (ScsiDevice.keepsTo_serve (Ata.Sat.asks_perform layer.length) rfl).bind ?_
  exact fun ⟨answer, after⟩ hAfter => Prod.ext (Profile.timeout_settle _ _) hAfter

/-- The probe of a SAT device goes by the limit of the device below. -/
theorem keepsTo_autodetect {inner : ScsiDevice}
    (hUnder : (AtaDevice.sat layer inner).Under limit) :
    (layer.autodetect inner).KeepsTo (Within limit) fun outcome =>
      (AtaDevice.sat outcome.1 outcome.2).Under limit := by
  obtain ⟨hLayer, hInner⟩ := Prod.mk.inj hUnder
  refine inner.keepsTo_connect.bind fun ⟨result, opened⟩ hConnected => ?_
  have hOpened : opened.profile.timeout = limit := hConnected.trans hInner
  cases result with
  | error failure => exact Prod.ext hLayer hOpened
  | ok _ =>
      dsimp only
      split
      · refine (ScsiDevice.keepsTo_serve (Scsi.asks_inquiry _) hOpened).bind ?_
        intro ⟨⟨result, inquiry⟩, probed⟩ hProbed
        cases result with
        | error failure =>
            refine probed.keepsTo_disconnect.bind fun _ hClosed => ?_
            exact Prod.ext hLayer (hClosed.trans hProbed)
        | ok _ => exact KeepsTo.bind (asks_log _ _) fun _ _ => Prod.ext hLayer hProbed
      · exact Prod.ext hLayer hOpened

end SatLayer

namespace BridgeLayer

variable (layer : BridgeLayer)

@[simp] theorem timeout_settle (result : Except Failure Unit) :
    (layer.settle result).profile.timeout = layer.profile.timeout := by
  unfold settle
  split
  · cases result <;> rfl
  · exact Profile.timeout_settle _ _

theorem keepsTo_perform (inner : ScsiDevice) (query : Ata.Query) :
    ((AtaDevice.bridge layer inner).perform query).KeepsTo
      (Within (layer.translator.limit inner.profile.timeout))
      fun outcome => outcome.2.limits = (AtaDevice.bridge layer inner).limits := by
  have hAsks := layer.translator.asks_perform inner.profile.timeout query.request query.registers
  rw [← layer.perform_eq] at hAsks
  refine (ScsiDevice.keepsTo_serve hAsks rfl).bind fun ⟨answer, after⟩ hAfter => ?_
  exact Prod.ext (timeout_settle layer _) hAfter

variable {layer} {inner : ScsiDevice} (hUnder : (AtaDevice.bridge layer inner).Under limit)

include hUnder

theorem limit_translator : layer.translator.limit inner.profile.timeout = limit := by
  obtain ⟨hLayer, hInner⟩ := Prod.mk.inj hUnder
  unfold translator
  cases layer.encoding with
  | cypress signature => exact hLayer
  | jmicron setup => exact hInner
  | prolific => exact hInner
  | sunplus => exact hInner

theorem keepsTo_readRegisters (setup : Ata.JMicron.Setup) (address : UInt16) (buffer : Bytes) :
    (layer.readRegisters setup inner address buffer).KeepsTo (Within limit) fun outcome =>
      (AtaDevice.bridge outcome.2.1 outcome.2.2).Under limit := by
  obtain ⟨hLayer, hInner⟩ := Prod.mk.inj hUnder
  refine (ScsiDevice.keepsTo_serve (Ata.JMicron.asks_readRegisters _ _ _) hInner).bind ?_
  intro ⟨⟨result, data⟩, after⟩ hAfter
  exact Prod.ext ((Profile.timeout_settle _ _).trans hLayer) hAfter

theorem keepsTo_readTaskFile (setup : Ata.JMicron.Setup)
    (registers : Ata.RegisterFile Ata.OutputRegister) :
    (layer.readTaskFile setup inner registers).KeepsTo (Within limit) fun outcome =>
      (AtaDevice.bridge outcome.2.1 outcome.2.2).Under limit := by
  obtain ⟨hLayer, hInner⟩ := Prod.mk.inj hUnder
  refine (ScsiDevice.keepsTo_serve (Ata.JMicron.asks_readTaskFile _) hInner).bind ?_
  intro ⟨⟨result, read⟩, after⟩ hAfter
  exact Prod.ext ((Profile.timeout_settle _ _).trans hLayer) hAfter

theorem keepsTo_findPort (setup : Ata.JMicron.Setup) :
    (layer.findPort setup inner).KeepsTo (Within limit) fun outcome =>
      (AtaDevice.bridge outcome.2.1 outcome.2.2).Under limit := by
  obtain ⟨hLayer, hInner⟩ := Prod.mk.inj hUnder
  unfold findPort
  split
  · exact hUnder
  · refine (ScsiDevice.keepsTo_serve (Ata.JMicron.asks_detectPort _) hInner).bind ?_
    intro ⟨detected, after⟩ hAfter
    cases detected with
    | error failure =>
        refine after.keepsTo_disconnect.bind fun _ hClosed => ?_
        exact Prod.ext hLayer (hClosed.trans hAfter)
    | ok port => exact KeepsTo.bind (asks_log _ _) fun _ _ => Prod.ext hLayer hAfter

theorem keepsTo_connect : (layer.connect inner).KeepsTo (Within limit) fun outcome =>
    (AtaDevice.bridge outcome.2.1 outcome.2.2).Under limit := by
  obtain ⟨hLayer, hInner⟩ := Prod.mk.inj hUnder
  refine inner.keepsTo_connect.bind fun ⟨result, opened⟩ hConnected => ?_
  have hOpened : (AtaDevice.bridge layer opened).Under limit :=
    Prod.ext hLayer (hConnected.trans hInner)
  dsimp only
  split
  · exact hOpened
  · exact keepsTo_findPort hOpened _
  · exact hOpened

end BridgeLayer

namespace AtaDevice

variable {device : AtaDevice} (hUnder : device.Under limit)

include hUnder

theorem keepsTo_perform (query : Ata.Query) :
    (device.perform query).KeepsTo (Within limit) fun outcome => outcome.2.Under limit := by
  induction device with
  | sat layer inner =>
      have hPerform := layer.keepsTo_perform inner query
      rw [(Prod.mk.inj hUnder).1] at hPerform
      exact hPerform.mono (fun _ hQuery => hQuery) fun _ hAfter => hAfter.trans hUnder
  | bridge layer inner =>
      have hPerform := layer.keepsTo_perform inner query
      rw [BridgeLayer.limit_translator hUnder] at hPerform
      exact hPerform.mono (fun _ hQuery => hQuery) fun _ hAfter => hAfter.trans hUnder
  | routed layer inner ih => exact (ih hUnder).bind fun _ hInner => hInner

theorem keepsTo_route (drive : UInt32) :
    (device.route drive).KeepsTo (Within limit) fun outcome => outcome.2.Under limit := by
  have hReply : ∀ query device, True → Under limit device →
      (perform device query).KeepsTo (Within limit) fun outcome => outcome.2.Under limit :=
    fun query _ _ hDevice => keepsTo_perform hDevice query
  refine ((asks_any (Multiplexer.route drive)).through hReply hUnder).bind fun _ hOutcome => ?_
  exact (limits_mapProfile (Profile.timeout_settle _) _).trans hOutcome.2

theorem keepsTo_disconnect :
    device.disconnect.KeepsTo (Within limit) fun outcome => outcome.2.Under limit := by
  induction device with
  | sat layer inner | bridge layer inner =>
      obtain ⟨hLayer, hInner⟩ := Prod.mk.inj hUnder
      refine inner.keepsTo_disconnect.bind fun _ hClosed => ?_
      exact Prod.ext ((Profile.timeout_settle _ _).trans hLayer) (hClosed.trans hInner)
  | routed layer inner ih => exact (ih hUnder).bind fun _ hInner => hInner

theorem keepsTo_connect :
    device.connect.KeepsTo (Within limit) fun outcome => outcome.2.Under limit := by
  induction device with
  | sat layer inner =>
      obtain ⟨hLayer, hInner⟩ := Prod.mk.inj hUnder
      refine inner.keepsTo_connect.bind fun _ hOpened => ?_
      exact Prod.ext ((Profile.timeout_settle _ _).trans hLayer) (hOpened.trans hInner)
  | bridge layer inner => exact (BridgeLayer.keepsTo_connect hUnder).bind fun _ hOpened => hOpened
  | routed layer inner ih =>
      refine (ih hUnder).bind fun ⟨opened, inner⟩ hInner => ?_
      cases opened with
      | error failure => exact hInner
      | ok _ =>
          refine (keepsTo_route hInner layer.drive).bind fun ⟨result, inner⟩ hRouted => ?_
          cases result with
          | ok _ => exact hRouted
          | error failure => exact (keepsTo_disconnect hRouted).bind fun _ hClosed => hClosed

end AtaDevice

namespace Slot

/-- The device that the slot holds, if it holds one, has the time limit. -/
def Under (limit : UInt32) : Slot ScsiDevice → Prop
  | holding device => device.profile.timeout = limit
  | released => True

variable {slot : Slot ScsiDevice} (hUnder : slot.Under limit)

include hUnder

theorem keepsTo_scsiAnswer {query : Scsi.Query} (hSent : SentUnder limit limit query) :
    (Slot.scsiAnswer query slot).KeepsTo (Within limit) fun outcome => outcome.2.Under limit := by
  cases slot with
  | holding device =>
      have hTimeout : device.profile.timeout = limit := hUnder
      subst hTimeout
      exact (device.keepsTo_answer hSent).bind fun _ hAnswered => hAnswered
  | released => trivial

theorem keepsTo_connect :
    slot.connect.KeepsTo (Within limit) fun outcome => outcome.2.Under limit := by
  cases slot with
  | holding device => exact device.keepsTo_connect.bind fun _ hOpened => hOpened.trans hUnder
  | released => trivial

theorem keepsTo_disconnect :
    slot.disconnect.KeepsTo (Within limit) fun outcome => outcome.2.Under limit := by
  cases slot with
  | holding device => exact device.keepsTo_disconnect.bind fun _ hClosed => hClosed.trans hUnder
  | released => trivial

end Slot

namespace NvmeDevice

variable {device : NvmeDevice} (hUnder : device.inner.Under limit)

include hUnder

theorem keepsTo_connect :
    device.connect.KeepsTo (Within limit) fun outcome => outcome.2.inner.Under limit :=
  (Slot.keepsTo_connect hUnder).bind fun _ hOpened => hOpened

theorem keepsTo_disconnect :
    device.disconnect.KeepsTo (Within limit) fun outcome => outcome.2.inner.Under limit :=
  (Slot.keepsTo_disconnect hUnder).bind fun _ hClosed => hClosed

theorem keepsTo_perform (request : Nvme.Request) (completion : Nvme.Completion) :
    (device.perform request completion).KeepsTo (Within limit) fun outcome =>
      outcome.2.inner.Under limit := by
  have hAsks := device.vendor.asks_perform limit device.profile.label request completion
  have hReply : ∀ query slot, SentUnder limit limit query → Slot.Under limit slot →
      (Slot.scsiAnswer query slot).KeepsTo (Within limit) fun outcome => outcome.2.Under limit :=
    fun _ _ hSent hSlot => Slot.keepsTo_scsiAnswer hSlot hSent
  exact (hAsks.through hReply hUnder).bind fun _ hOutcome => hOutcome.2

theorem keepsTo_identify :
    device.identify.KeepsTo (Within limit) fun outcome => outcome.2.inner.Under limit := by
  refine (keepsTo_perform hUnder _ _).bind fun ⟨answer, after⟩ hAfter => ?_
  dsimp only
  split
  · exact hAfter
  · exact KeepsTo.bind (asks_demand _) fun _ _ => hAfter

/-- The device that is moved keeps its limit, and the SAT device takes it over. -/
theorem keepsTo_handOver (length : Ata.Sat.Length) :
    (device.handOver length).KeepsTo (Within limit) fun outcome =>
      outcome.2.inner.Under limit ∧ ∀ sat, outcome.1 = some sat → sat.Under limit := by
  obtain ⟨profile, vendor, nsid, fallback, slot⟩ := device
  cases slot with
  | holding inner =>
      refine ⟨trivial, ?_⟩
      rintro _ ⟨⟩
      exact Prod.ext hUnder hUnder
  | released => exact ⟨trivial, nofun⟩

theorem keepsTo_examine :
    device.examine.KeepsTo (Within limit) fun outcome => outcome.2.inner.Under limit := by
  refine (keepsTo_connect hUnder).bind fun ⟨result, opened⟩ hOpened => ?_
  dsimp only
  split
  · refine (keepsTo_identify hOpened).bind fun ⟨identified, device⟩ hIdentified => ?_
    dsimp only
    split
    · exact hIdentified
    · split
      · exact hIdentified
      · exact KeepsTo.bind (asks_log _ _) fun _ _ => hIdentified
  · exact hOpened

theorem keepsTo_autodetect :
    device.autodetect.KeepsTo (Within limit) fun outcome =>
      outcome.2.inner.Under limit ∧ ∀ sat, outcome.1 = some sat → sat.Under limit := by
  refine (keepsTo_examine hUnder).bind fun ⟨fallback, examined⟩ hExamined => ?_
  cases fallback with
  | none => exact ⟨hExamined, nofun⟩
  | some length => exact keepsTo_handOver hExamined length

end NvmeDevice

namespace Device

/-- Every limit that counts for the commands of a translator is the same. -/
def Under (limit : UInt32) : Device → Prop
  | endpoint _ => True
  | ata device => device.Under limit
  | nvme device => device.inner.Under limit

/-- Where nothing is replaced, there is no replacement to be under another limit. -/
theorem under_of_none {other : Device} (hNone : none = some other) : other.Under limit := by
  cases hNone

variable {device : Device} (hUnder : device.Under limit)

include hUnder

theorem keepsTo_connect :
    device.connect.KeepsTo (Within limit) fun outcome => outcome.2.Under limit := by
  cases device with
  | endpoint e => exact ⟨nofun, fun reply => by cases reply <;> trivial⟩
  | ata device => exact (AtaDevice.keepsTo_connect hUnder).bind fun _ hOpened => hOpened
  | nvme device => exact (NvmeDevice.keepsTo_connect hUnder).bind fun _ hOpened => hOpened

theorem keepsTo_disconnect :
    device.disconnect.KeepsTo (Within limit) fun outcome => outcome.2.Under limit := by
  cases device with
  | endpoint e => exact ⟨nofun, fun reply => by cases reply <;> trivial⟩
  | ata device => exact (AtaDevice.keepsTo_disconnect hUnder).bind fun _ hClosed => hClosed
  | nvme device => exact (NvmeDevice.keepsTo_disconnect hUnder).bind fun _ hClosed => hClosed

theorem keepsTo_openPlainly :
    device.openPlainly.KeepsTo (Within limit) fun after => after.Under limit := by
  refine (keepsTo_connect hUnder).bind fun ⟨result, opened⟩ hOpened => ?_
  cases result with
  | ok _ => exact hOpened
  | error failure =>
      refine KeepsTo.bind (asks_log _ _) fun _ _ => ?_
      cases opened with
      | endpoint e => trivial
      | ata opened =>
          have hKept := @AtaDevice.limits_mapProfile (·.record failure) (fun _ => rfl) opened
          exact hKept.trans hOpened
      | nvme opened => exact hOpened

theorem keepsTo_autodetect :
    device.autodetect.KeepsTo (Within limit) fun outcome =>
      outcome.2.Under limit ∧ ∀ other, outcome.1 = some other → other.Under limit := by
  unfold autodetect
  split
  · exact (SatLayer.keepsTo_autodetect _ hUnder).bind fun _ hProbed =>
      ⟨hProbed, fun _ => under_of_none⟩
  · refine (NvmeDevice.keepsTo_autodetect hUnder).bind fun ⟨replacement, after⟩ hProbed => ?_
    refine ⟨hProbed.1, fun other hOther => ?_⟩
    obtain ⟨sat, hSat, rfl⟩ := Option.map_eq_some_iff.mp hOther
    exact hProbed.2 sat hSat
  · exact (keepsTo_openPlainly hUnder).bind fun _ hOpened => ⟨hOpened, fun _ => under_of_none⟩

end Device

theorem AtaDevice.keepsTo_operate {device : AtaDevice} (hUnder : device.Under limit)
    {operation : Operation} (hOperation : ∀ query, operation ≠ .scsi query) :
    (device.operate operation).KeepsTo (Within limit) fun outcome =>
      outcome.2.Under limit ∧ outcome.1.replacement? = none := by
  unfold operate
  split
  · exact (hOperation _ rfl).elim
  · split
    · exact (BridgeLayer.keepsTo_readRegisters hUnder _ _ _).bind fun _ hAfter => ⟨hAfter, rfl⟩
    · exact ⟨hUnder, rfl⟩
  · split
    · exact (BridgeLayer.keepsTo_readTaskFile hUnder _ _).bind fun _ hAfter => ⟨hAfter, rfl⟩
    · exact ⟨hUnder, rfl⟩
  · exact (keepsTo_perform hUnder _).bind fun _ hAfter => ⟨hAfter, rfl⟩
  · exact ⟨hUnder, rfl⟩

/-- Whatever is asked of a translator, except to forward a command, its commands are under the one
limit, and the limits that count stay what they are, also in the device that is to replace it. -/
theorem Device.keepsTo_operate {device : Device} (hUnder : device.Under limit)
    {operation : Operation} (hOperation : ∀ query, operation ≠ .scsi query) :
    (device.operate operation).KeepsTo (Within limit) fun outcome => outcome.2.Under limit ∧
      ∀ other, outcome.1.replacement? = some other → other.Under limit := by
  unfold operate
  split
  · exact (keepsTo_connect hUnder).bind fun _ hOpened => ⟨hOpened, fun _ => under_of_none⟩
  · exact (keepsTo_disconnect hUnder).bind fun _ hClosed => ⟨hClosed, fun _ => under_of_none⟩
  · exact (keepsTo_autodetect hUnder).bind fun _ hProbed => hProbed
  · split
    · exact (hOperation _ rfl).elim
    · refine (AtaDevice.keepsTo_operate hUnder hOperation).mono (fun _ hQuery => hQuery) ?_
      intro outcome ⟨hAfter, hNone⟩
      exact ⟨hAfter, fun other hOther => by cases hNone.symm.trans hOther⟩
    · exact (NvmeDevice.keepsTo_perform hUnder _ _).bind fun _ hAfter =>
        ⟨hAfter, fun _ => under_of_none⟩
    · exact ⟨hUnder, fun _ => under_of_none⟩

/-- Devices whose limits are all the same are used under that limit, those included that replace
others on the way. -/
theorem keepsTo_useAll {devices : List Device} {uses : List Use}
    (hDevices : ∀ device ∈ devices, device.Under limit)
    (hUses : ∀ use ∈ uses, ∀ query, use.operation ≠ .scsi query) :
    (useAll devices uses).KeepsTo (Within limit) fun after =>
      ∀ device ∈ after, device.Under limit := by
  induction uses generalizing devices with
  | nil => exact hDevices
  | cons use later ih =>
      obtain ⟨hUse, hLater⟩ := List.forall_mem_cons.mp hUses
      unfold useAll
      split
      · exact ih hDevices hLater
      · next device hDevice =>
        have hUnder := hDevices device (List.mem_of_getElem? hDevice)
        refine (Device.keepsTo_operate hUnder hUse).bind fun ⟨outcome, after⟩ hOutcome => ?_
        refine ih (fun other hOther => ?_) hLater
        rcases List.mem_append.mp hOther with hSet | hReplacement
        · rcases List.mem_or_eq_of_mem_set hSet with hOld | rfl
          · exact hDevices other hOld
          · exact hOutcome.1
        · exact hOutcome.2 other (Option.mem_toList.mp hReplacement)

end DriveBridge.Chain
