import DriveBridge.Proofs.Chain.Frame
import DriveBridge.Proofs.Chain.Safety

/-! What a device shows of itself, and whether the views that it gives agree with that. Anybody may
show and hide protocols; apart from that only the probe of a SAT device changes what is shown. A SAT
device looks at what it shows before it gives a view, and no other device does. -/
namespace DriveBridge.Chain

open Dialogue

/-- The protocols that devices of the kind have an implementation of. -/
def Kind.implemented : Kind → Protocols
  | endpoint => { scsi := true }
  | sat => { ata := true, scsi := true }
  | bridge | routed => { ata := true }
  | nvme => { nvme := true }

namespace Device

/-- The device gives a view of itself that takes requests of the protocol. -/
def givesView (device : Device) : Protocol → Bool
  | .ata => device.ataView?.isSome
  | .scsi => device.scsiView?.isSome
  | .nvme => device.nvmeView?.isSome

/-- Of the protocols that are implemented, there are views of exactly those that are shown. -/
def ViewsAgree (device : Device) : Prop :=
  ∀ protocol, device.givesView protocol = true ↔
    device.kind.implemented.contains protocol = true ∧ device.profile.shows protocol = true

/-- A SAT device gives the views that it shows; any other device gives its view in any case. -/
theorem givesView_iff (device : Device) (protocol : Protocol) :
    device.givesView protocol = true ↔ device.kind.implemented.contains protocol = true ∧
      (device.kind = .sat → device.profile.shows protocol = true) := by
  cases device with
  | endpoint e | nvme device =>
      cases protocol <;>
        simp [givesView, ataView?, scsiView?, nvmeView?, kind, Kind.implemented, Protocols.contains]
  | ata device =>
      cases device with
      | bridge layer inner | routed layer inner =>
          cases protocol <;>
            simp [givesView, ataView?, scsiView?, nvmeView?, AtaDevice.ataView?,
              AtaDevice.scsiView?, kind, Kind.implemented, Protocols.contains]
      | sat layer inner =>
          cases protocol <;>
            simp [givesView, ataView?, scsiView?, nvmeView?, AtaDevice.ataView?,
              AtaDevice.scsiView?, kind, Kind.implemented, Protocols.contains, profile,
              AtaDevice.profile]

/-- The views agree with what is shown if the device looks at that, or if it hides nothing. -/
theorem viewsAgree_iff (device : Device) : device.ViewsAgree ↔ device.kind = .sat ∨
    ∀ protocol, device.kind.implemented.contains protocol = true →
      device.profile.shows protocol = true := by
  by_cases hSat : device.kind = .sat
  · refine ⟨fun _ => .inl hSat, fun _ protocol => ?_⟩
    rw [givesView_iff]
    exact and_congr_right fun _ => ⟨fun hShows => hShows hSat, fun hShows _ => hShows⟩
  · constructor
    · refine fun hAgree => .inr fun protocol hImplemented => ?_
      have hView := (device.givesView_iff protocol).mpr ⟨hImplemented, fun h => (hSat h).elim⟩
      exact ((hAgree protocol).mp hView).2
    · intro hEither protocol
      have hShown := hEither.resolve_left hSat
      rw [givesView_iff]
      exact and_congr_right fun h => ⟨fun _ => hShown protocol h, fun hShows _ => hShows⟩

end Device

/-- What may be done with a device: it is asked for something, or its profile is changed. -/
inductive Act where
  | operate (operation : Operation)
  | setProtocols (selection : Protocols) (visible : Bool)
  | setTimeout (seconds : UInt32)
  | setNames (names : Names)
  | record (failure : Failure)
  | forget

namespace Act

/-- What an act makes of a profile by itself. -/
def change : Act → Profile → Profile
  | operate _, profile => profile
  | setProtocols selection visible, profile => profile.setProtocols selection visible
  | setTimeout seconds, profile => profile.setTimeout seconds
  | setNames names, profile => { profile with names }
  | record failure, profile => profile.record failure
  | forget, profile => profile.forget

/-- Whether a protocol is shown after an act, given whether it was before, where nothing but the act
shows and hides protocols. -/
def shows (protocol : Protocol) (shown : Bool) : Act → Bool
  | setProtocols selection visible => if selection.contains protocol then visible else shown
  | operate _ | setTimeout _ | setNames _ | record _ | forget => shown

theorem shows_change (act : Act) (profile : Profile) (protocol : Protocol) :
    (act.change profile).shows protocol = act.shows protocol (profile.shows protocol) := by
  cases act with
  | setProtocols selection visible => exact Protocols.contains_set _ _ _ _
  | operate _ | setTimeout _ | setNames _ | record _ | forget => rfl

end Act

namespace Device

def act (device : Device) : Act → Wire Device
  | .operate operation => do
      let (_, after) ← device.operate operation
      return after
  | act => return device.mapProfile act.change

/-- Acts one after the other, whatever comes of each. -/
def actAll (device : Device) : List Act → Wire Device
  | [] => return device
  | act :: later => do
      let after ← device.act act
      after.actAll later

variable (device : Device)

theorem safe_actAll (acts : List Act) : (device.actAll acts).Safe := by
  induction acts generalizing device with
  | nil => exact safe_done _
  | cons act later ih =>
      have hAct : (device.act act).Safe := by
        cases act with
        | operate operation => exact (device.safe_operate operation).bind fun _ => safe_done _
        | setProtocols _ _ | setTimeout _ | setNames _ | record _ | forget => exact safe_done _
      exact hAct.bind fun after => ih after

/-- Acts leave a device the kind that it is. Unless that is a SAT device, it shows the protocols
that they say. -/
structure Shown (before : Device) (acts : List Act) (after : Device) : Prop where
  kind : after.kind = before.kind
  shows : before.kind ≠ .sat → ∀ protocol, after.profile.shows protocol =
    acts.foldl (Act.shows protocol) (before.profile.shows protocol)

theorem shown_act (act : Act) : (device.act act).EndsIn (Shown device [act]) := by
  cases act with
  | operate operation =>
      refine (device.lasts_operate operation).bind fun _ hLasts => ⟨hLasts.kind, ?_⟩
      exact fun hOther protocol => congrArg (·.contains protocol) (hLasts.protocols hOther)
  | setProtocols _ _ | setTimeout _ | setNames _ | record _ | forget =>
      refine ⟨device.kind_mapProfile _, fun _ protocol => ?_⟩
      rw [profile_mapProfile]
      exact Act.shows_change _ _ _

theorem shown_actAll (acts : List Act) : (device.actAll acts).EndsIn (Shown device acts) := by
  induction acts generalizing device with
  | nil => exact ⟨rfl, fun _ _ => rfl⟩
  | cons act later ih =>
      refine (device.shown_act act).bind fun middle hFirst => ?_
      refine (ih middle).mono fun after hLater => ?_
      refine ⟨hLater.kind.trans hFirst.kind, fun hOther protocol => ?_⟩
      rw [hLater.shows (hFirst.kind ▸ hOther), hFirst.shows hOther]
      rfl

/-- Whatever was done with a device, the views that it gives agree with the protocols that it shows
exactly if it is a SAT device, or none that it implements was hidden last. -/
theorem views_agree_iff (acts : List Act) :
    (device.actAll acts).Ensures fun _ after => after.ViewsAgree ↔ device.kind = .sat ∨
      ∀ protocol, device.kind.implemented.contains protocol = true →
        acts.foldl (Act.shows protocol) (device.profile.shows protocol) = true := by
  refine ((device.shown_actAll acts).ensures (device.safe_actAll acts)).mono ?_
  intro _ after ⟨_, hShown⟩
  rw [viewsAgree_iff, hShown.kind]
  by_cases hSat : device.kind = .sat
  · simp only [hSat, true_or]
  · simp only [hShown.shows hSat]

/-- A bridge gives the view of a protocol that was hidden. -/
theorem hidden_protocol_viewed :
    let endpoint := Endpoint.new "/dev/sdb" 0
    let disk : Device := .ata (.bridge (.atop endpoint.profile "" .prolific) (.endpoint endpoint))
    ∃ after, disk.actAll [.setProtocols { ata := true } false] = .done after ∧
      after.profile.shows .ata = false ∧ after.givesView .ata = true :=
  ⟨_, rfl, rfl, rfl⟩

end Device

end DriveBridge.Chain
