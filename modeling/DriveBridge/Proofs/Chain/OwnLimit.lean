import DriveBridge.Proofs.Chain.TimeLimit

/-! What it does to set a time limit on a translator that is already in place. The limit governs the
commands of a translator that brings its own limit along; the others never look at theirs. -/
namespace DriveBridge.Chain

open Wire.Query (Within)

/-- A request is passed through. -/
inductive Operation.PassesThrough : Operation → Prop where
  | ata (query : Ata.Query) : PassesThrough (.ata query)
  | nvme (request : Nvme.Request) (completion : Nvme.Completion) :
      PassesThrough (.nvme request completion)

/-- Only a SAT device and a bridge of the fixed table bring the time limit of their commands
along. -/
def AtaDevice.bringsLimit : AtaDevice → Bool
  | sat _ _ => true
  | bridge layer _ =>
      match layer.encoding with
      | .cypress _ => true
      | .jmicron _ | .prolific | .sunplus => false
  | routed _ _ => false

namespace Device

/-- The SCSI device that a translator sends its commands to. -/
def carrier? : Device → Option ScsiDevice
  | ata (.sat _ inner) | ata (.bridge _ inner) => some inner
  | nvme device => device.inner.held?
  | endpoint _ | ata (.routed _ _) => none

def bringsLimit : Device → Bool
  | ata device => device.bringsLimit
  | endpoint _ | nvme _ => false

variable {inner : ScsiDevice} (seconds : UInt32)

theorem asks_ata {device : AtaDevice} (hInner : (ata device).carrier? = some inner)
    (query : Ata.Query) :
    ((device.mapProfile (·.setTimeout seconds)).perform query).Asks
      (Within (if device.bringsLimit then seconds else inner.profile.timeout)) := by
  cases device with
  | sat layer below =>
      cases hInner
      exact (SatLayer.keepsTo_perform _ inner query).asks
  | bridge layer below =>
      cases hInner
      obtain ⟨profile, encoding⟩ := layer
      cases encoding <;> exact (BridgeLayer.keepsTo_perform _ inner query).asks
  | routed layer below => cases hInner

theorem asks_nvme {device : NvmeDevice} (hInner : (nvme device).carrier? = some inner)
    (request : Nvme.Request) (completion : Nvme.Completion) :
    (NvmeDevice.perform { device with profile := device.profile.setTimeout seconds } request
      completion).Asks (Within inner.profile.timeout) := by
  have hUnder : device.inner.Under inner.profile.timeout := by
    obtain ⟨profile, vendor, nsid, fallback, slot⟩ := device
    cases slot with
    | holding below =>
        cases hInner
        exact rfl
    | released => trivial
  exact (@NvmeDevice.keepsTo_perform _ { device with profile := device.profile.setTimeout seconds }
    hUnder request completion).asks

variable {device : Device}

/-- The commands that requests to a translator are turned into, after a time limit was set on it. -/
theorem asks_after_setTimeout (hInner : device.carrier? = some inner)
    {operation : Operation} (hPass : operation.PassesThrough) :
    ((device.mapProfile (·.setTimeout seconds)).operate operation).Asks
      (Within (if device.bringsLimit then seconds else inner.profile.timeout)) := by
  cases hPass with
  | ata query =>
      cases device with
      | endpoint e => cases hInner
      | nvme device => exact Dialogue.asks_done _
      | ata device =>
          show ((device.mapProfile (·.setTimeout seconds)).operate (.ata query)).Asks _
          rw [AtaDevice.operate_ata]
          exact (asks_ata seconds hInner query).bind fun _ => Dialogue.asks_done _
  | nvme request completion =>
      cases device with
      | endpoint e => cases hInner
      | nvme device =>
          exact (asks_nvme seconds hInner request completion).bind fun _ => Dialogue.asks_done _
      | ata device =>
          cases device with
          | sat layer below | bridge layer below => exact Dialogue.asks_done _
          | routed layer below => cases hInner

/-- A time limit that is set on a translator governs its commands exactly if the translator brings
its limit along, or the device below happens to have the same one. -/
theorem setTimeout_governs_iff (hInner : device.carrier? = some inner) {operation : Operation}
    (hPass : operation.PassesThrough) :
    ((device.mapProfile (·.setTimeout seconds)).operate operation).Ensures fun below _ =>
      commands below ≠ [] →
        ((∀ command ∈ commands below, command.timeout = seconds) ↔
          device.bringsLimit = true ∨ inner.profile.timeout = seconds) := by
  have hAsks := asks_after_setTimeout seconds hInner hPass
  refine (hAsks.ensures (safe_operate _ operation)).mono fun below _ hWithin hSent => ?_
  have hLimit := timeout_of_mem_commands hWithin.1
  obtain ⟨first, hFirst⟩ := List.exists_mem_of_ne_nil _ hSent
  constructor
  · intro hSeconds
    cases hBrings : device.bringsLimit with
    | true => exact .inl rfl
    | false =>
        rw [hBrings] at hLimit
        exact .inr ((hLimit first hFirst).symm.trans (hSeconds first hFirst))
  · intro hEither command hMember
    rw [hLimit command hMember]
    split
    · rfl
    · next hBrings => exact hEither.resolve_left hBrings

/-- A disk behind a bridge. -/
def bridged (encoding : Encoding) : Device :=
  .ata (.bridge (.atop (Endpoint.new "/dev/sdb" 0).profile "" encoding)
    (.endpoint (.new "/dev/sdb" 0)))

def powerCheck : Ata.Query where
  request :=
    { registers := ({} : Ata.RegisterFile _).set .command Ata.Opcode.checkPowerMode }

/-- The time limits of the commands by which a disk is asked for its power mode, after its own limit
was set. -/
def powerCheckLimits (device : Device) (seconds : UInt32) : List UInt32 :=
  let run := ((device.mapProfile (·.setTimeout seconds)).operate (.ata powerCheck)).run
    (delivering {}) ()
  (commands (Dialogue.exchanges run.events)).map Scsi.Command.timeout

/-- A bridge of the fixed table heeds the new limit, both for the command and for reading its
registers back. -/
theorem setTimeout_heeded :
    let disk := bridged (.cypress Ata.Cypress.defaultSignature)
    powerCheckLimits disk 5 = [5, 5] ∧ ∀ seconds ∈ powerCheckLimits disk 5, seconds = 5 := by
  intro disk
  have hSent : powerCheckLimits disk 5 = [5, 5] := by decide +kernel
  refine ⟨hSent, ?_⟩
  have hInner : disk.carrier? = some (.endpoint (.new "/dev/sdb" 0)) := rfl
  obtain ⟨_, -, hGoverns⟩ := (setTimeout_governs_iff 5 hInner (.ata powerCheck)).of_run
    (delivering {}) ()
  refine List.forall_mem_map.mpr ((hGoverns fun hNone => ?_).mpr (.inl rfl))
  cases hSent.symm.trans (List.map_eq_nil_iff.mpr hNone)

/-- A two-port bridge does not: its command is under the limit of the endpoint. -/
theorem setTimeout_unheeded :
    let disk := bridged (.jmicron ⟨false, false, some .zero⟩)
    powerCheckLimits disk 5 = [60] ∧ ¬ ∀ seconds ∈ powerCheckLimits disk 5, seconds = 5 := by
  intro disk
  have hSent : powerCheckLimits disk 5 = [60] := by decide +kernel
  rw [hSent]
  exact ⟨rfl, fun hAll => absurd (hAll 60 (List.mem_singleton_self 60)) (by decide)⟩

end Device

end DriveBridge.Chain
