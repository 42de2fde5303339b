import DriveBridge.Proofs.Ata.Cypress
import DriveBridge.Proofs.Chain.Relay

/-! Which way the sector of a request goes on a bridge of the fixed table. The table has a direction
for every operation, and the request one of its own; nothing compares the two. -/
namespace DriveBridge

namespace Ata

variable {request : Request}

namespace Cypress

/-- The operation of a request moves no sector, or moves it the way the request says. -/
def Agrees (request : Request) : Prop :=
  ∀ operation select, SmartOperation.ofRequest request = .ok (operation, select) →
    (taskFile operation select).direction = .none ∨
      (taskFile operation select).direction = request.direction.toScsi

theorem agrees_iff {operation : SmartOperation} {select : UInt8}
    (hMapped : SmartOperation.ofRequest request = .ok (operation, select)) :
    Agrees request ↔ (taskFile operation select).direction = .none ∨
      (taskFile operation select).direction = request.direction.toScsi := by
  constructor
  · exact fun hAgrees => hAgrees operation select hMapped
  · intro hDirection _ _ hOther
    cases hMapped.symm.trans hOther
    exact hDirection

namespace TaskFile

variable {file : TaskFile} {data : Bytes}

/-- A carrier moves the sector exactly if its operation has a direction. -/
theorem length_carriage_iff (hRoom : file.direction ≠ .none → sectorSize ≤ data.length) :
    (file.carriage data).length = sectorSize ↔ file.direction ≠ .none := by
  unfold carriage
  cases hDirection : file.direction with
  | none => simp [sectorSize]
  | fromDevice => exact iff_of_true (Bytes.length_zeros _) (by decide)
  | toDevice =>
      exact iff_of_true (List.length_take_of_le (hRoom (by simp [hDirection]))) (by decide)

/-- A carrier that brings nothing leaves what it was given. -/
theorem overlay_carriage (hDirection : file.direction ≠ .fromDevice) :
    Bytes.overlay (file.carriage data) data = data := by
  unfold carriage
  cases hFile : file.direction with
  | none => exact Bytes.overlay_nil data
  | fromDevice => exact (hDirection hFile).elim
  | toDevice => exact Bytes.overlay_take data _

end TaskFile

theorem mem_plan {signature : UInt8} {timeout : UInt32} {query : SmartOperation.Query}
    {command : Scsi.Command} (hMember : command ∈ (plan signature timeout query).commands) :
    command = (taskFile query.operation query.select).carrier signature timeout query.data ∨
      command = (taskFile query.operation query.select).reader signature timeout := by
  rcases List.mem_cons.mp hMember with hCarrier | hReader
  · exact .inl hCarrier
  · simp only [plan] at hReader
    split at hReader
    · exact .inr (List.mem_singleton.mp hReader)
    · cases hReader

/-- What was sent began with the carrier. -/
theorem Operated.exists_first {signature : UInt8} {timeout : UInt32}
    {query : SmartOperation.Query} {exchanges : List Scsi.Exchange}
    {answer : SmartOperation.Answer} (operated : Operated signature timeout query exchanges answer)
    (hSent : exchanges ≠ []) :
    ∃ first later, exchanges = first :: later ∧ first.command =
      (taskFile query.operation query.select).carrier signature timeout query.data := by
  obtain ⟨first, later, rfl⟩ := List.exists_cons_of_ne_nil hSent
  exact ⟨first, later, rfl, (List.cons_prefix_cons.mp operated.commands).1⟩

end Cypress

end Ata

namespace Chain

/-- The sector of a request goes the way the request says: a buffer that is to be filled is not
sent, and one that is to be sent is not written. -/
structure SectorFollows (request : Ata.Request) (below : List Exchange) (answer : Ata.Answer) :
    Prop where
  direction : ∀ command ∈ commands below, command.data.length = Ata.sectorSize →
    command.direction = request.direction.toScsi
  unsent : request.direction = .dataIn → ∀ command ∈ commands below, command.payload = []
  unwritten : request.direction = .dataOut → answer.buffer = request.buffer

section Cypress

variable {signature : UInt8} {timeout : UInt32} {request : Ata.Request}
  {registers : Ata.RegisterFile Ata.OutputRegister} {operation : Ata.SmartOperation}
  {select : UInt8} {outcome : Ata.SmartOperation.Answer} {inner : ScsiDevice}
  {above : List Scsi.Exchange} {below : List Exchange}

open Ata.Cypress

theorem commands_eq_of_operated {query : Ata.SmartOperation.Query}
    (operated : Operated signature timeout query above outcome)
    (relays : inner.Relays above below) : commands below = above.map Scsi.Exchange.command := by
  rw [relays.commands_eq]
  refine List.map_congr_left fun exchange hMember => ?_
  rw [Scsi.Query.sent, operated.unlabelled exchange hMember]
  rfl

/-- A buffer that is not to be filled is as it was, whatever came back. -/
theorem buffer_of_operated
    (operated : Operated signature timeout
      ⟨operation, select, Ata.SmartOperation.sector operation request⟩ above outcome)
    (relays : inner.Relays above below) (hSent : above ≠ [])
    (hDirection : (taskFile operation select).direction ≠ .fromDevice) :
    (Ata.SmartOperation.concluded operation request outcome registers).buffer =
      request.buffer := by
  rw [Ata.SmartOperation.buffer_concluded]
  split
  · rfl
  next hPower =>
    obtain ⟨first, later, rfl, hFirst⟩ := operated.exists_first hSent
    obtain ⟨_, _, hRelayed, -, -⟩ := List.forall₂_cons_left_iff.mp relays
    have hCommand : first.query.sent inner.profile.timeout = first.command := by
      rw [Scsi.Query.sent, operated.unlabelled first List.mem_cons_self]
      rfl
    have hData : first.answer.completion.data = first.command.data := by
      rw [← hCommand]
      refine hRelayed.transmitted.data_eq ?_
      rw [hCommand, hFirst]
      exact hDirection
    rw [operated.data hPower, received, hData, hFirst, TaskFile.carrier]
    dsimp only
    rw [TaskFile.overlay_carriage hDirection, Ata.SmartOperation.sector, if_neg hPower]
    exact request.bufferAfter_take

theorem sectorFollows_iff_of_operated
    (mapped : Ata.SmartOperation.ofRequest request = .ok (operation, select))
    (operated : Operated signature timeout
      ⟨operation, select, Ata.SmartOperation.sector operation request⟩ above outcome)
    (relays : inner.Relays above below) (hSent : above ≠ []) :
    SectorFollows request below
        (Ata.SmartOperation.concluded operation request outcome registers) ↔
      Agrees request := by
  have hRoom := operated.room hSent
  have hCommands := commands_eq_of_operated operated relays
  have hMoves := TaskFile.length_carriage_iff hRoom
  rw [agrees_iff mapped]
  constructor
  · intro hFollows
    obtain ⟨first, later, rfl, hFirst⟩ := operated.exists_first hSent
    have hMember : first.command ∈ commands below := by
      rw [hCommands]
      exact List.mem_cons_self
    by_cases hNone : (taskFile operation select).direction = .none
    · exact .inl hNone
    · refine .inr ?_
      have hDirection := hFollows.direction _ hMember
      rw [hFirst] at hDirection
      exact hDirection (hMoves.mpr hNone)
  · intro hAgrees
    have hPlan : ∀ command ∈ commands below, command ∈ (plan signature timeout
        ⟨operation, select, Ata.SmartOperation.sector operation request⟩).commands := by
      rw [hCommands]
      exact fun command hMember => operated.commands.subset hMember
    refine ⟨fun command hMember hLength => ?_, fun hIn command hMember => ?_, fun hOut => ?_⟩
    · rcases mem_plan (hPlan command hMember) with rfl | rfl
      · exact hAgrees.resolve_left (hMoves.mp hLength)
      · simp [TaskFile.reader, taskFileLength, Ata.sectorSize] at hLength
    · rcases mem_plan (hPlan command hMember) with rfl | rfl
      · rw [hIn] at hAgrees
        rcases hAgrees with hNone | hFrom
        · simp only [Scsi.Command.payload, TaskFile.carrier, hNone]
        · simp only [Scsi.Command.payload, TaskFile.carrier, hFrom, Ata.Direction.toScsi]
      · rfl
    · refine buffer_of_operated operated relays hSent ?_
      rw [hOut] at hAgrees
      rcases hAgrees with hNone | hTo
      · simp [hNone]
      · simp [hTo, Ata.Direction.toScsi]

end Cypress

/-- The sector of a request that is sent goes the way the request says exactly if the table agrees
with it. -/
theorem BridgeLayer.sector_follows_iff (layer : BridgeLayer) (inner : ScsiDevice)
    (query : Ata.Query) {signature : UInt8} (hEncoding : layer.encoding = .cypress signature) :
    ((AtaDevice.bridge layer inner).perform query).Ensures fun below outcome =>
      below ≠ [] →
        (SectorFollows query.request below outcome.1 ↔ Ata.Cypress.Agrees query.request) := by
  have hPerform : (layer.translator.perform query.request query.registers).Ensures
      (Ata.Cypress.Performed signature layer.profile.timeout query.request query.registers) := by
    rw [translator, hEncoding]
    exact Ata.Cypress.ensures_perform _ _
  refine (layer.ensures_perform inner hPerform).mono fun below outcome hServed => ?_
  obtain ⟨above, hPerformed, hRelays⟩ := hServed
  intro hSent
  have hAsked := hRelays.ne_nil_iff.mpr hSent
  generalize outcome.1 = answer at hPerformed
  cases hPerformed with
  | refused failure unsent => exact (hAsked unsent).elim
  | operated operation select outcome checked mapped course =>
      exact sectorFollows_iff_of_operated mapped course.operated hRelays hAsked

/-- A bridge of the fixed table, and the device with it over an endpoint. -/
def tableLayer : BridgeLayer :=
  .atop (Endpoint.new "/dev/sdb" 0).profile "" (.cypress Ata.Cypress.defaultSignature)

def tableDisk : AtaDevice := .bridge tableLayer (.endpoint (.new "/dev/sdb" 0))

/-- A SMART command with a sector to go the given way. -/
def smartTransfer (feature : UInt8) (direction : Ata.Direction) : Ata.Query :=
  let request : Ata.Request :=
    { registers := ({} : Ata.RegisterFile _).setAll
        [(.command, Ata.Opcode.smart), (.features, feature)] }
  ⟨request.setData direction (List.replicate 512 0xaa) 1, {}⟩

/-- A log that is written to the drive is sent there, and stays as it was. -/
theorem BridgeLayer.log_write_follows :
    let query := smartTransfer Ata.SmartFeature.writeLog .dataOut
    let run := (tableDisk.perform query).run (delivering { data := List.replicate 512 0x5a }) ()
    Dialogue.exchanges run.events ≠ [] ∧ ∃ outcome, run.value = some outcome ∧
      SectorFollows query.request (Dialogue.exchanges run.events) outcome.1 := by
  dsimp only
  have hSent : (Dialogue.exchanges ((tableDisk.perform
      (smartTransfer Ata.SmartFeature.writeLog .dataOut)).run
        (delivering { data := List.replicate 512 0x5a }) ()).events).length = 1 := by
    decide +kernel
  have hAgrees : Ata.Cypress.Agrees (smartTransfer Ata.SmartFeature.writeLog .dataOut).request :=
    (Ata.Cypress.agrees_iff rfl).mpr (.inr rfl)
  generalize smartTransfer Ata.SmartFeature.writeLog .dataOut = query at hAgrees hSent ⊢
  obtain ⟨outcome, hValue, hFollows⟩ := Dialogue.Ensures.of_run
    (tableLayer.sector_follows_iff _ query rfl) (delivering { data := List.replicate 512 0x5a }) ()
  have hAsked := List.ne_nil_of_length_eq_add_one hSent
  exact ⟨hAsked, outcome, hValue, (hFollows hAsked).mpr hAgrees⟩

/-- The table has its way: a buffer to be sent is overwritten by a command that reads, and one to be
filled is sent by a command that writes. -/
theorem BridgeLayer.sector_reversed :
    let party := delivering { data := List.replicate 512 0x5a }
    let read := smartTransfer Ata.SmartFeature.readData .dataOut
    let write := smartTransfer Ata.SmartFeature.writeLog .dataIn
    let overwritten := (tableDisk.perform read).run party ()
    let sent := (tableDisk.perform write).run party ()
    (∃ outcome, overwritten.value = some outcome ∧
        ¬ SectorFollows read.request (Dialogue.exchanges overwritten.events) outcome.1) ∧
      ∃ outcome, sent.value = some outcome ∧
        ¬ SectorFollows write.request (Dialogue.exchanges sent.events) outcome.1 := by
  intro party read write overwritten sent
  constructor
  · have hBuffer : overwritten.value.map (fun outcome => outcome.1.buffer) =
        some (some (List.replicate 512 0x5a)) := by
      decide +kernel
    obtain ⟨outcome, hValue, hOutcome⟩ := Option.map_eq_some_iff.mp hBuffer
    refine ⟨outcome, hValue, fun hFollows => ?_⟩
    have hKept := hOutcome.symm.trans (hFollows.unwritten rfl)
    exact absurd hKept (by decide +kernel)
  · have hPayload : (commands (Dialogue.exchanges sent.events)).map Scsi.Command.payload =
        [List.replicate 512 0xaa] := by
      decide +kernel
    have hEnds : sent.value.isSome = true := by decide +kernel
    obtain ⟨outcome, hValue⟩ := Option.isSome_iff_exists.mp hEnds
    refine ⟨outcome, hValue, fun hFollows => ?_⟩
    have hUnsent : ∀ payload ∈ (commands (Dialogue.exchanges sent.events)).map Scsi.Command.payload,
        payload = [] :=
      List.forall_mem_map.mpr (hFollows.unsent rfl)
    rw [hPayload] at hUnsent
    exact absurd (hUnsent _ (List.mem_singleton_self _)) (by decide)

end Chain

end DriveBridge
