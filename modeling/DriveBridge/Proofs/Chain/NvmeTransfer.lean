import DriveBridge.Proofs.Chain.BadRequest
import DriveBridge.Proofs.Chain.Phases
import DriveBridge.Proofs.Nvme.TransferLength

/-! How much a JMicron bridge is told to transfer, and how much it is handed. The phases of a
request are followed to the wire once; the length that the data phase announces and the clamp of
the self-test log are read off the commands that come there. -/
namespace DriveBridge.Chain

open Nvme.JMicron (Announces Prepared Walked ReadsLongSelfTest announcedLength dwordsAsked
  blockCommand responseCommand commandBlock dataLength selfTestLimit transferLength)
open Scsi (Completed)

namespace NvmeDevice

/-- The command that takes the command block of a request, if it is sent. -/
def blockPhase? (below : List Exchange) : Option Scsi.Command := (commands below)[0]?

/-- The command of the data phase of a request, if it is sent. -/
def dataPhase? (below : List Exchange) : Option Scsi.Command := (commands below)[1]?

/-- A request goes out in its three phases, as far as they get. -/
structure InPhases (inner : ScsiDevice) (request : Nvme.Request) (below : List Exchange) :
    Prop where
  queries : ∃ data, Announces data (Nvme.JMicron.dataPhase request.opcode) (dataLength request) ∧
    below.map Dialogue.Exchange.query <+: [blockCommand request, data, responseCommand].map
      fun command => .transmit inner.place.unit { command with timeout := inner.profile.timeout }
  reached : ∀ phase < 3, (phase < below.length ↔ Completed Exchange.Delivered below phase)

/-- What becomes of a request: it goes out in its phases, unless nobody is there to take it or the
bridge refuses it. -/
inductive Dispatched (device : NvmeDevice) (request : Nvme.Request) (below : List Exchange) :
    Prop where
  | released (nobody : device.inner = .released) (unsent : below = [])
  | refused (unprepared : ∀ data buffer, ¬ Prepared request data buffer) (unsent : below = [])
  | sent {inner : ScsiDevice} (holds : device.inner = .holding inner)
      (phases : InPhases inner request below)

section InPhases

variable {device : NvmeDevice} {inner : ScsiDevice} {request : Nvme.Request}
  {below : List Exchange} {command : Scsi.Command}

theorem inPhases_of_walked {above : List Scsi.Exchange} {data : Bytes} {buffer : Option Bytes}
    {completion : Nvme.Completion} {answer : Nvme.Answer}
    (prepared : Prepared request data buffer)
    (walked : Walked request data buffer completion above answer)
    (relays : inner.Relays above below) : InPhases inner request below where
  queries := ⟨_, Nvme.JMicron.announces_dataCommand request prepared.length_data
    prepared.direction_ne, relays.queries_prefix walked.follows walked.judged⟩
  reached := fun _ hPhase => relays.reached_iff walked.follows walked.judged hPhase

theorem ensures_dispatched (device : NvmeDevice) (request : Nvme.Request)
    (completion : Nvme.Completion) (hVendor : device.vendor = .jmicron) :
    (device.perform request completion).Ensures fun below _ =>
      Dispatched device request below := by
  cases hInner : device.inner with
  | released =>
      have hSession := device.vendor.ensures_perform device.profile.label request completion
      refine (ensures_perform_conveyed hSession).mono fun below _ hServed => ?_
      obtain ⟨above, hConveyed, -⟩ := hServed
      rw [hInner] at hConveyed
      exact .released hInner hConveyed.1
  | holding inner =>
      by_cases hPrepared : ∃ data buffer, Prepared request data buffer
      · obtain ⟨data, buffer, prepared⟩ := hPrepared
        have hSession := Nvme.JMicron.ensures_walked completion device.profile.label prepared
        rw [← NvmeVendor.perform, ← hVendor] at hSession
        refine (ensures_perform_relayed hInner hSession).mono fun below _ hServed => ?_
        obtain ⟨above, walked, relays⟩ := hServed
        exact .sent hInner (inPhases_of_walked prepared walked relays)
      · simp only [not_exists] at hPrepared
        have hSession := Nvme.JMicron.ensures_unsent completion device.profile.label hPrepared
        rw [← NvmeVendor.perform, ← hVendor] at hSession
        refine (ensures_perform_relayed hInner hSession).mono fun below _ hServed => ?_
        obtain ⟨above, ⟨rfl, -⟩, relays⟩ := hServed
        exact .refused hPrepared (List.forall₂_nil_left_iff.mp relays)

/-- Every exchange of a request is one of a command. -/
theorem InPhases.transmits (phases : InPhases inner request below) :
    ∀ exchange ∈ below, ∃ unit command,
      Dialogue.Exchange.query exchange = .transmit unit command := by
  intro exchange hMember
  obtain ⟨data, -, hPrefix⟩ := phases.queries
  have hQuery := hPrefix.subset (List.mem_map_of_mem hMember)
  obtain ⟨_, -, hSent⟩ := List.mem_map.mp hQuery
  exact ⟨_, _, hSent.symm⟩

theorem InPhases.length_commands (phases : InPhases inner request below) :
    (commands below).length = below.length := by
  rw [commands, List.filterMap_map]
  refine List.filterMap_length_eq_length.mpr fun exchange hMember => ?_
  obtain ⟨_, _, hQuery⟩ := phases.transmits exchange hMember
  simp [hQuery, Wire.Query.command?]

/-- A command that is sent is the one that the phase calls for. -/
theorem Dispatched.phase_eq (dispatched : Dispatched device request below) {phase : Nat}
    (hCommand : (commands below)[phase]? = some command) :
    ∃ data limit, Announces data (Nvme.JMicron.dataPhase request.opcode) (dataLength request) ∧
      [blockCommand request, data, responseCommand][phase]?.map
        (fun command => { command with timeout := limit }) = some command := by
  cases dispatched with
  | released _ unsent | refused _ unsent =>
      rw [unsent] at hCommand
      cases hCommand
  | @sent inner _ phases =>
      obtain ⟨data, hAnnounces, hPrefix⟩ := phases.queries
      have hCommands := hPrefix.filterMap Wire.Query.command?
      obtain ⟨hPhase, rfl⟩ := List.getElem?_eq_some_iff.mp hCommand
      refine ⟨data, inner.profile.timeout, hAnnounces, ?_⟩
      rw [← List.getElem?_map]
      exact List.prefix_iff_getElem?.mp hCommands phase hPhase

theorem Dispatched.data_eq (dispatched : Dispatched device request below)
    (hCommand : blockPhase? below = some command) : command.data = commandBlock request := by
  obtain ⟨_, _, -, hPhase⟩ := dispatched.phase_eq hCommand
  cases hPhase
  rfl

theorem Dispatched.announces (dispatched : Dispatched device request below)
    (hCommand : dataPhase? below = some command) :
    Announces command (Nvme.JMicron.dataPhase request.opcode) (dataLength request) := by
  obtain ⟨_, _, hAnnounces, hPhase⟩ := dispatched.phase_eq hCommand
  cases hPhase
  exact ⟨hAnnounces.cdb, hAnnounces.direction, hAnnounces.length⟩

/-- A request with its buffer goes out to a device that is there. -/
theorem Dispatched.of_prepared (dispatched : Dispatched device request below)
    (hInner : device.inner = .holding inner)
    (hPrepared : ∃ data buffer, Prepared request data buffer) : InPhases inner request below := by
  cases dispatched with
  | released nobody _ => cases hInner.symm.trans nobody
  | refused unprepared _ =>
      obtain ⟨_, _, prepared⟩ := hPrepared
      exact (unprepared _ _ prepared).elim
  | sent holds phases =>
      cases hInner.symm.trans holds
      exact phases

theorem InPhases.isSome_blockPhase? (phases : InPhases inner request below) :
    (blockPhase? below).isSome := by
  rw [blockPhase?, isSome_getElem?, phases.length_commands]
  exact (phases.reached 0 (by decide)).mpr Scsi.completed_zero

theorem InPhases.isSome_dataPhase?_iff (phases : InPhases inner request below) :
    (dataPhase? below).isSome ↔ Completed Exchange.Delivered below 1 := by
  rw [dataPhase?, isSome_getElem?, phases.length_commands]
  exact phases.reached 1 (by decide)

end InPhases

/-- Whatever the endpoint answers, the data phase of a request is handed as many bytes as the
request transfers. Its CDB announces that length exactly if it has no more than 24 bits. -/
theorem announced_length_iff (device : NvmeDevice) (request : Nvme.Request)
    (completion : Nvme.Completion) (hVendor : device.vendor = .jmicron)
    (hMoves : request.direction = .dataIn ∨ request.direction = .dataOut) :
    (device.perform request completion).Ensures fun below _ =>
      ∀ command, dataPhase? below = some command →
        Announces command (Nvme.JMicron.dataPhase request.opcode) (transferLength request) ∧
          (announcedLength command.cdb = command.data.length ↔
            transferLength request < 0x1000000) := by
  refine (device.ensures_dispatched request completion hVendor).mono fun below _ dispatched => ?_
  intro command hCommand
  have hAnnounces := dispatched.announces hCommand
  have hLength : dataLength request = transferLength request := by
    rcases hMoves with hCase | hCase <;> simp [dataLength, hCase]
  rw [hLength] at hAnnounces
  exact ⟨hAnnounces, hAnnounces.announcedLength_eq_iff⟩

/-- A bridge takes a transfer of four bytes, which is announced as one. -/
theorem four_bytes_announced :
    let device := NvmeDevice.atop (.endpoint (.new "/dev/sdb" 0)) "" .jmicron 0 none
    let request : Nvme.Request := { opcode := 0x11, buffer := some [1, 2, 3, 4], size := 4 }
    let below := Dialogue.exchanges ((device.perform request {}).run (delivering {}) ()).events
    device.vendor = .jmicron ∧ request.direction = .dataOut ∧ ∃ command,
      dataPhase? below = some command ∧ command.data.length = 4 ∧
        announcedLength command.cdb = 4 := by
  intro device request below
  have hDirection : request.direction = .dataOut := by decide
  have hSent : (dataPhase? below).isSome := by decide +kernel
  obtain ⟨command, hCommand⟩ := Option.isSome_iff_exists.mp hSent
  obtain ⟨outcome, -, hAnnounced⟩ := Dialogue.Ensures.of_run
    (announced_length_iff device request {} rfl (.inr hDirection)) (delivering {}) ()
  obtain ⟨hAnnounces, hExact⟩ := hAnnounced command hCommand
  have hLength : command.data.length = 4 := hAnnounces.length
  exact ⟨rfl, hDirection, command, hCommand, hLength, hLength ▸ hExact.mpr (by decide)⟩

section Delivering

variable {α : Type} {dialogue : Wire α} {inner : ScsiDevice} {request : Nvme.Request}

theorem InPhases.completed_of_delivering (phases : InPhases inner request
      (Dialogue.exchanges (dialogue.run (delivering {}) ()).events)) :
    Completed Exchange.Delivered (Dialogue.exchanges (dialogue.run (delivering {}) ()).events)
      1 := by
  intro phase hPhase
  have hSent := (phases.reached 0 (by decide)).mpr Scsi.completed_zero
  obtain rfl : phase = 0 := by omega
  refine ⟨_, List.getElem?_eq_getElem hSent, ?_⟩
  have hMember := List.getElem_mem hSent
  obtain ⟨unit, command, hQuery⟩ := phases.transmits _ hMember
  obtain ⟨_, hAnswer⟩ := Dialogue.answer_of_mem_run _ _ _ _ hMember
  generalize (Dialogue.exchanges (dialogue.run (delivering {}) ()).events)[0] = exchange
    at hQuery hAnswer
  obtain ⟨query, answer⟩ := exchange
  cases hQuery
  cases hAnswer
  show (Sense.summary 0 Scsi.SenseArea.empty.returned).verdict.isError = false
  decide

end Delivering

/-- A transfer of 16 MiB is announced as one of no bytes. -/
theorem sixteen_mebibytes_unannounced :
    let device := NvmeDevice.atop (.endpoint (.new "/dev/sdb" 0)) "" .jmicron 0 none
    let request : Nvme.Request :=
      { opcode := 0x11, cdw10 := 0x3fffff, buffer := some (Bytes.zeros 0x1000000),
        size := 0x1000000 }
    let below := Dialogue.exchanges ((device.perform request {}).run (delivering {}) ()).events
    ∃ command, dataPhase? below = some command ∧ command.data.length = 0x1000000 ∧
      announcedLength command.cdb = 0 := by
  intro device request below
  have hBuffer : request.size ≤ (Bytes.zeros 0x1000000).length :=
    Nat.le_of_eq (Bytes.length_zeros 0x1000000).symm
  obtain ⟨outcome, -, dispatched⟩ := Dialogue.Ensures.of_run
    (device.ensures_dispatched request {} rfl) (delivering {}) ()
  have phases := dispatched.of_prepared rfl
    (Nvme.JMicron.exists_prepared (by decide) fun _ => ⟨_, rfl, hBuffer⟩)
  have hSent := phases.isSome_dataPhase?_iff.mpr phases.completed_of_delivering
  obtain ⟨command, hCommand⟩ := Option.isSome_iff_exists.mp hSent
  have hAnnounces := dispatched.announces hCommand
  have hLength : dataLength request = 0x1000000 := by decide +kernel
  rw [hLength] at hAnnounces
  exact ⟨command, hCommand, hAnnounces.length, hAnnounces.announcedLength_eq⟩

/-- What the clamp of the self-test log does to a request, as it shows on the wire. -/
structure SelfTestClamp (device : NvmeDevice) (request : Nvme.Request) (below : List Exchange) :
    Prop where
  /-- A request that is neither bidirectional nor lacks its buffer is sent where a device is there.
  Its data phase follows exactly if the command block is delivered. -/
  sent : ∀ inner, device.inner = .holding inner → request.direction ≠ .bidirectional →
    (request.direction ≠ .noData →
      ∃ buffer, request.buffer = some buffer ∧ request.size ≤ buffer.length) →
    (blockPhase? below).isSome ∧
      ((dataPhase? below).isSome ↔ Completed Exchange.Delivered below 1)
  /-- The data phase transfers what the bridge can, and announces as much. -/
  moved : ReadsLongSelfTest request → ∀ command, dataPhase? below = some command →
    command.data.length = selfTestLimit ∧ announcedLength command.cdb = selfTestLimit
  /-- The command block asks for as much exactly if the request itself has no upper half of the
  count. -/
  asked : ReadsLongSelfTest request → ∀ command, blockPhase? below = some command →
    (command.data.le32At 48).toUInt16 = request.cdw10.toUInt16 ∧
      (dwordsAsked command.data = selfTestLimit / 4 ↔ request.cdw11.toUInt16 = 0)
  /-- Any other request is sent as it is. -/
  others : ¬ ReadsLongSelfTest request →
    (∀ command, blockPhase? below = some command → command.data.le32At 48 = request.cdw10) ∧
      ∀ command, dataPhase? below = some command →
        Announces command (Nvme.JMicron.dataPhase request.opcode)
          (if request.direction = .noData then 0 else request.size)

/-- Whatever the endpoint answers, a long read of the self-test log is clamped in its data phase,
and in its command block exactly if the count of dwords does not reach into the eleventh dword of
the request. -/
theorem self_test_clamp_iff (device : NvmeDevice) (request : Nvme.Request)
    (completion : Nvme.Completion) (hVendor : device.vendor = .jmicron) :
    (device.perform request completion).Ensures fun below _ =>
      SelfTestClamp device request below := by
  refine (device.ensures_dispatched request completion hVendor).mono fun below _ dispatched => ?_
  exact {
    sent := by
      intro inner hInner hDirection hBuffer
      have hPrepared := Nvme.JMicron.exists_prepared hDirection hBuffer
      have phases := dispatched.of_prepared hInner hPrepared
      exact ⟨phases.isSome_blockPhase?, phases.isSome_dataPhase?_iff⟩
    moved := by
      intro long command hCommand
      have hAnnounces := dispatched.announces hCommand
      rw [long.dataLength] at hAnnounces
      exact ⟨hAnnounces.length, hAnnounces.announcedLength_eq⟩
    asked := by
      intro long command hCommand
      rw [dispatched.data_eq hCommand, Nvme.JMicron.le32At_commandBlock_48]
      exact ⟨long.toUInt16_sentCdw10, long.dwordsAsked_eq_iff⟩
    others := by
      intro short
      constructor
      · intro command hCommand
        rw [dispatched.data_eq hCommand, Nvme.JMicron.le32At_commandBlock_48]
        exact Nvme.JMicron.sentCdw10_of_not_clamped (Nvme.JMicron.isClamped_eq_false short)
      · intro command hCommand
        rw [← Nvme.JMicron.dataLength_of_not_long short]
        exact dispatched.announces hCommand }

/-- A read of 1 KiB of the self-test log, with the whole count in the tenth dword. -/
theorem kibibyte_clamped :
    let device := NvmeDevice.atop (.endpoint (.new "/dev/sdb" 0)) "" .jmicron 0 none
    let request : Nvme.Request :=
      { opcode := Nvme.Opcode.getLogPage, cdw10 := 0x00ff0006, buffer := some (Bytes.zeros 0x400),
        size := 0x400 }
    let below := Dialogue.exchanges ((device.perform request {}).run (delivering {}) ()).events
    device.vendor = .jmicron ∧ ReadsLongSelfTest request ∧
      (∃ command, blockPhase? below = some command ∧
        dwordsAsked command.data = selfTestLimit / 4) ∧
      ∃ command, dataPhase? below = some command ∧ command.data.length = selfTestLimit := by
  intro device request below
  have long : ReadsLongSelfTest request := ⟨rfl, by decide, by decide⟩
  obtain ⟨outcome, -, clamp⟩ := Dialogue.Ensures.of_run
    (self_test_clamp_iff device request {} rfl) (delivering {}) ()
  have hBlock : (blockPhase? below).isSome := by decide +kernel
  have hData : (dataPhase? below).isSome := by decide +kernel
  obtain ⟨block, hBlock⟩ := Option.isSome_iff_exists.mp hBlock
  obtain ⟨data, hData⟩ := Option.isSome_iff_exists.mp hData
  exact ⟨rfl, long, ⟨block, hBlock, (clamp.asked long block hBlock).2.mpr rfl⟩, data, hData,
    (clamp.moved long data hData).1⟩

/-- With a 1 in the eleventh dword, which the clamp does not look at, the same read asks for 256 KiB
more. -/
theorem kibibyte_overasked :
    let device := NvmeDevice.atop (.endpoint (.new "/dev/sdb" 0)) "" .jmicron 0 none
    let request : Nvme.Request :=
      { opcode := Nvme.Opcode.getLogPage, cdw10 := 0x00ff0006, cdw11 := 1,
        buffer := some (Bytes.zeros 0x400), size := 0x400 }
    let below := Dialogue.exchanges ((device.perform request {}).run (delivering {}) ()).events
    ReadsLongSelfTest request ∧ ∃ command, blockPhase? below = some command ∧
      dwordsAsked command.data = selfTestLimit / 4 + 0x10000 := by
  intro device request below
  have long : ReadsLongSelfTest request := ⟨rfl, by decide, by decide⟩
  have hSent : (blockPhase? below).isSome := by decide +kernel
  obtain ⟨command, hCommand⟩ := Option.isSome_iff_exists.mp hSent
  obtain ⟨outcome, -, dispatched⟩ := Dialogue.Ensures.of_run
    (device.ensures_dispatched request {} rfl) (delivering {}) ()
  refine ⟨long, command, hCommand, ?_⟩
  have hUpper : request.cdw11.toUInt16.toNat = 1 := by decide
  rw [dispatched.data_eq hCommand, long.dwordsAsked, hUpper]
  omega

end NvmeDevice

end DriveBridge.Chain
