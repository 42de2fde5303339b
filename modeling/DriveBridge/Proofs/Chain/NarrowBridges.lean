import DriveBridge.Proofs.Chain.BadRequest
import DriveBridge.Proofs.Chain.Phases
import DriveBridge.Proofs.Nvme.NarrowCdb

/-! Requests to the bridges that need one command for them, on the wire: exactly which requests are
sent, and which of them the command tells apart. -/
namespace DriveBridge.Chain

open Nvme (NarrowBridge SameBits SameCommand ToldAlike)

/-- A bridge as one that needs one command for a request, if it is one. -/
def NvmeVendor.narrow? : NvmeVendor → Option NarrowBridge
  | asmedia => some Nvme.Asmedia.bridge
  | jmicron => none
  | realtek => some Nvme.Realtek.bridge

theorem NvmeVendor.ensures_course {vendor : NvmeVendor} {bridge : NarrowBridge}
    (hBridge : vendor.narrow? = some bridge) (label : String) (request : Nvme.Request)
    (completion : Nvme.Completion) :
    (vendor.perform label request completion).Ensures (bridge.Course request completion) := by
  cases vendor with
  | asmedia =>
      cases hBridge
      exact Nvme.Asmedia.ensures_course request completion
  | jmicron => cases hBridge
  | realtek =>
      cases hBridge
      exact Nvme.Realtek.ensures_course request completion

/-- How many bits of the tenth dword, from the lowest one on, are to tell commands apart. On a Realtek
bridge the upper half counts dwords, for which the length of the transfer stands. -/
def NvmeVendor.toldBits? : NvmeVendor → Option Nat
  | asmedia => some 32
  | jmicron => none
  | realtek => some 16

namespace NvmeDevice

variable {device : NvmeDevice} {bridge : NarrowBridge} {request : Nvme.Request}

/-- What a bridge makes of a request, with another device below it. -/
structure Sifted (bridge : NarrowBridge) (inner : ScsiDevice) (request : Nvme.Request)
    (below : List Exchange) (result : Except Failure Unit) : Prop where
  /-- Something is sent exactly for the requests that the bridge takes. -/
  sent : below ≠ [] ↔ bridge.Accepts request
  /-- What is sent is one command. -/
  once : bridge.Accepts request → below.map Dialogue.Exchange.query =
    [.transmit inner.place.unit
      { bridge.command request with timeout := inner.profile.timeout }]
  unsupported : ¬ bridge.Encodes request →
    ∃ failure, result = .error failure ∧ failure.cause = .unsupported
  malformed : bridge.Encodes request → ¬ bridge.Accepts request →
    ∃ failure, result = .error failure ∧ failure.cause = .malformed

theorem sifted_of_course {inner : ScsiDevice} {completion : Nvme.Completion}
    {above : List Scsi.Exchange} {below : List Exchange} {answer : Nvme.Answer}
    (course : bridge.Course request completion above answer) (relays : inner.Relays above below) :
    Sifted bridge inner request below answer.result := by
  cases course with
  | unsupported fails cause =>
      cases relays
      exact {
        sent := iff_of_false (fun h => h rfl) fun accepts => fails accepts.toEncodes
        once := fun accepts => (fails accepts.toEncodes).elim
        unsupported := fun _ => ⟨_, rfl, cause⟩
        malformed := fun encodes => (fails encodes).elim }
  | unbuffered encodes fails cause =>
      cases relays
      exact {
        sent := iff_of_false (fun h => h rfl) fun accepts => fails accepts.buffer
        once := fun accepts => (fails accepts.buffer).elim
        unsupported := fun hUnknown => (hUnknown encodes).elim
        malformed := fun _ _ => ⟨_, rfl, cause⟩ }
  | tooLong encodes _ fails cause =>
      cases relays
      exact {
        sent := iff_of_false (fun h => h rfl) fun accepts => fails accepts.length
        once := fun accepts => (fails accepts.length).elim
        unsupported := fun hUnknown => (hUnknown encodes).elim
        malformed := fun _ _ => ⟨_, rfl, cause⟩ }
  | @sent exchange _ accepts command_eq judged _ =>
      have hQueries := relays.queries_of_judged (List.forall_mem_singleton.mpr judged)
      rw [List.map_singleton, List.map_singleton, command_eq] at hQueries
      exact {
        sent := iff_of_true (relays.ne_nil_iff.mp (List.cons_ne_nil _ _)) accepts
        once := fun _ => hQueries
        unsupported := fun hUnknown => (hUnknown accepts.toEncodes).elim
        malformed := fun _ hRefused => (hRefused accepts).elim }

/-- Whatever the endpoint answers, a bridge that needs one command for a request sends exactly the
requests that it takes. What it cannot encode is unsupported, and what it could, malformed. -/
theorem narrow_bridge_exact (device : NvmeDevice) (bridge : NarrowBridge)
    (hBridge : device.vendor.narrow? = some bridge) (inner : ScsiDevice)
    (hInner : device.inner = .holding inner) (request : Nvme.Request)
    (completion : Nvme.Completion) :
    (device.perform request completion).Ensures fun below outcome =>
      Sifted bridge inner request below outcome.1.result := by
  have hSession := NvmeVendor.ensures_course hBridge device.profile.label request completion
  refine (ensures_perform_relayed hInner hSession).mono fun below outcome hServed => ?_
  obtain ⟨above, course, relays⟩ := hServed
  exact sifted_of_course course relays

/-- A Realtek bridge sends a request for 64 KiB of a log page, which it cuts, and finds one for as
much Identify data malformed. A request for another namespace than the first is unsupported. -/
theorem long_log_page_sent :
    let device := NvmeDevice.atop (.endpoint (.new "/dev/sdb" 0)) "" .realtek 0 none
    let buffer := Bytes.zeros 0x10000
    let page : Nvme.Request :=
      { opcode := Nvme.Opcode.getLogPage, cdw10 := 0x3fff0002, buffer := some buffer,
        size := 0x10000 }
    let controller : Nvme.Request :=
      { page with opcode := Nvme.Opcode.identify, cdw10 := Nvme.identifyController }
    let other : Nvme.Request := { controller with cdw10 := Nvme.identifyNamespace, nsid := 2 }
    let run (request : Nvme.Request) := (device.perform request {}).run (delivering {}) ()
    (Dialogue.exchanges (run page).events).length = 1 ∧
      (∃ outcome failure, (run controller).value = some outcome ∧
        outcome.1.result = .error failure ∧ failure.cause = .malformed) ∧
      ∃ outcome failure, (run other).value = some outcome ∧
        outcome.1.result = .error failure ∧ failure.cause = .unsupported := by
  intro device buffer page controller other run
  have sifted (request : Nvme.Request) : ∃ outcome, (run request).value = some outcome ∧
      Sifted Nvme.Realtek.bridge (.endpoint (.new "/dev/sdb" 0)) request
        (Dialogue.exchanges (run request).events) outcome.1.result :=
    Dialogue.Ensures.of_run (narrow_bridge_exact device _ rfl _ rfl request {}) (delivering {}) ()
  -- 64 KiB are too many to run a session on.
  clear_value run
  have hDistinct : Nvme.Opcode.identify ≠ Nvme.Opcode.getLogPage := by decide
  have hBuffer : page.HasBuffer := ⟨buffer, rfl, Nat.le_of_eq (Bytes.length_zeros 0x10000).symm⟩
  have hDwords : Nvme.Realtek.bridge.DwordsFit page := ⟨rfl, rfl, rfl, rfl, rfl⟩
  refine ⟨?_, ?_, ?_⟩
  · have hAccepts : Nvme.Realtek.bridge.Accepts page :=
      ⟨⟨.logPage rfl (.inr rfl), hDwords⟩, hBuffer, .inl rfl⟩
    obtain ⟨_, -, hPage⟩ := sifted page
    have hLength := congrArg List.length (hPage.once hAccepts)
    rwa [List.length_map] at hLength
  · have hEncodes : Nvme.Realtek.bridge.Encodes controller := ⟨.controller rfl rfl, hDwords⟩
    have hRefused : ¬ Nvme.Realtek.bridge.Accepts controller := by
      intro hAccepts
      rcases hAccepts.length with hLogPage | hShort
      · exact hDistinct hLogPage
      · exact absurd hShort (show ¬ 0x10000 ≤ 0xffff by decide)
    obtain ⟨outcome, hValue, hController⟩ := sifted controller
    obtain ⟨failure, hFailed, hCause⟩ := hController.malformed hEncodes hRefused
    exact ⟨outcome, failure, hValue, hFailed, hCause⟩
  · have hUnknown : ¬ Nvme.Realtek.bridge.Encodes other := by
      intro hEncodes
      cases hEncodes.narrow with
      | controller _ whole =>
          exact absurd whole (show Nvme.identifyNamespace ≠ Nvme.identifyController by decide)
      | firstNamespace _ _ first => exact absurd first (show (2 : UInt32) ≠ 1 by decide)
      | logPage reads _ => exact hDistinct reads
    obtain ⟨outcome, hValue, hOther⟩ := sifted other
    obtain ⟨failure, hFailed, hCause⟩ := hOther.unsupported hUnknown
    exact ⟨outcome, failure, hValue, hFailed, hCause⟩

/-- Every command that is sent has the CDB of a request that the bridge can encode. -/
theorem ensures_encoded (hBridge : device.vendor.narrow? = some bridge)
    (completion : Nvme.Completion) :
    (device.perform request completion).Ensures fun below _ =>
      ∀ command ∈ commands below, bridge.Encodes request ∧ command.cdb = bridge.cdb request := by
  have hSession := NvmeVendor.ensures_course hBridge device.profile.label request completion
  cases hInner : device.inner with
  | released =>
      refine (ensures_perform_conveyed hSession).mono fun below _ hServed => ?_
      obtain ⟨above, hConveyed, -⟩ := hServed
      rw [hInner] at hConveyed
      rw [hConveyed.1]
      exact List.forall_mem_nil _
  | holding inner =>
      refine (ensures_perform_relayed hInner hSession).mono fun below outcome hServed => ?_
      obtain ⟨above, course, relays⟩ := hServed
      have sifted := sifted_of_course course relays
      intro command hCommand
      have hSent : below ≠ [] := by
        rintro rfl
        cases hCommand
      have hAccepts := sifted.sent.mp hSent
      rw [commands, sifted.once hAccepts] at hCommand
      cases List.mem_singleton.mp hCommand
      exact ⟨hAccepts.toEncodes, rfl⟩

/-- Commands of one CDB come from requests that the bridge encodes alike. -/
theorem ensures_same_cdb {first second : NvmeDevice} (hFirst : first.vendor.narrow? = some bridge)
    (hSecond : second.vendor.narrow? = some bridge) {other : Nvme.Request}
    (completion completion' : Nvme.Completion) {conclusion : Prop}
    (h : bridge.Encodes request → bridge.Encodes other → bridge.cdb request = bridge.cdb other →
      conclusion) :
    (first.perform request completion).Ensures fun below _ =>
      (second.perform other completion').Ensures fun below' _ =>
        ∀ command ∈ commands below, ∀ command' ∈ commands below', command.cdb = command'.cdb →
          conclusion := by
  refine (ensures_encoded hFirst completion).mono fun below _ hBelow => ?_
  refine (ensures_encoded hSecond completion').mono fun below' _ hBelow' => ?_
  intro command hCommand command' hCommand' hCdb
  obtain ⟨hEncodes, hRequest⟩ := hBelow command hCommand
  obtain ⟨hEncodes', hOther⟩ := hBelow' command' hCommand'
  exact h hEncodes hEncodes' (hRequest.symm.trans (hCdb.trans hOther))

/-- Where two requests to bridges of one make come to the same CDB, they agree in everything but the
second bytes of their tenth dwords, and are for the same command exactly if these agree, too. No bridge
sends that byte, and none refuses a request for it. -/
theorem same_cdb_tells_iff {vendor : NvmeVendor} {width : Nat}
    (hTold : vendor.toldBits? = some width) (first second : NvmeDevice)
    (hFirst : first.vendor = vendor) (hSecond : second.vendor = vendor)
    (request other : Nvme.Request) (completion completion' : Nvme.Completion) :
    (first.perform request completion).Ensures fun below _ =>
      (second.perform other completion').Ensures fun below' _ =>
        ∀ command ∈ commands below, ∀ command' ∈ commands below', command.cdb = command'.cdb →
          ToldAlike width request other ∧
            (SameCommand width request other ↔ SameBits 8 16 request.cdw10 other.cdw10) := by
  cases vendor with
  | asmedia =>
      cases hTold
      refine ensures_same_cdb (congrArg NvmeVendor.narrow? hFirst)
        (congrArg NvmeVendor.narrow? hSecond) _ _ fun hEncodes hEncodes' hCdb => ?_
      have told := Nvme.Asmedia.toldAlike hEncodes hEncodes' hCdb
      exact ⟨told, told.sameCommand_iff (by decide)⟩
  | jmicron => cases hTold
  | realtek =>
      cases hTold
      refine ensures_same_cdb (congrArg NvmeVendor.narrow? hFirst)
        (congrArg NvmeVendor.narrow? hSecond) _ _ fun hEncodes hEncodes' hCdb => ?_
      have told := Nvme.Realtek.toldAlike hEncodes hEncodes' hCdb
      exact ⟨told, told.sameCommand_iff (by decide)⟩

/-- A drive behind a bridge of the given make. -/
def driveBehind (vendor : NvmeVendor) : NvmeDevice :=
  .atop (.endpoint (.new "/dev/sdb" 0)) "" vendor Nvme.broadcast none

/-- A read of four bytes of a log page. -/
def pageRead (dword : UInt32) : Nvme.Request where
  opcode := Nvme.Opcode.getLogPage
  cdw10 := dword
  buffer := some (Bytes.zeros 4)
  size := 4

/-- What is sent for a read of a log page. -/
def pageCommands (vendor : NvmeVendor) (dword : UInt32) : List Scsi.Command :=
  commands (Dialogue.exchanges
    (((driveBehind vendor).perform (pageRead dword) {}).run (delivering {}) ()).events)

theorem exists_same_cdb {vendor : NvmeVendor} {first second : UInt32} {cdb : Bytes}
    (hFirst : (pageCommands vendor first).map Scsi.Command.cdb = [cdb])
    (hSecond : (pageCommands vendor second).map Scsi.Command.cdb = [cdb]) :
    ∃ command ∈ pageCommands vendor first, ∃ command' ∈ pageCommands vendor second,
      command.cdb = command'.cdb := by
  obtain ⟨command, hSent, hCdb⟩ := List.map_eq_singleton_iff.mp hFirst
  obtain ⟨command', hSent', hCdb'⟩ := List.map_eq_singleton_iff.mp hSecond
  exact ⟨command, by simp [hSent], command', by simp [hSent'], hCdb.trans hCdb'.symm⟩

/-- Two counts of dwords make no difference to a Realtek bridge. The lower halves of the tenth dwords
agree, so that the command is the same. -/
theorem counts_untold :
    (∃ command ∈ pageCommands .realtek 0x007f0002, ∃ command' ∈ pageCommands .realtek 0x00ff0002,
        command.cdb = command'.cdb) ∧
      SameCommand 16 (pageRead 0x007f0002) (pageRead 0x00ff0002) := by
  have hSame := @exists_same_cdb .realtek 0x007f0002 0x00ff0002
    ([0xe4, 4, 0, 2, 2] ++ Bytes.zeros 11) (by decide +kernel) (by decide +kernel)
  refine ⟨hSame, ?_⟩
  obtain ⟨command, hSent, command', hSent', hCdb⟩ := hSame
  obtain ⟨_, -, hSecond⟩ := Dialogue.Ensures.of_run
    (same_cdb_tells_iff rfl (driveBehind .realtek) (driveBehind .realtek) rfl rfl
      (pageRead 0x007f0002) (pageRead 0x00ff0002) {} {}) (delivering {}) ()
  obtain ⟨_, -, hTells⟩ := Dialogue.Ensures.of_run hSecond (delivering {}) ()
  exact (hTells command hSent command' hSent' hCdb).2.mpr (by decide)

/-- A log page is read with bit 15 of the tenth dword, by which a drive is to retain the event that the
page reports, and without it. Both reads are sent, with the same CDB. -/
theorem retained_event_untold :
    ((∃ command ∈ pageCommands .asmedia 0x8002, ∃ command' ∈ pageCommands .asmedia 0x0002,
        command.cdb = command'.cdb) ∧ ¬ SameCommand 32 (pageRead 0x8002) (pageRead 0x0002)) ∧
      (∃ command ∈ pageCommands .realtek 0x8002, ∃ command' ∈ pageCommands .realtek 0x0002,
        command.cdb = command'.cdb) ∧ ¬ SameCommand 16 (pageRead 0x8002) (pageRead 0x0002) := by
  have hBit : (0x8002 : UInt32).toBitVec.getLsbD 15 ≠ (0x0002 : UInt32).toBitVec.getLsbD 15 := by
    decide
  refine ⟨⟨?_, fun same => hBit (same.cdw10 15 (by decide) (by decide))⟩, ?_,
    fun same => hBit (same.cdw10 15 (by decide) (by decide))⟩
  · exact @exists_same_cdb .asmedia 0x8002 0x0002 ([0xe6, 2, 0, 2] ++ Bytes.zeros 12)
      (by decide +kernel) (by decide +kernel)
  · exact @exists_same_cdb .realtek 0x8002 0x0002 ([0xe4, 4, 0, 2, 2] ++ Bytes.zeros 11)
      (by decide +kernel) (by decide +kernel)

end NvmeDevice

end DriveBridge.Chain
