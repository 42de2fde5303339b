import DriveBridge.Proofs.Chain.NarrowBridges
import DriveBridge.Proofs.Nvme.Buffer

/-! The buffer of a request to an NVMe device, on the wire: what a read leaves in it, given what the
endpoint replied, and which requests change it although nothing is sent for them. -/
namespace DriveBridge.Chain

open Nvme (Reader Treats Fetches ReadInto)

namespace NvmeVendor

def reader : NvmeVendor → Reader
  | asmedia => Nvme.Asmedia.bridge.reader
  | jmicron => Nvme.JMicron.reader
  | realtek => Nvme.Realtek.bridge.reader

theorem ensures_treats (vendor : NvmeVendor) (label : String) (request : Nvme.Request)
    (completion : Nvme.Completion) :
    (vendor.perform label request completion).Ensures (Treats vendor.reader request) := by
  cases vendor with
  | asmedia =>
      exact (Nvme.Asmedia.ensures_course request completion).mono fun _ _ course => course.treats
  | jmicron => exact Nvme.JMicron.ensures_treats label request completion
  | realtek =>
      exact (Nvme.Realtek.ensures_course request completion).mono fun _ _ course => course.treats

/-- Which command of a request moves its data. A JMicron bridge takes a command block before. -/
def dataPhase : NvmeVendor → Nat
  | asmedia | realtek => 0
  | jmicron => 1

/-- Bytes of a read that are transferred. A JMicron bridge cuts the self-test log, and a Realtek
bridge every log page. -/
def transferred (vendor : NvmeVendor) (request : Nvme.Request) : Nat :=
  match vendor with
  | asmedia => request.size
  | jmicron =>
      if request.opcode = Nvme.Opcode.getLogPage ∧ request.cdw10.toUInt8 = Nvme.selfTestLog then
        min 0x218 request.size
      else request.size
  | realtek =>
      if request.opcode = Nvme.Opcode.getLogPage then min 0x200 request.size else request.size

theorem phase_reader (vendor : NvmeVendor) : vendor.reader.phase = vendor.dataPhase := by
  cases vendor <;> rfl

theorem transferred_reader (vendor : NvmeVendor) (request : Nvme.Request) :
    vendor.reader.transferred request = vendor.transferred request := by
  cases vendor with
  | asmedia => rfl
  | jmicron =>
      show Nvme.JMicron.transferLength request = transferred .jmicron request
      unfold Nvme.JMicron.transferLength transferred
      grind [Nvme.JMicron.isClamped, Nvme.JMicron.selfTestLimit]
  | realtek =>
      show Nvme.Realtek.transferLength request request.size = transferred .realtek request
      unfold Nvme.Realtek.transferLength transferred
      grind [Nvme.Realtek.logLimit]

end NvmeVendor

namespace Slot

/-- A slot answers with the data as it was, unless a device was to fill it. -/
theorem answers_outward : Answers (fun _ => True) (fun exchange =>
    exchange.command.direction ≠ .fromDevice → exchange.Untouched) fun _ => True := by
  intro query slot _
  cases slot with
  | holding inner =>
      refine (inner.ensures_answer query).bind fun _ outcome hAnswered => ?_
      obtain ⟨exchange, -, hTransmitted⟩ := hAnswered.asked
      refine ⟨fun _ _ => trivial, fun hOutward => ?_, trivial⟩
      have hData := hTransmitted.data_eq fun hInward =>
        hOutward ((query.direction_sent _).symm.trans hInward)
      exact hData.trans (query.data_sent _)
  | released => exact ⟨fun _ _ => trivial, fun _ => rfl, trivial⟩

/-- A released slot sends nothing, and answers with the data as it was. -/
theorem answers_untouched :
    Answers (fun _ => False) Scsi.Exchange.Untouched fun slot => slot = .released := by
  rintro query _ rfl
  exact ⟨List.forall_mem_nil _, rfl, rfl⟩

theorem Conveyed.exists_filled {slot : Slot ScsiDevice} {above : List Scsi.Exchange}
    {below : List Exchange} (conveyed : slot.Conveyed above below) {phase : Nat}
    {exchange : Scsi.Exchange} (hExchange : above[phase]? = some exchange)
    (hOk : exchange.result = .ok ()) (hInward : exchange.command.direction = .fromDevice) :
    ∃ sent reply, below[phase]? = some sent ∧ Filled sent exchange.command.data reply ∧
      exchange.answer.completion.data = Bytes.overlay reply.data exchange.command.data := by
  cases slot with
  | released =>
      obtain ⟨-, hFailed⟩ := conveyed
      rw [hFailed exchange (List.mem_of_getElem? hExchange)] at hOk
      cases hOk
  | holding inner =>
      obtain ⟨sent, hSent, hTransmitted⟩ := exists_counterpart conveyed hExchange
      obtain ⟨reply, hFilled⟩ := hTransmitted.exists_filled hOk hInward
      exact ⟨sent, reply, hSent, hFilled⟩

end Slot

namespace NvmeDevice

variable {device : NvmeDevice} {request : Nvme.Request} {completion : Nvme.Completion}

/-- A read that has filled its buffer from the reply to its data phase. -/
inductive HasRead (vendor : NvmeVendor) (request : Nvme.Request) (below : List Exchange)
    (buffer : Option Bytes) : Prop where
  | fromReply {sent : Exchange} {reply : Scsi.Reply} {before after : Bytes}
      (phase : below[vendor.dataPhase]? = some sent)
      (filled : Filled sent (Bytes.zeros (vendor.transferred request)) reply)
      (given : request.buffer = some before) (left : buffer = some after)
      (into : ReadInto request.size (vendor.transferred request) reply.data before after)

theorem ensures_read (device : NvmeDevice) (request : Nvme.Request)
    (completion : Nvme.Completion) (hDirection : request.direction = .dataIn) :
    (device.perform request completion).Ensures fun below outcome =>
      outcome.1.result = .ok () → HasRead device.vendor request below outcome.1.buffer := by
  have hSession := device.vendor.ensures_treats device.profile.label request completion
  refine (ensures_perform_conveyed hSession).mono fun below outcome hServed hOk => ?_
  obtain ⟨above, conveyed, treats⟩ := hServed
  obtain ⟨hBuffer, exchange, hExchange, fetches⟩ := treats.exists_fetches hDirection hOk
  obtain ⟨sent, reply, hSent, hFilled, hData⟩ :=
    conveyed.exists_filled hExchange fetches.delivered fetches.inward
  rw [fetches.blank] at hFilled hData
  have hLaid := fetches.laid (by rw [hData, Bytes.length_overlay, Bytes.length_zeros])
  rw [hData] at hLaid
  obtain ⟨before, after, hBefore, hAfter, readInto⟩ := Nvme.Request.exists_readInto hBuffer
    (device.vendor.reader.transferred_le request) reply.data
  rw [device.vendor.transferred_reader] at hFilled readInto
  rw [device.vendor.phase_reader] at hSent
  exact .fromReply hSent hFilled hBefore (hLaid.trans hAfter) readInto

/-- What a session ensures for the answers that its slot gives, a request to the device does. -/
theorem ensures_perform_answered {Below : Exchange → Prop} {Reply : Scsi.Exchange → Prop}
    {Within : Slot ScsiDevice → Prop} {post : Nvme.Answer → Prop}
    (hAnswers : Slot.Answers Below Reply Within) (hInner : Within device.inner)
    (hSession : (device.vendor.perform device.profile.label request completion).Ensures
      fun above answer => (∀ exchange ∈ above, Reply exchange) → post answer) :
    (device.perform request completion).Ensures fun below outcome =>
      (∀ exchange ∈ below, Below exchange) ∧ post outcome.1 := by
  refine (hSession.through hAnswers hInner).bind fun below outcome hOutcome => ?_
  obtain ⟨hBelow, hPost, -⟩ := hOutcome
  exact ⟨by simpa using hBelow, hPost⟩

theorem ensures_unread (device : NvmeDevice) (request : Nvme.Request)
    (completion : Nvme.Completion) (hDirection : request.direction ≠ .dataIn) :
    (device.perform request completion).Ensures fun _ outcome =>
      outcome.1.buffer = request.buffer := by
  have hSession := (device.vendor.ensures_treats device.profile.label request completion).mono
    fun _ _ treats => treats.kept hDirection
  exact (ensures_perform_answered Slot.answers_outward trivial hSession).mono fun _ _ h => h.2

/-- Whatever the endpoint replies, a read that succeeds has left in the buffer what was replied to
the command that moves the data, cut at the length of the transfer, with zeros up to the size, and
nothing of it past the size. A request that does not read leaves the buffer as it was, however it
ends. -/
theorem read_fills_buffer (device : NvmeDevice) (request : Nvme.Request)
    (completion : Nvme.Completion) :
    (device.perform request completion).Ensures fun below outcome =>
      (request.direction = .dataIn → outcome.1.result = .ok () →
        HasRead device.vendor request below outcome.1.buffer) ∧
      (request.direction ≠ .dataIn → outcome.1.buffer = request.buffer) := by
  by_cases hDirection : request.direction = .dataIn
  · refine (ensures_read device request completion hDirection).mono fun below outcome h => ?_
    exact ⟨fun _ => h, fun hOther => (hOther hDirection).elim⟩
  · refine (ensures_unread device request completion hDirection).mono fun below outcome h => ?_
    exact ⟨fun hReads => (hDirection hReads).elim, fun _ => h⟩

/-- A JMicron bridge that signs its replies, with nothing else in them. A read of six bytes into a
buffer of eight takes the signature, and zeros where it ends. -/
theorem signature_read :
    let request : Nvme.Request :=
      { opcode := Nvme.Opcode.getLogPage, cdw10 := 2, buffer := some (List.replicate 8 0xff),
        size := 6 }
    let run := ((driveBehind .jmicron).perform request {}).run
      (delivering { data := Bytes.le32 Nvme.JMicron.signature }) ()
    ∃ outcome, run.value = some outcome ∧
      outcome.1.buffer = some [0x4e, 0x56, 0x4d, 0x45, 0, 0, 0xff, 0xff] ∧
        HasRead .jmicron request (Dialogue.exchanges run.events) outcome.1.buffer := by
  intro request run
  obtain ⟨outcome, hValue, hRead, -⟩ := Dialogue.Ensures.of_run
    (read_fills_buffer (driveBehind .jmicron) request {})
    (delivering { data := Bytes.le32 Nvme.JMicron.signature }) ()
  have hLeft : run.value.map (fun outcome => (outcome.1.result, outcome.1.buffer)) =
      some (.ok (), some [0x4e, 0x56, 0x4d, 0x45, 0, 0, 0xff, 0xff]) := by
    decide +kernel
  rw [hValue] at hLeft
  obtain ⟨hOk, hBuffer⟩ := Prod.mk.inj (Option.some_inj.mp hLeft)
  exact ⟨outcome, hValue, hBuffer, hRead (by decide) hOk⟩

/-- The buffer is cleared for a request that is not going to be sent, because there is no device to
send it to, or because it is too long. -/
structure ClearsInVain (device : NvmeDevice) (request : Nvme.Request) : Prop where
  clears : device.vendor.reader.Clears request
  unsent : device.inner = .released ∨ ¬ device.vendor.reader.Fits request

/-- What becomes of a buffer where nothing is sent. -/
structure Unfilled (device : NvmeDevice) (request : Nvme.Request) (below : List Exchange)
    (buffer : Option Bytes) : Prop where
  inVain_iff : device.vendor.reader.Clears request →
    (ClearsInVain device request ↔ below = [])
  cleared : below = [] → device.vendor.reader.Clears request → buffer = request.cleared
  kept : below = [] → ¬ device.vendor.reader.Clears request → buffer = request.buffer

theorem ensures_unfilled (device : NvmeDevice) (request : Nvme.Request)
    (completion : Nvme.Completion) :
    (device.perform request completion).Ensures fun below outcome =>
      Unfilled device request below outcome.1.buffer := by
  have hSession := device.vendor.ensures_treats device.profile.label request completion
  cases hInner : device.inner with
  | released =>
      have hUnfilled := hSession.mono fun _ _ treats => treats.unfilled
      refine (ensures_perform_answered Slot.answers_untouched hInner hUnfilled).mono ?_
      intro below outcome ⟨hNothing, hCleared, hKept⟩
      exact {
        inVain_iff := fun clears =>
          iff_of_true ⟨clears, .inl hInner⟩ (List.eq_nil_iff_forall_not_mem.mpr hNothing)
        cleared := fun _ => hCleared
        kept := fun _ => hKept }
  | holding inner =>
      refine (ensures_perform_relayed hInner hSession).mono fun below outcome hServed => ?_
      obtain ⟨above, treats, relays⟩ := hServed
      -- The session has asked nothing exactly if nothing came to the wire.
      have hNil : above = [] ↔ below = [] := not_iff_not.mp relays.ne_nil_iff
      have hUnfilled (hUnsent : below = []) := treats.unfilled fun exchange hMember => by
        rw [hNil.mpr hUnsent] at hMember
        cases hMember
      have hHolds : device.inner ≠ .released := by simp [hInner]
      exact {
        inVain_iff := fun clears => by
          rw [← hNil]
          constructor
          · intro inVain
            have hFits := inVain.unsent.resolve_left hHolds
            exact Decidable.byContradiction fun hSent => hFits ((treats.sends_iff clears).mp hSent)
          · intro hUnsent
            exact ⟨clears, .inr fun fits => (treats.sends_iff clears).mpr fits hUnsent⟩
        cleared := fun hUnsent => (hUnfilled hUnsent).1
        kept := fun hUnsent => (hUnfilled hUnsent).2 }

/-- Nothing succeeds unless something is sent. -/
theorem ensures_fails_unsent (device : NvmeDevice) (request : Nvme.Request)
    (completion : Nvme.Completion) :
    (device.perform request completion).Ensures fun below outcome =>
      below = [] → outcome.1.result ≠ .ok () := by
  have hSession := device.vendor.ensures_perform device.profile.label request completion
  refine (ensures_perform_conveyed hSession).mono fun below outcome hServed hUnsent hOk => ?_
  obtain ⟨above, conveyed, handled⟩ := hServed
  obtain ⟨exchange, hMember, hSent⟩ := handled.sent hOk
  subst hUnsent
  cases hInner : device.inner with
  | released =>
      rw [hInner] at conveyed
      cases (conveyed.2 exchange hMember).symm.trans hSent
  | holding inner =>
      rw [hInner] at conveyed
      cases List.forall₂_nil_right_iff.mp conveyed
      cases hMember

/-- A request for which nothing is sent fails, and leaves the buffer as it was exactly if it has not
been cleared in vain, or was blank. -/
theorem unsent_keeps_buffer_iff (device : NvmeDevice) (request : Nvme.Request)
    (completion : Nvme.Completion) :
    (device.perform request completion).Ensures fun below outcome =>
      (ClearsInVain device request → below = []) ∧
        (below = [] → outcome.1.result ≠ .ok () ∧
          (outcome.1.buffer = request.buffer ↔
            (ClearsInVain device request → request.Blank))) := by
  refine ((device.ensures_unfilled request completion).and
    (device.ensures_fails_unsent request completion)).mono ?_
  intro below outcome ⟨unfilled, hFails⟩
  refine ⟨fun inVain => (unfilled.inVain_iff inVain.clears).mp inVain, fun hUnsent =>
    ⟨hFails hUnsent, ?_⟩⟩
  by_cases clears : device.vendor.reader.Clears request
  · have inVain := (unfilled.inVain_iff clears).mpr hUnsent
    rw [unfilled.cleared hUnsent clears, Nvme.Request.cleared_eq_iff clears.hasBuffer]
    exact (imp_iff_right inVain).symm
  · exact iff_of_true (unfilled.kept hUnsent clears) fun inVain => (clears inVain.clears).elim

/-- Nothing is sent for the request, which fails, and the buffer comes back changed. -/
def LosesUnsent (device : NvmeDevice) (request : Nvme.Request) : Prop :=
  let run := (device.perform request {}).run (delivering {}) ()
  Dialogue.exchanges run.events = [] ∧ ∃ outcome, run.value = some outcome ∧
    outcome.1.result ≠ .ok () ∧ outcome.1.buffer ≠ request.buffer

theorem losesUnsent_of_inVain {device : NvmeDevice} {request : Nvme.Request}
    (inVain : ClearsInVain device request) (hFilled : ¬ request.Blank) :
    LosesUnsent device request := by
  obtain ⟨outcome, hValue, unfilled, hFails⟩ := Dialogue.Ensures.of_run
    ((device.ensures_unfilled request {}).and (device.ensures_fails_unsent request {}))
    (delivering {}) ()
  have hUnsent := (unfilled.inVain_iff inVain.clears).mp inVain
  refine ⟨hUnsent, outcome, hValue, hFails hUnsent, ?_⟩
  rw [unfilled.cleared hUnsent inVain.clears]
  exact fun hSame => hFilled ((Nvme.Request.cleared_eq_iff inVain.clears.hasBuffer).mp hSame)

/-- An Identify Controller into a buffer that is full of one byte. -/
def identifyInto (byte : UInt8) (size : Nat) : Nvme.Request where
  opcode := Nvme.Opcode.identify
  cdw10 := Nvme.identifyController
  buffer := some (List.replicate size byte)
  size := size

theorem losesUnsent_identifyInto {device : NvmeDevice} {byte : UInt8} {size : Nat}
    (hEncodes : device.vendor.reader.Encodes (identifyInto byte size))
    (hUnsent : device.inner = .released ∨ ¬ device.vendor.reader.Fits (identifyInto byte size))
    (hByte : byte ≠ 0) (hSize : size ≠ 0) : LosesUnsent device (identifyInto byte size) := by
  have hBuffer : (identifyInto byte size).HasBuffer :=
    ⟨_, rfl, Nat.le_of_eq List.length_replicate.symm⟩
  have hReads : (identifyInto byte size).direction = .dataIn :=
    show Nvme.Direction.ofOpcode Nvme.Opcode.identify = .dataIn by decide
  refine losesUnsent_of_inVain ⟨⟨hReads, hEncodes, hBuffer⟩, hUnsent⟩ fun blank => hByte ?_
  have hBlank : (List.replicate size byte).take size = Bytes.zeros size := blank _ rfl
  rw [List.take_replicate, Nat.min_self] at hBlank
  exact (List.replicate_right_inj hSize).mp hBlank

/-- A Realtek bridge refuses an Identify of 64 KiB, and a released device everything, with the buffer
cleared. -/
theorem long_identify_cleared :
    LosesUnsent (driveBehind .realtek) (identifyInto 0xaa 0x10000) ∧
      LosesUnsent { driveBehind .asmedia with inner := .released } (identifyInto 0xaa 4096) := by
  refine ⟨losesUnsent_identifyInto ⟨.controller rfl rfl, rfl, rfl, rfl, rfl, rfl⟩
    (.inr fun fits => ?_) (by decide) (by decide), losesUnsent_identifyInto
      ⟨.controller rfl rfl, rfl, rfl, rfl⟩ (.inl rfl) (by decide) (by decide)⟩
  rcases fits with hLogPage | hShort
  · exact absurd hLogPage (show Nvme.Opcode.identify ≠ Nvme.Opcode.getLogPage by decide)
  · exact absurd hShort (show ¬ 0x10000 ≤ 0xffff by decide)

end NvmeDevice

end DriveBridge.Chain
