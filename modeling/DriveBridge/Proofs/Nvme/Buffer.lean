import DriveBridge.Proofs.Nvme.JMicron
import DriveBridge.Proofs.Nvme.Narrow

/-! What becomes of the buffer of a request. Each bridge moves data in the command of one phase, and
clears a buffer that is to be read into before it gets there. What the command comes back with is laid
over the buffer, so that this command alone decides what the caller finds. -/
namespace DriveBridge

/-- The data of the command came back as it was. -/
def Scsi.Exchange.Untouched (exchange : Scsi.Exchange) : Prop :=
  exchange.answer.completion.data = exchange.command.data

namespace Nvme

section Buffer

variable {request : Request}

/-- The part of the buffer that is to be transferred holds zeros. -/
def Request.Blank (request : Request) : Prop :=
  ∀ buffer, request.buffer = some buffer → buffer.take request.size = Bytes.zeros request.size

theorem Request.cleared_of_room {buffer : Bytes} (hBuffer : request.buffer = some buffer)
    (hRoom : request.size ≤ buffer.length) :
    request.cleared = some (Bytes.zeros request.size ++ buffer.drop request.size) := by
  have hWithin : (Bytes.zeros request.size).length ≤ buffer.length := by
    rwa [Bytes.length_zeros]
  rw [cleared, bufferAfter, hBuffer, Option.map_some, Bytes.overlay_of_length_le hWithin,
    Bytes.length_zeros]

/-- Clearing a buffer makes no difference exactly if there is nothing to clear. -/
theorem Request.cleared_eq_iff (hBuffer : request.HasBuffer) :
    request.cleared = request.buffer ↔ request.Blank := by
  obtain ⟨buffer, hSome, hRoom⟩ := hBuffer
  have hParts : buffer.take request.size ++ buffer.drop request.size = buffer :=
    List.take_append_drop _ _
  have hBlank : request.Blank ↔ buffer.take request.size = Bytes.zeros request.size :=
    ⟨fun blank => blank buffer hSome, fun h other hOther => by
      cases hSome.symm.trans hOther
      exact h⟩
  rw [cleared_of_room hSome hRoom, hSome, Option.some_inj, hBlank]
  constructor
  · intro hSame
    exact List.append_cancel_right (hParts.trans hSame.symm)
  · intro hZeros
    rw [← hZeros, hParts]

/-- The first bytes of a buffer, laid over it, change nothing. -/
theorem map_overlay_take (buffer : Option Bytes) {data : Bytes}
    (h : ∀ bytes, buffer = some bytes → ∃ count, data = bytes.take count) :
    buffer.map (Bytes.overlay data) = buffer := by
  cases buffer with
  | none => rfl
  | some bytes =>
      obtain ⟨count, rfl⟩ := h bytes rfl
      rw [Option.map_some, Bytes.overlay_take]

/-- A cleared buffer does not change when zeros are laid over what has been cleared. -/
theorem Request.cleared_map_zeros {count : Nat} (hBuffer : request.HasBuffer)
    (hCount : count ≤ request.size) :
    request.cleared.map (Bytes.overlay (Bytes.zeros count)) = request.cleared := by
  obtain ⟨buffer, hSome, hRoom⟩ := hBuffer
  have hWithin : count ≤ (Bytes.zeros request.size).length := by
    rwa [Bytes.length_zeros]
  refine map_overlay_take _ fun bytes hBytes => ⟨count, ?_⟩
  rw [cleared_of_room hSome hRoom] at hBytes
  cases hBytes
  rw [List.take_append_of_le_length hWithin, Bytes.take_zeros hCount]

end Buffer

/-! ### The command that moves the data -/

/-- What becomes of a buffer, given the command of the phase that moves its data. -/
inductive Moves (phase : Nat) (command : Scsi.Command) (buffer : Option Bytes)
    (exchanges : List Scsi.Exchange) (answer : Answer) : Prop where
  | unreached (unsent : exchanges[phase]? = none) (kept : answer.buffer = buffer)
      (fails : answer.result ≠ .ok ())
  | moved {exchange : Scsi.Exchange} (sent : exchanges[phase]? = some exchange)
      (command_eq : exchange.command = command)
      (laid : exchange.answer.completion.data.length = command.data.length →
        answer.buffer = buffer.map (Bytes.overlay exchange.answer.completion.data))
      (delivered : answer.result = .ok () → exchange.result = .ok ())

/-- Data that was part of the buffer, and comes back as it was, changes nothing. -/
theorem Moves.kept {phase : Nat} {command : Scsi.Command} {buffer : Option Bytes}
    {exchanges : List Scsi.Exchange} {answer : Answer}
    (moves : Moves phase command buffer exchanges answer)
    (hOwn : buffer.map (Bytes.overlay command.data) = buffer)
    (hUntouched : ∀ exchange ∈ exchanges, exchange.command = command → exchange.Untouched) :
    answer.buffer = buffer := by
  cases moves with
  | unreached _ kept _ => exact kept
  | @moved exchange sent command_eq laid _ =>
      have hData : exchange.answer.completion.data = command.data := by
        rw [hUntouched exchange (List.mem_of_getElem? sent) command_eq, command_eq]
      rw [laid (congrArg List.length hData), hData, hOwn]

/-- How a bridge reads into the buffer of a request. -/
structure Reader where
  /-- Which of the commands moves the data. -/
  phase : Nat
  /-- Bytes that are transferred. -/
  transferred : Request → Nat
  /-- The bridge has an encoding for the operation. -/
  Encodes : Request → Prop
  /-- The length is one that the bridge can transfer, which it finds out when it has cleared the
  buffer. -/
  Fits : Request → Prop
  transferred_le (request : Request) : transferred request ≤ request.size

/-- The requests for which a bridge clears the buffer. -/
structure Reader.Clears (reader : Reader) (request : Request) : Prop where
  reads : request.direction = .dataIn
  encodes : reader.Encodes request
  hasBuffer : request.HasBuffer

/-- What a bridge makes of the buffer of a request. -/
inductive Treats (reader : Reader) (request : Request) (exchanges : List Scsi.Exchange)
    (answer : Answer) : Prop where
  | refused (refuses : ¬ reader.Clears request) (kept : answer.buffer = request.buffer)
      (fails : answer.result ≠ .ok ())
  | reads {command : Scsi.Command} (clears : reader.Clears request)
      (inward : command.direction = .fromDevice)
      (blank : command.data = Bytes.zeros (reader.transferred request))
      (sends : exchanges ≠ [] ↔ reader.Fits request)
      (moves : Moves reader.phase command request.cleared exchanges answer)
  | writes {command : Scsi.Command} (readsNot : request.direction ≠ .dataIn)
      (outward : command.direction ≠ .fromDevice)
      (own : request.buffer.map (Bytes.overlay command.data) = request.buffer)
      (moves : Moves reader.phase command request.buffer exchanges answer)

/-- What was read into a buffer. As far as the transfer goes, this is the data, cut at the limit, with
zeros behind it; past it the buffer is as it was. -/
structure ReadInto (size limit : Nat) (data before after : Bytes) : Prop where
  inside : after.take size = data.take limit ++ Bytes.zeros (size - (data.take limit).length)
  outside : after.drop size = before.drop size

/-- The command that has brought the data of a read. It was given zeros to be filled. -/
structure Fetches (limit : Nat) (request : Request) (exchange : Scsi.Exchange)
    (buffer : Option Bytes) : Prop where
  delivered : exchange.result = .ok ()
  inward : exchange.command.direction = .fromDevice
  blank : exchange.command.data = Bytes.zeros limit
  laid : exchange.answer.completion.data.length = limit →
    buffer = request.cleared.map (Bytes.overlay exchange.answer.completion.data)

section Treats

variable {reader : Reader} {request : Request} {exchanges : List Scsi.Exchange} {answer : Answer}

/-- A request that does not read leaves the buffer alone, as long as a device fills only what it is
given to be filled. -/
theorem Treats.kept (treats : Treats reader request exchanges answer)
    (hDirection : request.direction ≠ .dataIn)
    (hOutward : ∀ exchange ∈ exchanges, exchange.command.direction ≠ .fromDevice →
      exchange.Untouched) : answer.buffer = request.buffer := by
  cases treats with
  | refused _ kept _ => exact kept
  | reads clears => exact (hDirection clears.reads).elim
  | writes _ outward own moves =>
      refine moves.kept own fun exchange hMember hCommand => ?_
      exact hOutward exchange hMember (hCommand ▸ outward)

theorem Treats.exists_fetches (treats : Treats reader request exchanges answer)
    (hDirection : request.direction = .dataIn) (hOk : answer.result = .ok ()) :
    request.HasBuffer ∧ ∃ exchange, exchanges[reader.phase]? = some exchange ∧
      Fetches (reader.transferred request) request exchange answer.buffer := by
  cases treats with
  | refused _ _ fails => exact (fails hOk).elim
  | reads clears inward blank _ moves =>
      cases moves with
      | unreached _ _ fails => exact (fails hOk).elim
      | @moved exchange sent command_eq laid delivered =>
          rw [← command_eq] at inward blank laid
          rw [blank, Bytes.length_zeros] at laid
          exact ⟨clears.hasBuffer, exchange, sent, delivered hOk, inward, blank, laid⟩
  | writes readsNot => exact (readsNot hDirection).elim

/-- What a reply leaves in the buffer, if the command has laid it over as many zeros as are
transferred. -/
theorem Request.exists_readInto {limit : Nat} (hBuffer : request.HasBuffer)
    (hLimit : limit ≤ request.size) (data : Bytes) :
    ∃ before after, request.buffer = some before ∧
      request.cleared.map (Bytes.overlay (Bytes.overlay data (Bytes.zeros limit))) = some after ∧
        ReadInto request.size limit data before after := by
  obtain ⟨before, hSome, hRoom⟩ := hBuffer
  have hWithin : (Bytes.overlay data (Bytes.zeros limit)).length ≤
      (Bytes.zeros request.size).length := by
    rwa [Bytes.length_overlay, Bytes.length_zeros, Bytes.length_zeros]
  have hLength : (Bytes.overlay (Bytes.overlay data (Bytes.zeros limit))
      (Bytes.zeros request.size)).length = request.size := by
    rw [Bytes.length_overlay, Bytes.length_zeros]
  -- The reply ends within the zeros that it was laid over, and these within the cleared part.
  refine ⟨before, _, hSome, congrArg (Option.map _) (cleared_of_room hSome hRoom), ?_⟩
  rw [Bytes.overlay_append hWithin]
  exact {
    inside := (List.take_left' hLength).trans (Bytes.overlay_overlay_zeros data hLimit)
    outside := List.drop_left' hLength }

/-- Where nothing comes back, all that becomes of a buffer is that it may have been cleared. -/
theorem Treats.unfilled (treats : Treats reader request exchanges answer)
    (hUntouched : ∀ exchange ∈ exchanges, exchange.Untouched) :
    (reader.Clears request → answer.buffer = request.cleared) ∧
      (¬ reader.Clears request → answer.buffer = request.buffer) := by
  cases treats with
  | refused refuses kept _ => exact ⟨fun clears => (refuses clears).elim, fun _ => kept⟩
  | reads clears _ blank _ moves =>
      have hOwn := Request.cleared_map_zeros clears.hasBuffer (reader.transferred_le request)
      rw [← blank] at hOwn
      exact ⟨fun _ => moves.kept hOwn fun exchange hMember _ => hUntouched exchange hMember,
        fun hKept => (hKept clears).elim⟩
  | writes readsNot _ own moves =>
      exact ⟨fun clears => (readsNot clears.reads).elim, fun _ =>
        moves.kept own fun exchange hMember _ => hUntouched exchange hMember⟩

/-- A buffer that has been cleared is sent to be filled, unless the length turns out not to fit. -/
theorem Treats.sends_iff (treats : Treats reader request exchanges answer)
    (clears : reader.Clears request) : exchanges ≠ [] ↔ reader.Fits request := by
  cases treats with
  | refused refuses => exact (refuses clears).elim
  | reads _ _ _ sends _ => exact sends
  | writes readsNot => exact (readsNot clears.reads).elim

end Treats

/-! ### The bridges -/

section Narrow

variable {bridge : NarrowBridge} {request : Request} {completion : Completion}
  {exchanges : List Scsi.Exchange} {answer : Answer}

def NarrowBridge.reader (bridge : NarrowBridge) : Reader where
  phase := 0
  transferred := bridge.transferred
  Encodes := bridge.Encodes
  Fits := bridge.LengthFits
  transferred_le := bridge.transferred_le

theorem NarrowBridge.Course.treats (course : bridge.Course request completion exchanges answer) :
    Treats bridge.reader request exchanges answer := by
  have hReads (encodes : bridge.Encodes request) (hasBuffer : request.HasBuffer) :
      bridge.reader.Clears request :=
    ⟨encodes.narrow.direction, encodes, hasBuffer⟩
  cases course with
  | unsupported fails _ => exact .refused (fun clears => fails clears.encodes) rfl nofun
  | unbuffered _ fails _ => exact .refused (fun clears => fails clears.hasBuffer) rfl nofun
  | @tooLong failure encodes hasBuffer fails _ =>
      have moves : Moves bridge.reader.phase (bridge.command request) request.cleared []
          ⟨.error failure, completion, request.cleared⟩ := .unreached rfl rfl nofun
      exact .reads (hReads encodes hasBuffer) rfl rfl (iff_of_false (fun h => h rfl) fails) moves
  | sent accepts command_eq _ filled =>
      have hLength : (bridge.command request).data.length = bridge.transferred request :=
        Bytes.length_zeros _
      exact .reads (hReads accepts.toEncodes accepts.buffer) rfl rfl
        (iff_of_true (List.cons_ne_nil _ _) accepts.length)
        (.moved rfl command_eq (fun h => filled (h.trans hLength)) id)

end Narrow

namespace JMicron

def reader : Reader where
  phase := 1
  transferred := transferLength
  Encodes _ := True
  Fits _ := True
  transferred_le := transferLength_le

variable {request : Request} {data : Bytes} {buffer : Option Bytes}

theorem ensures_moves (request : Request) (data : Bytes) (buffer : Option Bytes)
    (completion : Completion) : (exchange request data buffer completion).Ensures
      (Moves reader.phase (dataCommand request.direction data) buffer) := by
  refine Scsi.ensures_judged_bind fun sent _ _ => ?_
  cases hSent : sent.answer.result with
  | error failure => exact .unreached rfl rfl nofun
  | ok _ =>
      refine Scsi.ensures_judged_bind fun moved hCommand _ => ?_
      cases hMoved : moved.answer.result with
      | error failure => exact .moved rfl hCommand (fun _ => rfl) nofun
      | ok _ =>
          refine (ensures_respond _ completion hSent hMoved).mono fun later answer hLater => ?_
          obtain ⟨-, -, hBuffer, -⟩ := hLater
          exact .moved rfl hCommand (fun _ => hBuffer) fun _ => hMoved

theorem clears_of_dataIn {data : Bytes} (hDirection : request.direction = .dataIn)
    (hData : request.transferred? = some data) : reader.Clears request := by
  obtain ⟨buffer, hBuffer, hRoom, -⟩ := Request.exists_of_transferred? hData
  exact ⟨hDirection, trivial, buffer, hBuffer, hRoom⟩

theorem Prepared.treats {exchanges : List Scsi.Exchange} {answer : Answer}
    (prepared : Prepared request data buffer) (hSent : exchanges ≠ [])
    (moves : Moves reader.phase (dataCommand request.direction data) buffer exchanges answer) :
    Treats reader request exchanges answer := by
  cases prepared with
  | noData hDirection =>
      rw [hDirection] at moves
      refine .writes (by simp [hDirection]) (by simp [dataCommand]) ?_ moves
      exact map_overlay_take _ fun bytes _ => ⟨0, rfl⟩
  | dataIn hDirection hData =>
      rw [hDirection, Request.length_of_transferred? hData] at moves
      exact .reads (clears_of_dataIn hDirection hData) rfl
        (Bytes.take_zeros (transferLength_le request)) (iff_of_true hSent trivial) moves
  | dataOut hDirection hData =>
      rw [hDirection] at moves
      refine .writes (by simp [hDirection]) (by simp [dataCommand]) ?_ moves
      -- What goes out is the start of the buffer, once cut to the size and once to the transfer.
      obtain ⟨buffer, hBuffer, -, rfl⟩ := Request.exists_of_transferred? hData
      refine map_overlay_take _ fun bytes hBytes => ⟨transferLength request, ?_⟩
      cases hBuffer.symm.trans hBytes
      exact (List.take_take ..).trans
        (congrArg buffer.take (Nat.min_eq_left (transferLength_le request)))

theorem ensures_treats (label : String) (request : Request) (completion : Completion) :
    (perform label request completion).Ensures (Treats reader request) := by
  by_cases hPrepared : ∃ data buffer, Prepared request data buffer
  · obtain ⟨data, buffer, prepared⟩ := hPrepared
    have hExchange := (ensures_exchange request data buffer completion).and
      (ensures_moves request data buffer completion)
    refine prepared.ensures completion label (hExchange.mono ?_)
    intro exchanges answer ⟨walked, moves⟩
    exact prepared.treats (walked.follows.ne_nil (List.cons_ne_nil _ _)) moves
  · simp only [not_exists] at hPrepared
    refine (ensures_unsent completion label hPrepared).mono fun exchanges answer hUnsent => ?_
    obtain ⟨-, failure, rfl⟩ := hUnsent
    refine .refused (fun clears => ?_) rfl nofun
    obtain ⟨data, buffer, prepared⟩ := exists_prepared (by simp [clears.reads]) fun _ =>
      clears.hasBuffer
    exact hPrepared data buffer prepared

end JMicron

end Nvme

end DriveBridge
