import DriveBridge.Proofs.Dialogue.Ensures
import DriveBridge.Proofs.Multiplexer.Page

/-! Routing, whatever the device answers: which requests it makes, how the page that it writes comes
from the one that it read, and when it succeeds. -/
namespace DriveBridge

namespace Ata

/-- A request as it was made, with what came back. -/
abbrev Exchange := Dialogue.Exchange Query fun _ => Answer

namespace Exchange

def request (exchange : Exchange) : Request := exchange.query.request

def result (exchange : Exchange) : Except Failure Unit := exchange.answer.result

end Exchange

/-- A session that begins with a request ensures what it does for every answer. -/
theorem ensures_send_bind {α : Type} {request : Request} {next : Answer → Session α}
    {post : List Exchange → α → Prop}
    (h : ∀ exchange : Exchange, exchange.request = request →
      (next exchange.answer).Ensures fun later value => post (exchange :: later) value) :
    ((send request).bind next).Ensures post :=
  fun answer => h ⟨⟨request, {}⟩, answer⟩ rfl

end Ata

namespace Multiplexer

/-- The page that a request brought. -/
def pageOf (exchange : Ata.Exchange) : Page := .ofBytes (exchange.answer.buffer.getD [])

/-- The courses that routing may take: it fails at one of the three requests, or makes all of them
and goes by the last page. -/
inductive Course (drive : UInt32) : List Ata.Exchange → Except Failure Unit → Prop where
  | unread {found : Ata.Exchange} {failure : Failure} (hFound : found.request = readRequest)
      (failed : found.result = .error failure) :
      Course drive [found] (.error (stepFailed "Initial Read Log" failure))
  | unwritten {found written : Ata.Exchange} {failure : Failure}
      (hFound : found.request = readRequest) (hRead : found.result = .ok ())
      (hWritten : written.request = writeRequest (revised (pageOf found) drive))
      (failed : written.result = .error failure) :
      Course drive [found, written] (.error (stepFailed "Write Log" failure))
  | unchecked {found written check : Ata.Exchange} {failure : Failure}
      (hFound : found.request = readRequest) (hRead : found.result = .ok ())
      (hWritten : written.request = writeRequest (revised (pageOf found) drive))
      (hWrote : written.result = .ok ()) (hCheck : check.request = readRequest)
      (failed : check.result = .error failure) :
      Course drive [found, written, check] (.error (stepFailed "Secondary Read Log" failure))
  | checked {found written check : Ata.Exchange}
      (hFound : found.request = readRequest) (hRead : found.result = .ok ())
      (hWritten : written.request = writeRequest (revised (pageOf found) drive))
      (hWrote : written.result = .ok ()) (hCheck : check.request = readRequest)
      (hChecked : check.result = .ok ()) :
      Course drive [found, written, check]
        (if (pageOf check).driveSelect = drive then .ok ()
          else .error (wrongDrive (pageOf check).driveSelect drive))

theorem ensures_readPage_bind {α : Type} {next : Except Failure Page → Ata.Session α}
    {post : List Ata.Exchange → α → Prop}
    (failed : ∀ exchange failure, exchange.request = readRequest →
      Ata.Exchange.result exchange = .error failure →
        (next (.error failure)).Ensures fun later value => post (exchange :: later) value)
    (read : ∀ exchange, exchange.request = readRequest → Ata.Exchange.result exchange = .ok () →
      (next (.ok (pageOf exchange))).Ensures fun later value => post (exchange :: later) value) :
    (readPage.bind next).Ensures post := by
  unfold readPage
  rw [Dialogue.bind_eq, Dialogue.bind_assoc]
  refine Ata.ensures_send_bind fun exchange hRequest => ?_
  cases hResult : exchange.answer.result with
  | error failure => exact failed exchange failure hRequest hResult
  | ok _ => exact read exchange hRequest hResult

section Route

variable (drive : UInt32)

/-- A page that is written in answer to another one, and read again. -/
theorem ensures_writePage {found : Ata.Exchange} (hFound : found.request = readRequest)
    (hRead : found.result = .ok ()) :
    (writePage (revised (pageOf found) drive)).Ensures fun later result =>
      Course drive (found :: later) result := by
  refine Ata.ensures_send_bind fun written hWritten => ?_
  cases hWrote : written.answer.result with
  | error failure => exact .unwritten hFound hRead hWritten hWrote
  | ok _ =>
      refine ensures_readPage_bind ?_ ?_
      · intro check failure hCheck hFailed
        exact .unchecked hFound hRead hWritten hWrote hCheck hFailed
      · intro check hCheck hChecked
        have hCourse : Course drive [found, written, check] _ :=
          .checked hFound hRead hWritten hWrote hCheck hChecked
        simp only [driveSelect_revised]
        split
        · next hSame =>
            rw [if_pos hSame] at hCourse
            exact hCourse
        · next hOther =>
            rw [if_neg hOther] at hCourse
            exact hCourse

/-- The page that is about to be written always passes its check, so that the check that is made
before never stops the routing. -/
theorem ensures_route : (route drive).Ensures (Course drive) := by
  unfold route
  rw [Dialogue.bind_eq]
  refine ensures_readPage_bind (fun found failure hFound hFailed => .unread hFound hFailed) ?_
  intro found hFound hRead
  have hWrite := ensures_writePage drive hFound hRead
  simp only [crcOk_revised, if_true, Dialogue.bind_eq]
  -- What is logged depends on whether the page that was read passed its check.
  cases (pageOf found).crcOk with
  | false => exact Dialogue.ensures_log_bind_iff.mpr (Dialogue.ensures_log_bind_iff.mpr hWrite)
  | true => exact Dialogue.ensures_log_bind_iff.mpr hWrite

theorem safe_route : (route drive).Safe := (ensures_route drive).safe

end Route

/-- A request for the one sector of the page, in a buffer of that size. -/
structure AccessesLog (request : Ata.Request) : Prop where
  log : request.registers.value .lbaLow = logAddress
  page : request.registers.wide .lbaMid = 0
  count : request.registers.wide .sectorCount = 1
  size : request.size = pageLength
  buffer : request.buffer.map List.length = some pageLength

theorem accessesLog_readRequest : AccessesLog readRequest where
  log := rfl
  page := by decide
  count := by decide
  size := rfl
  buffer := congrArg some Page.blank.length_raw

theorem accessesLog_writeRequest (page : Page) : AccessesLog (writeRequest page) where
  log := rfl
  page := (by decide : (writeRequest .blank).registers.wide .lbaMid = 0)
  count := (by decide : (writeRequest .blank).registers.wide .sectorCount = 1)
  size := rfl
  buffer := congrArg some page.length_raw

/-- What a request does, by its command and its direction. -/
def operation (exchange : Ata.Exchange) : UInt8 × Ata.Direction :=
  (exchange.request.registers.value .command, exchange.request.direction)

/-- The failure of a page that does not pass the check that was renewed for it. -/
def spoiled (residue : String) : Failure :=
  ⟨.transfer, "intelliprop: Re-calculated log crc(0x" ++ residue ++ ") is invalid!"⟩

/-- How a drive is routed, given what is asked of the device and what comes of it. -/
structure Routed (drive : UInt32) (exchanges : List Ata.Exchange) (result : Except Failure Unit) :
    Prop where
  operations : exchanges.map operation <+: [(Ata.Opcode.readLogExt, .dataIn),
    (Ata.Opcode.writeLogExt, .dataOut), (Ata.Opcode.readLogExt, .dataIn)]
  log : ∀ exchange ∈ exchanges, AccessesLog exchange.request
  delivered : ∀ exchange ∈ exchanges.dropLast, exchange.result = .ok ()
  /-- Nothing but a failure ends them early. -/
  complete : (∀ exchange ∈ exchanges, exchange.result = .ok ()) → exchanges.length = 3
  written : ∀ found written rest, exchanges = found :: written :: rest →
    ∃ bytes, written.request.buffer = some bytes ∧ Reroutes drive (pageOf found).raw bytes
  success : result = .ok () ↔ ∃ found written check, exchanges = [found, written, check] ∧
    (∀ exchange ∈ exchanges, exchange.result = .ok ()) ∧ (pageOf check).driveSelect = drive
  unspoiled : ∀ residue, result ≠ .error (spoiled residue)

section Routed

variable {drive : UInt32} {exchanges : List Ata.Exchange} {result : Except Failure Unit}

theorem wrongDrive_ne_spoiled (found expected : UInt32) (residue : String) :
    wrongDrive found expected ≠ spoiled residue := by
  intro h
  have hMessage := congrArg (·.message.toList) h
  simp [wrongDrive, spoiled, String.toList_append, toString] at hMessage

theorem Course.unspoiled (course : Course drive exchanges result) (residue : String) :
    result ≠ .error (spoiled residue) := by
  -- The messages part after the common beginning, at the first letter of the step.
  have hStep (step : String) (failure : Failure)
      (h : step.toList.head? ∈ [some 'I', some 'W', some 'S']) :
      stepFailed step failure ≠ spoiled residue := by
    intro hSame
    have hMessage := congrArg (·.message.toList) hSame
    cases hLetters : step.toList with
    | nil => simp [hLetters] at h
    | cons letter letters =>
        simp [stepFailed, spoiled, String.toList_append, hLetters] at hMessage
        simp [hLetters, hMessage.1] at h
  cases course with
  | unread => exact fun h => hStep _ _ (by decide) (Except.error.inj h)
  | unwritten => exact fun h => hStep _ _ (by decide) (Except.error.inj h)
  | unchecked => exact fun h => hStep _ _ (by decide) (Except.error.inj h)
  | checked =>
      split
      · exact nofun
      · exact fun h => wrongDrive_ne_spoiled _ _ _ (Except.error.inj h)

theorem operation_read {exchange : Ata.Exchange} (h : exchange.request = readRequest) :
    operation exchange = (Ata.Opcode.readLogExt, .dataIn) := by
  rw [operation, h]
  rfl

theorem operation_write {exchange : Ata.Exchange} {page : Page}
    (h : exchange.request = writeRequest page) :
    operation exchange = (Ata.Opcode.writeLogExt, .dataOut) := by
  rw [operation, h]
  rfl

theorem Course.operations (course : Course drive exchanges result) :
    exchanges.map operation <+: [(Ata.Opcode.readLogExt, .dataIn),
      (Ata.Opcode.writeLogExt, .dataOut), (Ata.Opcode.readLogExt, .dataIn)] := by
  cases course with
  | unread hFound _ => simp [operation_read hFound]
  | unwritten hFound _ hWritten _ => simp [operation_read hFound, operation_write hWritten]
  | unchecked hFound _ hWritten _ hCheck _ =>
      simp [operation_read hFound, operation_write hWritten, operation_read hCheck]
  | checked hFound _ hWritten _ hCheck _ =>
      simp [operation_read hFound, operation_write hWritten, operation_read hCheck]

theorem Course.written (course : Course drive exchanges result) {found written : Ata.Exchange}
    {rest : List Ata.Exchange} (h : exchanges = found :: written :: rest) :
    written.request = writeRequest (revised (pageOf found) drive) := by
  cases course with
  | unread => cases h
  | unwritten _ _ hWritten | unchecked _ _ hWritten | checked _ _ hWritten =>
      cases h
      exact hWritten

theorem Course.success_iff (course : Course drive exchanges result) :
    result = .ok () ↔ ∃ found written check, exchanges = [found, written, check] ∧
      (∀ exchange ∈ exchanges, exchange.result = .ok ()) ∧ (pageOf check).driveSelect = drive := by
  cases course with
  | unread | unwritten => simp
  | unchecked _ _ _ _ _ failed =>
      constructor
      · intro hOk
        cases hOk
      · rintro ⟨_, _, _, -, hDelivered, -⟩
        rw [hDelivered _ (by simp)] at failed
        cases failed
  | checked _ hRead _ hWrote _ hChecked =>
      constructor
      · intro hOk
        split at hOk
        · next hSame => exact ⟨_, _, _, rfl, by simp [hRead, hWrote, hChecked], hSame⟩
        · cases hOk
      · rintro ⟨_, _, _, hExchanges, -, hSame⟩
        cases hExchanges
        exact if_pos hSame

theorem Course.routed (course : Course drive exchanges result) : Routed drive exchanges result where
  operations := course.operations
  log := by
    cases course <;> simp [*, accessesLog_readRequest, accessesLog_writeRequest]
  delivered := by
    cases course <;> simp [*]
  complete := by
    cases course <;> simp [*]
  written := by
    intro found written rest hExchanges
    refine ⟨(revised (pageOf found) drive).raw, ?_, revised_reroutes _ _⟩
    rw [course.written hExchanges]
    rfl
  success := course.success_iff
  unspoiled := course.unspoiled

end Routed

end Multiplexer

end DriveBridge
