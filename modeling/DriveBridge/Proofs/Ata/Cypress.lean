import DriveBridge.Proofs.Ata.Smart
import DriveBridge.Proofs.Ata.Translator

/-! What a session with a bridge of the fixed table comes to: at most two ATACBs. The first carries
out the operation, with the sector if the operation moves one; the second reads the registers of
the first one back. -/
namespace DriveBridge.Ata.Cypress

variable {signature : UInt8} {timeout : UInt32} {label : String}

/-- How one ATACB went. Sense data fails it whatever it says. -/
def judged (answer : Scsi.Answer) : Except Failure Unit :=
  match answer.result with
  | .error failure => .error failure
  | .ok () =>
      if answer.completion.hasSense then
        let text := answer.completion.verdict.text
        .error ⟨.transfer, s!"ATACB command failed: {text} [USB Cypress]"⟩
      else .ok ()

theorem judged_error {answer : Scsi.Answer} {failure : Failure}
    (hError : judged answer = .error failure) :
    failure.cause = .transfer ∨ answer.result = .error failure := by
  unfold judged at hError
  split at hError
  next hResult =>
    cases hError
    exact .inr hResult
  next =>
    split at hError <;> cases hError
    exact .inl rfl

theorem ensures_exchange (timeout : UInt32) (cdb : Bytes) (direction : Scsi.Direction)
    (data : Bytes) :
    (exchange timeout cdb direction data).Ensures fun exchanges outcome =>
      ∃ answer, exchanges = [⟨⟨{ cdb, direction, data, timeout }, none⟩, answer⟩] ∧
        outcome = (judged answer, answer.completion.data) := by
  refine Scsi.ensures_send_bind fun answer => ?_
  simp only [judged]
  cases hResult : answer.result with
  | error failure => exact ⟨answer, rfl, by simp [hResult]⟩
  | ok _ =>
      simp only [answer.completion.readHasSense_eq, answer.completion.readVerdict_eq,
        Dialogue.demand_some, Dialogue.bind_eq, Dialogue.done_bind]
      split
      next hSense => exact ⟨answer, rfl, by simp [hResult, hSense]⟩
      next hSense => exact ⟨answer, rfl, by simp [hResult, hSense]⟩

/-- A session that begins with an ATACB ensures what it does for every way that may go. -/
theorem ensures_exchange_bind {α : Type} {cdb data : Bytes} {direction : Scsi.Direction}
    {next : Except Failure Unit × Bytes → Scsi.Session α}
    {post : List Scsi.Exchange → α → Prop}
    (h : ∀ answer, (next (judged answer, answer.completion.data)).Ensures fun later value =>
      post (⟨⟨{ cdb, direction, data, timeout }, none⟩, answer⟩ :: later) value) :
    ((exchange timeout cdb direction data).bind next).Ensures post := by
  refine (ensures_exchange timeout cdb direction data).bind fun before outcome hExchange => ?_
  obtain ⟨answer, rfl, rfl⟩ := hExchange
  exact h answer

/-- What is concluded from the registers that were read back, given the data of the operation. -/
def readOut (operation : SmartOperation) (registers data : Bytes) : SmartOperation.Answer :=
  match operation with
  | .checkPowerMode => ⟨.ok .passed, Bytes.overlay [registers.byte 2] data⟩
  | .statusCheck =>
      match health? (registers.byte 4) (registers.byte 5) with
      | some health => ⟨.ok health, data⟩
      | none => ⟨.error ⟨.transfer, "Error SMART Status command failed [USB Cypress]"⟩, data⟩
  | _ => ⟨.ok .passed, data⟩

/-- How an operation ends with the answer to its second ATACB. -/
def concludedRead (operation : SmartOperation) (data : Bytes) (reply : Scsi.Answer) :
    SmartOperation.Answer :=
  match judged reply with
  | .error failure => ⟨.error failure, data⟩
  | .ok () => readOut operation reply.completion.data data

section ConcludedRead

variable {operation : SmartOperation} {data : Bytes} {reply : Scsi.Answer} {failure : Failure}

theorem concludedRead_of_failed (hFailed : judged reply = .error failure) :
    concludedRead operation data reply = ⟨.error failure, data⟩ := by
  rw [concludedRead, hFailed]

theorem concludedRead_of_done (hDone : judged reply = .ok ()) :
    concludedRead operation data reply = readOut operation reply.completion.data data := by
  rw [concludedRead, hDone]

end ConcludedRead

variable {query : SmartOperation.Query}

theorem ensures_readBack (file : TaskFile) (data : Bytes) :
    (readBack signature timeout label query file data).Ensures fun exchanges answer =>
      ∃ reply, exchanges = [⟨⟨file.reader signature timeout, none⟩, reply⟩] ∧
        answer = concludedRead query.operation data reply := by
  refine ensures_exchange_bind fun reply => ?_
  dsimp only
  cases hJudged : judged reply with
  | error failure => exact ⟨reply, rfl, (concludedRead_of_failed hJudged).symm⟩
  | ok _ =>
      refine Dialogue.ensures_log_bind_iff.mpr ?_
      cases query.operation with
      | statusCheck =>
          dsimp only
          split
          · next hHealth =>
              exact ⟨reply, rfl, by rw [concludedRead_of_done hJudged, readOut, hHealth]⟩
          · next hHealth =>
              exact ⟨reply, rfl, by rw [concludedRead_of_done hJudged, readOut, hHealth]⟩
      | _ =>
          refine ⟨reply, rfl, ?_⟩
          rw [concludedRead_of_done hJudged]
          rfl

/-- The course of an operation. It is turned down without the sector that it is to move, and
otherwise begins with its carrier; the registers are read back after one that succeeded. -/
inductive Course (signature : UInt8) (timeout : UInt32) (query : SmartOperation.Query) :
    List Scsi.Exchange → SmartOperation.Answer → Prop where
  | short (failure : Failure)
      (hMoves : (taskFile query.operation query.select).direction ≠ .none)
      (hShort : query.data.length < sectorSize) :
      Course signature timeout query [] ⟨.error failure, query.data⟩
  | failed (reply : Scsi.Answer) (failure : Failure)
      (hRoom : (taskFile query.operation query.select).direction ≠ .none →
        sectorSize ≤ query.data.length)
      (hFailed : judged reply = .error failure) :
      Course signature timeout query
        [⟨⟨(taskFile query.operation query.select).carrier signature timeout query.data, none⟩,
          reply⟩]
        ⟨.error failure, Bytes.overlay reply.completion.data query.data⟩
  | carried (reply : Scsi.Answer)
      (hRoom : (taskFile query.operation query.select).direction ≠ .none →
        sectorSize ≤ query.data.length)
      (hDone : judged reply = .ok ())
      (hUnread : (taskFile query.operation query.select).readBack = false) :
      Course signature timeout query
        [⟨⟨(taskFile query.operation query.select).carrier signature timeout query.data, none⟩,
          reply⟩]
        ⟨.ok .passed, Bytes.overlay reply.completion.data query.data⟩
  | read (reply second : Scsi.Answer)
      (hRoom : (taskFile query.operation query.select).direction ≠ .none →
        sectorSize ≤ query.data.length)
      (hDone : judged reply = .ok ())
      (hReads : (taskFile query.operation query.select).readBack = true) :
      Course signature timeout query
        [⟨⟨(taskFile query.operation query.select).carrier signature timeout query.data, none⟩,
          reply⟩,
          ⟨⟨(taskFile query.operation query.select).reader signature timeout, none⟩, second⟩]
        (concludedRead query.operation (Bytes.overlay reply.completion.data query.data) second)

theorem ensures_operate :
    (operate signature timeout label query).Ensures (Course signature timeout query) := by
  unfold operate
  dsimp only
  split
  · next hShort => exact .short _ hShort.1 hShort.2
  · next hRoom =>
      simp only [not_and, Nat.not_lt] at hRoom
      simp only [TaskFile.sector_eq hRoom, Dialogue.demand_some, Dialogue.bind_eq,
        Dialogue.done_bind]
      refine ensures_exchange_bind fun reply => ?_
      cases hJudged : judged reply with
      | error failure => exact .failed reply failure hRoom hJudged
      | ok _ =>
          dsimp only
          split
          · next hReads =>
              refine (ensures_readBack _ _).mono fun later outcome hRead => ?_
              obtain ⟨second, rfl, rfl⟩ := hRead
              exact .read reply second hRoom hJudged hReads
          · next hUnread => exact .carried reply hRoom hJudged (eq_false_of_ne_true hUnread)

/-- What an operation leaves of the data it was given: the data that came back with its first ATACB
is laid over it. -/
def received (exchanges : List Scsi.Exchange) (data : Bytes) : Bytes :=
  match exchanges with
  | [] => data
  | first :: _ => Bytes.overlay first.answer.completion.data data

/-- How an operation may end, given the conversation that it led to. The power mode is written over
the data besides. -/
structure Operated (signature : UInt8) (timeout : UInt32) (query : SmartOperation.Query)
    (exchanges : List Scsi.Exchange) (answer : SmartOperation.Answer) : Prop where
  commands : exchanges.map Scsi.Exchange.command <+: (plan signature timeout query).commands
  unlabelled : ∀ exchange ∈ exchanges, exchange.query.label = none
  room : exchanges ≠ [] → (taskFile query.operation query.select).direction ≠ .none →
    sectorSize ≤ query.data.length
  data : query.operation ≠ .checkPowerMode → answer.data = received exchanges query.data
  traced : ∀ failure, answer.result = .error failure → Scsi.Traced exchanges failure

theorem traced_of_judged {asked : Scsi.Query} {reply : Scsi.Answer} {failure : Failure}
    (hFailed : judged reply = .error failure) : Scsi.Traced [⟨asked, reply⟩] failure := by
  rcases judged_error hFailed with hCause | hResult
  · exact .of_transfer hCause
  · exact .of_result hResult

theorem data_concludedRead {operation : SmartOperation} (hPower : operation ≠ .checkPowerMode)
    (data : Bytes) (reply : Scsi.Answer) : (concludedRead operation data reply).data = data := by
  cases hJudged : judged reply with
  | error failure => rw [concludedRead_of_failed hJudged]
  | ok _ =>
      rw [concludedRead_of_done hJudged]
      cases operation with
      | checkPowerMode => exact (hPower rfl).elim
      | statusCheck =>
          rw [readOut]
          split
          · rfl
          · rfl
      | _ => rfl

theorem traced_concludedRead {operation : SmartOperation} {data : Bytes} {reply : Scsi.Answer}
    {asked : Scsi.Query} {failure : Failure}
    (hFailed : (concludedRead operation data reply).result = .error failure) :
    Scsi.Traced [⟨asked, reply⟩] failure := by
  cases hJudged : judged reply with
  | error other =>
      rw [concludedRead_of_failed hJudged] at hFailed
      cases hFailed
      exact traced_of_judged hJudged
  | ok _ =>
      rw [concludedRead_of_done hJudged] at hFailed
      cases operation with
      | statusCheck =>
          rw [readOut] at hFailed
          split at hFailed
          · cases hFailed
          · cases hFailed
            exact .of_transfer rfl
      | _ => cases hFailed

/-- Registers that were not read back are no success. -/
theorem judged_of_concludedRead {operation : SmartOperation} {data : Bytes} {reply : Scsi.Answer}
    {health : Health} (hOk : (concludedRead operation data reply).result = .ok health) :
    judged reply = .ok () := by
  cases hJudged : judged reply with
  | error failure =>
      rw [concludedRead_of_failed hJudged] at hOk
      cases hOk
  | ok _ => rfl

/-- What an operation sends is the start of its plan, and what comes of it follows. -/
theorem Course.operated {exchanges : List Scsi.Exchange} {answer : SmartOperation.Answer}
    (course : Course signature timeout query exchanges answer) :
    Operated signature timeout query exchanges answer := by
  have hCarrier : [(taskFile query.operation query.select).carrier signature timeout
      query.data] <+: (plan signature timeout query).commands :=
    List.prefix_append [_] _
  cases course with
  | short failure hMoves hShort =>
      exact ⟨List.nil_prefix, List.forall_mem_nil _, nofun, fun _ => rfl, fun _ _ => .unsent⟩
  | failed reply failure hRoom hFailed =>
      refine ⟨hCarrier, by simp, fun _ => hRoom, fun _ => rfl, ?_⟩
      rintro _ ⟨⟩
      exact traced_of_judged hFailed
  | carried reply hRoom hDone hUnread =>
      exact ⟨hCarrier, by simp, fun _ => hRoom, fun _ => rfl, nofun⟩
  | read reply second hRoom hDone hReads =>
      refine ⟨?_, by simp, fun _ => hRoom, fun hPower => data_concludedRead hPower _ _,
        fun failure hFailed => ?_⟩
      · rw [plan, if_pos hReads]
        exact List.prefix_refl _
      · exact (traced_concludedRead hFailed).cons (List.cons_ne_nil _ _)

/-- A request is turned down with nothing sent, or concluded from the operation it stands for. -/
inductive Performed (signature : UInt8) (timeout : UInt32) (request : Request)
    (registers : RegisterFile OutputRegister) (exchanges : List Scsi.Exchange) :
    Answer → Prop where
  | refused (failure : Failure) (unsent : exchanges = []) :
      Performed signature timeout request registers exchanges (request.refused registers failure)
  | operated (operation : SmartOperation) (select : UInt8) (outcome : SmartOperation.Answer)
      (checked : request.check SmartOperation.support none = .ok ())
      (mapped : SmartOperation.ofRequest request = .ok (operation, select))
      (course : Course signature timeout
        ⟨operation, select, SmartOperation.sector operation request⟩ exchanges outcome) :
      Performed signature timeout request registers exchanges
        (SmartOperation.concluded operation request outcome registers)

theorem ensures_perform (request : Request) (registers : RegisterFile OutputRegister) :
    (perform signature timeout label request registers).Ensures
      (Performed signature timeout request registers) := by
  cases hChecked : request.check SmartOperation.support none with
  | error failure =>
      change ((Translator.cypress signature timeout label).perform request registers).Ensures _
      rw [Translator.perform_refused hChecked]
      exact .refused failure rfl
  | ok _ =>
      cases hMapped : SmartOperation.ofRequest request with
      | error unmapped =>
          rw [perform_unmapped hChecked hMapped]
          exact .refused _ rfl
      | ok found =>
          rw [perform_eq hChecked hMapped]
          refine Dialogue.ensures_bind_done_iff.mpr (ensures_operate.mono ?_)
          intro exchanges outcome hCourse
          exact .operated found.1 found.2 outcome hChecked hMapped hCourse

end DriveBridge.Ata.Cypress
