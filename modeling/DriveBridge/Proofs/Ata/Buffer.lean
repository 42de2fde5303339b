import DriveBridge.Proofs.Ata.Safety
import DriveBridge.Proofs.Ata.SatVerdict
import DriveBridge.Proofs.Ata.Translator

/-! The buffer of a request that a translator carries out by one command of its plan. The bytes to be
transferred go with that command and with no other; what comes back is laid over the buffer. -/
namespace DriveBridge.Ata

variable {request : Request} {registers : RegisterFile OutputRegister} {answer : Answer}

/-- The bytes that go with a request which reads none, written back, change nothing. -/
theorem Request.bufferAfter_carriage (hOutward : request.direction ≠ .dataIn) :
    request.bufferAfter request.carriage = request.buffer := by
  unfold carriage
  split
  · cases hBuffer : request.buffer <;> simp [bufferAfter, hBuffer]
  · next hIn => exact (hOutward hIn).elim
  · exact request.bufferAfter_take

/-- The command goes with what a request transfers, and in its direction. -/
structure Request.Carries (request : Request) (command : Scsi.Command) : Prop where
  consistent : request.Consistent request.sectorCount
  direction : command.direction = request.direction.toScsi
  data : command.data = request.carriage

/-- How a request moves its data, by a command that so many others come before. -/
inductive Moves (phase : Nat) (request : Request) (exchanges : List Scsi.Exchange)
    (answer : Answer) : Prop where
  /-- It fails before that command is sent. -/
  | unmoved (kept : answer.buffer = request.buffer) (failed : answer.result ≠ .ok ())
  | moved (before after : List Scsi.Exchange) (carrier : Scsi.Exchange)
      (split : exchanges = before ++ carrier :: after) (reached : before.length = phase)
      (carries : request.Carries carrier.command)
      (others : ∀ other ∈ before ++ after, other.command.payload = [])
      (delivered : answer.result = .ok () → carrier.result = .ok ())
      (laid : answer.result = .ok () ∨ request.direction ≠ .dataIn →
        answer.buffer = request.bufferAfter carrier.answer.completion.data)

section Moves

variable {phase : Nat} {later : List Scsi.Exchange} {carrier : Scsi.Exchange}

theorem Moves.refused (failure : Failure) :
    Moves phase request [] (request.refused registers failure) :=
  .unmoved rfl nofun

/-- The command that moves the data, and at most some that read something back after it. -/
theorem Moves.first (carries : request.Carries carrier.command)
    (others : ∀ other ∈ later, other.command.payload = [])
    (delivered : answer.result = .ok () → carrier.result = .ok ())
    (laid : answer.result = .ok () ∨ request.direction ≠ .dataIn →
      answer.buffer = request.bufferAfter carrier.answer.completion.data) :
    Moves 0 request (carrier :: later) answer :=
  .moved [] later carrier rfl rfl carries others delivered laid

/-- A command without data in front moves the rest back by one. -/
theorem Moves.next (moves : Moves phase request later answer) (hSilent : carrier.command.payload = []) :
    Moves (phase + 1) request (carrier :: later) answer := by
  cases moves with
  | unmoved kept failed => exact .unmoved kept failed
  | moved before after mover split reached carries others delivered laid =>
      refine .moved (carrier :: before) after mover ?_ ?_ carries ?_ delivered laid
      · rw [split, List.cons_append]
      · rw [List.length_cons, reached]
      · exact List.forall_mem_cons.mpr ⟨hSilent, others⟩

end Moves

/-- How a request goes on once its data is moved: whatever else is read back, the buffer stays as the
carrier left it. -/
structure Concludes (request : Request) (carried : Scsi.Answer) (later : List Scsi.Exchange)
    (answer : Answer) : Prop where
  others : ∀ other ∈ later, other.command.payload = []
  delivered : answer.result = .ok () → carried.result = .ok ()
  laid : answer.buffer = request.bufferAfter carried.completion.data

/-- A checked command that goes with the data of a request moves it. -/
theorem ensures_moves_bind {label : String} {command : Scsi.Command}
    {next : Scsi.Answer → Scsi.Session Answer} (carries : request.Carries command)
    (hNext : ∀ carried, (next carried).Ensures (Concludes request carried)) :
    ((Scsi.sendChecked label command).bind next).Ensures (Moves 0 request) := by
  refine Scsi.ensures_sendChecked_bind fun carried => ?_
  refine (hNext carried).mono fun later answer concludes => ?_
  exact Moves.first carries concludes.others concludes.delivered fun _ => concludes.laid

/-- A command that reads something back for the translator itself takes nothing along. -/
theorem ensures_concludes_bind {label : String} {command : Scsi.Command} {carried : Scsi.Answer}
    {next : Scsi.Answer → Scsi.Session Answer} (hSilent : command.payload = [])
    (hNext : ∀ read, (next read).Ensures (Concludes request carried)) :
    ((Scsi.sendChecked label command).bind next).Ensures (Concludes request carried) := by
  refine Scsi.ensures_sendChecked_bind fun read => ?_
  refine (hNext read).mono fun later answer concludes => ?_
  exact ⟨List.forall_mem_cons.mpr ⟨hSilent, concludes.others⟩, concludes.delivered, concludes.laid⟩

namespace Sat

variable {length : Length} {timeout : UInt32}

theorem discard_of_ok {completion : Scsi.Completion}
    (hOk : (rule request completion registers).result = .ok ()) :
    (rule request completion registers).discard = false := by
  cases hHeader : Sense.header? completion.senseData with
  | none => simp [rule, hHeader]
  | some header =>
      rcases rule_cases request registers hHeader with ⟨-, _, hRule⟩ | ⟨-, _, hRule⟩
      · rw [hRule] at hOk
        cases hOk
      · rw [hRule]
        exact reading_discard _ _ _ _

/-- Data is cleared only where it was to be read, and only in a failure. -/
theorem buffer_concluded {completion : Scsi.Completion}
    (hKept : (concluded request completion registers).result = .ok () ∨
      request.direction ≠ .dataIn) :
    (concluded request completion registers).buffer = request.bufferAfter completion.data := by
  dsimp only [concluded] at hKept ⊢
  split
  · next hDiscard =>
      have hOutward : request.direction ≠ .dataIn := hKept.resolve_left fun hOk => by
        rw [discard_of_ok hOk] at hDiscard
        cases hDiscard
      unfold Request.bufferCleared
      split
      · next hIn => exact (hOutward hIn).elim
      · rfl
      · rfl
  · rfl

theorem ensures_moves (hChecked : request.check support (some "SAT") = .ok ()) :
    (perform length timeout request registers).Ensures (Moves 0 request) := by
  have hConsistent := ((request.check_eq_ok_iff _ _).mp hChecked).1
  by_cases hFits : request.registers.isExtended = true → length = .long
  · refine (safe_perform request registers length timeout).ensures_path.mono ?_
    intro exchanges answer path
    obtain ⟨carried, rfl, rfl⟩ := (path_perform_iff hChecked hFits).mp path
    cases hCarried : carried.result with
    | error failure =>
        exact Moves.first ⟨hConsistent, rfl, rfl⟩ (List.forall_mem_nil _) nofun fun _ => rfl
    | ok _ =>
        exact Moves.first ⟨hConsistent, rfl, rfl⟩ (List.forall_mem_nil _) (fun _ => hCarried)
          buffer_concluded
  · obtain ⟨hExtended, hShort⟩ := Classical.not_imp.mp hFits
    cases length with
    | long => exact (hShort rfl).elim
    | short =>
        rw [perform_short hChecked hExtended]
        exact .refused _

end Sat

namespace JMicron

theorem ensures_moves {setup : Setup}
    (hChecked : request.check (support setup.extended) (some "JMicron") = .ok ())
    (hData : asksHealth request = false) :
    (perform setup request registers).Ensures (Moves 0 request) := by
  cases hPort : setup.port with
  | none =>
      rw [perform_unknownPort hPort hChecked]
      exact .refused _
  | some port =>
      rw [perform_eq hPort hChecked]
      have hCarries : request.Carries (command setup port request) := by
        refine ⟨((request.check_eq_ok_iff _ _).mp hChecked).1, ?_, ?_⟩ <;> simp [command, hData]
      refine ensures_moves_bind hCarries fun carried => ?_
      unfold concluded
      simp only [hData, Bool.false_eq_true, if_false]
      cases hCarried : carried.result with
      | error failure => exact ⟨List.forall_mem_nil _, nofun, rfl⟩
      | ok _ => exact ⟨List.forall_mem_nil _, fun _ => hCarried, rfl⟩

end JMicron

namespace Prolific

theorem ensures_moves (hChecked : request.check support (some "Prolific") = .ok ()) :
    (perform request registers).Ensures (Moves 0 request) := by
  have hConsistent := ((request.check_eq_ok_iff _ _).mp hChecked).1
  unfold perform
  rw [hChecked]
  simp only [hConsistent.transfer_eq, Dialogue.bind_eq, Dialogue.done_bind]
  refine ensures_moves_bind ⟨hConsistent, rfl, rfl⟩ fun carried => ?_
  cases hCarried : carried.result with
  | error failure => exact ⟨List.forall_mem_nil _, nofun, rfl⟩
  | ok _ =>
      dsimp only
      split
      · refine ensures_concludes_bind rfl fun read => ?_
        cases read.result with
        | error failure => exact ⟨List.forall_mem_nil _, nofun, rfl⟩
        | ok _ => exact ⟨List.forall_mem_nil _, fun _ => hCarried, rfl⟩
      · exact ⟨List.forall_mem_nil _, fun _ => hCarried, rfl⟩

end Prolific

namespace Sunplus

theorem ensures_concludes (carried : Scsi.Answer) (hCarried : carried.result = .ok ()) :
    (readBack request registers (request.bufferAfter carried.completion.data)).Ensures
      (Concludes request carried) := by
  unfold readBack
  split
  · refine ensures_concludes_bind rfl fun read => ?_
    cases read.result with
    | error failure => exact ⟨List.forall_mem_nil _, nofun, rfl⟩
    | ok _ => exact ⟨List.forall_mem_nil _, fun _ => hCarried, rfl⟩
  · exact ⟨List.forall_mem_nil _, fun _ => hCarried, rfl⟩

theorem ensures_moves_execute (hConsistent : request.Consistent request.sectorCount) :
    (execute request registers).Ensures (Moves 0 request) := by
  unfold execute
  simp only [hConsistent.transfer_eq, Dialogue.bind_eq, Dialogue.done_bind]
  refine ensures_moves_bind ⟨hConsistent, rfl, rfl⟩ fun carried => ?_
  cases hCarried : carried.result with
  | error failure => exact ⟨List.forall_mem_nil _, nofun, rfl⟩
  | ok _ => exact ensures_concludes carried hCarried

theorem ensures_moves (hChecked : request.check support (some "Sunplus") = .ok ()) :
    (perform request registers).Ensures
      (Moves (if request.registers.isExtended then 1 else 0) request) := by
  have hConsistent := ((request.check_eq_ok_iff _ _).mp hChecked).1
  unfold perform
  rw [hChecked]
  dsimp only
  split
  · refine Scsi.ensures_sendChecked_bind fun preset => ?_
    cases preset.result with
    | error failure => exact .unmoved rfl nofun
    | ok _ => exact (ensures_moves_execute hConsistent).mono fun _ _ moves => moves.next rfl
  · exact ensures_moves_execute hConsistent

end Sunplus

namespace Translator

/-- The translator carries the data of the request. Some have only operations of their own, and a
request for the health takes its byte elsewhere. -/
def CarriesData : Translator → Request → Prop
  | cypress _ _ _, _ => False
  | jmicron _, request => JMicron.asksHealth request = false
  | sat _ _, _ | prolific, _ | sunplus, _ => True

/-- Commands that come before the one that moves the data. -/
def dataPhase : Translator → Request → Nat
  | sunplus, request => if request.registers.isExtended then 1 else 0
  | _, _ => 0

theorem ensures_moves {translator : Translator} (hCarries : translator.CarriesData request) :
    (translator.perform request registers).Ensures (Moves (translator.dataPhase request) request) := by
  cases hChecked : request.check translator.support translator.tag with
  | error failure =>
      rw [perform_refused hChecked]
      exact .refused failure
  | ok _ =>
      cases translator with
      | cypress signature timeout label => exact hCarries.elim
      | sat length timeout => exact Sat.ensures_moves hChecked
      | jmicron setup => exact JMicron.ensures_moves hChecked hCarries
      | prolific => exact Prolific.ensures_moves hChecked
      | sunplus => exact Sunplus.ensures_moves hChecked

end Translator

end DriveBridge.Ata
