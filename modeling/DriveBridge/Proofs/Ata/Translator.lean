import DriveBridge.Chain.AtaDevice
import DriveBridge.Proofs.Ata.Phases

/-! The translators under one name, and the requests that each of them accepts, which are those
for which it sends something at all. The layers of a chain are such translators with a profile. -/
namespace DriveBridge.Ata

inductive Translator where
  | sat (length : Sat.Length) (timeout : UInt32)
  | cypress (signature : UInt8) (timeout : UInt32) (label : String)
  | jmicron (setup : JMicron.Setup)
  | prolific
  | sunplus

namespace Translator

def perform (translator : Translator) (request : Request)
    (registers : RegisterFile OutputRegister) : Scsi.Session Answer :=
  match translator with
  | sat length timeout => Sat.perform length timeout request registers
  | cypress signature timeout label => Cypress.perform signature timeout label request registers
  | jmicron setup => JMicron.perform setup request registers
  | prolific => Prolific.perform request registers
  | sunplus => Sunplus.perform request registers

def support : Translator → Support
  | sat _ _ => Sat.support
  | cypress _ _ _ => SmartOperation.support
  | jmicron setup => JMicron.support setup.extended
  | prolific => Prolific.support
  | sunplus => Sunplus.support

def tag : Translator → Option String
  | sat _ _ => some "SAT"
  | cypress _ _ _ => none
  | jmicron _ => some "JMicron"
  | prolific => some "Prolific"
  | sunplus => some "Sunplus"

/-- What a translator looks at besides the check: the room in its CDB, whether it knows an
operation for the request and has a sector for it, and whether it knows the port. -/
def Fits : Translator → Request → Prop
  | sat length _, request => request.registers.isExtended = true → length = .long
  | cypress _ _ _, request =>
      ∃ operation select, SmartOperation.ofRequest request = .ok (operation, select) ∧
        ((Cypress.taskFile operation select).direction ≠ .none → sectorSize ≤ request.size)
  | jmicron setup, _ => setup.port.isSome = true
  | prolific, _ | sunplus, _ => True

structure Accepts (translator : Translator) (request : Request) : Prop where
  checked : request.check translator.support translator.tag = .ok ()
  fits : translator.Fits request

end Translator

variable {request : Request} {registers : RegisterFile OutputRegister} {answer : Answer}
  {exchanges : List Scsi.Exchange}

namespace Cypress

variable {signature : UInt8} {timeout : UInt32} {label : String}

/-- An operation is turned down only where it moves a sector that it was not given. -/
theorem operate_sends_iff {query : SmartOperation.Query} {outcome : SmartOperation.Answer}
    (path : Dialogue.Path (operate signature timeout label query) exchanges outcome) :
    exchanges ≠ [] ↔ ((taskFile query.operation query.select).direction ≠ .none →
      sectorSize ≤ query.data.length) := by
  simp only [operate] at path
  split at path
  next hShort =>
    rw [(Dialogue.path_done_iff.mp path).1]
    exact ⟨fun h => (h rfl).elim, fun h => (Nat.not_le.mpr hShort.2 (h hShort.1)).elim⟩
  next hShort =>
    simp only [not_and, Nat.not_lt] at hShort
    rw [TaskFile.sector_eq hShort] at path
    obtain ⟨_, _, rfl, -⟩ := Dialogue.path_ask_iff.mp path
    exact ⟨fun _ => hShort, fun _ => List.cons_ne_nil _ _⟩

theorem length_sector {operation : SmartOperation} {select : UInt8} {count : Nat}
    (hConsistent : request.Consistent count)
    (hData : (taskFile operation select).direction ≠ .none) :
    (SmartOperation.sector operation request).length = request.size := by
  have hPower : operation ≠ .checkPowerMode := by
    rintro rfl
    exact hData rfl
  rw [SmartOperation.sector, if_neg hPower]
  exact List.length_take_of_le hConsistent.size_le

/-- A request is carried out as the operation that it stands for. -/
theorem perform_eq {operation : SmartOperation} {select : UInt8}
    (hChecked : request.check SmartOperation.support none = .ok ())
    (hMapped : SmartOperation.ofRequest request = .ok (operation, select)) :
    perform signature timeout label request registers =
      (operate signature timeout label
        ⟨operation, select, SmartOperation.sector operation request⟩).bind fun outcome =>
          .done (SmartOperation.concluded operation request outcome registers) := by
  rw [perform, SmartOperation.perform_eq hChecked hMapped]
  simp only [Dialogue.query, Dialogue.ask_bind, Dialogue.through_ask, Dialogue.bind_assoc,
    Dialogue.done_bind, Dialogue.through_done]

theorem perform_unmapped {unmapped : Unmapped}
    (hChecked : request.check SmartOperation.support none = .ok ())
    (hMapped : SmartOperation.ofRequest request = .error unmapped) :
    perform signature timeout label request registers =
      .done (request.refused registers ⟨.unsupported, unmapped.message⟩) := by
  rw [perform, SmartOperation.perform, hChecked, hMapped]
  rfl

theorem sends_iff_fits (hChecked : request.check SmartOperation.support none = .ok ())
    (path : Dialogue.Path (perform signature timeout label request registers) exchanges answer) :
    exchanges ≠ [] ↔ (Translator.cypress signature timeout label).Fits request := by
  have hConsistent := ((request.check_eq_ok_iff _ _).mp hChecked).1
  cases hMapped : SmartOperation.ofRequest request with
  | error unmapped =>
      rw [perform_unmapped hChecked hMapped] at path
      rw [(Dialogue.path_done_iff.mp path).1]
      constructor
      · exact fun h => (h rfl).elim
      · intro hFits
        obtain ⟨_, _, hKnown, -⟩ := hFits
        cases hMapped.symm.trans hKnown
  | ok found =>
      obtain ⟨operation, select⟩ := found
      rw [perform_eq hChecked hMapped] at path
      obtain ⟨sent, outcome, rest, rfl, hOperated, hDone⟩ := Dialogue.path_bind_iff.mp path
      rw [(Dialogue.path_done_iff.mp hDone).1, List.append_nil, operate_sends_iff hOperated]
      constructor
      · intro hRoom
        refine ⟨operation, select, hMapped, fun hData => ?_⟩
        rw [← length_sector hConsistent hData]
        exact hRoom hData
      · intro hFits hData
        obtain ⟨_, _, hKnown, hRoom⟩ := hFits
        cases hMapped.symm.trans hKnown
        rw [length_sector hConsistent hData]
        exact hRoom hData

end Cypress

namespace Translator

variable {translator : Translator}

/-- A request that fails its check is refused without a word to the device below. -/
theorem perform_refused {failure : Failure}
    (hRefused : request.check translator.support translator.tag = .error failure) :
    translator.perform request registers = .done (request.refused registers failure) := by
  cases translator with
  | sat length timeout =>
      change Sat.perform length timeout request registers = _
      rw [Sat.perform, show request.check Sat.support (some "SAT") = _ from hRefused]
      rfl
  | cypress signature timeout label =>
      change Cypress.perform signature timeout label request registers = _
      rw [Cypress.perform, SmartOperation.perform,
        show request.check SmartOperation.support none = _ from hRefused]
      rfl
  | jmicron setup =>
      change JMicron.perform setup request registers = _
      rw [JMicron.perform,
        show request.check (JMicron.support setup.extended) (some "JMicron") = _ from hRefused]
      rfl
  | prolific =>
      change Prolific.perform request registers = _
      rw [Prolific.perform, show request.check Prolific.support (some "Prolific") = _ from hRefused]
      rfl
  | sunplus =>
      change Sunplus.perform request registers = _
      rw [Sunplus.perform, show request.check Sunplus.support (some "Sunplus") = _ from hRefused]
      rfl

theorem sends_iff_fits (hChecked : request.check translator.support translator.tag = .ok ())
    (path : Dialogue.Path (translator.perform request registers) exchanges answer) :
    exchanges ≠ [] ↔ translator.Fits request := by
  cases translator with
  | cypress signature timeout label => exact Cypress.sends_iff_fits hChecked path
  | sat length timeout =>
      constructor
      · intro hSent hExtended
        cases length with
        | long => rfl
        | short =>
            change Dialogue.Path (Sat.perform .short timeout request registers) _ _ at path
            rw [Sat.perform_short hChecked hExtended] at path
            exact (hSent (Dialogue.path_done_iff.mp path).1).elim
      · intro hFits
        exact (Sat.follows_plan hChecked hFits path).ne_nil (List.cons_ne_nil _ _)
  | jmicron setup =>
      cases hPort : setup.port with
      | none =>
          change Dialogue.Path (JMicron.perform setup request registers) _ _ at path
          rw [JMicron.perform_unknownPort hPort hChecked] at path
          rw [(Dialogue.path_done_iff.mp path).1, Fits, hPort]
          exact ⟨fun h => (h rfl).elim, nofun⟩
      | some port =>
          have hSent := (JMicron.follows_plan hPort hChecked path).ne_nil (List.cons_ne_nil _ _)
          exact ⟨fun _ => by rw [Fits, hPort]; rfl, fun _ => hSent⟩
  | prolific =>
      have hSent := (Prolific.follows_plan hChecked path).ne_nil (Plan.commands_ne_nil _)
      exact ⟨fun _ => trivial, fun _ => hSent⟩
  | sunplus =>
      have hSent := (Sunplus.follows_plan hChecked path).ne_nil (Plan.commands_ne_nil _)
      exact ⟨fun _ => trivial, fun _ => hSent⟩

/-- A translator sends something exactly for the requests that it accepts. -/
theorem sends_iff_accepts
    (path : Dialogue.Path (translator.perform request registers) exchanges answer) :
    exchanges ≠ [] ↔ translator.Accepts request := by
  cases hChecked : request.check translator.support translator.tag with
  | error failure =>
      constructor
      · intro hSent
        rw [perform_refused hChecked] at path
        exact (hSent (Dialogue.path_done_iff.mp path).1).elim
      · intro hAccepts
        cases hChecked.symm.trans hAccepts.checked
  | ok _ =>
      rw [sends_iff_fits hChecked path]
      exact ⟨fun hFits => ⟨hChecked, hFits⟩, Accepts.fits⟩

end Translator

end DriveBridge.Ata

namespace DriveBridge.Chain

def SatLayer.translator (layer : SatLayer) : Ata.Translator :=
  .sat layer.length layer.profile.timeout

def BridgeLayer.translator (layer : BridgeLayer) : Ata.Translator :=
  match layer.encoding with
  | .cypress signature => .cypress signature layer.profile.timeout layer.profile.label
  | .jmicron setup => .jmicron setup
  | .prolific => .prolific
  | .sunplus => .sunplus

theorem BridgeLayer.perform_eq (layer : BridgeLayer) (query : Ata.Query) :
    layer.perform query = layer.translator.perform query.request query.registers := by
  unfold perform translator
  cases layer.encoding <;> rfl

end DriveBridge.Chain
