import DriveBridge.Factory.Workshop
import DriveBridge.Proofs.Factory.Language
import Mathlib.Data.List.TakeWhile

/-! The types that a host without types of its own accepts: the head of a type, up to the first plus
sign, is in the language of one kind of translators, and the rest names a device to put it on. The
kind of a chain can be told by the way its type begins. -/
namespace DriveBridge.Factory

open Text Chain
open Workshop (isAtaChain)

/-- The device below is the host's SCSI device, named or not. -/
def ScsiBase (base : List Char) : Prop := base = [] ∨ base = "scsi".toList

/-- A translator from ATA to SCSI on top of the host's SCSI device. -/
structure OverScsi (protocol : Protocol) (type : List Char) : Prop where
  head : AtaType Spells protocol (splitBase type).1
  /-- SCSI itself is no translator that another device could be put below. -/
  translates : (splitBase type).1 ≠ "scsi".toList
  base : ScsiBase (splitBase type).2

/-- The device below is the host's ATA device, named or not, or a translator that shows ATA. -/
def AtaBase (base : List Char) : Prop := base = [] ∨ base = "ata".toList ∨ OverScsi .ata base

/-- The types of the library's own chains, with the protocol that the device shows. -/
inductive Accepted : Protocol → List Char → Prop where
  | ata {protocol : Protocol} {type : List Char} (hType : OverScsi protocol type) :
      Accepted protocol type
  | nvme {type : List Char} (hHead : NvmeType Spells (splitBase type).1)
      (hBase : ScsiBase (splitBase type).2) : Accepted .nvme type
  | routed {type : List Char} (hHead : RoutedType Spells (splitBase type).1)
      (hBase : AtaBase (splitBase type).2) : Accepted .ata type

section Split

variable {type : List Char} {protocol : Protocol}

theorem sign_not_mem_head (type : List Char) : '+' ∉ (splitBase type).1 := by
  intro hMem
  have hNot := List.mem_takeWhile_imp hMem
  simp at hNot

/-- What comes after the head of a type begins with a plus sign. -/
theorem exists_tail (type : List Char) :
    ∃ tail, type = (splitBase type).1 ++ tail ∧ ∀ c ∈ tail.head?, c = '+' := by
  refine ⟨type.dropWhile (· ≠ '+'), List.takeWhile_append_dropWhile.symm, ?_⟩
  intro c hHead
  have hNot := List.head?_dropWhile_not (· ≠ '+') type
  rw [hHead] at hNot
  simpa using hNot

theorem startsWith_iff {start text : List Char} :
    startsWith start text = true ↔ start <+: text := by
  rw [startsWith, Option.isSome_iff_exists]
  exact exists_congr fun rest => after?_eq_some_iff.trans eq_comm

theorem isAtaChain_of_overScsi (hType : OverScsi protocol type) : isAtaChain type = true := by
  obtain ⟨tail, hSplit, hTail⟩ := exists_tail type
  obtain ⟨hHead, hTranslates, -⟩ := hType
  generalize (splitBase type).1 = head at hSplit hHead hTranslates
  subst hSplit
  cases hHead with
  | sat hLength =>
      cases hLength with
      | absent =>
          cases tail with
          | nil => rfl
          | cons c rest =>
              rw [hTail c rfl]
              rfl
      | present _ _ => rfl
  | probed _ => rfl
  | cypress _ => rfl
  | jmicron _ _ _ => rfl
  | prolific => rfl
  | sunplus => rfl
  | scsi => exact (hTranslates rfl).elim

/-- The head of such a type is not the one that reads as SCSI behind a translator. -/
theorem head_ne_scsi (hType : isAtaChain type = true) : (splitBase type).1 ≠ "scsi".toList := by
  intro hHead
  obtain ⟨tail, hSplit, -⟩ := exists_tail type
  rw [hSplit, hHead] at hType
  cases hType

theorem head_prefix {start : List Char} (hStart : start <+: (splitBase type).1) : start <+: type :=
  hStart.trans (List.takeWhile_prefix _)

/-- The type names a translator, whatever the rest of it is. -/
def NamesTranslator (type : List Char) : Prop :=
  "usb".toList <+: type ∨ "snt".toList <+: type ∨ "intelliprop".toList <+: type ∨
    type = "sat".toList ∨ "sat,".toList <+: type ∨ "sat+".toList <+: type

theorem NvmeType.snt_prefix {Numeral : Numerals} {head : List Char}
    (hHead : NvmeType Numeral head) : "snt".toList <+: head := by
  cases hHead with
  | asmedia _ => exact ⟨_, rfl⟩
  | realtek _ => exact ⟨_, rfl⟩
  | jmicron _ _ => exact ⟨_, rfl⟩

theorem RoutedType.intelliprop_prefix {Numeral : Numerals} {head : List Char}
    (hHead : RoutedType Numeral head) : "intelliprop".toList <+: head := by
  cases hHead with
  | drive _ _ => exact ⟨_, rfl⟩

/-- No such type is one of those that the host is asked for as they are. -/
theorem NamesTranslator.not_plain (hType : NamesTranslator type) :
    type ≠ "ata".toList ∧ type ≠ "scsi".toList ∧ type ≠ "nvme".toList ∧
      startsWith "nvme,".toList type = false := by
  rcases hType with ⟨_, rfl⟩ | ⟨_, rfl⟩ | ⟨_, rfl⟩ | rfl | ⟨_, rfl⟩ | ⟨_, rfl⟩ <;>
    exact ⟨nofun, nofun, nofun, rfl⟩

theorem NamesTranslator.kind (hType : NamesTranslator type) :
    isAtaChain type = true ∨ startsWith "snt".toList type = true ∨
      startsWith "intelliprop".toList type = true := by
  rcases hType with ⟨_, rfl⟩ | ⟨_, rfl⟩ | ⟨_, rfl⟩ | rfl | ⟨_, rfl⟩ | ⟨_, rfl⟩
  · exact .inl rfl
  · exact .inr (.inl rfl)
  · exact .inr (.inr rfl)
  · exact .inl rfl
  · exact .inl rfl
  · exact .inl rfl

theorem accepted_iff_of_isAtaChain (hChain : isAtaChain type = true) :
    Accepted protocol type ↔ OverScsi protocol type := by
  constructor
  · intro hAccepted
    cases hAccepted with
    | ata hType => exact hType
    | nvme hHead _ =>
        obtain ⟨_, rfl⟩ := head_prefix hHead.snt_prefix
        cases hChain
    | routed hHead _ =>
        obtain ⟨_, rfl⟩ := head_prefix hHead.intelliprop_prefix
        cases hChain
  · exact .ata

theorem accepted_iff_of_snt (hSnt : "snt".toList <+: type) :
    Accepted protocol type ↔
      protocol = .nvme ∧ NvmeType Spells (splitBase type).1 ∧ ScsiBase (splitBase type).2 := by
  obtain ⟨rest, hRest⟩ := hSnt
  constructor
  · intro hAccepted
    cases hAccepted with
    | ata hType =>
        have hChain := isAtaChain_of_overScsi hType
        rw [← hRest] at hChain
        cases hChain
    | nvme hHead hBase => exact ⟨rfl, hHead, hBase⟩
    | routed hHead _ =>
        obtain ⟨_, hOther⟩ := head_prefix hHead.intelliprop_prefix
        cases hRest.trans hOther.symm
  · rintro ⟨rfl, hHead, hBase⟩
    exact .nvme hHead hBase

theorem accepted_iff_of_intelliprop (hRouted : "intelliprop".toList <+: type) :
    Accepted protocol type ↔
      protocol = .ata ∧ RoutedType Spells (splitBase type).1 ∧ AtaBase (splitBase type).2 := by
  obtain ⟨rest, hRest⟩ := hRouted
  constructor
  · intro hAccepted
    cases hAccepted with
    | ata hType =>
        have hChain := isAtaChain_of_overScsi hType
        rw [← hRest] at hChain
        cases hChain
    | nvme hHead _ =>
        obtain ⟨_, hOther⟩ := head_prefix hHead.snt_prefix
        cases hRest.trans hOther.symm
    | routed hHead hBase => exact ⟨rfl, hHead, hBase⟩
  · rintro ⟨rfl, hHead, hBase⟩
    exact .routed hHead hBase

end Split

end DriveBridge.Factory
