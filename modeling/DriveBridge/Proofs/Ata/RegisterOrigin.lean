import DriveBridge.Proofs.Ata.ReturnedRegisters

/-! Where the output registers of a SAT request come from. The device may have sent the byte of a
register in its sense data, or fixed format sense data may vouch by its flags for a previous byte
that is 0. The main statement says when every register that a success marks as set has one of these
origins, which takes an ATA Return descriptor that is all there. -/
namespace DriveBridge.Ata

/-- The two groups of a register file. -/
inductive Group where
  | current | previous
  deriving DecidableEq, Repr

def RegisterFile.read {ρ : Type} (file : RegisterFile ρ) : Group → ρ → Option UInt8
  | .current => file.current
  | .previous => file.previous

/-- The registers that a 48-bit command returns twice. -/
def OutputRegister.isWide : OutputRegister → Bool
  | sectorCount | lbaLow | lbaMid | lbaHigh => true
  | error | device | status => false

namespace Sat

/-- Where an ATA Return descriptor keeps a register. -/
def descriptorOffset? : Group → OutputRegister → Option Nat
  | .current, .error => some 3
  | .previous, .sectorCount => some 4
  | .current, .sectorCount => some 5
  | .previous, .lbaLow => some 6
  | .current, .lbaLow => some 7
  | .previous, .lbaMid => some 8
  | .current, .lbaMid => some 9
  | .previous, .lbaHigh => some 10
  | .current, .lbaHigh => some 11
  | .current, .device => some 12
  | .current, .status => some 13
  | .previous, .error | .previous, .device | .previous, .status => none

/-- Where fixed format sense data keeps a current register. -/
def fixedPosition : OutputRegister → Nat
  | .error => 3
  | .status => 4
  | .device => 5
  | .sectorCount => 6
  | .lbaLow => 9
  | .lbaMid => 10
  | .lbaHigh => 11

def IsFixed (sense : Bytes) : Prop :=
  ∃ header, Sense.header? sense = some header ∧ header.isDescriptor = false

/-- The device told the byte of a register. It sent it at its place, within what it declared and
what arrived, or it vouched for the 0 by the two flags for the upper bytes. -/
inductive Supplied (sense : Bytes) (extended : Bool) : Group → OutputRegister → UInt8 → Prop where
  | descriptor {group : Group} {register : OutputRegister} {number offset : Nat}
      (format : 0x72 ≤ sense.byte 0 ∧ sense.byte 0 ≤ 0x73)
      (first : Sense.IsFirst sense returnDescriptorType number)
      (place : descriptorOffset? group register = some offset)
      (declared : offset < (sense.byte (Sense.descriptorStart sense number + 1)).toNat + 2)
      (covered : Sense.Covers sense (Sense.descriptorStart sense number + offset)) :
      Supplied sense extended group register
        (sense.byte (Sense.descriptorStart sense number + offset))
  | fixed {register : OutputRegister} (format : IsFixed sense)
      (covered : Sense.Covers sense (fixedPosition register)) :
      Supplied sense extended .current register (sense.byte (fixedPosition register))
  | upperZero {register : OutputRegister} (format : IsFixed sense)
      (wide : extended = true ∧ register.isWide = true) (covered : Sense.Covers sense 8)
      (clear : sense.byte 8 &&& 0x60 = 0) :
      Supplied sense extended .previous register 0

section Descriptor

variable {sense found : Bytes} {extended : Bool} {group : Group} {register : OutputRegister}
  {offset : Nat}

theorem descriptorOffset?_bounds (hPlace : descriptorOffset? group register = some offset) :
    3 ≤ offset ∧ offset < 14 := by
  cases group <;> cases register <;> cases hPlace <;> decide

theorem read_registers (descriptor : ReturnDescriptor) :
    (descriptor.registers extended {}).read group register =
      if group = .current ∨ extended = true then
        (descriptorOffset? group register).map descriptor.raw.byte
      else none := by
  cases extended <;> cases group <;> cases register <;> rfl

theorem not_isFixed_of_descriptor?
    (hFound : Sense.descriptor? sense returnDescriptorType = some found) : ¬ IsFixed sense := by
  intro hFixed
  obtain ⟨header, hHeader, hOther⟩ := hFixed
  obtain ⟨_, hSome, hFormat⟩ := Sense.header?_of_descriptor? hFound
  cases hHeader.symm.trans hSome
  cases hOther.symm.trans hFormat

/-- A register whose place in the descriptor was cut off has no origin, whatever it reads as. -/
theorem supplied_iff_of_descriptor?
    (hFound : Sense.descriptor? sense returnDescriptorType = some found)
    (hPlace : descriptorOffset? group register = some offset) :
    Supplied sense extended group register (found.byte offset) ↔ offset < found.length := by
  obtain ⟨number, hFirst, hLocated⟩ := Sense.descriptor?_located hFound
  obtain ⟨hLength, hByte⟩ := hLocated offset (by have := descriptorOffset?_bounds hPlace; omega)
  constructor
  · generalize found.byte offset = byte
    intro hSupplied
    cases hSupplied with
    | descriptor _ first place declared covered =>
        cases first.unique hFirst
        cases place.symm.trans hPlace
        exact hLength.mpr ⟨declared, covered⟩
    | fixed format => exact (not_isFixed_of_descriptor? hFound format).elim
    | upperZero format => exact (not_isFixed_of_descriptor? hFound format).elim
  · intro hInside
    obtain ⟨hDeclared, hCovered⟩ := hLength.mp hInside
    rw [hByte hInside]
    exact .descriptor (Sense.format_of_descriptor? hFound) hFirst hPlace hDeclared hCovered

end Descriptor

section Fixed

variable {sense area : Bytes} {extended : Bool} {group : Group} {register : OutputRegister}
  {byte : UInt8}

theorem read_fixedRegisters (area : Bytes) :
    (fixedRegisters area extended {}).read group register =
      match group with
      | .current => some (area.byte (fixedPosition register))
      | .previous =>
          if (extended && area.byte 8 &&& 0x60 == 0) && register.isWide then some 0 else none := by
  simp only [fixedRegisters]
  generalize (extended && area.byte 8 &&& 0x60 == 0) = upperZero
  cases upperZero <;> cases group <;> cases register <;> rfl

/-- Fixed format sense data that carries the qualifier covers everything in front of it. -/
theorem covers_of_qualifier {header : Sense.Header} (hHeader : Sense.header? sense = some header)
    (hFixed : header.isDescriptor = false) (hQualifier : header.ascq = Sense.ascqAtaRegisters)
    {position : Nat} (hPosition : position ≤ 13) : Sense.Covers sense position := by
  have hKnown : 0x70 ≤ Sense.responseCode sense := Sense.header?_ne_none_iff.mp (by simp [hHeader])
  have hOther : ¬ 0x72 ≤ Sense.responseCode sense := by
    rw [Sense.responseCode, ← Sense.isDescriptor_iff hHeader, hFixed]
    exact Bool.false_ne_true
  cases hHeader.symm.trans (Sense.header?_fixed hKnown hOther)
  rw [Sense.covers_iff]
  refine Nat.lt_of_le_of_lt hPosition (Nat.not_le.mp fun hShort => ?_)
  cases (Bytes.byte_of_length_le hShort).symm.trans hQualifier

/-- What was returned stands at the start of the buffer. -/
theorem byte_raw_of_covers {completion : Scsi.Completion} {position : Nat}
    (hCovers : Sense.Covers completion.senseData position) :
    completion.sense.raw.byte position = completion.senseData.byte position := by
  have hReturned := hCovers.1
  simp only [Scsi.Completion.senseData, Scsi.SenseArea.returned, List.length_take] at hReturned ⊢
  simp only [Bytes.byte, List.getD_eq_getElem?_getD]
  rw [List.getElem?_take_of_lt (by omega)]

/-- Whatever is read from fixed format sense data that carries the qualifier has an origin. -/
theorem supplied_of_fixed {completion : Scsi.Completion} {header : Sense.Header}
    (hHeader : Sense.header? completion.senseData = some header)
    (hFixed : header.isDescriptor = false) (hQualifier : header.ascq = Sense.ascqAtaRegisters)
    (hRead : (fixedRegisters completion.sense.raw extended {}).read group register = some byte) :
    Supplied completion.senseData extended group register byte := by
  have hCovers : ∀ position ≤ 13, Sense.Covers completion.senseData position :=
    fun _ => covers_of_qualifier hHeader hFixed hQualifier
  rw [read_fixedRegisters] at hRead
  cases group with
  | current =>
      have hPosition := hCovers (fixedPosition register) (by cases register <;> decide)
      cases hRead
      rw [byte_raw_of_covers hPosition]
      exact .fixed ⟨header, hHeader, hFixed⟩ hPosition
  | previous =>
      have hFlags := hCovers 8 (by decide)
      simp only [byte_raw_of_covers hFlags] at hRead
      split at hRead
      next hZero =>
        simp only [Bool.and_eq_true, beq_iff_eq] at hZero
        cases hRead
        exact .upperZero ⟨header, hHeader, hFixed⟩ ⟨hZero.1.1, hZero.2⟩ hFlags hZero.1.2
      next => cases hRead

end Fixed

variable {request : Request} {length : Length} {timeout : UInt32} {answer : Answer}
  {exchanges : List Scsi.Exchange}

/-- A register that a success marks as set has its byte from the device unless its place in an ATA
Return descriptor was cut off. -/
theorem rule_supplied_iff {completion : Scsi.Completion} {group : Group}
    {register : OutputRegister} {byte : UInt8}
    (hOk : (rule request completion {}).result = .ok ())
    (hRead : (rule request completion {}).registers.read group register = some byte) :
    Supplied completion.senseData request.registers.isExtended group register byte ↔
      ∀ found offset, Sense.descriptor? completion.senseData returnDescriptorType = some found →
        descriptorOffset? group register = some offset → offset < found.length := by
  cases hHeader : Sense.header? completion.senseData with
  | none =>
      simp only [rule, hHeader] at hRead
      cases group <;> cases hRead
  | some header =>
      rw [rule_registers hHeader hOk] at hRead
      cases hFound : Sense.descriptor? completion.senseData returnDescriptorType with
      | none =>
          have hNone : descriptorFor? header completion.senseData = none := by
            simp [descriptorFor?, ReturnDescriptor.ofSense?, hFound]
          simp only [answered, hNone] at hRead
          refine iff_of_true ?_ fun found _ hSome _ => (Option.some_ne_none found hSome.symm).elim
          split at hRead
          next hFixed =>
            simp only [Bool.and_eq_true, Bool.not_eq_true', beq_iff_eq] at hFixed
            exact supplied_of_fixed hHeader hFixed.1.1.1 hFixed.1.2 hRead
          next => cases group <;> cases hRead
      | some found =>
          obtain ⟨_, hSome, hFormat⟩ := Sense.header?_of_descriptor? hFound
          cases hHeader.symm.trans hSome
          simp only [answered, descriptorFor?, hFormat, ReturnDescriptor.ofSense?, hFound, if_true,
            Option.map_some, read_registers] at hRead
          split at hRead
          next =>
            obtain ⟨offset, hPlace, hByte⟩ := Option.map_eq_some_iff.mp hRead
            rw [Bytes.byte_overlay_zeros (descriptorOffset?_bounds hPlace).2] at hByte
            rw [← hByte, supplied_iff_of_descriptor? hFound hPlace]
            simp only [hPlace, Option.some.injEq, forall_eq', forall_apply_eq_imp_iff]
          next => cases hRead

/-- Every register that a success marks as set has its byte from the device exactly if an ATA Return
descriptor in the sense data, where there is one, is all there: it declares its 14 bytes, and all of
them arrived. Fixed format sense data always has the bytes that are read from it. -/
theorem registers_supplied_iff
    (path : Dialogue.Path (perform length timeout request {}) exchanges answer)
    (hOk : answer.result = .ok ()) :
    (∀ group register byte, answer.registers.read group register = some byte →
        ∃ exchange ∈ exchanges, Supplied exchange.answer.completion.senseData
          request.registers.isExtended group register byte) ↔
      ∀ exchange ∈ exchanges, ∀ found,
        Sense.descriptor? exchange.answer.completion.senseData returnDescriptorType = some found →
          14 ≤ found.length := by
  obtain ⟨completion, rfl, rfl⟩ := exists_completion_of_ok path hOk
  simp only [List.mem_singleton, exists_eq_left, forall_eq]
  constructor
  · intro hSupplied found hFound
    -- The status comes last in the descriptor, and is always marked as set.
    have hStatus : ((rule request completion {}).registers.current .status).isSome = true :=
      (rule_registers_iff hOk).mpr (.inl ⟨found, hFound⟩)
    obtain ⟨byte, hByte⟩ := Option.isSome_iff_exists.mp hStatus
    have hRead : (rule request completion {}).registers.read .current .status = some byte := hByte
    have hInside := (rule_supplied_iff hOk hRead).mp (hSupplied .current .status byte hRead)
    exact hInside found 13 hFound rfl
  · intro hWhole group register byte hRead
    refine (rule_supplied_iff hOk hRead).mpr fun found offset hFound hPlace => ?_
    exact Nat.lt_of_lt_of_le (descriptorOffset?_bounds hPlace).2 (hWhole found hFound)

/-- A 48-bit command whose descriptor is whole. -/
theorem whole_descriptor_supplied :
    let request : Request := {
      registers := RegisterFile.empty.setWide .lbaLow 0
      wanted := fun register => register == .status }
    let found : Bytes := [0x09, 12, 1, 0, 1, 2, 3, 4, 5, 6, 7, 8, 0x40, 0x50]
    let sense : Bytes := [0x72, 0x01, 0, 0x1d, 0, 0, 0, 14] ++ found
    let completion : Scsi.Completion := ⟨[], .ofBytes sense 22, Sense.checkCondition, 0⟩
    ∃ answer, Dialogue.Path (perform .long 60 request {})
        [⟨⟨command .long 60 request, none⟩, ⟨.ok (), completion⟩⟩] answer ∧
      answer.result = .ok () ∧
      ∀ group register byte, answer.registers.read group register = some byte →
        Supplied sense true group register byte := by
  intro request found sense completion
  have path : Dialogue.Path (perform .long 60 request {}) _ _ :=
    path_delivered rfl (fun _ => rfl) {} completion
  have hOk : (concluded request completion {}).result = .ok () :=
    (rule_ok_iff request completion {}).mpr (.inr ⟨by decide, .inl (by decide)⟩)
  have hSense : completion.senseData = sense := by decide
  have hFound : Sense.descriptor? sense returnDescriptorType = some found := by decide +kernel
  refine ⟨_, path, hOk, fun group register byte hRead => ?_⟩
  have hWhole := (registers_supplied_iff path hOk).mpr (by
    intro exchange hExchange other hOther
    cases List.mem_singleton.mp hExchange
    rw [hSense, hFound] at hOther
    cases hOther
    decide)
  obtain ⟨exchange, hExchange, hSupplied⟩ := hWhole group register byte hRead
  cases List.mem_singleton.mp hExchange
  rw [hSense] at hSupplied
  exact hSupplied

/-- A transport that has room for 18 bytes of sense data cuts the descriptor in front of the upper
address byte. The registers behind the cut are marked as set all the same. -/
theorem cut_descriptor_filled :
    let request : Request := { wanted := fun register => register == .lbaHigh }
    let sense : Bytes :=
      [0x72, 0x01, 0, 0x1d, 0, 0, 0, 14, 0x09, 12, 0, 0, 0, 0, 0, 0, 0, failingMid]
    let completion : Scsi.Completion := ⟨[], .ofBytes sense 18, Sense.checkCondition, 0⟩
    ∃ answer, Dialogue.Path (perform .long 60 request {})
        [⟨⟨command .long 60 request, none⟩, ⟨.ok (), completion⟩⟩] answer ∧
      answer.result = .ok () ∧
      answer.registers.read .current .lbaHigh = some 0 ∧
      ¬ Supplied completion.senseData false .current .lbaHigh 0 := by
  intro request sense completion
  have path : Dialogue.Path (perform .long 60 request {}) _ _ :=
    path_delivered rfl (fun _ => rfl) {} completion
  have hOk : (concluded request completion {}).result = .ok () :=
    (rule_ok_iff request completion {}).mpr (.inr ⟨by decide, .inl (by decide)⟩)
  have hSense : completion.senseData = sense := by decide
  have hFound : Sense.descriptor? sense returnDescriptorType =
      some [0x09, 12, 0, 0, 0, 0, 0, 0, 0, failingMid] := by decide +kernel
  refine ⟨_, path, hOk, ?_, ?_⟩
  · decide +kernel
  · rw [hSense]
    intro hSupplied
    have hPlace : descriptorOffset? .current .lbaHigh = some 11 := rfl
    exact absurd ((supplied_iff_of_descriptor? hFound hPlace).mp hSupplied) (by decide)

end Sat

end DriveBridge.Ata
