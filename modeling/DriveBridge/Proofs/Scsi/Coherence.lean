import DriveBridge.Proofs.Scsi.Sense

/-! Where the readings of one piece of sense data fit together. Header, summary and descriptor
search decide separately which formats they know, how far the data reaches, and whether the top bit
of the first byte counts. The main statement says exactly when none of this makes a difference. -/
namespace DriveBridge.Sense

/-- The fields of a header that a verdict goes by. -/
def Header.summary (header : Header) : Summary :=
  ⟨header.responseCode, header.senseKey, header.asc, header.ascq⟩

/-- The readings of sense data fit together. -/
structure Coherent (sense : Bytes) : Prop where
  /-- Current and deferred sense data has a header, and nothing else has. -/
  header : header? sense ≠ none ↔
    sense ≠ [] ∧ 0x70 ≤ responseCode sense ∧ responseCode sense ≤ 0x73
  /-- The verdict goes by what the header says. -/
  summary : ∀ header, header? sense = some header →
    Sense.summary checkCondition sense = header.summary
  /-- The top bit of the first byte is no part of the format. -/
  descriptor : ∀ type, descriptor? (sense.modifyHead (· ||| 0x80)) type =
    descriptor? (sense.modifyHead (· &&& 0x7f)) type

/-- Sense data with a header carries the codes that a summary takes from it. A summary needs four
bytes of the descriptor format, where a header is content with fewer. It reads the codes of the
fixed format from 14 bytes on whatever their length byte covers, where a header reads what is
covered. Bytes that are 0 hide the difference. -/
def CodesCovered (sense : Bytes) : Prop :=
  if 0x72 ≤ responseCode sense then
    3 < sense.length ∨ sense.byte 1 &&& 0xf = 0 ∧ sense.byte 2 = 0
  else
    ∀ position ∈ [12, 13], sense.byte position = 0 ∨
      (position < (sense.byte 7).toNat + 8 ↔ 13 < sense.length)

/-- Current or deferred descriptor format sense data with room for a descriptor. -/
def HoldsDescriptors (sense : Bytes) : Prop :=
  0x72 ≤ responseCode sense ∧ responseCode sense ≤ 0x73 ∧ 8 < sense.length ∧ sense.byte 7 ≠ 0

section Codes

variable {sense : Bytes}

theorem summary_descriptor (hCode : 0x72 ≤ responseCode sense) :
    summary checkCondition sense =
      if 3 < sense.length then
        ⟨responseCode sense, sense.byte 1 &&& 0xf, sense.byte 2, sense.byte 3⟩
      else ⟨responseCode sense, 0, 0, 0⟩ := by
  have hSense : sense ≠ [] :=
    ne_nil_of_code_le (UInt8.le_trans (by decide : (0x70 : UInt8) ≤ 0x72) hCode)
  have hRead : ¬ (checkCondition ≠ checkCondition ∨ sense = []) := by simp [hSense]
  rw [summary, if_neg hRead]
  exact if_pos hCode

/-- A key that is cut off reads as 0, as it does in the header. -/
theorem summary_fixed (hCode : 0x70 ≤ responseCode sense) (hFixed : ¬ 0x72 ≤ responseCode sense) :
    summary checkCondition sense =
      if 13 < sense.length then
        ⟨responseCode sense, sense.byte 2 &&& 0xf, sense.byte 12, sense.byte 13⟩
      else ⟨responseCode sense, sense.byte 2 &&& 0xf, 0, 0⟩ := by
  have hRead : ¬ (checkCondition ≠ checkCondition ∨ sense = []) := by
    simp [ne_nil_of_code_le hCode]
  rw [summary, if_neg hRead]
  refine (if_neg hFixed).trans ?_
  by_cases hKey : 2 < sense.length
  · exact if_pos ⟨hCode, hKey⟩
  · have hShort : ¬ 13 < sense.length := by omega
    have hCut : ¬ (0x70 ≤ sense.byte 0 &&& 0x7f ∧ 2 < sense.length) := fun h => hKey h.2
    rw [if_neg hCut, if_neg hShort, Bytes.byte_of_length_le (by omega : sense.length ≤ 2)]
    rfl

theorem summary_eq_header_iff {header : Header} (hHeader : header? sense = some header) :
    summary checkCondition sense = header.summary ↔ CodesCovered sense := by
  have hCode : 0x70 ≤ responseCode sense := header?_ne_none_iff.mp (by simp [hHeader])
  unfold CodesCovered
  by_cases hFormat : 0x72 ≤ responseCode sense
  · rw [header?_descriptor hFormat] at hHeader
    cases hHeader
    rw [if_pos hFormat, summary_descriptor hFormat, Header.summary]
    by_cases hLong : 3 < sense.length
    · simp [hLong]
    · have hQualifier : sense.byte 3 = 0 := Bytes.byte_of_length_le (by omega)
      simp [hLong, hQualifier, eq_comm]
  · rw [header?_fixed hCode hFormat] at hHeader
    cases hHeader
    rw [if_neg hFormat, summary_fixed hCode hFormat, Header.summary]
    simp only [byte_fixedExtent, List.forall_mem_cons, List.not_mem_nil, false_implies,
      implies_true, and_true]
    by_cases hLong : 13 < sense.length
    · grind
    · have hQualifier : sense.byte 13 = 0 := Bytes.byte_of_length_le (by omega)
      grind

end Codes

section Descriptors

variable {sense : Bytes}

/-- Wherever descriptors begin, the one found first is of the type that the first byte names. -/
theorem exists_findDescriptor?_iff (region : Bytes) :
    (∃ type, findDescriptor? type region ≠ none) ↔ region ≠ [] := by
  constructor
  · intro hFound hEmpty
    obtain ⟨type, hFound⟩ := hFound
    rw [hEmpty, findDescriptor?] at hFound
    exact hFound rfl
  · intro hRegion
    cases region with
    | nil => exact (hRegion rfl).elim
    | cons kind rest =>
        refine ⟨kind, ?_⟩
        cases rest <;> simp [findDescriptor?]

theorem descriptors_eq_nil_iff : descriptors sense = [] ↔ sense.length ≤ 8 ∨ sense.byte 7 = 0 := by
  have hZero : (sense.byte 7).toNat = 0 ↔ sense.byte 7 = 0 := UInt8.toNat_inj (b := 0)
  rw [descriptors, List.take_eq_nil_iff, List.drop_eq_nil_iff, hZero]
  exact or_comm

/-- With the top bit set, no first byte announces descriptors. -/
theorem descriptor?_set_top (type : UInt8) :
    descriptor? (sense.modifyHead (· ||| 0x80)) type = none := by
  have hBits : ∀ bits : BitVec 8, ¬ UInt8.ofBitVec bits ||| 0x80 ≤ 0x73 := by decide
  cases sense with
  | nil => rfl
  | cons first rest => exact if_neg fun h => hBits first.toBitVec h.2.2

/-- With the top bit clear, some descriptor is found exactly where there are any. -/
theorem exists_descriptor?_clear_top_iff :
    (∃ type, descriptor? (sense.modifyHead (· &&& 0x7f)) type ≠ none) ↔ HoldsDescriptors sense := by
  generalize hClear : sense.modifyHead (· &&& 0x7f) = clear
  have hCode : Bytes.byte clear 0 = responseCode sense := by
    rw [← hClear]
    cases sense <;> rfl
  have hLength : clear.length = sense.length := by
    rw [← hClear, List.length_modifyHead]
  have hRegion : descriptors clear = descriptors sense := by
    rw [← hClear]
    cases sense <;> rfl
  unfold descriptor? HoldsDescriptors
  rw [hCode, hLength, hRegion]
  by_cases hFormat : 8 ≤ sense.length ∧ 0x72 ≤ responseCode sense ∧ responseCode sense ≤ 0x73
  · simp only [hFormat, and_self, if_true, true_and]
    rw [exists_findDescriptor?_iff, Ne, descriptors_eq_nil_iff, not_or, Nat.not_le]
  · simp only [hFormat, if_false, ne_eq, not_true_eq_false, exists_const, false_iff]
    intro hHolds
    exact hFormat ⟨Nat.le_of_lt hHolds.2.2.1, hHolds.1, hHolds.2.1⟩

end Descriptors

/-- The readings of sense data fit together exactly where the response code is none of the reserved
ones, the codes are covered, and there is no descriptor that a set top bit could hide. -/
theorem coherent_iff (sense : Bytes) :
    Coherent sense ↔ responseCode sense ≤ 0x73 ∧
      (0x70 ≤ responseCode sense → CodesCovered sense) ∧ ¬ HoldsDescriptors sense := by
  constructor
  · intro hCoherent
    refine ⟨?_, ?_, ?_⟩
    · refine UInt8.not_lt.mp fun hReserved => ?_
      have hKnown : 0x70 ≤ responseCode sense :=
        UInt8.le_trans (by decide : (0x70 : UInt8) ≤ 0x73) (UInt8.le_of_lt hReserved)
      have hHeader := hCoherent.header.mp (header?_ne_none_iff.mpr hKnown)
      exact UInt8.not_lt.mpr hHeader.2.2 hReserved
    · intro hKnown
      obtain ⟨header, hHeader⟩ := Option.ne_none_iff_exists'.mp (header?_ne_none_iff.mpr hKnown)
      exact (summary_eq_header_iff hHeader).mp (hCoherent.summary header hHeader)
    · intro hHolds
      obtain ⟨type, hFound⟩ := exists_descriptor?_clear_top_iff.mpr hHolds
      exact hFound ((hCoherent.descriptor type).symm.trans (descriptor?_set_top type))
  · intro hParts
    obtain ⟨hCurrent, hCovered, hNothing⟩ := hParts
    constructor
    · rw [header?_ne_none_iff]
      exact ⟨fun hKnown => ⟨ne_nil_of_code_le hKnown, hKnown, hCurrent⟩, fun h => h.2.1⟩
    · intro header hHeader
      have hKnown : 0x70 ≤ responseCode sense := header?_ne_none_iff.mp (by simp [hHeader])
      exact (summary_eq_header_iff hHeader).mpr (hCovered hKnown)
    · intro type
      rw [descriptor?_set_top]
      refine Decidable.byContradiction fun hFound => hNothing ?_
      exact exists_descriptor?_clear_top_iff.mp ⟨type, Ne.symm hFound⟩

/-- A header is made up for a reserved code, a summary takes a code that the length byte leaves out,
and a top bit hides a descriptor. -/
theorem readings_apart :
    ¬ Coherent [0x74] ∧
      ¬ Coherent ([0x70, 0, 0x05] ++ Bytes.zeros 9 ++ [ascInvalidField, 0]) ∧
        ¬ Coherent [0x72, 0, 0, 0, 0, 0, 0, 4, 0x09, 2, 0xaa, 0xbb] := by
  refine ⟨?_, ?_, ?_⟩
  · intro hCoherent
    exact absurd (hCoherent.header.mp (by decide)).2.2 (by decide)
  · intro hCoherent
    exact absurd (hCoherent.summary _ rfl) (by decide)
  · intro hCoherent
    have hFound : descriptor? [0x72, 0, 0, 0, 0, 0, 0, 4, 0x09, 2, 0xaa, 0xbb] 0x09 =
        some [0x09, 2, 0xaa, 0xbb] := by cbv
    have hHidden : descriptor? [0xf2, 0, 0, 0, 0, 0, 0, 4, 0x09, 2, 0xaa, 0xbb] 0x09 = none := by cbv
    cases hHidden.symm.trans ((hCoherent.descriptor 0x09).trans hFound)

end DriveBridge.Sense
