import DriveBridge.Scsi.Sense

/-! How the readings of sense data agree. The header, the verdict and the descriptors are read by
separate functions of the same bytes, each with a condition of its own on the first of them. -/
namespace DriveBridge.Sense

/-- Sense data has a header exactly if its first byte is that of a known format. -/
theorem header?_eq_none_iff (sense : Bytes) :
    header? sense = none ↔ sense.byte 0 &&& 0x70 ≠ 0x70 := by
  cases sense with
  | nil => simp [header?, Bytes.byte]
  | cons first rest =>
      simp only [header?, Bytes.byte, List.getD_cons_zero]
      by_cases hFormat : first &&& 0x70 = 0x70
      · simp only [hFormat, if_true]
        split <;> simp
      · simp [hFormat]

theorem isDescriptor_iff {sense : Bytes} {header : Header} (hHeader : header? sense = some header) :
    header.isDescriptor = true ↔ 0x72 ≤ sense.byte 0 &&& 0x7f := by
  cases sense with
  | nil => cases hHeader
  | cons first rest =>
      simp only [header?, Bytes.byte, List.getD_cons_zero] at hHeader ⊢
      by_cases hFormat : first &&& 0x70 = 0x70
      · rw [if_pos hFormat] at hHeader
        -- The response code of the header is the first byte without its top bit in both formats.
        split at hHeader <;> cases hHeader <;> exact decide_eq_true_iff
      · rw [if_neg hFormat] at hHeader
        cases hHeader

/-- A format that carries a key begins with the bits of a known one. -/
theorem format_of_code_le {first : UInt8} (hCode : 0x70 ≤ first &&& 0x7f) :
    first &&& 0x70 = 0x70 := by
  have hBits : ∀ bits : BitVec 8, 0x70 ≤ UInt8.ofBitVec bits &&& 0x7f →
      UInt8.ofBitVec bits &&& 0x70 = 0x70 := by decide
  exact hBits first.toBitVec hCode

theorem Summary.verdict_of_senseKey_eq_zero {summary : Summary} (hKey : summary.senseKey = 0) :
    summary.verdict = .noError := by
  have hNone : Key.ofByte 0 = .noSense := by decide
  rw [verdict, hKey, hNone]

theorem header?_ne_none_of_code_le {sense : Bytes} (hCode : 0x70 ≤ sense.byte 0 &&& 0x7f) :
    header? sense ≠ none := by
  intro hNone
  exact (header?_eq_none_iff sense).mp hNone (format_of_code_le hCode)

/-- A verdict that reports an error comes from sense data with a header. -/
theorem header?_ne_none_of_verdict {status : UInt8} {sense : Bytes}
    (hError : (summary status sense).verdict ≠ .noError) : header? sense ≠ none := by
  apply header?_ne_none_of_code_le
  refine Decidable.byContradiction fun hCode => hError ?_
  have hHigh : ¬ 0x72 ≤ sense.byte 0 &&& 0x7f := by grind
  simp only [summary, hCode, hHigh, false_and, if_false]
  split <;> exact Summary.verdict_of_senseKey_eq_zero rfl

theorem format_of_descriptor? {sense found : Bytes} {type : UInt8}
    (hFound : descriptor? sense type = some found) : 0x72 ≤ sense.byte 0 ∧ sense.byte 0 ≤ 0x73 := by
  refine Decidable.byContradiction fun hOther => ?_
  rw [descriptor?, if_neg fun h => hOther h.2] at hFound
  cases hFound

/-- Sense data in which descriptors are looked for has a header of descriptor format. -/
theorem header?_of_descriptor? {sense found : Bytes} {type : UInt8}
    (hFound : descriptor? sense type = some found) :
    ∃ header, header? sense = some header ∧ header.isDescriptor = true := by
  have hFormat := format_of_descriptor? hFound
  have hFirst : sense.byte 0 = 0x72 ∨ sense.byte 0 = 0x73 := by grind
  have hCode : 0x72 ≤ sense.byte 0 &&& 0x7f := by
    rcases hFirst with hFirst | hFirst <;> rw [hFirst] <;> decide
  have hKnown : 0x70 ≤ sense.byte 0 &&& 0x7f := by grind
  obtain ⟨header, hHeader⟩ := Option.ne_none_iff_exists'.mp (header?_ne_none_of_code_le hKnown)
  exact ⟨header, hHeader, (isDescriptor_iff hHeader).mpr hCode⟩

section Formats

variable {sense : Bytes}

/-- The response code, which the first byte carries below its top bit. -/
def responseCode (sense : Bytes) : UInt8 := sense.byte 0 &&& 0x7f

theorem code_le_of_format {first : UInt8} (hFormat : first &&& 0x70 = 0x70) :
    0x70 ≤ first &&& 0x7f := by
  have hBits : ∀ bits : BitVec 8, UInt8.ofBitVec bits &&& 0x70 = 0x70 →
      0x70 ≤ UInt8.ofBitVec bits &&& 0x7f := by decide
  exact hBits first.toBitVec hFormat

theorem header?_ne_none_iff : header? sense ≠ none ↔ 0x70 ≤ responseCode sense := by
  constructor
  · intro hSome
    refine code_le_of_format (Decidable.byContradiction fun hFormat => hSome ?_)
    exact (header?_eq_none_iff sense).mpr hFormat
  · exact header?_ne_none_of_code_le

theorem ne_nil_of_code_le (hCode : 0x70 ≤ responseCode sense) : sense ≠ [] := by
  intro hNil
  rw [hNil] at hCode
  exact absurd hCode (by decide)

theorem header?_descriptor (hCode : 0x72 ≤ responseCode sense) :
    header? sense = some ⟨responseCode sense, sense.byte 1 &&& 0xf, sense.byte 2, sense.byte 3,
      sense.byte 7⟩ := by
  have hFormat := format_of_code_le (UInt8.le_trans (by decide : (0x70 : UInt8) ≤ 0x72) hCode)
  cases sense with
  | nil => exact absurd hCode (by decide)
  | cons first rest =>
      simp only [responseCode, Bytes.byte, List.getD_cons_zero] at hCode hFormat
      simp only [header?, hFormat, hCode, if_true]
      rfl

theorem header?_fixed (hCode : 0x70 ≤ responseCode sense) (hFixed : ¬ 0x72 ≤ responseCode sense) :
    header? sense = some ⟨responseCode sense, sense.byte 2 &&& 0xf, (fixedExtent sense).byte 12,
      (fixedExtent sense).byte 13, 0⟩ := by
  have hFormat := format_of_code_le hCode
  cases sense with
  | nil => exact absurd hCode (by decide)
  | cons first rest =>
      simp only [responseCode, Bytes.byte, List.getD_cons_zero] at hFixed hFormat
      simp only [header?, hFormat, hFixed, if_true, if_false]
      rfl

end Formats

/-- A byte of sense data was returned, and the length byte of the data covers it. -/
def Covers (sense : Bytes) (position : Nat) : Prop :=
  position < sense.length ∧ position < (sense.byte 7).toNat + 8

/-- Where the descriptor of a number begins, which is where the one before it ends. -/
def descriptorStart (sense : Bytes) : Nat → Nat
  | 0 => 8
  | number + 1 =>
      let start := descriptorStart sense number
      start + (sense.byte (start + 1)).toNat + 2

/-- The number of the first descriptor of a type. -/
structure IsFirst (sense : Bytes) (type : UInt8) (number : Nat) : Prop where
  named : sense.byte (descriptorStart sense number) = type
  earlier : ∀ before < number, sense.byte (descriptorStart sense before) ≠ type

theorem IsFirst.unique {sense : Bytes} {type : UInt8} {number other : Nat}
    (first : IsFirst sense type number) (also : IsFirst sense type other) : number = other := by
  rcases Nat.lt_trichotomy number other with hBefore | hSame | hAfter
  · exact (also.earlier number hBefore first.named).elim
  · exact hSame
  · exact (first.earlier other hAfter also.named).elim

section Located

variable {sense : Bytes}

theorem length_fixedExtent :
    (fixedExtent sense).length = min ((sense.byte 7).toNat + 8) sense.length :=
  List.length_take

theorem byte_fixedExtent (position : Nat) :
    (fixedExtent sense).byte position =
      if position < (sense.byte 7).toNat + 8 then sense.byte position else 0 := by
  simp only [fixedExtent, Bytes.byte, List.getD_eq_getElem?_getD, List.getElem?_take]
  split <;> rfl

theorem covers_iff {position : Nat} :
    Covers sense position ↔ position < (fixedExtent sense).length := by
  rw [length_fixedExtent, Covers]
  omega

theorem byte_fixedExtent_of_covers {position : Nat} (hCovers : Covers sense position) :
    (fixedExtent sense).byte position = sense.byte position := by
  rw [byte_fixedExtent, if_pos hCovers.2]

/-- What is left of the data from a position on begins with the byte there. -/
theorem byte_of_drop_eq_cons {bytes rest : Bytes} {start : Nat} {first : UInt8}
    (hDrop : bytes.drop start = first :: rest) :
    start < bytes.length ∧ bytes.byte start = first ∧ bytes.drop (start + 1) = rest := by
  have hStart : start < bytes.length := by
    refine Nat.not_le.mp fun hPast => ?_
    rw [List.drop_eq_nil_of_le hPast] at hDrop
    cases hDrop
  rw [List.drop_eq_getElem_cons hStart] at hDrop
  obtain ⟨hFirst, hRest⟩ := List.cons.inj hDrop
  refine ⟨hStart, ?_, hRest⟩
  rw [Bytes.byte, List.getD_eq_getElem?_getD, List.getElem?_eq_getElem hStart, hFirst,
    Option.getD_some]

theorem byte_of_drop_fixedExtent {start : Nat} {first : UInt8} {rest : Bytes}
    (hDrop : (fixedExtent sense).drop start = first :: rest) :
    start < (fixedExtent sense).length ∧ sense.byte start = first ∧
      (fixedExtent sense).drop (start + 1) = rest := by
  obtain ⟨hStart, hFirst, hRest⟩ := byte_of_drop_eq_cons hDrop
  rw [byte_fixedExtent_of_covers (covers_iff.mpr hStart)] at hFirst
  exact ⟨hStart, hFirst, hRest⟩

/-- Behind what a descriptor declares, the next one begins. -/
theorem drop_descriptorStart_succ {number : Nat} {kind count : UInt8} {rest : Bytes}
    (hRegion : (fixedExtent sense).drop (descriptorStart sense number) = kind :: count :: rest) :
    (fixedExtent sense).drop (descriptorStart sense (number + 1)) = rest.drop count.toNat := by
  obtain ⟨-, -, hRest⟩ := byte_of_drop_fixedExtent hRegion
  obtain ⟨-, hCount, hLater⟩ := byte_of_drop_fixedExtent hRest
  rw [← hLater, List.drop_drop, descriptorStart, hCount]
  congr 1
  omega

/-- The search goes from descriptor to descriptor, and what it finds is cut where the descriptor or
the data ends. -/
theorem exists_first_of_findDescriptor? {type : UInt8} {region found : Bytes} {number : Nat}
    (hRegion : (fixedExtent sense).drop (descriptorStart sense number) = region)
    (hEarlier : ∀ before < number, sense.byte (descriptorStart sense before) ≠ type)
    (hFound : findDescriptor? type region = some found) :
    ∃ number, IsFirst sense type number ∧
      found = ((fixedExtent sense).drop (descriptorStart sense number)).take
        (((fixedExtent sense).byte (descriptorStart sense number + 1)).toNat + 2) := by
  fun_induction findDescriptor? type region generalizing number with
  | case1 => cases hFound
  | case2 =>
      -- The length byte of the last descriptor is cut off.
      obtain ⟨-, hNamed, -⟩ := byte_of_drop_fixedExtent hRegion
      cases hFound
      refine ⟨number, ⟨hNamed, hEarlier⟩, ?_⟩
      rw [hRegion]
      rfl
  | case3 => cases hFound
  | case4 count rest =>
      obtain ⟨-, hNamed, hRest⟩ := byte_of_drop_fixedExtent hRegion
      obtain ⟨-, hCount, -⟩ := byte_of_drop_eq_cons hRest
      cases hFound
      refine ⟨number, ⟨hNamed, hEarlier⟩, ?_⟩
      rw [hRegion, hCount]
      rfl
  | case5 kind count rest hOther ih =>
      obtain ⟨-, hNamed, -⟩ := byte_of_drop_fixedExtent hRegion
      refine ih (drop_descriptorStart_succ hRegion) ?_ hFound
      intro before hBefore
      rcases Nat.lt_succ_iff_lt_or_eq.mp hBefore with hOld | rfl
      · exact hEarlier before hOld
      · rw [hNamed]
        exact hOther

theorem exists_first_of_descriptor? {type : UInt8} {found : Bytes}
    (hFound : descriptor? sense type = some found) :
    ∃ number, IsFirst sense type number ∧
      found = ((fixedExtent sense).drop (descriptorStart sense number)).take
        (((fixedExtent sense).byte (descriptorStart sense number + 1)).toNat + 2) := by
  unfold descriptor? at hFound
  split at hFound
  · have hRegion : (fixedExtent sense).drop (descriptorStart sense 0) = descriptors sense := by
      rw [fixedExtent, descriptorStart, List.drop_take]
      rfl
    exact exists_first_of_findDescriptor? hRegion nofun hFound
  · cases hFound

/-- Past its header, the descriptor that is found has the bytes that it declares, as far as the
sense data holds them. -/
theorem descriptor?_located {type : UInt8} {found : Bytes}
    (hFound : descriptor? sense type = some found) :
    ∃ number, IsFirst sense type number ∧ ∀ offset, 2 ≤ offset →
      (offset < found.length ↔
        offset < (sense.byte (descriptorStart sense number + 1)).toNat + 2 ∧
          Covers sense (descriptorStart sense number + offset)) ∧
      (offset < found.length →
        found.byte offset = sense.byte (descriptorStart sense number + offset)) := by
  obtain ⟨number, hFirst, hSlice⟩ := exists_first_of_descriptor? hFound
  refine ⟨number, hFirst, fun offset hOffset => ?_⟩
  generalize descriptorStart sense number = start at hSlice ⊢
  have hLength : found.length =
      min (((fixedExtent sense).byte (start + 1)).toNat + 2)
        ((fixedExtent sense).length - start) := by
    rw [hSlice, List.length_take, List.length_drop]
  by_cases hCovers : Covers sense (start + offset)
  · have hInside := covers_iff.mp hCovers
    have hDeclared : (fixedExtent sense).byte (start + 1) = sense.byte (start + 1) :=
      byte_fixedExtent_of_covers (covers_iff.mpr (by omega))
    rw [hDeclared] at hLength
    constructor
    · rw [hLength]
      constructor
      · exact fun h => ⟨by omega, hCovers⟩
      · exact fun h => by omega
    · intro hFits
      have hTaken : offset < (sense.byte (start + 1)).toNat + 2 := by omega
      rw [← byte_fixedExtent_of_covers hCovers, hSlice, hDeclared]
      simp only [Bytes.byte, List.getD_eq_getElem?_getD] at hTaken ⊢
      rw [List.getElem?_take_of_lt hTaken, List.getElem?_drop]
  · have hOutside : (fixedExtent sense).length ≤ start + offset :=
      Nat.not_lt.mp fun h => hCovers (covers_iff.mpr h)
    have hCut : ¬ offset < found.length := by omega
    exact ⟨iff_of_false hCut fun h => hCovers h.2, fun h => (hCut h).elim⟩

end Located

end DriveBridge.Sense
