import DriveBridge.Scsi.Command

/-! Reading sense data never goes wrong: whatever its bytes are, and whatever lengths they declare,
the checked readers find what `header?`, `descriptor?` and `summary` say. -/
namespace DriveBridge.Sense

theorem readField_eq {sense : Bytes} {extent : Nat} (h : extent ≤ sense.length) (position : Nat) :
    readField sense extent position = some (Bytes.byte (sense.take extent) position) := by
  unfold readField
  by_cases hInside : position < extent
  · rw [if_pos hInside, Checked.index_of_lt (by omega)]
    simp [Bytes.byte, List.getElem?_take_of_lt hInside]
  · rw [if_neg hInside]
    have hEnd : (sense.take extent).length ≤ position := by
      rw [List.length_take]
      omega
    simp [Bytes.byte, List.getD_eq_getElem?_getD, List.getElem?_eq_none hEnd]

theorem readFixedExtent_eq (sense : Bytes) :
    readFixedExtent sense = some (fixedExtent sense).length := by
  unfold readFixedExtent fixedExtent
  rw [List.length_take]
  by_cases hDeclared : 7 < sense.length
  · have hSum : (sense.byte 7).toNat + 8 < Checked.sizeLimit := by
      have hByte := (sense.byte 7).toNat_lt
      unfold Checked.sizeLimit
      omega
    rw [if_pos hDeclared, Checked.index_of_lt hDeclared]
    simp [Checked.add_of_lt hSum, Nat.min_comm]
  · rw [if_neg hDeclared]
    exact congrArg some (by omega)

theorem readHeader_eq (sense : Bytes) : readHeader sense = some (header? sense) := by
  cases sense with
  | nil => rfl
  | cons first rest =>
      have hExtent : (fixedExtent (first :: rest)).length ≤ (first :: rest).length := by
        rw [fixedExtent, List.length_take]
        omega
      have hTake : (first :: rest).take (fixedExtent (first :: rest)).length =
          fixedExtent (first :: rest) := by
        rw [fixedExtent, List.length_take, Nat.min_comm, List.take_eq_take_iff]
        omega
      simp only [readHeader, header?, readField_eq (Nat.le_refl _), readFixedExtent_eq,
        readField_eq hExtent, hTake, List.take_length, Option.bind_eq_bind, Option.bind_some]
      split
      · split <;> rfl
      · rfl

theorem readSummary_eq (status : UInt8) (sense : Bytes) :
    readSummary status sense = some (summary status sense) := by
  unfold readSummary summary
  split
  · rfl
  · next hPresent =>
      have hFirst : 0 < sense.length := by
        rw [List.length_pos_iff]
        exact fun hEmpty => hPresent (.inr hEmpty)
      simp only [Checked.index_of_lt hFirst, Option.bind_eq_bind, Option.bind_some]
      split
      · split
        · next hCodes =>
            have hKey : 1 < sense.length := by omega
            have hAsc : 2 < sense.length := by omega
            simp only [Checked.index_of_lt hKey, Checked.index_of_lt hAsc,
              Checked.index_of_lt hCodes, Option.bind_some]
            rfl
        · rfl
      · split
        · next hKey =>
            simp only [Checked.index_of_lt hKey.2, Option.bind_some]
            split
            · next hCodes =>
                have hAsc : 12 < sense.length := by omega
                simp only [Checked.index_of_lt hAsc, Checked.index_of_lt hCodes, Option.bind_some]
                rfl
            · rfl
        · rfl

section Descriptors

variable {region rest : Bytes} {position : Nat} {kind : UInt8}

theorem length_of_drop_eq_cons (hRest : region.drop position = kind :: rest) :
    region.length = position + (rest.length + 1) := by
  have hLength : region.length - position = rest.length + 1 := by
    rw [← List.length_drop, hRest, List.length_cons]
  omega

/-- The descriptor header is read wherever the region has a byte left. -/
theorem readDescriptorHeader_eq (hRest : region.drop position = kind :: rest)
    (hSize : region.length < 0x100000000) :
    readDescriptorHeader region position = some (kind, kind :: rest, rest.head?) := by
  have hLength := length_of_drop_eq_cons hRest
  have hSecond : position + 1 < Checked.sizeLimit := by
    unfold Checked.sizeLimit
    omega
  unfold readDescriptorHeader
  rw [Checked.past_of_le (by omega), Checked.add_of_lt hSecond, hRest]
  cases rest with
  | nil => simp [hLength, Checked.index]
  | cons count rest => simp [hLength, Checked.index]

/-- To look on from a position is to look through what the region has from there on. -/
theorem seekDescriptor_eq (type : UInt8) (hSize : region.length < 0x100000000) (position : Nat) :
    seekDescriptor type region position = some (findDescriptor? type (region.drop position)) := by
  rw [seekDescriptor]
  by_cases hInside : position < region.length
  · obtain ⟨kind, rest, hRest⟩ := List.exists_cons_of_ne_nil
      (List.ne_nil_of_length_pos (by rw [List.length_drop]; omega) : region.drop position ≠ [])
    rw [if_pos hInside, readDescriptorHeader_eq hRest hSize, hRest]
    cases rest with
    | nil =>
        simp only [List.head?_nil, findDescriptor?]
        split <;> rfl
    | cons count rest =>
        have hLength := length_of_drop_eq_cons hRest
        have hCount := count.toNat_lt
        have hStep : Checked.add count.toNat 2 = some (count.toNat + 2) :=
          Checked.add_of_lt (by unfold Checked.sizeLimit; omega)
        have hNext : Checked.add position (count.toNat + 2) = some (position + (count.toNat + 2)) :=
          Checked.add_of_lt (by unfold Checked.sizeLimit; omega)
        have hDrop : region.drop (position + (count.toNat + 2)) = rest.drop count.toNat := by
          rw [← List.drop_drop, hRest, List.drop_succ_cons, List.drop_succ_cons]
        simp only [List.head?_cons, findDescriptor?]
        split
        · next hNone => cases hStep.symm.trans hNone
        · next length hSome =>
            cases hStep.symm.trans hSome
            split
            · rw [Checked.cut_of_le (Nat.min_le_right _ _)]
              simp
            · split
              · next hNone => cases hNext.symm.trans hNone
              · next next hSome =>
                  cases hNext.symm.trans hSome
                  rw [seekDescriptor_eq type hSize, hDrop]
  · rw [if_neg hInside, List.drop_of_length_le (by omega), findDescriptor?]
  termination_by region.length - position

end Descriptors

theorem readDescriptor_eq (sense : Bytes) (type : UInt8) :
    readDescriptor sense type = some (descriptor? sense type) := by
  unfold readDescriptor descriptor?
  by_cases hLong : 8 ≤ sense.length
  · have hDeclared : 7 < sense.length := by omega
    have hFormat : 0 < sense.length := by omega
    simp only [hLong, Checked.index_of_lt hDeclared, Checked.index_of_lt hFormat,
      Option.bind_eq_bind, Option.bind_some, if_true, true_and]
    by_cases hNone : sense.byte 7 = 0
    · -- No bytes are declared, so there is nothing to look through.
      have hEmpty : descriptors sense = [] := by simp [descriptors, hNone]
      simp [hNone, hEmpty, findDescriptor?]
    · have hByte := (sense.byte 7).toNat_lt
      have hStop : 8 + min (sense.byte 7).toNat (sense.length - 8) < Checked.sizeLimit := by
        unfold Checked.sizeLimit
        omega
      have hRegion : (sense.take (8 + min (sense.byte 7).toNat (sense.length - 8))).drop 8 =
          descriptors sense := by
        rw [List.drop_take, Nat.add_sub_cancel_left, descriptors, List.take_eq_take_iff,
          List.length_drop]
        omega
      have hSize : (descriptors sense).length < 0x100000000 := by
        rw [descriptors, List.length_take]
        omega
      have hCut : 8 ≤ (sense.take (8 + min (sense.byte 7).toNat (sense.length - 8))).length := by
        rw [List.length_take]
        omega
      simp only [hNone, Checked.sub_of_le hLong, Checked.add_of_lt hStop,
        Checked.cut_of_le (by omega : 8 + min (sense.byte 7).toNat (sense.length - 8) ≤ sense.length),
        Checked.past_of_le hCut, hRegion, Option.bind_some, seekDescriptor_eq type hSize,
        List.drop_zero, ne_eq, not_false_eq_true, true_and]
      split <;> rfl
  · simp [hLong]

end DriveBridge.Sense

namespace DriveBridge.Scsi.Completion

theorem readSense_eq (completion : Completion) :
    completion.readSense = some completion.senseData := by
  have hRaw := completion.sense.length_raw
  have hCut : min completion.sense.filled senseLength ≤ completion.sense.raw.length := by omega
  have hTake : completion.sense.raw.take (min completion.sense.filled senseLength) =
      completion.sense.raw.take completion.sense.filled := by
    rw [List.take_eq_take_iff]
    omega
  rw [readSense, Checked.cut_of_le hCut, hTake]
  rfl

theorem readVerdict_eq (completion : Completion) :
    completion.readVerdict = some completion.verdict := by
  simp [readVerdict, readSense_eq, Sense.readSummary_eq, verdict]

theorem readHasSense_eq (completion : Completion) :
    completion.readHasSense = some completion.hasSense := by
  unfold readHasSense hasSense
  by_cases hStatus : completion.status = Sense.checkCondition
  · simp [hStatus, readSense_eq, Sense.readHeader_eq]
  · simp [hStatus]

end DriveBridge.Scsi.Completion
