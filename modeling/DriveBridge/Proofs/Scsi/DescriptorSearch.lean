import DriveBridge.Proofs.Scsi.Sense
import DriveBridge.Proofs.Scsi.SenseReader

/-! The search for a descriptor. The descriptors of sense data follow one another, each with its own
length, and the search goes from one to the next until the data ends, wherever that is. So it ends,
it finds the first descriptor of a type if there is one, and it looks at nothing else. -/
namespace DriveBridge.Sense

/-- Where the descriptors end: where the length byte says, or before that where the data was cut
off. -/
def descriptorEnd (sense : Bytes) : Nat := 8 + min (sense.byte 7).toNat (sense.length - 8)

/-- Current or deferred sense data that announces descriptors. -/
def AnnouncesDescriptors (sense : Bytes) : Prop :=
  8 ≤ sense.length ∧ (sense.byte 0 = 0x72 ∨ sense.byte 0 = 0x73) ∧ sense.byte 7 ≠ 0

/-- Bytes of the descriptor that begins at a position: its header and as many as it declares, if it
is not cut off. Of the last one, the type may be all that is left. -/
def descriptorLength (sense : Bytes) (start : Nat) : Nat :=
  if start + 1 < descriptorEnd sense then
    min ((sense.byte (start + 1)).toNat + 2) (descriptorEnd sense - start)
  else 1

/-- These bytes are what the data holds of its first descriptor of a type. -/
structure IsFirstDescriptor (sense : Bytes) (type : UInt8) (number : Nat) (descriptor : Bytes) :
    Prop extends IsFirst sense type number where
  start : descriptorStart sense number < descriptorEnd sense
  stop : descriptorStart sense number + descriptor.length ≤ descriptorEnd sense
  length : descriptor.length = descriptorLength sense (descriptorStart sense number)
  slice : descriptor = (sense.drop (descriptorStart sense number)).take descriptor.length

section Walk

variable {sense : Bytes}

/-- Every step of the walk is one over a header at least. -/
theorem descriptorStart_add_le {number later : Nat} (h : number ≤ later) :
    descriptorStart sense number + 2 * (later - number) ≤ descriptorStart sense later := by
  induction h with
  | refl => simp
  | @step later h ih =>
      have hLater : number ≤ later := h
      rw [Nat.succ_eq_add_one, descriptorStart]
      omega

theorem lt_of_descriptorStart {number : Nat}
    (h : descriptorStart sense number < descriptorEnd sense) : number < 128 := by
  have hSteps := @descriptorStart_add_le sense _ _ (Nat.zero_le number)
  have hByte := (sense.byte 7).toNat_lt
  rw [descriptorStart] at hSteps
  unfold descriptorEnd at h
  omega

theorem fixedExtent_eq (hLong : 8 ≤ sense.length) :
    fixedExtent sense = sense.take (descriptorEnd sense) := by
  rw [fixedExtent, descriptorEnd, List.take_eq_take_iff]
  omega

theorem length_fixedExtent_eq (hLong : 8 ≤ sense.length) :
    (fixedExtent sense).length = descriptorEnd sense := by
  rw [length_fixedExtent, descriptorEnd]
  omega

/-- The search passes over no descriptor of the type. -/
theorem findDescriptor?_ne_none {type : UInt8} {region : Bytes} {number later : Nat}
    (hRegion : (fixedExtent sense).drop (descriptorStart sense number) = region)
    (hLater : number ≤ later)
    (hInside : descriptorStart sense later < (fixedExtent sense).length)
    (hNamed : sense.byte (descriptorStart sense later) = type) :
    findDescriptor? type region ≠ none := by
  fun_induction findDescriptor? type region generalizing number with
  | case1 =>
      have hSteps := @descriptorStart_add_le sense _ _ hLater
      have hEnd := List.drop_eq_nil_iff.mp hRegion
      omega
  | case2 => exact Option.some_ne_none _
  | case3 last hOther =>
      obtain ⟨-, hFirst, hRest⟩ := byte_of_drop_fixedExtent hRegion
      have hSteps := @descriptorStart_add_le sense _ _ hLater
      have hEnd := List.drop_eq_nil_iff.mp hRest
      have hSame : later = number := by omega
      rw [hSame, hFirst] at hNamed
      exact (hOther hNamed).elim
  | case4 => exact Option.some_ne_none _
  | case5 kind count rest hOther ih =>
      obtain ⟨-, hFirst, -⟩ := byte_of_drop_fixedExtent hRegion
      apply ih (drop_descriptorStart_succ hRegion)
      apply Nat.lt_of_le_of_ne hLater
      intro hSame
      rw [← hSame, hFirst] at hNamed
      exact hOther hNamed

theorem findDescriptor?_ne_nil {type : UInt8} {region : Bytes} :
    findDescriptor? type region ≠ some [] := by
  fun_induction findDescriptor? type region with
  | case1 | case2 | case3 | case4 => simp
  | case5 kind count rest hOther ih => exact ih

/-- What is cut out of the covered data is the descriptor, as far as it is there. -/
theorem slice_eq (hLong : 8 ≤ sense.length) {start : Nat} (hStart : start < descriptorEnd sense) :
    ((fixedExtent sense).drop start).take (((fixedExtent sense).byte (start + 1)).toNat + 2) =
      (sense.drop start).take (descriptorLength sense start) := by
  have hLength := length_fixedExtent_eq hLong
  have hCount : min (((fixedExtent sense).byte (start + 1)).toNat + 2)
      (descriptorEnd sense - start) = descriptorLength sense start := by
    unfold descriptorLength
    by_cases hNext : start + 1 < descriptorEnd sense
    · rw [if_pos hNext, byte_fixedExtent_of_covers (covers_iff.mpr (hLength ▸ hNext))]
    · rw [if_neg hNext, Bytes.byte_of_length_le (by omega), UInt8.toNat_zero]
      omega
  rw [← hCount, fixedExtent_eq hLong, List.drop_take, List.take_take]

theorem descriptorLength_le {start : Nat} (hStart : start < descriptorEnd sense) :
    start + descriptorLength sense start ≤ descriptorEnd sense := by
  unfold descriptorLength
  split <;> omega

end Walk

section Search

variable {sense : Bytes} {type : UInt8}

theorem descriptor?_of_announces (hAnnounces : AnnouncesDescriptors sense) :
    descriptor? sense type = findDescriptor? type (descriptors sense) := by
  obtain ⟨hLong, hFormat, -⟩ := hAnnounces
  unfold descriptor?
  rw [if_pos]
  rcases hFormat with hCurrent | hDeferred
  · rw [hCurrent]
    exact ⟨hLong, by decide⟩
  · rw [hDeferred]
    exact ⟨hLong, by decide⟩

theorem descriptors_eq_drop :
    descriptors sense = (fixedExtent sense).drop (descriptorStart sense 0) := by
  rw [fixedExtent, descriptorStart, List.drop_take]
  rfl

/-- What is found is the first descriptor of the type. -/
theorem exists_isFirstDescriptor {descriptor : Bytes}
    (hFound : descriptor? sense type = some descriptor) :
    AnnouncesDescriptors sense ∧ ∃ number, IsFirstDescriptor sense type number descriptor := by
  have hFormat := format_of_descriptor? hFound
  obtain ⟨number, hFirst, hSlice⟩ := exists_first_of_descriptor? hFound
  unfold descriptor? at hFound
  split at hFound
  next hLong =>
    have hLength := length_fixedExtent_eq hLong.1
    have hStart : descriptorStart sense number < descriptorEnd sense := by
      apply Nat.not_le.mp
      intro hPast
      rw [List.drop_eq_nil_of_le (hLength ▸ hPast), List.take_nil] at hSlice
      rw [hSlice] at hFound
      exact findDescriptor?_ne_nil hFound
    have hBegin := @descriptorStart_add_le sense _ _ (Nat.zero_le number)
    have hStop := descriptorLength_le hStart
    rw [slice_eq hLong.1 hStart] at hSlice
    have hTaken : descriptor.length = descriptorLength sense (descriptorStart sense number) := by
      rw [hSlice, List.length_take, List.length_drop]
      unfold descriptorEnd at hStop
      omega
    refine ⟨⟨hLong.1, by grind, ?_⟩, number, ?_⟩
    · intro hNone
      rw [descriptorStart] at hBegin
      rw [descriptorEnd, hNone] at hStart
      simp at hStart
      omega
    · exact {
        toIsFirst := hFirst
        start := hStart
        stop := hTaken ▸ hStop
        length := hTaken
        slice := hTaken ▸ hSlice }
  next => cases hFound

/-- Nothing of the data counts but the header and the descriptors. -/
theorem descriptor?_congr {other : Bytes} (hHeader : other.take 8 = sense.take 8)
    (hDescriptors : descriptors other = descriptors sense) :
    descriptor? other type = descriptor? sense type := by
  have hByte (bytes : Bytes) : bytes.byte 0 = Bytes.byte (bytes.take 8) 0 := by
    cases bytes <;> rfl
  have hLength := congrArg List.length hHeader
  rw [List.length_take, List.length_take] at hLength
  have hLong : 8 ≤ other.length ↔ 8 ≤ sense.length := by omega
  unfold descriptor?
  rw [hByte other, hHeader, ← hByte sense, hDescriptors]
  simp only [hLong]

end Search

/-- The search ends, within 128 descriptors. It finds something exactly if the data announces
descriptors and has one of the type, and what it finds is what the data holds of the first one.
Only the header and the descriptors count. -/
theorem readDescriptor_finds_first (sense : Bytes) (type : UInt8) :
    (∀ number, descriptorStart sense number < descriptorEnd sense → number < 128) ∧
    ∃ found, readDescriptor sense type = some found ∧
      (found ≠ none ↔ AnnouncesDescriptors sense ∧ ∃ number,
        descriptorStart sense number < descriptorEnd sense ∧
          sense.byte (descriptorStart sense number) = type) ∧
      (∀ descriptor, found = some descriptor →
        ∃ number, IsFirstDescriptor sense type number descriptor) ∧
      ∀ other : Bytes, other.take 8 = sense.take 8 → descriptors other = descriptors sense →
        readDescriptor other type = some found := by
  refine ⟨fun number => lt_of_descriptorStart, descriptor? sense type,
    readDescriptor_eq sense type, ⟨?_, ?_⟩, ?_, ?_⟩
  · intro hSome
    obtain ⟨descriptor, hFound⟩ := Option.ne_none_iff_exists'.mp hSome
    obtain ⟨hAnnounces, number, hFirst⟩ := exists_isFirstDescriptor hFound
    exact ⟨hAnnounces, number, hFirst.start, hFirst.named⟩
  · rintro ⟨hAnnounces, number, hStart, hNamed⟩
    rw [descriptor?_of_announces hAnnounces]
    rw [← length_fixedExtent_eq hAnnounces.1] at hStart
    exact findDescriptor?_ne_none descriptors_eq_drop.symm (Nat.zero_le number) hStart hNamed
  · intro descriptor hFound
    exact (exists_isFirstDescriptor hFound).2
  · intro other hHeader hDescriptors
    rw [readDescriptor_eq, descriptor?_congr hHeader hDescriptors]

end DriveBridge.Sense
