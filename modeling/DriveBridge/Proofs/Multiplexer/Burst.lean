import DriveBridge.Proofs.Multiplexer.Page

/-! Which damage the check finds. Two messages have the same check exactly if what they differ by
leaves nothing, and what is no longer than the remainder leaves itself, however many zeros follow. So
a burst of errors never goes unnoticed, unless it is longer than the check. -/
namespace DriveBridge.Multiplexer

namespace Crc

/-- A shift out of which nothing goes doubles the remainder. -/
theorem toNat_shift {remainder : UInt16} (h : remainder.toNat < 0x8000) (bit : Bool) :
    (shift remainder bit).toNat = 2 * remainder.toNat + bit.toNat := by
  have hTop : remainder &&& 0x8000 = 0 := by
    rw [top_eq_zero_iff]
    exact Nat.testBit_lt_two_pow (i := 15) h
  have hRoom : remainder.toNat <<< 1 % 2 ^ 16 = 2 ^ 1 * remainder.toNat := by
    rw [Nat.shiftLeft_eq]
    omega
  have hBit : (if bit then 1 else 0 : UInt16).toNat = bit.toNat := by
    cases bit <;> rfl
  have hLow : bit.toNat < 2 ^ 1 := by
    cases bit <;> decide
  simp only [shift, hTop, if_true]
  rw [UInt16.toNat_or, UInt16.toNat_shiftLeft, hBit]
  show remainder.toNat <<< 1 % 2 ^ 16 ||| bit.toNat = _
  rw [hRoom, ← Nat.two_pow_add_eq_or_of_lt hLow]

/-- As long as nothing goes out, nothing is left only of zeros. -/
theorem eq_false_of_foldl_shift {start : UInt16} {message : List Bool}
    (hRoom : (start.toNat + 1) <<< message.length ≤ 0x10000)
    (hZero : message.foldl shift start = 0) : start = 0 ∧ ∀ bit ∈ message, bit = false := by
  induction message generalizing start with
  | nil => exact ⟨hZero, List.forall_mem_nil _⟩
  | cons bit message ih =>
      rw [List.length_cons, Nat.shiftLeft_succ_inside] at hRoom
      have hDouble := Nat.le_trans Nat.le_shiftLeft hRoom
      have hNext := toNat_shift (by omega : start.toNat < 0x8000) bit
      have hBit := Bool.toNat_le bit
      have hRest : ((shift start bit).toNat + 1) <<< message.length ≤ 0x10000 := by
        apply Nat.le_trans _ hRoom
        rw [Nat.shiftLeft_eq, Nat.shiftLeft_eq]
        apply Nat.mul_le_mul_right
        omega
      obtain ⟨hShifted, hLater⟩ := ih hRest hZero
      rw [hShifted, UInt16.toNat_zero] at hNext
      have hStart : start.toNat = 0 := by omega
      have hFirst : bit.toNat = 0 := by omega
      exact ⟨UInt16.toNat_inj.mp hStart,
        List.forall_mem_cons.mpr ⟨Bool.toNat_eq_zero.mp hFirst, hLater⟩⟩

/-- A bit that is not a one where there are ones only up to a position. -/
theorem eq_false_of_getElem? {message : List Bool} {bound : Nat}
    (hOnes : ∀ position, message[position]? = some true → position < bound) :
    ∀ bit ∈ message.drop bound, bit = false := by
  intro bit hMember
  obtain ⟨index, hIndex⟩ := List.mem_iff_getElem?.mp hMember
  rw [List.getElem?_drop] at hIndex
  cases bit with
  | false => rfl
  | true => exact absurd (hOnes _ hIndex) (by omega)

/-- A message whose ones are within 16 consecutive bits leaves something, unless it has none. The
zeros before them leave the remainder at 0, and those after them lose nothing of it. -/
theorem eq_false_of_window {message : List Bool} {start : Nat}
    (hOnes : ∀ position, message[position]? = some true →
      start ≤ position ∧ position < start + 16)
    (hZero : message.foldl shift 0 = 0) : ∀ bit ∈ message, bit = false := by
  induction start generalizing message with
  | zero =>
      have hTail := eq_false_of_getElem? fun position hOne => (hOnes position hOne).2
      rw [Nat.zero_add] at hTail
      rw [← List.take_append_drop 16 message, List.foldl_append,
        List.eq_replicate_of_mem hTail] at hZero
      have hRoom : ((0 : UInt16).toNat + 1) <<< (message.take 16).length ≤ 0x10000 := by
        rw [UInt16.toNat_zero, Nat.zero_add, Nat.shiftLeft_eq, Nat.one_mul]
        exact Nat.pow_le_pow_right (n := 2) (j := 16) (by decide) (List.length_take_le 16 message)
      have hHead := (eq_false_of_foldl_shift hRoom (eq_zero_of_foldl_shift hZero)).2
      rw [← List.take_append_drop 16 message]
      exact List.forall_mem_append.mpr ⟨hHead, hTail⟩
  | succ start ih =>
      cases message with
      | nil => exact List.forall_mem_nil _
      | cons bit message =>
          cases bit with
          | true => exact absurd (hOnes 0 rfl).1 (by omega)
          | false =>
              refine List.forall_mem_cons.mpr ⟨rfl, ih (fun position hOne => ?_) hZero⟩
              have hNext := hOnes (position + 1) hOne
              omega

/-- The bit of a message at a position. The bits of a byte count from the most significant one. -/
def bitAt (message : Bytes) (position : Nat) : Bool :=
  (message.byte (position / 8)).toNat.testBit (7 - position % 8)

theorem bits_eq (byte : UInt8) :
    bits byte = (List.range 8).map fun index => byte.toNat.testBit (7 - index) := by
  revert byte
  exact forall_byte (by decide +kernel)

theorem getElem?_flatMap_bits {message : Bytes} {position : Nat}
    (h : position < 8 * message.length) :
    (message.flatMap bits)[position]? = some (bitAt message position) := by
  induction message generalizing position with
  | nil => exact (Nat.not_lt_zero _ h).elim
  | cons byte message ih =>
      rw [List.flatMap_cons, bits_eq]
      by_cases hFirst : position < 8
      · rw [List.getElem?_append_left (by simpa using hFirst)]
        simp [bitAt, Bytes.byte, hFirst, Nat.div_eq_of_lt hFirst, Nat.mod_eq_of_lt hFirst]
      · have hRest : position - 8 < 8 * message.length := by
          rw [List.length_cons] at h
          omega
        have hByte : position / 8 = (position - 8) / 8 + 1 := by omega
        have hBit : position % 8 = (position - 8) % 8 := by omega
        rw [List.getElem?_append_right (by simpa using hFirst)]
        simp [ih hRest, bitAt, Bytes.byte, hByte, hBit]

/-- Messages of one length are the same if their bits are. -/
theorem eq_of_bitAt {first second : Bytes} (hLength : first.length = second.length)
    (h : ∀ position < 8 * first.length, bitAt first position = bitAt second position) :
    first = second := by
  apply Bytes.ext_byte hLength
  intro index hIndex
  apply UInt8.toNat_inj.mp
  apply Nat.eq_of_testBit_eq
  intro bit
  by_cases hBit : bit < 8
  · have hPosition := h (8 * index + (7 - bit)) (by omega)
    have hByte : (8 * index + (7 - bit)) / 8 = index := by omega
    have hPlace : 7 - (8 * index + (7 - bit)) % 8 = bit := by omega
    simpa only [bitAt, hByte, hPlace] using hPosition
  · have hHigh (byte : UInt8) : byte.toNat.testBit bit = false := by
      apply Nat.testBit_lt_two_pow
      exact Nat.lt_of_lt_of_le byte.toNat_lt (Nat.pow_le_pow_right (by decide) (by omega))
    rw [hHigh, hHigh]

/-- The bits in which two messages differ, as ones. -/
def difference (first second : Bytes) : List Bool :=
  List.zipWith xor (first.flatMap bits) (second.flatMap bits)

section Difference

variable {first second : Bytes} {position : Nat}

theorem length_difference (hLength : first.length = second.length) :
    (difference first second).length = 8 * first.length := by
  rw [difference, List.length_zipWith, length_flatMap_bits, length_flatMap_bits, hLength,
    Nat.min_self]

theorem getElem?_difference (hLength : first.length = second.length)
    (h : position < 8 * first.length) :
    (difference first second)[position]? =
      some (bitAt first position ^^ bitAt second position) := by
  have hFirst := getElem?_flatMap_bits h
  have hSecond := getElem?_flatMap_bits (hLength ▸ h)
  exact List.getElem?_zipWith_eq_some.mpr ⟨_, _, hFirst, hSecond, rfl⟩

theorem bitAt_ne_of_difference (hLength : first.length = second.length)
    (h : (difference first second)[position]? = some true) :
    position < 8 * first.length ∧ bitAt first position ≠ bitAt second position := by
  have hInside := (List.getElem?_eq_some_iff.mp h).1
  rw [length_difference hLength] at hInside
  rw [getElem?_difference hLength hInside] at h
  exact ⟨hInside, by simpa using h⟩

/-- Messages with the same check differ by something that leaves nothing. -/
theorem foldl_shift_difference {checked : Bool} (hLength : first.length = second.length)
    (hSame : crc16 first checked = crc16 second checked) :
    (difference first second).foldl shift 0 = 0 := by
  have hAsItIs : crc16 first true = crc16 second true := by
    cases checked with
    | true => exact hSame
    | false =>
        rw [crc16_false_eq, crc16_false_eq] at hSame
        exact remainder_zeros_injective hSame
  have hBits : (first.flatMap bits).length = (second.flatMap bits).length := by
    rw [length_flatMap_bits, length_flatMap_bits, hLength]
  have hLinear := foldl_shift_xor hBits 0 0
  rwa [← crc16_true_eq, ← crc16_true_eq, hAsItIs, UInt16.xor_self, UInt16.xor_self] at hLinear

end Difference

end Crc

/-- Two messages of one length that differ, and only within so many bits from a position on. -/
structure Burst (start count : Nat) (first second : Bytes) : Prop where
  length : first.length = second.length
  ne : first ≠ second
  inside : ∀ position < 8 * first.length,
    Crc.bitAt first position ≠ Crc.bitAt second position →
      start ≤ position ∧ position < start + count

theorem burst_iff {start count : Nat} {first second : Bytes} :
    Burst start count first second ↔ first.length = second.length ∧ first ≠ second ∧
      ∀ position < 8 * first.length, Crc.bitAt first position ≠ Crc.bitAt second position →
        start ≤ position ∧ position < start + count :=
  ⟨fun burst => ⟨burst.length, burst.ne, burst.inside⟩, fun h => ⟨h.1, h.2.1, h.2.2⟩⟩

instance (start count : Nat) (first second : Bytes) : Decidable (Burst start count first second) :=
  decidable_of_iff' _ burst_iff

theorem Burst.crc16_ne {start : Nat} {first second : Bytes} (burst : Burst start 16 first second)
    (checked : Bool) : Crc.crc16 first checked ≠ Crc.crc16 second checked := by
  intro hSame
  have hNone := Crc.eq_false_of_window (fun position hOne => by
    obtain ⟨hInside, hNe⟩ := Crc.bitAt_ne_of_difference burst.length hOne
    exact burst.inside position hInside hNe) (Crc.foldl_shift_difference burst.length hSame)
  apply burst.ne
  apply Crc.eq_of_bitAt burst.length
  intro position hPosition
  have hBit := hNone _ (List.mem_of_getElem? (Crc.getElem?_difference burst.length hPosition))
  simpa using hBit

/-- Messages that differ in two neighbouring bytes at most differ by a burst of 16 bits. -/
theorem burst_of_bytes {first second : Bytes} {index : Nat} (hLength : first.length = second.length)
    (hNe : first ≠ second)
    (hBytes : ∀ position, first.byte position ≠ second.byte position →
      position = index ∨ position = index + 1) :
    Burst (8 * index) 16 first second where
  length := hLength
  ne := hNe
  inside := by
    intro position _ hDiffer
    have hByte := hBytes (position / 8) fun hSame => hDiffer (by rw [Crc.bitAt, Crc.bitAt, hSame])
    omega

/-- A burst of up to 16 bits changes the check of every message, whether or not the message ends with
its check, and so it spoils every page that passes. -/
theorem bursts_found :
    (∀ start first second, Burst start 16 first second →
      ∀ checked, Crc.crc16 first checked ≠ Crc.crc16 second checked) ∧
    ∀ start (page damaged : Page), page.crcOk = true → Burst start 16 page.raw damaged.raw →
      damaged.crcOk = false := by
  refine ⟨fun start first second burst => burst.crc16_ne, ?_⟩
  intro start page damaged hPasses burst
  rw [Page.crcOk, beq_iff_eq] at hPasses
  rw [Page.crcOk, beq_eq_false_iff_ne]
  intro hResidue
  exact burst.crc16_ne false (hPasses.trans hResidue.symm)

/-- Sixteen bits across three bytes are inverted, and the page for one drive is made to name
another. -/
theorem other_drive_spoils :
    Burst 4 16 [0x12, 0x34, 0x56] [0x1d, 0xcb, 0xa6] ∧
      Crc.crc16 [0x12, 0x34, 0x56] true ≠ Crc.crc16 [0x1d, 0xcb, 0xa6] true ∧
        let page := revised Page.blank 2
        let damaged := page.setDriveSelect 3
        page.crcOk = true ∧ Burst 0 16 page.raw damaged.raw ∧ damaged.driveSelect = 3 ∧
          damaged.crcOk = false := by
  have hBits : Burst 4 16 [0x12, 0x34, 0x56] [0x1d, 0xcb, 0xa6] := by decide
  refine ⟨hBits, bursts_found.1 _ _ _ hBits true, ?_⟩
  intro page damaged
  have hPasses : page.crcOk = true := crcOk_revised Page.blank 2
  have hDrive : damaged.driveSelect = 3 := page.driveSelect_setDriveSelect 3
  have hNe : page.raw ≠ damaged.raw := by
    intro hSame
    have hFound : page.driveSelect = damaged.driveSelect :=
      congrArg (fun raw => Bytes.le32At raw 0) hSame
    rw [driveSelect_revised, hDrive] at hFound
    exact absurd hFound (by decide)
  have hStart : ∀ position < 4, (Bytes.le32 2).byte position ≠ (Bytes.le32 3).byte position →
      position = 0 ∨ position = 1 := by
    decide
  have hBurst : Burst (8 * 0) 16 page.raw damaged.raw := by
    apply burst_of_bytes (by rw [page.length_raw, damaged.length_raw]) hNe
    intro position hDiffer
    rw [page.byte_setDriveSelect] at hDiffer
    by_cases hNumber : position < 4
    · rw [if_pos hNumber, (revised_reroutes Page.blank 2).drive position hNumber] at hDiffer
      exact hStart position hNumber hDiffer
    · rw [if_neg hNumber] at hDiffer
      exact (hDiffer rfl).elim
  exact ⟨hPasses, hBurst, hDrive, bursts_found.2 _ _ _ hPasses hBurst⟩

/-- One bit more, and a burst may be the polynomial, which leaves nothing. -/
example : Crc.crc16 [0x01, 0x8b, 0xb7] true = Crc.crc16 [0, 0, 0] true := by decide +kernel

end DriveBridge.Multiplexer
