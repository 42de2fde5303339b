import DriveBridge.Multiplexer.Crc

/-! The algebra of the check. A shift is linear in exclusive or, and so is the remainder of a
message; the two bytes at its end enter it as they are. Hence a message that is followed by its
check leaves nothing, and no other two bytes do that. -/
namespace DriveBridge.Multiplexer.Crc

theorem top_eq_zero_iff (remainder : UInt16) :
    remainder &&& 0x8000 = 0 ↔ remainder.toBitVec.getLsbD 15 = false := by
  have hTop : (remainder &&& 0x8000).toBitVec =
      if remainder.toBitVec.getLsbD 15 then BitVec.twoPow 16 15 else 0#16 :=
    BitVec.and_twoPow remainder.toBitVec 15
  rw [← UInt16.toBitVec_inj, hTop]
  cases remainder.toBitVec.getLsbD 15 <;> decide

/-- A bit of a remainder after a shift: the one below it or the one that came in, and that of the
polynomial where the top bit went out. -/
theorem getLsbD_shift (remainder : UInt16) (bit : Bool) {position : Nat} (h : position < 16) :
    (shift remainder bit).toBitVec.getLsbD position =
      ((if position = 0 then bit else remainder.toBitVec.getLsbD (position - 1)) ^^
        (remainder.toBitVec.getLsbD 15 && polynomial.toBitVec.getLsbD position)) := by
  have hBit : (if bit then 1 else 0 : UInt16).toBitVec.getLsbD position =
      (decide (position = 0) && bit) := by
    cases bit <;> simp [h]
  have hShifted : (remainder <<< 1 ||| (if bit then 1 else 0)).toBitVec.getLsbD position =
      if position = 0 then bit else remainder.toBitVec.getLsbD (position - 1) := by
    rw [UInt16.toBitVec_or, BitVec.getLsbD_or, hBit, UInt16.toBitVec_shiftLeft]
    simp only [UInt16.toBitVec_ofNat, BitVec.ofNat_eq_ofNat, BitVec.reduceMod,
      BitVec.shiftLeft_eq', BitVec.toNat_ofNat, Nat.reducePow, Nat.one_mod,
      BitVec.getLsbD_shiftLeft, h]
    grind
  unfold shift
  simp only [top_eq_zero_iff]
  cases hCase : remainder.toBitVec.getLsbD 15 <;> simp [hShifted, -UInt16.toBitVec_or]

theorem eq_of_getLsbD {first second : UInt16}
    (h : ∀ position < 16, first.toBitVec.getLsbD position = second.toBitVec.getLsbD position) :
    first = second :=
  UInt16.toBitVec_inj.mp (BitVec.eq_of_getLsbD_eq h)

/-- A shift is linear. -/
theorem shift_xor (first second : UInt16) (bit other : Bool) :
    shift (first ^^^ second) (bit ^^ other) = shift first bit ^^^ shift second other := by
  refine eq_of_getLsbD fun position hPosition => ?_
  simp only [UInt16.toBitVec_xor, BitVec.getLsbD_xor, getLsbD_shift _ _ hPosition,
    Bool.and_xor_distrib_right]
  split <;> simp only [Bool.xor_assoc, Bool.xor_left_comm]

/-- A shift that brings in nothing loses nothing, as the polynomial is odd. -/
theorem eq_zero_of_shift {remainder : UInt16} (h : shift remainder false = 0) : remainder = 0 := by
  have hBits : ∀ position < 16, (shift remainder false).toBitVec.getLsbD position = false := by
    simp [h]
  have hTop : remainder.toBitVec.getLsbD 15 = false := by
    have hLowest := hBits 0 (by decide)
    have hOdd : polynomial.toBitVec.getLsbD 0 = true := by decide
    rw [getLsbD_shift _ _ (by decide), hOdd, if_pos rfl, Bool.false_xor, Bool.and_true] at hLowest
    exact hLowest
  refine eq_of_getLsbD fun position hPosition => ?_
  by_cases hLast : position = 15
  · rw [hLast, hTop]
    rfl
  · have hNext := hBits (position + 1) (by omega)
    rw [getLsbD_shift _ _ (by omega), hTop] at hNext
    simpa using hNext

/-- The remainder of a message that is changed changes by that of the change. -/
theorem foldl_shift_xor {first second : List Bool} (hLength : first.length = second.length)
    (start other : UInt16) :
    (List.zipWith xor first second).foldl shift (start ^^^ other) =
      first.foldl shift start ^^^ second.foldl shift other := by
  induction first generalizing second start other with
  | nil =>
      cases second with
      | nil => rfl
      | cons => cases hLength
  | cons bit first ih =>
      cases second with
      | nil => cases hLength
      | cons bit' second =>
          rw [List.zipWith_cons_cons, List.foldl_cons, List.foldl_cons, List.foldl_cons, shift_xor]
          exact ih (Nat.succ.inj hLength) _ _

/-- The remainder of a message is that of its bits on their own, and that of where it starts
from. -/
theorem foldl_shift_eq_xor (first second : UInt16) (message : List Bool) :
    message.foldl shift (first ^^^ second) =
      (List.replicate message.length false).foldl shift first ^^^ message.foldl shift second := by
  have hSame : List.zipWith xor (List.replicate message.length false) message = message := by
    apply List.ext_getElem <;> simp
  rw [← foldl_shift_xor List.length_replicate, hSame]

theorem flatMap_bits_zeros (count : Nat) :
    (Bytes.zeros count).flatMap bits = List.replicate (8 * count) false := by
  induction count with
  | zero => rfl
  | succ count ih => exact congrArg (bits 0 ++ ·) ih

theorem length_flatMap_bits (message : Bytes) :
    (message.flatMap bits).length = 8 * message.length := by
  induction message with
  | nil => rfl
  | cons byte message ih =>
      rw [List.flatMap_cons, List.length_append, ih, List.length_cons, Nat.mul_succ, Nat.add_comm]
      rfl

theorem remainder_eq_xor (start : UInt16) (message : Bytes) :
    remainder start message =
      remainder start (Bytes.zeros message.length) ^^^ remainder 0 message := by
  unfold remainder
  rw [flatMap_bits_zeros, ← length_flatMap_bits, ← foldl_shift_eq_xor, UInt16.xor_zero]

theorem forall_byte {p : UInt8 → Prop} (h : ∀ value : Fin 256, p (UInt8.ofNat value))
    (byte : UInt8) : p byte := by
  have hByte := h ⟨byte.toNat, byte.toNat_lt⟩
  rwa [UInt8.ofNat_toNat] at hByte

theorem remainder_byte (byte : UInt8) : remainder 0 [byte] = byte.toUInt16 := by
  revert byte
  exact forall_byte (by decide +kernel)

theorem remainder_byte_zero (byte : UInt8) :
    remainder byte.toUInt16 [0] = byte.toUInt16 <<< 8 := by
  revert byte
  exact forall_byte (by decide +kernel)

/-- Two bytes have themselves as their remainder. -/
theorem remainder_be16 (word : UInt16) : remainder 0 (Bytes.be16 word) = word := by
  have hSplit : Bytes.be16 word = [(word >>> 8).toUInt8] ++ [word.toUInt8] := rfl
  rw [hSplit, remainder_append, remainder_byte, remainder_eq_xor]
  have hLow : Bytes.zeros [word.toUInt8].length = [0] := rfl
  rw [hLow, remainder_byte_zero, remainder_byte]
  refine eq_of_getLsbD fun position hPosition => ?_
  simp only [UInt16.toBitVec_xor, UInt16.toBitVec_shiftLeft, UInt8.toBitVec_toUInt16,
    UInt16.toBitVec_toUInt8, UInt16.toBitVec_shiftRight, UInt16.toBitVec_ofNat,
    BitVec.ofNat_eq_ofNat, BitVec.reduceMod, BitVec.ushiftRight_eq', BitVec.toNat_ofNat,
    Nat.reducePow, Nat.reduceMod, BitVec.shiftLeft_eq', BitVec.getLsbD_xor,
    BitVec.getLsbD_shiftLeft, BitVec.getLsbD_setWidth, BitVec.getLsbD_ushiftRight]
  grind

theorem eq_zero_of_foldl_shift {start : UInt16} {count : Nat}
    (h : (List.replicate count false).foldl shift start = 0) : start = 0 := by
  induction count generalizing start with
  | zero => exact h
  | succ count ih => exact eq_zero_of_shift (ih h)

/-- Zeros at the end of a message keep a remainder that there is. -/
theorem eq_zero_of_remainder_zeros {start : UInt16} {count : Nat}
    (h : remainder start (Bytes.zeros count) = 0) : start = 0 := by
  rw [remainder, flatMap_bits_zeros] at h
  exact eq_zero_of_foldl_shift h

/-- Zeros at the end of a message keep different remainders apart. -/
theorem remainder_zeros_injective {first second : UInt16} {count : Nat}
    (h : remainder first (Bytes.zeros count) = remainder second (Bytes.zeros count)) :
    first = second := by
  simp only [remainder, flatMap_bits_zeros] at h
  apply UInt16.xor_eq_zero_iff.mp
  apply @eq_zero_of_foldl_shift _ (8 * count)
  rw [foldl_shift_eq_xor, List.length_replicate, h, UInt16.xor_self]

theorem remainder_zeros (count : Nat) : remainder 0 (Bytes.zeros count) = 0 := by
  induction count with
  | zero => rfl
  | succ count ih => exact ih

theorem crc16_true_eq (message : Bytes) :
    crc16 message true = (message.flatMap bits).foldl shift 0 := by
  rw [crc16, if_pos rfl, List.append_nil]
  rfl

/-- The check of a message that is taken as it is determines that of the message with two zero bytes
after it. -/
theorem crc16_false_eq (message : Bytes) :
    crc16 message false = remainder (crc16 message true) (Bytes.zeros 2) := by
  rw [crc16, crc16, if_pos rfl, List.append_nil]
  exact remainder_append 0 message [0, 0]

/-- Two bytes at the end enter the check of a message that is taken as it is. -/
theorem crc16_append_be16 (message : Bytes) (word : UInt16) :
    crc16 (message ++ Bytes.be16 word) true = crc16 message false ^^^ word := by
  rw [crc16_false_eq, crc16, crc16, if_pos rfl, List.append_nil, List.append_nil, remainder_append,
    remainder_eq_xor, remainder_be16]
  rfl

/-- Two zero bytes at the end of a message make no difference to whether its check is 0. -/
theorem crc16_eq_zero_iff (message : Bytes) : crc16 message false = 0 ↔ crc16 message true = 0 := by
  rw [crc16_false_eq]
  constructor
  · exact eq_zero_of_remainder_zeros
  · intro hZero
    rw [hZero]
    exact remainder_zeros 2

/-- The check of a message that ends in two bytes is 0 exactly if they are the check of what is
before them. -/
theorem crc16_append_eq_zero_iff (message : Bytes) (word : UInt16) :
    crc16 (message ++ Bytes.be16 word) false = 0 ↔ word = crc16 message false := by
  rw [crc16_eq_zero_iff, crc16_append_be16, UInt16.xor_eq_zero_iff, eq_comm]

end DriveBridge.Multiplexer.Crc
