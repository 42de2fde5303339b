/-! Byte strings are lists, so that cuts and concatenations are the list ones. A word is
written as the list of its bytes; a buffer is written by laying one list over another. -/
namespace DriveBridge

abbrev Bytes := List UInt8

namespace Bytes

def zeros (count : Nat) : Bytes := List.replicate count 0

/-- The byte at a position, 0 past the end. -/
def byte (bytes : Bytes) (position : Nat) : UInt8 := bytes.getD position 0

/-- `source` written over the start of `target`, as far as both reach. The length of the
target never changes. -/
def overlay (source target : Bytes) : Bytes :=
  source.take target.length ++ target.drop source.length

/-- `source` written over `target` from `offset` on. The caller provides the room. -/
def splice (source : Bytes) (offset : Nat) (target : Bytes) : Bytes :=
  target.take offset ++ overlay source (target.drop offset)

/-- Stores a word at the start of a buffer. Nothing is stored where the word does not fit. -/
def store? (word buffer : Bytes) : Option Bytes :=
  if word.length ≤ buffer.length then some (overlay word buffer) else none

def be16 (value : UInt16) : Bytes := [(value >>> 8).toUInt8, value.toUInt8]

/-- The low 24 bits, most significant byte first. -/
def be24 (value : UInt32) : Bytes :=
  [(value >>> 16).toUInt8, (value >>> 8).toUInt8, value.toUInt8]

def be32 (value : UInt32) : Bytes :=
  [(value >>> 24).toUInt8, (value >>> 16).toUInt8, (value >>> 8).toUInt8, value.toUInt8]

def le16 (value : UInt16) : Bytes := [value.toUInt8, (value >>> 8).toUInt8]

def le32 (value : UInt32) : Bytes :=
  [value.toUInt8, (value >>> 8).toUInt8, (value >>> 16).toUInt8, (value >>> 24).toUInt8]

/-- The 16-bit word at a position, least significant byte first. -/
def le16At (bytes : Bytes) (position : Nat) : UInt16 :=
  (bytes.byte position).toUInt16 ||| (bytes.byte (position + 1)).toUInt16 <<< 8

/-- The 32-bit word at a position, least significant byte first. -/
def le32At (bytes : Bytes) (position : Nat) : UInt32 :=
  (bytes.byte position).toUInt32 ||| (bytes.byte (position + 1)).toUInt32 <<< 8 |||
    (bytes.byte (position + 2)).toUInt32 <<< 16 ||| (bytes.byte (position + 3)).toUInt32 <<< 24

/-- The 16-bit word at a position, most significant byte first. -/
def be16At (bytes : Bytes) (position : Nat) : UInt16 :=
  (bytes.byte position).toUInt16 <<< 8 ||| (bytes.byte (position + 1)).toUInt16

@[simp] theorem length_zeros (count : Nat) : (zeros count).length = count := by
  simp [zeros]

@[simp] theorem length_overlay (source target : Bytes) :
    (overlay source target).length = target.length := by
  simp [overlay]
  omega

theorem length_splice (source target : Bytes) (offset : Nat) (h : offset ≤ target.length) :
    (splice source offset target).length = target.length := by
  simp [splice]
  omega

@[simp] theorem overlay_nil (target : Bytes) : overlay [] target = target := by
  simp [overlay]

/-- A cut of the target written back leaves the target as it was. -/
@[simp] theorem overlay_take (target : Bytes) (count : Nat) :
    overlay (target.take count) target = target := by
  rw [overlay, List.take_take, List.length_take, Nat.min_comm]
  by_cases h : count ≤ target.length
  · rw [Nat.min_eq_left h, List.take_append_drop]
  · have h' : target.length ≤ count := by omega
    simp [Nat.min_eq_right h']

theorem overlay_of_length_le {source target : Bytes} (h : source.length ≤ target.length) :
    overlay source target = source ++ target.drop source.length := by
  rw [overlay, List.take_of_length_le h]

/-- What is laid over at least as much of the target hides what was laid there before. -/
theorem overlay_overlay {first second : Bytes} (h : first.length ≤ second.length)
    (target : Bytes) : overlay second (overlay first target) = overlay second target := by
  have hRest : (overlay first target).drop second.length = target.drop second.length := by
    rcases Nat.le_total first.length target.length with hFits | hLong
    · rw [overlay_of_length_le hFits, List.drop_append, List.drop_of_length_le h, List.drop_drop,
        Nat.add_sub_cancel' h, List.nil_append]
    · have hPast := Nat.le_trans hLong h
      rw [List.drop_of_length_le (by rwa [length_overlay]), List.drop_of_length_le hPast]
  rw [overlay, length_overlay, hRest]
  rfl

theorem overlay_zeros (source : Bytes) (size : Nat) :
    overlay source (zeros size) = source.take size ++ zeros (size - source.length) := by
  rw [overlay, length_zeros, zeros, List.drop_replicate]
  rfl

theorem take_zeros {count size : Nat} (h : count ≤ size) : (zeros size).take count = zeros count := by
  rw [zeros, List.take_replicate, Nat.min_eq_left h, zeros]

theorem zeros_append (first second : Nat) : zeros first ++ zeros second = zeros (first + second) :=
  List.replicate_append_replicate

/-- What ends within a part of a buffer leaves the rest as it is. -/
theorem overlay_append {source target : Bytes} (h : source.length ≤ target.length) (rest : Bytes) :
    overlay source (target ++ rest) = overlay source target ++ rest := by
  have hLonger : source.length ≤ (target ++ rest).length := by
    rw [List.length_append]
    exact Nat.le_add_right_of_le h
  rw [overlay_of_length_le h, overlay_of_length_le hLonger, List.drop_append_of_le_length h,
    List.append_assoc]

/-- Data that fills the start of a cleared buffer, through a cleared one of less length. -/
theorem overlay_overlay_zeros (source : Bytes) {count size : Nat} (h : count ≤ size) :
    overlay (overlay source (zeros count)) (zeros size) =
      source.take count ++ zeros (size - (source.take count).length) := by
  have hWithin : (overlay source (zeros count)).length ≤ (zeros size).length := by
    rwa [length_overlay, length_zeros, length_zeros]
  have hRest : count - source.length + (size - count) = size - min count source.length := by
    omega
  rw [overlay_of_length_le hWithin, length_overlay, length_zeros, overlay_zeros, List.append_assoc,
    List.length_take, ← hRest, ← zeros_append]
  rw [zeros, zeros, zeros, List.drop_replicate]

theorem byte_zeros (count position : Nat) : (zeros count).byte position = 0 := by
  rw [byte, zeros, List.getD_eq_getElem?_getD, List.getElem?_replicate]
  split <;> rfl

/-- A buffer takes on the bytes that are written into it, and keeps the others. -/
theorem byte_splice {source target : Bytes} {offset : Nat}
    (h : offset + source.length ≤ target.length) (position : Nat) :
    (splice source offset target).byte position =
      if offset ≤ position ∧ position < offset + source.length then
        source.byte (position - offset)
      else target.byte position := by
  have hFits : source.length ≤ (target.drop offset).length := by
    rw [List.length_drop]
    omega
  simp only [splice, overlay, byte, List.getD_eq_getElem?_getD, List.take_of_length_le hFits]
  grind

theorem byte_of_length_le {bytes : Bytes} {position : Nat} (h : bytes.length ≤ position) :
    bytes.byte position = 0 := by
  rw [byte, List.getD_eq_getElem?_getD, List.getElem?_eq_none h, Option.getD_none]

/-- The start of a byte string has the bytes that the whole has. -/
theorem byte_of_prefix {front bytes : Bytes} (hFront : front <+: bytes) {position : Nat}
    (h : position < front.length) : front.byte position = bytes.byte position := by
  obtain ⟨rest, rfl⟩ := hFront
  simp only [byte, List.getD_eq_getElem?_getD, List.getElem?_append_left h]

/-- A byte other than the one that stands for none is there. -/
theorem byte_eq_iff {bytes : Bytes} {position : Nat} {value : UInt8} (hValue : value ≠ 0) :
    bytes.byte position = value ↔ bytes[position]? = some value := by
  rw [byte, List.getD_eq_getElem?_getD, Option.getD_eq_iff]
  exact or_iff_left fun hNone => hValue hNone.2.symm

/-- One byte of room takes on the first byte laid over it. -/
theorem byte_overlay_singleton_eq_iff {source : Bytes} {value other : UInt8}
    (hValue : value ≠ other) :
    (overlay source [other]).byte 0 = value ↔ source[0]? = some value := by
  cases source with
  | nil => exact iff_of_false (fun hOther => hValue hOther.symm) nofun
  | cons first rest => exact Option.some_inj.symm

/-- A cleared buffer takes on the bytes laid over it, with zeros where they end early. -/
theorem byte_overlay_zeros {source : Bytes} {size position : Nat} (h : position < size) :
    (overlay source (zeros size)).byte position = source.byte position := by
  simp only [byte, overlay, zeros, List.length_replicate, List.getD_eq_getElem?_getD]
  by_cases hSource : position < source.length
  · rw [List.getElem?_append_left (by simp; omega), List.getElem?_take_of_lt h]
  · rw [List.getElem?_eq_none (by omega : source.length ≤ position)]
    rw [List.getElem?_append_right (by simp; omega)]
    simp only [List.getElem?_drop, List.length_take, List.getElem?_replicate]
    split <;> rfl

/-- What is laid over the start of a longer buffer is found there. -/
theorem take_overlay {source target : Bytes} (h : source.length ≤ target.length) :
    (overlay source target).take source.length = source := by
  rw [overlay, List.take_of_length_le h, List.take_left]

/-- Byte strings of one length are the same if their bytes are. -/
theorem ext_byte {first second : Bytes} (hLength : first.length = second.length)
    (h : ∀ position < second.length, first.byte position = second.byte position) :
    first = second := by
  refine List.ext_getElem hLength fun position hFirst hSecond => ?_
  have hByte := h position hSecond
  simp only [byte, List.getD_eq_getElem?_getD, List.getElem?_eq_getElem hFirst,
    List.getElem?_eq_getElem hSecond, Option.getD_some] at hByte
  exact hByte

theorem overlay_zeros_eq_zeros_iff {source : Bytes} {size : Nat} :
    overlay source (zeros size) = zeros size ↔
      ∀ position < size, source.byte position = 0 := by
  constructor
  · intro hZeros position hPosition
    rw [← byte_overlay_zeros hPosition, hZeros, byte_zeros]
  · intro hBytes
    refine ext_byte (length_overlay _ _) fun position hPosition => ?_
    rw [length_zeros] at hPosition
    rw [byte_overlay_zeros hPosition, hBytes position hPosition, byte_zeros]

/-- The four bytes of a word, each shifted to its place, make up the word. -/
theorem or_bytes (word : UInt32) :
    word.toUInt8.toUInt32 ||| (word >>> 8).toUInt8.toUInt32 <<< 8 |||
      (word >>> 16).toUInt8.toUInt32 <<< 16 ||| (word >>> 24).toUInt8.toUInt32 <<< 24 = word := by
  refine UInt32.toBitVec_inj.mp (BitVec.eq_of_getLsbD_eq fun position hPosition => ?_)
  simp only [UInt32.toBitVec_or, UInt32.toBitVec_shiftLeft, UInt32.toBitVec_shiftRight,
    UInt8.toBitVec_toUInt32, UInt32.toBitVec_toUInt8, UInt32.toBitVec_ofNat, BitVec.getLsbD_or,
    BitVec.getLsbD_setWidth, BitVec.ofNat_eq_ofNat, BitVec.reduceMod, BitVec.ushiftRight_eq',
    BitVec.toNat_ofNat, Nat.reducePow, Nat.reduceMod, BitVec.shiftLeft_eq',
    BitVec.getLsbD_shiftLeft, BitVec.getLsbD_ushiftRight]
  grind

/-- The bytes of a length that is written as a word, most significant one first. -/
theorem be32_toUInt32 (length : Nat) : be32 length.toUInt32 =
    [(length / 0x1000000).toUInt8, (length / 0x10000).toUInt8, (length / 0x100).toUInt8,
      length.toUInt8] := by
  simp only [be32, List.cons.injEq, ← UInt8.toNat_inj]
  simp [Nat.shiftRight_eq_div_pow]
  omega

/-- See `be32_toUInt32`. -/
theorem be24_toUInt32 (length : Nat) : be24 length.toUInt32 =
    [(length / 0x10000).toUInt8, (length / 0x100).toUInt8, length.toUInt8] :=
  (List.cons.inj (be32_toUInt32 length)).2

theorem be32_inj {first second : UInt32} (h : be32 first = be32 second) : first = second := by
  simp only [be32, List.cons.injEq] at h
  obtain ⟨h24, h16, h8, h0, -⟩ := h
  rw [← or_bytes first, ← or_bytes second, h24, h16, h8, h0]

/-- Words that are written one after the other are read back by their index. -/
theorem le32At_flatMap_le32 (words : List UInt32) (index : Nat) :
    le32At (words.flatMap le32) (4 * index) = words.getD index 0 := by
  induction words generalizing index with
  | nil => simp [le32At, byte]
  | cons word words ih =>
      cases index with
      | zero => exact or_bytes word
      | succ index => exact ih index

/-- A word that is read and written again gives its two bytes back. -/
theorem be16_be16At (bytes : Bytes) (position : Nat) :
    be16 (bytes.be16At position) = [bytes.byte position, bytes.byte (position + 1)] := by
  have hHigh (high low : UInt8) :
      ((high.toUInt16 <<< 8 ||| low.toUInt16) >>> 8).toUInt8 = high := by
    refine UInt8.toBitVec_inj.mp (BitVec.eq_of_getLsbD_eq fun position hPosition => ?_)
    simp only [UInt16.toBitVec_toUInt8, UInt16.toBitVec_shiftRight, UInt16.toBitVec_or,
      UInt16.toBitVec_shiftLeft, UInt8.toBitVec_toUInt16, UInt16.toBitVec_ofNat,
      BitVec.ofNat_eq_ofNat, BitVec.reduceMod, BitVec.shiftLeft_eq', BitVec.toNat_ofNat,
      Nat.reducePow, Nat.reduceMod, BitVec.ushiftRight_eq', BitVec.getLsbD_setWidth,
      BitVec.getLsbD_ushiftRight, BitVec.getLsbD_or, BitVec.getLsbD_shiftLeft,
      Nat.add_sub_cancel_left]
    grind
  have hLow (high low : UInt8) : (high.toUInt16 <<< 8 ||| low.toUInt16).toUInt8 = low :=
    UInt8.toBitVec_inj.mp (by simp)
  rw [be16, be16At, hHigh, hLow]

/-- A byte string of at least two bytes is what comes before its last word and that word. -/
theorem take_append_be16At {bytes : Bytes} (h : 2 ≤ bytes.length) :
    bytes.take (bytes.length - 2) ++ be16 (bytes.be16At (bytes.length - 2)) = bytes := by
  have hByte {position : Nat} (hPosition : position < bytes.length) :
      bytes.byte position = bytes[position] := by
    rw [byte, List.getD_eq_getElem?_getD, List.getElem?_eq_getElem hPosition, Option.getD_some]
  have hDrop : bytes.drop (bytes.length - 2) = be16 (bytes.be16At (bytes.length - 2)) := by
    rw [be16_be16At, hByte (by omega), hByte (by omega), List.drop_eq_getElem_cons (by omega),
      List.drop_eq_getElem_cons (by omega), List.drop_of_length_le (by omega)]
  rw [← hDrop, List.take_append_drop]

/-- Zeros at the end of a list of words read like what is past its end. -/
theorem getD_append_zeros (words : List UInt32) (count index : Nat) :
    (words ++ List.replicate count 0).getD index 0 = words.getD index 0 := by
  simp only [List.getD_eq_getElem?_getD, List.getElem?_append, List.getElem?_replicate]
  split
  · rfl
  · next h =>
      rw [List.getElem?_eq_none (Nat.not_lt.mp h)]
      split <;> rfl

theorem flatMap_le32_zeros (count : Nat) :
    (List.replicate count 0).flatMap le32 = zeros (4 * count) := by
  induction count with
  | zero => rfl
  | succ count ih => exact congrArg (zeros 4 ++ ·) ih

end Bytes

end DriveBridge
