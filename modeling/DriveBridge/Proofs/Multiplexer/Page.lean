import DriveBridge.Multiplexer.Routing
import DriveBridge.Proofs.Multiplexer.Crc
import Mathlib.Tactic.TFAE

/-! What becomes of a routing page before it is written back, byte by byte. Its check is renewed
last, and a page whose check is renewed passes it. -/
namespace DriveBridge.Multiplexer

namespace Page

variable (page : Page)

theorem byte_write {position : Nat} {value : Bytes} (h : position ≤ pageLength)
    (hFits : position + value.length ≤ pageLength) (index : Nat) :
    (page.write position value h).raw.byte index =
      if position ≤ index ∧ index < position + value.length then value.byte (index - position)
      else page.raw.byte index :=
  Bytes.byte_splice (by rw [page.length_raw]; exact hFits) index

theorem byte_setDriveSelect (drive : UInt32) (index : Nat) :
    (page.setDriveSelect drive).raw.byte index =
      if index < 4 then (Bytes.le32 drive).byte index else page.raw.byte index := by
  have hLength : (Bytes.le32 drive).length = 4 := rfl
  rw [setDriveSelect, page.byte_write _ (by rw [hLength]; decide), hLength]
  simp

theorem driveSelect_setDriveSelect (drive : UInt32) :
    (page.setDriveSelect drive).driveSelect = drive := by
  unfold driveSelect Bytes.le32At
  simp only [byte_setDriveSelect, Nat.reduceAdd, Nat.reduceLT, if_true]
  exact Bytes.or_bytes drive

/-- A page is what its check covers and the check. -/
theorem raw_eq : page.raw = page.contents ++ Bytes.be16 page.storedCrc := by
  have hLength : page.raw.length = 512 := page.length_raw
  have hSplit := Bytes.take_append_be16At (hLength ▸ (by decide) : 2 ≤ page.raw.length)
  rw [hLength] at hSplit
  exact hSplit.symm

theorem length_contents : page.contents.length = 510 := by
  rw [contents, List.length_take, page.length_raw]
  rfl

/-- The check over a whole page tells whether the stored check belongs to the contents. -/
theorem crcOk_iff : page.crcOk = true ↔ page.storedCrc = Crc.crc16 page.contents false := by
  rw [crcOk, residue, beq_iff_eq, page.raw_eq]
  exact Crc.crc16_append_eq_zero_iff _ _

theorem raw_updateCrc :
    page.updateCrc.raw = page.contents ++ Bytes.be16 (Crc.crc16 page.contents false) := by
  have hRest : (page.raw.drop 510).length = 2 := by
    rw [List.length_drop, page.length_raw]
    rfl
  have hWord (word : UInt16) : Bytes.overlay (Bytes.be16 word) (page.raw.drop 510) =
      Bytes.be16 word := by
    have hLength : (Bytes.be16 word).length = 2 := rfl
    rw [Bytes.overlay, List.drop_of_length_le (Nat.le_of_eq (hRest.trans hLength.symm)),
      List.append_nil, hRest, ← hLength, List.take_length]
  exact congrArg (page.contents ++ ·) (hWord _)

theorem contents_updateCrc : page.updateCrc.contents = page.contents := by
  rw [contents, raw_updateCrc, List.take_left' page.length_contents]

theorem crcOk_updateCrc : page.updateCrc.crcOk = true := by
  rw [crcOk, residue, beq_iff_eq, raw_updateCrc]
  exact (Crc.crc16_append_eq_zero_iff _ _).mpr rfl

theorem storedCrc_updateCrc : page.updateCrc.storedCrc = Crc.crc16 page.contents false := by
  rw [(page.updateCrc.crcOk_iff).mp page.crcOk_updateCrc, contents_updateCrc]

end Page

/-- A message checks to 0 alike as it is and followed by two zero bytes, and just then its last two
bytes are the check of what is before them. So a page passes exactly if it carries the check that
would be written into it, and always once that has been written. -/
theorem zero_check_tfae {message : Bytes} (h : 2 ≤ message.length) :
    [Crc.crc16 message true = 0, Crc.crc16 message false = 0,
      message.be16At (message.length - 2) =
        Crc.crc16 (message.take (message.length - 2)) false].TFAE ∧
      ∀ page : Page, (page.crcOk = true ↔ page.storedCrc = page.updateCrc.storedCrc) ∧
        page.updateCrc.crcOk = true := by
  have hLast : Crc.crc16 message false = 0 ↔ message.be16At (message.length - 2) =
      Crc.crc16 (message.take (message.length - 2)) false := by
    have hSplit := Crc.crc16_append_eq_zero_iff (message.take (message.length - 2))
      (message.be16At (message.length - 2))
    rwa [Bytes.take_append_be16At h] at hSplit
  constructor
  · tfae_have 2 ↔ 1 := Crc.crc16_eq_zero_iff message
    tfae_have 2 ↔ 3 := hLast
    tfae_finish
  · intro page
    rw [page.crcOk_iff, page.storedCrc_updateCrc]
    exact ⟨Iff.rfl, page.crcOk_updateCrc⟩

/-- A byte of value 1 leaves the polynomial, and with that behind it nothing. -/
theorem checked_byte_leaves_nothing :
    2 ≤ ([0x01, 0x8b, 0xb7] : Bytes).length ∧ Crc.crc16 [0x01, 0x8b, 0xb7] true = 0 ∧
      Crc.crc16 [0x01, 0x8b, 0xb7] false = 0 := by
  have hLength : 2 ≤ ([0x01, 0x8b, 0xb7] : Bytes).length := by decide
  have hTfae := (zero_check_tfae hLength).1
  have hAsItIs := hTfae.out 2 0
  have hFollowed := hTfae.out 2 1
  have hCheck : Bytes.be16At [0x01, 0x8b, 0xb7] 1 = Crc.crc16 [0x01] false := by
    decide +kernel
  exact ⟨hLength, hAsItIs.mp hCheck, hFollowed.mp hCheck⟩

/-- The last two bytes are the check of what is before them. -/
def ValidCheck (bytes : Bytes) : Prop :=
  bytes.be16At 510 = Crc.crc16 (bytes.take 510) false

instance (bytes : Bytes) : Decidable (ValidCheck bytes) :=
  inferInstanceAs (Decidable (_ = _))

theorem Page.validCheck_iff (page : Page) : ValidCheck page.raw ↔ page.crcOk = true :=
  page.crcOk_iff.symm

/-- A page that routes a drive, given the page that it replaces. -/
structure Reroutes (drive : UInt32) (found written : Bytes) : Prop where
  length : written.length = pageLength
  drive : ∀ position < 4, written.byte position = (Bytes.le32 drive).byte position
  cleared : ∀ position ∈ [9, 10, 11], written.byte position = 0
  /-- A page without a valid check is worth nothing. -/
  kept : ∀ position, 4 ≤ position → position < 510 → position ∉ [9, 10, 11] →
    written.byte position = if ValidCheck found then found.byte position else 0
  check : ValidCheck written

section Revised

variable (page : Page) (drive : UInt32)

/-- The page that is changed: a valid one, or a blank one in its place. -/
def trusted : Page := if page.crcOk then page else Page.blank

theorem byte_trusted (position : Nat) :
    (trusted page).raw.byte position =
      if ValidCheck page.raw then page.raw.byte position else 0 := by
  unfold trusted
  simp only [page.validCheck_iff]
  split
  · rfl
  · exact Bytes.byte_zeros pageLength position

/-- The page before its check is renewed. -/
def cleared : Page := (((trusted page).setDriveSelect drive).setLogPassThrough 0).setTierId 0

theorem byte_cleared (position : Nat) :
    (cleared page drive).raw.byte position =
      if position < 4 then (Bytes.le32 drive).byte position
      else if position ∈ [9, 10, 11] then 0
      else (trusted page).raw.byte position := by
  have hTier : (Bytes.le16 0).length = 2 := rfl
  unfold cleared Page.setTierId Page.setLogPassThrough
  rw [Page.byte_write _ _ (by decide), Page.byte_write _ _ (by decide), Page.byte_setDriveSelect,
    hTier]
  by_cases hStart : position < 4
  · have hEarly : ¬ 10 ≤ position ∧ ¬ 9 ≤ position := by omega
    simp [hStart, hEarly]
  · by_cases hCleared : position ∈ [9, 10, 11]
    · have hCases : position = 9 ∨ position = 10 ∨ position = 11 := by simpa using hCleared
      rcases hCases with rfl | rfl | rfl <;> rfl
    · have hOther : position ≠ 9 ∧ position ≠ 10 ∧ position ≠ 11 := by simpa using hCleared
      have hTierId : ¬ (10 ≤ position ∧ position < 10 + 2) := by omega
      have hPassThrough : ¬ (9 ≤ position ∧ position < 9 + 1) := by omega
      simp [hStart, hCleared, hTierId, hPassThrough]

theorem byte_revised {position : Nat} (h : position < 510) :
    (revised page drive).raw.byte position = (cleared page drive).raw.byte position := by
  have hContents : (revised page drive).contents = (cleared page drive).contents :=
    (cleared page drive).contents_updateCrc
  have hByte (page : Page) : page.raw.byte position = page.contents.byte position := by
    simp only [Page.contents, Bytes.byte, List.getD_eq_getElem?_getD, List.getElem?_take, h, if_true]
  rw [hByte, hByte, hContents]

theorem revised_reroutes : Reroutes drive page.raw (revised page drive).raw where
  length := (revised page drive).length_raw
  drive := by
    intro position hPosition
    rw [byte_revised page drive (by omega), byte_cleared, if_pos hPosition]
  cleared := by
    intro position hPosition
    have hBounds : ¬ position < 4 ∧ position < 510 := by
      simp at hPosition
      omega
    rw [byte_revised page drive hBounds.2, byte_cleared, if_neg hBounds.1, if_pos hPosition]
  kept := by
    intro position hStart hEnd hKept
    rw [byte_revised page drive hEnd, byte_cleared, if_neg (Nat.not_lt.mpr hStart), if_neg hKept,
      byte_trusted]
  check := (Page.validCheck_iff _).mpr (cleared page drive).crcOk_updateCrc

/-- A page that routes a drive tells that drive. -/
theorem Reroutes.le32At_zero {drive : UInt32} {found written : Bytes}
    (reroutes : Reroutes drive found written) : written.le32At 0 = drive := by
  unfold Bytes.le32At
  rw [reroutes.drive 0 (by decide), reroutes.drive 1 (by decide), reroutes.drive 2 (by decide),
    reroutes.drive 3 (by decide)]
  exact Bytes.or_bytes drive

theorem driveSelect_revised : (revised page drive).driveSelect = drive :=
  (revised_reroutes page drive).le32At_zero

theorem crcOk_revised : (revised page drive).crcOk = true := (cleared page drive).crcOk_updateCrc

end Revised

end DriveBridge.Multiplexer
