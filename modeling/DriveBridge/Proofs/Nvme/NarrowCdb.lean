import DriveBridge.Proofs.Nvme.Narrow

/-! What the CDB of a narrow bridge tells about a request, bit by bit. The operation and the dwords
that are not 0 are all there, but for one byte of the tenth dword, which the CDB leaves out and no
check looks at. -/
namespace DriveBridge.Nvme

/-- Two words agree in the bits from one position up to another. -/
def SameBits (low high : Nat) (first second : UInt32) : Prop :=
  ∀ bit < high, low ≤ bit → first.toBitVec.getLsbD bit = second.toBitVec.getLsbD bit

instance (low high : Nat) (first second : UInt32) : Decidable (SameBits low high first second) :=
  inferInstanceAs (Decidable (∀ bit < high, low ≤ bit → _))

section SameBits

variable {low middle high : Nat} {first second : UInt32}

theorem SameBits.mono {low' high' : Nat} (same : SameBits low high first second)
    (hLow : low ≤ low') (hHigh : high' ≤ high) : SameBits low' high' first second :=
  fun bit hTo hFrom => same bit (Nat.lt_of_lt_of_le hTo hHigh) (Nat.le_trans hLow hFrom)

theorem SameBits.append (lower : SameBits low middle first second)
    (upper : SameBits middle high first second) : SameBits low high first second := by
  intro bit hTo hFrom
  rcases Nat.lt_or_ge bit middle with hLower | hUpper
  · exact lower bit hLower hFrom
  · exact upper bit hTo hUpper

theorem getLsbD_byte {word shift : UInt32} {bit : Nat} (hBit : bit < 8) (hShift : shift < 32) :
    (word >>> shift).toUInt8.toBitVec.getLsbD bit =
      word.toBitVec.getLsbD (shift.toNat + bit) := by
  have hMod : shift.toNat % 32 = shift.toNat := Nat.mod_eq_of_lt hShift
  simp [hBit, hMod]

/-- A byte of a word tells its eight bits. -/
theorem sameBits_of_byte {shift : UInt32} (hShift : shift < 32)
    (hByte : (first >>> shift).toUInt8 = (second >>> shift).toUInt8) :
    SameBits shift.toNat (shift.toNat + 8) first second := by
  intro bit hTo hFrom
  obtain ⟨place, rfl⟩ := Nat.exists_eq_add_of_le hFrom
  have hPlace : place < 8 := by omega
  rw [← getLsbD_byte hPlace hShift, ← getLsbD_byte hPlace hShift, hByte]

theorem sameBits_of_low_byte (hByte : first.toUInt8 = second.toUInt8) :
    SameBits 0 8 first second :=
  @sameBits_of_byte first second 0 (by decide) (by simpa using hByte)

end SameBits

/-- Two requests are for the same command. Of the tenth dword the lower bits count, as many as
given. -/
structure SameCommand (width : Nat) (first second : Request) : Prop where
  opcode : first.opcode = second.opcode
  cdw10 : SameBits 0 width first.cdw10 second.cdw10
  cdw11 : first.cdw11 = second.cdw11
  cdw12 : first.cdw12 = second.cdw12
  cdw13 : first.cdw13 = second.cdw13
  cdw14 : first.cdw14 = second.cdw14
  cdw15 : first.cdw15 = second.cdw15

/-- Two requests look alike in their CDBs, which leave out the second byte of the tenth dword. -/
structure ToldAlike (width : Nat) (first second : Request) : Prop where
  opcode : first.opcode = second.opcode
  low : SameBits 0 8 first.cdw10 second.cdw10
  high : SameBits 16 width first.cdw10 second.cdw10
  cdw11 : first.cdw11 = second.cdw11
  cdw12 : first.cdw12 = second.cdw12
  cdw13 : first.cdw13 = second.cdw13
  cdw14 : first.cdw14 = second.cdw14
  cdw15 : first.cdw15 = second.cdw15

variable {first second : Request}

/-- What is left out decides whether requests that look alike are for the same command. -/
theorem ToldAlike.sameCommand_iff {width : Nat} (told : ToldAlike width first second)
    (hWidth : 16 ≤ width) :
    SameCommand width first second ↔ SameBits 8 16 first.cdw10 second.cdw10 := by
  refine ⟨fun same => same.cdw10.mono (by decide) hWidth, fun hSecondByte => ?_⟩
  exact {
    opcode := told.opcode
    cdw10 := (told.low.append hSecondByte).append told.high
    cdw11 := told.cdw11
    cdw12 := told.cdw12
    cdw13 := told.cdw13
    cdw14 := told.cdw14
    cdw15 := told.cdw15 }

/-- The CDB has every bit of the tenth dword but those of its second byte. -/
theorem Asmedia.toldAlike (hFirst : bridge.Encodes first) (hSecond : bridge.Encodes second)
    (hCdb : bridge.cdb first = bridge.cdb second) : ToldAlike 32 first second := by
  obtain ⟨hFront, h12⟩ := List.append_inj' hCdb rfl
  obtain ⟨hHead, h13⟩ := List.append_inj' hFront rfl
  simp only [List.cons.injEq, true_and, and_true] at hHead
  obtain ⟨hOpcode, hLow, hTop, hThird⟩ := hHead
  have hThirdBits : SameBits 16 24 first.cdw10 second.cdw10 := sameBits_of_byte (by decide) hThird
  have hTopBits : SameBits 24 32 first.cdw10 second.cdw10 := sameBits_of_byte (by decide) hTop
  obtain ⟨hFirst11, hFirst14, hFirst15⟩ := hFirst.dwords
  obtain ⟨hSecond11, hSecond14, hSecond15⟩ := hSecond.dwords
  exact {
    opcode := hOpcode
    low := sameBits_of_low_byte hLow
    high := hThirdBits.append hTopBits
    cdw11 := hFirst11.trans hSecond11.symm
    cdw12 := Bytes.be32_inj h12
    cdw13 := Bytes.be32_inj h13
    cdw14 := hFirst14.trans hSecond14.symm
    cdw15 := hFirst15.trans hSecond15.symm }

/-- The CDB has the lowest byte of the tenth dword only. -/
theorem Realtek.toldAlike (hFirst : bridge.Encodes first) (hSecond : bridge.Encodes second)
    (hCdb : bridge.cdb first = bridge.cdb second) : ToldAlike 16 first second := by
  obtain ⟨hFront, -⟩ := List.append_inj' hCdb rfl
  obtain ⟨-, hCommand⟩ := List.append_inj' hFront rfl
  simp only [List.cons.injEq, and_true] at hCommand
  obtain ⟨hOpcode, hLow⟩ := hCommand
  obtain ⟨hFirst11, hFirst12, hFirst13, hFirst14, hFirst15⟩ := hFirst.dwords
  obtain ⟨hSecond11, hSecond12, hSecond13, hSecond14, hSecond15⟩ := hSecond.dwords
  exact {
    opcode := hOpcode
    low := sameBits_of_low_byte hLow
    high := fun _ hTo hFrom => absurd hTo (Nat.not_lt.mpr hFrom)
    cdw11 := hFirst11.trans hSecond11.symm
    cdw12 := hFirst12.trans hSecond12.symm
    cdw13 := hFirst13.trans hSecond13.symm
    cdw14 := hFirst14.trans hSecond14.symm
    cdw15 := hFirst15.trans hSecond15.symm }

end DriveBridge.Nvme
