import DriveBridge.Ata.Register
import Mathlib.Algebra.Group.Nat.Defs

/-! The register file beside the history of its writes. The views of a register file overlap: a
write reaches one register, a register and its previous byte, or the six bytes of the block address.
However such writes follow each other, each byte is the one that was last written to it, and every
view reads the bytes that it is made of. -/
namespace DriveBridge.Ata

/-- The two groups of registers. -/
inductive Bank where
  | current | previous
  deriving DecidableEq, Repr

/-- A write through one of the views of a register file. A word goes to a register and its previous
byte, which only some registers are ever used for. -/
inductive Write (ρ : Type) where
  | byte (bank : Bank) (register : ρ) (value : UInt8)
  | word (register : ρ) (value : UInt16)
  | address (value : UInt64)

variable {ρ : Type} [DecidableEq ρ] [BlockAddress ρ]

section Views

omit [DecidableEq ρ] [BlockAddress ρ] in
/-- The byte in a register of a bank, if it was ever written. -/
def RegisterFile.byte? (file : RegisterFile ρ) : Bank → ρ → Option UInt8
  | .current => file.current
  | .previous => file.previous

omit [DecidableEq ρ] [BlockAddress ρ] in
def RegisterFile.byte (file : RegisterFile ρ) : Bank → ρ → UInt8
  | .current => file.value
  | .previous => file.previousValue

def RegisterFile.write (file : RegisterFile ρ) : Write ρ → RegisterFile ρ
  | .byte .current register value => file.set register value
  | .byte .previous register value => file.setPrevious register value
  | .word register value => file.setWide register value
  | .address value => file.setAddress value

/-- Writes from left to right. -/
def RegisterFile.writeAll (file : RegisterFile ρ) (writes : List (Write ρ)) : RegisterFile ρ :=
  writes.foldl write file

end Views

section History

/-- The place of an address register in its bank, from the least significant one up. -/
def addressRank? (register : ρ) : Option Nat :=
  if register = BlockAddress.low then some 0
  else if register = BlockAddress.mid then some 1
  else if register = BlockAddress.high then some 2
  else none

/-- The block address has its three lower bytes in the current bank. -/
def Bank.firstAddressByte : Bank → Nat
  | .current => 0
  | .previous => 3

/-- The byte that a write puts into a register of a bank, if it reaches that register. -/
def Write.byteFor? : Write ρ → Bank → ρ → Option Nat
  | .byte bank register value, other, reached =>
      if other = bank ∧ reached = register then some value.toNat else none
  | .word register value, .current, reached =>
      if reached = register then some (value.toNat % 256) else none
  | .word register value, .previous, reached =>
      if reached = register then some (value.toNat / 256) else none
  | .address value, bank, reached =>
      (addressRank? reached).map fun rank =>
        value.toNat / 256 ^ (bank.firstAddressByte + rank) % 256

def Write.Reaches (write : Write ρ) (bank : Bank) (register : ρ) : Prop :=
  (write.byteFor? bank register).isSome = true

/-- The byte that the latest write to a register put there, if there was one. -/
def lastByte? (writes : List (Write ρ)) (bank : Bank) (register : ρ) : Option Nat :=
  writes.reverse.findSome? (·.byteFor? bank register)

/-- The byte that is remembered for a register. One that was never written is 0. -/
def lastByte (writes : List (Write ρ)) (bank : Bank) (register : ρ) : Nat :=
  (lastByte? writes bank register).getD 0

end History

/-- The numbers in the address registers of a bank as one of 24 bits. -/
def addressPart (bytes : ρ → Nat) : Nat :=
  bytes BlockAddress.low + bytes BlockAddress.mid * 2 ^ 8 + bytes BlockAddress.high * 2 ^ 16

/-- Whatever is read from a register file is what was last written. -/
structure Recalls (file : RegisterFile ρ) (writes : List (Write ρ)) : Prop where
  current : ∀ register, (file.value register).toNat = lastByte writes .current register
  previous : ∀ register, (file.previousValue register).toNat = lastByte writes .previous register
  word : ∀ register, (file.wide register).toNat =
    lastByte writes .previous register * 256 + lastByte writes .current register
  address : file.address.toNat =
    addressPart (lastByte writes .current) + addressPart (lastByte writes .previous) * 2 ^ 24
  /-- Of a number written to the block address, the low 48 bits are kept. -/
  addressKept : ∀ number, (file.setAddress number).address.toNat = number.toNat % 2 ^ 48
  currentSet : ∀ register, (file.current register).isSome = true ↔
    ∃ write ∈ writes, write.Reaches .current register
  previousSet : ∀ register, (file.previous register).isSome = true ↔
    ∃ write ∈ writes, write.Reaches .previous register

namespace RegisterFile

section Address

/-- A byte on top of a number that ends below it. -/
theorem toNat_or_shiftLeft {low : UInt64} (byte : UInt8) (shift : Nat) (hShift : shift ≤ 56)
    (hLow : low.toNat < 2 ^ shift) :
    (low ||| byte.toUInt64 <<< OfNat.ofNat shift).toNat = low.toNat + byte.toNat * 2 ^ shift := by
  have hByte : byte.toNat < 2 ^ 8 := byte.toNat_lt
  have hAmount : (OfNat.ofNat shift : UInt64).toNat % 64 = shift := by
    rw [UInt64.toNat_ofNat]
    omega
  have hRoom : byte.toNat * 2 ^ shift < 2 ^ 64 := by
    calc byte.toNat * 2 ^ shift
        < 2 ^ 8 * 2 ^ shift := Nat.mul_lt_mul_of_pos_right hByte (Nat.two_pow_pos shift)
      _ = 2 ^ (8 + shift) := (pow_add 2 8 shift).symm
      _ ≤ 2 ^ 64 := Nat.pow_le_pow_right (by omega) (by omega)
  rw [UInt64.toNat_or, UInt64.toNat_shiftLeft, UInt8.toNat_toUInt64, hAmount, Nat.shiftLeft_eq,
    Nat.mod_eq_of_lt hRoom, ← Nat.shiftLeft_eq, Nat.or_comm, ← Nat.shiftLeft_add_eq_or_of_lt hLow,
    Nat.shiftLeft_eq, Nat.add_comm]

omit [DecidableEq ρ] in
theorem toNat_address (file : RegisterFile ρ) :
    file.address.toNat = addressPart (fun register => (file.byte .current register).toNat) +
      addressPart (fun register => (file.byte .previous register).toNat) * 2 ^ 24 := by
  have hByte : ∀ byte : UInt8, byte.toNat < 2 ^ 8 := fun byte => byte.toNat_lt
  have hLow := hByte (file.value BlockAddress.low)
  have hMid := hByte (file.value BlockAddress.mid)
  have hHigh := hByte (file.value BlockAddress.high)
  have hPreviousLow := hByte (file.previousValue BlockAddress.low)
  have hPreviousMid := hByte (file.previousValue BlockAddress.mid)
  rw [← UInt8.toNat_toUInt64] at hLow
  -- Each byte goes on top of the sum of those before it.
  have h8 := toNat_or_shiftLeft (file.value BlockAddress.mid) 8 (by omega) hLow
  have h16 := toNat_or_shiftLeft (file.value BlockAddress.high) 16 (by omega)
    (Nat.lt_of_le_of_lt (Nat.le_of_eq h8) (by omega))
  have h24 := toNat_or_shiftLeft (file.previousValue BlockAddress.low) 24 (by omega)
    (Nat.lt_of_le_of_lt (Nat.le_of_eq h16) (by omega))
  have h32 := toNat_or_shiftLeft (file.previousValue BlockAddress.mid) 32 (by omega)
    (Nat.lt_of_le_of_lt (Nat.le_of_eq h24) (by omega))
  have h40 := toNat_or_shiftLeft (file.previousValue BlockAddress.high) 40 (by omega)
    (Nat.lt_of_le_of_lt (Nat.le_of_eq h32) (by omega))
  rw [UInt8.toNat_toUInt64] at h8
  rw [address, h40, h32, h24, h16, h8]
  simp only [addressPart, byte]
  omega

theorem addressRank?_low : addressRank? (BlockAddress.low : ρ) = some 0 := if_pos rfl

theorem addressRank?_mid : addressRank? (BlockAddress.mid : ρ) = some 1 := by
  simp [addressRank?, BlockAddress.low_ne_mid.symm]

theorem addressRank?_high : addressRank? (BlockAddress.high : ρ) = some 2 := by
  simp [addressRank?, BlockAddress.low_ne_high.symm, BlockAddress.mid_ne_high.symm]

theorem addressIndex_lt {register : ρ} {rank : Nat} (hRank : addressRank? register = some rank)
    (bank : Bank) : bank.firstAddressByte + rank < 6 := by
  have hSmall : rank < 3 := by
    unfold addressRank? at hRank
    grind
  cases bank <;> simp only [Bank.firstAddressByte] <;> omega

/-- Bytes written to the three address registers of a bank are found each at its own. -/
theorem written_eq_or (bytes : Nat → UInt8) (register : ρ) (old : Option UInt8) :
    (if register = BlockAddress.high then some (bytes 2)
      else if register = BlockAddress.mid then some (bytes 1)
      else if register = BlockAddress.low then some (bytes 0) else old) =
      ((addressRank? register).map bytes).or old := by
  by_cases hHigh : register = BlockAddress.high
  · rw [if_pos hHigh, hHigh, addressRank?_high]
    rfl
  · rw [if_neg hHigh]
    by_cases hMid : register = BlockAddress.mid
    · rw [if_pos hMid, hMid, addressRank?_mid]
      rfl
    · rw [if_neg hMid]
      by_cases hLow : register = BlockAddress.low <;> simp [addressRank?, hLow, hMid, hHigh]

/-- The byte of a number at a place, from the least significant one up. -/
def addressByte (number : UInt64) (index : Nat) : UInt8 :=
  (number >>> UInt64.ofNat (8 * index)).toUInt8

theorem toNat_addressByte (number : UInt64) {index : Nat} (hIndex : index < 6) :
    (addressByte number index).toNat = number.toNat / 256 ^ index % 256 := by
  have hShift : (UInt64.ofNat (8 * index)).toNat % 64 = 8 * index := by
    rw [UInt64.toNat_ofNat']
    omega
  have hPower : 2 ^ (8 * index) = 256 ^ index := pow_mul 2 8 index
  rw [addressByte, UInt64.toNat_toUInt8, UInt64.toNat_shiftRight, hShift,
    Nat.shiftRight_eq_div_pow, hPower]

theorem byte?_setAddress (file : RegisterFile ρ) (number : UInt64) (bank : Bank) (register : ρ) :
    (file.setAddress number).byte? bank register =
      ((addressRank? register).map fun rank =>
        addressByte number (bank.firstAddressByte + rank)).or (file.byte? bank register) := by
  rw [← written_eq_or]
  cases bank with
  | current =>
      rw [byte?, setAddress, current_setAllPrevious]
      simp [setAll, addressByte, Bank.firstAddressByte, byte?]
  | previous => simp [setAll, setAllPrevious, addressByte, Bank.firstAddressByte, byte?, setAddress]

end Address

section Writes

omit [DecidableEq ρ] [BlockAddress ρ] in
theorem byte_eq_getD (file : RegisterFile ρ) (bank : Bank) (register : ρ) :
    file.byte bank register = (file.byte? bank register).getD 0 := by
  cases bank <;> rfl

/-- A write puts its own bytes where it reaches and leaves all others. -/
theorem byte?_write (file : RegisterFile ρ) (write : Write ρ) (bank : Bank) (register : ρ) :
    ((file.write write).byte? bank register).map UInt8.toNat =
      (write.byteFor? bank register).or ((file.byte? bank register).map UInt8.toNat) := by
  cases write with
  | byte other reached value =>
      cases bank <;> cases other <;> by_cases h : register = reached <;>
        simp [RegisterFile.write, byte?, Write.byteFor?, h]
  | word reached value =>
      have hUpper : value.toNat >>> 8 % 256 = value.toNat / 256 := by
        have hValue := value.toNat_lt
        rw [Nat.shiftRight_eq_div_pow]
        omega
      cases bank <;> by_cases h : register = reached <;>
        simp [RegisterFile.write, byte?, Write.byteFor?, setWide, h, hUpper]
  | address number =>
      rw [RegisterFile.write, byte?_setAddress, Option.map_or, Option.map_map, Write.byteFor?]
      congr 1
      exact Option.map_congr fun rank hRank => toNat_addressByte number (addressIndex_lt hRank bank)

/-- After any number of writes, a byte is the one that the latest of them put there, or else the
one that was there before. -/
theorem byte?_writeAll (file : RegisterFile ρ) (writes : List (Write ρ)) (bank : Bank)
    (register : ρ) :
    ((file.writeAll writes).byte? bank register).map UInt8.toNat =
      (lastByte? writes bank register).or ((file.byte? bank register).map UInt8.toNat) := by
  induction writes generalizing file with
  | nil => simp [writeAll, lastByte?]
  | cons write rest ih =>
      -- The first of the writes is looked up behind all that come after it.
      have hLast : lastByte? (write :: rest) bank register =
          (lastByte? rest bank register).or (write.byteFor? bank register) := by
        simp [lastByte?, List.findSome?_append]
      rw [writeAll, List.foldl_cons, ← writeAll, ih, byte?_write, hLast, Option.or_assoc]

theorem byte?_writeAll_empty (writes : List (Write ρ)) (bank : Bank) (register : ρ) :
    ((empty.writeAll writes).byte? bank register).map UInt8.toNat =
      lastByte? writes bank register := by
  rw [byte?_writeAll]
  cases bank <;> exact Option.or_none

theorem toNat_byte_writeAll (writes : List (Write ρ)) (bank : Bank) (register : ρ) :
    ((empty.writeAll writes).byte bank register).toNat = lastByte writes bank register := by
  rw [byte_eq_getD, lastByte, ← byte?_writeAll_empty]
  cases (empty.writeAll writes).byte? bank register <;> rfl

theorem isSome_byte?_writeAll_iff (writes : List (Write ρ)) (bank : Bank) (register : ρ) :
    ((empty.writeAll writes).byte? bank register).isSome = true ↔
      ∃ write ∈ writes, write.Reaches bank register := by
  have hSome : ((empty.writeAll writes).byte? bank register).isSome =
      (lastByte? writes bank register).isSome := by
    rw [← byte?_writeAll_empty, Option.isSome_map]
  simp [hSome, lastByte?, List.isSome_findSome?, Write.Reaches]

theorem toNat_byte_setAddress (file : RegisterFile ρ) (number : UInt64) (bank : Bank)
    {register : ρ} {rank : Nat} (hRank : addressRank? register = some rank) :
    ((file.setAddress number).byte bank register).toNat =
      number.toNat / 256 ^ (bank.firstAddressByte + rank) % 256 := by
  have hIndex := addressIndex_lt hRank bank
  rw [byte_eq_getD, byte?_setAddress, hRank, ← toNat_addressByte number hIndex]
  rfl

/-- An address that was written is read back without its bits from 48 up. -/
theorem toNat_address_setAddress (file : RegisterFile ρ) (number : UInt64) :
    (file.setAddress number).address.toNat = number.toNat % 2 ^ 48 := by
  have hByte := toNat_byte_setAddress file number
  simp only [toNat_address, addressPart, hByte _ addressRank?_low, hByte _ addressRank?_mid,
    hByte _ addressRank?_high, Bank.firstAddressByte]
  omega

theorem recalls_writeAll (writes : List (Write ρ)) : Recalls (empty.writeAll writes) writes where
  current := toNat_byte_writeAll writes .current
  previous := toNat_byte_writeAll writes .previous
  word register := by
    have hCurrent := toNat_byte_writeAll writes .current register
    have hPrevious := toNat_byte_writeAll writes .previous register
    rw [toNat_wide, ← hCurrent, ← hPrevious]
    rfl
  address := by
    simp only [toNat_address, toNat_byte_writeAll]
  addressKept := toNat_address_setAddress _
  currentSet := isSome_byte?_writeAll_iff writes .current
  previousSet := isSome_byte?_writeAll_iff writes .previous

end Writes

theorem isExtended_iff (file : RegisterFile InputRegister) :
    file.isExtended = true ↔ ∃ register, (file.previous register).isSome = true := by
  simp [isExtended, InputRegister.mem_all]

theorem needsExtended_iff (file : RegisterFile InputRegister) :
    file.needsExtended = true ↔ ∃ register, file.previousValue register ≠ 0 := by
  simp [needsExtended, InputRegister.mem_all]

/-- Both register files recall every history of writes. Some write to a previous input register is
what makes a command a 48-bit one, and a previous register that is left other than 0 is what makes
it need to be one. -/
theorem every_history_recalled :
    (∀ writes : List (Write InputRegister),
      Recalls (empty.writeAll writes) writes ∧
        ((empty.writeAll writes).isExtended = true ↔
          ∃ register, ∃ write ∈ writes, write.Reaches .previous register) ∧
        ((empty.writeAll writes).needsExtended = true ↔
          ∃ register, lastByte writes .previous register ≠ 0) ∧
        ((empty.writeAll writes).needsExtended = true →
          (empty.writeAll writes).isExtended = true)) ∧
      ∀ writes : List (Write OutputRegister), Recalls (empty.writeAll writes) writes := by
  refine ⟨?_, recalls_writeAll⟩
  intro writes
  have hRecalls := recalls_writeAll writes
  refine ⟨hRecalls, ?_, ?_, isExtended_of_needsExtended⟩
  · rw [isExtended_iff]
    exact exists_congr hRecalls.previousSet
  · rw [needsExtended_iff]
    refine exists_congr fun register => not_congr ?_
    rw [← hRecalls.previous register]
    exact UInt8.toNat_inj.symm

/-- A word lands in the middle of an address that was written before. -/
example : (empty.writeAll [.address 0x060504030201, .word InputRegister.lbaMid 0xaabb]).address =
    0x06aa0403bb01 := by decide

end RegisterFile

end DriveBridge.Ata
