import DriveBridge.Bytes

/-! The ATA register file. A 28-bit command uses one group of seven registers. A 48-bit command
writes each of them twice, the previous byte first, so there is a current group and a previous
one. A register that was never written reads as 0 and is not sent. -/
namespace DriveBridge.Ata

/-- The registers that a command is issued with. -/
inductive InputRegister where
  | features | sectorCount | lbaLow | lbaMid | lbaHigh | device | command
  deriving DecidableEq, Repr

/-- The registers that a device returns. -/
inductive OutputRegister where
  | error | sectorCount | lbaLow | lbaMid | lbaHigh | device | status
  deriving DecidableEq, Repr

def InputRegister.all : List InputRegister :=
  [.features, .sectorCount, .lbaLow, .lbaMid, .lbaHigh, .device, .command]

def OutputRegister.all : List OutputRegister :=
  [.error, .sectorCount, .lbaLow, .lbaMid, .lbaHigh, .device, .status]

theorem InputRegister.mem_all (register : InputRegister) : register ∈ all := by
  cases register <;> decide

theorem OutputRegister.mem_all (register : OutputRegister) : register ∈ all := by
  cases register <;> decide

/-- What holds of the six registers that no bridge writes bits of its own to. -/
theorem InputRegister.forall_ne_device {p : InputRegister → Prop} (features : p .features)
    (sectorCount : p .sectorCount) (lbaLow : p .lbaLow) (lbaMid : p .lbaMid)
    (lbaHigh : p .lbaHigh) (command : p .command) : ∀ register, register ≠ .device → p register := by
  intro register hRegister
  cases register with
  | device => exact (hRegister rfl).elim
  | features | sectorCount | lbaLow | lbaMid | lbaHigh | command => assumption

/-- What holds of the five registers that a 48-bit command writes twice. -/
theorem InputRegister.forall_wide {p : InputRegister → Prop} (features : p .features)
    (sectorCount : p .sectorCount) (lbaLow : p .lbaLow) (lbaMid : p .lbaMid)
    (lbaHigh : p .lbaHigh) :
    ∀ register, register ≠ .device → register ≠ .command → p register := by
  intro register hDevice hCommand
  cases register with
  | device => exact (hDevice rfl).elim
  | command => exact (hCommand rfl).elim
  | features | sectorCount | lbaLow | lbaMid | lbaHigh => assumption

/-- Register names among which three hold a logical block address. -/
class BlockAddress (ρ : Type) where
  low : ρ
  mid : ρ
  high : ρ
  low_ne_mid : low ≠ mid
  low_ne_high : low ≠ high
  mid_ne_high : mid ≠ high

instance : BlockAddress InputRegister :=
  ⟨.lbaLow, .lbaMid, .lbaHigh, by decide, by decide, by decide⟩

instance : BlockAddress OutputRegister :=
  ⟨.lbaLow, .lbaMid, .lbaHigh, by decide, by decide, by decide⟩

/-- A current and a previous group of registers. -/
structure RegisterFile (ρ : Type) where
  current : ρ → Option UInt8 := fun _ => none
  previous : ρ → Option UInt8 := fun _ => none

namespace RegisterFile

variable {ρ : Type} [DecidableEq ρ]

/-- No register written. -/
def empty : RegisterFile ρ := {}

instance : Inhabited (RegisterFile ρ) := ⟨empty⟩

def value (file : RegisterFile ρ) (register : ρ) : UInt8 := (file.current register).getD 0

def previousValue (file : RegisterFile ρ) (register : ρ) : UInt8 :=
  (file.previous register).getD 0

def set (file : RegisterFile ρ) (register : ρ) (byte : UInt8) : RegisterFile ρ :=
  { file with current := fun r => if r = register then some byte else file.current r }

def setPrevious (file : RegisterFile ρ) (register : ρ) (byte : UInt8) : RegisterFile ρ :=
  { file with previous := fun r => if r = register then some byte else file.previous r }

/-- Writes a list of current registers from left to right. -/
def setAll (file : RegisterFile ρ) (writes : List (ρ × UInt8)) : RegisterFile ρ :=
  writes.foldl (fun file write => file.set write.1 write.2) file

/-- Writes a list of previous registers from left to right. -/
def setAllPrevious (file : RegisterFile ρ) (writes : List (ρ × UInt8)) : RegisterFile ρ :=
  writes.foldl (fun file write => file.setPrevious write.1 write.2) file

/-- A register and its previous byte as one 16-bit value, the previous byte on top. -/
def wide (file : RegisterFile ρ) (register : ρ) : UInt16 :=
  (file.previousValue register).toUInt16 <<< 8 ||| (file.value register).toUInt16

def setWide (file : RegisterFile ρ) (register : ρ) (word : UInt16) : RegisterFile ρ :=
  (file.setPrevious register (word >>> 8).toUInt8).set register word.toUInt8

section Address

variable [BlockAddress ρ]

/-- The 48-bit block address: current low, middle and high byte, then the previous ones, from
the least significant byte up. -/
def address (file : RegisterFile ρ) : UInt64 :=
  (file.value BlockAddress.low).toUInt64 ||| (file.value BlockAddress.mid).toUInt64 <<< 8 |||
    (file.value BlockAddress.high).toUInt64 <<< 16 |||
    (file.previousValue BlockAddress.low).toUInt64 <<< 24 |||
    (file.previousValue BlockAddress.mid).toUInt64 <<< 32 |||
    (file.previousValue BlockAddress.high).toUInt64 <<< 40

/-- Writes all six bytes of the block address. Bits from 48 up are dropped. -/
def setAddress (file : RegisterFile ρ) (address : UInt64) : RegisterFile ρ :=
  (file.setAll
    [(BlockAddress.low, address.toUInt8), (BlockAddress.mid, (address >>> 8).toUInt8),
      (BlockAddress.high, (address >>> 16).toUInt8)]).setAllPrevious
    [(BlockAddress.low, (address >>> 24).toUInt8), (BlockAddress.mid, (address >>> 32).toUInt8),
      (BlockAddress.high, (address >>> 40).toUInt8)]

end Address

@[simp] theorem current_set (file : RegisterFile ρ) (register other : ρ) (byte : UInt8) :
    (file.set register byte).current other =
      if other = register then some byte else file.current other := rfl

@[simp] theorem previous_set (file : RegisterFile ρ) (register : ρ) (byte : UInt8) :
    (file.set register byte).previous = file.previous := rfl

@[simp] theorem previous_setPrevious (file : RegisterFile ρ) (register other : ρ)
    (byte : UInt8) :
    (file.setPrevious register byte).previous other =
      if other = register then some byte else file.previous other := rfl

@[simp] theorem current_setPrevious (file : RegisterFile ρ) (register : ρ) (byte : UInt8) :
    (file.setPrevious register byte).current = file.current := rfl

/-- The registers written are those on the list and those written before. -/
theorem isSome_current_setAll_iff (file : RegisterFile ρ) (writes : List (ρ × UInt8))
    (register : ρ) :
    ((file.setAll writes).current register).isSome = true ↔
      register ∈ writes.map Prod.fst ∨ (file.current register).isSome = true := by
  induction writes generalizing file with
  | nil => simp [setAll]
  | cons write rest ih =>
      rw [setAll, List.foldl_cons, ← setAll, ih, current_set, List.map_cons, List.mem_cons]
      by_cases h : register = write.1 <;> simp [h]

@[simp] theorem current_setAllPrevious (file : RegisterFile ρ) (writes : List (ρ × UInt8)) :
    (file.setAllPrevious writes).current = file.current := by
  induction writes generalizing file with
  | nil => rfl
  | cons write rest ih =>
      rw [setAllPrevious, List.foldl_cons, ← setAllPrevious, ih, current_setPrevious]

omit [DecidableEq ρ] in
theorem toNat_wide (file : RegisterFile ρ) (register : ρ) :
    (file.wide register).toNat =
      (file.previousValue register).toNat * 256 + (file.value register).toNat := by
  have hPrevious := (file.previousValue register).toNat_lt
  have hCurrent := (file.value register).toNat_lt
  have hShift : (file.previousValue register).toNat <<< 8 % 65536 =
      (file.previousValue register).toNat <<< 8 := by
    rw [Nat.shiftLeft_eq]
    omega
  simp only [wide, UInt16.toNat_or, UInt16.toNat_shiftLeft, UInt8.toNat_toUInt16]
  simp only [UInt16.toNat_ofNat, Nat.reduceMod, Nat.reducePow, hShift]
  rw [← Nat.shiftLeft_add_eq_or_of_lt hCurrent, Nat.shiftLeft_eq]

theorem toNat_previousValue_setWide (file : RegisterFile ρ) (register : ρ) (word : UInt16) :
    ((file.setWide register word).previousValue register).toNat = word.toNat / 256 := by
  have hWord := word.toNat_lt
  simp [setWide, previousValue, Nat.shiftRight_eq_div_pow]
  omega

theorem toNat_value_setWide (file : RegisterFile ρ) (register : ρ) (word : UInt16) :
    ((file.setWide register word).value register).toNat = word.toNat % 256 := by
  simp [setWide, value]

end RegisterFile

/-- Some previous register was written, which makes the command a 48-bit one. -/
def RegisterFile.isExtended (file : RegisterFile InputRegister) : Bool :=
  InputRegister.all.any fun register => (file.previous register).isSome

/-- Some previous register is not 0, so that a 28-bit command could not stand in. -/
def RegisterFile.needsExtended (file : RegisterFile InputRegister) : Bool :=
  InputRegister.all.any fun register => file.previousValue register != 0

theorem RegisterFile.isExtended_of_needsExtended {file : RegisterFile InputRegister}
    (h : file.needsExtended = true) : file.isExtended = true := by
  simp only [needsExtended, isExtended, List.any_eq_true] at h ⊢
  obtain ⟨register, member, nonzero⟩ := h
  refine ⟨register, member, ?_⟩
  cases hp : file.previous register with
  | none => simp [previousValue, hp] at nonzero
  | some _ => rfl

theorem RegisterFile.previousValue_eq_zero_of_not_extended {file : RegisterFile InputRegister}
    (hExtended : file.isExtended = false) (register : InputRegister) :
    file.previousValue register = 0 := by
  have hNone := List.any_eq_false.mp hExtended register register.mem_all
  cases hPrevious : file.previous register with
  | none => rw [previousValue, hPrevious]; rfl
  | some byte => simp [hPrevious] at hNone

theorem RegisterFile.previousValue_eq_zero_of_not_needed {file : RegisterFile InputRegister}
    (hNeeded : file.needsExtended = false) (register : InputRegister) :
    file.previousValue register = 0 := by
  simpa using List.any_eq_false.mp hNeeded register register.mem_all

end DriveBridge.Ata
