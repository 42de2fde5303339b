import DriveBridge.Ata.Request

/-! When a request passes its check: if it agrees with itself and asks for nothing that the
translator lacks. The count of sectors that a size is held against is an argument here, because
the check and the register file make different ones of the same two bytes. -/
namespace DriveBridge.Ata.Request

/-- The size of a request agrees with its direction, its buffer and a count of sectors. -/
structure Consistent (request : Request) (count : Nat) : Prop where
  noData : request.direction = .noData → request.size = 0
  buffer : request.direction ≠ .noData →
    ∃ buffer, request.buffer = some buffer ∧ request.size ≤ buffer.length
  count : request.direction ≠ .noData → request.size = sectorSize * count

/-- A request asks for nothing that a translator lacks. -/
structure Supported (request : Request) (support : Support) : Prop where
  dataOut : request.direction = .dataOut → support.dataOut = true
  registers : request.wantsRegisters = true →
    support.outputRegisters = true ∨ request.isSmartStatus = true ∧ support.smartStatus = true
  sectors : request.size ≠ 0 → request.size ≠ sectorSize → support.multiSector = true
  extended : request.registers.isExtended = true →
    support.extendedZero = true ∨ support.extended = true
  extendedNonzero : request.registers.needsExtended = true → support.extended = true

section Consequences

variable {request first second : Request} {support : Support} {count : Nat}

theorem Consistent.direction_ne_noData {request : Request} (hConsistent : request.Consistent count)
    (hSize : request.size ≠ 0) : request.direction ≠ .noData :=
  fun hNoData => hSize (hConsistent.noData hNoData)

/-- The length that goes into a CDB is the size, with or without data. -/
theorem Consistent.length_eq {request : Request} (hConsistent : request.Consistent count) :
    (if request.direction = .noData then 0 else request.size) = request.size := by
  split
  next hNoData => exact (hConsistent.noData hNoData).symm
  next => rfl

/-- Direction and count determine the size. -/
theorem Consistent.size_eq (hFirst : first.Consistent count) (hSecond : second.Consistent count)
    (hDirection : first.direction = second.direction) : first.size = second.size := by
  by_cases hNoData : first.direction = .noData
  · rw [hFirst.noData hNoData, hSecond.noData (hDirection ▸ hNoData)]
  · rw [hFirst.count hNoData, hSecond.count (hDirection ▸ hNoData)]

/-- A translator without multi-sector transfers moves one sector or none. -/
theorem Supported.size_cases {request : Request} (hSupported : request.Supported support)
    (hSectors : support.multiSector = false) : request.size = 0 ∨ request.size = sectorSize := by
  by_cases hZero : request.size = 0
  · exact .inl hZero
  · by_cases hOne : request.size = sectorSize
    · exact .inr hOne
    · cases hSectors.symm.trans (hSupported.sectors hZero hOne)

/-- Any number that tells one sector from none tells the size. -/
theorem Supported.size_eq {Code : Type} (encode : Nat → Code)
    (hApart : encode 0 ≠ encode sectorSize) (hSectors : support.multiSector = false)
    (hFirst : first.Supported support) (hSecond : second.Supported support)
    (hCode : encode first.size = encode second.size) : first.size = second.size := by
  rcases hFirst.size_cases hSectors with hSize | hSize <;>
    rcases hSecond.size_cases hSectors with hSize' | hSize' <;>
    rw [hSize, hSize'] at hCode ⊢
  · exact (hApart hCode).elim
  · exact (hApart hCode.symm).elim

/-- Where data is transferred, the direction is told by whether it leaves for the device. -/
theorem Consistent.direction_eq {count' : Nat} (hFirst : first.Consistent count)
    (hSecond : second.Consistent count') (hSize : first.size = second.size)
    (hOut : first.direction = .dataOut ↔ second.direction = .dataOut) (hData : first.size ≠ 0) :
    first.direction = second.direction := by
  have hFirst := hFirst.direction_ne_noData hData
  have hSecond := hSecond.direction_ne_noData (hSize ▸ hData)
  cases hDirection : first.direction <;> cases hDirection' : second.direction <;> simp_all

/-- A translator that sends no previous registers sees no request that needs them. -/
theorem Supported.previousValue_eq_zero {request : Request}
    (hSupported : request.Supported support) (hExtended : support.extended = false)
    (register : InputRegister) : request.registers.previousValue register = 0 := by
  apply RegisterFile.previousValue_eq_zero_of_not_needed
  cases hNeeded : request.registers.needsExtended with
  | false => rfl
  | true => cases hExtended.symm.trans (hSupported.extendedNonzero hNeeded)

end Consequences

variable (request : Request) (support : Support)

private theorem refusal_eq_none_iff {condition : Prop} [Decidable condition] {refusal : Refusal}
    {rest : Option Refusal} :
    (if condition then some refusal else rest) = none ↔ ¬ condition ∧ rest = none := by
  by_cases h : condition <;> simp [h]

theorem contradiction?_eq_none_iff :
    request.contradiction? = none ↔ request.Consistent request.sectorCount := by
  unfold contradiction?
  cases hDirection : request.direction with
  | noData =>
      constructor
      · intro h
        exact ⟨fun _ => by simpa using h, by simp [hDirection], by simp [hDirection]⟩
      · intro hAgrees
        obtain ⟨hNoData, -, -⟩ := hAgrees
        simp [hNoData hDirection]
  | dataIn | dataOut =>
      cases hBuffer : request.buffer with
      | none =>
          constructor
          · simp
          · intro hAgrees
            obtain ⟨-, hSome, -⟩ := hAgrees
            simp [hDirection, hBuffer] at hSome
      | some buffer =>
          simp only [refusal_eq_none_iff, Decidable.not_not, Nat.not_lt, and_true]
          constructor
          · intro hNone
            obtain ⟨hCount, hLength⟩ := hNone
            refine ⟨by simp [hDirection], fun _ => ⟨buffer, hBuffer, hLength⟩, fun _ => ?_⟩
            rw [← hCount, Nat.mul_comm]
          · intro hAgrees
            obtain ⟨-, hSome, hCount⟩ := hAgrees
            obtain ⟨other, hOther, hLength⟩ := hSome (by simp [hDirection])
            cases hBuffer.symm.trans hOther
            exact ⟨by rw [hCount (by simp [hDirection]), Nat.mul_comm], hLength⟩

theorem lacking?_eq_none_iff : request.lacking? support = none ↔ request.Supported support := by
  simp only [lacking?, refusal_eq_none_iff, and_true]
  constructor
  · intro hNone
    obtain ⟨hOut, hRegisters, hSectors, hExtended, hNonzero⟩ := hNone
    constructor <;> grind
  · intro hSupported
    obtain ⟨hOut, hRegisters, hSectors, hExtended, hNonzero⟩ := hSupported
    grind

/-- A request passes its check exactly if it agrees with itself and is supported. The tag only
marks the message of a refusal. -/
theorem check_eq_ok_iff (tag : Option String) :
    request.check support tag = .ok () ↔
      request.Consistent request.sectorCount ∧ request.Supported support := by
  rw [← contradiction?_eq_none_iff, ← lacking?_eq_none_iff, check, refusal?]
  cases request.contradiction? <;> cases request.lacking? support <;> simp

/-- The two counts of sectors differ as soon as the previous byte is not 0. -/
theorem sectorCount_eq_wide_iff :
    request.sectorCount = (request.registers.wide .sectorCount).toNat ↔
      request.registers.previousValue .sectorCount = 0 := by
  rw [RegisterFile.toNat_wide, sectorCount, ← UInt8.toNat_inj]
  constructor
  · intro h
    change _ = 0
    omega
  · intro h
    change _ = 0 at h
    omega

variable {request} in
/-- At most one count goes with a request that transfers data. -/
theorem Consistent.count_unique {first second : Nat} (hFirst : request.Consistent first)
    (hSecond : request.Consistent second) (hData : request.direction ≠ .noData) :
    first = second := by
  have hSize := (hFirst.count hData).symm.trans (hSecond.count hData)
  exact Nat.eq_of_mul_eq_mul_left (by decide) hSize

variable {request} in
theorem Consistent.of_noData {first second : Nat} (hNoData : request.direction = .noData)
    (hFirst : request.Consistent first) : request.Consistent second :=
  ⟨hFirst.noData, fun h => (h hNoData).elim, fun h => (h hNoData).elim⟩

/-- The check is the intended one, by the 16-bit count of the register file, exactly if no data
is transferred, the previous byte of the count is 0, or the request is refused by either count. -/
theorem check_eq_ok_iff_wide_iff (tag : Option String) :
    (request.check support tag = .ok () ↔
        request.Consistent (request.registers.wide .sectorCount).toNat ∧
          request.Supported support) ↔
      request.direction = .noData ∨ request.registers.previousValue .sectorCount = 0 ∨
        ¬ request.Supported support ∨
        ¬ request.Consistent (request.registers.wide .sectorCount).toNat ∧
          ¬ request.Consistent request.sectorCount := by
  rw [check_eq_ok_iff, ← sectorCount_eq_wide_iff]
  constructor
  · intro hSame
    by_cases hNoData : request.direction = .noData
    · exact .inl hNoData
    by_cases hCount : request.sectorCount = (request.registers.wide .sectorCount).toNat
    · exact .inr (.inl hCount)
    by_cases hSupported : request.Supported support
    · have hNever : ¬ (request.Consistent request.sectorCount ∧
          request.Consistent (request.registers.wide .sectorCount).toNat) :=
        fun h => hCount (h.1.count_unique h.2 hNoData)
      simp only [hSupported, and_true] at hSame
      exact .inr (.inr (.inr ⟨fun hWide => hNever ⟨hSame.mpr hWide, hWide⟩,
        fun hCoded => hNever ⟨hCoded, hSame.mp hCoded⟩⟩))
    · exact .inr (.inr (.inl hSupported))
  · intro hCase
    rcases hCase with hNoData | hCount | hUnsupported | ⟨hWide, hCoded⟩
    · exact and_congr_left fun _ => ⟨.of_noData hNoData, .of_noData hNoData⟩
    · rw [hCount]
    · simp [hUnsupported]
    · simp [hWide, hCoded]

/-- A prepared 48-bit read passes the check of a translator that carries it exactly if it asks
for fewer than 256 sectors. -/
theorem check_setDataInExtended_eq_ok_iff (tag : Option String) (buffer : Bytes)
    (count : UInt16) (hLength : sectorSize * count.toNat ≤ buffer.length)
    (hSectors : support.multiSector = true) (hExtended : support.extended = true)
    (hRegisters : request.wantsRegisters = true → support.outputRegisters = true) :
    (request.setDataInExtended buffer count).check support tag = .ok () ↔ count.toNat < 256 := by
  let prepared := request.setDataInExtended buffer count
  have hSupported : prepared.Supported support :=
    ⟨nofun, fun h => .inl (hRegisters h), fun _ _ => hSectors, fun _ => .inr hExtended,
      fun _ => hExtended⟩
  have hSize : prepared.size = count.toNat * sectorSize := rfl
  have hCount : prepared.sectorCount = count.toNat / 256 * 65536 + count.toNat % 256 := by
    rw [← RegisterFile.toNat_previousValue_setWide request.registers .sectorCount count,
      ← RegisterFile.toNat_value_setWide request.registers .sectorCount count]
    rfl
  rw [check_eq_ok_iff]
  constructor
  · intro hPassed
    obtain ⟨hConsistent, -⟩ := hPassed
    have hSame := hConsistent.count nofun
    rw [hSize, hCount, sectorSize] at hSame
    omega
  · intro hSmall
    refine ⟨⟨nofun, fun _ => ⟨buffer, rfl, ?_⟩, fun _ => ?_⟩, hSupported⟩
    · rw [hSize, Nat.mul_comm]
      exact hLength
    · rw [hSize, hCount, sectorSize]
      omega

/-- What the check accepts, when it is the intended one, and what that means for prepared 48-bit
reads. The intended count has the previous byte in its upper half; the one that the check goes by
has it 8 bits further up. -/
theorem check_exact_iff (tag : Option String) :
    (request.check support tag = .ok () ↔
        request.Consistent request.sectorCount ∧ request.Supported support) ∧
      ((request.check support tag = .ok () ↔
          request.Consistent (request.registers.wide .sectorCount).toNat ∧
            request.Supported support) ↔
        request.direction = .noData ∨ request.registers.previousValue .sectorCount = 0 ∨
          ¬ request.Supported support ∨
          ¬ request.Consistent (request.registers.wide .sectorCount).toNat ∧
            ¬ request.Consistent request.sectorCount) ∧
      ∀ (buffer : Bytes) (count : UInt16), sectorSize * count.toNat ≤ buffer.length →
        support.multiSector = true → support.extended = true →
        (request.wantsRegisters = true → support.outputRegisters = true) →
        ((request.setDataInExtended buffer count).check support tag = .ok () ↔
          count.toNat < 256) := by
  refine ⟨request.check_eq_ok_iff support tag, request.check_eq_ok_iff_wide_iff support tag, ?_⟩
  intro buffer count hLength hSectors hExtended hRegisters
  exact request.check_setDataInExtended_eq_ok_iff support tag buffer count hLength hSectors
    hExtended hRegisters

/-- The largest prepared 48-bit read that passes. -/
theorem read_of_255_sectors_passes :
    (({} : Request).setDataInExtended (Bytes.zeros 130560) 255).check
      { multiSector := true, extended := true } none = .ok () :=
  ((check_exact_iff {} { multiSector := true, extended := true } none).2.2 (Bytes.zeros 130560) 255
    (by rw [Bytes.length_zeros]; decide) rfl rfl nofun).mpr (by decide)

/-- A 48-bit read of 256 sectors agrees with its buffer and is supported, and it is refused. -/
theorem read_of_256_sectors_refused :
    let request := ({} : Request).setDataInExtended (Bytes.zeros 131072) 256
    let support : Support := { multiSector := true, extended := true }
    ¬ (request.check support none = .ok () ↔
      request.Consistent (request.registers.wide .sectorCount).toNat ∧
        request.Supported support) := by
  intro request support hSame
  have hConsistent : request.Consistent (request.registers.wide .sectorCount).toNat :=
    ⟨nofun, fun _ => ⟨_, rfl, by rw [Bytes.length_zeros]; decide⟩, fun _ => by decide⟩
  have hSupported : request.Supported support :=
    ⟨nofun, nofun, fun _ _ => rfl, fun _ => .inr rfl, fun _ => rfl⟩
  have hChecked := hSame.mpr ⟨hConsistent, hSupported⟩
  rw [check_eq_ok_iff] at hChecked
  exact absurd (hChecked.1.count nofun) (by decide)

end DriveBridge.Ata.Request
