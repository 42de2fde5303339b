import DriveBridge.Proofs.Nvme.JMicron

/-! How much a request moves, as the bridge is told. The CDB of the data phase has 24 bits for its
length in bytes. The command block of a log page counts dwords, with the count split over two dwords
of the block; the clamp of the self-test log rewrites one of them. -/
namespace DriveBridge.Nvme.JMicron

/-- The length that a CDB announces: three bytes, the most significant one first. -/
def announcedLength (cdb : Bytes) : Nat :=
  (cdb.byte 3).toNat * 0x10000 + (cdb.byte 4).toNat * 0x100 + (cdb.byte 5).toNat

section Announces

variable {command : Scsi.Command} {phase : Phase} {length : Nat}
  (announces : Announces command phase length)

include announces

/-- Only the low 24 bits of a length are announced. -/
theorem Announces.announcedLength_eq : announcedLength command.cdb = length % 0x1000000 := by
  rw [announces.cdb]
  show (length / 0x10000).toUInt8.toNat * 0x10000 + (length / 0x100).toUInt8.toNat * 0x100 +
    length.toUInt8.toNat = _
  simp only [Nat.toUInt8_eq, UInt8.toNat_ofNat']
  omega

theorem Announces.announcedLength_eq_iff :
    announcedLength command.cdb = command.data.length ↔ length < 0x1000000 := by
  rw [announces.announcedLength_eq, announces.length]
  exact Nat.mod_eq_iff_lt (by decide)

end Announces

/-- The dwords of a log page that a command block asks for. Their count, less one, has its low half
in the upper half of dword 12 of the block, and its high half in the lower half of dword 13. -/
def dwordsAsked (block : Bytes) : Nat :=
  (block.le32At 52).toUInt16.toNat * 0x10000 + (block.le32At 48 >>> 16).toNat + 1

/-- More of the self-test log is to be read than the bridge can transfer. -/
def ReadsLongSelfTest (request : Request) : Prop :=
  request.opcode = Opcode.getLogPage ∧ request.cdw10.toUInt8 = selfTestLog ∧
    selfTestLimit < request.size

section SelfTest

variable {request : Request}

theorem isClamped_iff : isClamped request = true ↔ ReadsLongSelfTest request := by
  simp [isClamped, ReadsLongSelfTest, and_assoc]

theorem isClamped_eq_false (short : ¬ ReadsLongSelfTest request) : isClamped request = false :=
  Bool.eq_false_iff.mpr fun hClamped => short (isClamped_iff.mp hClamped)

theorem ReadsLongSelfTest.direction (long : ReadsLongSelfTest request) :
    request.direction = .dataIn := by
  rw [Request.direction, long.1]
  rfl

theorem ReadsLongSelfTest.dataLength (long : ReadsLongSelfTest request) :
    dataLength request = selfTestLimit := by
  simp [JMicron.dataLength, long.direction, transferLength, isClamped_iff.mpr long]

theorem dataLength_of_not_long (short : ¬ ReadsLongSelfTest request) :
    dataLength request = if request.direction = .noData then 0 else request.size := by
  simp [dataLength, transferLength, isClamped_eq_false short]

theorem le32At_commandBlock_48 : (commandBlock request).le32At 48 = sentCdw10 request :=
  le32At_commandBlock request 12

theorem le32At_commandBlock_52 : (commandBlock request).le32At 52 = request.cdw11 :=
  le32At_commandBlock request 13

theorem sentCdw10_of_long (long : ReadsLongSelfTest request) :
    sentCdw10 request = request.cdw10 &&& (0xffff : UInt32) ||| (0x850000 : UInt32) := by
  simp only [sentCdw10, isClamped_iff.mpr long]
  rfl

/-- The clamp keeps the lower half of the tenth dword, which names the log page. -/
theorem ReadsLongSelfTest.toUInt16_sentCdw10 (long : ReadsLongSelfTest request) :
    (sentCdw10 request).toUInt16 = request.cdw10.toUInt16 := by
  have hKept : (0xffff : UInt32).toUInt16 = -1 := rfl
  have hUpper : (0x850000 : UInt32).toUInt16 = 0 := rfl
  rw [sentCdw10_of_long long, UInt32.toUInt16_or, UInt32.toUInt16_and, hKept, hUpper,
    UInt16.and_neg_one, UInt16.or_zero]

theorem ReadsLongSelfTest.sentCdw10_shiftRight (long : ReadsLongSelfTest request) :
    sentCdw10 request >>> 16 = 0x85 := by
  have hCleared : (request.cdw10 &&& (0xffff : UInt32)) >>> 16 = 0 := by
    apply UInt32.toNat_inj.mp
    simpa [Nat.shiftRight_eq_div_pow] using
      Nat.and_lt_two_pow (n := 16) request.cdw10.toNat (by decide)
  rw [sentCdw10_of_long long, UInt32.shiftRight_or, hCleared]
  rfl

/-- A clamped request asks for a clamped transfer, and for what the other half of the count adds,
which is sent as it came. -/
theorem ReadsLongSelfTest.dwordsAsked (long : ReadsLongSelfTest request) :
    dwordsAsked (commandBlock request) =
      request.cdw11.toUInt16.toNat * 0x10000 + selfTestLimit / 4 := by
  rw [JMicron.dwordsAsked, le32At_commandBlock_48, le32At_commandBlock_52,
    long.sentCdw10_shiftRight]
  exact Nat.add_assoc _ 0x85 1

theorem ReadsLongSelfTest.dwordsAsked_eq_iff (long : ReadsLongSelfTest request) :
    JMicron.dwordsAsked (commandBlock request) = selfTestLimit / 4 ↔
      request.cdw11.toUInt16 = 0 := by
  rw [long.dwordsAsked, ← UInt16.toNat_inj, UInt16.toNat_zero]
  omega

end SelfTest

end DriveBridge.Nvme.JMicron
