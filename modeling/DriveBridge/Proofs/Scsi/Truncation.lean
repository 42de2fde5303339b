import DriveBridge.Proofs.Scsi.SenseReader
import DriveBridge.Proofs.Scsi.Sense

/-! How much of sense data its header depends on. A header is read from bytes that its own format
and its own length byte point at, and a byte that was cut off reads as 0. So bytes past the declared
length make no difference, and of data that arrives cut short a header keeps what it can. -/
namespace DriveBridge.Sense

/-- A field read from the start of some data, beside the same field read from all of it. -/
def KeptOrZero (short full : UInt8) : Prop := short = full ∨ short = 0

/-- A header read from the start of some data, beside the one read from all of it. -/
structure Header.Shortens (short full : Header) : Prop where
  responseCode : short.responseCode = full.responseCode
  senseKey : KeptOrZero short.senseKey full.senseKey
  asc : KeptOrZero short.asc full.asc
  ascq : KeptOrZero short.ascq full.ascq
  additionalLength : KeptOrZero short.additionalLength full.additionalLength

theorem KeptOrZero.low_bits {short full : UInt8} (hKept : KeptOrZero short full) :
    KeptOrZero (short &&& 0xf) (full &&& 0xf) := by
  rcases hKept with rfl | rfl
  · exact Or.inl rfl
  · exact Or.inr rfl

theorem header?_unknown {sense : Bytes} (hUnknown : ¬ 0x70 ≤ responseCode sense) :
    header? sense = none :=
  Decidable.of_not_not fun hSome => hUnknown (header?_ne_none_iff.mp hSome)

/-- A header depends on the first eight bytes and, except in descriptor format, on the bytes that
the data itself declares. -/
theorem header?_congr {first second : Bytes}
    (hHead : ∀ position < 8, first.byte position = second.byte position)
    (hFixed : ¬ 0x72 ≤ responseCode second → fixedExtent first = fixedExtent second) :
    header? first = header? second := by
  have hCode : responseCode first = responseCode second :=
    congrArg (· &&& 0x7f) (hHead 0 (by omega))
  by_cases hKnown : 0x70 ≤ responseCode second
  · by_cases hFormat : 0x72 ≤ responseCode second
    · rw [header?_descriptor hFormat, header?_descriptor (hCode ▸ hFormat), hCode,
        hHead 1 (by omega), hHead 2 (by omega), hHead 3 (by omega), hHead 7 (by omega)]
    · rw [header?_fixed hKnown hFormat, header?_fixed (hCode ▸ hKnown) (hCode ▸ hFormat), hCode,
        hHead 2 (by omega), hFixed hFormat]
  · rw [header?_unknown hKnown, header?_unknown (hCode ▸ hKnown)]

/-- What follows the declared bytes is not looked at, in whatever format. -/
theorem header?_fixedExtent_append {sense : Bytes}
    (hWhole : (sense.byte 7).toNat + 8 ≤ sense.length) (rest : Bytes) :
    header? (fixedExtent sense ++ rest) = header? sense := by
  have hLength : (fixedExtent sense).length = (sense.byte 7).toNat + 8 := by
    rw [length_fixedExtent, Nat.min_eq_left hWhole]
  have hHead : ∀ position < 8,
      Bytes.byte (fixedExtent sense ++ rest) position = sense.byte position := by
    intro position hPosition
    rw [← Bytes.byte_of_prefix (List.prefix_append _ rest) (by omega)]
    exact byte_fixedExtent_of_covers ⟨by omega, by omega⟩
  apply header?_congr hHead
  intro _
  rw [fixedExtent, hHead 7 (by omega), List.take_left' hLength]

/-- In descriptor format the header is in the first eight bytes. -/
theorem header?_take_eight {sense : Bytes} (hFormat : 0x72 ≤ responseCode sense) :
    header? (sense.take 8) = header? sense := by
  apply header?_congr
  · intro position hPosition
    simp only [Bytes.byte, List.getD_eq_getElem?_getD, List.getElem?_take_of_lt hPosition]
  · intro hFixed
    exact absurd hFormat hFixed

section Cuts

variable {front sense : Bytes}

theorem byte_keptOrZero (hFront : front <+: sense) (position : Nat) :
    KeptOrZero (front.byte position) (sense.byte position) := by
  by_cases hInside : position < front.length
  · exact Or.inl (Bytes.byte_of_prefix hFront hInside)
  · exact Or.inr (Bytes.byte_of_length_le (Nat.not_lt.mp hInside))

/-- A cut that takes the length byte away takes everything past it, too. Otherwise the same bytes
count as before. -/
theorem byte_fixedExtent_keptOrZero (hFront : front <+: sense) {position : Nat}
    (hPast : 7 < position) :
    KeptOrZero ((fixedExtent front).byte position) ((fixedExtent sense).byte position) := by
  rw [byte_fixedExtent, byte_fixedExtent]
  by_cases hLength : 7 < front.length
  · rw [Bytes.byte_of_prefix hFront hLength]
    split
    · exact byte_keptOrZero hFront position
    · exact Or.inl rfl
  · have hGone : front.byte position = 0 := Bytes.byte_of_length_le (by omega)
    rw [hGone, ite_self]
    exact Or.inr rfl

/-- Where anything is left of the data, a header is found exactly if there was one, and each of its
fields is kept or reads as 0. -/
theorem header?_of_prefix (hFront : front <+: sense) (hSome : front ≠ []) :
    Option.Rel Header.Shortens (header? front) (header? sense) := by
  have hCode : responseCode front = responseCode sense :=
    congrArg (· &&& 0x7f) (Bytes.byte_of_prefix hFront (List.length_pos_iff.mpr hSome))
  have hByte := byte_keptOrZero hFront
  by_cases hKnown : 0x70 ≤ responseCode sense
  · by_cases hFormat : 0x72 ≤ responseCode sense
    · rw [header?_descriptor hFormat, header?_descriptor (hCode ▸ hFormat)]
      exact .some ⟨hCode, (hByte 1).low_bits, hByte 2, hByte 3, hByte 7⟩
    · have hExtent : ∀ position, 7 < position →
          KeptOrZero ((fixedExtent front).byte position) ((fixedExtent sense).byte position) :=
        fun _ => byte_fixedExtent_keptOrZero hFront
      rw [header?_fixed hKnown hFormat, header?_fixed (hCode ▸ hKnown) (hCode ▸ hFormat)]
      exact .some ⟨hCode, (hByte 2).low_bits, hExtent 12 (by omega), hExtent 13 (by omega),
        Or.inl rfl⟩
  · rw [header?_unknown hKnown, header?_unknown (hCode ▸ hKnown)]
    exact .none

end Cuts

/-- Reading a header goes well on all data. Bytes past the declared ones do not matter, in
descriptor format none past the first eight do, and data that was cut short has a header exactly if
the whole data has one, with the same response code and with every other field kept or 0. -/
theorem header?_bounded (sense : Bytes) :
    readHeader sense = some (header? sense) ∧
      ((sense.byte 7).toNat + 8 ≤ sense.length →
        ∀ rest, header? (fixedExtent sense ++ rest) = header? sense) ∧
      (0x72 ≤ responseCode sense → header? (sense.take 8) = header? sense) ∧
      ∀ front, front <+: sense → front ≠ [] →
        Option.Rel Header.Shortens (header? front) (header? sense) := by
  refine ⟨readHeader_eq sense, ?_, ?_, ?_⟩
  · intro hWhole rest
    exact header?_fixedExtent_append hWhole rest
  · intro hFormat
    exact header?_take_eight hFormat
  · intro front hFront hSome
    exact header?_of_prefix hFront hSome

/-- A length byte that leaves out the codes of fixed format, a byte past the header of descriptor
format, and a cut that takes the qualifier away. -/
theorem header?_of_cut_data :
    header? ([0x70, 0, 0x05, 0, 0, 0, 0, 4, 0, 0, 0, 0] ++ [0x24, 0x01]) =
        header? ([0x70, 0, 0x05, 0, 0, 0, 0, 4, 0, 0, 0, 0] ++ [0x3a]) ∧
      header? [0x72, 0x05, 0x24, 0, 0, 0, 0, 6] =
        header? [0x72, 0x05, 0x24, 0, 0, 0, 0, 6, 0x09] ∧
      Option.Rel Header.Shortens (header? [0x72, 0x05, 0x24]) (header? [0x72, 0x05, 0x24, 0x01]) := by
  have hExtent : fixedExtent ([0x70, 0, 0x05, 0, 0, 0, 0, 4, 0, 0, 0, 0] ++ [0x3a]) =
      [0x70, 0, 0x05, 0, 0, 0, 0, 4, 0, 0, 0, 0] := by decide
  have hFixed := header?_bounded ([0x70, 0, 0x05, 0, 0, 0, 0, 4, 0, 0, 0, 0] ++ [0x3a])
  have hDescriptor := header?_bounded [0x72, 0x05, 0x24, 0, 0, 0, 0, 6, 0x09]
  have hCut := header?_bounded [0x72, 0x05, 0x24, 0x01]
  rw [hExtent] at hFixed
  refine ⟨hFixed.2.1 (by decide) [0x24, 0x01], hDescriptor.2.2.1 (by decide), ?_⟩
  exact hCut.2.2.2 [0x72, 0x05, 0x24] (by decide) (by decide)

end DriveBridge.Sense
