import DriveBridge.Factory.TypeName
import DriveBridge.Proofs.Text.Numeral

/-! The types that the readers take, and the proof that they take no others. The readers leave it to
the numerals whether a plus sign may stand in front of a number; the grammar does so, too, and is
given for any kind of numerals. -/
namespace DriveBridge.Factory

open Text Chain

/-- Nothing, or the option. -/
inductive OptionalText (option : List Char) : List Char → Prop where
  | absent : OptionalText option []
  | present : OptionalText option option

/-- The lengths in bytes that may be asked of a SAT command. 0 leaves it to the default. -/
def IsSatLength (value : Nat) : Prop := value = 0 ∨ value = 12 ∨ value = 16

/-- Which texts are numerals in a base, and for which numbers. -/
abbrev Numerals := Nat → List Char → Nat → Prop

/-- Nothing, or the numeral of a number in range after a lead. -/
inductive OptionalNumeral (Numeral : List Char → Nat → Prop) (lead : List Char)
    (InRange : Nat → Prop) : List Char → Prop where
  | absent : OptionalNumeral Numeral lead InRange []
  | present {digits : List Char} {value : Nat} (numeral : Numeral digits value)
      (inRange : InRange value) : OptionalNumeral Numeral lead InRange (lead ++ digits)

/-- The types of translators from ATA to SCSI, with the protocol that the device shows. The last of
them is SCSI with nothing to translate. -/
inductive AtaType (Numeral : Numerals) : Protocol → List Char → Prop where
  | sat {length : List Char} (hLength : OptionalNumeral (Numeral 10) [','] IsSatLength length) :
      AtaType Numeral .ata ("sat".toList ++ length)
  | probed {length : List Char} (hLength : OptionalNumeral (Numeral 10) [','] IsSatLength length) :
      AtaType Numeral .scsi ("sat".toList ++ (",auto".toList ++ length))
  | cypress {signature : List Char}
      (hSignature : OptionalNumeral (Numeral 16) [',', '0', 'x'] (· ≤ 0xff) signature) :
      AtaType Numeral .ata ("usbcypress".toList ++ signature)
  | jmicron {trailer extended port : List Char} (hTrailer : OptionalText ",p".toList trailer)
      (hExtended : OptionalText ",x".toList extended)
      (hPort : OptionalNumeral (Numeral 10) [','] (· ≤ 1) port) :
      AtaType Numeral .ata ("usbjmicron".toList ++ (trailer ++ (extended ++ port)))
  | prolific : AtaType Numeral .ata "usbprolific".toList
  | sunplus : AtaType Numeral .ata "usbsunplus".toList
  | scsi : AtaType Numeral .scsi "scsi".toList

/-- The types of translators from NVMe to SCSI. -/
inductive NvmeType (Numeral : Numerals) : List Char → Prop where
  | asmedia {ending : List Char} (hEnding : OptionalText "/sat".toList ending) :
      NvmeType Numeral ("sntasmedia".toList ++ ending)
  | realtek {ending : List Char} (hEnding : OptionalText "/sat".toList ending) :
      NvmeType Numeral ("sntrealtek".toList ++ ending)
  | jmicron {nsid ending : List Char}
      (hNsid : OptionalNumeral (Numeral 16) [',', '0', 'x'] (· < 2 ^ 32) nsid)
      (hEnding : OptionalText "/sat".toList ending) :
      NvmeType Numeral ("sntjmicron".toList ++ nsid ++ ending)

/-- The types of routed drives. -/
inductive RoutedType (Numeral : Numerals) : List Char → Prop where
  | drive {digits : List Char} {value : Nat} (numeral : Numeral 10 digits value)
      (inRange : value ≤ 3) : RoutedType Numeral ("intelliprop,".toList ++ digits)

section Numerals

variable {Numeral Wider : Numerals} {type : List Char}

theorem OptionalNumeral.mono {Narrow Wide : List Char → Nat → Prop} {lead text : List Char}
    {InRange : Nat → Prop}
    (hWider : ∀ digits value, digits <:+: text → Narrow digits value → Wide digits value)
    (hText : OptionalNumeral Narrow lead InRange text) :
    OptionalNumeral Wide lead InRange text := by
  cases hText with
  | absent => exact .absent
  | present numeral inRange =>
      exact .present (hWider _ _ (List.suffix_append _ _).isInfix numeral) inRange

variable (hWider : ∀ base digits value, digits <:+: type →
  Numeral base digits value → Wider base digits value)

include hWider

/-- The numerals of a type are parts of it, so that only these matter. -/
theorem AtaType.mono {protocol : Protocol} (hType : AtaType Numeral protocol type) :
    AtaType Wider protocol type := by
  cases hType with
  | sat hLength =>
      refine .sat (hLength.mono fun digits value hPart => hWider 10 digits value ?_)
      exact hPart.trans (List.suffix_append _ _).isInfix
  | probed hLength =>
      refine .probed (hLength.mono fun digits value hPart => hWider 10 digits value ?_)
      exact hPart.trans ((List.suffix_append _ _).trans (List.suffix_append _ _)).isInfix
  | cypress hSignature =>
      refine .cypress (hSignature.mono fun digits value hPart => hWider 16 digits value ?_)
      exact hPart.trans (List.suffix_append _ _).isInfix
  | jmicron hTrailer hExtended hPort =>
      refine .jmicron hTrailer hExtended (hPort.mono fun digits value hPart =>
        hWider 10 digits value ?_)
      exact hPart.trans (((List.suffix_append _ _).trans (List.suffix_append _ _)).trans
        (List.suffix_append _ _)).isInfix
  | prolific => exact .prolific
  | sunplus => exact .sunplus
  | scsi => exact .scsi

theorem NvmeType.mono (hType : NvmeType Numeral type) : NvmeType Wider type := by
  cases hType with
  | asmedia hEnding => exact .asmedia hEnding
  | realtek hEnding => exact .realtek hEnding
  | jmicron hNsid hEnding =>
      refine .jmicron (hNsid.mono fun digits value hPart => hWider 16 digits value ?_) hEnding
      exact hPart.trans ((List.suffix_append _ _).isInfix.trans (List.prefix_append _ _).isInfix)

theorem RoutedType.mono (hType : RoutedType Numeral type) : RoutedType Wider type := by
  cases hType with
  | drive numeral inRange =>
      exact .drive (hWider 10 _ _ (List.suffix_append _ _).isInfix numeral) inRange

end Numerals

section Signs

variable {type : List Char} {protocol : Protocol}

/-- A type without a plus sign has none in front of a number. -/
theorem spells_of_reads (hSign : '+' ∉ type) :
    ∀ base digits value, digits <:+: type → Reads base digits value → Spells base digits value :=
  fun _ _ _ hPart reads => reads.spells fun hMem => hSign (hPart.subset hMem)

theorem reads_of_spells :
    ∀ base digits value, digits <:+: type → Spells base digits value → Reads base digits value :=
  fun _ _ _ _ => .plain

theorem OptionalText.sign_not_mem {option text : List Char} (hText : OptionalText option text)
    (hOption : '+' ∉ option) : '+' ∉ text := by
  cases hText with
  | absent => exact List.not_mem_nil
  | present => exact hOption

theorem OptionalNumeral.sign_not_mem {base : Nat} {lead text : List Char} {InRange : Nat → Prop}
    (hText : OptionalNumeral (Spells base) lead InRange text) (hBase : base ≤ 16)
    (hLead : '+' ∉ lead) : '+' ∉ text := by
  cases hText with
  | absent => exact List.not_mem_nil
  | present spells inRange =>
      exact List.not_mem_append hLead (spells.not_mem hBase digit?_sign)

theorem AtaType.sign_not_mem (hType : AtaType Spells protocol type) : '+' ∉ type := by
  cases hType with
  | sat hLength =>
      exact List.not_mem_append (by decide) (hLength.sign_not_mem (by decide) (by decide))
  | probed hLength =>
      have hRest := hLength.sign_not_mem (by decide) (by decide)
      exact List.not_mem_append (by decide) (List.not_mem_append (by decide) hRest)
  | cypress hSignature =>
      exact List.not_mem_append (by decide) (hSignature.sign_not_mem (by decide) (by decide))
  | jmicron hTrailer hExtended hPort =>
      have hOptions := List.not_mem_append (hTrailer.sign_not_mem (by decide))
        (List.not_mem_append (hExtended.sign_not_mem (by decide))
          (hPort.sign_not_mem (by decide) (by decide)))
      exact List.not_mem_append (by decide) hOptions
  | prolific | sunplus | scsi => decide

theorem NvmeType.sign_not_mem (hType : NvmeType Spells type) : '+' ∉ type := by
  cases hType with
  | asmedia hEnding => exact List.not_mem_append (by decide) (hEnding.sign_not_mem (by decide))
  | realtek hEnding => exact List.not_mem_append (by decide) (hEnding.sign_not_mem (by decide))
  | jmicron hNsid hEnding =>
      have hName : '+' ∉ "sntjmicron".toList := by decide
      have hOption := hNsid.sign_not_mem (by decide) (by decide)
      exact List.not_mem_append (List.not_mem_append hName hOption)
        (hEnding.sign_not_mem (by decide))

theorem RoutedType.sign_not_mem (hType : RoutedType Spells type) : '+' ∉ type := by
  cases hType with
  | drive spells _ =>
      exact List.not_mem_append (by decide) (spells.not_mem (by decide) digit?_sign)

end Signs

section Numbers

variable {lead text : List Char} {base : Nat} {InRange : Nat → Prop}

theorem read_iff (hBase : base ≤ 16) {number : UInt32} :
    (after? lead text).bind (numeral? base) = some number ↔
      ∃ digits, text = lead ++ digits ∧ Reads base digits number.toNat := by
  simp only [Option.bind_eq_some_iff, after?_eq_some_iff, numeral?_eq_some_iff_reads hBase]

theorem OptionalNumeral.of_read (hBase : base ≤ 16) {number : UInt32}
    (hRead : (after? lead text).bind (numeral? base) = some number)
    (hRange : InRange number.toNat) : OptionalNumeral (Reads base) lead InRange text := by
  obtain ⟨digits, rfl, reads⟩ := (read_iff hBase).mp hRead
  exact .present reads hRange

theorem read_of_reads (lead : List Char) (hBase : base ≤ 16) {value : Nat}
    (reads : Reads base text value) (hSize : value < UInt32.size) :
    ∃ number : UInt32, (after? lead (lead ++ text)).bind (numeral? base) = some number ∧
      number.toNat = value := by
  have hValue : value.toUInt32.toNat = value := UInt32.toNat_ofNat_of_lt' hSize
  exact ⟨value.toUInt32, (read_iff hBase).mpr ⟨text, rfl, hValue.symm ▸ reads⟩, hValue⟩

theorem OptionalNumeral.read (hBase : base ≤ 16)
    (hSize : ∀ value, InRange value → value < UInt32.size)
    (hText : OptionalNumeral (Reads base) lead InRange text) : text = [] ∨ text.isEmpty = false ∧
      ∃ number : UInt32, (after? lead text).bind (numeral? base) = some number ∧
        InRange number.toNat := by
  cases hText with
  | absent => exact .inl rfl
  | present reads inRange =>
      obtain ⟨number, hRead, rfl⟩ := read_of_reads lead hBase reads (hSize _ inRange)
      exact .inr ⟨by simp [reads.ne_nil], number, hRead, inRange⟩

/-- A number that a text brings is not an option that begins with a letter. -/
theorem OptionalNumeral.after?_eq_none (hBase : base ≤ 16) {rest : List Char} {c : Char}
    (hText : OptionalNumeral (Reads base) [','] InRange text) (hNone : digit? base c = none)
    (hOther : c ≠ '+') : after? (',' :: c :: rest) text = none := by
  cases hText with
  | absent => rfl
  | @present digits _ reads _ =>
      cases hAfter : after? (',' :: c :: rest) ([','] ++ digits) with
      | none => rfl
      | some after =>
          have hDigits : digits = c :: (rest ++ after) :=
            List.tail_eq_of_cons_eq (after?_eq_some_iff.mp hAfter)
          have hMem : c ∈ digits := hDigits ▸ List.mem_cons_self ..
          exact (reads.not_mem hBase hNone hOther hMem).elim

end Numbers

section Options

variable {default : Ata.Sat.Length} {options : List Char} {translator : AtaTranslator}

/-- The protocol of the device that a translator makes. -/
def AtaTranslator.protocol : AtaTranslator → Protocol
  | .sat .always _ | .bridge _ => .ata
  | .sat .auto _ | .sat .never _ => .scsi

theorem exists_satLength?_iff {number : UInt32} :
    (∃ length, satLength? default number = some length) ↔ IsSatLength number.toNat := by
  simp only [satLength?, IsSatLength, ← UInt32.toNat_inj]
  split
  · next hZero => exact ⟨fun _ => .inl hZero, fun _ => ⟨_, rfl⟩⟩
  · next hZero =>
    split
    · next hShort => exact ⟨fun _ => .inr (.inl hShort), fun _ => ⟨_, rfl⟩⟩
    · next hShort =>
      split
      · next hLong => exact ⟨fun _ => .inr (.inr hLong), fun _ => ⟨_, rfl⟩⟩
      · next hLong => exact ⟨nofun, fun h => (h.elim hZero fun h => h.elim hShort hLong).elim⟩

theorem exists_port_iff {number : UInt32} :
    (∃ port, Ata.JMicron.Port.ofIndex? number = some port) ↔ number.toNat ≤ 1 := by
  simp only [Ata.JMicron.Port.ofIndex?, ← UInt32.toNat_inj]
  split
  · next hZero => exact ⟨fun _ => hZero.trans_le (Nat.zero_le 1), fun _ => ⟨_, rfl⟩⟩
  · next hZero =>
    split
    · next hOne => exact ⟨fun _ => hOne.le, fun _ => ⟨_, rfl⟩⟩
    · next hOne =>
      exact ⟨nofun, fun h => ((Nat.le_one_iff_eq_zero_or_eq_one.mp h).elim hZero hOne).elim⟩

theorem IsSatLength.lt {value : Nat} (hLength : IsSatLength value) : value < UInt32.size := by
  rcases hLength with rfl | rfl | rfl <;> decide

/-- The length that the options of `sat` ask for. -/
theorem exists_length_iff (default : Ata.Sat.Length) :
    (∃ length, (if options.isEmpty then some default
      else (decimalOption? options).bind (satLength? default)) = some length) ↔
      OptionalNumeral (Reads 10) [','] IsSatLength options := by
  constructor
  · rintro ⟨length, hLength⟩
    split at hLength
    · next hEmpty =>
      rw [List.isEmpty_iff.mp hEmpty]
      exact .absent
    · obtain ⟨number, hRead, hLength⟩ := Option.bind_eq_some_iff.mp hLength
      exact .of_read (by decide) hRead (exists_satLength?_iff.mp ⟨length, hLength⟩)
  · intro hNumber
    rcases hNumber.read (by decide) (fun _ => IsSatLength.lt) with
      rfl | ⟨hSome, number, hRead, hRange⟩
    · exact ⟨default, rfl⟩
    · obtain ⟨length, hLength⟩ := exists_satLength?_iff.mpr hRange
      refine ⟨length, ?_⟩
      rw [hSome, decimalOption?, hRead]
      exact hLength

theorem satOptions_type (hRead : satOptions default options = .ok translator) :
    AtaType Reads translator.protocol ("sat".toList ++ options) := by
  unfold satOptions takeOption at hRead
  cases hAuto : after? ",auto".toList options with
  | some rest =>
      obtain rfl := after?_eq_some_iff.mp hAuto
      simp only [hAuto] at hRead
      split at hRead
      · next length hLength =>
        cases hRead
        exact .probed ((exists_length_iff _).mp ⟨length, hLength⟩)
      · cases hRead
  | none =>
      simp only [hAuto] at hRead
      split at hRead
      · next length hLength =>
        cases hRead
        exact .sat ((exists_length_iff _).mp ⟨length, hLength⟩)
      · cases hRead

theorem satOptions_of_length (hLength : OptionalNumeral (Reads 10) [','] IsSatLength options) :
    ∃ length, satOptions default options = .ok (.sat .always length) := by
  obtain ⟨length, hRead⟩ := (exists_length_iff default).mpr hLength
  have hNoOption : after? ",auto".toList options = none :=
    hLength.after?_eq_none (by decide) rfl (by decide)
  refine ⟨length, ?_⟩
  unfold satOptions takeOption
  rw [hNoOption]
  dsimp only
  rw [hRead]
  rfl

theorem satOptions_auto (hLength : OptionalNumeral (Reads 10) [','] IsSatLength options) :
    ∃ length, satOptions default (",auto".toList ++ options) = .ok (.sat .auto length) := by
  obtain ⟨length, hRead⟩ := (exists_length_iff default).mpr hLength
  have hOption : after? ",auto".toList (",auto".toList ++ options) = some options :=
    after?_eq_some_iff.mpr rfl
  refine ⟨length, ?_⟩
  unfold satOptions takeOption
  rw [hOption]
  dsimp only
  rw [hRead]
  rfl

theorem cypressOptions_type (hRead : cypressOptions options = .ok translator) :
    AtaType Reads translator.protocol ("usbcypress".toList ++ options) := by
  unfold cypressOptions at hRead
  dsimp only at hRead
  split at hRead
  · next signature hSignature =>
    split at hRead
    · next hRange =>
      cases hRead
      refine .cypress ?_
      split at hSignature
      · next hEmpty =>
        rw [List.isEmpty_iff.mp hEmpty]
        exact .absent
      · exact .of_read (by decide) hSignature hRange
    · cases hRead
  · cases hRead

theorem cypressOptions_of_signature
    (hSignature : OptionalNumeral (Reads 16) [',', '0', 'x'] (· ≤ 0xff) options) :
    ∃ encoding, cypressOptions options = .ok (.bridge encoding) := by
  rcases hSignature.read (by decide) (fun _ h => h.trans_lt (by decide)) with
    rfl | ⟨hSome, number, hRead, hRange⟩
  · exact ⟨_, rfl⟩
  · refine ⟨.cypress number.toUInt8, ?_⟩
    have hNumber : number ≤ 0xff := hRange
    simp [cypressOptions, hSome, hexOption?, hRead, hNumber]

/-- An option that may be there is taken off, and leaves what follows. -/
theorem takeOption_of_optional {option text rest : List Char} (hOption : OptionalText option text)
    (hRest : after? option rest = none) :
    ∃ found, takeOption option (text ++ rest) = (found, rest) := by
  cases hOption with
  | absent => exact ⟨false, by simp [takeOption, hRest]⟩
  | present => exact ⟨true, by simp [takeOption, after?_eq_some_iff.mpr rfl]⟩

theorem exists_takeOption (option text : List Char) :
    ∃ start found rest, takeOption option text = (found, rest) ∧ OptionalText option start ∧
      text = start ++ rest := by
  cases hAfter : after? option text with
  | none => exact ⟨[], false, text, by simp [takeOption, hAfter], .absent, rfl⟩
  | some rest =>
      exact ⟨option, true, rest, by simp [takeOption, hAfter], .present,
        after?_eq_some_iff.mp hAfter⟩

theorem jmicronOptions_type (hRead : jmicronOptions options = .ok translator) :
    AtaType Reads translator.protocol ("usbjmicron".toList ++ options) := by
  obtain ⟨trailer, hasTrailer, rest, hTake, hTrailer, rfl⟩ := exists_takeOption ",p".toList options
  obtain ⟨extended, isExtended, port, hTake', hExtended, rfl⟩ := exists_takeOption ",x".toList rest
  simp only [jmicronOptions, hTake, hTake'] at hRead
  split at hRead
  · next hEmpty =>
    cases hRead
    rw [List.isEmpty_iff.mp hEmpty]
    exact .jmicron hTrailer hExtended .absent
  · split at hRead
    · next index hIndex =>
      cases hRead
      obtain ⟨number, hNumber, hPort⟩ := Option.bind_eq_some_iff.mp hIndex
      exact .jmicron hTrailer hExtended
        (.of_read (by decide) hNumber (exists_port_iff.mp ⟨index, hPort⟩))
    · cases hRead

theorem jmicronOptions_of_options {trailer extended port : List Char}
    (hTrailer : OptionalText ",p".toList trailer) (hExtended : OptionalText ",x".toList extended)
    (hPort : OptionalNumeral (Reads 10) [','] (· ≤ 1) port) :
    ∃ encoding, jmicronOptions (trailer ++ (extended ++ port)) = .ok (.bridge encoding) := by
  have hNoTrailer : after? ",p".toList (extended ++ port) = none := by
    cases hExtended with
    | absent => exact hPort.after?_eq_none (by decide) rfl (by decide)
    | present => rfl
  have hNotExtended : after? ",x".toList port = none :=
    hPort.after?_eq_none (by decide) rfl (by decide)
  obtain ⟨hasTrailer, hTake⟩ := takeOption_of_optional hTrailer hNoTrailer
  obtain ⟨isExtended, hTake'⟩ := takeOption_of_optional hExtended hNotExtended
  simp only [jmicronOptions, hTake, hTake']
  rcases hPort.read (by decide) (fun _ h => h.trans_lt (by decide)) with
    rfl | ⟨hSome, number, hRead, hRange⟩
  · exact ⟨_, rfl⟩
  · obtain ⟨index, hIndex⟩ := exists_port_iff.mpr hRange
    have hOption : (decimalOption? port).bind Ata.JMicron.Port.ofIndex? = some index := by
      rw [decimalOption?, hRead]
      exact hIndex
    simp only [hSome, hOption]
    exact ⟨_, rfl⟩

end Options

section Types

variable {default : Ata.Sat.Length} {type : List Char} {protocol : Protocol}

theorem ataTranslator_type {translator : AtaTranslator}
    (hRead : ataTranslator default type = .ok translator) :
    AtaType Reads translator.protocol type := by
  unfold ataTranslator at hRead
  split at hRead
  · next options hOptions =>
    obtain rfl := after?_eq_some_iff.mp hOptions
    exact satOptions_type hRead
  split at hRead
  · next hScsi =>
    cases hRead
    rw [hScsi]
    exact .scsi
  split at hRead
  · next options hOptions =>
    obtain rfl := after?_eq_some_iff.mp hOptions
    exact cypressOptions_type hRead
  split at hRead
  · next options hOptions =>
    obtain rfl := after?_eq_some_iff.mp hOptions
    exact jmicronOptions_type hRead
  split at hRead
  · next hProlific =>
    cases hRead
    rw [hProlific]
    exact .prolific
  split at hRead
  · next hSunplus =>
    cases hRead
    rw [hSunplus]
    exact .sunplus
  · cases hRead

theorem AtaType.exists_translator (hType : AtaType Reads protocol type) :
    ∃ translator, ataTranslator default type = .ok translator ∧ translator.protocol = protocol := by
  cases hType with
  | sat hLength =>
      obtain ⟨length, hRead⟩ := satOptions_of_length hLength
      exact ⟨_, hRead, rfl⟩
  | probed hLength =>
      obtain ⟨length, hRead⟩ := satOptions_auto hLength
      exact ⟨_, hRead, rfl⟩
  | cypress hSignature =>
      obtain ⟨encoding, hRead⟩ := cypressOptions_of_signature hSignature
      exact ⟨_, hRead, rfl⟩
  | jmicron hTrailer hExtended hPort =>
      obtain ⟨encoding, hRead⟩ := jmicronOptions_of_options hTrailer hExtended hPort
      exact ⟨_, hRead, rfl⟩
  | prolific => exact ⟨_, rfl, rfl⟩
  | sunplus => exact ⟨_, rfl, rfl⟩
  | scsi => exact ⟨_, rfl, rfl⟩

/-- A numeral does not end the way `/sat` does. -/
theorem before?_sat_of_reads (start : List Char) {digits : List Char} {value : Nat}
    (reads : Reads 16 digits value) : before? "/sat".toList (start ++ digits) = none := by
  cases hBefore : before? "/sat".toList (start ++ digits) with
  | none => rfl
  | some rest =>
      have hText := before?_eq_some_iff.mp hBefore
      have hLast := congrArg List.getLast? hText
      rw [List.getLast?_append_of_ne_nil _ reads.ne_nil,
        List.getLast?_append_of_ne_nil _ (by decide)] at hLast
      have hMem : 't' ∈ digits := List.mem_of_getLast? hLast
      exact (reads.not_mem (by decide) rfl (by decide) hMem).elim

theorem namedNvme_type {type name ending : List Char} {fallback : Option Ata.Sat.Length}
    {translator : NvmeTranslator} (hEnding : OptionalText "/sat".toList ending)
    (hRead : namedNvme type name fallback = .ok translator) : NvmeType Reads (name ++ ending) := by
  unfold namedNvme at hRead
  split at hRead
  · next hAsmedia =>
    rw [hAsmedia]
    exact .asmedia hEnding
  split at hRead
  · next hRealtek =>
    rw [hRealtek]
    exact .realtek hEnding
  split at hRead
  · next hPlain =>
    rw [after?_eq_some_iff.mp hPlain]
    exact .jmicron .absent hEnding
  · next options _ hOptions =>
    obtain rfl := after?_eq_some_iff.mp hOptions
    split at hRead
    · next nsid hNsid =>
      exact .jmicron (.of_read (by decide) hNsid nsid.toNat_lt) hEnding
    · cases hRead
  · cases hRead

theorem nvmeTranslator_type {translator : NvmeTranslator}
    (hRead : nvmeTranslator default type = .ok translator) : NvmeType Reads type := by
  unfold nvmeTranslator at hRead
  split at hRead
  · next name hName =>
    obtain rfl := before?_eq_some_iff.mp hName
    exact namedNvme_type .present hRead
  · rw [← List.append_nil type]
    exact namedNvme_type .absent hRead

/-- The ending is told from the name, which does not end in it. -/
theorem nvmeTranslator_append (default : Ata.Sat.Length) (name : List Char) {ending : List Char}
    (hEnding : OptionalText "/sat".toList ending) (hName : before? "/sat".toList name = none) :
    ∃ fallback, nvmeTranslator default (name ++ ending) =
      namedNvme (name ++ ending) name fallback := by
  unfold nvmeTranslator
  cases hEnding with
  | absent =>
      rw [List.append_nil, hName]
      exact ⟨none, rfl⟩
  | present =>
      rw [before?_eq_some_iff.mpr rfl]
      exact ⟨some default, rfl⟩

theorem namedNvme_jmicron (type : List Char) (fallback : Option Ata.Sat.Length)
    {options : List Char} {nsid : UInt32} (hRead : hexOption? options = some nsid) :
    namedNvme type ("sntjmicron".toList ++ options) fallback =
      .ok ⟨.jmicron, nsid, fallback⟩ := by
  have hAsmedia : "sntjmicron".toList ++ options ≠ "sntasmedia".toList := nofun
  have hRealtek : "sntjmicron".toList ++ options ≠ "sntrealtek".toList := nofun
  unfold namedNvme
  rw [if_neg hAsmedia, if_neg hRealtek, after?_eq_some_iff.mpr rfl]
  cases options with
  | nil => cases hRead
  | cons c rest =>
      dsimp only
      rw [hRead]

theorem NvmeType.exists_translator (default : Ata.Sat.Length) (hType : NvmeType Reads type) :
    ∃ translator, nvmeTranslator default type = .ok translator := by
  cases hType with
  | asmedia hEnding =>
      obtain ⟨fallback, hNamed⟩ := nvmeTranslator_append default "sntasmedia".toList hEnding rfl
      exact ⟨_, hNamed⟩
  | realtek hEnding =>
      obtain ⟨fallback, hNamed⟩ := nvmeTranslator_append default "sntrealtek".toList hEnding rfl
      exact ⟨_, hNamed⟩
  | jmicron hNsid hEnding =>
      cases hNsid with
      | absent =>
          obtain ⟨fallback, hNamed⟩ := nvmeTranslator_append default "sntjmicron".toList hEnding rfl
          exact ⟨_, hNamed⟩
      | present reads inRange =>
          have hName := before?_sat_of_reads ("sntjmicron".toList ++ [',', '0', 'x']) reads
          rw [List.append_assoc] at hName
          obtain ⟨fallback, hNamed⟩ := nvmeTranslator_append default _ hEnding hName
          obtain ⟨number, hRead, -⟩ := read_of_reads [',', '0', 'x'] (by decide) reads inRange
          exact ⟨_, hNamed.trans (namedNvme_jmicron _ _ hRead)⟩

theorem routedDrive_type {drive : UInt32}
    (hRead : routedDrive type = .ok drive) : RoutedType Reads type := by
  unfold routedDrive at hRead
  split at hRead
  · next number hNumber =>
    split at hRead
    · next hRange =>
      obtain ⟨options, hOptions, hNumber⟩ := Option.bind_eq_some_iff.mp hNumber
      obtain rfl := after?_eq_some_iff.mp hOptions
      obtain ⟨digits, rfl, reads⟩ := (read_iff (by decide)).mp hNumber
      exact .drive reads hRange
    · cases hRead
  · cases hRead

theorem RoutedType.exists_drive (hType : RoutedType Reads type) :
    ∃ drive, routedDrive type = .ok drive := by
  cases hType with
  | @drive digits value reads inRange =>
      obtain ⟨number, hRead, rfl⟩ := read_of_reads [','] (by decide) reads
        (inRange.trans_lt (by decide))
      refine ⟨number, ?_⟩
      have hNumber : (after? "intelliprop".toList ("intelliprop,".toList ++ digits)).bind
          decimalOption? = some number := hRead
      have hRange : number ≤ Multiplexer.lastDrive := inRange
      unfold routedDrive
      simp only [hNumber, hRange, if_true]

end Types

end DriveBridge.Factory
