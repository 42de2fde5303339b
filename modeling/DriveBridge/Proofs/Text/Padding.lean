import DriveBridge.Text.Utf8
import Mathlib.Algebra.Group.Nat.Defs
import Mathlib.Data.List.DropRight

/-! Which text fields hold nothing but padding. A byte of ASCII is a character of its own, and any
other byte has part in a character past ASCII, however ill-formed its surroundings are. So the text
of a field is empty exactly if the bytes of the field are all padding. Any other text is left
without padding at its ends, and ASCII is cut where its bytes are. -/
namespace DriveBridge.Text

/-- A byte of padding: a blank or a NUL. -/
def IsPad (byte : UInt8) : Prop := byte = 0x20 ∨ byte = 0

instance : DecidablePred IsPad := fun byte => inferInstanceAs (Decidable (byte = 0x20 ∨ byte = 0))

theorem toNat_ofNat {code : Nat} (hValid : code.isValidChar) : (Char.ofNat code).toNat = code := by
  rw [Char.ofNat, dif_pos hValid]
  rfl

theorem isPadding_iff (c : Char) : isPadding c = true ↔ c.toNat = 0x20 ∨ c.toNat = 0 := by
  have hBlank : c = ' ' ↔ c.toNat = 0x20 := Char.toNat_inj.symm
  have hNul : c = '\x00' ↔ c.toNat = 0 := Char.toNat_inj.symm
  rw [isPadding, Bool.or_eq_true, beq_iff_eq, beq_iff_eq, hBlank, hNul]

theorem extend_eq (code : Nat) (byte : UInt8) : extend code byte = code * 64 + byte.toNat % 64 :=
  congrArg (code * 64 + ·) (Nat.and_two_pow_sub_one_eq_mod byte.toNat 6)

/-- Continuation bytes only add bits below those that are there. -/
theorem div_of_continuations {code count final : Nat} {bytes : Bytes}
    (hRead : (continuations code count bytes).1 = some final) : final / 64 ^ count = code := by
  induction count generalizing code bytes with
  | zero =>
      cases hRead
      exact Nat.div_one _
  | succ count ih =>
      cases bytes with
      | nil => cases hRead
      | cons byte rest =>
          rw [continuations] at hRead
          split at hRead
          · rw [pow_succ, ← Nat.div_div_eq_div_mul, ih hRead, extend_eq]
            omega
          · cases hRead

/-- The range of the second byte leaves no way to write ASCII in more than one byte, a surrogate, or
what is past the last code point. -/
theorem valid_of_announced {lead second low high : UInt8} {count code : Nat}
    (hLead : announced? lead = some (low, high, count)) (hSecond : low ≤ second ∧ second ≤ high)
    (hCode : code / 64 ^ count = extend (leadBits lead count) second) :
    0x80 ≤ code ∧ code.isValidChar := by
  have hFive : (lead &&& 0x1f).toNat = lead.toNat % 32 :=
    Nat.and_two_pow_sub_one_eq_mod lead.toNat 5
  have hFour : (lead &&& 0x0f).toNat = lead.toNat % 16 :=
    Nat.and_two_pow_sub_one_eq_mod lead.toNat 4
  have hThree : (lead &&& 0x07).toNat = lead.toNat % 8 :=
    Nat.and_two_pow_sub_one_eq_mod lead.toNat 3
  simp only [announced?, ← UInt8.toNat_inj, UInt8.le_iff_toNat_le] at hLead hSecond
  -- One goal for each range of lead bytes, with its own range of second bytes.
  repeat' split at hLead
  all_goals cases hLead
  all_goals
    simp only [extend_eq, leadBits, hFive, hFour, hThree, UInt8.toNat_ofNat] at *
    omega

theorem firstChar_of_lt {lead : UInt8} (hLead : lead < 0x80) (rest : Bytes) :
    firstChar lead rest = (Char.ofNat lead.toNat, rest) := by
  unfold firstChar
  rw [if_pos hLead]

/-- A byte past ASCII starts a character past ASCII. -/
theorem le_toNat_firstChar {lead : UInt8} (hLead : ¬ lead < 0x80) (rest : Bytes) :
    0x80 ≤ (firstChar lead rest).1.toNat := by
  have hReplacement : 0x80 ≤ replacement.toNat := by decide
  unfold firstChar
  rw [if_neg hLead]
  split
  · next low high count second tail hAnnounced =>
    split
    · next hSecond =>
      dsimp only
      cases hRead : (continuations (extend (leadBits lead count) second) count tail).1 with
      | none => exact hReplacement
      | some code =>
          obtain ⟨hPast, hValid⟩ :=
            valid_of_announced hAnnounced hSecond (div_of_continuations hRead)
          rw [Option.elim_some, toNat_ofNat hValid]
          exact hPast
    · exact hReplacement
  · exact hReplacement

/-- A byte starts a character of padding only if it is one. -/
theorem isPadding_firstChar_iff (lead : UInt8) (rest : Bytes) :
    isPadding (firstChar lead rest).1 = true ↔ IsPad lead := by
  rw [isPadding_iff, IsPad, ← UInt8.toNat_inj, ← UInt8.toNat_inj]
  by_cases hLead : lead < 0x80
  · have hSmall : lead.toNat < 0x80 := hLead
    rw [firstChar_of_lt hLead, toNat_ofNat (.inl (by omega))]
    rfl
  · have hLarge : ¬ lead.toNat < 0x80 := hLead
    have hFirst := le_toNat_firstChar hLead rest
    have hBlank : (0x20 : UInt8).toNat = 0x20 := rfl
    have hNul : (0 : UInt8).toNat = 0 := rfl
    omega

theorem lossyChars_padding_iff (bytes : Bytes) :
    (∀ c ∈ lossyChars bytes, isPadding c = true) ↔ ∀ byte ∈ bytes, IsPad byte := by
  induction bytes using lossyChars.induct with
  | case1 => simp [lossyChars]
  | case2 lead rest _ ih =>
      rw [lossyChars, List.forall_mem_cons, List.forall_mem_cons, isPadding_firstChar_iff, ih]
      refine and_congr_right fun hPad => ?_
      -- Padding is ASCII, so that the bytes after it are those that follow.
      have hLead : lead < 0x80 := by
        rcases hPad with rfl | rfl <;> decide
      rw [firstChar_of_lt hLead]

theorem trimPadding_eq_nil_iff (text : List Char) :
    trimPadding text = [] ↔ ∀ c ∈ text, isPadding c = true := by
  show (text.dropWhile isPadding).rdropWhile isPadding = [] ↔ _
  rw [List.rdropWhile_eq_nil_iff]
  constructor
  · intro hRest
    refine List.dropWhile_eq_nil_iff.mp ?_
    by_contra hSome
    have hHead := List.head_dropWhile_not isPadding hSome
    rw [hRest _ (List.head_mem hSome)] at hHead
    cases hHead
  · intro hPadding
    rw [List.dropWhile_eq_nil_iff.mpr hPadding]
    exact List.forall_mem_nil _

/-- The text of a field is empty exactly if the field is padding throughout. -/
theorem ofField_isEmpty_iff (field : Bytes) :
    (ofField field).isEmpty = true ↔ ∀ byte ∈ field, IsPad byte := by
  rw [String.isEmpty_iff, ofField, String.ofList_eq_empty_iff, trimPadding_eq_nil_iff,
    lossyChars_padding_iff]

section Trimmed

/-- The character of an ASCII byte. -/
def charOf (byte : UInt8) : Char := Char.ofNat byte.toNat

theorem isPadding_charOf (byte : UInt8) : isPadding (charOf byte) = decide (IsPad byte) := by
  have hByte : byte.toNat < 256 := byte.toNat_lt
  rw [Bool.eq_iff_iff, isPadding_iff, decide_eq_true_iff, IsPad, ← UInt8.toNat_inj,
    ← UInt8.toNat_inj, charOf, toNat_ofNat (.inl (by omega))]
  rfl

/-- ASCII is read byte by byte. -/
theorem lossyChars_of_ascii {bytes : Bytes} (hAscii : ∀ byte ∈ bytes, byte < 0x80) :
    lossyChars bytes = bytes.map charOf := by
  induction bytes with
  | nil => simp [lossyChars]
  | cons lead rest ih =>
      rw [List.forall_mem_cons] at hAscii
      rw [lossyChars, firstChar_of_lt hAscii.1, ih hAscii.2, List.map_cons]
      rfl

theorem trimPadding_map_charOf (bytes : Bytes) :
    trimPadding (bytes.map charOf) =
      ((bytes.dropWhile (IsPad ·)).rdropWhile (IsPad ·)).map charOf := by
  have hPad : isPadding ∘ charOf = (IsPad ·) := funext isPadding_charOf
  rw [trimPadding, List.dropWhile_map, ← List.map_reverse, List.dropWhile_map, hPad,
    ← List.map_reverse]
  rfl

theorem isPadding_head?_dropWhile {text : List Char} {c : Char}
    (hHead : (text.dropWhile isPadding).head? = some c) : isPadding c = false := by
  have hNot := List.head?_dropWhile_not isPadding text
  rwa [hHead] at hNot

theorem isPadding_head?_trimPadding {text : List Char} {c : Char}
    (hHead : (trimPadding text).head? = some c) : isPadding c = false := by
  obtain ⟨rest, hRest⟩ : trimPadding text <+: text.dropWhile isPadding :=
    List.rdropWhile_prefix isPadding _
  have hFirst : (text.dropWhile isPadding).head? = some c := by
    rw [← hRest, List.head?_append, hHead, Option.some_or]
  exact isPadding_head?_dropWhile hFirst

theorem isPadding_getLast?_trimPadding {text : List Char} {c : Char}
    (hLast : (trimPadding text).getLast? = some c) : isPadding c = false := by
  rw [trimPadding, List.getLast?_reverse] at hLast
  exact isPadding_head?_dropWhile hLast

end Trimmed

end DriveBridge.Text
