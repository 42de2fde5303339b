import DriveBridge.Proofs.Text.Padding

/-! Lossy reading loses nothing of a well-formed text: the bytes that encode a text are read as that
text, whatever comes after them. -/
namespace DriveBridge.Text

/-- The byte that carries the lowest six bits of a number. -/
def continuationOf (code : Nat) : UInt8 := UInt8.ofNat (code % 64 + 128)

/-- The bytes that follow a lead byte. The last one carries the lowest bits. -/
def tailOf (code : Nat) : Nat → Bytes
  | 0 => []
  | count + 1 => continuationOf (code / 64 ^ count) :: tailOf code count

/-- The lead byte of a character past ASCII, and how many bytes follow the second one. -/
inductive Leads (code : Nat) (lead : UInt8) : Nat → Prop where
  | two (past : 0x80 ≤ code) (fits : code < 0x800) (bits : lead.toNat = 0xc0 + code / 64) :
      Leads code lead 0
  | three (past : 0x800 ≤ code) (fits : code < 0x10000)
      (bits : lead.toNat = 0xe0 + code / 64 ^ 2) : Leads code lead 1
  | four (past : 0x10000 ≤ code) (fits : code < 0x110000)
      (bits : lead.toNat = 0xf0 + code / 64 ^ 3) : Leads code lead 2

theorem toNat_continuationOf (code : Nat) : (continuationOf code).toNat = 0x80 + code % 64 := by
  rw [continuationOf, UInt8.toNat_ofNat']
  omega

theorem isContinuation_continuationOf (code : Nat) :
    isContinuation (continuationOf code) = true := by
  have hTable : ∀ low < 64, isContinuation (UInt8.ofNat (low + 128)) = true := by decide
  exact hTable (code % 64) (Nat.mod_lt code (by decide))

theorem extend_continuationOf (code count : Nat) :
    extend (code / 64 ^ (count + 1)) (continuationOf (code / 64 ^ count)) = code / 64 ^ count := by
  rw [extend_eq, toNat_continuationOf, pow_succ, ← Nat.div_div_eq_div_mul]
  omega

theorem continuations_tailOf (code count : Nat) (rest : Bytes) :
    continuations (code / 64 ^ count) count (tailOf code count ++ rest) = (some code, rest) := by
  induction count with
  | zero => simp [tailOf, continuations]
  | succ count ih =>
      rw [tailOf, List.cons_append, continuations, if_pos (isContinuation_continuationOf _),
        extend_continuationOf, ih]

theorem announced?_ne_none {lead : UInt8} (hLow : 0xc2 ≤ lead.toNat) (hHigh : lead.toNat ≤ 0xf4) :
    announced? lead ≠ none := by
  simp only [announced?, ← UInt8.toNat_inj, UInt8.le_iff_toNat_le, UInt8.toNat_ofNat]
  grind

namespace Leads

variable {lead low high : UInt8} {code count found : Nat}

theorem toNat_range (leads : Leads code lead count) : 0xc2 ≤ lead.toNat ∧ lead.toNat ≤ 0xf4 := by
  cases leads <;> omega

/-- A lead byte carries the bits above those of the bytes after it. -/
theorem leadBits_eq (leads : Leads code lead count) :
    leadBits lead count = code / 64 ^ (count + 1) := by
  cases leads with
  | two past fits bits =>
      have hFive : leadBits lead 0 = lead.toNat % 32 :=
        Nat.and_two_pow_sub_one_eq_mod lead.toNat 5
      omega
  | three past fits bits =>
      have hFour : leadBits lead 1 = lead.toNat % 16 :=
        Nat.and_two_pow_sub_one_eq_mod lead.toNat 4
      omega
  | four past fits bits =>
      have hThree : leadBits lead 2 = lead.toNat % 8 :=
        Nat.and_two_pow_sub_one_eq_mod lead.toNat 3
      omega

/-- What a lead byte announces is what follows it. -/
theorem fits_announced (leads : Leads code lead count) (hValid : code.isValidChar)
    (hFound : announced? lead = some (low, high, found)) :
    found = count ∧ low ≤ continuationOf (code / 64 ^ count) ∧
      continuationOf (code / 64 ^ count) ≤ high := by
  have hBelow : code < 0xd800 ∨ 0xdfff < code ∧ code < 0x110000 := hValid
  simp only [announced?, ← UInt8.toNat_inj, UInt8.le_iff_toNat_le, UInt8.toNat_ofNat] at hFound
  simp only [UInt8.le_iff_toNat_le, toNat_continuationOf]
  -- One goal for each length and each range of lead bytes, most of which do not meet.
  cases leads <;> repeat' split at hFound
  all_goals cases hFound
  all_goals
    simp only [UInt8.toNat_ofNat, true_and]
    omega

/-- A character past ASCII is read from its bytes. -/
theorem firstChar_eq (leads : Leads code lead count) (hValid : code.isValidChar) (rest : Bytes) :
    firstChar lead (tailOf code (count + 1) ++ rest) = (Char.ofNat code, rest) := by
  have hRange := leads.toNat_range
  have hPast : ¬ lead < 0x80 := by
    change ¬ lead.toNat < 0x80
    omega
  obtain ⟨⟨low, high, found⟩, hFound⟩ :=
    Option.ne_none_iff_exists'.mp (announced?_ne_none hRange.1 hRange.2)
  obtain ⟨rfl, hSecond⟩ := leads.fits_announced hValid hFound
  unfold firstChar
  rw [if_neg hPast, hFound, tailOf, List.cons_append]
  simp only [hSecond, and_self, if_true, leads.leadBits_eq, extend_continuationOf,
    continuations_tailOf, Option.elim_some]

end Leads

/-- A character is written as one byte of ASCII, or as a lead byte and those that follow it. -/
theorem utf8EncodeChar_cases (c : Char) :
    (c.toNat < 0x80 ∧ String.utf8EncodeChar c = [UInt8.ofNat c.toNat]) ∨
      ∃ lead count, Leads c.toNat lead count ∧
        String.utf8EncodeChar c = lead :: tailOf c.toNat (count + 1) := by
  have hValid : c.toNat < 0xd800 ∨ 0xdfff < c.toNat ∧ c.toNat < 0x110000 := c.valid
  have hCode : c.val.toNat = c.toNat := rfl
  simp only [String.utf8EncodeChar, hCode]
  by_cases hOne : c.toNat ≤ 0x7f
  · rw [if_pos hOne]
    exact Or.inl ⟨by omega, rfl⟩
  right
  rw [if_neg hOne]
  by_cases hTwo : c.toNat ≤ 0x7ff
  · rw [if_pos hTwo]
    refine ⟨UInt8.ofNat (c.toNat / 64 % 32 + 192), 0, .two (by omega) (by omega) ?_, ?_⟩
    · rw [UInt8.toNat_ofNat']
      omega
    · simp [tailOf, continuationOf]
  rw [if_neg hTwo]
  by_cases hThree : c.toNat ≤ 0xffff
  · rw [if_pos hThree]
    refine ⟨UInt8.ofNat (c.toNat / 4096 % 16 + 224), 1, .three (by omega) (by omega) ?_, ?_⟩
    · rw [UInt8.toNat_ofNat']
      omega
    · simp [tailOf, continuationOf]
  · rw [if_neg hThree]
    refine ⟨UInt8.ofNat (c.toNat / 262144 % 8 + 240), 2, .four (by omega) (by omega) ?_, ?_⟩
    · rw [UInt8.toNat_ofNat']
      omega
    · simp [tailOf, continuationOf]

theorem lossyChars_utf8EncodeChar_append (c : Char) (rest : Bytes) :
    lossyChars (String.utf8EncodeChar c ++ rest) = c :: lossyChars rest := by
  rcases utf8EncodeChar_cases c with ⟨hAscii, hBytes⟩ | ⟨lead, count, hLeads, hBytes⟩
  · have hByte : (UInt8.ofNat c.toNat).toNat = c.toNat := by
      rw [UInt8.toNat_ofNat']
      omega
    have hSmall : UInt8.ofNat c.toNat < 0x80 := by
      rw [UInt8.lt_iff_toNat_lt, hByte]
      exact hAscii
    rw [hBytes, List.singleton_append, lossyChars, firstChar_of_lt hSmall, hByte, Char.ofNat_toNat]
  · rw [hBytes, List.cons_append, lossyChars, hLeads.firstChar_eq c.valid, Char.ofNat_toNat]

/-- A text is read from its bytes as it is, and the bytes after it are read as on their own. -/
theorem lossyChars_encoded_append (text : List Char) (rest : Bytes) :
    lossyChars (text.flatMap String.utf8EncodeChar ++ rest) = text ++ lossyChars rest := by
  induction text with
  | nil => rfl
  | cons c text ih =>
      rw [List.flatMap_cons, List.append_assoc, lossyChars_utf8EncodeChar_append, ih,
        List.cons_append]

end DriveBridge.Text
