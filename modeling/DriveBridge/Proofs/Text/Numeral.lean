import DriveBridge.Text.Numeral
import Mathlib.Data.List.Forall2
import Mathlib.Data.Nat.Digits.Defs
import Mathlib.Tactic.Ring

/-! Which texts are read as which numbers. What a numeral spells is said by the digits that the
standard library writes, and by their positional value. -/
namespace DriveBridge.Text

/-- A digit in a base, of either case. -/
def IsDigit (base : Nat) (c : Char) (d : Nat) : Prop :=
  d < base ∧ (c = d.digitChar ∨ c = d.digitChar.toUpper)

/-- At least one digit, the most significant one first, and nothing else. -/
def Spells (base : Nat) (text : List Char) (value : Nat) : Prop :=
  text ≠ [] ∧ ∃ digits, List.Forall₂ (IsDigit base) text digits ∧
    value = Nat.ofDigits base digits.reverse

theorem digit?_narrow {base : Nat} {c : Char} {d : Nat} :
    digit? base c = some d ↔ d < base ∧ digit? 16 c = some d := by
  have hValue : c.toNat = c.val.toNat := rfl
  simp only [digit?, Char.le_def, UInt32.le_iff_toNat_le, hValue]
  constructor <;> grind

theorem toNat_lt_of_digit? {c : Char} {d : Nat} (hDigit : digit? 16 c = some d) :
    c.toNat < 103 := by
  have hValue : c.toNat = c.val.toNat := rfl
  have hNine : ('9').val.toNat = 57 := rfl
  have hUpper : ('F').val.toNat = 70 := rfl
  have hLower : ('f').val.toNat = 102 := rfl
  simp only [digit?, Char.le_def, UInt32.le_iff_toNat_le, hValue] at hDigit ⊢
  grind

theorem toNat_lt_of_isDigit {c : Char} {d : Nat} (hDigit : IsDigit 16 c d) : c.toNat < 103 := by
  have hTable : ∀ d < 16, d.digitChar.toNat < 103 ∧ d.digitChar.toUpper.toNat < 103 := by decide
  obtain ⟨hLower, hUpper⟩ := hTable d hDigit.1
  rcases hDigit.2 with rfl | rfl
  · exact hLower
  · exact hUpper

theorem digit?_eq_some_iff {base : Nat} (hBase : base ≤ 16) {c : Char} {d : Nat} :
    digit? base c = some d ↔ IsDigit base c d := by
  have hTable : ∀ n < 103, ∀ d < 16, digit? 16 (Char.ofNat n) = some d ↔
      Char.ofNat n = d.digitChar ∨ Char.ofNat n = d.digitChar.toUpper := by decide +kernel
  have hHex : digit? 16 c = some d ↔ IsDigit 16 c d := by
    constructor
    · intro hDigit
      have hSmall : d < 16 := (digit?_narrow.mp hDigit).1
      have hRow := hTable c.toNat (toNat_lt_of_digit? hDigit) d hSmall
      rw [Char.ofNat_toNat] at hRow
      exact ⟨hSmall, hRow.mp hDigit⟩
    · intro hDigit
      have hRow := hTable c.toNat (toNat_lt_of_isDigit hDigit) d hDigit.1
      rw [Char.ofNat_toNat] at hRow
      exact hRow.mpr hDigit.2
  rw [digit?_narrow, hHex]
  constructor
  · rintro ⟨hLt, -, hChar⟩
    exact ⟨hLt, hChar⟩
  · rintro ⟨hLt, hChar⟩
    exact ⟨hLt, hLt.trans_le hBase, hChar⟩

theorem Spells.isDigit_of_mem {base value : Nat} {text : List Char}
    (hSpells : Spells base text value) {c : Char} (hMem : c ∈ text) : ∃ d, IsDigit base c d := by
  obtain ⟨-, digits, hDigits, -⟩ := hSpells
  induction hDigits with
  | nil => cases hMem
  | cons hDigit _ ih =>
      rcases List.mem_cons.mp hMem with rfl | hMem
      · exact ⟨_, hDigit⟩
      · exact ih hMem

/-- A character that is read as no digit is nowhere in a numeral. -/
theorem Spells.not_mem {base value : Nat} {text : List Char} (hSpells : Spells base text value)
    (hBase : base ≤ 16) {c : Char} (hNone : digit? base c = none) : c ∉ text := by
  intro hMem
  obtain ⟨d, hDigit⟩ := hSpells.isDigit_of_mem hMem
  rw [(digit?_eq_some_iff hBase).mpr hDigit] at hNone
  cases hNone

/-- Digits after a value already read move it up by as many places. -/
theorem digits?_eq_some_iff {base : Nat} (hBase : base ≤ 16) {start value : Nat}
    {text : List Char} :
    digits? base start text = some value ↔ ∃ digits, List.Forall₂ (IsDigit base) text digits ∧
      value = Nat.ofDigits base digits.reverse + base ^ digits.length * start := by
  induction text generalizing start with
  | nil => simp [digits?, eq_comm]
  | cons c rest ih =>
      simp only [digits?, Option.bind_eq_some_iff, digit?_eq_some_iff hBase, ih,
        List.forall₂_cons_left_iff]
      constructor
      · rintro ⟨d, hDigit, digits, hDigits, rfl⟩
        refine ⟨d :: digits, ⟨d, digits, hDigit, hDigits, rfl⟩, ?_⟩
        rw [List.reverse_cons, Nat.ofDigits_append, Nat.ofDigits_singleton, List.length_reverse,
          List.length_cons]
        ring
      · rintro ⟨_, ⟨d, digits, hDigit, hDigits, rfl⟩, rfl⟩
        refine ⟨d, hDigit, digits, hDigits, ?_⟩
        rw [List.reverse_cons, Nat.ofDigits_append, Nat.ofDigits_singleton, List.length_reverse,
          List.length_cons]
        ring

theorem unsigned?_eq_some_iff {base : Nat} (hBase : base ≤ 16) {text : List Char} {value : Nat} :
    unsigned? base text = some value ↔ Spells base text value := by
  unfold unsigned? Spells
  cases text with
  | nil => simp
  | cons c rest => simp [digits?_eq_some_iff hBase]

theorem digit?_sign {base : Nat} : digit? base '+' = none := by
  cases hDigit : digit? base '+' with
  | none => rfl
  | some d =>
      have hHex := (digit?_narrow.mp hDigit).2
      cases hHex

/-- What spells a number, or a plus sign in front of that. -/
inductive Reads (base : Nat) : List Char → Nat → Prop where
  | plain {text : List Char} {value : Nat} (spells : Spells base text value) :
      Reads base text value
  | signed {digits : List Char} {value : Nat} (spells : Spells base digits value) :
      Reads base ('+' :: digits) value

theorem Reads.spells {base value : Nat} {text : List Char} (reads : Reads base text value)
    (hSign : '+' ∉ text) : Spells base text value := by
  cases reads with
  | plain spells => exact spells
  | signed spells => exact (hSign (List.mem_cons_self ..)).elim

theorem Reads.ne_nil {base value : Nat} {text : List Char} (reads : Reads base text value) :
    text ≠ [] := by
  cases reads with
  | plain spells => exact spells.1
  | signed spells => exact List.cons_ne_nil _ _

/-- A text that is read ends the way that it would without the sign. -/
theorem Reads.exists_spelled {base value : Nat} {text : List Char} (reads : Reads base text value) :
    ∃ start digits, text = start ++ digits ∧ Spells base digits value ∧ ∀ c ∈ start, c = '+' := by
  cases reads with
  | plain spells => exact ⟨[], text, rfl, spells, nofun⟩
  | @signed digits _ spells => exact ⟨['+'], digits, rfl, spells, fun _ => List.mem_singleton.mp⟩

theorem Reads.not_mem {base value : Nat} {text : List Char} (reads : Reads base text value)
    (hBase : base ≤ 16) {c : Char} (hNone : digit? base c = none) (hOther : c ≠ '+') :
    c ∉ text := by
  obtain ⟨start, digits, rfl, spells, hStart⟩ := reads.exists_spelled
  rw [List.mem_append]
  rintro (hMem | hMem)
  · exact hOther (hStart c hMem)
  · exact spells.not_mem hBase hNone hMem

/-- A text is read as the number that it spells after a sign or none, if that fits in 32 bits. -/
theorem numeral?_eq_some_iff_reads {base : Nat} (hBase : base ≤ 16) {text : List Char}
    {number : UInt32} : numeral? base text = some number ↔ Reads base text number.toNat := by
  have hFits {digits : List Char} : ((unsigned? base digits).bind fun value =>
      if value < UInt32.size then some value.toUInt32 else none) = some number ↔
        Spells base digits number.toNat := by
    simp only [Option.bind_eq_some_iff, unsigned?_eq_some_iff hBase]
    constructor
    · rintro ⟨value, hSpells, hFits⟩
      split at hFits
      · next hLt =>
        cases hFits
        rwa [Nat.toUInt32, UInt32.toNat_ofNat_of_lt' hLt]
      · cases hFits
    · intro hSpells
      refine ⟨number.toNat, hSpells, ?_⟩
      rw [if_pos number.toNat_lt_size]
      simp
  unfold numeral?
  dsimp only
  split
  · next rest =>
    rw [hFits]
    constructor
    · exact .signed
    · intro reads
      cases reads with
      | signed spells => exact spells
      | plain spells => exact (spells.not_mem hBase digit?_sign (List.mem_cons_self ..)).elim
  · next hUnsigned =>
    rw [hFits]
    constructor
    · exact .plain
    · intro reads
      cases reads with
      | plain spells => exact spells
      | signed spells => exact (hUnsigned _ rfl).elim

example : numeral? 16 "00fF".toList = some 0xff := by rfl

example : numeral? 10 "+12".toList = some 12 := by rfl

end DriveBridge.Text
