/-! Numbers written in text: an optional plus sign, then at least one digit, for a value that
fits in 32 bits. Leading zeros change nothing. -/
namespace DriveBridge.Text

/-- The value of a decimal digit, or of a hexadecimal one of either case. -/
def digit? (base : Nat) (c : Char) : Option Nat :=
  let value :=
    if '0' ≤ c ∧ c ≤ '9' then c.toNat - '0'.toNat
    else if 'a' ≤ c ∧ c ≤ 'f' then c.toNat - 'a'.toNat + 10
    else if 'A' ≤ c ∧ c ≤ 'F' then c.toNat - 'A'.toNat + 10
    else base
  if value < base then some value else none

/-- The value of a string of digits after a value already read. -/
def digits? (base : Nat) (value : Nat) : List Char → Option Nat
  | [] => some value
  | c :: rest => (digit? base c).bind fun d => digits? base (value * base + d) rest

def unsigned? (base : Nat) (text : List Char) : Option Nat :=
  if text.isEmpty then none else digits? base 0 text

/-- The number that a text spells, in bases up to 16. -/
def numeral? (base : Nat) (text : List Char) : Option UInt32 :=
  let digits := match text with
    | '+' :: rest => rest
    | _ => text
  (unsigned? base digits).bind fun value =>
    if value < UInt32.size then some value.toUInt32 else none

/-- What follows a given start of a text. -/
def after? : (start text : List Char) → Option (List Char)
  | [], text => some text
  | _ :: _, [] => none
  | s :: start, c :: text => if s = c then after? start text else none

theorem after?_eq_some_iff {start text rest : List Char} :
    after? start text = some rest ↔ text = start ++ rest := by
  induction start generalizing text with
  | nil => simp [after?, eq_comm]
  | cons s start ih =>
      cases text with
      | nil => simp [after?]
      | cons c text =>
          simp only [after?]
          split
          · next h => simp [h, ih]
          · next h => simp [Ne.symm h]

/-- What precedes a given end of a text. -/
def before? (ending text : List Char) : Option (List Char) :=
  (after? ending.reverse text.reverse).map List.reverse

theorem before?_eq_some_iff {ending text rest : List Char} :
    before? ending text = some rest ↔ text = rest ++ ending := by
  simp only [before?, Option.map_eq_some_iff, after?_eq_some_iff]
  constructor
  · rintro ⟨a, h, rfl⟩
    simpa using congrArg List.reverse h
  · rintro rfl
    exact ⟨rest.reverse, by simp, by simp⟩

end DriveBridge.Text
