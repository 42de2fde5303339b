import DriveBridge.Bytes

/-! Lossy reading of UTF-8. Well-formed sequences become their characters; each maximal part
of an ill-formed one, that is the longest start of a well-formed sequence or else one byte,
becomes one replacement character. -/
namespace DriveBridge.Text

def replacement : Char := Char.ofNat 0xfffd

/-- A byte that continues a sequence. -/
def isContinuation (byte : UInt8) : Bool := byte &&& 0xc0 == 0x80

/-- What a lead byte of two or more bytes announces: the range of the second byte, and how
many continuation bytes follow it. Other bytes lead nothing. -/
def announced? (lead : UInt8) : Option (UInt8 × UInt8 × Nat) :=
  if 0xc2 ≤ lead ∧ lead ≤ 0xdf then some (0x80, 0xbf, 0)
  else if lead = 0xe0 then some (0xa0, 0xbf, 1)
  else if lead = 0xed then some (0x80, 0x9f, 1)
  else if 0xe1 ≤ lead ∧ lead ≤ 0xef then some (0x80, 0xbf, 1)
  else if lead = 0xf0 then some (0x90, 0xbf, 2)
  else if lead = 0xf4 then some (0x80, 0x8f, 2)
  else if 0xf1 ≤ lead ∧ lead ≤ 0xf3 then some (0x80, 0xbf, 2)
  else none

/-- The six bits that a continuation byte adds to the code point so far. -/
def extend (code : Nat) (byte : UInt8) : Nat := code * 64 + (byte &&& 0x3f).toNat

/-- Takes the given number of continuation bytes. The rest is returned together with the
code point, or with none where a byte is missing. -/
def continuations (code : Nat) : Nat → Bytes → Option Nat × Bytes
  | 0, rest => (some code, rest)
  | _ + 1, [] => (none, [])
  | count + 1, byte :: rest =>
      if isContinuation byte then continuations (extend code byte) count rest
      else (none, byte :: rest)

theorem length_continuations_le (code count : Nat) (bytes : Bytes) :
    (continuations code count bytes).2.length ≤ bytes.length := by
  induction count generalizing code bytes with
  | zero => simp [continuations]
  | succ count ih =>
      cases bytes with
      | nil => simp [continuations]
      | cons byte rest =>
          simp only [continuations]
          split
          · exact Nat.le_succ_of_le (ih _ _)
          · simp

/-- The bits of the code point that a lead byte carries. -/
def leadBits (lead : UInt8) (count : Nat) : Nat :=
  match count with
  | 0 => (lead &&& 0x1f).toNat
  | 1 => (lead &&& 0x0f).toNat
  | _ => (lead &&& 0x07).toNat

/-- The first character of a byte string, with the bytes after it. -/
def firstChar (lead : UInt8) (rest : Bytes) : Char × Bytes :=
  if lead < 0x80 then (Char.ofNat lead.toNat, rest)
  else match announced? lead, rest with
    | some (low, high, count), second :: tail =>
        if low ≤ second ∧ second ≤ high then
          let read := continuations (extend (leadBits lead count) second) count tail
          (read.1.elim replacement Char.ofNat, read.2)
        else (replacement, rest)
    | _, _ => (replacement, rest)

theorem length_firstChar_le (lead : UInt8) (rest : Bytes) :
    (firstChar lead rest).2.length ≤ rest.length := by
  simp only [firstChar]
  split
  · exact Nat.le_refl _
  · split
    · split
      · exact Nat.le_succ_of_le (length_continuations_le _ _ _)
      · exact Nat.le_refl _
    · exact Nat.le_refl _

/-- The characters of a byte string. Every byte ends up in exactly one of them. -/
def lossyChars : Bytes → List Char
  | [] => []
  | lead :: rest =>
      have := length_firstChar_le lead rest
      (firstChar lead rest).1 :: lossyChars (firstChar lead rest).2
  termination_by bytes => bytes.length
  decreasing_by
    simp only [List.length_cons]
    omega

/-- Padding of a text field: a blank or a NUL. -/
def isPadding (c : Char) : Bool := c == ' ' || c == '\x00'

/-- A text without the padding at both ends. Padding between other characters stays. -/
def trimPadding (text : List Char) : List Char :=
  ((text.dropWhile isPadding).reverse.dropWhile isPadding).reverse

/-- The text of a padded field. -/
def ofField (field : Bytes) : String := String.ofList (trimPadding (lossyChars field))

end DriveBridge.Text
