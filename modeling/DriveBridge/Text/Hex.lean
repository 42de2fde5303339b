import DriveBridge.Bytes

/-! Numbers as hexadecimal text, in the forms that messages use. -/
namespace DriveBridge.Text

/-- The digits of a number in base 16, padded with zeros on the left up to `width` and never
cut. The number 0 has one digit. -/
def hexDigits (width value : Nat) : List Char :=
  let digits := Nat.toDigits 16 value
  List.replicate (width - digits.length) '0' ++ digits

def hex (width value : Nat) : String := String.ofList (hexDigits width value)

/-- As `hex`, with the letters in capitals. -/
def hexCapital (width value : Nat) : String :=
  String.ofList ((hexDigits width value).map Char.toUpper)

/-- A byte string in brackets, two digits a byte, with a comma and a blank between bytes. -/
def hexList (bytes : Bytes) : String :=
  "[" ++ ", ".intercalate (bytes.map fun byte => hex 2 byte.toNat) ++ "]"

end DriveBridge.Text
