import DriveBridge.Bytes

/-! The cyclic redundancy check of the routing page: the remainder of a message modulo a
polynomial of degree 16, with zero initial value and the most significant bit first. -/
namespace DriveBridge.Multiplexer.Crc

/-- The polynomial without its leading term. -/
def polynomial : UInt16 := 0x8bb7

/-- Brings one more bit of the message into the remainder. -/
def shift (remainder : UInt16) (bit : Bool) : UInt16 :=
  let shifted := remainder <<< 1 ||| (if bit then 1 else 0)
  if remainder &&& 0x8000 = 0 then shifted else shifted ^^^ polynomial

/-- The bits of a byte, the most significant one first. -/
def bits (byte : UInt8) : List Bool :=
  [7, 6, 5, 4, 3, 2, 1, 0].map fun position : UInt8 => byte >>> position &&& 1 == 1

/-- The remainder of a message that continues one whose remainder is known. -/
def remainder (start : UInt16) (message : Bytes) : UInt16 :=
  (message.flatMap bits).foldl shift start

/-- The check of a message. A message that already ends with its check is taken as it is; any
other is followed by two zero bytes, in whose place the check can be written. -/
def crc16 (message : Bytes) (checked : Bool) : UInt16 :=
  remainder 0 (message ++ if checked then [] else [0, 0])

theorem remainder_append (start : UInt16) (first second : Bytes) :
    remainder start (first ++ second) = remainder (remainder start first) second := by
  simp [remainder, List.flatMap_append, List.foldl_append]

end DriveBridge.Multiplexer.Crc
