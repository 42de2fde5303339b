import DriveBridge.Checked
import DriveBridge.Scsi.Sense

/-! Sense data as the translators read it, byte by byte. Every length that guards a read is one
that the data itself declares, so each reader here is checked. What it finds is what the reader of
the same name in `Sense` says. -/
namespace DriveBridge.Sense

/-- The byte at a position, or 0 where the part of the data that counts ends before it. -/
def readField (sense : Bytes) (extent position : Nat) : Checked UInt8 :=
  if position < extent then Checked.index sense position else return 0

/-- Where fixed format sense data ends by its own account, unless it was cut off before. -/
def readFixedExtent (sense : Bytes) : Checked Nat :=
  if 7 < sense.length then do
    let declared ← Checked.index sense 7
    let stop ← Checked.add declared.toNat 8
    return min sense.length stop
  else return sense.length

/-- Reads the header. -/
def readHeader (sense : Bytes) : Checked (Option Header) :=
  match sense with
  | [] => return none
  | first :: _ =>
      if first &&& 0x70 = 0x70 then do
        let code := first &&& 0x7f
        let length := sense.length
        if 0x72 ≤ code then
          let key ← readField sense length 1
          let asc ← readField sense length 2
          let ascq ← readField sense length 3
          let additional ← readField sense length 7
          return some ⟨code, key &&& 0xf, asc, ascq, additional⟩
        else
          let key ← readField sense length 2
          let extent ← readFixedExtent sense
          let asc ← readField sense extent 12
          let ascq ← readField sense extent 13
          return some ⟨code, key &&& 0xf, asc, ascq, 0⟩
      else return none

/-- The descriptor header at a position of the region: the type, the region from there on, and the
length byte, which the last descriptor may lack. -/
def readDescriptorHeader (region : Bytes) (position : Nat) :
    Checked (UInt8 × Bytes × Option UInt8) := do
  let rest ← Checked.past region position
  let second ← Checked.add position 1
  let count ← if second < region.length then (Checked.index rest 1).map some else pure none
  let kind ← Checked.index rest 0
  return (kind, rest, count)

/-- Looks for the first descriptor of a type from a position of the region on. A step goes over
the header and as many bytes as it declares, which may lead past the end of the region. -/
def seekDescriptor (type : UInt8) (region : Bytes) (position : Nat) : Checked (Option Bytes) :=
  if position < region.length then
    match readDescriptorHeader region position with
    | none => none
    | some (kind, rest, none) =>
        if kind = type then (Checked.cut rest (min 1 rest.length)).map some else some none
    | some (kind, rest, some count) =>
        match _ : Checked.add count.toNat 2 with
        | none => none
        | some length =>
            if kind = type then (Checked.cut rest (min length rest.length)).map some
            else match _ : Checked.add position length with
              | none => none
              | some next => seekDescriptor type region next
  else some none
  termination_by region.length - position
  decreasing_by
    have hStep := Checked.eq_of_add ‹Checked.add count.toNat 2 = some length›
    have hNext := Checked.eq_of_add ‹Checked.add position length = some next›
    omega

/-- Reads the first descriptor of a type. -/
def readDescriptor (sense : Bytes) (type : UInt8) : Checked (Option Bytes) :=
  if 8 ≤ sense.length then do
    let declared ← Checked.index sense 7
    let format ← Checked.index sense 0
    if declared ≠ 0 ∧ 0x72 ≤ format ∧ format ≤ 0x73 then
      let room ← Checked.sub sense.length 8
      let stop ← Checked.add 8 (min declared.toNat room)
      let front ← Checked.cut sense stop
      let region ← Checked.past front 8
      seekDescriptor type region 0
    else return none
  else return none

/-- Reads what the verdict on a command goes by. -/
def readSummary (status : UInt8) (sense : Bytes) : Checked Summary :=
  if status ≠ checkCondition ∨ sense = [] then return {}
  else do
    let first ← Checked.index sense 0
    let code := first &&& 0x7f
    if 0x72 ≤ code then
      if 3 < sense.length then
        let key ← Checked.index sense 1
        let asc ← Checked.index sense 2
        let ascq ← Checked.index sense 3
        return ⟨code, key &&& 0xf, asc, ascq⟩
      else return { responseCode := code }
    else if 0x70 ≤ code ∧ 2 < sense.length then
      let key ← Checked.index sense 2
      if 13 < sense.length then
        let asc ← Checked.index sense 12
        let ascq ← Checked.index sense 13
        return ⟨code, key &&& 0xf, asc, ascq⟩
      else return { responseCode := code, senseKey := key &&& 0xf }
    else return { responseCode := code }

end DriveBridge.Sense
