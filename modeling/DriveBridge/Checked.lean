import DriveBridge.Bytes

/-! Steps that must not be taken everywhere: reading and cutting inside a buffer, and sizes that
have to fit in a machine word. Where such a step is not allowed, it has no value, and neither has
the computation that takes it. -/
namespace DriveBridge

/-- A computation of steps that may not be allowed. -/
abbrev Checked (α : Type) := Option α

namespace Checked

/-- Sizes and positions are below this, the 64th power of 2. -/
def sizeLimit : Nat := 0x10000000000000000

/-- The byte at a position inside a buffer. -/
def index (bytes : Bytes) (position : Nat) : Checked UInt8 := bytes[position]?

/-- The start of a buffer, up to a position that the buffer reaches. -/
def cut (bytes : Bytes) (stop : Nat) : Checked Bytes :=
  if stop ≤ bytes.length then some (bytes.take stop) else none

/-- The end of a buffer, from a position on that the buffer reaches. -/
def past (bytes : Bytes) (start : Nat) : Checked Bytes :=
  if start ≤ bytes.length then some (bytes.drop start) else none

/-- The first bytes of `source` copied over the start of `target`. Both must have as many. -/
def copy (source target : Bytes) (count : Nat) :
    Checked { result : Bytes // result.length = target.length } :=
  if count ≤ source.length ∧ count ≤ target.length then
    some ⟨Bytes.overlay (source.take count) target, Bytes.length_overlay _ _⟩
  else none

def add (first second : Nat) : Checked Nat :=
  if first + second < sizeLimit then some (first + second) else none

def sub (first second : Nat) : Checked Nat :=
  if second ≤ first then some (first - second) else none

variable {bytes : Bytes} {position first second : Nat}

theorem index_of_lt (h : position < bytes.length) :
    index bytes position = some (bytes.byte position) := by
  simp [index, Bytes.byte, List.getD_eq_getElem?_getD, List.getElem?_eq_getElem h]

theorem cut_of_le (h : position ≤ bytes.length) :
    cut bytes position = some (bytes.take position) := if_pos h

theorem past_of_le (h : position ≤ bytes.length) :
    past bytes position = some (bytes.drop position) := if_pos h

/-- To copy as much as there is and fits is to lay one buffer over the other. -/
theorem copy_of_eq_min {source target : Bytes} {count : Nat}
    (hCount : count = min source.length target.length) :
    copy source target count =
      some ⟨Bytes.overlay source target, Bytes.length_overlay _ _⟩ := by
  subst hCount
  have hOverlay : Bytes.overlay (source.take (min source.length target.length)) target =
      Bytes.overlay source target := by
    simp only [Bytes.overlay, List.take_take, List.length_take]
    rcases Nat.le_total source.length target.length with hFits | hLonger
    · simp [Nat.min_eq_left hFits, Nat.min_eq_right hFits, List.take_of_length_le hFits]
    · simp [Nat.min_eq_right hLonger, Nat.min_eq_left hLonger, List.drop_of_length_le hLonger]
  simp only [copy, Nat.min_le_left, Nat.min_le_right, and_self, if_true, hOverlay]

theorem add_of_lt (h : first + second < sizeLimit) : add first second = some (first + second) :=
  if_pos h

theorem eq_of_add {sum : Nat} (h : add first second = some sum) : sum = first + second := by
  unfold add at h
  split at h
  · exact (Option.some.inj h).symm
  · cases h

theorem sub_of_le (h : second ≤ first) : sub first second = some (first - second) := if_pos h

end Checked

end DriveBridge
