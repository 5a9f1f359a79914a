/-!
Byte ramps: `0x00, 0x01, …, 0xff` repeated until a given number of bytes is reached.

`ramp` lists a ramp of any length. `Ramp` holds the same bytes without listing them, as the pair of 64-bit
positions that bound what is still to come, so that a window far inside a ramp of any 64-bit length costs no
more than the window itself. Positions are only added to where the sum stays at or below `stop`.
-/
namespace CartridgeFixture

/-- The first `length` bytes of the ramp: the byte at position `i` is `i` modulo 256. -/
def ramp (length : Nat) : List UInt8 :=
  (List.range length).map Nat.toUInt8

@[simp] theorem length_ramp (length : Nat) : (ramp length).length = length := by
  simp [ramp]

theorem getElem_ramp (length i : Nat) (h : i < (ramp length).length) :
    (ramp length)[i] = i.toUInt8 := by
  simp [ramp]

/-- The part of a ramp between two 64-bit positions. -/
structure Ramp where
  /-- Position of the next byte. -/
  start : UInt64
  /-- Position at which the ramp ends. -/
  stop : UInt64
  deriving DecidableEq, Repr

namespace Ramp

/-- The whole ramp of a given length. -/
def ofLength (length : UInt64) : Ramp := ⟨0, length⟩

/-- Number of bytes still to come. -/
def remaining (r : Ramp) : UInt64 :=
  if r.start < r.stop then r.stop - r.start else 0

/-- Leaves out the next `count` bytes, or all that remain if there are fewer. -/
def skip (r : Ramp) (count : UInt64) : Ramp :=
  if count < r.remaining then ⟨r.start + count, r.stop⟩ else ⟨r.stop, r.stop⟩

/-- The next `count` bytes, or all that remain if there are fewer. -/
def take (r : Ramp) (count : UInt64) : List UInt8 :=
  (List.range (min count r.remaining).toNat).map fun k => (r.start + k.toUInt64).toUInt8

/-- Lower and upper bound on the number of bytes to come; both are exact. -/
def sizeHint (r : Ramp) : UInt64 × UInt64 := (r.remaining, r.remaining)

/-- All bytes to come. -/
def toList (r : Ramp) : List UInt8 := r.take r.remaining

end Ramp

end CartridgeFixture
