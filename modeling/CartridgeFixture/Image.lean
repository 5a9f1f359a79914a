import CartridgeFixture.Header.Layout
import CartridgeFixture.Image.Ramp

/-!
The complete cartridge image: the header, then program memory, then character memory, each region filled
with a ramp of its own that starts at zero.
-/
namespace CartridgeFixture.Image

/-- Bytes of program memory: two banks. -/
def prgSize : Nat := 2 * Header.prgBankSize

/-- Bytes of character memory: one bank. -/
def chrSize : Nat := Header.chrBankSize

/-- Bytes of the whole image. -/
def size : Nat := Header.size + prgSize + chrSize

/-- The image, byte for byte. -/
def bytes : List UInt8 := Header.fixture ++ ramp prgSize ++ ramp chrSize

theorem length_bytes : bytes.length = size := by
  unfold bytes size
  rw [List.length_append, List.length_append, length_ramp, length_ramp, Header.length_fixture]

/-- The bytes from offset `start` up to but not including `stop`, if both lie in the image in that order. -/
def slice? (start stop : Nat) : Option (List UInt8) :=
  if start ≤ stop ∧ stop ≤ bytes.length then some ((bytes.take stop).drop start) else none

end CartridgeFixture.Image
