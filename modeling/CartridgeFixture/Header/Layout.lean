/-!
Layout of the sixteen-byte header that opens a cartridge image, and the one header this project writes.

Bytes 0 to 3 are a signature, bytes 4 and 5 count the banks of program and character memory, bytes 6 and 7
hold flags, and the rest is reserved.
-/
namespace CartridgeFixture.Header

/-- Signature at offset 0: the letters `NES` and the end-of-file mark `0x1a`. -/
def magic : List UInt8 := [0x4e, 0x45, 0x53, 0x1a]

/-- Number of bytes of a header. -/
def size : Nat := 16

/-- Bytes in one bank of program memory, the unit of header byte 4. -/
def prgBankSize : Nat := 16 * 1024

/-- Bytes in one bank of character memory, the unit of header byte 5. -/
def chrBankSize : Nat := 8 * 1024

/-- Header of the fixture: two program banks, one character bank, vertical mirroring, mapper 0. -/
def fixture : List UInt8 :=
  [0x4e, 0x45, 0x53, 0x1a, 0x02, 0x01, 0x01, 0x00, 0, 0, 0, 0, 0, 0, 0, 0]

theorem length_fixture : fixture.length = size := rfl

theorem take_fixture : fixture.take 4 = magic := rfl

end CartridgeFixture.Header
