import CartridgeFixture.Flag.Table

/-!
The two flag bytes of the header: byte 6 holds mirroring, battery, trainer and the low half of the mapper
number, byte 7 the high half of the mapper number.
-/
namespace CartridgeFixture.Header

/-- The flags of header byte 6. -/
def flags6 : FlagTable where
  kind := "Flags6"
  flags :=
    [⟨"MIRRORING", 0b00000001⟩, ⟨"BATTERY", 0b00000010⟩, ⟨"TRAINER", 0b00000100⟩,
     ⟨"FOUR_SCREEN", 0b00001000⟩, ⟨"MAPPER_LOW_MASK", 0b11110000⟩]

/-- The flags of header byte 7. -/
def flags7 : FlagTable where
  kind := "Flags7"
  flags := [⟨"MAPPER_HIGH_MASK", 0b11110000⟩]

namespace Flags6

/-- Vertical mirroring, if there are no four screens. -/
def mirroring : Flags flags6 := ⟨0b00000001⟩

/-- Memory on the cartridge is kept by a battery. -/
def battery : Flags flags6 := ⟨0b00000010⟩

/-- A trainer stands between header and program memory. -/
def trainer : Flags flags6 := ⟨0b00000100⟩

/-- The cartridge has four screens of its own. -/
def fourScreen : Flags flags6 := ⟨0b00001000⟩

/-- The low half of the mapper number. -/
def mapperLow : Flags flags6 := ⟨0b11110000⟩

end Flags6

/-- The high half of the mapper number. -/
def Flags7.mapperHigh : Flags flags7 := ⟨0b11110000⟩

/-- How the picture tables repeat. -/
inductive Mirroring where
  | horizontal
  | vertical
  | fourScreen
  deriving DecidableEq, Repr

/-- The name of an arrangement. -/
def Mirroring.name : Mirroring → String
  | .horizontal => "Horizontal"
  | .vertical => "Vertical"
  | .fourScreen => "FourScreen"

/-- Four screens win over the mirroring bit. -/
def mirroringOf (f : Flags flags6) : Mirroring :=
  if f.contains Flags6.fourScreen then .fourScreen
  else if f.contains Flags6.mirroring then .vertical
  else .horizontal

/-- The mapper number: its low half from the high bits of byte 6, its high half from those of byte 7. -/
def mapperOf (f : Flags flags6) (g : Flags flags7) : UInt8 :=
  (g.inter Flags7.mapperHigh).bits ||| ((f.inter Flags6.mapperLow).bits >>> 4)

end CartridgeFixture.Header
