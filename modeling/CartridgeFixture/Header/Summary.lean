import CartridgeFixture.Header.Flags
import CartridgeFixture.Header.Layout

/-!
What a header says, field by field.
-/
namespace CartridgeFixture.Header

/-- The decoded fields of a header. -/
structure Summary where
  mapper : UInt8
  mirroring : Mirroring
  batteryBackedRam : Bool
  trainerPresent : Bool
  /-- Bytes of program memory. -/
  prgSize : Nat
  /-- Bytes of character memory. -/
  chrSize : Nat
  deriving DecidableEq, Repr

namespace Summary

/-- Decodes the header at the start of `bytes`. Undeclared flag bits are ignored, and bytes that are not there
count as zero. -/
def ofBytes (bytes : List UInt8) : Summary :=
  let f : Flags flags6 := Flags.truncate (bytes.getD 6 0)
  let g : Flags flags7 := Flags.truncate (bytes.getD 7 0)
  { mapper := mapperOf f g
    mirroring := mirroringOf f
    batteryBackedRam := f.contains Flags6.battery
    trainerPresent := f.contains Flags6.trainer
    prgSize := (bytes.getD 4 0).toNat * prgBankSize
    chrSize := (bytes.getD 5 0).toNat * chrBankSize }

/-- What the fixture's header says. -/
def fixture : Summary := ofBytes Header.fixture

/-- The summary on one line, each field with its name. -/
def inline (s : Summary) : String :=
  "HeaderSummary \x7b mapper: " ++ toString s.mapper.toNat ++
  ", mirroring: " ++ s.mirroring.name ++
  ", battery_backed_ram: " ++ toString s.batteryBackedRam ++
  ", trainer_present: " ++ toString s.trainerPresent ++
  ", prg_rom_size: " ++ toString s.prgSize ++
  ", chr_rom_size: " ++ toString s.chrSize ++ " \x7d"

end Summary

end CartridgeFixture.Header
