import CartridgeFixture.Flag.Text
import CartridgeFixture.Text.Padding

/-!
How a flag value is shown: by name, on one line or several, and as a number in four spellings.
-/
namespace CartridgeFixture.Flags
variable {t : FlagTable}

/-- The flag text, or `0x0` for the empty value. -/
def shown (f : Flags t) : String := if f.isEmpty then "0x0" else f.text .full

/-- One line: the kind of byte and, in brackets, its flags. -/
def inline (f : Flags t) : String := t.kind ++ "(" ++ f.shown ++ ")"

/-- The same over three lines. -/
def spread (f : Flags t) : String := t.kind ++ "(\n    " ++ f.shown ++ ",\n)"

/-- Spellings of a byte as a number. -/
inductive Radix where
  | binary
  | octal
  | hexLower
  | hexUpper
  deriving DecidableEq, Repr

/-- The mark in front of a number of this spelling. -/
def Radix.mark : Radix → List Char
  | .binary => ['0', 'b']
  | .octal => ['0', 'o']
  | .hexLower | .hexUpper => ['0', 'x']

/-- The digits of a number, without mark. -/
def Radix.digits : Radix → Nat → List Char
  | .binary, n => Numeral.write 2 n
  | .octal, n => Numeral.write 8 n
  | .hexLower, n => Numeral.write 16 n
  | .hexUpper, n => Numeral.writeUpper 16 n

/-- The bits as a number. -/
def inRadix (radix : Radix) (f : Flags t) : String := String.ofList (radix.digits f.bits.toNat)

/-- The bits as a number behind its mark. -/
def inMarkedRadix (radix : Radix) (f : Flags t) : String :=
  String.ofList (radix.mark ++ radix.digits f.bits.toNat)

/-- The bits in columns: eight binary digits, five octal places at the right, four for base sixteen at the
left, and seven with the mark and capital letters in the middle. -/
def columns (f : Flags t) : List String :=
  let n := f.bits.toNat
  [Text.padLeft '0' 8 (Radix.binary.digits n),
   Text.padLeft ' ' 5 (Radix.octal.digits n),
   Text.padRight ' ' 4 (Radix.hexLower.digits n),
   Text.centre ' ' 7 (Radix.hexUpper.mark ++ Radix.hexUpper.digits n)].map String.ofList

end CartridgeFixture.Flags
