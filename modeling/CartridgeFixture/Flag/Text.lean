import CartridgeFixture.Flag.Names
import CartridgeFixture.Text.Blank
import CartridgeFixture.Text.Numeral

/-!
# Flag text

A value is written as the names of its flags joined by ` | `, then what remains as `0x` and a number in base
sixteen; the empty value is the empty text. Three forms differ in what they do with bits that carry no name.

Reading accepts the parts in any order, any number of times, with blanks around them; a blank text is the empty
value. The first part at fault, from the left, decides the error.
-/
namespace CartridgeFixture

/-- What a flag text does with bits that have no name of their own. -/
inductive FlagText where
  /-- All bits are kept, those without a name as a number. -/
  | full
  /-- Names only: a number is neither written nor read. -/
  | strict
  /-- Undeclared bits are dropped; declared ones may still stand as a number. -/
  | truncated
  deriving DecidableEq, Repr

/-- Why a text is no flag value. -/
inductive FlagTextError where
  /-- There is nothing between two bars. -/
  | emptyPart
  /-- A part starts with `0x` but is not a number that the form admits. -/
  | invalidNumber
  /-- A part is not the name of a declared flag. -/
  | unknownName
  deriving DecidableEq, Repr

/-- The wording of an error. -/
def FlagTextError.message : FlagTextError → String
  | .emptyPart => "encountered empty flag"
  | .invalidNumber => "invalid hex flag"
  | .unknownName => "unrecognized named flag"

namespace Flags
variable {t : FlagTable}

/-! ## Writing -/

/-- What is written for bits without a name: nothing if there are none. -/
def remainderPart (bits : UInt8) : List (List Char) :=
  if bits = 0 then [] else ['0' :: 'x' :: Numeral.write 16 bits.toNat]

/-- The parts of a value's text. -/
def parts (form : FlagText) (f : Flags t) : List (List Char) :=
  let named (g : Flags t) := g.names.map (·.name.toList)
  match form with
  | .full => named f ++ remainderPart f.remainder
  | .strict => named f
  | .truncated =>
    let declared : Flags t := truncate f.bits
    named declared ++ remainderPart declared.remainder

/-- The text of a value. -/
def text (form : FlagText) (f : Flags t) : String :=
  String.ofList ([' ', '|', ' '].intercalate (f.parts form))

/-! ## Reading -/

/-- Reads one part whose blanks have been taken off. -/
def readTrimmed (form : FlagText) : List Char → Except FlagTextError (Flags t)
  | [] => .error .emptyPart
  | '0' :: 'x' :: digits =>
    if form = .strict then .error .invalidNumber
    else match Numeral.read? 16 255 digits with
      | some n => .ok ⟨n.toUInt8⟩
      | none => .error .invalidNumber
  | name => match ofName? (String.ofList name) with
    | some flag => .ok flag
    | none => .error .unknownName

/-- Reads one part. -/
def readPart (form : FlagText) (part : List Char) : Except FlagTextError (Flags t) :=
  readTrimmed form (Text.trim part)

/-- Reads a row of parts; the result has the bits of all of them. -/
def readParts (form : FlagText) : List (List Char) → Except FlagTextError (Flags t)
  | [] => .ok empty
  | part :: rest => do
    let f ← readPart form part
    let g ← readParts form rest
    return f.union g

/-- Reads a flag text. -/
def ofText (form : FlagText) (text : String) : Except FlagTextError (Flags t) :=
  if text.toList.all Text.isBlank then .ok empty
  else do
    let f ← readParts form (text.toList.splitOn '|')
    return if form = .truncated then truncate f.bits else f

end Flags

end CartridgeFixture
