import CartridgeFixture.Text.Escape.Ranges

/-!
# Quoted text

A text between double quotes, in which the quote, the backslash and every character that does not show by itself
are escaped: five by a letter, the others by their number in braces.
-/
namespace CartridgeFixture.Text

/-- Whether a character is escaped by its number unless it has an escape of its own. -/
def needsNumber (c : Char) : Bool :=
  hiddenRanges.any fun r => r.1 ≤ c.toNat && c.toNat ≤ r.2

/-- One character of a quoted text. -/
def escapeChar (c : Char) : List Char :=
  if c = '\x00' then ['\\', '0']
  else if c = '\t' then ['\\', 't']
  else if c = '\r' then ['\\', 'r']
  else if c = '\n' then ['\\', 'n']
  else if c = '\\' then ['\\', '\\']
  else if c = '"' then ['\\', '"']
  else if needsNumber c then ['\\', 'u', '\x7b'] ++ Nat.toDigits 16 c.toNat ++ ['\x7d']
  else [c]

/-- A text as it stands between the quotes. -/
def escape (text : List Char) : List Char := text.flatMap escapeChar

/-- A text in quotes. -/
def quoted (text : String) : String := String.ofList ('"' :: (escape text.toList ++ ['"']))

end CartridgeFixture.Text
