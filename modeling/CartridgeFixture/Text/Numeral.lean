/-!
Unsigned numerals in a base up to 36, read within a limit and written without leading zeros.
-/
namespace CartridgeFixture.Numeral

/-- Value of a character as a digit, letters counting on from ten in either case. -/
def digit? (base : Nat) (c : Char) : Option Nat :=
  let value? :=
    if '0' ≤ c ∧ c ≤ '9' then some (c.toNat - '0'.toNat)
    else if 'a' ≤ c ∧ c ≤ 'z' then some (c.toNat - 'a'.toNat + 10)
    else if 'A' ≤ c ∧ c ≤ 'Z' then some (c.toNat - 'A'.toNat + 10)
    else none
  value?.filter (· < base)

/-- Value of a row of digits that continues the number `high`; `none` where a character is no digit. -/
def digits? (base : Nat) (high : Nat) : List Char → Option Nat
  | [] => some high
  | c :: rest => (digit? base c).bind fun low => digits? base (high * base + low) rest

/-- The text behind one optional plus sign. -/
def afterSign : List Char → List Char
  | '+' :: rest => rest
  | text => text

/-- Reads a number of at most `limit`: an optional plus sign, then one or more digits. -/
def read? (base limit : Nat) (text : List Char) : Option Nat :=
  let digits := afterSign text
  if digits.isEmpty then none else (digits? base 0 digits).filter (· ≤ limit)

/-- The digits of a number, letters in lower case. -/
def write (base n : Nat) : List Char := Nat.toDigits base n

/-- The digits of a number, letters in upper case. -/
def writeUpper (base n : Nat) : List Char := (write base n).map Char.toUpper

end CartridgeFixture.Numeral
