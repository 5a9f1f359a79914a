import CartridgeFixture.Text.Numeral

/-!
Log levels, from the gravest to the most talkative, and how a level is written: as its name in any case of
letters, or as its rank.
-/
namespace CartridgeFixture

/-- How grave an event is, or how much is to be logged. -/
inductive LogLevel where
  | error
  | warn
  | info
  | debug
  | trace
  deriving DecidableEq, Repr

namespace LogLevel

/-- The levels in the order of their ranks. -/
def all : List LogLevel := [.error, .warn, .info, .debug, .trace]

/-- The place of a level in the order, from one. -/
def rank : LogLevel → Nat
  | .error => 1
  | .warn => 2
  | .info => 3
  | .debug => 4
  | .trace => 5

/-- The name of a level. -/
def name : LogLevel → String
  | .error => "error"
  | .warn => "warn"
  | .info => "info"
  | .debug => "debug"
  | .trace => "trace"

/-- The name as it stands in a log line. -/
def label : LogLevel → String
  | .error => "ERROR"
  | .warn => "WARN"
  | .info => "INFO"
  | .debug => "DEBUG"
  | .trace => "TRACE"

/-- Whether events of a level are logged when `most` is the most talkative level wanted. -/
def enabledAt (level most : LogLevel) : Bool := level.rank ≤ most.rank

@[simp] theorem enabledAt_trace (level : LogLevel) : level.enabledAt .trace = true := by
  cases level <;> rfl

/-- The level of a rank. -/
def ofRank? (n : Nat) : Option LogLevel := all.find? (·.rank == n)

/-- The level of a name; the case of ASCII letters does not matter. -/
def ofName? (text : List Char) : Option LogLevel :=
  all.find? (·.name.toList == text.map Char.toLower)

/-- Reads a level: a rank as a numeral below 2^64, or else a name. -/
def ofText? (text : String) : Option LogLevel :=
  ((Numeral.read? 10 (UInt64.size - 1) text.toList).bind ofRank?).or (ofName? text.toList)

end LogLevel

end CartridgeFixture
