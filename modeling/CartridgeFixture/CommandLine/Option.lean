import CartridgeFixture.Log.Level

/-!
The options of the command line: two parameters that take a value, and the request for help.
-/
namespace CartridgeFixture.CommandLine

/-- An option that takes a value. -/
inductive Parameter where
  | output
  | logLevel
  deriving DecidableEq, Repr

/-- An option. -/
inductive Switch where
  | parameter (p : Parameter)
  | help
  deriving DecidableEq, Repr

namespace Switch

/-- Every option, in the order of the help text. -/
def all : List Switch := [.parameter .output, .parameter .logLevel, .help]

/-- The long name of an option, without its dashes. -/
def longName : Switch → List Char
  | .parameter .output => "output".toList
  | .parameter .logLevel => "log-level".toList
  | .help => "help".toList

/-- The short name of an option, without its dash. -/
def letter : Switch → Char
  | .parameter .output => 'o'
  | .parameter .logLevel => 'l'
  | .help => 'h'

/-- The option of a long name, spelt in full. -/
def ofLongName? (name : List Char) : Option Switch := all.find? (·.longName == name)

/-- The option of a short name. -/
def ofLetter? (c : Char) : Option Switch := all.find? (·.letter == c)

/-- An option with the name of its value, as usage lines show it. -/
def usage : Switch → String
  | .parameter .output => "--output <OUTPUT>"
  | .parameter .logLevel => "--log-level <LOG_LEVEL>"
  | .help => "--help"

end Switch

/-- A parameter with its value. -/
inductive Setting where
  /-- Where the fixture goes. -/
  | output (path : String)
  | logLevel (level : LogLevel)
  deriving DecidableEq, Repr

/-- The parameter that a setting sets. -/
def Setting.parameter : Setting → Parameter
  | .output _ => .output
  | .logLevel _ => .logLevel

end CartridgeFixture.CommandLine
