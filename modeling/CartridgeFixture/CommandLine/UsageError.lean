import CartridgeFixture.CommandLine.Option
import CartridgeFixture.Terminal.ControlSequence

/-!
# Usage errors

What can be wrong with the arguments of a command line, and how it is told. Every argument that is told is told
without its control sequences.
-/
namespace CartridgeFixture.CommandLine

/-- What is wrong with some arguments. -/
inductive UsageError where
  /-- A parameter has no value, or an empty one where that is none. -/
  | valueRequired (parameter : Parameter)
  /-- A parameter is given twice. -/
  | repeated (parameter : Parameter)
  /-- The value of the log level is no level. -/
  | invalidLevel (value : String)
  /-- An argument has no place here. -/
  | unexpectedArgument (argument : String)
  /-- There is no option of this name. There may be a similar one; `given` are the options to show. -/
  | unknownOption (name : String) (similar? : Option Switch) (given : List Switch)
  /-- The request for help was given a value. -/
  | helpWithValue (value : String) (given : List Switch)
  deriving DecidableEq, Repr

/-- The name by which the program is called. -/
def programName : String := "nesium-fixture"

namespace UsageError

/-- The fault in one sentence. -/
def headline : UsageError → String
  | .valueRequired p =>
    "a value is required for '" ++ (Switch.parameter p).usage ++ "' but none was supplied"
  | .repeated p => "the argument '" ++ (Switch.parameter p).usage ++ "' cannot be used multiple times"
  | .invalidLevel value =>
    "invalid value '" ++ Terminal.plain value ++ "' for '" ++ (Switch.parameter .logLevel).usage ++
    "': error parsing level: expected one of \"error\", \"warn\", \"info\", \"debug\", \"trace\"," ++
    " or a number 1-5"
  | .unexpectedArgument argument => "unexpected argument '" ++ Terminal.plain argument ++ "' found"
  | .unknownOption name .. => "unexpected argument '" ++ Terminal.plain ("--" ++ name) ++ "' found"
  | .helpWithValue value _ =>
    "unexpected value '" ++ Terminal.plain value ++ "' for '" ++ Switch.help.usage ++
    "' found; no more were expected"

/-- The option to try instead, with the name that it has. -/
def tip : UsageError → String
  | .unknownOption _ (some s) _ =>
    "  tip: a similar argument exists: '--" ++ String.ofList s.longName ++ "'\n\n"
  | _ => ""

/-- How the program is called with some options. -/
def usageLine (given : List Switch) : String :=
  let shown := if given.isEmpty then "[OPTIONS]" else " ".intercalate (given.map Switch.usage)
  "Usage: " ++ programName ++ " " ++ shown ++ "\n\n"

/-- The usage line of an error, if it has one. -/
def usage : UsageError → String
  | .valueRequired _ | .invalidLevel _ => ""
  | .repeated _ | .unexpectedArgument _ => usageLine []
  | .unknownOption _ _ given | .helpWithValue _ given => usageLine given

/-- The whole message. -/
def message (e : UsageError) : String :=
  "error: " ++ e.headline ++ "\n\n" ++ e.tip ++ e.usage ++ "For more information, try '--help'.\n"

end UsageError

end CartridgeFixture.CommandLine
