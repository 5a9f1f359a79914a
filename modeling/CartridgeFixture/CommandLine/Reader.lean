import CartridgeFixture.CommandLine.Suggestion
import CartridgeFixture.CommandLine.UsageError
import CartridgeFixture.Generation

/-!
# Reading arguments

Arguments are read from left to right. A parameter that does not bring its value with it takes the next argument,
unless that is an option; its value is then **pending**, and is checked when the next option has been read or the
arguments are at an end. The first error or request for help decides. Two dashes end the options, and nothing may
stand behind them.

An option that does not exist and an argument without a place are told at once, before a pending value is checked.
-/
namespace CartridgeFixture.CommandLine

/-- What a list of arguments asks for. -/
inductive Invocation where
  | help
  | refused (error : UsageError)
  | run (path : String) (level : LogLevel)
  deriving DecidableEq, Repr

/-- The forms of an argument. -/
inductive Argument where
  /-- Two dashes. -/
  | ending
  /-- Two dashes and a name, perhaps with a value behind an equals sign. -/
  | long (name : List Char) (value? : Option (List Char))
  /-- One dash, a letter, and what follows it. -/
  | short (letter : Char) (rest : List Char)
  /-- Anything else, a single dash included. -/
  | plain
  deriving DecidableEq, Repr

/-- What stands before the first equals sign, and what stands behind it if there is one. -/
def splitValue (text : List Char) : List Char × Option (List Char) :=
  (text.takeWhile (· ≠ '='), (text.dropWhile (· ≠ '=')).tail?)

/-- The form of an argument. -/
def Argument.ofText : List Char → Argument
  | ['-', '-'] => .ending
  | '-' :: '-' :: text => let (name, value?) := splitValue text; .long name value?
  | '-' :: letter :: rest => .short letter rest
  | _ => .plain

/-- A parameter whose value is missing or not yet checked. -/
structure Pending where
  parameter : Parameter
  value? : Option String
  deriving DecidableEq, Repr

/-- What has been read so far. -/
structure State where
  /-- The settings that are complete and valid, in order. -/
  settings : List Setting
  pending? : Option Pending
  /-- Whether the options have been ended. -/
  ended : Bool
  deriving DecidableEq, Repr

/-- Nothing has been read. -/
def State.start : State := ⟨[], none, false⟩

/-- Checks the value of a parameter: a path must not be empty, a level must be one. -/
def Setting.ofValue : Parameter → String → Except UsageError Setting
  | .output, value => if value.isEmpty then .error (.valueRequired .output) else .ok (.output value)
  | .logLevel, value => match LogLevel.ofText? value with
    | some level => .ok (.logLevel level)
    | none => .error (.invalidLevel value)

/-- Adds a parameter to the settings: it must have a value, must be new, and its value must be valid. -/
def settle (settings : List Setting) (p : Pending) : Except UsageError (List Setting) :=
  match p.value? with
  | none => .error (.valueRequired p.parameter)
  | some value =>
    if p.parameter ∈ settings.map Setting.parameter then .error (.repeated p.parameter)
    else do return settings ++ [← Setting.ofValue p.parameter value]

namespace State

/-- The settings, once a pending parameter has been added to them. -/
def settled (s : State) : Except UsageError (List Setting) :=
  match s.pending? with
  | none => .ok s.settings
  | some p => settle s.settings p

/-- The parameters that are shown as given. A pending one counts as given whatever its value is worth, and one
that is given twice does not count. -/
def given (s : State) : List Parameter :=
  let before := s.settings.map Setting.parameter
  match s.pending? with
  | some ⟨p, some _⟩ => if p ∈ before then before.erase p else before ++ [p]
  | _ => before

/-- A parameter that waits for its value. -/
def await (s : State) (p : Parameter) : Except UsageError State := do
  return ⟨← s.settled, some ⟨p, none⟩, s.ended⟩

/-- A parameter that brings its value with it. -/
def attach (s : State) (p : Parameter) (value : List Char) : Except UsageError State := do
  return ⟨← settle (← s.settled) ⟨p, some (String.ofList value)⟩, none, s.ended⟩

/-- A request for help, which shows an error of a pending parameter first. -/
def askHelp (s : State) : Invocation :=
  match s.settled with
  | .ok _ => .help
  | .error e => .refused e

/-- The error of an option that does not exist: a similar one is shown as if it had been given. -/
def unknown (s : State) (name : List Char) : UsageError :=
  let similar? := similarTo name
  let given := s.given.map Switch.parameter
  let shown := match similar? with
    | some other => if other ∈ given then given else given ++ [other]
    | none => given
  .unknownOption (String.ofList name) similar? shown

/-- Reads an option by its long name. -/
def readLong (s : State) (name : List Char) (value? : Option (List Char)) : Except Invocation State :=
  match Switch.ofLongName? name, value? with
  | some (.parameter p), none => (s.await p).mapError .refused
  | some (.parameter p), some value => (s.attach p value).mapError .refused
  | some .help, none => .error s.askHelp
  | some .help, some value =>
    let given := s.settings.map fun setting => Switch.parameter setting.parameter
    .error (.refused (.helpWithValue (String.ofList value) (given ++ [.help])))
  | none, _ => .error (.refused (s.unknown name))

/-- Reads an option by its letter. What follows the letter of a parameter is its value, without one equals sign
in front. -/
def readShort (s : State) (letter : Char) (rest : List Char) : Except Invocation State :=
  match Switch.ofLetter? letter, rest with
  | some (.parameter p), [] => (s.await p).mapError .refused
  | some (.parameter p), '=' :: value => (s.attach p value).mapError .refused
  | some (.parameter p), value => (s.attach p value).mapError .refused
  | some .help, _ => .error s.askHelp
  | none, _ => .error (.refused (.unexpectedArgument (String.ofList ['-', letter])))

/-- Reads an argument that is no option: the value of a waiting parameter, or one too many. -/
def readPlain (s : State) (argument : String) : Except Invocation State :=
  match s.pending? with
  | some ⟨p, none⟩ => .ok { s with pending? := some ⟨p, some argument⟩ }
  | _ => .error (.refused (.unexpectedArgument argument))

/-- Reads one argument. -/
def read (s : State) (argument : String) : Except Invocation State :=
  if s.ended then .error (.refused (.unexpectedArgument argument))
  else match Argument.ofText argument.toList with
    | .ending => .ok { s with ended := true }
    | .long name value? => s.readLong name value?
    | .short letter rest => s.readShort letter rest
    | .plain => s.readPlain argument

/-- The path asked for, or else the default one. -/
def pathOf (settings : List Setting) : String :=
  (settings.findSome? fun | .output path => some path | _ => none).getD Generation.defaultPath

/-- The level asked for, or else warnings. -/
def levelOf (settings : List Setting) : LogLevel :=
  (settings.findSome? fun | .logLevel level => some level | _ => none).getD .warn

/-- What is asked for when the arguments are at an end. -/
def finish (s : State) : Invocation :=
  match s.settled with
  | .ok settings => .run (pathOf settings) (levelOf settings)
  | .error e => .refused e

/-- Reads the arguments that are left. -/
def readAll (s : State) : List String → Invocation
  | [] => s.finish
  | argument :: rest => match s.read argument with
    | .ok next => next.readAll rest
    | .error decided => decided

end State

/-- What a list of arguments asks for. -/
def Invocation.ofArguments (arguments : List String) : Invocation := State.start.readAll arguments

end CartridgeFixture.CommandLine
