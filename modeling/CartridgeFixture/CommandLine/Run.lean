import CartridgeFixture.CommandLine.Help
import CartridgeFixture.CommandLine.Reader
import CartridgeFixture.Log.Line

/-!
# Running a command line

A command line has one of three outcomes: it shows help, it tells a usage error, or it runs one generation, logs
its events and, if it fails, reports the failure.
-/
namespace CartridgeFixture.CommandLine

/-- What a program leaves behind for its caller. -/
structure Outcome where
  status : Nat
  stdout : String
  stderr : String
  deriving DecidableEq, Repr

/-- What a running program has done so far: to the files, and on its two streams. -/
structure Session where
  fileSystem : FileSystem
  stdout : String
  stderr : String

namespace Session

/-- Nothing has been written to the streams. -/
def start (fs : FileSystem) : Session := ⟨fs, "", ""⟩

/-- Writes to the standard output. -/
def print (s : Session) (text : String) : Session := { s with stdout := s.stdout ++ text }

/-- Writes to the standard error stream. -/
def complain (s : Session) (text : String) : Session := { s with stderr := s.stderr ++ text }

/-- Ends the program with a status. -/
def exit (s : Session) (status : Nat) : FileSystem × Outcome := (s.fileSystem, ⟨status, s.stdout, s.stderr⟩)

end Session

/-- Whether log lines are styled, given the setting of `NO_COLOR`: unless it is set and not empty. -/
def usesColour (noColor? : Option String) : Bool := (noColor?.getD "").isEmpty

/-- A subscriber to events writes those up to a level as log lines, all under the given time. -/
structure Subscriber where
  most : LogLevel
  colour : Bool
  time : String

/-- Writes an event to the standard error stream, if it is subscribed to. -/
def Session.log (s : Session) (subscriber : Subscriber) (event : Event) : Session :=
  if event.level.enabledAt subscriber.most then s.complain (Log.line subscriber.colour subscriber.time event)
  else s

/-- Holds a dialogue with a program in a session, each event being logged when it is told. -/
def Session.perform {α : Type} (subscriber : Subscriber) (s : Session) : Dialogue Fault α → Session × α
  | .done result => (s, result)
  | .tell event rest => (s.log subscriber event).perform subscriber rest
  | .write path bytes rest =>
    let (answer, after) := s.fileSystem.writeFile path bytes
    { s with fileSystem := after }.perform subscriber (rest answer)

/-- Runs a command line; every log line bears the given time. -/
def run (fs : FileSystem) (arguments : List String) (noColor? : Option String) (time : String) :
    FileSystem × Outcome :=
  let session := Session.start fs
  match Invocation.ofArguments arguments with
  | .help => (session.print helpText).exit 0
  | .refused error => (session.complain error.message).exit 2
  | .run path level =>
    match session.perform ⟨level, usesColour noColor?, time⟩ (generation path) with
    | (after, none) => after.exit 0
    | (after, some failure) => (after.complain failure.report).exit 1

end CartridgeFixture.CommandLine
