import CartridgeFixture.CommandLine.Run
import Std.Time.DateTime
import Std.Time.Format
import Std.Time.Zoned

/-!
The program: reads its arguments, writes the image to the real file system, and tells what happened on the
standard streams.
-/
open CartridgeFixture CartridgeFixture.CommandLine

/-- The present moment in universal time, to the microsecond. -/
def timeNow : IO String := do
  let now ← Std.Time.Timestamp.now
  return (Std.Time.DateTime.ofTimestamp now Std.Time.TimeZone.ZoneRules.UTC).format
    "uuuu-MM-dd'T'HH:mm:ss.SSSSSS'Z'"

/-- The system's number for an error, if the error has come from the system. -/
def systemCode? : IO.Error → Option UInt32
  | .alreadyExists _ code _ | .otherError code _ | .resourceBusy code _ | .resourceVanished code _
  | .unsupportedOperation code _ | .hardwareFault code _ | .unsatisfiedConstraints code _
  | .illegalOperation code _ | .protocolError code _ | .timeExpired code _ | .interrupted _ code _
  | .noFileOrDirectory _ code _ | .invalidArgument _ code _ | .permissionDenied _ code _
  | .resourceExhausted _ code _ | .inappropriateType _ code _ | .noSuchThing _ code _ => some code
  | .unexpectedEof | .userError _ => none

/-- An error in words. -/
def causeText (e : IO.Error) : String :=
  match (systemCode? e).bind fun code => Fault.ofCode? code.toNat with
  | some fault => fault.message
  | none => toString e

/-- Logs an event, if its level is wanted. -/
def logEvent (colour : Bool) (level : LogLevel) (e : Event) : IO Unit := do
  if e.level.enabledAt level then
    IO.eprint (Log.line colour (← timeNow) e)

/-- Holds a dialogue with a program over the real file system. -/
def perform {α : Type} (colour : Bool) (level : LogLevel) : Dialogue IO.Error α → IO α
  | .done result => return result
  | .tell event rest => do
    logEvent colour level event
    perform colour level rest
  | .write path bytes rest => do
    let answer ← (IO.FS.writeBinFile path ⟨bytes.toArray⟩).toBaseIO
    perform colour level (rest answer)

/-- Runs one generation; the result is the exit status. -/
def runGeneration (path : String) (level : LogLevel) : IO UInt32 := do
  let colour := usesColour (← IO.getEnv "NO_COLOR")
  match ← perform colour level (generation path) with
  | none => return 0
  | some failure => do
    IO.eprint (Failure.reportOf failure.message (causeText failure.cause))
    return 1

def main (arguments : List String) : IO UInt32 := do
  match Invocation.ofArguments arguments with
  | .help => do
    IO.print helpText
    return 0
  | .refused error => do
    IO.eprint error.message
    return 2
  | .run path level => runGeneration path level
