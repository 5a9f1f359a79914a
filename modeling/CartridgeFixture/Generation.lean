import CartridgeFixture.Dialogue
import CartridgeFixture.Image
import CartridgeFixture.Text.Escape

/-!
# Generating the fixture

A generation writes the image through a path. It tells of it in at most two events: before the write, and after a
write that succeeded. A write that fails is reported with the path as it was given and the fault that stood in
the way.
-/
namespace CartridgeFixture

/-- A write that failed, with what stood in the way: a fault, unless the files are not those of this library. -/
structure Failure (ε : Type := Fault) where
  /-- The path as it was given. -/
  path : String
  cause : ε
  deriving DecidableEq, Repr

namespace Failure

/-- A failure to write to a path, in words. -/
def messageOf (path : String) : String := "failed to write fixture to " ++ path

/-- The failure in words, without its cause. -/
def message {ε : Type} (f : Failure ε) : String := messageOf f.path

/-- A message and its cause on one line. -/
def chainOf (message cause : String) : String := message ++ ": " ++ cause

/-- The failure and its cause on one line. -/
def chain (f : Failure) : String := chainOf f.message f.cause.message

/-- A path and a cause on one line, field by field. -/
def inlineOf (path cause : String) : String :=
  "Write \x7b path: " ++ Text.quoted path ++ ", source: " ++ cause ++ " \x7d"

/-- The failure on one line, field by field. -/
def inline (f : Failure) : String := inlineOf f.path f.cause.inline

/-- The report of a program that ends with a message because of a cause. -/
def reportOf (message cause : String) : String :=
  "Error: " ++ message ++ "\n\nCaused by:\n    " ++ cause ++ "\n"

/-- The report of a program that ends because of the failure. -/
def report (f : Failure) : String := reportOf f.message f.cause.message

end Failure

/-- What a generation did. -/
structure Generation where
  /-- The file system afterwards. -/
  fileSystem : FileSystem
  /-- The failure, if there was one. -/
  failure? : Option Failure
  /-- Every event, in order. -/
  events : List Event

namespace Generation

/-- Where the fixture goes if nothing else is asked for. -/
def defaultPath : String := "MMC5Dev/Tests/MMC5DevTests/test.nes"

/-- The event before the write. -/
def opening (path : String) : Event := .writing path Image.bytes.length

/-- The event after a write that succeeded. -/
def closing (path : String) : Event := .wrote path Header.Summary.fixture

end Generation

/-- The program that writes the image to a path; its result is the failure, if there was one. -/
def generation {ε : Type} (path : String) : Dialogue ε (Option (Failure ε)) :=
  .tell (Generation.opening path) <| .write path Image.bytes fun
    | .ok () => .tell (Generation.closing path) (.done none)
    | .error cause => .done (some ⟨path, cause⟩)

/-- Writes the image to a path, and collects the events up to a level. -/
def generateAt (most : LogLevel) (fs : FileSystem) (path : String) : Generation :=
  let seen := (generation path).observe most fs
  ⟨seen.fileSystem, seen.result, seen.events⟩

/-- Writes the image to a path, and collects every event. -/
def generateTo (fs : FileSystem) (path : String) : Generation := generateAt .trace fs path

/-- Writes the image to the default path. -/
def generate (fs : FileSystem) : Generation := generateTo fs Generation.defaultPath

end CartridgeFixture
