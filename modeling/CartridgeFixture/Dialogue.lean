import CartridgeFixture.FileSystem.Write
import CartridgeFixture.Log.Event

/-!
# Dialogues

A program that tells of events and asks for files to be written is a **dialogue** with its surroundings: a tree of
requests, in which the answer to each write decides how the program goes on. The surroundings are no part of it.
Whoever holds the dialogue with the program decides where the files lie and what becomes of the events, so that one
and the same program can be watched by an observer, run at a terminal, or run on a real machine.
-/
namespace CartridgeFixture

/-- A program that ends with a result; `ε` is what may stand in the way of a write. -/
inductive Dialogue (ε α : Type) where
  | done (result : α)
  /-- Tells of an event. -/
  | tell (event : Event) (rest : Dialogue ε α)
  /-- Asks for a file to hold some bytes, and goes on with what came of it. -/
  | write (path : String) (bytes : List UInt8) (rest : Except ε Unit → Dialogue ε α)

/-- What an observer has seen of a dialogue. -/
structure Observation (α : Type) where
  /-- The file system afterwards. -/
  fileSystem : FileSystem
  /-- The events that were listened for, in order. -/
  events : List Event
  result : α

namespace Dialogue
variable {α : Type}

/-- Holds the dialogue over a file system, as an observer that listens for events up to a level. -/
def observe (most : LogLevel) (fs : FileSystem) : Dialogue Fault α → Observation α
  | .done result => ⟨fs, [], result⟩
  | .tell event rest =>
    let seen := rest.observe most fs
    if event.level.enabledAt most then { seen with events := event :: seen.events } else seen
  | .write path bytes rest =>
    let (answer, after) := fs.writeFile path bytes
    (rest answer).observe most after

end Dialogue

end CartridgeFixture
