import CartridgeFixture.CommandLine.Run
import CartridgeFixture.Proofs.Generation.Effect

/-!
# A session shows what an observer sees

A dialogue can be held by an observer, who keeps the events, or in a session, which writes those that are
subscribed to as log lines while the dialogue goes on. The two see the same dialogue: the same file system, the same
result, and on the error stream the lines of the very events that the observer has kept, in their order
(`perform_eq_observe`). This holds of every dialogue, by induction over its requests.

So running a command line is generating through the path that its arguments ask for, with the events told on the
error stream and a failure reported behind them (`run_refines_generateTo`).
-/
namespace CartridgeFixture

open CommandLine

namespace CommandLine

/-- The log lines of some events. -/
def logText (subscriber : Subscriber) (events : List Event) : String :=
  String.join (events.map (Log.line subscriber.colour subscriber.time))

/-- What an observer of every level has seen of a dialogue, as a session with the subscriber shows it. -/
def Session.showing {α : Type} (s : Session) (subscriber : Subscriber) (seen : Observation α) : Session :=
  { s with
    fileSystem := seen.fileSystem
    stderr := s.stderr ++ logText subscriber (Event.collected subscriber.most seen.events) }

/-- **A session shows what an observer sees.**  Every request of the dialogue does the same to both. -/
theorem perform_eq_observe {α : Type} (subscriber : Subscriber) (s : Session) (d : Dialogue Fault α) :
    s.perform subscriber d =
      (s.showing subscriber (d.observe .trace s.fileSystem), (d.observe .trace s.fileSystem).result) := by
  induction d generalizing s with
  | done =>
    simp [Session.perform, Dialogue.observe, Session.showing, logText, Event.collected]
  | tell event rest ih =>
    rw [Session.perform, ih]
    simp only [Session.log, Dialogue.observe, LogLevel.enabledAt_trace, if_true, Session.showing]
    -- the line is written before those of the rest, as the event is kept in front of them
    split
    · rename_i henabled
      simp [Event.collected, henabled, Session.complain, logText, String.append_assoc]
    · rename_i hdisabled
      simp [Event.collected, hdisabled]
  | write path bytes rest ih => exact ih _ _

/-- A session in which a generation for a path is run, told by what an observer keeps of that generation. -/
theorem perform_generation (subscriber : Subscriber) (fs : FileSystem) (path : String) :
    (Session.start fs).perform subscriber (generation path) =
      (⟨(generateTo fs path).fileSystem, "",
          logText subscriber (Event.collected subscriber.most (generateTo fs path).events)⟩,
        (generateTo fs path).failure?) := by
  rw [perform_eq_observe]
  simp [Session.start, Session.showing, generateTo, generateAt]

/-- At the level of a command line that asks for none, a generation logs nothing. -/
theorem collected_warn (fs : FileSystem) (path : String) :
    Event.collected .warn (generateTo fs path).events = [] := by
  rw [generateTo_events]
  cases (fs.writeFile path Image.bytes).1 <;> rfl

/-- What a command line that is accepted leaves behind. -/
theorem run_of_accepted (fs : FileSystem) (noColor? : Option String) (time : String) {arguments : List String}
    {path : String} {level : LogLevel} (h : Invocation.ofArguments arguments = .run path level) :
    run fs arguments noColor? time = ((generateTo fs path).fileSystem,
      let log := logText ⟨level, usesColour noColor?, time⟩ (Event.collected level (generateTo fs path).events)
      match (generateTo fs path).failure? with
      | none => ⟨0, "", log⟩
      | some failure => ⟨1, "", log ++ failure.report⟩) := by
  rw [run, h]
  simp only [perform_generation]
  cases (generateTo fs path).failure? <;> rfl

/-- The sample with the directories of the default path. -/
def preparedSample : FileSystem :=
  [["MMC5Dev", "home"], ["Tests", "MMC5Dev", "home"], ["MMC5DevTests", "Tests", "MMC5Dev", "home"]].foldl
    (fun fs location => fs.bind location .directory) Generation.sample

end CommandLine

end CartridgeFixture
