import CartridgeFixture.Flag.Display

/-!
# Runs of flag steps

A **step** changes one flag value or asks something about it; a **run** is a list of steps that starts from the
empty value. A value has no identity of its own, so an operation that changes a value in place and the one that
returns the changed value are the same step.
-/
namespace CartridgeFixture.Flags
variable {t : FlagTable}

/-- The operators of two values. -/
inductive Operator where
  | union
  | inter
  | diff
  | symmDiff
  deriving DecidableEq, Repr

/-- What an operator computes. -/
def Operator.apply : Operator → Flags t → Flags t → Flags t
  | .union => Flags.union
  | .inter => Flags.inter
  | .diff => Flags.diff
  | .symmDiff => Flags.symmDiff

/-- One use of a flag value. Bytes given as arguments are taken as they are, undeclared bits included. -/
inductive Step where
  /-- Becomes the empty value. -/
  | clear
  /-- Becomes all declared bits. -/
  | all
  /-- Becomes the declared bits of a byte. -/
  | ofTruncated (bits : UInt8)
  /-- Becomes a byte as it is. -/
  | ofRetained (bits : UInt8)
  /-- Becomes a byte, if it has declared bits only. -/
  | ofBits (bits : UInt8)
  /-- Becomes the flag of a name, if there is one. -/
  | ofName (name : String)
  /-- Becomes the value of a text, if it can be read. -/
  | ofText (form : FlagText) (text : String)
  /-- Combines the value with an argument. -/
  | operate (operator : Operator) (bits : UInt8)
  /-- Sets or clears the bits of the argument. -/
  | set (bits : UInt8) (on : Bool)
  /-- Becomes its complement. -/
  | complement
  /-- Loses its undeclared bits. -/
  | truncate
  /-- Becomes the union of the arguments. -/
  | gather (values : List UInt8)
  /-- Gains the bits of each argument. -/
  | extend (values : List UInt8)
  | equals (bits : UInt8)
  | contains (bits : UInt8)
  | intersects (bits : UInt8)
  | isEmpty
  | isAll
  | hasUndeclared
  /-- Asks for the groups of bits. -/
  | groups
  /-- Asks for the names and what remains. -/
  | names
  /-- Asks how the value is shown. -/
  | display
  /-- Asks for the text in all three forms. -/
  | write
  deriving DecidableEq, Repr

/-- Whether a step only asks something about the value. -/
def Step.asks : Step → Bool
  | .equals _ | .contains _ | .intersects _ | .isEmpty | .isAll | .hasUndeclared | .groups | .names | .display
  | .write => true
  | _ => false

/-- Everything that `Step.display` shows. -/
structure Display where
  inline : String
  spread : String
  /-- Binary, octal, lower and upper case base sixteen. -/
  plain : List String
  /-- The same behind their marks. -/
  marked : List String
  columns : List String
  deriving DecidableEq, Repr

/-- All the ways in which a value is shown. -/
def display (f : Flags t) : Display :=
  let radices := [Radix.binary, .octal, .hexLower, .hexUpper]
  { inline := f.inline
    spread := f.spread
    plain := radices.map f.inRadix
    marked := radices.map f.inMarkedRadix
    columns := f.columns }

/-- What a step answers. -/
inductive Answer where
  /-- Nothing: the step always changes the value as asked. -/
  | done
  /-- Whether the question holds, or the value was accepted. -/
  | truth (value : Bool)
  /-- A text that could not be read. -/
  | refused (error : FlagTextError)
  | groups (bits : List UInt8)
  | names (flags : List Flag) (remainder : UInt8)
  | display (shown : Display)
  | texts (full strict truncated : String)
  deriving DecidableEq, Repr

/-- Takes a value if there is one, and keeps the old one otherwise. -/
def accept (f : Flags t) : Option (Flags t) → Flags t × Answer
  | some g => (g, .truth true)
  | none => (f, .truth false)

/-- One step: the value after it, and its answer. -/
def step (f : Flags t) : Step → Flags t × Answer
  | .clear => (empty, .done)
  | .all => (all, .done)
  | .ofTruncated bits => (truncate bits, .done)
  | .ofRetained bits => (retain bits, .done)
  | .ofBits bits => f.accept (ofBits? bits)
  | .ofName name => f.accept (ofName? name)
  | .ofText form text => match ofText form text with
    | .ok g => (g, .truth true)
    | .error e => (f, .refused e)
  | .operate operator bits => (operator.apply f ⟨bits⟩, .done)
  | .set bits on => (f.set ⟨bits⟩ on, .done)
  | .complement => (f.complement, .done)
  | .truncate => (truncate f.bits, .done)
  | .gather values => (unions (values.map retain), .done)
  | .extend values => ((values.map retain).foldl union f, .done)
  | .equals bits => (f, .truth (f == ⟨bits⟩))
  | .contains bits => (f, .truth (f.contains ⟨bits⟩))
  | .intersects bits => (f, .truth (f.intersects ⟨bits⟩))
  | .isEmpty => (f, .truth f.isEmpty)
  | .isAll => (f, .truth f.isAll)
  | .hasUndeclared => (f, .truth f.hasUndeclared)
  | .groups => (f, .groups f.groups)
  | .names => (f, .names f.names f.remainder)
  | .display => (f, .display f.display)
  | .write => (f, .texts (f.text .full) (f.text .strict) (f.text .truncated))

/-- The value after each step of a run, with the answers. -/
def run (f : Flags t) : List Step → List (Flags t × Answer)
  | [] => []
  | s :: rest =>
    let next := f.step s
    next :: run next.1 rest

/-- The value that a run ends with. -/
def after (f : Flags t) (steps : List Step) : Flags t := ((f.run steps).map Prod.fst).getLastD f

/-! ## How a run goes on -/

variable (f : Flags t)

@[simp] theorem after_nil : f.after [] = f := rfl

@[simp] theorem after_cons (s : Step) (rest : List Step) : f.after (s :: rest) = (f.step s).1.after rest := by
  unfold after
  rw [run, List.map_cons, List.getLastD_cons]

theorem step_of_asks {s : Step} (h : s.asks = true) : (f.step s).1 = f := by
  cases s
  case equals | contains | intersects | isEmpty | isAll | hasUndeclared | groups | names | display | write => rfl
  all_goals cases h

/-- Every step of a run is taken with the value that the steps before it have ended with. -/
theorem getElem?_run (steps : List Step) (i : Nat) :
    (f.run steps)[i]? = steps[i]?.map fun s => (f.after (steps.take i)).step s := by
  induction steps generalizing f i with
  | nil => rfl
  | cons s rest ih =>
    cases i with
    | zero => rfl
    | succ i =>
      rw [run, List.take_succ_cons, after_cons]
      exact ih (f.step s).1 i

end CartridgeFixture.Flags
