/-!
What stands in the way of writing to a path, and how it is told.
-/
namespace CartridgeFixture

/-- Why a path cannot be written to. -/
inductive Fault where
  /-- The path holds a NUL character, so it never reaches the system. -/
  | nulInPath
  | notFound
  | notADirectory
  | isADirectory
  | storageFull
  /-- The path or one of its names is too long. -/
  | invalidFilename
  /-- Too many links would have to be followed. -/
  | filesystemLoop
  deriving DecidableEq, Repr

namespace Fault

/-- The name of the kind of fault. -/
def kind : Fault → String
  | .nulInPath => "InvalidInput"
  | .notFound => "NotFound"
  | .notADirectory => "NotADirectory"
  | .isADirectory => "IsADirectory"
  | .storageFull => "StorageFull"
  | .invalidFilename => "InvalidFilename"
  | .filesystemLoop => "FilesystemLoop"

/-- The system's number for the fault; one that never reached the system has none. -/
def code? : Fault → Option Nat
  | .nulInPath => none
  | .notFound => some 2
  | .notADirectory => some 20
  | .isADirectory => some 21
  | .storageFull => some 28
  | .invalidFilename => some 36
  | .filesystemLoop => some 40

/-- Every fault that the system has a number for. -/
def numbered : List Fault :=
  [.notFound, .notADirectory, .isADirectory, .storageFull, .invalidFilename, .filesystemLoop]

/-- The fault of a system number. -/
def ofCode? (n : Nat) : Option Fault := numbered.find? (·.code? == some n)

/-- What the fault is, in words. -/
def description : Fault → String
  | .nulInPath => "file name contained an unexpected NUL byte"
  | .notFound => "No such file or directory"
  | .notADirectory => "Not a directory"
  | .isADirectory => "Is a directory"
  | .storageFull => "No space left on device"
  | .invalidFilename => "File name too long"
  | .filesystemLoop => "Too many levels of symbolic links"

/-- The fault in words, with its number if it has one. -/
def message (f : Fault) : String :=
  match f.code? with
  | none => f.description
  | some n => f.description ++ " (os error " ++ toString n ++ ")"

/-- The fault on one line, field by field. -/
def inline (f : Fault) : String :=
  let rest := "kind: " ++ f.kind ++ ", message: \"" ++ f.description ++ "\" \x7d"
  match f.code? with
  | none => "Error \x7b " ++ rest
  | some n => "Os \x7b code: " ++ toString n ++ ", " ++ rest

end Fault

end CartridgeFixture
