/-!
# Paths

A path is a text whose components are separated by slashes; runs of slashes count as one. A slash in front makes
the path absolute. A slash at the end says that the last component has to be a directory.
-/
namespace CartridgeFixture

/-- One component of a path. -/
inductive Component where
  /-- A single dot: the same directory. -/
  | here
  /-- Two dots: the directory above. -/
  | up
  /-- An entry of the directory. -/
  | name (text : String)
  deriving DecidableEq, Repr

/-- The component that a text between two slashes stands for. -/
def Component.ofText : List Char → Component
  | ['.'] => .here
  | ['.', '.'] => .up
  | text => .name (String.ofList text)

/-- A path taken apart. -/
structure Path where
  /-- Whether it starts at the root. -/
  absolute : Bool
  components : List Component
  /-- Whether it ends in a slash. -/
  slashAtEnd : Bool
  deriving DecidableEq, Repr

namespace Path

/-- The components of a text. -/
def componentsOf (text : List Char) : List Component :=
  ((text.splitOn '/').filter (!·.isEmpty)).map Component.ofText

/-- Takes a text apart. -/
def ofText (text : String) : Path where
  absolute := text.toList.head? == some '/'
  components := componentsOf text.toList
  slashAtEnd := text.toList.getLast? == some '/'

end Path

end CartridgeFixture
