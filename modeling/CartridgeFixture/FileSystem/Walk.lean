import CartridgeFixture.FileSystem.Basic

/-!
# Resolving paths

A **walk** goes through the components of a path from left to right. It ends at what the path leads to
(`Target`), at the first fault, or at a link. At a link it goes on from the directory of the link (from the root,
if the target is absolute) with the components of the target in front of those still ahead. At most `linkLimit`
links are followed, so every walk ends.

The rules are those for opening a file that may have to be made: the last component may be absent, and a path
that ends in a slash leads to a directory, whatever is there.
-/
namespace CartridgeFixture

/-- What a path leads to. -/
inductive Target where
  | directory (place : Place)
  /-- Nothing yet: a free name in an existing directory. -/
  | vacant (location : Location)
  | file (number : Nat)
  | device (kind : Device)
  deriving DecidableEq, Repr

/-- What is left of a walk. -/
structure Route where
  /-- The directory that has been reached. -/
  place : Place
  /-- The components still ahead. -/
  ahead : List Component
  /-- Whether a slash stands behind the last of them. -/
  slashAtEnd : Bool
  deriving DecidableEq, Repr

/-- The walk of a path that starts at a place, or at the root if the path is absolute. -/
def Path.route (p : Path) (start : Place) : Route :=
  ⟨if p.absolute then .root else start, p.components, p.slashAtEnd⟩

/-- Where a walk without following links comes to a stop. -/
inductive Stop where
  | reached (target : Target)
  | blocked (fault : Fault)
  /-- At a link in the directory at `location`. -/
  | link (location : Location) (target : String) (ahead : List Component)
  deriving DecidableEq, Repr

namespace FileSystem

/-- The longest name of an entry, in bytes. -/
def nameLimit : Nat := 255

/-- The length in bytes from which on a path is too long. -/
def pathLimit : Nat := 4096

/-- How many links one walk may follow. -/
def linkLimit : Nat := 40

/-- Looks a name up in a directory. A removed directory has no entries and takes none. -/
def lookup (fs : FileSystem) (place : Place) (name : String) : Except Fault (Option Node) :=
  if place.removed ≠ 0 then .error .notFound
  else if nameLimit < name.utf8ByteSize then .error .invalidFilename
  else .ok (fs.node? (name :: place.location))

/-- Stops at a target that only the last component may lead to. -/
def stopIfLast (rest : List Component) (target : Target) (otherwise : Fault) : Stop :=
  if rest = [] then .reached target else .blocked otherwise

/-- Walks as far as no link has to be followed. -/
def advance (fs : FileSystem) (place : Place) (slashAtEnd : Bool) : List Component → Stop
  | [] => .reached (.directory place)
  | .here :: rest => fs.advance place slashAtEnd rest
  | .up :: rest => fs.advance place.parent slashAtEnd rest
  | .name name :: rest =>
    if rest = [] ∧ slashAtEnd then .blocked .isADirectory
    else match fs.lookup place name with
      | .error fault => .blocked fault
      | .ok none => stopIfLast rest (.vacant (name :: place.location)) .notFound
      | .ok (some .directory) => fs.advance (.existing (name :: place.location)) slashAtEnd rest
      | .ok (some (.file number)) => stopIfLast rest (.file number) .notADirectory
      | .ok (some (.device kind)) => stopIfLast rest (.device kind) .notADirectory
      | .ok (some (.link target)) => .link place.location target rest

/-- The route that follows a link: its target, then what was ahead. A link that was the last component passes
the role of the last component on to its target. -/
def follow (r : Route) (location : Location) (target : String) (ahead : List Component) : Route :=
  let path := Path.ofText target
  let next := path.route (.existing location)
  { next with
    ahead := next.ahead ++ ahead
    slashAtEnd := if ahead = [] then path.slashAtEnd else r.slashAtEnd }

/-- Walks a route, following at most the given number of links. -/
def resolve (fs : FileSystem) : Nat → Route → Except Fault Target
  | links, r => match fs.advance r.place r.slashAtEnd r.ahead with
    | .reached target => .ok target
    | .blocked fault => .error fault
    | .link location target ahead => match links with
      | 0 => .error .filesystemLoop
      | links + 1 => fs.resolve links (follow r location target ahead)

/-- The walk that a path text asks for. A NUL is found before anything else, then an empty path, then a path
that is too long. -/
def routeOf (fs : FileSystem) (path : String) : Except Fault Route :=
  if '\x00' ∈ path.toList then .error .nulInPath
  else if path.isEmpty then .error .notFound
  else if pathLimit ≤ path.utf8ByteSize then .error .invalidFilename
  else .ok ((Path.ofText path).route fs.current)

/-- What a path text leads to. -/
def destination (fs : FileSystem) (path : String) : Except Fault Target := do
  fs.resolve linkLimit (← fs.routeOf path)

end FileSystem

end CartridgeFixture
