import CartridgeFixture.FileSystem.Fault
import CartridgeFixture.FileSystem.Path
import CartridgeFixture.FiniteMap

/-!
# File systems

A file system binds **locations** to **nodes**. A location is the list of names that leads down from the root,
innermost name first, so that `name :: location` is an entry of the directory at `location`. A node is a
directory, a regular file, a link to another path, or a device. Files are numbered, and contents belong to the
number: two entries of one number are two names of one file.

The **current directory** may have been removed while it was current. It then has no entries any more, but its
parents are still known: a `Place` is the location of the nearest directory above that still exists, and the
number of removed directories below it.
-/
namespace CartridgeFixture

/-- The names from an entry up to the root, innermost first; the root has none. -/
abbrev Location := List String

/-- A special file. -/
inductive Device where
  /-- Takes every byte and keeps none. -/
  | sink
  /-- Has no room for any byte. -/
  | full
  deriving DecidableEq, Repr

/-- What a location holds. -/
inductive Node where
  | directory
  /-- A name of the regular file with this number. -/
  | file (number : Nat)
  /-- A symbolic link to the path that this text spells. -/
  | link (target : String)
  | device (kind : Device)
  deriving DecidableEq, Repr

/-- A directory to start from. -/
structure Place where
  /-- The nearest existing directory at or above the place. -/
  location : Location
  /-- How many removed directories lie between that one and the place, the place included. -/
  removed : Nat
  deriving DecidableEq, Repr

namespace Place

/-- The top directory. -/
def root : Place := ⟨[], 0⟩

/-- The directory at a location. -/
def existing (location : Location) : Place := ⟨location, 0⟩

/-- The directory above; the root is above itself. -/
def parent (p : Place) : Place :=
  match p.removed with
  | 0 => ⟨p.location.tail, 0⟩
  | n + 1 => ⟨p.location, n⟩

end Place

/-- Directories, files, links and devices, with the contents of the files. -/
structure FileSystem where
  /-- What each location but the root holds. -/
  nodes : FiniteMap Location Node
  /-- The contents of each file, by number. -/
  contents : FiniteMap Nat (List UInt8)
  /-- Where relative paths start. -/
  current : Place

namespace FileSystem

/-- The node at a location; the root is always a directory. -/
def node? (fs : FileSystem) (location : Location) : Option Node :=
  if location = [] then some .directory else fs.nodes.get? location

/-- The contents of a file; a number without contents is an empty file. -/
def content (fs : FileSystem) (number : Nat) : List UInt8 :=
  (fs.contents.get? number).getD []

/-- What can be seen at a location: the contents of a file, not its number. -/
inductive View where
  | directory
  | file (bytes : List UInt8)
  | link (target : String)
  | device (kind : Device)
  deriving DecidableEq, Repr

/-- What a node looks like. -/
def viewOf (fs : FileSystem) : Node → View
  | .directory => .directory
  | .file number => .file (fs.content number)
  | .link target => .link target
  | .device kind => .device kind

/-- What can be seen at a location. -/
def view? (fs : FileSystem) (location : Location) : Option View :=
  (fs.node? location).map fs.viewOf

/-- The number of a file node; others count as zero. -/
def fileNumber : Node → Nat
  | .file number => number
  | _ => 0

/-- A number above that of every file. -/
def freshNumber (fs : FileSystem) : Nat :=
  (fs.nodes.entries.map fun e => fileNumber e.2).foldr max 0 + 1

/-- Binds a location to a node. -/
def bind (fs : FileSystem) (location : Location) (node : Node) : FileSystem :=
  { fs with nodes := fs.nodes.insert location node }

/-- Gives a file new contents, seen under all its names. -/
def overwrite (fs : FileSystem) (number : Nat) (bytes : List UInt8) : FileSystem :=
  { fs with contents := fs.contents.insert number bytes }

/-- Makes a new, empty file. -/
def create (fs : FileSystem) (location : Location) : FileSystem :=
  (fs.overwrite fs.freshNumber []).bind location (.file fs.freshNumber)

/-- A system with some devices in `/dev` and one empty directory, which is the current one. -/
def scratch (base : Location) : FileSystem :=
  let directories := (["dev"] :: (List.range base.length).map base.drop).map fun l => (l, Node.directory)
  let devices := [(["null", "dev"], Node.device .sink), (["zero", "dev"], .device .sink),
    (["full", "dev"], .device .full)]
  { nodes := (directories ++ devices).foldl (fun m e => m.insert e.1 e.2) FiniteMap.empty
    contents := FiniteMap.empty
    current := .existing base }

/-! ## What the changes do to nodes and contents -/

variable (fs : FileSystem)

@[simp] theorem node?_root : fs.node? [] = some .directory := if_pos rfl

@[simp] theorem node?_overwrite (number : Nat) (bytes : List UInt8) (location : Location) :
    (fs.overwrite number bytes).node? location = fs.node? location := rfl

@[simp] theorem current_overwrite (number : Nat) (bytes : List UInt8) :
    (fs.overwrite number bytes).current = fs.current := rfl

theorem content_overwrite (number : Nat) (bytes : List UInt8) (other : Nat) :
    (fs.overwrite number bytes).content other = if other = number then bytes else fs.content other := by
  unfold content overwrite
  rw [FiniteMap.get?_insert]
  split <;> rfl

/-- The root is not an entry, so binding it to anything has no effect. -/
theorem node?_bind {location : Location} (h : location ≠ []) (node : Node) (other : Location) :
    (fs.bind location node).node? other = if other = location then some node else fs.node? other := by
  unfold node? bind
  rw [FiniteMap.get?_insert]
  by_cases hroot : other = []
  · subst hroot
    simp [Ne.symm h]
  · simp [hroot]

theorem le_foldr_max {numbers : List Nat} {n : Nat} (h : n ∈ numbers) : n ≤ numbers.foldr max 0 := by
  induction numbers with
  | nil => cases h
  | cons m rest ih =>
    rcases List.mem_cons.mp h with rfl | h
    · exact Nat.le_max_left _ _
    · exact Nat.le_trans (ih h) (Nat.le_max_right _ _)

/-- The fresh number is above the number of every file. -/
theorem lt_freshNumber {location : Location} {number : Nat}
    (h : fs.node? location = some (.file number)) : number < fs.freshNumber := by
  have hget : fs.nodes.get? location = some (.file number) := by
    unfold node? at h
    split at h
    · cases h
    · exact h
  have hmem : number ∈ fs.nodes.entries.map fun e => fileNumber e.2 :=
    List.mem_map.mpr ⟨_, fs.nodes.mem_entries.mpr hget, rfl⟩
  exact Nat.lt_succ_of_le (le_foldr_max hmem)

theorem node?_create {location : Location} (h : location ≠ []) (other : Location) :
    (fs.create location).node? other =
      if other = location then some (.file fs.freshNumber) else fs.node? other :=
  (fs.overwrite fs.freshNumber []).node?_bind h _ other

theorem content_create (location : Location) (other : Nat) :
    (fs.create location).content other = if other = fs.freshNumber then [] else fs.content other :=
  fs.content_overwrite fs.freshNumber [] other

@[simp] theorem current_create (location : Location) : (fs.create location).current = fs.current := rfl

end FileSystem

end CartridgeFixture
