import CartridgeFixture.FileSystem.Write

/-!
Arranging a file system: making directories and links, renaming and removing entries, changing the current
directory, and reading files back.
-/
namespace CartridgeFixture.FileSystem

/-- Whether a location is the given one or lies below it. -/
def isWithin (outer location : Location) : Bool := outer.isSuffixOf location

/-- The directory that a row of components leads to. -/
def directoryAt (fs : FileSystem) (start : Place) (components : List Component) : Except Fault Place := do
  match ← fs.resolve linkLimit ⟨start, components ++ [.here], false⟩ with
  | .directory place => return place
  | _ => throw .notADirectory

/-- The location of the entry that a path names; a link that stands last is not followed. -/
def entryOf (fs : FileSystem) (path : String) : Except Fault Location := do
  let route ← fs.routeOf path
  let place ← fs.directoryAt route.place route.ahead.dropLast
  match route.ahead.getLast? with
  | some (.name name) => return name :: place.location
  | _ => throw .isADirectory

/-- Makes the directories along a row of components, `done` being those already passed. -/
def makeAlong (fs : FileSystem) (start : Place) (done : List Component) :
    List Component → Except Fault FileSystem
  | [] => return fs
  | c :: rest => do
    let done := done ++ [c]
    match ← fs.resolve linkLimit ⟨start, done, false⟩ with
    | .directory _ => fs.makeAlong start done rest
    | .vacant location => (fs.bind location .directory).makeAlong start done rest
    | _ => throw .notADirectory

/-- Makes a directory and those above it that are missing. -/
def makeDirectories (fs : FileSystem) (path : String) : Except Fault FileSystem := do
  let route ← fs.routeOf path
  fs.makeAlong route.place [] route.ahead

/-- Makes a symbolic link. -/
def makeLink (fs : FileSystem) (target path : String) : Except Fault FileSystem := do
  return fs.bind (← fs.entryOf path) (.link target)

/-- Gives the entry at `target` a second name. -/
def makeAlias (fs : FileSystem) (target path : String) : Except Fault FileSystem := do
  match fs.node? (← fs.entryOf target) with
  | some node => return fs.bind (← fs.entryOf path) node
  | none => throw .notFound

/-- The same place after the directory at `location` is gone. -/
def placeAfterRemoval (location : Location) (p : Place) : Place :=
  if isWithin location p.location then
    ⟨location.tail, p.removed + (p.location.length + 1 - location.length)⟩
  else p

/-- Takes away the entry at a location and everything below it. -/
def removeAt (fs : FileSystem) (location : Location) : FileSystem :=
  { fs with
    nodes := fs.nodes.filter fun l => !isWithin location l
    current := placeAfterRemoval location fs.current }

/-- Removes a file, a link, or a directory with all it holds. -/
def remove (fs : FileSystem) (path : String) : Except Fault FileSystem := do
  let location ← fs.entryOf path
  match fs.node? location with
  | some _ => return fs.removeAt location
  | none => throw .notFound

/-- A location with the part at or above `old` exchanged for `new`. -/
def moved (old new location : Location) : Location :=
  if isWithin old location then location.take (location.length - old.length) ++ new else location

/-- Moves an entry, with everything below it, to a new name, in place of what was there. -/
def rename (fs : FileSystem) (path newPath : String) : Except Fault FileSystem := do
  let old ← fs.entryOf path
  let new ← fs.entryOf newPath
  match fs.node? old with
  | none => throw .notFound
  | some node =>
    if old = new ∨ (node matches .file _ ∧ fs.node? new = some node) then return fs
    let cleared := fs.removeAt new
    let branch := cleared.nodes.entries.filter fun e => isWithin old e.1
    let rest := cleared.nodes.filter fun l => !isWithin old l
    return { cleared with
      nodes := branch.foldl (fun m e => m.insert (moved old new e.1) e.2) rest
      current := { cleared.current with location := moved old new cleared.current.location } }

/-- Makes a directory the current one. -/
def changeDirectory (fs : FileSystem) (path : String) : Except Fault FileSystem := do
  let route ← fs.routeOf path
  return { fs with current := ← fs.directoryAt route.place route.ahead }

/-- The bytes of the file at a path. -/
def bytesAt (fs : FileSystem) (path : String) : Except Fault (List UInt8) := do
  match ← fs.destination path with
  | .file number => return fs.content number
  | .directory _ => throw .isADirectory
  | .vacant _ => throw .notFound
  | .device _ => return []

end CartridgeFixture.FileSystem
