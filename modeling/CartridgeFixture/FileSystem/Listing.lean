import CartridgeFixture.FileSystem.Arrange

/-!
The listing of a directory: everything below it, by path relative to it, in the order of these paths.
-/
namespace CartridgeFixture.FileSystem

/-- The path from an outer location down to one within it. -/
def relativePath (outer location : Location) : String :=
  "/".intercalate (location.take (location.length - outer.length)).reverse

/-- Everything below a location, sorted by relative path. -/
def listing (fs : FileSystem) (base : Location) : List (String × View) :=
  let below := fs.nodes.entries.filter fun e => isWithin base e.1 && e.1 != base
  let rows := below.map fun e => (relativePath base e.1, fs.viewOf e.2)
  rows.mergeSort fun a b => decide (a.1 ≤ b.1)

end CartridgeFixture.FileSystem
