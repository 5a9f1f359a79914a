import CartridgeFixture.Proofs.FileSystem.Composition
import CartridgeFixture.Proofs.Generation.Effect

/-!
# Relative destinations

What a write does depends on the nodes, the contents, and what its path leads to. The current directory has a part in
the last of these only, and there it is the same as a path put in front: a generation for a relative path in a
directory has the effect of one for the path of the directory with the relative path behind it
(`relative_paths_start_at_current`).
-/
namespace CartridgeFixture

open FileSystem

/-- Paths that lead to the same have the same written through them, wherever relative paths may start. -/
theorem FileSystem.writeFile_of_destination {fs : FileSystem} {place : Place} {path other : String}
    (h : ({ fs with current := place } : FileSystem).destination path = fs.destination other) (bytes : List UInt8) :
    ({ fs with current := place } : FileSystem).writeFile path bytes =
      ((fs.writeFile other bytes).1, { (fs.writeFile other bytes).2 with current := place }) := by
  unfold writeFile openEmpty
  rw [h]
  cases fs.destination other with
  | error fault => rfl
  | ok target => cases target <;> rfl

/-- **Two generations to the same effect**: they leave the same entries with the same contents behind, and both
succeed, or both fail for the same cause. The paths they bear and the current directories may differ. -/
structure Generation.SameEffect (g other : Generation) : Prop where
  nodes : g.fileSystem.nodes = other.fileSystem.nodes
  contents : g.fileSystem.contents = other.fileSystem.contents
  cause : g.failure?.map Failure.cause = other.failure?.map Failure.cause

theorem cause_generateTo (fs : FileSystem) (path : String) :
    (generateTo fs path).failure?.map Failure.cause = match (fs.writeFile path Image.bytes).1 with
      | .ok () => none
      | .error cause => some cause := by
  rw [generateTo_failure?]
  cases (fs.writeFile path Image.bytes).1 <;> rfl

theorem sameEffect_of_destination {fs : FileSystem} {place : Place} {path other : String}
    (h : ({ fs with current := place } : FileSystem).destination path = fs.destination other) :
    (generateTo { fs with current := place } path).SameEffect (generateTo fs other) := by
  have hwrite := writeFile_of_destination h Image.bytes
  refine ⟨?_, ?_, ?_⟩
  · rw [generateTo_fileSystem, generateTo_fileSystem, hwrite]
  · rw [generateTo_fileSystem, generateTo_fileSystem, hwrite]
  · rw [cause_generateTo, cause_generateTo, hwrite]

/-- **Relative paths start at the current directory**, and nothing else of it matters.  A directory can be made the
current one iff a path leads to it, through whatever links and directories above. A generation for a relative path
that is not empty then has the effect that it has from outside behind the path of the directory, if that one stays
within the limits. So has a generation for the default path. -/
theorem relative_paths_start_at_current (fs : FileSystem) (directory : String) :
    ((∃ moved, fs.changeDirectory directory = .ok moved) ↔ ∃ place, fs.LeadsToDirectory directory place) ∧
    ∀ moved, fs.changeDirectory directory = .ok moved →
      moved = { fs with current := moved.current } ∧
      (∀ path, path ≠ "" → (Path.ofText path).absolute = false → fs.WithinLimits (directory ++ "/" ++ path) →
        (generateTo moved path).SameEffect (generateTo fs (directory ++ "/" ++ path))) ∧
      (fs.WithinLimits (directory ++ "/" ++ Generation.defaultPath) →
        (generate moved).SameEffect (generateTo fs (directory ++ "/" ++ Generation.defaultPath))) := by
  refine ⟨?_, fun moved hmoved => ?_⟩
  · simp only [changeDirectory_eq_ok_iff]
    constructor
    · rintro ⟨-, place, hleads, -⟩
      exact ⟨place, hleads⟩
    · rintro ⟨place, hleads⟩
      exact ⟨_, place, hleads, rfl⟩
  · have hrelative : ∀ path, path ≠ "" → (Path.ofText path).absolute = false →
        fs.WithinLimits (directory ++ "/" ++ path) →
        (generateTo moved path).SameEffect (generateTo fs (directory ++ "/" ++ path)) := by
      intro path hpath habsolute hwithin
      have hdestination := destination_of_changeDirectory hmoved hpath habsolute hwithin
      obtain ⟨place, -, rfl⟩ := changeDirectory_eq_ok_iff.mp hmoved
      exact sameEffect_of_destination hdestination
    obtain ⟨place, -, rfl⟩ := changeDirectory_eq_ok_iff.mp hmoved
    exact ⟨rfl, hrelative, hrelative Generation.defaultPath (by decide) (by decide)⟩

/-- A directory that holds a link to another one, which has a file beside it. -/
def Generation.shelves : FileSystem where
  nodes := ⟨[(["home"], .directory), (["in", "home"], .link "../store/shelf"), (["store"], .directory),
    (["shelf", "store"], .directory), (["b", "store"], .file 7)], by decide⟩
  contents := ⟨[(7, [4, 5])], by decide⟩
  current := .existing ["home"]

/-- Two dots behind a link lead to the directory above the one that the link leads to, from inside and from outside. -/
theorem relative_paths_start_at_current_sample :
    let moved : FileSystem := { Generation.shelves with current := .existing ["shelf", "store"] }
    Generation.shelves.changeDirectory "in" = .ok moved ∧
      (generateTo moved "../b").failure? = none ∧
      (generateTo moved "../b").SameEffect (generateTo Generation.shelves "in/../b") ∧
      (generate moved).failure? = some ⟨Generation.defaultPath, .notFound⟩ ∧
      (generate moved).SameEffect (generateTo Generation.shelves ("in/" ++ Generation.defaultPath)) := by
  intro moved
  have hmoved : Generation.shelves.changeDirectory "in" = .ok moved := rfl
  obtain ⟨-, hrelative, hdefault⟩ := (relative_paths_start_at_current Generation.shelves "in").2 moved hmoved
  refine ⟨hmoved, rfl, hrelative "../b" (by decide) (by decide) ⟨by decide, ?_⟩, rfl, hdefault ⟨by decide, ?_⟩⟩
  · have houtside : Generation.shelves.destination ("in" ++ "/" ++ "../b") = .ok (.file 7) := rfl
    rw [houtside]
    intro hloop
    cases hloop
  · have houtside : Generation.shelves.destination ("in" ++ "/" ++ Generation.defaultPath) = .error .notFound := rfl
    rw [houtside]
    intro hloop
    cases hloop

end CartridgeFixture
