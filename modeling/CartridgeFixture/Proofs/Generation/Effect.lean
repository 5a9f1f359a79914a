import CartridgeFixture.Generation
import CartridgeFixture.Proofs.FileSystem.Effect

/-!
# The effect of a generation

A generation is one write, told of in events, so it does to the file system what that write does
(`generateTo_fileSystem`), and it fails when the write fails (`generateTo_failure?`).

Two things can come of it. If it succeeds, the image is in the file that the path leads to, under every name of
that file and along every path to it, and nothing else is different (`successful_generation_replaces`). If it
fails, nothing is different at all, and the failure bears the path as it was given
(`failed_generation_changes_nothing`).
-/
namespace CartridgeFixture

open FileSystem

variable (fs : FileSystem) (path : String)

/-- A generation, told by the answer of its write. -/
theorem generateTo_eq : generateTo fs path =
    match fs.writeFile path Image.bytes with
    | (.ok (), after) => ⟨after, none, [Generation.opening path, Generation.closing path]⟩
    | (.error cause, after) => ⟨after, some ⟨path, cause⟩, [Generation.opening path]⟩ := by
  unfold generateTo generateAt generation
  simp only [Dialogue.observe]
  cases fs.writeFile path Image.bytes with
  | mk answer after => cases answer <;> rfl

theorem generateTo_fileSystem : (generateTo fs path).fileSystem = (fs.writeFile path Image.bytes).2 := by
  rw [generateTo_eq]
  split <;> rename_i heq <;> rw [heq]

theorem generateTo_failure? : (generateTo fs path).failure? =
    match (fs.writeFile path Image.bytes).1 with
    | .ok () => none
    | .error cause => some ⟨path, cause⟩ := by
  rw [generateTo_eq]
  split <;> rename_i heq <;> rw [heq]

theorem generateTo_events : (generateTo fs path).events =
    match (fs.writeFile path Image.bytes).1 with
    | .ok () => [Generation.opening path, Generation.closing path]
    | .error _ => [Generation.opening path] := by
  rw [generateTo_eq]
  split <;> rename_i heq <;> rw [heq]

/-! ## Success -/

/-- **A generation that succeeds** leaves the image in the regular file that the path leads to, or in a new one
under the free name that it leads to, and leaves everything else alone. If the path leads to a device, everything
is left alone. -/
theorem successful_generation_replaces (h : (generateTo fs path).failure? = none) :
    ∃ target, fs.destination path = .ok target ∧
      ((∃ kind, target = .device kind ∧ (generateTo fs path).fileSystem = fs) ∨
        ∃ number, Replaced fs target Image.bytes number (generateTo fs path).fileSystem) := by
  rw [generateTo_eq] at h ⊢
  rcases fs.writeFile_cases path Image.bytes with ⟨fault, heq⟩ | ⟨kind, hdest, heq⟩ |
    ⟨target, number, after, hdest, hwrites, heq⟩
  · rw [heq] at h
    cases h
  · rw [heq]
    exact ⟨_, hdest, Or.inl ⟨kind, rfl, rfl⟩⟩
  · rw [heq]
    exact ⟨target, hdest, Or.inr ⟨number, hwrites.replaced⟩⟩

/-- Two directories, a file with a name in each, a chain of two links to it, and a link to a name in a directory
that is missing. -/
def Generation.sample : FileSystem where
  nodes := ⟨[(["home"], .directory), (["store"], .directory), (["a", "home"], .file 7), (["b", "store"], .file 7),
    (["near", "home"], .link "../home/far"), (["far", "home"], .link "../store/b"),
    (["lost", "home"], .link "gone/c")], by decide⟩
  contents := ⟨[(7, [1, 2, 3])], by decide⟩
  current := .existing ["home"]

theorem successful_generation_replaces_sample :
    (generateTo Generation.sample "near").failure? = none ∧
      ∃ target, Generation.sample.destination "near" = .ok target ∧
        ((∃ kind, target = .device kind ∧
            (generateTo Generation.sample "near").fileSystem = Generation.sample) ∨
          ∃ number, Replaced Generation.sample target Image.bytes number
            (generateTo Generation.sample "near").fileSystem) :=
  ⟨rfl, successful_generation_replaces Generation.sample "near" rfl⟩

/-! ## Failure -/

/-- **A generation that fails** leaves the whole file system, the current directory included, exactly as it was,
whichever component of the path, link or device was in the way. Its failure bears the path as it was given. -/
theorem failed_generation_changes_nothing :
    (∀ path failure, (generateTo fs path).failure? = some failure →
      (generateTo fs path).fileSystem = fs ∧ failure.path = path) ∧
    ∀ failure, (generate fs).failure? = some failure →
      (generate fs).fileSystem = fs ∧ failure.path = Generation.defaultPath := by
  have key : ∀ path failure, (generateTo fs path).failure? = some failure →
      (generateTo fs path).fileSystem = fs ∧ failure.path = path := by
    intro path failure h
    rw [generateTo_eq] at h ⊢
    rcases fs.writeFile_cases path Image.bytes with ⟨fault, heq⟩ | ⟨kind, -, heq⟩ | ⟨_, _, _, -, -, heq⟩
    · rw [heq] at h ⊢
      cases h
      exact ⟨rfl, rfl⟩
    · rw [heq] at h
      cases h
    · rw [heq] at h
      cases h
  exact ⟨key, key Generation.defaultPath⟩

theorem failed_generation_changes_nothing_sample :
    ((generateTo Generation.sample "lost").failure? = some ⟨"lost", .notFound⟩ ∧
      (generateTo Generation.sample "lost").fileSystem = Generation.sample) ∧
    (generate Generation.sample).failure? = some ⟨Generation.defaultPath, .notFound⟩ ∧
      (generate Generation.sample).fileSystem = Generation.sample :=
  ⟨⟨rfl, ((failed_generation_changes_nothing Generation.sample).1 "lost" _ rfl).1⟩,
    rfl, ((failed_generation_changes_nothing Generation.sample).2 _ rfl).1⟩

end CartridgeFixture
