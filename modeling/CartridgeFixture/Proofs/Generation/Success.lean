import CartridgeFixture.Proofs.FileSystem.Obstacles
import CartridgeFixture.Proofs.Generation.Effect

/-!
# When a generation succeeds

A generation has the answer of its write, and a write has the answer of the walk of its path. So it succeeds iff that
walk, which always ends, comes to a name that the image can be written to, and else fails with the first obstacle on
the way (`succeeds_iff_writable`).
-/
namespace CartridgeFixture

open FileSystem

/-- The image has bytes, so it is only taken by a device that keeps none. -/
theorem accepts_image_iff (kind : Device) : kind.accepts Image.bytes = true ↔ kind = .sink := by
  cases kind with
  | sink => exact ⟨fun _ => rfl, fun _ => rfl⟩
  | full =>
    have hne : Image.bytes ≠ [] := by
      intro h
      have hlength := Image.length_bytes
      rw [h] at hlength
      cases hlength
    simp [Device.accepts, hne]

theorem failure?_eq_none_iff (fs : FileSystem) (path : String) :
    (generateTo fs path).failure? = none ↔ (fs.writeFile path Image.bytes).1 = .ok () := by
  rw [generateTo_failure?]
  cases (fs.writeFile path Image.bytes).1 <;> simp

theorem failure?_eq_some_iff (fs : FileSystem) (path : String) (failure : Failure) :
    (generateTo fs path).failure? = some failure ↔
      failure.path = path ∧ (fs.writeFile path Image.bytes).1 = .error failure.cause := by
  obtain ⟨given, cause⟩ := failure
  rw [generateTo_failure?]
  cases (fs.writeFile path Image.bytes).1 <;> simp [eq_comm]

theorem numberless_iff (fault : Fault) : fault.code? = none ↔ fault = .nulInPath := by
  cases fault <;> simp [Fault.code?]

theorem firstObstacle_nul_iff {fs : FileSystem} {bytes : List UInt8} {path : String} :
    fs.FirstObstacle bytes path .nulInPath ↔ '\x00' ∈ path.toList := by
  constructor
  · intro h
    cases h with
    | nul h => exact h
    | onTheWay _ h => cases h
  · exact .nul

/-- **A generation succeeds iff its path can be written to.**  The walk of the path ends, whatever cycles the links
make. If it comes, with no more links than may be followed, to a last name without a slash behind that is free in an
existing directory, or names a regular file or a device that takes the image, then the generation succeeds. If not, it
fails with the path as given and the first obstacle, which no walk goes past. The obstacle is a NUL in the path, which
alone has no number, whenever there is one. -/
theorem succeeds_iff_writable (fs : FileSystem) (path : String) :
    (WellFounded fun next stage => fs.Step stage next) ∧
    Relator.RightUnique fs.Step ∧
    (∀ stage fault next, ¬ (fs.Obstacle Image.bytes stage fault ∧ fs.Step stage next)) ∧
    ((generateTo fs path).failure? = none ↔
      ∃ stage, fs.LeadsTo path stage ∧ stage.followed ≤ linkLimit ∧ fs.Writable Image.bytes stage) ∧
    (∀ failure, (generateTo fs path).failure? = some failure ↔
      failure.path = path ∧ fs.FirstObstacle Image.bytes path failure.cause) ∧
    ('\x00' ∈ path.toList ↔ ∃ failure, (generateTo fs path).failure? = some failure ∧
      failure.cause.kind = "InvalidInput" ∧ failure.cause.code? = none) ∧
    ∀ kind : Device, kind.accepts Image.bytes = true ↔ kind = .sink := by
  have hfailure : ∀ failure, (generateTo fs path).failure? = some failure ↔
      failure.path = path ∧ fs.FirstObstacle Image.bytes path failure.cause := by
    intro failure
    rw [failure?_eq_some_iff, writeFile_eq_error_iff]
  refine ⟨fs.step_wellFounded, fun _ _ _ => Step.unique, ?_, ?_, hfailure, ?_, accepts_image_iff⟩
  · rintro stage fault next ⟨hobstacle, hstep⟩
    exact hobstacle.not_step hstep
  · rw [failure?_eq_none_iff, writeFile_eq_ok_iff]
    constructor
    · rintro ⟨stage, hleads, hwritable⟩
      exact ⟨stage, hleads, hleads.followed_le, hwritable⟩
    · rintro ⟨stage, hleads, -, hwritable⟩
      exact ⟨stage, hleads, hwritable⟩
  · constructor
    · intro hnul
      exact ⟨⟨path, .nulInPath⟩, (hfailure _).mpr ⟨rfl, .nul hnul⟩, rfl, rfl⟩
    · rintro ⟨failure, hsome, -, hcode⟩
      obtain ⟨-, hfirst⟩ := (hfailure failure).mp hsome
      rw [(numberless_iff _).mp hcode] at hfirst
      exact firstObstacle_nul_iff.mp hfirst

end CartridgeFixture
