import CartridgeFixture.FileSystem.Arrange
import CartridgeFixture.Proofs.FileSystem.Growth

/-!
# The effect of a write

A write either comes to nothing, and then the file system is the same as before, or it gives one file its new
contents (`Writes`), the file being a new one if the path led to a free name (`writeFile_cases`). The answer of a
write depends on nothing but what the path leads to (`writeFile_answer`).

From `Writes` follows what can be seen: where the path leads afterwards (`Writes.leads`), what stands at every
location (`Writes.view?_names`, `Writes.view?_others`), and that the file system has grown (`Writes.grows`).
-/
namespace CartridgeFixture

namespace Target

/-- The entries that stand for a target: the free name itself, or every name of the file. -/
def Names (fs : FileSystem) : Target → Location → Prop
  | .vacant location, other => other = location
  | .file number, other => fs.node? other = some (.file number)
  | .directory _, _ | .device _, _ => False

/-- What comes of writing some bytes to a target. -/
def answer (bytes : List UInt8) : Target → Except Fault Unit
  | .directory _ => .error .isADirectory
  | .vacant _ | .file _ => .ok ()
  | .device kind => if kind.accepts bytes then .ok () else .error .storageFull

/-- The targets that bytes can be kept in, with the number of the file that keeps them: the file itself, or for a
free name a file that has no name yet. -/
inductive Keeps (fs : FileSystem) (number : Nat) : Target → Prop
  | file : Keeps fs number (.file number)
  | vacant {location : Location} (hfree : fs.node? location = none)
      (hfresh : ∀ other, fs.node? other ≠ some (.file number)) : Keeps fs number (.vacant location)

end Target

namespace FileSystem

/-- `after` is `before` with some bytes as the contents of the file of a number, which is the target or has been put
under the free name that is the target. -/
structure Writes (before : FileSystem) (target : Target) (bytes : List UInt8) (number : Nat)
    (after : FileSystem) : Prop where
  reached : target.Keeps before number
  names : ∀ {location}, target.Names before location → after.node? location = some (.file number)
  others : ∀ {location}, ¬ target.Names before location → after.node? location = before.node? location
  content : ∀ other, after.content other = if other = number then bytes else before.content other
  current : after.current = before.current

/-- Writing through a path reaches the entry at a location. -/
def Hits (fs : FileSystem) (path : String) (location : Location) : Prop :=
  ∃ target, fs.destination path = .ok target ∧ target.Names fs location

/-- Two locations name one file. -/
def SameFile (fs : FileSystem) (location other : Location) : Prop :=
  ∃ number, fs.node? location = some (.file number) ∧ fs.node? other = some (.file number)

/-! ## The cases of a write -/

section Cases
variable {fs : FileSystem} {bytes : List UInt8}

theorem writes_overwrite (number : Nat) :
    Writes fs (.file number) bytes number ((fs.overwrite number []).append bytes (.file number)).2 where
  reached := .file
  names := id
  others := fun _ => rfl
  content := by
    intro other
    simp only [append, content_overwrite]
    split <;> simp
  current := rfl

theorem writes_create {location : Location} (hroot : location ≠ []) (hfree : fs.node? location = none) :
    Writes fs (.vacant location) bytes fs.freshNumber
      ((fs.create location).append bytes (.file fs.freshNumber)).2 where
  reached := .vacant hfree fun _ h => Nat.lt_irrefl _ (fs.lt_freshNumber h)
  names := by
    rintro _ rfl
    rw [append, node?_overwrite, node?_create fs hroot, if_pos rfl]
  others := by
    intro other hother
    rw [append, node?_overwrite, node?_create fs hroot]
    exact if_neg hother
  content := by
    intro other
    simp only [append, content_overwrite, content_create]
    split <;> simp
  current := rfl

end Cases

variable {bytes : List UInt8}

/-- The answer of a write is decided by what the path leads to. -/
theorem writeFile_answer (fs : FileSystem) (path : String) (bytes : List UInt8) :
    (fs.writeFile path bytes).1 = (fs.destination path).bind (Target.answer bytes) := by
  unfold writeFile openEmpty
  cases fs.destination path with
  | error fault => rfl
  | ok target => cases target <;> rfl

/-- **What a write can do.**  It fails, or it is swallowed by a device, and nothing has changed; or it gives one
file its contents. -/
theorem writeFile_cases (fs : FileSystem) (path : String) (bytes : List UInt8) :
    (∃ fault, fs.writeFile path bytes = (.error fault, fs)) ∨
      (∃ kind, fs.destination path = .ok (.device kind) ∧ fs.writeFile path bytes = (.ok (), fs)) ∨
      ∃ target number after, fs.destination path = .ok target ∧ Writes fs target bytes number after ∧
        fs.writeFile path bytes = (.ok (), after) := by
  cases hdest : fs.destination path with
  | error fault => exact Or.inl ⟨fault, by rw [writeFile, openEmpty, hdest]⟩
  | ok target =>
    cases target with
    | directory place => exact Or.inl ⟨.isADirectory, by rw [writeFile, openEmpty, hdest]⟩
    | vacant location =>
      obtain ⟨hroot, hfree⟩ := destination_sound hdest
      refine Or.inr (Or.inr ⟨_, _, _, rfl, writes_create hroot hfree, ?_⟩)
      rw [writeFile, openEmpty, hdest]
      rfl
    | file number =>
      refine Or.inr (Or.inr ⟨_, _, _, rfl, writes_overwrite number, ?_⟩)
      rw [writeFile, openEmpty, hdest]
      rfl
    | device kind =>
      rw [writeFile, openEmpty, hdest]
      simp only [append]
      split
      · exact Or.inr (Or.inl ⟨kind, rfl, rfl⟩)
      · exact Or.inl ⟨.storageFull, rfl⟩

/-! ## What can be seen of it -/

/-- **A target replaced.**  In `after`, the file of a number holds some bytes under the names and along the paths
that stood for `target` in `before`; everything else is as it was. -/
structure Replaced (before : FileSystem) (target : Target) (bytes : List UInt8) (number : Nat)
    (after : FileSystem) : Prop where
  /-- The target is a regular file, or a free name for a new one. -/
  regular : target.Keeps before number
  content : after.content number = bytes
  /-- Every path that led to the target, through whatever links, leads to the file and reads the bytes. -/
  leads : ∀ path, before.destination path = .ok target →
    after.destination path = .ok (.file number) ∧ after.bytesAt path = .ok bytes
  /-- Every name of the target is a name of the file and shows the bytes. -/
  names : ∀ location, target.Names before location →
    after.node? location = some (.file number) ∧ after.view? location = some (.file bytes)
  /-- Every other entry, of whatever kind, is the same entry and shows the same. -/
  others : ∀ location, ¬ target.Names before location →
    after.node? location = before.node? location ∧ after.view? location = before.view? location
  /-- No entry has gone. -/
  kept : ∀ location, before.node? location ≠ none → after.node? location ≠ none
  /-- Only the free name can be a new entry. -/
  added : ∀ location, before.node? location = none → after.node? location ≠ none →
    target = .vacant location
  /-- Every path that reads another file reads it as before. -/
  undisturbed : ∀ path old, before.bytesAt path = .ok old → before.destination path ≠ .ok target →
    after.bytesAt path = .ok old
  current : after.current = before.current

namespace Writes
variable {before after : FileSystem} {target : Target} {number : Nat}

/-- The names of the file afterwards are those of the target before. -/
theorem node?_eq_file_iff (w : Writes before target bytes number after) (location : Location) :
    after.node? location = some (.file number) ↔ target.Names before location := by
  refine ⟨fun h => Classical.byContradiction fun hnot => ?_, w.names⟩
  rw [w.others hnot] at h
  cases w.reached with
  | file => exact hnot h
  | vacant _ hfresh => exact hfresh location h

/-- An entry that stands for the target is a name of the file already, or it is the free name. -/
theorem old_or_free (w : Writes before target bytes number after) {location : Location}
    (h : target.Names before location) :
    before.node? location = some (.file number) ∨
      before.node? location = none ∧ target = .vacant location := by
  cases w.reached with
  | file => exact Or.inl h
  | vacant hfree =>
    cases h
    exact Or.inr ⟨hfree, rfl⟩

/-- A name of any file is an old one, or it is the free name. -/
theorem old_or_new (w : Writes before target bytes number after) {location : Location} {other : Nat}
    (h : after.node? location = some (.file other)) :
    before.node? location = some (.file other) ∨ other = number ∧ target = .vacant location := by
  by_cases hname : target.Names before location
  · cases (w.names hname).symm.trans h
    exact (w.old_or_free hname).imp id fun hfree => ⟨rfl, hfree.2⟩
  · exact Or.inl ((w.others hname).symm.trans h)

/-- The file that is put under a free name has no other. -/
theorem fresh (w : Writes before target bytes number after) {free : Location} (h : target = .vacant free)
    (other : Location) : before.node? other ≠ some (.file number) := by
  subst h
  cases w.reached with
  | vacant _ hfresh => exact hfresh other

/-- **Every name of the file shows the bytes.** -/
theorem view?_names (w : Writes before target bytes number after) {location : Location}
    (h : target.Names before location) : after.view? location = some (.file bytes) := by
  unfold view?
  rw [w.names h]
  simp [viewOf, w.content]

/-- **Every other entry is as it was.** -/
theorem view?_others (w : Writes before target bytes number after) {location : Location}
    (h : ¬ target.Names before location) : after.view? location = before.view? location := by
  unfold view?
  rw [w.others h]
  cases hnode : before.node? location with
  | none => rfl
  | some node =>
    cases node with
    | directory | link | device => rfl
    | file other =>
      have hother : other ≠ number := by
        rintro rfl
        exact h ((w.node?_eq_file_iff location).mp ((w.others h).trans hnode))
      simp [viewOf, w.content, hother]

theorem grows (w : Writes before target bytes number after) : Grows before after where
  current := w.current
  kept := by
    intro location node h
    by_cases hname : target.Names before location
    · rcases w.old_or_free hname with hold | ⟨hfree, -⟩
      · rw [w.names hname, ← hold, h]
      · rw [h] at hfree
        cases hfree
    · rw [w.others hname, h]
  added := by
    intro location node hnone hsome
    by_cases hname : target.Names before location
    · cases (w.names hname).symm.trans hsome
      refine ⟨number, rfl, fun other hother => ?_⟩
      rcases w.old_or_free hname with hold | ⟨-, rfl⟩
      · rw [hnone] at hold
        cases hold
      · exact (w.node?_eq_file_iff other).mp hother
    · rw [w.others hname, hnone] at hsome
      cases hsome

/-- **Every path that led to the target leads to the file.** -/
theorem leads (w : Writes before target bytes number after) {path : String}
    (h : before.destination path = .ok target) : after.destination path = .ok (.file number) := by
  have hbecomes := w.grows.destination path
  rw [h] at hbecomes
  generalize hnew : after.destination path = new at hbecomes ⊢
  cases w.reached with
  | file =>
    cases hbecomes
    rfl
  | @vacant free =>
    have hnode : after.node? free = some (.file number) := w.names rfl
    cases hbecomes with
    | same =>
      -- the walk cannot lead to a free name that has been taken
      have hfree := (destination_sound hnew).2
      rw [hnode] at hfree
      cases hfree
    | taken hfile =>
      rw [hnode] at hfile
      cases hfile
      rfl

/-- A file that was there keeps its names, and a new file has one name. -/
theorem sameFile_iff (w : Writes before target bytes number after) (location other : Location) :
    after.SameFile location other ↔
      before.SameFile location other ∨ location = other ∧ target.Names before location := by
  constructor
  · rintro ⟨n, hl, ho⟩
    rcases w.old_or_new hl with hl | ⟨rfl, hl⟩ <;> rcases w.old_or_new ho with ho | ⟨heq, ho⟩
    · exact Or.inl ⟨n, hl, ho⟩
    · exact absurd (heq ▸ hl) (w.fresh ho location)
    · exact absurd ho (w.fresh hl other)
    · cases hl.symm.trans ho
      exact Or.inr ⟨rfl, hl ▸ rfl⟩
  · rintro (⟨n, hl, ho⟩ | ⟨rfl, hname⟩)
    · exact ⟨n, w.grows.kept hl, w.grows.kept ho⟩
    · exact ⟨number, w.names hname, w.names hname⟩

/-- **Every path that reads another file reads it as before.** -/
theorem bytesAt_others (w : Writes before target bytes number after) {path : String} {old : List UInt8}
    (hold : before.bytesAt path = .ok old) (hne : before.destination path ≠ .ok target) :
    after.bytesAt path = .ok old := by
  have hbecomes := w.grows.destination path
  unfold bytesAt at hold ⊢
  cases hdest : before.destination path with
  | error fault => rw [hdest] at hold; cases hold
  | ok found =>
    rw [hdest] at hold hne hbecomes
    generalize after.destination path = new at hbecomes ⊢
    cases found with
    | directory | vacant => cases hold
    | device kind =>
      cases hbecomes
      exact hold
    | file other =>
      cases hbecomes
      have hother : other ≠ number := by
        rintro rfl
        cases w.reached with
        | file => exact hne rfl
        | vacant _ hfresh =>
          obtain ⟨location, hnode⟩ := destination_sound hdest
          exact hfresh location hnode
      rw [← hold]
      show Except.ok (after.content other) = Except.ok (before.content other)
      rw [w.content, if_neg hother]

theorem replaced (w : Writes before target bytes number after) : Replaced before target bytes number after where
  regular := w.reached
  content := by rw [w.content, if_pos rfl]
  leads := by
    intro path h
    have hleads := w.leads h
    refine ⟨hleads, ?_⟩
    unfold bytesAt
    rw [hleads]
    show Except.ok (after.content number) = Except.ok bytes
    rw [w.content, if_pos rfl]
  names := fun _ h => ⟨w.names h, w.view?_names h⟩
  others := fun _ h => ⟨w.others h, w.view?_others h⟩
  kept := by
    intro location h
    obtain ⟨node, hnode⟩ := Option.ne_none_iff_exists'.mp h
    rw [w.grows.kept hnode]
    exact Option.some_ne_none node
  added := by
    intro location hfree hnew
    have hname : target.Names before location := Classical.byContradiction fun hnot =>
      hnew ((w.others hnot).trans hfree)
    rcases w.old_or_free hname with hold | ⟨-, htarget⟩
    · cases hfree.symm.trans hold
    · exact htarget
  undisturbed := fun _ _ hold hne => w.bytesAt_others hold hne
  current := w.current

end Writes

/-! ## Entries before and after -/

/-- A write hits nothing and changes nothing, or it hits the names of what the path leads to. -/
theorem writeFile_effect (fs : FileSystem) (path : String) (bytes : List UInt8) :
    ((fs.writeFile path bytes).2 = fs ∧ ∀ location, ¬ fs.Hits path location) ∨
      ∃ target number, fs.destination path = .ok target ∧
        Writes fs target bytes number (fs.writeFile path bytes).2 := by
  have hanswer := fs.writeFile_answer path bytes
  rcases fs.writeFile_cases path bytes with ⟨_, heq⟩ | ⟨_, hdest, heq⟩ | ⟨target, number, _, hdest, hwrites, heq⟩
  · refine Or.inl ⟨by rw [heq], ?_⟩
    rintro location ⟨target, hdest, hname⟩
    rw [heq, hdest] at hanswer
    cases target with
    | directory | device => exact hname
    | vacant | file => cases hanswer
  · refine Or.inl ⟨by rw [heq], ?_⟩
    rintro location ⟨target, hdest', hname⟩
    cases hdest.symm.trans hdest'
    exact hname
  · exact Or.inr ⟨target, number, hdest, by rw [heq]; exact hwrites⟩

theorem hits_iff_names {fs : FileSystem} {path : String} {target : Target} {location : Location}
    (h : fs.destination path = .ok target) : fs.Hits path location ↔ target.Names fs location := by
  constructor
  · rintro ⟨target', hdest, hname⟩
    cases h.symm.trans hdest
    exact hname
  · exact fun hname => ⟨target, h, hname⟩

theorem writeFile_grows (fs : FileSystem) (path : String) (bytes : List UInt8) :
    Grows fs (fs.writeFile path bytes).2 := by
  rcases fs.writeFile_effect path bytes with ⟨heq, -⟩ | ⟨_, _, -, hwrites⟩
  · rw [heq]
    exact .refl fs
  · exact hwrites.grows

/-- **The entries that a write hits show the bytes, and all others are as they were.** -/
theorem view?_writeFile (fs : FileSystem) (path : String) (bytes : List UInt8) (location : Location)
    [Decidable (fs.Hits path location)] :
    (fs.writeFile path bytes).2.view? location =
      if fs.Hits path location then some (.file bytes) else fs.view? location := by
  rcases fs.writeFile_effect path bytes with ⟨heq, hmiss⟩ | ⟨_, _, hdest, hwrites⟩
  · rw [if_neg (hmiss location), heq]
  · split
    · rename_i hhit
      exact hwrites.view?_names ((hits_iff_names hdest).mp hhit)
    · rename_i hmiss
      exact hwrites.view?_others fun hname => hmiss ((hits_iff_names hdest).mpr hname)

/-- Two locations name one file after a write if they did before, or if they are one new name. -/
theorem sameFile_writeFile (fs : FileSystem) (path : String) (bytes : List UInt8) (location other : Location) :
    (fs.writeFile path bytes).2.SameFile location other ↔
      fs.SameFile location other ∨ location = other ∧ fs.Hits path location := by
  rcases fs.writeFile_effect path bytes with ⟨heq, hmiss⟩ | ⟨target, number, hdest, hwrites⟩
  · rw [heq]
    exact ⟨Or.inl, fun h => h.elim id fun h => absurd h.2 (hmiss location)⟩
  · rw [hits_iff_names hdest]
    exact hwrites.sameFile_iff location other

end FileSystem

end CartridgeFixture
