import CartridgeFixture.Proofs.Generation.Effect

/-!
# The order of generations

In a row of generations, each takes place in the file system that the one before left behind. What comes of the row
does not depend on its order. Two facts about growth carry this. A write hits the same entries in the grown system
as in the old one (`Grows.hits_iff`): a name that some other generation has created in between is still the name
that the path leads to. And it has the same answer (`Grows.answer`), except that a file may be in the way where a
name was missing.

So a row puts the image under exactly those entries that one of its paths hits in the file system at the start
(`view?_afterRow`, `sameFile_afterRow`), and which these are is a question of the set of its paths. It may be
permuted, and it may be run again (`rows_commute`).
-/
namespace CartridgeFixture

open FileSystem

/-! ## Writes in a grown file system -/

namespace FileSystem.Grows
variable {before after : FileSystem}

/-- A target that was there stands for the same entries. -/
theorem names_iff (g : Grows before after) {target : Target} (hsound : target.Sound before)
    (location : Location) : target.Names after location ↔ target.Names before location := by
  cases target with
  | directory | vacant | device => exact Iff.rfl
  | file number =>
    obtain ⟨place, hplace⟩ := hsound
    refine ⟨fun hname => ?_, fun hname => g.kept hname⟩
    cases hnode : before.node? location with
    | some node =>
      cases (g.kept hnode).symm.trans hname
      exact hnode
    | none =>
      -- the file has a name already, so it is not the one that a new entry was made for
      obtain ⟨_, heq, honly⟩ := g.added hnode hname
      cases heq
      cases honly place (g.kept hplace)
      cases hnode.symm.trans hplace

/-- A file that has taken a free name has no other. -/
theorem names_taken_iff (g : Grows before after) {free : Location} {number : Nat}
    (hfree : before.node? free = none) (htaken : after.node? free = some (.file number)) (location : Location) :
    (Target.file number).Names after location ↔ (Target.vacant free).Names before location := by
  obtain ⟨_, heq, honly⟩ := g.added hfree htaken
  cases heq
  constructor
  · exact honly location
  · rintro rfl
    exact htaken

/-- **A write hits the same entries in a grown file system.** -/
theorem hits_iff (g : Grows before after) (path : String) (location : Location) :
    after.Hits path location ↔ before.Hits path location := by
  have hbecomes := g.destination path
  have hsound : ∀ target, before.destination path = .ok target → target.Sound before :=
    fun _ => destination_sound
  unfold Hits
  generalize before.destination path = old at hbecomes hsound ⊢
  generalize after.destination path = new at hbecomes ⊢
  cases hbecomes with
  | same => exact exists_congr fun target => and_congr_right fun h => g.names_iff (hsound target h) location
  | taken htaken =>
    have hnames := g.names_taken_iff (hsound _ rfl).2 htaken location
    constructor
    · rintro ⟨_, ⟨⟩, hname⟩
      exact ⟨_, rfl, hnames.mp hname⟩
    · rintro ⟨_, ⟨⟩, hname⟩
      exact ⟨_, rfl, hnames.mpr hname⟩
  | inTheWay =>
    constructor
    · rintro ⟨_, ⟨⟩, -⟩
    · rintro ⟨_, ⟨⟩, -⟩

/-- **A write has the same answer in a grown file system**, but that a file may be in the way where a name was
missing. -/
theorem answer (g : Grows before after) (path : String) (bytes : List UInt8) :
    (after.writeFile path bytes).1 = (before.writeFile path bytes).1 ∨
      (before.writeFile path bytes).1 = .error .notFound ∧
        (after.writeFile path bytes).1 = .error .notADirectory := by
  rw [writeFile_answer, writeFile_answer]
  have hbecomes := g.destination path
  generalize before.destination path = old at hbecomes ⊢
  generalize after.destination path = new at hbecomes ⊢
  cases hbecomes with
  | same => exact Or.inl rfl
  | taken => exact Or.inl rfl
  | inTheWay => exact Or.inr ⟨rfl, rfl⟩

end FileSystem.Grows

/-- **Two file systems that cannot be told apart**: the same is seen at every location, the same locations name one
file, and the current directory is the same. Only the numbers of the files may differ. -/
structure FileSystem.SameTree (a b : FileSystem) : Prop where
  view : ∀ location, a.view? location = b.view? location
  sameFile : ∀ location other, a.SameFile location other ↔ b.SameFile location other
  current : a.current = b.current

namespace Generation

/-! ## Rows of generations -/

/-- What the generations of a row of paths do, each in the file system that the one before left behind. -/
def row (fs : FileSystem) : List String → List (String × Generation)
  | [] => []
  | path :: rest => (path, generateTo fs path) :: row (generateTo fs path).fileSystem rest

/-- The file system that a row of generations leaves behind. -/
def afterRow (fs : FileSystem) : List String → FileSystem
  | [] => fs
  | path :: rest => afterRow (generateTo fs path).fileSystem rest

/-- Some path of a row hits the entry at a location. -/
def HitsAny (fs : FileSystem) (paths : List String) (location : Location) : Prop :=
  ∃ path ∈ paths, fs.Hits path location

/-- **Two generations with the same outcome**: both succeed or both fail, with the same events and the same path.
If they fail, the only difference may be that the one misses a name where for the other a file is in the way. -/
structure SameOutcome (g other : Generation) : Prop where
  success : g.failure? = none ↔ other.failure? = none
  events : g.events = other.events
  path : g.failure?.map Failure.path = other.failure?.map Failure.path
  cause : ∀ {failure failure'}, g.failure? = some failure → other.failure? = some failure' →
    failure.cause = failure'.cause ∨
      failure.cause = .notFound ∧ failure'.cause = .notADirectory ∨
      failure.cause = .notADirectory ∧ failure'.cause = .notFound

theorem generateTo_grows (fs : FileSystem) (path : String) : Grows fs (generateTo fs path).fileSystem := by
  rw [generateTo_fileSystem]
  exact fs.writeFile_grows path Image.bytes

theorem afterRow_grows (fs : FileSystem) (paths : List String) : Grows fs (afterRow fs paths) := by
  induction paths generalizing fs with
  | nil => exact .refl fs
  | cons path rest ih => exact (generateTo_grows fs path).trans (ih _)

/-- Every generation of a row takes place in a file system that has grown from the first. -/
theorem grown_of_mem_row {fs : FileSystem} {paths : List String} {call : String × Generation}
    (h : call ∈ row fs paths) : ∃ middle, Grows fs middle ∧ call.2 = generateTo middle call.1 := by
  induction paths generalizing fs with
  | nil => cases h
  | cons path rest ih =>
    rcases List.mem_cons.mp h with rfl | h
    · exact ⟨fs, .refl fs, rfl⟩
    · obtain ⟨middle, hgrows, heq⟩ := ih h
      exact ⟨middle, (generateTo_grows fs path).trans hgrows, heq⟩

theorem hitsAny_iff_of_grows {before after : FileSystem} (g : Grows before after) (paths : List String)
    (location : Location) : HitsAny after paths location ↔ HitsAny before paths location := by
  unfold HitsAny
  simp only [g.hits_iff]

theorem hitsAny_cons (fs : FileSystem) (path : String) (rest : List String) (location : Location) :
    HitsAny fs (path :: rest) location ↔
      fs.Hits path location ∨ HitsAny (generateTo fs path).fileSystem rest location := by
  rw [hitsAny_iff_of_grows (generateTo_grows fs path)]
  simp [HitsAny]

/-- **What a row of generations leaves to be seen**, told by the file system at the start. -/
theorem view?_afterRow (fs : FileSystem) (paths : List String) (location : Location)
    [Decidable (HitsAny fs paths location)] :
    (afterRow fs paths).view? location =
      if HitsAny fs paths location then some (.file Image.bytes) else fs.view? location := by
  classical
  induction paths generalizing fs with
  | nil => rw [if_neg (by simp [HitsAny]), afterRow]
  | cons path rest ih =>
    -- what the rest hits has not been changed by the first generation, so one test covers both
    rw [afterRow, ih, generateTo_fileSystem, view?_writeFile, ← generateTo_fileSystem]
    simp only [hitsAny_cons]
    by_cases hrest : HitsAny (generateTo fs path).fileSystem rest location <;> simp [hrest]

/-- **Which names a row of generations leaves for one file**, told by the file system at the start. -/
theorem sameFile_afterRow (fs : FileSystem) (paths : List String) (location other : Location) :
    (afterRow fs paths).SameFile location other ↔
      fs.SameFile location other ∨ location = other ∧ HitsAny fs paths location := by
  induction paths generalizing fs with
  | nil => simp [afterRow, HitsAny]
  | cons path rest ih =>
    rw [afterRow, ih, generateTo_fileSystem, sameFile_writeFile, ← generateTo_fileSystem, hitsAny_cons]
    rw [or_assoc, ← and_or_left]

theorem SameOutcome.symm {g other : Generation} (h : SameOutcome g other) : SameOutcome other g where
  success := h.success.symm
  events := h.events.symm
  path := h.path.symm
  cause := by
    intro failure failure' hf hf'
    rcases h.cause hf' hf with heq | ⟨h₁, h₂⟩ | ⟨h₁, h₂⟩
    · exact Or.inl heq.symm
    · exact Or.inr (Or.inr ⟨h₂, h₁⟩)
    · exact Or.inr (Or.inl ⟨h₂, h₁⟩)

theorem sameOutcome_of_missing {first second : FileSystem} {path : String}
    (h₁ : (first.writeFile path Image.bytes).1 = .error .notFound)
    (h₂ : (second.writeFile path Image.bytes).1 = .error .notADirectory) :
    SameOutcome (generateTo first path) (generateTo second path) := by
  have hf : (generateTo first path).failure? = some ⟨path, .notFound⟩ := by
    rw [generateTo_failure?, h₁]
  have hf' : (generateTo second path).failure? = some ⟨path, .notADirectory⟩ := by
    rw [generateTo_failure?, h₂]
  refine ⟨by rw [hf, hf']; simp, by rw [generateTo_events, generateTo_events, h₁, h₂], by rw [hf, hf']; rfl, ?_⟩
  intro failure failure' h h'
  cases hf.symm.trans h
  cases hf'.symm.trans h'
  exact Or.inr (Or.inl ⟨rfl, rfl⟩)

/-- **Generations for one path have the same outcome** in any two file systems that have grown from one. -/
theorem sameOutcome_of_grows {fs first second : FileSystem} (hfirst : Grows fs first)
    (hsecond : Grows fs second) (path : String) :
    SameOutcome (generateTo first path) (generateTo second path) := by
  have hsame : (first.writeFile path Image.bytes).1 = (second.writeFile path Image.bytes).1 →
      SameOutcome (generateTo first path) (generateTo second path) := by
    intro heq
    have hf : (generateTo first path).failure? = (generateTo second path).failure? := by
      rw [generateTo_failure?, generateTo_failure?, heq]
    refine ⟨by rw [hf], by rw [generateTo_events, generateTo_events, heq], by rw [hf], fun h h' => Or.inl ?_⟩
    cases h.symm.trans (hf.trans h')
    rfl
  rcases hfirst.answer path Image.bytes with h₁ | ⟨hold, h₁⟩ <;>
    rcases hsecond.answer path Image.bytes with h₂ | ⟨hold', h₂⟩
  · exact hsame (h₁.trans h₂.symm)
  · exact sameOutcome_of_missing (h₁.trans hold') h₂
  · exact (sameOutcome_of_missing (h₂.trans hold) h₁).symm
  · exact hsame (h₁.trans h₂.symm)

/-- What two rows of generations leave behind cannot be told apart if their paths are the same. -/
theorem sameTree_afterRow (fs : FileSystem) {paths others : List String}
    (h : ∀ path, path ∈ paths ↔ path ∈ others) : SameTree (afterRow fs paths) (afterRow fs others) := by
  classical
  have hhits : ∀ location, HitsAny fs paths location ↔ HitsAny fs others location := by
    intro location
    simp only [HitsAny, h]
  refine ⟨fun location => ?_, fun location other => ?_, ?_⟩
  · rw [view?_afterRow, view?_afterRow]
    simp only [hhits]
  · rw [sameFile_afterRow, sameFile_afterRow, hhits]
  · exact (afterRow_grows fs paths).current.trans (afterRow_grows fs others).current.symm

/-- A row of generations changes nothing when it is run again. -/
theorem sameTree_afterRow_again (fs : FileSystem) (paths : List String) :
    SameTree (afterRow (afterRow fs paths) paths) (afterRow fs paths) := by
  classical
  have hgrows := afterRow_grows fs paths
  refine ⟨fun location => ?_, fun location other => ?_, (afterRow_grows _ paths).current⟩
  · rw [view?_afterRow, view?_afterRow]
    simp only [hitsAny_iff_of_grows hgrows]
    split <;> rfl
  · rw [sameFile_afterRow, sameFile_afterRow, hitsAny_iff_of_grows hgrows]
    rw [or_assoc, or_self]

/-- Which generations of a row succeed is told by the file system at the start. -/
theorem map_success_row {fs after : FileSystem} (g : Grows fs after) (paths : List String) :
    (row after paths).map (fun call => call.2.failure?.isNone) =
      paths.map fun path => (generateTo fs path).failure?.isNone := by
  induction paths generalizing after with
  | nil => rfl
  | cons path rest ih =>
    rw [row, List.map_cons, List.map_cons, ih (g.trans (generateTo_grows after path))]
    congr 1
    rw [Bool.eq_iff_iff, Option.isNone_iff_eq_none, Option.isNone_iff_eq_none]
    exact (sameOutcome_of_grows g (.refl fs) path).success

/-- **The order of a row of generations does not matter.**  Whatever paths it has, be they repeated, names of one
file, or failing, every permutation leaves the same tree behind and each path has the same outcome, wherever it
stands. Run once more, the row changes nothing, and the same generations succeed. -/
theorem rows_commute (fs : FileSystem) {paths others : List String} (h : paths.Perm others) :
    SameTree (afterRow fs paths) (afterRow fs others) ∧
      (∀ call ∈ row fs paths, ∀ call' ∈ row fs others, call.1 = call'.1 → SameOutcome call.2 call'.2) ∧
      SameTree (afterRow (afterRow fs paths) paths) (afterRow fs paths) ∧
      (row (afterRow fs paths) paths).map (fun call => call.2.failure?.isNone) =
        (row fs paths).map fun call => call.2.failure?.isNone := by
  refine ⟨sameTree_afterRow fs fun _ => h.mem_iff, ?_, sameTree_afterRow_again fs paths, ?_⟩
  · intro call hcall call' hcall' hpath
    obtain ⟨middle, hgrows, heq⟩ := grown_of_mem_row hcall
    obtain ⟨middle', hgrows', heq'⟩ := grown_of_mem_row hcall'
    rw [heq, heq', ← hpath]
    exact sameOutcome_of_grows hgrows hgrows' call.1
  · rw [map_success_row (afterRow_grows fs paths), map_success_row (.refl fs)]

/-- A file in the way of a later generation is a missing name for an earlier one. -/
theorem rows_commute_sample :
    ["new", "new/x", "near"].Perm ["new/x", "near", "new"] ∧
      (row sample ["new", "new/x", "near"]).map (fun call => call.2.failure?) =
        [none, some ⟨"new/x", .notADirectory⟩, none] ∧
      (row sample ["new/x", "near", "new"]).map (fun call => call.2.failure?) =
        [some ⟨"new/x", .notFound⟩, none, none] ∧
      SameTree (afterRow sample ["new", "new/x", "near"])
        (afterRow sample ["new/x", "near", "new"]) :=
  have hperm : ["new", "new/x", "near"].Perm ["new/x", "near", "new"] := by decide
  ⟨hperm, rfl, rfl, (rows_commute sample hperm).1⟩

end Generation

end CartridgeFixture
