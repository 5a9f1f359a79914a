import CartridgeFixture.Proofs.FileSystem.Effect
import Mathlib.Data.Prod.Lex
import Mathlib.Logic.Relation

/-!
# The first obstacle

A walk can be told one step at a time, without the order in which the system makes its tests. At every **stage** there
is a route left and a number of links that have been followed. A step (`Step`) passes a dot, goes up, enters a
directory, or follows a link. A stage without a step is the last: something stands in the way there (`Obstacle`), or
the last name has been reached and bytes can be written to what it names (`Writable`).

Walks end, since a step uses up a component or one of the links that may be followed (`step_wellFounded`). Along a walk
what it leads to does not change (`Step.resolve_eq`), and so the answer of a write can be read off at its last stage. A
write succeeds iff the walk of its path leads to a stage where it can be made (`writeFile_eq_ok_iff`), and else it
fails with the obstacle that the walk comes to (`writeFile_eq_error_iff`).
-/
namespace CartridgeFixture

open Relation (ReflTransGen)

/-- Where a walk is: how many links it has followed, and the route that is left. -/
structure Stage where
  followed : Nat
  route : Route

namespace FileSystem

/-- A name can be looked up in a directory, and what is found. -/
structure Finds (fs : FileSystem) (place : Place) (name : String) (found : Option Node) : Prop where
  existing : place.removed = 0
  short : name.utf8ByteSize ≤ nameLimit
  node : fs.node? (name :: place.location) = found

/-- **One step of a walk.**  A name that is the last component with a slash behind is not even looked up. The target
of a link is walked from the directory of the link, or from the root, with all that is still ahead behind it. -/
inductive Step (fs : FileSystem) : Stage → Stage → Prop
  | here {n place rest slash} : Step fs ⟨n, place, .here :: rest, slash⟩ ⟨n, place, rest, slash⟩
  | up {n place rest slash} : Step fs ⟨n, place, .up :: rest, slash⟩ ⟨n, place.parent, rest, slash⟩
  | enter {n place name rest slash} (hslash : ¬ (rest = [] ∧ slash = true))
      (h : fs.Finds place name (some .directory)) :
      Step fs ⟨n, place, .name name :: rest, slash⟩ ⟨n, .existing (name :: place.location), rest, slash⟩
  | follow {n place name rest slash target} (hslash : ¬ (rest = [] ∧ slash = true))
      (h : fs.Finds place name (some (.link target))) (hlimit : n < linkLimit) :
      Step fs ⟨n, place, .name name :: rest, slash⟩
        ⟨n + 1, if (Path.ofText target).absolute then .root else .existing place.location,
          (Path.ofText target).components ++ rest, if rest = [] then (Path.ofText target).slashAtEnd else slash⟩

/-- **What stands in the way** of writing bytes, at a stage of a walk. -/
inductive Obstacle (fs : FileSystem) (bytes : List UInt8) : Stage → Fault → Prop
  /-- All components have led to a directory. -/
  | directory {n place slash} : Obstacle fs bytes ⟨n, place, [], slash⟩ .isADirectory
  | slashAtEnd {n place name} : Obstacle fs bytes ⟨n, place, [.name name], true⟩ .isADirectory
  | removed {n place name rest slash} (hslash : ¬ (rest = [] ∧ slash = true)) (h : place.removed ≠ 0) :
      Obstacle fs bytes ⟨n, place, .name name :: rest, slash⟩ .notFound
  | tooLong {n place name rest slash} (hslash : ¬ (rest = [] ∧ slash = true)) (hexisting : place.removed = 0)
      (h : nameLimit < name.utf8ByteSize) :
      Obstacle fs bytes ⟨n, place, .name name :: rest, slash⟩ .invalidFilename
  | missing {n place name rest slash} (hrest : rest ≠ []) (h : fs.Finds place name none) :
      Obstacle fs bytes ⟨n, place, .name name :: rest, slash⟩ .notFound
  | file {n place name rest slash number} (hrest : rest ≠ []) (h : fs.Finds place name (some (.file number))) :
      Obstacle fs bytes ⟨n, place, .name name :: rest, slash⟩ .notADirectory
  | device {n place name rest slash kind} (hrest : rest ≠ []) (h : fs.Finds place name (some (.device kind))) :
      Obstacle fs bytes ⟨n, place, .name name :: rest, slash⟩ .notADirectory
  | tooManyLinks {n place name rest slash target} (hslash : ¬ (rest = [] ∧ slash = true))
      (h : fs.Finds place name (some (.link target))) (hlimit : linkLimit ≤ n) :
      Obstacle fs bytes ⟨n, place, .name name :: rest, slash⟩ .filesystemLoop
  | noRoom {n place name kind} (h : fs.Finds place name (some (.device kind))) (hfull : kind.accepts bytes = false) :
      Obstacle fs bytes ⟨n, place, [.name name], false⟩ .storageFull

/-- **Bytes can be written** at a stage of a walk: only the last name is left, without a slash behind, and it is free
in an existing directory, or names a regular file or a device that takes the bytes. -/
inductive Writable (fs : FileSystem) (bytes : List UInt8) : Stage → Prop
  | free {n place name} (h : fs.Finds place name none) : Writable fs bytes ⟨n, place, [.name name], false⟩
  | file {n place name number} (h : fs.Finds place name (some (.file number))) :
      Writable fs bytes ⟨n, place, [.name name], false⟩
  | device {n place name kind} (h : fs.Finds place name (some (.device kind))) (htakes : kind.accepts bytes = true) :
      Writable fs bytes ⟨n, place, [.name name], false⟩

/-- A path text that can be walked at all. -/
structure Walkable (path : String) : Prop where
  noNul : '\x00' ∉ path.toList
  nonempty : path ≠ ""
  short : path.utf8ByteSize < pathLimit

/-- The first stage of the walk of a path. -/
def firstStage (fs : FileSystem) (path : String) : Stage := ⟨0, (Path.ofText path).route fs.current⟩

/-- The walk of a path leads to a stage. -/
def LeadsTo (fs : FileSystem) (path : String) (stage : Stage) : Prop :=
  Walkable path ∧ ReflTransGen fs.Step (fs.firstStage path) stage

/-- **The first obstacle to writing bytes through a path.**  The text of the path is looked at before anything else,
and a NUL in it before its length. -/
inductive FirstObstacle (fs : FileSystem) (bytes : List UInt8) (path : String) : Fault → Prop
  | nul (h : '\x00' ∈ path.toList) : FirstObstacle fs bytes path .nulInPath
  | empty (h : path = "") : FirstObstacle fs bytes path .notFound
  | tooLong (hnul : '\x00' ∉ path.toList) (h : pathLimit ≤ path.utf8ByteSize) :
      FirstObstacle fs bytes path .invalidFilename
  | onTheWay {stage : Stage} {fault : Fault} (hleads : fs.LeadsTo path stage) (h : fs.Obstacle bytes stage fault) :
      FirstObstacle fs bytes path fault

/-! ## Walks end -/

variable {fs : FileSystem} {bytes : List UInt8}

/-- **Every walk ends**: a step takes one from the links that may still be followed, or else a component from those
ahead. -/
theorem step_wellFounded (fs : FileSystem) : WellFounded fun next stage => fs.Step stage next := by
  let weight : Stage → Nat ×ₗ Nat := fun stage => toLex (linkLimit - stage.followed, stage.route.ahead.length)
  refine Subrelation.wf ?_ (InvImage.wf weight wellFounded_lt)
  intro next stage h
  show weight next < weight stage
  rw [Prod.Lex.lt_iff]
  cases h with
  | here | up | enter => exact Or.inr ⟨rfl, Nat.lt_succ_self _⟩
  | follow _ _ hlimit => exact Or.inl (Nat.sub_lt_sub_left hlimit (Nat.lt_succ_self _))

theorem Step.followed_le {stage next : Stage} (h : fs.Step stage next) (hle : stage.followed ≤ linkLimit) :
    next.followed ≤ linkLimit := by
  cases h with
  | here | up | enter => exact hle
  | follow _ _ hlimit => exact hlimit

/-- A walk follows at most as many links as it may. -/
theorem LeadsTo.followed_le {path : String} {stage : Stage} (h : fs.LeadsTo path stage) :
    stage.followed ≤ linkLimit := by
  obtain ⟨-, hwalk⟩ := h
  induction hwalk with
  | refl => exact Nat.zero_le _
  | tail _ hstep ih => exact hstep.followed_le ih

theorem Finds.unique {place : Place} {name : String} {found found' : Option Node} (h : fs.Finds place name found)
    (h' : fs.Finds place name found') : found = found' :=
  h.node.symm.trans h'.node

/-- A walk goes one way only. -/
theorem Step.unique {stage next next' : Stage} (h : fs.Step stage next) (h' : fs.Step stage next') :
    next = next' := by
  cases h with
  | here | up =>
    cases h'
    rfl
  | enter _ h =>
    cases h' with
    | enter => rfl
    | follow _ h' => cases h.unique h'
  | follow _ h =>
    cases h' with
    | enter _ h' => cases h.unique h'
    | follow _ h' =>
      cases h.unique h'
      rfl

/-- **No walk goes past an obstacle**, so there is no other behind it. -/
theorem Obstacle.not_step {stage next : Stage} {fault : Fault} (h : fs.Obstacle bytes stage fault) :
    ¬ fs.Step stage next := by
  intro hstep
  cases hstep with
  | here | up => cases h
  | enter hslash hfinds =>
    cases h with
    | slashAtEnd => exact hslash ⟨rfl, rfl⟩
    | removed _ h => exact h hfinds.existing
    | tooLong _ _ h => exact absurd hfinds.short (Nat.not_le.mpr h)
    | missing _ h | file _ h | device _ h | tooManyLinks _ h | noRoom h => cases hfinds.unique h
  | follow hslash hfinds hlimit =>
    cases h with
    | slashAtEnd => exact hslash ⟨rfl, rfl⟩
    | removed _ h => exact h hfinds.existing
    | tooLong _ _ h => exact absurd hfinds.short (Nat.not_le.mpr h)
    | missing _ h | file _ h | device _ h | noRoom h => cases hfinds.unique h
    | tooManyLinks _ _ h => exact absurd hlimit (Nat.not_lt.mpr h)

/-- **A stage is the last, or there is a step.** -/
theorem stage_cases (fs : FileSystem) (bytes : List UInt8) (stage : Stage) :
    (∃ next, fs.Step stage next) ∨ fs.Writable bytes stage ∨ ∃ fault, fs.Obstacle bytes stage fault := by
  obtain ⟨n, place, ahead, slash⟩ := stage
  cases ahead with
  | nil => exact Or.inr (Or.inr ⟨_, .directory⟩)
  | cons component rest =>
    cases component with
    | here => exact Or.inl ⟨_, .here⟩
    | up => exact Or.inl ⟨_, .up⟩
    | name name =>
      by_cases hslash : rest = [] ∧ slash = true
      · obtain ⟨rfl, rfl⟩ := hslash
        exact Or.inr (Or.inr ⟨_, .slashAtEnd⟩)
      by_cases hremoved : place.removed = 0
      case neg => exact Or.inr (Or.inr ⟨_, .removed hslash hremoved⟩)
      by_cases hlong : nameLimit < name.utf8ByteSize
      · exact Or.inr (Or.inr ⟨_, .tooLong hslash hremoved hlong⟩)
      have hfinds : fs.Finds place name (fs.node? (name :: place.location)) := ⟨hremoved, Nat.le_of_not_lt hlong, rfl⟩
      generalize fs.node? (name :: place.location) = found at hfinds
      have hlast : rest = [] → slash = false := fun h => by simpa [h] using hslash
      cases found with
      | none =>
        by_cases hrest : rest = []
        · cases hlast hrest
          subst hrest
          exact Or.inr (Or.inl (.free hfinds))
        · exact Or.inr (Or.inr ⟨_, .missing hrest hfinds⟩)
      | some node =>
        cases node with
        | directory => exact Or.inl ⟨_, .enter hslash hfinds⟩
        | link target =>
          by_cases hlimit : n < linkLimit
          · exact Or.inl ⟨_, .follow hslash hfinds hlimit⟩
          · exact Or.inr (Or.inr ⟨_, .tooManyLinks hslash hfinds (Nat.le_of_not_lt hlimit)⟩)
        | file number =>
          by_cases hrest : rest = []
          · cases hlast hrest
            subst hrest
            exact Or.inr (Or.inl (.file hfinds))
          · exact Or.inr (Or.inr ⟨_, .file hrest hfinds⟩)
        | device kind =>
          by_cases hrest : rest = []
          · cases hlast hrest
            subst hrest
            cases htakes : kind.accepts bytes with
            | true => exact Or.inr (Or.inl (.device hfinds htakes))
            | false => exact Or.inr (Or.inr ⟨_, .noRoom hfinds htakes⟩)
          · exact Or.inr (Or.inr ⟨_, .device hrest hfinds⟩)

/-- Every walk comes to a last stage. -/
theorem exists_last_stage (fs : FileSystem) (bytes : List UInt8) (stage : Stage) :
    ∃ last, ReflTransGen fs.Step stage last ∧ (fs.Writable bytes last ∨ ∃ fault, fs.Obstacle bytes last fault) := by
  induction stage using (step_wellFounded fs).induction with
  | _ stage ih =>
    rcases fs.stage_cases bytes stage with ⟨next, hstep⟩ | hlast
    · obtain ⟨last, hwalk, hlast⟩ := ih next hstep
      exact ⟨last, .head hstep hwalk, hlast⟩
    · exact ⟨stage, .refl, hlast⟩

/-! ## The answer at each stage -/

/-- What comes of writing bytes when a walk has got as far as a stage. -/
def answerFrom (fs : FileSystem) (bytes : List UInt8) (stage : Stage) : Except Fault Unit :=
  (fs.resolve (linkLimit - stage.followed) stage.route).bind (Target.answer bytes)

theorem lookup_of_finds {place : Place} {name : String} {found : Option Node} (h : fs.Finds place name found) :
    fs.lookup place name = .ok found := by
  rw [lookup, if_neg (not_not.mpr h.existing), if_neg (Nat.not_lt.mpr h.short), h.node]

/-- A name that is looked up decides how the walk goes on. -/
theorem advance_name {place : Place} {slash : Bool} {name : String} {rest : List Component}
    (hslash : ¬ (rest = [] ∧ slash = true)) : fs.advance place slash (.name name :: rest) =
      match fs.lookup place name with
      | .error fault => .blocked fault
      | .ok none => stopIfLast rest (.vacant (name :: place.location)) .notFound
      | .ok (some .directory) => fs.advance (.existing (name :: place.location)) slash rest
      | .ok (some (.file number)) => stopIfLast rest (.file number) .notADirectory
      | .ok (some (.device kind)) => stopIfLast rest (.device kind) .notADirectory
      | .ok (some (.link target)) => .link place.location target rest := by
  rw [advance]
  exact if_neg hslash

/-- **A step does not change what the walk leads to.** -/
theorem Step.resolve_eq {stage next : Stage} (h : fs.Step stage next) :
    fs.resolve (linkLimit - stage.followed) stage.route = fs.resolve (linkLimit - next.followed) next.route := by
  cases h with
  | here | up =>
    rw [FileSystem.resolve_eq, FileSystem.resolve_eq]
    rfl
  | enter hslash h =>
    rw [FileSystem.resolve_eq, FileSystem.resolve_eq, advance_name hslash, lookup_of_finds h]
    rfl
  | @follow n _ _ _ _ _ hslash h hlimit =>
    have hlinks : linkLimit - n = linkLimit - (n + 1) + 1 := by omega
    rw [hlinks, FileSystem.resolve_eq, advance_name hslash, lookup_of_finds h]
    rfl

theorem resolve_eq_of_walk {stage last : Stage} (h : ReflTransGen fs.Step stage last) :
    fs.resolve (linkLimit - stage.followed) stage.route = fs.resolve (linkLimit - last.followed) last.route := by
  induction h with
  | refl => rfl
  | tail _ hstep ih => rw [ih, hstep.resolve_eq]

theorem Writable.answer_eq {stage : Stage} (h : fs.Writable bytes stage) : fs.answerFrom bytes stage = .ok () := by
  unfold answerFrom
  cases h with
  | free h | file h =>
    rw [resolve_eq, advance_name (by simp), lookup_of_finds h]
    rfl
  | @device _ _ _ kind h htakes =>
    rw [resolve_eq, advance_name (by simp), lookup_of_finds h]
    show Target.answer bytes (.device kind) = _
    rw [Target.answer, if_pos htakes]

theorem Obstacle.answer_eq {stage : Stage} {fault : Fault} (h : fs.Obstacle bytes stage fault) :
    fs.answerFrom bytes stage = .error fault := by
  unfold answerFrom
  cases h with
  | directory =>
    rw [resolve_eq]
    rfl
  | slashAtEnd =>
    rw [resolve_eq]
    rfl
  | removed hslash h =>
    rw [resolve_eq, advance_name hslash, lookup, if_pos h]
    rfl
  | tooLong hslash hexisting h =>
    rw [resolve_eq, advance_name hslash, lookup, if_neg (not_not.mpr hexisting), if_pos h]
    rfl
  | missing hrest h | file hrest h | device hrest h =>
    rw [resolve_eq, advance_name (by simp [hrest]), lookup_of_finds h]
    simp only [stopIfLast, if_neg hrest]
    rfl
  | @tooManyLinks n _ _ _ _ _ hslash h hlimit =>
    have hlinks : linkLimit - n = 0 := by omega
    rw [hlinks, resolve_eq, advance_name hslash, lookup_of_finds h]
    rfl
  | @noRoom _ _ _ kind h hfull =>
    rw [resolve_eq, advance_name (by simp), lookup_of_finds h]
    show Target.answer bytes (.device kind) = _
    rw [Target.answer, if_neg (by simp [hfull])]

theorem answerFrom_eq_of_walk {stage last : Stage} (h : ReflTransGen fs.Step stage last) :
    fs.answerFrom bytes stage = fs.answerFrom bytes last := by
  rw [answerFrom, resolve_eq_of_walk h, answerFrom]

/-! ## The answer of a write -/

theorem routeOf_of_walkable {path : String} (h : Walkable path) :
    fs.routeOf path = .ok ((Path.ofText path).route fs.current) := by
  rw [routeOf, if_neg h.noNul, if_neg (by simpa [String.isEmpty_iff] using h.nonempty), if_neg (Nat.not_le.mpr h.short)]

theorem destination_of_walkable {path : String} (h : Walkable path) :
    fs.destination path = fs.resolve linkLimit ((Path.ofText path).route fs.current) := by
  rw [destination, routeOf_of_walkable h]
  rfl

theorem writeFile_of_walkable {path : String} (h : Walkable path) :
    (fs.writeFile path bytes).1 = fs.answerFrom bytes (fs.firstStage path) := by
  rw [writeFile_answer, destination_of_walkable h]
  rfl

/-- The text of a path can be walked, or it is an obstacle itself. -/
theorem walkable_or_obstacle (fs : FileSystem) (bytes : List UInt8) (path : String) :
    Walkable path ∨ ∃ fault, fs.FirstObstacle bytes path fault := by
  by_cases hnul : '\x00' ∈ path.toList
  · exact Or.inr ⟨_, .nul hnul⟩
  by_cases hempty : path = ""
  · exact Or.inr ⟨_, .empty hempty⟩
  by_cases hlong : pathLimit ≤ path.utf8ByteSize
  · exact Or.inr ⟨_, .tooLong hnul hlong⟩
  · exact Or.inl ⟨hnul, hempty, Nat.lt_of_not_le hlong⟩

theorem FirstObstacle.answer_eq {path : String} {fault : Fault} (h : fs.FirstObstacle bytes path fault) :
    (fs.writeFile path bytes).1 = .error fault := by
  cases h with
  | nul h =>
    rw [writeFile_answer, destination, routeOf, if_pos h]
    rfl
  | empty h =>
    subst h
    rw [writeFile_answer]
    rfl
  | tooLong hnul h =>
    have hne : ¬ path.isEmpty = true := by
      rw [String.isEmpty_iff]
      rintro rfl
      exact absurd h (by decide)
    rw [writeFile_answer, destination, routeOf, if_neg hnul, if_neg hne, if_pos h]
    rfl
  | onTheWay hleads h =>
    rw [writeFile_of_walkable hleads.1, answerFrom_eq_of_walk hleads.2, h.answer_eq]

/-- **A write has its answer from the last stage of the walk**, or from the path itself. -/
theorem write_cases (fs : FileSystem) (bytes : List UInt8) (path : String) :
    (∃ stage, fs.LeadsTo path stage ∧ fs.Writable bytes stage) ∨ ∃ fault, fs.FirstObstacle bytes path fault := by
  rcases fs.walkable_or_obstacle bytes path with hwalkable | ⟨fault, hobstacle⟩
  · obtain ⟨last, hwalk, hwritable | ⟨fault, hobstacle⟩⟩ := fs.exists_last_stage bytes (fs.firstStage path)
    · exact Or.inl ⟨last, ⟨hwalkable, hwalk⟩, hwritable⟩
    · exact Or.inr ⟨fault, .onTheWay ⟨hwalkable, hwalk⟩ hobstacle⟩
  · exact Or.inr ⟨fault, hobstacle⟩

theorem answer_eq_of_writable {path : String} {stage : Stage} (hleads : fs.LeadsTo path stage)
    (h : fs.Writable bytes stage) : (fs.writeFile path bytes).1 = .ok () := by
  rw [writeFile_of_walkable hleads.1, answerFrom_eq_of_walk hleads.2, h.answer_eq]

/-- **A write succeeds iff the walk of its path leads to a stage where it can be made.** -/
theorem writeFile_eq_ok_iff {path : String} :
    (fs.writeFile path bytes).1 = .ok () ↔ ∃ stage, fs.LeadsTo path stage ∧ fs.Writable bytes stage := by
  constructor
  · intro h
    rcases fs.write_cases bytes path with hwritable | ⟨fault, hobstacle⟩
    · exact hwritable
    · cases hobstacle.answer_eq.symm.trans h
  · rintro ⟨stage, hleads, hwritable⟩
    exact answer_eq_of_writable hleads hwritable

/-- **A write fails iff there is an obstacle, and with the first.** -/
theorem writeFile_eq_error_iff {path : String} {fault : Fault} :
    (fs.writeFile path bytes).1 = .error fault ↔ fs.FirstObstacle bytes path fault := by
  constructor
  · intro h
    rcases fs.write_cases bytes path with ⟨stage, hleads, hwritable⟩ | ⟨other, hobstacle⟩
    · cases (answer_eq_of_writable hleads hwritable).symm.trans h
    · cases hobstacle.answer_eq.symm.trans h
      exact hobstacle
  · exact FirstObstacle.answer_eq

end FileSystem

end CartridgeFixture
