import CartridgeFixture.FileSystem.Arrange
import CartridgeFixture.Proofs.FileSystem.Obstacles

/-!
# Paths that are put together

A step of a walk uses the first component ahead, and of the others it asks only whether there are any. So it goes the
same way whatever else is ahead (`Step.behind`), and components that lead to a directory when they are walked alone
lead there in front of any others (`passes_of_resolve`): a link on their way is followed from where it lies, and what
is behind them starts at the directory that has really been reached.

Hence a path that starts in a directory leads where the path of that directory with the other behind it leads
(`destination_of_changeDirectory`). Only the limits see a difference, since the longer path is longer and its walk may
follow more links.
-/
namespace CartridgeFixture

open Relation (ReflTransGen)

/-! ## Texts -/

namespace Path

/-- A slash divides the components in front of it from those behind. -/
theorem componentsOf_append_slash (front back : List Char) :
    componentsOf (front ++ '/' :: back) = componentsOf front ++ componentsOf back := by
  unfold componentsOf
  rw [List.splitOn_append_cons_self, List.filter_append, List.map_append]

theorem componentsOf_ne_nil {text : List Char} (hne : text ≠ []) (hfirst : text.head? ≠ some '/') :
    componentsOf text ≠ [] := by
  obtain ⟨c, rest, rfl⟩ := List.exists_cons_of_ne_nil hne
  have hc : ¬ (c == '/') = true := by simpa using hfirst
  obtain ⟨first, others, hpieces⟩ := List.exists_cons_of_ne_nil (List.splitOnP_ne_nil (· == '/') rest)
  unfold componentsOf List.splitOn
  rw [List.splitOnP_cons_eq_if_modifyHead, if_neg hc, hpieces, List.modifyHead_cons, List.filter_cons_of_pos (by simp)]
  exact List.cons_ne_nil _ _

theorem toList_ne_nil {text : String} (h : text ≠ "") : text.toList ≠ [] :=
  fun hnil => h (String.toList_eq_nil_iff.mp hnil)

/-- A path that is not absolute has a component. -/
theorem components_ofText_ne_nil {text : String} (hne : text ≠ "") (hrelative : (ofText text).absolute = false) :
    (ofText text).components ≠ [] :=
  componentsOf_ne_nil (toList_ne_nil hne) (by simpa [ofText] using hrelative)

/-- **A path behind that of a directory** starts where the one starts, ends as the other ends, and has the components
of both. -/
theorem ofText_append_slash {directory path : String} (hdirectory : directory ≠ "") (hpath : path ≠ "") :
    ofText (directory ++ "/" ++ path) =
      ⟨(ofText directory).absolute, (ofText directory).components ++ (ofText path).components,
        (ofText path).slashAtEnd⟩ := by
  have htext : (directory ++ "/" ++ path).toList = directory.toList ++ '/' :: path.toList := by simp
  obtain ⟨first, front, hfront⟩ := List.exists_cons_of_ne_nil (toList_ne_nil hdirectory)
  obtain hnil | ⟨back, last, hback⟩ := List.eq_nil_or_concat path.toList
  · exact absurd hnil (toList_ne_nil hpath)
  have hhead : (directory ++ "/" ++ path).toList.head? = directory.toList.head? := by
    rw [htext, hfront, List.cons_append, List.head?_cons, List.head?_cons]
  have hlast : (directory ++ "/" ++ path).toList.getLast? = path.toList.getLast? := by
    rw [htext, hback, List.concat_eq_append, ← List.cons_append, ← List.append_assoc, List.getLast?_concat,
      List.getLast?_concat]
  unfold ofText
  rw [hhead, hlast, htext, componentsOf_append_slash]

end Path

namespace FileSystem
variable {fs : FileSystem}

/-! ## Walks in front of others -/

/-- **A step uses the first component ahead only.**  With others behind that one it goes the same way. -/
theorem Step.behind {n : Nat} {place : Place} {component : Component} {front back : List Component} {slash : Bool}
    {next : Stage} (hback : back ≠ []) (h : fs.Step ⟨n, place, component :: (front ++ back), slash⟩ next) :
    ∃ n' place' front', next = ⟨n', place', front' ++ back, slash⟩ ∧
      ∀ other slash', other ≠ [] →
        fs.Step ⟨n, place, component :: (front ++ other), slash'⟩ ⟨n', place', front' ++ other, slash'⟩ := by
  have hmore : ∀ {other : List Component}, other ≠ [] → front ++ other ≠ [] :=
    fun hother h => hother (List.append_eq_nil_iff.mp h).2
  cases h with
  | here => exact ⟨n, place, front, rfl, fun _ _ _ => .here⟩
  | up => exact ⟨n, place.parent, front, rfl, fun _ _ _ => .up⟩
  | enter _ h => exact ⟨n, _, front, rfl, fun _ _ hother => .enter (fun hlast => hmore hother hlast.1) h⟩
  | @follow _ _ name _ _ target _ h hlimit =>
    -- the target takes the place of the link, so it stands in front of the same components
    refine ⟨n + 1, if (Path.ofText target).absolute then .root else .existing place.location,
      (Path.ofText target).components ++ front, ?_, fun other slash' hother => ?_⟩
    · rw [if_neg (hmore hback), List.append_assoc]
    · have hstep : fs.Step ⟨n, place, .name name :: (front ++ other), slash'⟩ _ :=
        .follow (fun hlast => hmore hother hlast.1) h hlimit
      rwa [if_neg (hmore hother), ← List.append_assoc] at hstep

/-- **Components that lead to a directory**, from one place to another, in front of whatever else is ahead. -/
def Passes (fs : FileSystem) (n : Nat) (place : Place) (front : List Component) (n' : Nat) (last : Place) : Prop :=
  ∀ back slash, back ≠ [] → ReflTransGen fs.Step ⟨n, place, front ++ back, slash⟩ ⟨n', last, back, slash⟩

/-- What stands in the way as a directory is the place that has been reached, or has a slash behind it. -/
theorem Obstacle.nothing_ahead_or_slash {bytes : List UInt8} {stage : Stage}
    (h : fs.Obstacle bytes stage .isADirectory) : stage.route.ahead = [] ∨ stage.route.slashAtEnd = true := by
  cases h with
  | directory => exact Or.inl rfl
  | slashAtEnd => exact Or.inr rfl

/-- **What leads to a directory alone leads there in front of anything else.** -/
theorem passes_of_resolve {n : Nat} {place last : Place} {front : List Component}
    (h : fs.resolve (linkLimit - n) ⟨place, front ++ [.here], false⟩ = .ok (.directory last)) :
    ∃ n', fs.Passes n place front n' last := by
  generalize hstage : (⟨n, place, front ++ [.here], false⟩ : Stage) = stage
  induction stage using (step_wellFounded fs).induction generalizing n place front with
  | _ stage ih =>
    subst hstage
    cases front with
    | nil =>
      rw [List.nil_append, resolve_eq] at h
      cases h
      exact ⟨n, fun _ _ _ => .refl⟩
    | cons component front =>
      have hanswer : fs.answerFrom [] ⟨n, place, component :: (front ++ [.here]), false⟩ = .error .isADirectory := by
        rw [answerFrom]
        exact congrArg (·.bind (Target.answer [])) h
      rcases fs.stage_cases [] ⟨n, place, component :: (front ++ [.here]), false⟩ with
        ⟨next, hstep⟩ | hwritable | ⟨fault, hobstacle⟩
      · have hresolve := hstep.resolve_eq
        obtain ⟨n₁, place₁, front₁, rfl, hbehind⟩ := hstep.behind (List.cons_ne_nil _ _)
        obtain ⟨n', hpasses⟩ := ih _ hstep (hresolve.symm.trans h) rfl
        exact ⟨n', fun back slash hback => .head (hbehind back slash hback) (hpasses back slash hback)⟩
      · cases hwritable.answer_eq.symm.trans hanswer
      · cases hobstacle.answer_eq.symm.trans hanswer
        rcases hobstacle.nothing_ahead_or_slash with hnothing | hslash
        · cases hnothing
        · cases hslash

theorem Passes.resolve_eq {n n' : Nat} {place last : Place} {front : List Component}
    (h : fs.Passes n place front n' last) :
    fs.resolve (linkLimit - n) ⟨place, front ++ [.here], false⟩ = .ok (.directory last) := by
  have hwalk := resolve_eq_of_walk (h [.here] false (List.cons_ne_nil _ _))
  rw [hwalk, FileSystem.resolve_eq]
  rfl

/-- Links that are not needed make no difference. -/
theorem resolve_of_le {links more : Nat} {r : Route} (hle : links ≤ more)
    (h : fs.resolve links r ≠ .error .filesystemLoop) : fs.resolve more r = fs.resolve links r := by
  induction links generalizing more r with
  | zero =>
    rw [resolve_eq] at h
    rw [resolve_eq, resolve_eq fs 0]
    cases hstop : fs.advance r.place r.slashAtEnd r.ahead with
    | reached | blocked => rfl
    | link =>
      rw [hstop] at h
      exact absurd rfl h
  | succ links ih =>
    obtain ⟨more, rfl⟩ := Nat.exists_eq_add_of_le' (Nat.le_trans (Nat.le_add_left 1 links) hle)
    rw [resolve_eq] at h
    rw [resolve_eq, resolve_eq fs (links + 1)]
    cases hstop : fs.advance r.place r.slashAtEnd r.ahead with
    | reached | blocked => rfl
    | link =>
      rw [hstop] at h
      simp only [Stop.outcome] at h ⊢
      exact ih (Nat.le_of_succ_le_succ hle) h

/-! ## Changing the directory -/

/-- **A path within the limits**: it is not too long, and its walk never comes to a link when it has followed as many
as it may. -/
structure WithinLimits (fs : FileSystem) (path : String) : Prop where
  short : path.utf8ByteSize < pathLimit
  links : fs.destination path ≠ .error .filesystemLoop

section Moved
variable {moved : FileSystem}

theorem lookup_of_nodes (h : moved.nodes = fs.nodes) (place : Place) (name : String) :
    moved.lookup place name = fs.lookup place name := by
  unfold lookup node?
  rw [h]

/-- A walk goes through the nodes, wherever relative paths may start. -/
theorem advance_of_nodes (h : moved.nodes = fs.nodes) (slash : Bool) (components : List Component) (place : Place) :
    moved.advance place slash components = fs.advance place slash components := by
  induction components generalizing place with
  | nil => rfl
  | cons component rest ih =>
    cases component with
    | here => exact ih place
    | up => exact ih place.parent
    | name name =>
      rw [advance, advance, lookup_of_nodes h]
      simp only [ih]

theorem resolve_of_nodes (h : moved.nodes = fs.nodes) (links : Nat) (r : Route) :
    moved.resolve links r = fs.resolve links r := by
  induction links generalizing r with
  | zero => rw [resolve_eq, resolve_eq, advance_of_nodes h]
  | succ links ih =>
    rw [resolve_eq, resolve_eq, advance_of_nodes h]
    simp only [ih]

end Moved

theorem walkable_of_routeOf {path : String} {r : Route} (h : fs.routeOf path = .ok r) :
    Walkable path ∧ r = (Path.ofText path).route fs.current := by
  unfold routeOf at h
  split at h
  · cases h
  split at h
  · cases h
  split at h
  · cases h
  rename_i hnul hempty hlong
  refine ⟨⟨hnul, ?_, Nat.lt_of_not_le hlong⟩, (Except.ok.inj h).symm⟩
  rintro rfl
  exact hempty rfl

theorem directoryAt_eq_ok_iff {start place : Place} {components : List Component} :
    fs.directoryAt start components = .ok place ↔
      fs.resolve linkLimit ⟨start, components ++ [.here], false⟩ = .ok (.directory place) := by
  unfold directoryAt
  cases fs.resolve linkLimit ⟨start, components ++ [.here], false⟩ with
  | error fault =>
    constructor <;> intro h
    · cases h
    · cases h
  | ok target =>
    constructor <;> intro h
    · cases target with
      | directory => exact congrArg (fun place => Except.ok (Target.directory place)) (Except.ok.inj h)
      | vacant | file | device => cases h
    · cases h
      rfl

/-- **A path that leads to a directory**: it can be walked, and so its components lead there, whatever is behind. -/
def LeadsToDirectory (fs : FileSystem) (directory : String) (place : Place) : Prop :=
  let route := (Path.ofText directory).route fs.current
  Walkable directory ∧ ∃ n, fs.Passes 0 route.place route.ahead n place

theorem changeDirectory_of_walkable {directory : String} (h : Walkable directory) :
    fs.changeDirectory directory =
      (fs.directoryAt ((Path.ofText directory).route fs.current).place
        ((Path.ofText directory).route fs.current).ahead).map fun place => { fs with current := place } := by
  unfold changeDirectory
  rw [routeOf_of_walkable h]
  rfl

/-- **A path that leads to a directory can be made the current one**, and no other path can. Nothing else changes. -/
theorem changeDirectory_eq_ok_iff {moved : FileSystem} {directory : String} :
    fs.changeDirectory directory = .ok moved ↔
      ∃ place, fs.LeadsToDirectory directory place ∧ moved = { fs with current := place } := by
  constructor
  · intro h
    have hwalkable : Walkable directory := by
      unfold changeDirectory at h
      cases hroute : fs.routeOf directory with
      | error fault =>
        rw [hroute] at h
        cases h
      | ok route => exact (walkable_of_routeOf hroute).1
    rw [changeDirectory_of_walkable hwalkable] at h
    cases hplace : fs.directoryAt ((Path.ofText directory).route fs.current).place
        ((Path.ofText directory).route fs.current).ahead with
    | error fault =>
      rw [hplace] at h
      cases h
    | ok place =>
      rw [hplace] at h
      exact ⟨place, ⟨hwalkable, passes_of_resolve (directoryAt_eq_ok_iff.mp hplace)⟩, (Except.ok.inj h).symm⟩
  · rintro ⟨place, ⟨hwalkable, n, hpasses⟩, rfl⟩
    rw [changeDirectory_of_walkable hwalkable, directoryAt_eq_ok_iff.mpr hpasses.resolve_eq]
    rfl

/-- **A path that starts in a directory leads where it leads behind the path of that directory.** -/
theorem destination_of_changeDirectory {moved : FileSystem} {directory path : String}
    (hmoved : fs.changeDirectory directory = .ok moved) (hpath : path ≠ "")
    (hrelative : (Path.ofText path).absolute = false) (hwithin : fs.WithinLimits (directory ++ "/" ++ path)) :
    moved.destination path = fs.destination (directory ++ "/" ++ path) := by
  obtain ⟨place, ⟨hdirectory, n, hpasses⟩, rfl⟩ := changeDirectory_eq_ok_iff.mp hmoved
  have hsize : (directory ++ "/" ++ path).utf8ByteSize = directory.utf8ByteSize + 1 + path.utf8ByteSize := by
    rw [String.utf8ByteSize_append, String.utf8ByteSize_append]
    rfl
  by_cases hnul : '\x00' ∈ path.toList
  · have hnul' : '\x00' ∈ (directory ++ "/" ++ path).toList := by simp [hnul]
    rw [destination, destination, routeOf, routeOf, if_pos hnul, if_pos hnul']
    rfl
  have hshort := hwithin.short
  have hwalkable : Walkable path := ⟨hnul, hpath, by omega⟩
  have hjoined : Walkable (directory ++ "/" ++ path) := ⟨by simp [hnul, hdirectory.noNul], by simp [hpath], hshort⟩
  -- the walk of the longer path comes to the directory with some links followed, and the shorter path ahead
  have hwalk := resolve_eq_of_walk
    (hpasses _ (Path.ofText path).slashAtEnd (Path.components_ofText_ne_nil hpath hrelative))
  have hinside : ({ fs with current := place } : FileSystem).destination path =
      fs.resolve linkLimit ⟨place, (Path.ofText path).components, (Path.ofText path).slashAtEnd⟩ := by
    have hnodes : ({ fs with current := place } : FileSystem).nodes = fs.nodes := rfl
    rw [destination_of_walkable hwalkable, resolve_of_nodes hnodes, Path.route, hrelative]
    rfl
  have houtside : fs.destination (directory ++ "/" ++ path) =
      fs.resolve (linkLimit - n) ⟨place, (Path.ofText path).components, (Path.ofText path).slashAtEnd⟩ := by
    rw [destination_of_walkable hjoined, Path.ofText_append_slash hdirectory.nonempty hpath]
    exact hwalk
  rw [hinside, houtside]
  exact resolve_of_le (Nat.sub_le linkLimit n) (houtside ▸ hwithin.links)

end FileSystem

end CartridgeFixture
