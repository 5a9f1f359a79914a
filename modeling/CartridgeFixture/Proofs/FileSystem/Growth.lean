import CartridgeFixture.FileSystem.Write

/-!
# Growing file systems

Writing a file changes no directory, no link and no device, and takes no entry away. All it may do to the entries
is to put a new file under a free name. A file system **grows** (`Grows`) when this happens any number of times.

A walk passes directories and links only, so it goes the same way in the grown system, and what it comes to can
differ in two ways only (`Becomes`): the free name it led to may have been taken by a new file, and a name that was
missing on its way may now be a file that is in the way. From this it follows which paths can be written to, and
which entries a write through a path reaches, before and after any growth.
-/
namespace CartridgeFixture

/-- What a target has to be in the file system that it was found in. -/
def Target.Sound (fs : FileSystem) : Target → Prop
  | .directory _ => True
  | .vacant location => location ≠ [] ∧ fs.node? location = none
  | .file number => ∃ location, fs.node? location = some (.file number)
  | .device kind => ∃ location, fs.node? location = some (.device kind)

/-- The outcome of a walk that has come to a stop, given its outcome behind each link. -/
def Stop.outcome (behind : Location → String → List Component → Except Fault Target) :
    Stop → Except Fault Target
  | .reached target => .ok target
  | .blocked fault => .error fault
  | .link location target ahead => behind location target ahead

namespace FileSystem

/-- A walk goes on behind a link if it may follow one more. -/
theorem resolve_eq (fs : FileSystem) (links : Nat) (r : Route) :
    fs.resolve links r = (fs.advance r.place r.slashAtEnd r.ahead).outcome fun location target ahead =>
      match links with
      | 0 => .error .filesystemLoop
      | links + 1 => fs.resolve links (follow r location target ahead) := by
  rw [resolve]
  cases fs.advance r.place r.slashAtEnd r.ahead <;> rfl

/-! ## What a walk leads to -/

section Soundness
variable {fs : FileSystem}

theorem node?_of_lookup {place : Place} {name : String} {found : Option Node}
    (h : fs.lookup place name = .ok found) : fs.node? (name :: place.location) = found := by
  unfold lookup at h
  split at h
  · cases h
  · split at h
    · cases h
    · exact Except.ok.inj h

theorem reached_of_stopIfLast {rest : List Component} {target found : Target} {otherwise : Fault}
    (h : stopIfLast rest target otherwise = .reached found) : target = found := by
  unfold stopIfLast at h
  split at h
  · exact Stop.reached.inj h
  · cases h

theorem advance_sound {place : Place} {slashAtEnd : Bool} {components : List Component} {target : Target}
    (h : fs.advance place slashAtEnd components = .reached target) : target.Sound fs := by
  fun_induction advance fs place slashAtEnd components with
  | case1 => cases h; trivial
  | case2 _ _ ih => exact ih h
  | case3 _ _ ih => exact ih h
  | case4 => cases h
  | case5 => cases h
  -- what is not a directory can only be reached by the last component, and by looking it up
  | case6 _ _ _ _ hfound =>
    cases reached_of_stopIfLast h
    exact ⟨List.cons_ne_nil _ _, node?_of_lookup hfound⟩
  | case7 _ _ _ _ _ ih => exact ih h
  | case8 _ _ _ _ _ hfound =>
    cases reached_of_stopIfLast h
    exact ⟨_, node?_of_lookup hfound⟩
  | case9 _ _ _ _ _ hfound =>
    cases reached_of_stopIfLast h
    exact ⟨_, node?_of_lookup hfound⟩
  | case10 => cases h

theorem resolve_sound {links : Nat} {r : Route} {target : Target}
    (h : fs.resolve links r = .ok target) : target.Sound fs := by
  fun_induction resolve fs links r with
  | case1 _ _ _ hstop => cases h; exact advance_sound hstop
  | case2 => cases h
  | case3 => cases h
  | case4 _ _ _ _ _ _ ih => exact ih h

/-- **What a path leads to is there**: a file or device has a name, and a free name is free. -/
theorem destination_sound {path : String} {target : Target}
    (h : fs.destination path = .ok target) : target.Sound fs := by
  unfold destination at h
  cases hroute : fs.routeOf path with
  | error fault => rw [hroute] at h; cases h
  | ok route => rw [hroute] at h; exact resolve_sound h

end Soundness

/-! ## Growth -/

/-- `after` holds all that `before` holds, and perhaps new files under names that were free. The number of a new
file is that of no other entry. -/
structure Grows (before after : FileSystem) : Prop where
  current : after.current = before.current
  kept : ∀ {location node}, before.node? location = some node → after.node? location = some node
  added : ∀ {location node}, before.node? location = none → after.node? location = some node →
    ∃ number, node = .file number ∧ ∀ other, after.node? other = some (.file number) → other = location

/-- What the outcome of a walk can be once the file system has grown. -/
inductive Becomes (after : FileSystem) : Except Fault Target → Except Fault Target → Prop
  | same (outcome : Except Fault Target) : Becomes after outcome outcome
  /-- The free name has been taken by a file. -/
  | taken {location : Location} {number : Nat} (h : after.node? location = some (.file number)) :
      Becomes after (.ok (.vacant location)) (.ok (.file number))
  /-- A missing name on the way is a file now. -/
  | inTheWay : Becomes after (.error .notFound) (.error .notADirectory)

/-- The same for a walk that stops at links. -/
inductive StopBecomes (after : FileSystem) : Stop → Stop → Prop
  | same (stop : Stop) : StopBecomes after stop stop
  | taken {location : Location} {number : Nat} (h : after.node? location = some (.file number)) :
      StopBecomes after (.reached (.vacant location)) (.reached (.file number))
  | inTheWay : StopBecomes after (.blocked .notFound) (.blocked .notADirectory)

/-- The outcome is the same too, if it is the same behind every link. -/
theorem StopBecomes.outcome {after : FileSystem} {old new : Stop} (h : StopBecomes after old new)
    {behind behind' : Location → String → List Component → Except Fault Target}
    (hbehind : ∀ location target ahead, Becomes after (behind location target ahead) (behind' location target ahead)) :
    Becomes after (old.outcome behind) (new.outcome behind') := by
  cases h with
  | same =>
    cases old with
    | reached | blocked => exact .same _
    | link location target ahead => exact hbehind location target ahead
  | taken hfile => exact .taken hfile
  | inTheWay => exact .inTheWay

namespace Grows
variable {before middle after : FileSystem}

theorem refl (fs : FileSystem) : Grows fs fs where
  current := rfl
  kept := id
  added := fun hnone hsome => by rw [hnone] at hsome; cases hsome

theorem trans (first : Grows before middle) (second : Grows middle after) : Grows before after where
  current := second.current.trans first.current
  kept := fun h => second.kept (first.kept h)
  added := by
    intro location node hnone hsome
    cases hmid : middle.node? location with
    | none => exact second.added hmid hsome
    | some node' =>
      obtain ⟨number, rfl, honly⟩ := first.added hnone hmid
      cases (second.kept hmid).symm.trans hsome
      refine ⟨number, rfl, fun other hother => ?_⟩
      -- a second name of the file would have to be old or new in the second step, and is neither
      cases hold : middle.node? other with
      | some node'' =>
        cases (second.kept hold).symm.trans hother
        exact honly other hold
      | none =>
        obtain ⟨number', heq, honly'⟩ := second.added hold hother
        cases heq
        exact (honly' location hsome).symm

/-! ## Walks in a grown file system -/

theorem lookup (g : Grows before after) (place : Place) (name : String) :
    after.lookup place name = before.lookup place name ∨
      before.lookup place name = .ok none ∧
        ∃ number, after.lookup place name = .ok (some (.file number)) ∧
          after.node? (name :: place.location) = some (.file number) := by
  unfold FileSystem.lookup
  split
  · exact Or.inl rfl
  · split
    · exact Or.inl rfl
    · cases hold : before.node? (name :: place.location) with
      | some node => exact Or.inl (by rw [g.kept hold])
      | none =>
        cases hnew : after.node? (name :: place.location) with
        | none => exact Or.inl rfl
        | some node =>
          obtain ⟨number, rfl, -⟩ := g.added hold hnew
          exact Or.inr ⟨rfl, number, rfl, rfl⟩

theorem advance (g : Grows before after) (slashAtEnd : Bool) (components : List Component) (place : Place) :
    StopBecomes after (before.advance place slashAtEnd components)
      (after.advance place slashAtEnd components) := by
  induction components generalizing place with
  | nil => exact .same _
  | cons component rest ih =>
    cases component with
    | here => exact ih place
    | up => exact ih place.parent
    | name name =>
      rw [FileSystem.advance, FileSystem.advance]
      split
      · exact .same _
      · rcases g.lookup place name with heq | ⟨hold, number, hnew, hnode⟩
        · rw [heq]
          split
          -- the walk goes on in a directory only
          case h_3 => exact ih _
          all_goals exact .same _
        · rw [hold, hnew]
          simp only [stopIfLast]
          split
          · exact .taken hnode
          · exact .inTheWay

theorem resolve (g : Grows before after) (links : Nat) (r : Route) :
    Becomes after (before.resolve links r) (after.resolve links r) := by
  induction links generalizing r with
  | zero =>
    rw [resolve_eq, resolve_eq]
    exact (g.advance r.slashAtEnd r.ahead r.place).outcome fun _ _ _ => .same _
  | succ links ih =>
    rw [resolve_eq, resolve_eq]
    exact (g.advance r.slashAtEnd r.ahead r.place).outcome fun _ _ _ => ih _

/-- **What growth does to the outcome of a path.** -/
theorem destination (g : Grows before after) (path : String) :
    Becomes after (before.destination path) (after.destination path) := by
  have hroute : after.routeOf path = before.routeOf path := by
    unfold routeOf
    rw [g.current]
  unfold FileSystem.destination
  rw [hroute]
  cases before.routeOf path with
  | error fault => exact .same _
  | ok route => exact g.resolve linkLimit route

end Grows

end FileSystem

end CartridgeFixture
