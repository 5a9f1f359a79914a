/-!
# Finite maps

A finite map is a list of entries with distinct keys. What it holds under a key is `get?`; each operation is
described by what it does to `get?` (`get?_insert`, `get?_filter`), and the entries are exactly the bindings
(`mem_entries`). Entries keep the order in which their keys were first bound.
-/
namespace CartridgeFixture

/-- A finite map: entries with distinct keys. -/
structure FiniteMap (α β : Type) where
  entries : List (α × β)
  distinct : (entries.map Prod.fst).Nodup

namespace FiniteMap
variable {α β : Type} [DecidableEq α]

/-- The map without entries. -/
def empty : FiniteMap α β := ⟨[], List.nodup_nil⟩

/-- The value of the first entry of a key. -/
def find : List (α × β) → α → Option β
  | [], _ => none
  | (k, v) :: rest, a => if k = a then some v else find rest a

/-- Changes the entry of a key, or adds one at the end. -/
def put (a : α) (b : β) : List (α × β) → List (α × β)
  | [] => [(a, b)]
  | (k, v) :: rest => if k = a then (a, b) :: rest else (k, v) :: put a b rest

theorem mem_keys_put {a x : α} {b : β} {l : List (α × β)} :
    x ∈ (put a b l).map Prod.fst ↔ x = a ∨ x ∈ l.map Prod.fst := by
  induction l with
  | nil => simp [put]
  | cons e rest ih =>
    obtain ⟨k, v⟩ := e
    by_cases h : k = a
    · simp [put, h]
    · rw [put, if_neg h, List.map_cons, List.mem_cons, ih, List.map_cons, List.mem_cons]
      exact ⟨fun h => h.elim (fun h => .inr (.inl h)) (fun h => h.imp id .inr),
        fun h => h.elim (fun h => .inr (.inl h)) (fun h => h.imp id .inr)⟩

theorem nodup_put {a : α} {b : β} {l : List (α × β)} (h : (l.map Prod.fst).Nodup) :
    ((put a b l).map Prod.fst).Nodup := by
  induction l with
  | nil => simp [put]
  | cons e rest ih =>
    obtain ⟨k, v⟩ := e
    rw [List.map_cons, List.nodup_cons] at h
    by_cases hk : k = a
    · subst hk
      rw [put, if_pos rfl, List.map_cons, List.nodup_cons]
      exact h
    · rw [put, if_neg hk, List.map_cons, List.nodup_cons]
      exact ⟨fun hm => (mem_keys_put.mp hm).elim hk h.1, ih h.2⟩

/-- The value bound to a key. -/
def get? (m : FiniteMap α β) (a : α) : Option β := find m.entries a

/-- Binds a key to a value, in place of the one it had. -/
def insert (m : FiniteMap α β) (a : α) (b : β) : FiniteMap α β :=
  ⟨put a b m.entries, nodup_put m.distinct⟩

/-- Keeps the entries whose key passes a test. -/
def filter (m : FiniteMap α β) (keep : α → Bool) : FiniteMap α β :=
  ⟨m.entries.filter fun e => keep e.1, m.distinct.sublist (List.filter_sublist.map _)⟩

theorem find_put {a x : α} {b : β} {l : List (α × β)} :
    find (put a b l) x = if x = a then some b else find l x := by
  induction l with
  | nil => simp [put, find, eq_comm]
  | cons e rest ih =>
    obtain ⟨k, v⟩ := e
    by_cases h : k = a
    · subst h
      simp only [put, if_pos, find]
      by_cases hx : x = k
      · simp [hx]
      · simp [hx, Ne.symm hx]
    · simp only [put, if_neg h, find, ih]
      by_cases hx : k = x
      · subst hx
        simp [h]
      · simp [hx]

@[simp] theorem get?_empty (a : α) : (empty : FiniteMap α β).get? a = none := rfl

theorem get?_insert (m : FiniteMap α β) (a x : α) (b : β) :
    (m.insert a b).get? x = if x = a then some b else m.get? x := find_put

theorem find_filter {keep : α → Bool} {l : List (α × β)} {x : α} :
    find (l.filter fun e => keep e.1) x = if keep x then find l x else none := by
  induction l with
  | nil => simp [find]
  | cons e rest ih =>
    obtain ⟨k, v⟩ := e
    by_cases hk : k = x
    · subst hk
      by_cases h : keep k <;> simp_all [find]
    · by_cases h : keep k <;> simp_all [find]

theorem get?_filter (m : FiniteMap α β) (keep : α → Bool) (x : α) :
    (m.filter keep).get? x = if keep x then m.get? x else none := find_filter

theorem mem_iff_find {l : List (α × β)} (h : (l.map Prod.fst).Nodup) {a : α} {b : β} :
    (a, b) ∈ l ↔ find l a = some b := by
  induction l with
  | nil => simp [find]
  | cons e rest ih =>
    obtain ⟨k, v⟩ := e
    rw [List.map_cons, List.nodup_cons] at h
    by_cases hk : k = a
    · subst hk
      simp only [List.mem_cons, Prod.mk.injEq, true_and, find, if_pos, Option.some.injEq]
      exact ⟨fun hm => hm.elim Eq.symm fun hm => absurd (List.mem_map_of_mem hm) h.1,
        fun hv => .inl hv.symm⟩
    · simp only [List.mem_cons, Prod.mk.injEq, find, if_neg hk, ← ih h.2]
      exact ⟨fun hm => hm.elim (fun hm => absurd hm.1.symm hk) id, .inr⟩

/-- The entries are the bindings. -/
theorem mem_entries (m : FiniteMap α β) {a : α} {b : β} :
    (a, b) ∈ m.entries ↔ m.get? a = some b := mem_iff_find m.distinct

end FiniteMap

end CartridgeFixture
