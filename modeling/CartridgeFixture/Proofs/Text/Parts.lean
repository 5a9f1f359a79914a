import CartridgeFixture.Text.Blank
import Mathlib.Data.List.TakeWhile

/-!
# The parts of a text

Bars divide a text into parts, and blanks around a part do not belong to it. The other way round, a text is a **row**
of parts if it has them in this order with blanks around each and bars between. If they are words, in which neither
blanks nor bars stand, then the row has these parts and no others (`row_iff_parts_eq`); words joined by ` | ` are such
a row (`parts_joined`).
-/
namespace CartridgeFixture.Text

/-- The parts of a text, from left to right. -/
def parts (text : List Char) : List (List Char) := (text.splitOn '|').map trim

/-- A text that has no blank and no bar in it, and is not empty. -/
structure Word (text : List Char) : Prop where
  nonempty : text ≠ []
  solid : ∀ c ∈ text, isBlank c = false ∧ c ≠ '|'

instance (text : List Char) : Decidable (Word text) :=
  decidable_of_iff (text ≠ [] ∧ text.all (fun c => isBlank c = false ∧ c ≠ '|') = true)
    ⟨fun h => ⟨h.1, by simpa using h.2⟩, fun h => ⟨h.nonempty, by simpa using h.solid⟩⟩

/-- A text with blanks around it. -/
def Padded (inner piece : List Char) : Prop :=
  ∃ before after : List Char, (∀ c ∈ before, isBlank c = true) ∧ (∀ c ∈ after, isBlank c = true) ∧
    piece = before ++ inner ++ after

/-- A text that has the given parts, with blanks around each of them and bars between. -/
inductive Row : List (List Char) → List Char → Prop
  | last {part piece : List Char} (h : Padded part piece) : Row [part] piece
  | cons {part piece : List Char} {parts : List (List Char)} {text : List Char} (h : Padded part piece)
      (hrest : Row parts text) : Row (part :: parts) (piece ++ '|' :: text)

/-! ## Blanks -/

theorem ne_bar_of_isBlank {c : Char} (h : isBlank c = true) : c ≠ '|' := by
  rintro rfl
  cases h

theorem dropWhile_isBlank_word {word : List Char} (h : Word word) (after : List Char) :
    (word ++ after).dropWhile isBlank = word ++ after := by
  cases word with
  | nil => exact absurd rfl h.nonempty
  | cons c rest =>
    have hc := (h.solid c (List.mem_cons_self ..)).1
    rw [List.cons_append, List.dropWhile_cons_of_neg (by simp [hc])]

theorem Word.reverse {word : List Char} (h : Word word) : Word word.reverse where
  nonempty := by simpa using h.nonempty
  solid := fun c hc => h.solid c (List.mem_reverse.mp hc)

/-- Blanks at both ends are taken off, and nothing else. -/
theorem trim_of_padded {word piece : List Char} (h : Word word) (hpadded : Padded word piece) : trim piece = word := by
  obtain ⟨before, after, hbefore, hafter, rfl⟩ := hpadded
  have hfront : (before ++ word ++ after).dropWhile isBlank = word ++ after := by
    rw [List.append_assoc, List.dropWhile_append_of_pos hbefore, dropWhile_isBlank_word h]
  have hback : (word ++ after).reverse.dropWhile isBlank = word.reverse := by
    rw [List.reverse_append, List.dropWhile_append_of_pos (by simpa using hafter)]
    have hword := dropWhile_isBlank_word h.reverse []
    rwa [List.append_nil] at hword
  rw [trim, hfront, hback, List.reverse_reverse]

theorem padded_trim (text : List Char) : Padded (trim text) text := by
  have hblank : ∀ (row : List Char), ∀ c ∈ row.takeWhile isBlank, isBlank c = true :=
    fun row c hc => List.mem_takeWhile_imp hc
  refine ⟨text.takeWhile isBlank, ((text.dropWhile isBlank).reverse.takeWhile isBlank).reverse, hblank text, ?_, ?_⟩
  · intro c hc
    exact hblank _ c (List.mem_reverse.mp hc)
  · rw [trim, List.append_assoc, ← List.reverse_append, List.takeWhile_append_dropWhile, List.reverse_reverse,
      List.takeWhile_append_dropWhile]

theorem trim_eq_nil_of_blank {text : List Char} (h : ∀ c ∈ text, isBlank c = true) : trim text = [] := by
  have hdrop : text.dropWhile isBlank = [] := List.dropWhile_eq_nil_iff.mpr h
  rw [trim, hdrop]
  rfl

theorem bar_notMem_of_padded {word piece : List Char} (h : Word word) (hpadded : Padded word piece) :
    '|' ∉ piece := by
  obtain ⟨before, after, hbefore, hafter, rfl⟩ := hpadded
  intro hmem
  rcases List.mem_append.mp hmem with hmem | hmem
  · rcases List.mem_append.mp hmem with hmem | hmem
    · exact ne_bar_of_isBlank (hbefore _ hmem) rfl
    · exact (h.solid _ hmem).2 rfl
  · exact ne_bar_of_isBlank (hafter _ hmem) rfl

/-! ## Bars -/

theorem parts_of_notMem {text : List Char} (h : '|' ∉ text) : parts text = [trim text] := by
  rw [parts, List.splitOn_eq_singleton h, List.map_singleton]

/-- A bar divides the parts in front of it from those behind. -/
theorem parts_append_bar (front back : List Char) : parts (front ++ '|' :: back) = parts front ++ parts back := by
  rw [parts, List.splitOn_append_cons_self, List.map_append, parts, parts]

theorem parts_of_padded {word piece : List Char} (h : Word word) (hpadded : Padded word piece) :
    parts piece = [word] := by
  rw [parts_of_notMem (bar_notMem_of_padded h hpadded), trim_of_padded h hpadded]

theorem parts_of_blank {text : List Char} (h : ∀ c ∈ text, isBlank c = true) : parts text = [[]] := by
  rw [parts_of_notMem fun hmem => ne_bar_of_isBlank (h _ hmem) rfl, trim_eq_nil_of_blank h]

/-! ## Rows -/

/-- Pieces with bars between them are a row of what is left of each without its blanks. -/
theorem row_intercalate {pieces : List (List Char)} (hne : pieces ≠ []) :
    Row (pieces.map trim) (['|'].intercalate pieces) := by
  induction pieces with
  | nil => exact absurd rfl hne
  | cons piece rest ih =>
    cases rest with
    | nil =>
      rw [List.intercalate_singleton]
      exact .last (padded_trim piece)
    | cons next rest =>
      have htext : ['|'].intercalate (piece :: next :: rest) = piece ++ '|' :: ['|'].intercalate (next :: rest) := by
        rw [List.intercalate_cons_cons, List.append_assoc, List.singleton_append]
      rw [htext]
      exact .cons (padded_trim piece) (ih (List.cons_ne_nil _ _))

/-- **A row of words has these parts and no others.** -/
theorem row_iff_parts_eq {words : List (List Char)} {text : List Char} (h : ∀ word ∈ words, Word word) :
    Row words text ↔ parts text = words := by
  constructor
  · intro hrow
    induction hrow with
    | last hpadded => exact parts_of_padded (h _ (List.mem_cons_self ..)) hpadded
    | cons hpadded _ ih =>
      have hfirst := parts_of_padded (h _ (List.mem_cons_self ..)) hpadded
      rw [parts_append_bar, hfirst, ih fun word hword => h word (List.mem_cons_of_mem _ hword)]
      rfl
  · rintro rfl
    have hrow := row_intercalate (List.splitOn_ne_nil '|' text)
    rwa [List.intercalate_splitOn] at hrow

theorem row_joined {words : List (List Char)} (hne : words ≠ []) {before : List Char}
    (hbefore : ∀ c ∈ before, isBlank c = true) : Row words (before ++ [' ', '|', ' '].intercalate words) := by
  induction words generalizing before with
  | nil => exact absurd rfl hne
  | cons word rest ih =>
    cases rest with
    | nil => exact .last ⟨before, [], hbefore, by simp, by simp⟩
    | cons next rest =>
      have hblank : ∀ c ∈ [' '], isBlank c = true := List.all_eq_true.mp rfl
      have htext : before ++ [' ', '|', ' '].intercalate (word :: next :: rest) =
          (before ++ word ++ [' ']) ++ '|' :: ([' '] ++ [' ', '|', ' '].intercalate (next :: rest)) := by
        rw [List.intercalate_cons_cons]
        simp
      rw [htext]
      exact .cons ⟨before, [' '], hbefore, hblank, rfl⟩ (ih (List.cons_ne_nil _ _) hblank)

/-- **Words that are joined by bars with a blank on either side are the parts.** -/
theorem parts_joined {words : List (List Char)} (hne : words ≠ []) (h : ∀ word ∈ words, Word word) :
    parts ([' ', '|', ' '].intercalate words) = words :=
  (row_iff_parts_eq h).mp (row_joined hne (by simp : ∀ c ∈ [], isBlank c = true))

theorem eq_nil_of_joined {words : List (List Char)} (h : ∀ word ∈ words, Word word)
    (hjoined : [' ', '|', ' '].intercalate words = []) : words = [] := by
  by_contra hne
  have hparts := parts_joined hne h
  rw [hjoined, parts_of_blank (by simp)] at hparts
  exact (h [] (hparts ▸ List.mem_cons_self ..)).nonempty rfl

end CartridgeFixture.Text
