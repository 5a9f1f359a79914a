import Mathlib.Data.List.Infix

/-!
# How often a word stands in a text

Occurrences of a word are counted from left to right, and none may overlap the one before. A character that the word
does not have divides a text: no occurrence reaches over it, so those in front of it and those behind it add up
(`occurrences_append_cons`). A word does not stand in a text iff it is counted there no time
(`occurrences_eq_zero_iff`).
-/
namespace CartridgeFixture.Text

/-- How often a word stands in a text of which the first `skip` characters belong to an occurrence already counted. -/
def occurrencesFrom (word : List Char) : Nat → List Char → Nat
  | _, [] => 0
  | skip + 1, _ :: rest => occurrencesFrom word skip rest
  | 0, c :: rest =>
    if word <+: c :: rest then occurrencesFrom word (word.length - 1) rest + 1 else occurrencesFrom word 0 rest

/-- **How often a word stands in a text**, from left to right and without overlaps. -/
def occurrences (word text : List Char) : Nat := occurrencesFrom word 0 text

variable {word text front back rest : List Char} {separator c : Char}

@[simp] theorem occurrences_nil : occurrences word [] = 0 := rfl

theorem occurrences_cons_of_begins (h : word <+: c :: rest) :
    occurrences word (c :: rest) = occurrencesFrom word (word.length - 1) rest + 1 := if_pos h

theorem occurrences_cons_of_not_begins (h : ¬ word <+: c :: rest) :
    occurrences word (c :: rest) = occurrences word rest := if_neg h

/-! ## Separators -/

/-- What a text begins with does not reach over a character that it does not have. -/
theorem prefix_of_notMem (hword : separator ∉ word) (h : word <+: front ++ separator :: back) : word <+: front := by
  have hseparator : front ++ [separator] <+: front ++ separator :: back := ⟨back, (List.append_cons ..).symm⟩
  rcases List.prefix_or_prefix_of_prefix h hseparator with hshort | hlong
  · rcases List.prefix_concat_iff.mp hshort with rfl | hfront
    · exact absurd (List.mem_append_right _ (List.mem_singleton_self _)) hword
    · exact hfront
  · exact absurd (hlong.subset (List.mem_append_right _ (List.mem_singleton_self _))) hword

theorem occurrencesFrom_append_cons (hne : word ≠ []) (hword : separator ∉ word) {skip : Nat}
    (hskip : skip ≤ front.length) :
    occurrencesFrom word skip (front ++ separator :: back) =
      occurrencesFrom word skip front + occurrences word back := by
  induction front generalizing skip with
  | nil =>
    obtain rfl : skip = 0 := Nat.le_zero.mp hskip
    have hnone : ¬ word <+: separator :: back := by
      intro h
      have hempty : word <+: [] := prefix_of_notMem hword h
      exact hne (List.prefix_nil.mp hempty)
    exact (occurrences_cons_of_not_begins hnone).trans (Nat.zero_add _).symm
  | cons c front ih =>
    cases skip with
    | succ skip => exact ih (Nat.le_of_succ_le_succ hskip)
    | zero =>
      change occurrences word (c :: (front ++ separator :: back)) = occurrences word (c :: front) + _
      by_cases h : word <+: c :: front
      · -- an occurrence that begins in front of the separator ends there, too
        have hlength : word.length - 1 ≤ front.length := by
          have hle := h.length_le
          rw [List.length_cons] at hle
          omega
        have hlong : word <+: c :: (front ++ separator :: back) := h.trans (List.prefix_append (c :: front) _)
        rw [occurrences_cons_of_begins h, occurrences_cons_of_begins hlong, ih hlength]
        omega
      · have hnone : ¬ word <+: c :: (front ++ separator :: back) :=
          fun hlong => h (prefix_of_notMem hword hlong)
        rw [occurrences_cons_of_not_begins h, occurrences_cons_of_not_begins hnone]
        exact ih (Nat.zero_le _)

/-- **A character that the word does not have divides the text.** -/
theorem occurrences_append_cons (hne : word ≠ []) (hword : separator ∉ word) (front back : List Char) :
    occurrences word (front ++ separator :: back) = occurrences word front + occurrences word back :=
  occurrencesFrom_append_cons hne hword (Nat.zero_le _)

/-! ## None and one -/

theorem occurrencesFrom_of_length_le {skip : Nat} (h : text.length ≤ skip) : occurrencesFrom word skip text = 0 := by
  induction text generalizing skip with
  | nil => rfl
  | cons c rest ih =>
    cases skip with
    | zero => cases h
    | succ skip => exact ih (Nat.le_of_succ_le_succ h)

/-- A word stands once in itself. -/
theorem occurrences_self (hne : word ≠ []) : occurrences word word = 1 := by
  cases word with
  | nil => exact absurd rfl hne
  | cons c rest =>
    rw [occurrences_cons_of_begins (List.prefix_refl _), List.length_cons, Nat.add_sub_cancel,
      occurrencesFrom_of_length_le (Nat.le_refl _)]

/-- **A word does not stand in a text iff it is counted there no time.** -/
theorem occurrences_eq_zero_iff (hne : word ≠ []) : occurrences word text = 0 ↔ ¬ word <:+: text := by
  induction text with
  | nil => simpa using hne
  | cons c rest ih =>
    rw [List.infix_cons_iff, not_or]
    by_cases h : word <+: c :: rest
    · rw [occurrences_cons_of_begins h]
      exact ⟨fun hzero => absurd hzero (Nat.succ_ne_zero _), fun hnot => absurd h hnot.1⟩
    · rw [occurrences_cons_of_not_begins h, ih]
      exact (and_iff_right h).symm

/-- Occurrences do not overlap. -/
example : occurrences "aa".toList "aaaaa b aa".toList = 3 := by decide

end CartridgeFixture.Text
