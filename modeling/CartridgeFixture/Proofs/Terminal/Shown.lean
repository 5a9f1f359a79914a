import CartridgeFixture.Proofs.Text.Numeral
import CartridgeFixture.Terminal.ControlSequence
import CartridgeFixture.Terminal.Style

/-!
# What a terminal is shown

A character is kept only where a terminal would show it, and in no phase does a terminal show a character that it would
not show outside of sequences. So a text without its control sequences holds no escape character, whatever sequences it
held, complete or broken off (`escapeChar_notMem_plain`), and nothing more can be taken out of it (`plain_plain`).

An escape character opens a sequence from anywhere, and so it parts a text: what is shown in front of it does not depend
on what stands behind (`shown_append_escape`). A text between the sequences that select styles is therefore shown as it
would be shown alone, even if it ends within a sequence of its own. This is said of a text with any other behind it
(`ShownAs`), and so it holds of texts that are put together.
-/
namespace CartridgeFixture.Terminal

/-- Whether every character of a text is shown. -/
def isClean (text : List Char) : Bool := text.all Phase.ground.shows

namespace Phase
variable {p : Phase} {c : Char}

/-- Within a sequence no more is shown than outside. -/
theorem ground_shows (h : p.shows c = true) : ground.shows c = true := by
  rw [shows, Bool.or_eq_true, Bool.and_eq_true, Bool.and_eq_true] at h
  rw [shows, Bool.or_eq_true, Bool.and_eq_true, Bool.and_eq_true]
  rcases h with ⟨-, hprinted⟩ | ⟨-, hblank⟩
  · exact Or.inl ⟨rfl, hprinted⟩
  · exact Or.inr ⟨rfl, hblank⟩

theorem shows_escapeChar (p : Phase) : p.shows escapeChar = false := by
  cases p <;> decide

theorem next_escapeChar (p : Phase) : p.next escapeChar = .escape := if_pos rfl

/-- In the parameters of a control sequence, digits are neither shown nor do they end it. -/
theorem control_digit (h : c.isDigit = true) : control.shows c = false ∧ control.next c = .control := by
  rw [Char.isDigit, Bool.and_eq_true, decide_eq_true_eq, decide_eq_true_eq] at h
  have hlow : 48 ≤ c.toNat := UInt32.le_iff_toNat_le.mp h.1
  have hhigh : c.toNat ≤ 57 := UInt32.le_iff_toNat_le.mp h.2
  have hdigits : ∀ n < 10,
      control.shows (Char.ofNat (n + 48)) = false ∧ control.next (Char.ofNat (n + 48)) = .control := by decide
  exact Numeral.forall_range (P := fun c => control.shows c = false ∧ control.next c = .control) hdigits hlow (by omega)

end Phase

section Machine
variable {c : Char} {text : List Char}

/-! ## Characters that are kept -/

theorem shown_cons_of_shows (inRun : Bool) (p : Phase) (h : (if inRun then Phase.ground else p).shows c = true) :
    shown inRun p (c :: text) = c :: shown true (if isAscii c then p else .ground) text := by
  rw [shown, if_pos h]

theorem shown_cons_of_not_shows (inRun : Bool) (p : Phase) (h : (if inRun then Phase.ground else p).shows c = false) :
    shown inRun p (c :: text) = shown false (p.next c) text := by
  rw [shown, if_neg (Bool.eq_false_iff.mp h)]

/-- **Only what is shown is kept**, in every phase and in every run. -/
theorem isClean_shown (inRun : Bool) (p : Phase) (text : List Char) : isClean (shown inRun p text) = true := by
  induction text generalizing inRun p with
  | nil => rfl
  | cons c rest ih =>
    cases hshows : (if inRun then Phase.ground else p).shows c with
    | true =>
      rw [shown_cons_of_shows _ _ hshows, isClean, List.all_cons, Phase.ground_shows hshows]
      exact ih _ _
    | false =>
      rw [shown_cons_of_not_shows _ _ hshows]
      exact ih _ _

theorem escapeChar_notMem_of_isClean (h : isClean text = true) : escapeChar ∉ text := by
  intro hmem
  have hshows := List.all_eq_true.mp h _ hmem
  rw [Phase.shows_escapeChar] at hshows
  cases hshows

/-- Outside of sequences it makes no difference whether a run is under way. -/
theorem shown_ground (inRun : Bool) (text : List Char) : shown inRun .ground text = shown false .ground text := by
  cases text with
  | nil => rfl
  | cons c rest => simp only [shown, ite_self]

/-- **A text that is shown stays as it is**, and leaves no sequence open. -/
theorem shown_append_of_isClean (h : isClean text = true) (rest : List Char) :
    shown false .ground (text ++ rest) = text ++ shown false .ground rest := by
  induction text with
  | nil => rfl
  | cons c text ih =>
    rw [isClean, List.all_cons, Bool.and_eq_true] at h
    rw [List.cons_append, shown_cons_of_shows false .ground h.1, ite_self, shown_ground, ih h.2, List.cons_append]

/-! ## Escape characters -/

/-- **An escape character parts a text**, whatever has been left open in front of it. -/
theorem shown_append_escape (inRun : Bool) (p : Phase) (front back : List Char) :
    shown inRun p (front ++ escapeChar :: back) = shown inRun p front ++ shown false .escape back := by
  induction front generalizing inRun p with
  | nil =>
    rw [List.nil_append, shown_cons_of_not_shows _ _ (Phase.shows_escapeChar _), Phase.next_escapeChar]
    rfl
  | cons c front ih =>
    rw [List.cons_append]
    cases hshows : (if inRun then Phase.ground else p).shows c with
    | true => rw [shown_cons_of_shows _ _ hshows, shown_cons_of_shows _ _ hshows, ih, List.cons_append]
    | false => rw [shown_cons_of_not_shows _ _ hshows, shown_cons_of_not_shows _ _ hshows, ih]

/-- Nothing is shown of a sequence that selects a style, and it leaves no sequence open. -/
theorem shown_append_selectStyle {code : List Char} (hdigits : ∀ c ∈ code, c.isDigit = true) (inRun : Bool) (p : Phase)
    (front back : List Char) :
    shown inRun p (front ++ (selectStyle code ++ back)) = shown inRun p front ++ shown false .ground back := by
  have hparameters : shown false .control (code ++ 'm' :: back) = shown false .ground back := by
    induction code with
    | nil => rfl
    | cons c code ih =>
      obtain ⟨hc, hcode⟩ := List.forall_mem_cons.mp hdigits
      obtain ⟨hshows, hnext⟩ := Phase.control_digit hc
      rw [List.cons_append, shown_cons_of_not_shows false .control hshows, hnext, ih hcode]
  have htext : selectStyle code ++ back = escapeChar :: '[' :: (code ++ 'm' :: back) := by
    rw [selectStyle, escapeChar, List.cons_append, List.cons_append, List.append_assoc, List.singleton_append]
  have hopens : shown false .escape ('[' :: (code ++ 'm' :: back)) = shown false .control (code ++ 'm' :: back) := rfl
  rw [htext, shown_append_escape, hopens, hparameters]

end Machine

/-! ## Texts that are put together -/

/-- **What is shown of a text**, whatever stands behind it. -/
def ShownAs (text kept : List Char) : Prop :=
  ∀ rest, shown false .ground (text ++ rest) = kept ++ shown false .ground rest

theorem ShownAs.shown_eq {text kept : List Char} (h : ShownAs text kept) : shown false .ground text = kept := by
  have hend := h []
  rwa [List.append_nil, shown, List.append_nil] at hend

theorem ShownAs.append {text kept text' kept' : List Char} (h : ShownAs text kept) (h' : ShownAs text' kept') :
    ShownAs (text ++ text') (kept ++ kept') := by
  intro rest
  rw [List.append_assoc, h, h', List.append_assoc]

theorem shownAs_of_isClean {text : List Char} (h : isClean text = true) : ShownAs text text := shown_append_of_isClean h

/-- **A styled text is shown as it is shown alone**, even if it leaves a sequence open. -/
theorem shownAs_styled {code : List Char} (hdigits : ∀ c ∈ code, c.isDigit = true) (text : List Char) :
    ShownAs (selectStyle code ++ text ++ selectStyle ['0']) (shown false .ground text) := by
  intro rest
  have hreset : ∀ c ∈ ['0'], c.isDigit = true := List.all_eq_true.mp rfl
  rw [List.append_assoc, List.append_assoc]
  have hopens := shown_append_selectStyle hdigits false .ground [] (text ++ (selectStyle ['0'] ++ rest))
  rw [List.nil_append] at hopens
  rw [hopens, shown_append_selectStyle hreset]
  rfl

/-! ## Texts without their control sequences -/

theorem toList_plain (text : String) : (plain text).toList = shown false .ground text.toList := String.toList_ofList

theorem isClean_plain (text : String) : isClean (plain text).toList = true := by
  rw [toList_plain]
  exact isClean_shown _ _ _

theorem plain_of_isClean {text : String} (h : isClean text.toList = true) : plain text = text := by
  rw [plain, (shownAs_of_isClean h).shown_eq, String.ofList_toList]

theorem plain_plain (text : String) : plain (plain text) = plain text := plain_of_isClean (isClean_plain text)

/-- A command that is not ended swallows what follows, but not beyond the next sequence. -/
example : plain "a\x1b[31mb\x1b]0;title\x1b[0mc" = "abc" := rfl

end CartridgeFixture.Terminal
