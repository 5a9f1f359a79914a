import CartridgeFixture.Text.Escape
import CartridgeFixture.Proofs.Text.Numeral
import Mathlib.Data.List.TakeWhile

/-!
# Reading quoted texts

A quoted text is read in two steps: it ends at the first quote that no backslash escapes (`closing?`), and what stands
between the quotes is then read from left to right, one character or escape at a time (`unescape?`). Both steps take
every spelling of a character that is not taken for something else (`Spells`) as a whole, whatever stands behind it
(`Spells.closing?_append`, `Spells.unescapeOne?_append`). So a text in which each character is spelt in any of these
ways is read back, wherever it stands (`closing?_flatMap`, `unescape?_flatMap`), and `escape` spells every character in
one of them.
-/
namespace CartridgeFixture.Text

/-! ## Reading -/

/-- What stands in front of the first quote that is not escaped, and what stands behind it. -/
def closing? : List Char → Option (List Char × List Char)
  | [] => none
  | '"' :: rest => some ([], rest)
  | '\\' :: c :: rest => (closing? rest).map fun ends => ('\\' :: c :: ends.1, ends.2)
  | c :: rest => (closing? rest).map fun ends => (c :: ends.1, ends.2)

/-- The characters that a letter behind a backslash stands for. -/
def letterEscapes : List (Char × Char) :=
  [('0', '\x00'), ('t', '\t'), ('r', '\r'), ('n', '\n'), ('\\', '\\'), ('"', '"'), ('\x27', '\x27')]

/-- The character whose number stands in front of a closing brace, and what stands behind the brace. -/
def bracedChar? (text : List Char) : Option (Char × List Char) :=
  match text.takeWhile (· ≠ '\x7d'), text.dropWhile (· ≠ '\x7d') with
  | digit :: digits, _ :: behind =>
    ((Numeral.digits? 16 0 (digit :: digits)).filter (·.isValidChar)).map fun n => (Char.ofNat n, behind)
  | _, _ => none

/-- The first character of a text in which characters may be escaped, and what stands behind it. -/
def unescapeOne? : List Char → Option (Char × List Char)
  | '\\' :: 'u' :: '\x7b' :: text => bracedChar? text
  | '\\' :: letter :: rest => (letterEscapes.lookup letter).map (·, rest)
  | ['\\'] => none
  | c :: rest => some (c, rest)
  | [] => none

theorem length_lt_of_bracedChar? {text behind : List Char} {c : Char} (h : bracedChar? text = some (c, behind)) :
    behind.length < text.length := by
  unfold bracedChar? at h
  split at h
  · rename_i hdrop
    obtain ⟨n, -, heq⟩ := Option.map_eq_some_iff.mp h
    cases heq
    have hle := List.length_dropWhile_le (· ≠ '\x7d') text
    rw [hdrop, List.length_cons] at hle
    exact hle
  · cases h

theorem length_lt_of_unescapeOne? {text behind : List Char} {c : Char} (h : unescapeOne? text = some (c, behind)) :
    behind.length < text.length := by
  unfold unescapeOne? at h
  split at h
  · have hlt := length_lt_of_bracedChar? h
    simp only [List.length_cons]
    omega
  · obtain ⟨d, -, heq⟩ := Option.map_eq_some_iff.mp h
    cases heq
    simp only [List.length_cons]
    omega
  · cases h
  · cases h
    exact Nat.lt_succ_self _
  · cases h

/-- **A text in which characters may be escaped, read from left to right.** -/
def unescape? : List Char → Option (List Char)
  | [] => some []
  | c :: rest =>
    match _h : unescapeOne? (c :: rest) with
    | some (d, behind) => (unescape? behind).map (d :: ·)
    | none => none
termination_by text => text.length
decreasing_by exact length_lt_of_unescapeOne? _h

theorem unescape?_of_one {text behind : List Char} {c : Char} (h : unescapeOne? text = some (c, behind)) :
    unescape? text = (unescape? behind).map (c :: ·) := by
  cases text with
  | nil => cases h
  | cons d rest =>
    rw [unescape?]
    split
    · rename_i hother
      cases h.symm.trans hother
      rfl
    · rename_i hnone
      cases h.symm.trans hnone

/-! ## Spellings -/

/-- **The ways to spell a character between quotes.** -/
inductive Spells (c : Char) : List Char → Prop
  /-- As it is. -/
  | raw (hquote : c ≠ '"') (hbackslash : c ≠ '\\') : Spells c [c]
  /-- By a letter. -/
  | letter {letter : Char} (h : letterEscapes.lookup letter = some c) : Spells c ['\\', letter]
  /-- By its number. -/
  | number : Spells c ('\\' :: 'u' :: '\x7b' :: (Numeral.write 16 c.toNat ++ ['\x7d']))

theorem spells_escapeChar (c : Char) : Spells c (escapeChar c) := by
  unfold escapeChar
  split_ifs with hnul htab hreturn hnewline hbackslash hquote
  iterate 6
    · subst c
      exact .letter rfl
  · exact .number
  · exact .raw hquote hbackslash

/-! ## Numbers -/

/-- What all digits are, the digits of a number are. -/
theorem forall_mem_write {p : Char → Bool} (hlower : Numeral.lowerDigits.all p = true)
    (hupper : Numeral.upperDigits.all p = true) (n : Nat) : ∀ c ∈ Numeral.write 16 n, p c = true := by
  have hdigit : ∀ c value, Numeral.IsDigit 16 c value → p c = true := by
    intro c value hc
    rcases hc.spelt with hspelt | hspelt
    · exact List.all_eq_true.mp hlower c (List.mem_of_getElem? hspelt)
    · exact List.all_eq_true.mp hupper c (List.mem_of_getElem? hspelt)
  obtain ⟨values, hvalues, -⟩ := Numeral.digits_write (by decide : 1 < 16) (by decide) n
  exact ((List.forall₂_and_left _ values).mp (hvalues.imp fun c value hc => ⟨hdigit c value hc, hc⟩)).1

theorem digits?_write (n : Nat) : Numeral.digits? 16 0 (Numeral.write 16 n) = some n := by
  obtain ⟨values, hvalues, hn⟩ := Numeral.digits_write (by decide : 1 < 16) (by decide) n
  exact Numeral.digits?_eq_some_iff.mpr ⟨values, hvalues, by rw [hn, Nat.zero_mul, Nat.zero_add]⟩

theorem bracedChar?_write (c : Char) (behind : List Char) :
    bracedChar? (Numeral.write 16 c.toNat ++ '\x7d' :: behind) = some (c, behind) := by
  have hdigits : ∀ d ∈ Numeral.write 16 c.toNat, decide (d ≠ '\x7d') = true :=
    forall_mem_write (by decide) (by decide) c.toNat
  have htake : (Numeral.write 16 c.toNat ++ '\x7d' :: behind).takeWhile (· ≠ '\x7d') = Numeral.write 16 c.toNat := by
    rw [List.takeWhile_append_of_pos hdigits, List.takeWhile_cons_of_neg (by decide), List.append_nil]
  have hdrop : (Numeral.write 16 c.toNat ++ '\x7d' :: behind).dropWhile (· ≠ '\x7d') = '\x7d' :: behind := by
    rw [List.dropWhile_append_of_pos hdigits, List.dropWhile_cons_of_neg (by decide)]
  have hvalid : c.toNat.isValidChar := c.valid
  have hpos : 0 < (Numeral.write 16 c.toNat).length := Nat.length_toDigits_pos
  obtain ⟨digit, digits, hwrite⟩ := List.exists_cons_of_length_pos hpos
  have hread := digits?_write c.toNat
  rw [bracedChar?, htake, hdrop]
  rw [hwrite] at hread ⊢
  simp [hread, hvalid]

/-! ## Reading what is spelt -/

theorem closing?_cons {c : Char} (hquote : c ≠ '"') (hbackslash : c ≠ '\\') (rest : List Char) :
    closing? (c :: rest) = (closing? rest).map fun ends => (c :: ends.1, ends.2) := by
  rw [closing?]
  all_goals simp_all

/-- The end of a quotation is behind everything that does not look like one. -/
theorem closing?_plain_append {plain : List Char} (h : ∀ c ∈ plain, c ≠ '"' ∧ c ≠ '\\') (rest : List Char) :
    closing? (plain ++ rest) = (closing? rest).map fun ends => (plain ++ ends.1, ends.2) := by
  induction plain with
  | nil => simp
  | cons c plain ih =>
    obtain ⟨hquote, hbackslash⟩ := h c (List.mem_cons_self ..)
    rw [List.cons_append, closing?_cons hquote hbackslash, ih fun d hd => h d (List.mem_cons_of_mem _ hd),
      Option.map_map]
    rfl

namespace Spells
variable {c : Char} {piece : List Char}

/-- **A quotation does not end within a character.** -/
theorem closing?_append (h : Spells c piece) (rest : List Char) :
    closing? (piece ++ rest) = (closing? rest).map fun ends => (piece ++ ends.1, ends.2) := by
  cases h with
  | raw hquote hbackslash => exact closing?_cons hquote hbackslash rest
  | letter => rfl
  | number =>
    have hdigits : ∀ d ∈ Numeral.write 16 c.toNat, decide (d ≠ '"' ∧ d ≠ '\\') = true :=
      forall_mem_write (by decide) (by decide) c.toNat
    have hbraces : ∀ d ∈ '\x7b' :: (Numeral.write 16 c.toNat ++ ['\x7d']), d ≠ '"' ∧ d ≠ '\\' := by
      simp only [List.forall_mem_cons, List.forall_mem_append]
      exact ⟨by decide, fun d hd => of_decide_eq_true (hdigits d hd), by decide, by simp⟩
    have hnumber := closing?_plain_append hbraces rest
    rw [List.cons_append, List.cons_append, Text.closing?, hnumber, Option.map_map]
    rfl

/-- **A character is read as a whole**, whatever stands behind it. -/
theorem unescapeOne?_append (h : Spells c piece) (rest : List Char) :
    unescapeOne? (piece ++ rest) = some (c, rest) := by
  cases h with
  | raw hquote hbackslash =>
    rw [List.singleton_append, unescapeOne?]
    all_goals simp_all
  | @letter letter h =>
    rw [List.cons_append, List.singleton_append, unescapeOne?, h]
    · rfl
    · -- the letter of a number stands for no character of its own
      rintro _ rfl
      cases h
  | number =>
    have htext : '\\' :: 'u' :: '\x7b' :: (Numeral.write 16 c.toNat ++ ['\x7d']) ++ rest =
        '\\' :: 'u' :: '\x7b' :: (Numeral.write 16 c.toNat ++ '\x7d' :: rest) := by simp
    rw [htext, unescapeOne?, bracedChar?_write]

end Spells

section Row
variable {spell : Char → List Char} (h : ∀ c, Spells c (spell c))
include h

/-- **A quotation ends at the quote behind it**, if its characters are spelt. -/
theorem closing?_flatMap (text rest : List Char) :
    closing? (text.flatMap spell ++ '"' :: rest) = some (text.flatMap spell, rest) := by
  induction text with
  | nil => rfl
  | cons c text ih =>
    rw [List.flatMap_cons, List.append_assoc, (h c).closing?_append, ih]
    rfl

/-- **A text whose characters are spelt is read back.** -/
theorem unescape?_flatMap (text : List Char) : unescape? (text.flatMap spell) = some text := by
  induction text with
  | nil => rw [List.flatMap_nil, unescape?]
  | cons c text ih =>
    rw [List.flatMap_cons, unescape?_of_one ((h c).unescapeOne?_append _), ih]
    rfl

end Row

/-! ## What is shown -/

/-- Whether a character is one of the ASCII characters that are shown. -/
def isVisible (c : Char) : Bool := 0x20 ≤ c.toNat && c.toNat ≤ 0x7e

theorem needsNumber_of_isVisible {c : Char} (h : isVisible c = true) : needsNumber c = false := by
  have hranges : hiddenRanges.all (fun r => r.2 < 0x20 || 0x7e < r.1) = true := by decide +kernel
  refine List.any_eq_false.mpr fun r hr => ?_
  have hapart := List.all_eq_true.mp hranges r hr
  simp only [Bool.or_eq_true, decide_eq_true_eq] at hapart
  simp only [isVisible, Bool.and_eq_true, decide_eq_true_eq] at h ⊢
  omega

theorem needsNumber_of_mem_escapeChar {c d : Char} (h : d ∈ escapeChar c) : needsNumber d = false := by
  have hvisible : ∀ row : List Char, row.all isVisible = true → d ∈ row → needsNumber d = false :=
    fun row hrow hd => needsNumber_of_isVisible (List.all_eq_true.mp hrow d hd)
  unfold escapeChar at h
  split_ifs at h with hnul htab hreturn hnewline hbackslash hquote hnumber
  iterate 6 exact hvisible _ (by decide) h
  · rcases List.mem_append.mp h with h | h
    · rcases List.mem_append.mp h with h | h
      · exact hvisible _ (by decide) h
      · exact needsNumber_of_isVisible (forall_mem_write (by decide) (by decide) c.toNat d h)
    · exact hvisible _ (by decide) h
  · rw [List.mem_singleton.mp h]
    exact Bool.not_eq_true _ ▸ hnumber

/-- **Every character between the quotes shows by itself.** -/
theorem needsNumber_of_mem_escape {text : List Char} {c : Char} (h : c ∈ escape text) : needsNumber c = false := by
  obtain ⟨_, -, hc⟩ := List.mem_flatMap.mp h
  exact needsNumber_of_mem_escapeChar hc

end CartridgeFixture.Text
