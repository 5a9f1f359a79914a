import CartridgeFixture.Log.Level
import CartridgeFixture.Proofs.Text.Numeral
import Mathlib.Data.List.Forall2

/-!
# How a level is written

A level is read as a numeral below 2^64 first, and as a name if that fails. What is written can be said without reading
it (`LogLevel.Written`): the one digit of the rank, behind any number of zeros and perhaps a plus sign, or the name with
any of its letters in the other case. Reading a text gives a level iff the text is the level in one of these ways
(`LogLevel.ofText?_eq_some_iff`).

The two ways do not meet: no name begins like a numeral (`LogLevel.not_denotes_of_sameLetters`). So a numeral is a level
iff what it denotes is the rank of one, and neither zero nor a number that is too large to be read makes an exception
(`LogLevel.written_iff_of_denotes`).
-/
namespace CartridgeFixture

namespace Numeral

/-! ## One digit -/

theorem spelt_digitChar :
    ∀ n < 10, lowerDigits[n]? = some (Nat.digitChar n) ∧ upperDigits[n]? = some (Nat.digitChar n) := by
  decide

/-- Up to ten, a value has one digit. -/
theorem IsDigit.eq_digitChar {base : Nat} (hbase : base ≤ 10) {c : Char} {value : Nat} (h : IsDigit base c value) :
    c = Nat.digitChar value := by
  obtain ⟨hlower, hupper⟩ := spelt_digitChar value (Nat.lt_of_lt_of_le h.lt_base hbase)
  rcases h.spelt with hspelt | hspelt
  · exact Option.some.inj (hspelt.symm.trans hlower)
  · exact Option.some.inj (hspelt.symm.trans hupper)

/-- The digits of a number below the base, other than zero, are zeros and then the one digit. -/
theorem exists_zeros {base n : Nat} (hbase : base ≤ 10) (hpos : 0 < n) (hlt : n < base) {digits : List Char}
    {values : List Nat} (hdigits : List.Forall₂ (IsDigit base) digits values)
    (hn : Nat.ofDigits base values.reverse = n) :
    ∃ zeros, digits = List.replicate zeros '0' ++ [Nat.digitChar n] := by
  induction hdigits with
  | nil =>
    rw [List.reverse_nil, Nat.ofDigits_nil] at hn
    omega
  | @cons c low rest values hc hrest ih =>
    rw [List.reverse_cons, Nat.ofDigits_append, List.length_reverse, Nat.ofDigits_singleton] at hn
    rcases Nat.eq_zero_or_pos low with rfl | hlow
    · rw [Nat.mul_zero, Nat.add_zero] at hn
      obtain ⟨zeros, rfl⟩ := ih hn
      exact ⟨zeros + 1, by rw [hc.eq_digitChar hbase]; rfl⟩
    · -- a digit in front of others would make the number as large as the base
      cases values with
      | nil =>
        cases hrest
        rw [List.reverse_nil, Nat.ofDigits_nil, List.length_nil, Nat.pow_zero, Nat.one_mul, Nat.zero_add] at hn
        exact ⟨0, by rw [hc.eq_digitChar hbase, hn]; rfl⟩
      | cons value values =>
        have hpow : base ≤ base ^ (value :: values).length := Nat.le_self_pow (by simp) base
        have hlarge := Nat.le_trans hpow (Nat.le_mul_of_pos_right (base ^ (value :: values).length) hlow)
        omega

/-- **A numeral of one digit**: zeros may stand in front of it, and a sign. -/
theorem denotes_iff_digit {base n : Nat} (hbase : base ≤ 10) (hpos : 0 < n) (hlt : n < base) {text : List Char} :
    Denotes base text n ↔
      ∃ sign zeros, (sign = [] ∨ sign = ['+']) ∧ text = sign ++ List.replicate zeros '0' ++ [Nat.digitChar n] := by
  constructor
  · rintro ⟨hsign, hdigits, -⟩
    obtain ⟨zeros, rfl⟩ := exists_zeros hbase hpos hlt hdigits rfl
    exact ⟨_, zeros, hsign, (List.append_assoc ..).symm⟩
  · rintro ⟨sign, zeros, hsign, rfl⟩
    have h := denotes_write (by omega : 1 < base) (by omega) hsign zeros n
    rwa [write, Nat.toDigits_of_lt_base hlt] at h

/-- A text denotes one number at most. -/
theorem Denotes.unique {base n m : Nat} {text : List Char} (h : Denotes base text n) (h' : Denotes base text m) :
    n = m := by
  have hread : read? base (max n m) text = some n := read?_eq_some_iff.mpr ⟨h, Nat.le_max_left n m⟩
  have hread' : read? base (max n m) text = some m := read?_eq_some_iff.mpr ⟨h', Nat.le_max_right n m⟩
  exact Option.some.inj (hread.symm.trans hread')

/-- What a decimal numeral begins with. -/
def starters : List Char := "+0123456789".toList

theorem Denotes.head? {n : Nat} {text : List Char} (h : Denotes 10 text n) : ∃ c ∈ starters, text.head? = some c := by
  have hdigit : ∀ value < 10, Nat.digitChar value ∈ starters := by decide
  obtain ⟨hsign, hdigits, hne⟩ := h
  rcases hsign with rfl | rfl
  · cases hdigits with
    | nil => exact absurd rfl hne
    | @cons c value _ _ hc =>
      refine ⟨c, ?_, rfl⟩
      rw [hc.eq_digitChar (Nat.le_refl 10)]
      exact hdigit value hc.lt_base
  · exact ⟨'+', by decide, rfl⟩

end Numeral

namespace LogLevel

/-! ## Letters in either case -/

/-- Every ASCII letter in upper and in lower case. -/
def letters : List (Char × Char) :=
  "ABCDEFGHIJKLMNOPQRSTUVWXYZ".toList.zip "abcdefghijklmnopqrstuvwxyz".toList

/-- Two characters are the same, up to the case of an ASCII letter. -/
def SameLetter (c d : Char) : Prop := c = d ∨ (c, d) ∈ letters ∨ (d, c) ∈ letters

theorem toLower_letters : letters.all (fun pair => pair.1.toLower = pair.2 ∧ pair.2.toLower = pair.2) = true := by
  decide +kernel

theorem upper_of_lower :
    letters.all (fun pair => letters.all fun other => pair.2 = other.2 → pair.1 = other.1) = true := by
  decide +kernel

/-- Only the upper case of a letter is changed. -/
theorem toLower_cases (c : Char) : (c, c.toLower) ∈ letters ∨ c.toLower = c := by
  by_cases hupper : 65 ≤ c.toNat ∧ c.toNat ≤ 90
  · have hmem : ∀ n < 26, (Char.ofNat (n + 65), (Char.ofNat (n + 65)).toLower) ∈ letters := by decide +kernel
    exact Or.inl (Numeral.forall_range (P := fun c => (c, c.toLower) ∈ letters) hmem hupper.1 (by omega))
  · refine Or.inr (dif_neg fun h => hupper ?_)
    exact ⟨UInt32.le_iff_toNat_le.mp h.1, UInt32.le_iff_toNat_le.mp h.2⟩

theorem toLower_of_mem {c d : Char} (h : (c, d) ∈ letters) : c.toLower = d ∧ d.toLower = d :=
  of_decide_eq_true (List.all_eq_true.mp toLower_letters _ h)

theorem sameLetter_iff {c d : Char} : SameLetter c d ↔ c.toLower = d.toLower := by
  constructor
  · rintro (rfl | h | h)
    · rfl
    · rw [(toLower_of_mem h).1, (toLower_of_mem h).2]
    · rw [(toLower_of_mem h).1, (toLower_of_mem h).2]
  · intro h
    rcases toLower_cases c with hc | hc <;> rcases toLower_cases d with hd | hd
    · have hall := List.all_eq_true.mp (List.all_eq_true.mp upper_of_lower _ hc) _ hd
      exact Or.inl (of_decide_eq_true hall h)
    · rw [h, hd] at hc
      exact Or.inr (Or.inl hc)
    · rw [← h, hc] at hd
      exact Or.inr (Or.inr hd)
    · exact Or.inl (hc.symm.trans (h.trans hd))

theorem sameLetters_iff {text name : List Char} :
    List.Forall₂ SameLetter text name ↔ text.map Char.toLower = name.map Char.toLower := by
  rw [← List.forall₂_eq_eq_eq, List.forall₂_map_left_iff, List.forall₂_map_right_iff]
  exact ⟨fun h => h.imp fun _ _ => sameLetter_iff.mp, fun h => h.imp fun _ _ => sameLetter_iff.mpr⟩

/-! ## The texts of a level -/

/-- **The texts that a level is written as.** -/
inductive Written (level : LogLevel) : List Char → Prop
  /-- The digit of the rank, behind perhaps a plus sign and any number of zeros. -/
  | rank {sign : List Char} (hsign : sign = [] ∨ sign = ['+']) (zeros : Nat) :
      Written level (sign ++ List.replicate zeros '0' ++ [Nat.digitChar level.rank])
  /-- The name, up to the case of ASCII letters. -/
  | name {text : List Char} (h : List.Forall₂ SameLetter text level.name.toList) : Written level text

variable {text : List Char} {level : LogLevel}

theorem rank_pos (level : LogLevel) : 0 < level.rank := by cases level <;> decide

theorem rank_lt (level : LogLevel) : level.rank < 10 := by cases level <;> decide

theorem ofRank?_eq_some_iff {n : Nat} : ofRank? n = some level ↔ n = level.rank := by
  constructor
  · intro h
    have heq := List.find?_some h
    exact (eq_of_beq heq).symm
  · rintro rfl
    cases level <;> rfl

theorem toLower_name (level : LogLevel) : level.name.toList.map Char.toLower = level.name.toList := by
  cases level <;> decide

theorem ofName?_eq_some_iff : ofName? text = some level ↔ List.Forall₂ SameLetter text level.name.toList := by
  rw [sameLetters_iff, toLower_name, ofName?]
  constructor
  · intro h
    have heq := List.find?_some h
    exact (eq_of_beq heq).symm
  · intro h
    rw [h]
    cases level <;> decide

theorem written_iff :
    Written level text ↔ Numeral.Denotes 10 text level.rank ∨ List.Forall₂ SameLetter text level.name.toList := by
  rw [Numeral.denotes_iff_digit (Nat.le_refl 10) level.rank_pos level.rank_lt]
  constructor
  · rintro (⟨hsign, zeros⟩ | h)
    · exact Or.inl ⟨_, zeros, hsign, rfl⟩
    · exact Or.inr h
  · rintro (⟨sign, zeros, hsign, rfl⟩ | h)
    · exact .rank hsign zeros
    · exact .name h

/-- **No name is a numeral.** -/
theorem not_denotes_of_sameLetters (h : List.Forall₂ SameLetter text level.name.toList) (n : Nat) :
    ¬ Numeral.Denotes 10 text n := by
  have hforeign :
      Numeral.starters.all (fun c => all.all fun level => level.name.toList.head? ≠ some c.toLower) = true := by decide
  intro hdenotes
  obtain ⟨c, hc, hhead⟩ := hdenotes.head?
  rw [sameLetters_iff, toLower_name] at h
  have hlevel : level ∈ all := by cases level <;> decide
  have hne := of_decide_eq_true (List.all_eq_true.mp (List.all_eq_true.mp hforeign c hc) level hlevel)
  rw [← h, List.head?_map, hhead] at hne
  exact hne rfl

/-- A numeral is a level iff it denotes the rank of one, however large the number is. -/
theorem written_iff_of_denotes {n : Nat} (h : Numeral.Denotes 10 text n) : Written level text ↔ n = level.rank := by
  rw [written_iff]
  constructor
  · rintro (hrank | hname)
    · exact h.unique hrank
    · exact absurd h (not_denotes_of_sameLetters hname n)
  · rintro rfl
    exact Or.inl h

/-- A level is written with ASCII letters and digits and a plus sign, and with no blanks around it. -/
theorem Written.isAlphanum (h : Written level text) {c : Char} (hc : c ∈ text) : c = '+' ∨ c.isAlphanum = true := by
  have hletters : letters.all (fun pair => pair.1.isAlphanum) = true := by decide
  have hname : level.name.toList.all Char.isAlphanum = true := by cases level <;> decide
  have hrank : (Nat.digitChar level.rank).isAlphanum = true := by cases level <;> decide
  cases h with
  | rank hsign zeros =>
    rcases List.mem_append.mp hc with hc | hc
    · rcases List.mem_append.mp hc with hc | hc
      · rcases hsign with rfl | rfl
        · cases hc
        · exact Or.inl (List.mem_singleton.mp hc)
      · rw [List.eq_of_mem_replicate hc]
        exact Or.inr (by decide)
    · rw [List.mem_singleton.mp hc]
      exact Or.inr hrank
  | name h =>
    rw [sameLetters_iff, toLower_name] at h
    rcases toLower_cases c with hmem | hsame
    · exact Or.inr (List.all_eq_true.mp hletters _ hmem)
    · have hmem : c.toLower ∈ text.map Char.toLower := List.mem_map_of_mem hc
      rw [hsame, h] at hmem
      exact Or.inr (List.all_eq_true.mp hname c hmem)

/-- **A text is read as the level that it is written as**, and as none if it is written as none. -/
theorem ofText?_eq_some_iff {text : String} : ofText? text = some level ↔ Written level text.toList := by
  have hsmall : level.rank ≤ UInt64.size - 1 := Nat.le_trans (Nat.le_of_lt level.rank_lt) (by decide)
  have hrank : (Numeral.read? 10 (UInt64.size - 1) text.toList).bind ofRank? = some level ↔
      Numeral.Denotes 10 text.toList level.rank := by
    simp only [Option.bind_eq_some_iff, ofRank?_eq_some_iff, Numeral.read?_eq_some_iff]
    constructor
    · rintro ⟨_, ⟨hdenotes, -⟩, rfl⟩
      exact hdenotes
    · intro hdenotes
      exact ⟨_, ⟨hdenotes, hsmall⟩, rfl⟩
  rw [ofText?, Option.or_eq_some_iff, hrank, ofName?_eq_some_iff, written_iff]
  constructor
  · rintro (hdenotes | ⟨-, hname⟩)
    · exact Or.inl hdenotes
    · exact Or.inr hname
  · rintro (hdenotes | hname)
    · exact Or.inl hdenotes
    · refine Or.inr ⟨Option.eq_none_iff_forall_ne_some.mpr fun other hother => ?_, hname⟩
      obtain ⟨n, hread, -⟩ := Option.bind_eq_some_iff.mp hother
      exact not_denotes_of_sameLetters hname n (Numeral.read?_eq_some_iff.mp hread).1

end LogLevel

end CartridgeFixture
