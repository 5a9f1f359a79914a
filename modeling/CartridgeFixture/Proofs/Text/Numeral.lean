import CartridgeFixture.Text.Numeral
import Mathlib.Data.Nat.Digits.Lemmas
import Mathlib.Tactic.Ring

/-!
# What numerals denote

A numeral is read digit by digit, with a test of its limit. What it **denotes** is said without reading it: the digits
stand in two alphabets in the order of their values, and the value of a row of digits is `Nat.ofDigits`. Reading a text
within a limit gives a number iff the text denotes that number and it is within the limit (`read?_eq_some_iff`). So
any number of zeros may stand in front, and the number that is written is denoted (`denotes_write`).
-/
namespace CartridgeFixture.Numeral

/-- The digits in the order of their values. -/
def lowerDigits : List Char := "0123456789abcdefghijklmnopqrstuvwxyz".toList

/-- The same in upper case. -/
def upperDigits : List Char := "0123456789ABCDEFGHIJKLMNOPQRSTUVWXYZ".toList

/-- A character is the digit of a value, in either case of letters. -/
structure IsDigit (base : Nat) (c : Char) (value : Nat) : Prop where
  lt_base : value < base
  spelt : lowerDigits[value]? = some c ∨ upperDigits[value]? = some c

/-- **What a numeral denotes**: perhaps a plus sign, and then one or more digits, the highest first. -/
inductive Denotes (base : Nat) : List Char → Nat → Prop
  | intro {sign digits : List Char} {values : List Nat} (hsign : sign = [] ∨ sign = ['+'])
      (hdigits : List.Forall₂ (IsDigit base) digits values) (hne : digits ≠ []) :
      Denotes base (sign ++ digits) (Nat.ofDigits base values.reverse)

/-! ## Digits -/

/-- What holds of `count` characters from a first one on, looked at one by one. -/
theorem forall_range {P : Char → Prop} {first count : Nat} (h : ∀ n < count, P (Char.ofNat (n + first))) {c : Char}
    (hlow : first ≤ c.toNat) (hhigh : c.toNat < first + count) : P c := by
  have hc := h (c.toNat - first) (by omega)
  rwa [show c.toNat - first + first = c.toNat by omega, Char.ofNat_toNat] at hc

theorem spelt_decimal {c : Char} (hlow : 48 ≤ c.toNat) (hhigh : c.toNat < 48 + 10) :
    lowerDigits[c.toNat - 48]? = some c :=
  forall_range (P := fun c => lowerDigits[c.toNat - 48]? = some c) (by decide) hlow hhigh

theorem spelt_lower {c : Char} (hlow : 97 ≤ c.toNat) (hhigh : c.toNat < 97 + 26) :
    lowerDigits[c.toNat - 97 + 10]? = some c :=
  forall_range (P := fun c => lowerDigits[c.toNat - 97 + 10]? = some c) (by decide) hlow hhigh

theorem spelt_upper {c : Char} (hlow : 65 ≤ c.toNat) (hhigh : c.toNat < 65 + 26) :
    upperDigits[c.toNat - 65 + 10]? = some c :=
  forall_range (P := fun c => upperDigits[c.toNat - 65 + 10]? = some c) (by decide) hlow hhigh

theorem digit?_lowerDigits : ∀ n < 36, lowerDigits[n]?.bind (digit? 36) = some n := by decide

theorem digit?_upperDigits : ∀ n < 36, upperDigits[n]?.bind (digit? 36) = some n := by decide

theorem lt_of_spelt {c : Char} {value : Nat}
    (h : lowerDigits[value]? = some c ∨ upperDigits[value]? = some c) : value < 36 := by
  rcases h with h | h
  · exact (List.getElem?_eq_some_iff.mp h).1
  · exact (List.getElem?_eq_some_iff.mp h).1

/-- A digit in a larger base is one in a smaller base if its value is small enough. -/
theorem digit?_of_digit?_36 {base : Nat} {c : Char} {value : Nat} (h : digit? 36 c = some value)
    (hlt : value < base) : digit? base c = some value := by
  unfold digit? at h ⊢
  obtain ⟨hvalue, -⟩ := Option.filter_eq_some_iff.mp h
  exact Option.filter_eq_some_iff.mpr ⟨hvalue, by simpa using hlt⟩

theorem digit?_eq_some_iff {base : Nat} {c : Char} {value : Nat} :
    digit? base c = some value ↔ IsDigit base c value := by
  constructor
  · intro h
    unfold digit? at h
    obtain ⟨hvalue, hlt⟩ := Option.filter_eq_some_iff.mp h
    refine ⟨by simpa using hlt, ?_⟩
    simp only [Char.le_def, UInt32.le_iff_toNat_le] at hvalue
    change (if 48 ≤ c.toNat ∧ c.toNat ≤ 57 then some (c.toNat - 48)
      else if 97 ≤ c.toNat ∧ c.toNat ≤ 122 then some (c.toNat - 97 + 10)
      else if 65 ≤ c.toNat ∧ c.toNat ≤ 90 then some (c.toNat - 65 + 10) else none) = some value at hvalue
    split at hvalue
    · cases hvalue
      exact Or.inl (spelt_decimal (by omega) (by omega))
    split at hvalue
    · cases hvalue
      exact Or.inl (spelt_lower (by omega) (by omega))
    split at hvalue
    · cases hvalue
      exact Or.inr (spelt_upper (by omega) (by omega))
    · cases hvalue
  · rintro ⟨hlt, hspelt⟩
    have hsmall := lt_of_spelt hspelt
    rcases hspelt with hspelt | hspelt
    · have hdigit := digit?_lowerDigits value hsmall
      rw [hspelt] at hdigit
      exact digit?_of_digit?_36 hdigit hlt
    · have hdigit := digit?_upperDigits value hsmall
      rw [hspelt] at hdigit
      exact digit?_of_digit?_36 hdigit hlt

theorem not_isDigit_plus {base value : Nat} : ¬ IsDigit base '+' value := by
  intro h
  have hnone : digit? base '+' = none := rfl
  rw [digit?_eq_some_iff.mpr h] at hnone
  cases hnone

/-! ## Reading -/

/-- The digits that are read continue the number in front of them. -/
theorem digits?_eq_some_iff {base high n : Nat} {text : List Char} :
    digits? base high text = some n ↔
      ∃ values, List.Forall₂ (IsDigit base) text values ∧
        n = high * base ^ values.length + Nat.ofDigits base values.reverse := by
  induction text generalizing high with
  | nil =>
    constructor
    · intro h
      cases h
      exact ⟨[], .nil, by simp⟩
    · rintro ⟨_, ⟨⟩, rfl⟩
      simp [digits?]
  | cons c rest ih =>
    have hvalue : ∀ (low : Nat) (values : List Nat),
        (high * base + low) * base ^ values.length + Nat.ofDigits base values.reverse =
          high * base ^ (low :: values).length + Nat.ofDigits base (low :: values).reverse := by
      intro low values
      rw [List.reverse_cons, Nat.ofDigits_append, List.length_cons, List.length_reverse, Nat.ofDigits_singleton]
      ring
    simp only [digits?, Option.bind_eq_some_iff, ih, digit?_eq_some_iff]
    constructor
    · rintro ⟨low, hlow, values, hvalues, rfl⟩
      exact ⟨low :: values, .cons hlow hvalues, hvalue low values⟩
    · rintro ⟨_, hvalues, rfl⟩
      cases hvalues with
      | @cons _ low _ values hlow hvalues => exact ⟨low, hlow, values, hvalues, (hvalue low values).symm⟩

/-- A text begins with the sign that is taken off. -/
theorem exists_sign (text : List Char) : ∃ sign, (sign = [] ∨ sign = ['+']) ∧ text = sign ++ afterSign text := by
  unfold afterSign
  split
  · exact ⟨['+'], Or.inr rfl, rfl⟩
  · exact ⟨[], Or.inl rfl, rfl⟩

/-- Only a sign is taken off: no digit is one. -/
theorem afterSign_append {base : Nat} {sign digits : List Char} {values : List Nat} (hsign : sign = [] ∨ sign = ['+'])
    (hdigits : List.Forall₂ (IsDigit base) digits values) : afterSign (sign ++ digits) = digits := by
  rcases hsign with rfl | rfl
  · cases hdigits with
    | nil => rfl
    | @cons c _ _ _ hc =>
      unfold afterSign
      split
      · rename_i heq
        cases heq
        exact absurd hc not_isDigit_plus
      · rfl
  · rfl

/-- **A number is read iff the text denotes it and it is within the limit.** -/
theorem read?_eq_some_iff {base limit n : Nat} {text : List Char} :
    read? base limit text = some n ↔ Denotes base text n ∧ n ≤ limit := by
  simp only [read?]
  constructor
  · intro h
    split at h
    · cases h
    rename_i hempty
    obtain ⟨hread, hle⟩ := Option.filter_eq_some_iff.mp h
    obtain ⟨values, hvalues, rfl⟩ := digits?_eq_some_iff.mp hread
    rw [Nat.zero_mul, Nat.zero_add] at hle ⊢
    obtain ⟨sign, hsign, htext⟩ := exists_sign text
    have hne : afterSign text ≠ [] := by simpa using hempty
    rw [htext]
    exact ⟨.intro hsign hvalues hne, by simpa using hle⟩
  · rintro ⟨⟨hsign, hdigits, hne⟩, hle⟩
    rename_i sign digits values
    rw [afterSign_append hsign hdigits, if_neg (by simpa using hne)]
    have hread : digits? base 0 digits = some (Nat.ofDigits base values.reverse) :=
      digits?_eq_some_iff.mpr ⟨values, hdigits, by simp⟩
    exact Option.filter_eq_some_iff.mpr ⟨hread, by simpa using hle⟩

/-! ## Writing -/

theorem digitChar_lowerDigits : ∀ n < 16, lowerDigits[n]? = some (Nat.digitChar n) := by decide

/-- The digits that are written are those of the number. -/
theorem digits_write {base : Nat} (hbase : 1 < base) (hdigits : base ≤ 16) (n : Nat) :
    ∃ values, List.Forall₂ (IsDigit base) (write base n) values ∧ Nat.ofDigits base values.reverse = n := by
  induction n using Nat.strongRecOn with
  | _ n ih =>
    have hdigit : ∀ low < base, IsDigit base (Nat.digitChar low) low :=
      fun low hlow => ⟨hlow, Or.inl (digitChar_lowerDigits low (by omega))⟩
    by_cases hlast : n < base
    · refine ⟨[n], ?_, by simp⟩
      rw [write, Nat.toDigits_of_lt_base hlast]
      exact .cons (hdigit n hlast) .nil
    · have hlow : n % base < base := Nat.mod_lt n (by omega)
      obtain ⟨values, hvalues, hn⟩ := ih (n / base) (Nat.div_lt_self (by omega) hbase)
      refine ⟨values ++ [n % base], ?_, ?_⟩
      · rw [write, Nat.toDigits_of_base_le hbase (Nat.le_of_not_lt hlast)]
        exact List.rel_append hvalues (.cons (hdigit _ hlow) .nil)
      · rw [List.reverse_append, List.reverse_singleton, List.singleton_append, Nat.ofDigits_cons, hn]
        exact Nat.mod_add_div n base

/-- **A written number is denoted**, with a plus sign and any number of zeros in front too. -/
theorem denotes_write {base : Nat} (hbase : 1 < base) (hdigits : base ≤ 16) {sign : List Char}
    (hsign : sign = [] ∨ sign = ['+']) (zeros n : Nat) :
    Denotes base (sign ++ List.replicate zeros '0' ++ write base n) n := by
  obtain ⟨values, hvalues, hn⟩ := digits_write hbase hdigits n
  have hzeros : List.Forall₂ (IsDigit base) (List.replicate zeros '0') (List.replicate zeros 0) := by
    induction zeros with
    | zero => exact .nil
    | succ zeros ih => exact .cons ⟨by omega, Or.inl rfl⟩ ih
  have hvalue : Nat.ofDigits base (List.replicate zeros 0 ++ values).reverse = n := by
    rw [List.reverse_append, List.reverse_replicate, Nat.ofDigits_append_replicate_zero, hn]
  have hne : List.replicate zeros '0' ++ write base n ≠ [] := by
    have hpos : 0 < (write base n).length := Nat.length_toDigits_pos
    intro h
    rw [(List.append_eq_nil_iff.mp h).2] at hpos
    cases hpos
  have h := Denotes.intro hsign (List.rel_append hzeros hvalues) hne
  rwa [hvalue, ← List.append_assoc] at h

end CartridgeFixture.Numeral
