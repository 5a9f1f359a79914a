import CartridgeFixture.Proofs.Flag.Grammar
import CartridgeFixture.Proofs.Flag.Names
import Mathlib.Tactic.Choose

/-!
# Written flag texts are read back

A written text may be **rearranged** before it is read: its parts may change places and be repeated, with blanks
around them, and a number may have a plus sign and zeros in front. Since a union does not depend on the order of its
values, and a part denotes the same in each of its spellings, the value does not change
(`ofText_of_rearranges`). The full form so gives back the value itself, the strict form the declared flags that it
contains, the truncated form its declared bits.
-/
namespace CartridgeFixture.Flags
variable {t : FlagTable} {form : FlagText}

/-- Another spelling of the same part. -/
inductive Respells : List Char → List Char → Prop
  | same (part : List Char) : Respells part part
  | number {sign digits : List Char} (hsign : sign = [] ∨ sign = ['+']) (zeros : Nat) :
      Respells ('0' :: 'x' :: digits) ('0' :: 'x' :: (sign ++ List.replicate zeros '0' ++ digits))

/-- **Another arrangement of a written text.** If there are parts, each stands there at least once in some spelling, and
nothing else does; an empty text has no parts, and only blanks can be added to it. -/
inductive Rearranges (written : List Char) : List Char → Prop
  | blank {text : List Char} (hwritten : written = []) (h : ∀ c ∈ text, Text.isBlank c = true) :
      Rearranges written text
  | row {parts : List (List Char)} {text : List Char} (hwritten : written ≠ []) (hrow : Text.Row parts text)
      (hfrom : ∀ part ∈ parts, ∃ original ∈ Text.parts written, Respells original part)
      (hall : ∀ original ∈ Text.parts written, ∃ part ∈ parts, Respells original part) : Rearranges written text

/-! ## Spellings -/

/-- What a part denotes as it is written: there is no sign and no zero in front of a number. -/
inductive Written (t : FlagTable) (form : FlagText) : List Char → Flags t → Prop
  | name {flag : Flag} (h : flag ∈ t.flags) : Written t form flag.name.toList (retain flag.bits)
  | number (hform : form ≠ .strict) (bits : UInt8) :
      Written t form ('0' :: 'x' :: Numeral.write 16 bits.toNat) (retain bits)

theorem denotes_respelt {sign : List Char} (hsign : sign = [] ∨ sign = ['+']) (zeros : Nat) (hform : form ≠ .strict)
    (bits : UInt8) :
    Denotes t form ('0' :: 'x' :: (sign ++ List.replicate zeros '0' ++ Numeral.write 16 bits.toNat)) (retain bits) := by
  have hdigits : Numeral.Denotes 16 (sign ++ List.replicate zeros '0' ++ Numeral.write 16 bits.toNat) bits.toNat :=
    Numeral.denotes_write (by decide) (by decide) hsign zeros bits.toNat
  have hdenotes := Denotes.number (t := t) hform hdigits (Nat.le_of_lt_succ bits.toNat_lt)
  have hbits : bits.toNat.toUInt8 = bits := UInt8.ofNat_toNat
  rwa [hbits] at hdenotes

/-- In each of its spellings a part denotes what it denotes as it is written. -/
theorem Written.denotes (h : t.Legible) {original part : List Char} {value : Flags t}
    (hwritten : Written t form original value) (hspelt : Respells original part) : Denotes t form part value := by
  cases hwritten with
  | @name flag hflag =>
    generalize hname : flag.name.toList = name at hspelt
    cases hspelt with
    | same => exact hname ▸ .name hflag
    | @number sign digits => exact absurd ⟨digits, hname.symm⟩ (h.unnumbered flag hflag)
  | number hform bits =>
    cases hspelt with
    | same => exact denotes_respelt (Or.inl rfl) 0 hform bits
    | number hsign zeros => exact denotes_respelt hsign zeros hform bits

/-! ## Arrangements -/

theorem kept_empty : (empty : Flags t).kept form = empty := by
  unfold kept
  split
  · exact congrArg Flags.mk UInt8.zero_and
  · rfl

theorem exists_of_mem_forall₂ {α β : Type} {R : α → β → Prop} {xs : List α} {ys : List β} (h : List.Forall₂ R xs ys)
    {x : α} (hx : x ∈ xs) : ∃ y ∈ ys, R x y := by
  induction h with
  | nil => cases hx
  | @cons _ y _ ys hxy _ ih =>
    rcases List.mem_cons.mp hx with rfl | hx
    · exact ⟨y, List.mem_cons_self .., hxy⟩
    · obtain ⟨y, hy, hxy⟩ := ih hx
      exact ⟨y, List.mem_cons_of_mem _ hy, hxy⟩

/-- Parts that are spellings of all the written ones, and of no others, denote the same values. -/
theorem exists_denoted (h : t.Legible) {originals parts : List (List Char)} {values : List (Flags t)}
    (hwritten : List.Forall₂ (Written t form) originals values)
    (hfrom : ∀ part ∈ parts, ∃ original ∈ originals, Respells original part)
    (hall : ∀ original ∈ originals, ∃ part ∈ parts, Respells original part) :
    ∃ others, List.Forall₂ (Denotes t form) parts others ∧ unions values = unions others := by
  have hdenotes : ∀ part ∈ parts, ∃ value, value ∈ values ∧ Denotes t form part value := by
    intro part hpart
    obtain ⟨original, horiginal, hspelt⟩ := hfrom part hpart
    obtain ⟨value, hvalue, hpart⟩ := exists_of_mem_forall₂ hwritten horiginal
    exact ⟨value, hvalue, hpart.denotes h hspelt⟩
  have : Nonempty (Flags t) := ⟨empty⟩
  choose! read hread using hdenotes
  refine ⟨parts.map read, ?_, unions_congr fun value => ⟨?_, ?_⟩⟩
  · rw [List.forall₂_map_right_iff, List.forall₂_same]
    exact fun part hpart => (hread part hpart).2
  · intro hvalue
    obtain ⟨original, horiginal, hpart⟩ := exists_of_mem_forall₂ hwritten.flip hvalue
    obtain ⟨part, hmem, hspelt⟩ := hall original horiginal
    obtain rfl := (hpart.denotes h hspelt).unique h (hread part hmem).2
    exact List.mem_map_of_mem hmem
  · intro hvalue
    obtain ⟨part, hpart, rfl⟩ := List.mem_map.mp hvalue
    exact (hread part hpart).1

/-- **The value of a text does not depend on its arrangement.** -/
theorem ofText_of_rearranges (h : t.Legible) {originals : List (List Char)} {values : List (Flags t)}
    (hwritten : List.Forall₂ (Written t form) originals values) {text : String}
    (htext : Rearranges ([' ', '|', ' '].intercalate originals) text.toList) :
    ofText form text = .ok ((unions values).kept form) := by
  have hwords : ∀ original ∈ originals, Text.Word original := by
    intro original horiginal
    obtain ⟨value, -, hvalue⟩ := exists_of_mem_forall₂ hwritten horiginal
    exact (hvalue.denotes h (.same original)).word h
  rw [ofText_eq_ok_iff h]
  generalize text.toList = row at htext
  cases htext with
  | blank hempty hblank =>
    obtain rfl := Text.eq_nil_of_joined hwords hempty
    cases hwritten
    exact Or.inl ⟨hblank, kept_empty⟩
  | @row parts _ hne hrow hfrom hall =>
    have hparts : Text.parts ([' ', '|', ' '].intercalate originals) = originals := by
      refine Text.parts_joined ?_ hwords
      rintro rfl
      exact hne rfl
    rw [hparts] at hfrom hall
    obtain ⟨others, hothers, hunions⟩ := exists_denoted h hwritten hfrom hall
    exact Or.inr ⟨parts, others, hrow, hothers, congrArg (kept form) hunions⟩

/-! ## Written texts -/

theorem forall₂_written_names (f : Flags t) :
    List.Forall₂ (Written t form) (f.names.map (·.name.toList)) (f.names.map fun flag => retain flag.bits) := by
  rw [List.forall₂_map_left_iff, List.forall₂_map_right_iff, List.forall₂_same]
  exact fun flag hflag => .name (mem_flags_of_mem_names hflag)

theorem forall₂_written_groups (hform : form ≠ .strict) (f : Flags t) :
    List.Forall₂ (Written t form) (f.names.map (·.name.toList) ++ remainderPart f.remainder)
      (f.groups.map retain) := by
  rw [groups, List.map_append, List.map_map]
  refine List.rel_append (forall₂_written_names f) ?_
  unfold remainderPart
  split
  · exact .nil
  · exact .cons (.number hform f.remainder) .nil

theorem kept_truncate (f : Flags t) : (truncate f.bits : Flags t).kept .truncated = truncate f.bits := by
  refine ext_bits fun i => ?_
  rw [kept, if_pos rfl, truncate, truncate, testBit_and, testBit_and, Bool.and_assoc, Bool.and_self]

/-- What of a value its text says. -/
def said (form : FlagText) (f : Flags t) : Flags t :=
  match form with
  | .full => f
  | .strict => f.declaredWithin
  | .truncated => truncate f.bits

theorem exists_written (form : FlagText) (f : Flags t) :
    ∃ values, List.Forall₂ (Written t form) (f.parts form) values ∧ (unions values).kept form = f.said form := by
  cases form with
  | full => exact ⟨f.groups.map retain, forall₂_written_groups (by decide) f, unions_groups f⟩
  | strict => exact ⟨_, forall₂_written_names f, unions_names f⟩
  | truncated =>
    refine ⟨(truncate f.bits : Flags t).groups.map retain, forall₂_written_groups (by decide) (truncate f.bits), ?_⟩
    rw [unions_groups]
    exact kept_truncate f

/-- **Reading undoes writing.** Each text that rearranges the one written for a value is read as what that one says:
the value itself, the declared flags that it contains, or its declared bits. -/
theorem ofText_rearranged {t : FlagTable} (ht : t ∈ [Header.flags6, Header.flags7]) (f : Flags t) :
    (f.text .full = "" ↔ f = empty) ∧
      ∀ (form : FlagText) (text : String), Rearranges (f.text form).toList text.toList →
        ofText form text = .ok (f.said form) := by
  have h := Header.legible_of_mem ht
  have hread : ∀ (form : FlagText) (text : String), Rearranges (f.text form).toList text.toList →
      ofText form text = .ok (f.said form) := by
    intro form text htext
    obtain ⟨values, hwritten, hsaid⟩ := exists_written form f
    rw [Flags.text, String.toList_ofList] at htext
    rw [← hsaid]
    exact ofText_of_rearranges h hwritten htext
  refine ⟨⟨?_, ?_⟩, hread⟩
  · intro hempty
    have hfull := hread .full "" (.blank (congrArg String.toList hempty) (by simp))
    exact (Except.ok.inj hfull).symm
  · rintro rfl
    rcases List.mem_pair.mp ht with rfl | rfl
    · rfl
    · rfl

/-- A mask that is set in part is written as a number; here that stands first, with a sign and a zero, and one of the
names stands twice. -/
theorem ofText_rearranged_sample :
    Header.flags6 ∈ [Header.flags6, Header.flags7] ∧
      Rearranges (text .full (⟨0b00010011⟩ : Flags Header.flags6)).toList "0x+010|BATTERY| MIRRORING |BATTERY".toList ∧
      ofText .full "0x+010|BATTERY| MIRRORING |BATTERY" = .ok (⟨0b00010011⟩ : Flags Header.flags6) := by
  have ht : Header.flags6 ∈ [Header.flags6, Header.flags7] := List.mem_cons_self ..
  have htext : Rearranges (text .full (⟨0b00010011⟩ : Flags Header.flags6)).toList
      "0x+010|BATTERY| MIRRORING |BATTERY".toList := by
    have hparts : Text.parts (text .full (⟨0b00010011⟩ : Flags Header.flags6)).toList =
        ["MIRRORING".toList, "BATTERY".toList, "0x10".toList] := by decide
    have hnumber : Respells "0x10".toList "0x+010".toList := .number (Or.inr rfl) 1
    have hrow : Text.Row ["0x+010".toList, "BATTERY".toList, "MIRRORING".toList, "BATTERY".toList]
        "0x+010|BATTERY| MIRRORING |BATTERY".toList := (Text.row_iff_parts_eq (by decide)).mpr (by decide)
    refine .row (by decide) hrow ?_ ?_
    · rw [hparts]
      simp only [List.forall_mem_cons]
      refine ⟨⟨_, ?_, hnumber⟩, ⟨_, ?_, .same _⟩, ⟨_, ?_, .same _⟩, ⟨_, ?_, .same _⟩, by simp⟩
      all_goals simp
    · rw [hparts]
      simp only [List.forall_mem_cons]
      refine ⟨⟨_, ?_, .same _⟩, ⟨_, ?_, .same _⟩, ⟨_, ?_, hnumber⟩, by simp⟩
      all_goals simp
  exact ⟨ht, htext, (ofText_rearranged ht ⟨0b00010011⟩).2 .full _ htext⟩

end CartridgeFixture.Flags
