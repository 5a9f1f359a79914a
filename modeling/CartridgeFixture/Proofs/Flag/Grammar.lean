import CartridgeFixture.Flag.Text
import CartridgeFixture.Header.Flags
import CartridgeFixture.Proofs.Flag.Bits
import CartridgeFixture.Proofs.Text.Numeral
import CartridgeFixture.Proofs.Text.Parts

/-!
# The grammar of flag texts

A part **denotes** a value: a name that of its flag, a number behind `0x` the byte. A text is read iff it is blank or
each of its parts denotes a value, and the result is the union of these (`ofText_eq_ok_iff`). This holds for every table
whose names can be told apart in a text (`Legible`), as those of the two flag bytes can.
-/
namespace CartridgeFixture

/-! ## Words -/

theorem word_lowerDigits : Text.Word Numeral.lowerDigits := by decide

theorem word_upperDigits : Text.Word Numeral.upperDigits := by decide

theorem solid_of_isDigit {base value : Nat} {c : Char} (h : Numeral.IsDigit base c value) :
    Text.isBlank c = false ∧ c ≠ '|' := by
  rcases h.spelt with h | h
  · exact word_lowerDigits.solid c (List.mem_of_getElem? h)
  · exact word_upperDigits.solid c (List.mem_of_getElem? h)

/-- A numeral behind the mark `0x` is a word. -/
theorem Text.Word.number {base n : Nat} {text : List Char} (h : Numeral.Denotes base text n) :
    Text.Word ('0' :: 'x' :: text) := by
  obtain ⟨hsign, hdigits, -⟩ := h
  rename_i sign digits values
  obtain ⟨hsolid, -⟩ := (List.forall₂_and_left digits values).mp
    (hdigits.imp fun c value hc => And.intro (solid_of_isDigit hc) hc)
  have hmark : Text.Word ('0' :: 'x' :: sign) := by
    rcases hsign with rfl | rfl
    · decide
    · decide
  refine ⟨List.cons_ne_nil _ _, fun c hc => ?_⟩
  have hc : c ∈ ('0' :: 'x' :: sign) ++ digits := hc
  rcases List.mem_append.mp hc with hc | hc
  · exact hmark.solid c hc
  · exact hsolid c hc

/-- The names are words, no two flags share one, and none looks like a number. -/
structure FlagTable.Legible (t : FlagTable) : Prop where
  distinct : (t.flags.map Flag.name).Nodup
  words : ∀ flag ∈ t.flags, Text.Word flag.name.toList
  unnumbered : ∀ flag ∈ t.flags, ¬ ['0', 'x'] <+: flag.name.toList

namespace Header

theorem legible_flags6 : flags6.Legible where
  distinct := by decide
  words := by decide
  unnumbered := by decide

theorem legible_flags7 : flags7.Legible where
  distinct := by decide
  words := by decide
  unnumbered := by decide

theorem legible_of_mem {t : FlagTable} (h : t ∈ [flags6, flags7]) : t.Legible := by
  rcases List.mem_pair.mp h with rfl | rfl
  · exact legible_flags6
  · exact legible_flags7

end Header

namespace Flags
variable {t : FlagTable} {form : FlagText}

/-- **What a part denotes**: numbers are not part of the strict form. -/
inductive Denotes (t : FlagTable) (form : FlagText) : List Char → Flags t → Prop
  | name {flag : Flag} (h : flag ∈ t.flags) : Denotes t form flag.name.toList (retain flag.bits)
  | number {digits : List Char} {n : Nat} (hform : form ≠ .strict) (h : Numeral.Denotes 16 digits n)
      (hbyte : n ≤ 255) : Denotes t form ('0' :: 'x' :: digits) (retain n.toUInt8)

theorem Denotes.word (h : t.Legible) {part : List Char} {value : Flags t} (hpart : Denotes t form part value) :
    Text.Word part := by
  cases hpart with
  | name hflag => exact h.words _ hflag
  | number hform hdigits hbyte => exact .number hdigits

/-! ## Parts -/

/-- Names are told apart, so a name that is found is that of one flag. -/
theorem ofName?_eq_some_iff (h : t.Legible) {name : String} {value : Flags t} :
    ofName? name = some value ↔ ∃ flag ∈ t.flags, flag.name = name ∧ value = retain flag.bits := by
  unfold ofName?
  constructor
  · intro hfound
    obtain ⟨flag, hflag, rfl⟩ := Option.map_eq_some_iff.mp hfound
    have hname : flag.name = name := by simpa using List.find?_some hflag
    exact ⟨flag, List.mem_of_find?_eq_some hflag, hname, rfl⟩
  · rintro ⟨flag, hflag, rfl, rfl⟩
    have hfound : (t.flags.find? (·.name == flag.name)).isSome = true :=
      List.find?_isSome.mpr ⟨flag, hflag, beq_self_eq_true _⟩
    obtain ⟨other, hother⟩ := Option.isSome_iff_exists.mp hfound
    have hname : other.name = flag.name := by simpa using List.find?_some hother
    obtain rfl := List.inj_on_of_nodup_map h.distinct (List.mem_of_find?_eq_some hother) hflag hname
    rw [hother]
    rfl

theorem denotes_of_readTrimmed (h : t.Legible) {part : List Char} {value : Flags t}
    (hread : readTrimmed form part = .ok value) : Denotes t form part value := by
  unfold readTrimmed at hread
  split at hread
  · cases hread
  · split at hread
    · cases hread
    rename_i hform
    split at hread
    · rename_i n hn
      cases hread
      obtain ⟨hdenotes, hbyte⟩ := Numeral.read?_eq_some_iff.mp hn
      exact .number hform hdenotes hbyte
    · cases hread
  · split at hread
    · rename_i value hfound
      cases hread
      obtain ⟨flag, hflag, hname, rfl⟩ := (ofName?_eq_some_iff h).mp hfound
      have htext := congrArg String.toList hname
      rw [String.toList_ofList] at htext
      rw [← htext]
      exact .name hflag
    · cases hread

theorem Denotes.readTrimmed (h : t.Legible) {part : List Char} {value : Flags t} (hpart : Denotes t form part value) :
    readTrimmed form part = .ok value := by
  cases hpart with
  | @name flag hflag =>
    unfold Flags.readTrimmed
    split
    · rename_i hnil
      exact absurd hnil (h.words flag hflag).nonempty
    · rename_i digits htext
      exact absurd ⟨digits, htext.symm⟩ (h.unnumbered flag hflag)
    · have hfound : ofName? flag.name = some (retain flag.bits : Flags t) :=
        (ofName?_eq_some_iff h).mpr ⟨flag, hflag, rfl, rfl⟩
      rw [String.ofList_toList, hfound]
  | number hform hdigits hbyte =>
    have hread := Numeral.read?_eq_some_iff.mpr ⟨hdigits, hbyte⟩
    simp only [Flags.readTrimmed, if_neg hform, hread]
    rfl

/-- A part is read iff it denotes a value. -/
theorem readTrimmed_eq_ok_iff (h : t.Legible) {part : List Char} {value : Flags t} :
    readTrimmed form part = .ok value ↔ Denotes t form part value :=
  ⟨denotes_of_readTrimmed h, Denotes.readTrimmed h⟩

/-- A part denotes one value. -/
theorem Denotes.unique (h : t.Legible) {part : List Char} {value other : Flags t}
    (hvalue : Denotes t form part value) (hother : Denotes t form part other) : value = other := by
  have hread := (hvalue.readTrimmed h).symm.trans (hother.readTrimmed h)
  exact Except.ok.inj hread

/-! ## Texts -/

theorem bind_eq_ok_iff {ε α β : Type} {x : Except ε α} {g : α → Except ε β} {b : β} :
    (x >>= g) = .ok b ↔ ∃ a, x = .ok a ∧ g a = .ok b := by
  cases x with
  | error e => simp [bind, Except.bind]
  | ok a => simp [bind, Except.bind]

/-- A row of parts is read iff each of them denotes a value. -/
theorem readParts_eq_ok_iff (h : t.Legible) {pieces : List (List Char)} {f : Flags t} :
    readParts form pieces = .ok f ↔
      ∃ values, List.Forall₂ (Denotes t form) (pieces.map Text.trim) values ∧ f = unions values := by
  induction pieces generalizing f with
  | nil =>
    constructor
    · intro hread
      cases hread
      exact ⟨[], .nil, rfl⟩
    · rintro ⟨_, ⟨⟩, rfl⟩
      rfl
  | cons piece rest ih =>
    simp only [readParts, bind_eq_ok_iff]
    constructor
    · rintro ⟨value, hvalue, g, hg, hunion⟩
      obtain rfl : value.union g = f := Except.ok.inj hunion
      obtain ⟨values, hvalues, rfl⟩ := ih.mp hg
      exact ⟨value :: values, .cons ((readTrimmed_eq_ok_iff h).mp hvalue) hvalues, (unions_cons value values).symm⟩
    · rintro ⟨_, hvalues, rfl⟩
      cases hvalues with
      | @cons _ value _ values hvalue hvalues =>
        exact ⟨value, (readTrimmed_eq_ok_iff h).mpr hvalue, unions values, ih.mpr ⟨values, hvalues, rfl⟩,
          congrArg Except.ok (unions_cons value values).symm⟩

/-- What of a value a form keeps. -/
def kept (form : FlagText) (f : Flags t) : Flags t := if form = .truncated then truncate f.bits else f

/-- The parts that denote values are those of the text, so they are read one after the other. -/
theorem denotes_parts_iff (h : t.Legible) {text : List Char} {values : List (Flags t)} :
    List.Forall₂ (Denotes t form) (Text.parts text) values ↔
      ∃ parts, Text.Row parts text ∧ List.Forall₂ (Denotes t form) parts values := by
  have hwords : ∀ parts, List.Forall₂ (Denotes t form) parts values → ∀ part ∈ parts, Text.Word part := by
    intro parts hparts
    exact ((List.forall₂_and_left parts values).mp (hparts.imp fun part value hpart => ⟨hpart.word h, hpart⟩)).1
  constructor
  · intro hparts
    exact ⟨Text.parts text, (Text.row_iff_parts_eq (hwords _ hparts)).mpr rfl, hparts⟩
  · rintro ⟨parts, hrow, hparts⟩
    rwa [(Text.row_iff_parts_eq (hwords parts hparts)).mp hrow]

/-- **A text is read iff it is blank or each of its parts denotes a value**; the result is the union of these. -/
theorem ofText_eq_ok_iff (h : t.Legible) {text : String} {f : Flags t} :
    ofText form text = .ok f ↔
      ((∀ c ∈ text.toList, Text.isBlank c = true) ∧ f = empty) ∨
      ∃ parts values, Text.Row parts text.toList ∧ List.Forall₂ (Denotes t form) parts values ∧
        f = (unions values).kept form := by
  unfold ofText
  split
  · rename_i hblank
    have hblank : ∀ c ∈ text.toList, Text.isBlank c = true := List.all_eq_true.mp hblank
    constructor
    · intro hread
      cases hread
      exact Or.inl ⟨hblank, rfl⟩
    · rintro (⟨-, rfl⟩ | ⟨parts, values, hrow, hvalues, -⟩)
      · rfl
      · -- the one part of a blank text is empty and denotes nothing
        have hvalues := (denotes_parts_iff h).mpr ⟨parts, hrow, hvalues⟩
        rw [Text.parts_of_blank hblank] at hvalues
        cases hvalues with
        | cons hvalue _ => exact absurd rfl (hvalue.word h).nonempty
  · rename_i hblank
    rw [bind_eq_ok_iff]
    constructor
    · rintro ⟨g, hg, hkept⟩
      obtain rfl : g.kept form = f := Except.ok.inj hkept
      obtain ⟨values, hvalues, rfl⟩ := (readParts_eq_ok_iff h).mp hg
      obtain ⟨parts, hrow, hvalues⟩ := (denotes_parts_iff h).mp hvalues
      exact Or.inr ⟨parts, values, hrow, hvalues, rfl⟩
    · rintro (⟨hall, -⟩ | ⟨parts, values, hrow, hvalues, rfl⟩)
      · exact absurd (List.all_eq_true.mpr hall) hblank
      · have hvalues := (denotes_parts_iff h).mpr ⟨parts, hrow, hvalues⟩
        exact ⟨unions values, (readParts_eq_ok_iff h).mpr ⟨values, hvalues, rfl⟩, rfl⟩

theorem forall₂_denotes_strict {parts : List (List Char)} {values : List (Flags t)} :
    List.Forall₂ (Denotes t .strict) parts values ↔
      ∃ named : List Flag, named ⊆ t.flags ∧ parts = named.map (·.name.toList) ∧
        values = named.map fun flag => retain flag.bits := by
  constructor
  · intro h
    induction h with
    | nil => exact ⟨[], List.nil_subset _, rfl, rfl⟩
    | cons hpart _ ih =>
      obtain ⟨named, hnamed, rfl, rfl⟩ := ih
      cases hpart with
      | @name flag hflag => exact ⟨flag :: named, List.cons_subset.mpr ⟨hflag, hnamed⟩, rfl, rfl⟩
      | number hform => exact absurd rfl hform
  · rintro ⟨named, hnamed, rfl, rfl⟩
    rw [List.forall₂_map_left_iff, List.forall₂_map_right_iff, List.forall₂_same]
    exact fun flag hflag => .name (hnamed hflag)

/-- **The grammar of the two flag bytes.** A text is a value iff it is blank or a row of parts each of which is the name
of a declared flag or `0x` with a number of one byte, and the value is the union of these; in the strict form every part
is a name. -/
theorem reads_exactly_grammar {t : FlagTable} (ht : t ∈ [Header.flags6, Header.flags7]) (text : String)
    (f : Flags t) :
    (ofText .full text = .ok f ↔
      ((∀ c ∈ text.toList, Text.isBlank c = true) ∧ f = empty) ∨
      ∃ parts values, Text.Row parts text.toList ∧ List.Forall₂ (Denotes t .full) parts values ∧ f = unions values) ∧
    (ofText .strict text = .ok f ↔
      ((∀ c ∈ text.toList, Text.isBlank c = true) ∧ f = empty) ∨
      ∃ named : List Flag, named ⊆ t.flags ∧ Text.Row (named.map (·.name.toList)) text.toList ∧
        f = unions (named.map fun flag => retain flag.bits)) := by
  have h := Header.legible_of_mem ht
  constructor
  · exact ofText_eq_ok_iff h
  · rw [ofText_eq_ok_iff h]
    refine or_congr Iff.rfl ⟨?_, ?_⟩
    · rintro ⟨parts, values, hrow, hvalues, rfl⟩
      obtain ⟨named, hnamed, rfl, rfl⟩ := forall₂_denotes_strict.mp hvalues
      exact ⟨named, hnamed, hrow, rfl⟩
    · rintro ⟨named, hnamed, hrow, rfl⟩
      exact ⟨_, _, hrow, forall₂_denotes_strict.mpr ⟨named, hnamed, rfl, rfl⟩, rfl⟩

/-- A name with blanks around it, and the high bits as a number with a sign and a zero in front. -/
theorem reads_exactly_grammar_sample :
    Header.flags6 ∈ [Header.flags6, Header.flags7] ∧
      ofText .full " BATTERY |0x+0f0" = .ok (⟨0b11110010⟩ : Flags Header.flags6) := by
  have ht : Header.flags6 ∈ [Header.flags6, Header.flags7] := List.mem_cons_self ..
  refine ⟨ht, (reads_exactly_grammar ht " BATTERY |0x+0f0" ⟨0b11110010⟩).1.mpr (Or.inr ?_)⟩
  refine ⟨["BATTERY".toList, "0x+0f0".toList], [⟨0b10⟩, ⟨0b11110000⟩], ?_, ?_, by decide⟩
  · have hname : Text.Padded "BATTERY".toList " BATTERY ".toList := ⟨[' '], [' '], by simp; rfl, by simp; rfl, rfl⟩
    have hnumber : Text.Padded "0x+0f0".toList "0x+0f0".toList := ⟨[], [], by simp, by simp, rfl⟩
    exact .cons hname (.last hnumber)
  · have hdigits : Numeral.Denotes 16 "+0f0".toList 0b11110000 :=
      Numeral.denotes_write (by decide) (by decide) (Or.inr rfl) 1 0b11110000
    have hname : (⟨"BATTERY", 0b10⟩ : Flag) ∈ Header.flags6.flags := by decide
    exact .cons (.name hname) (.cons (.number (by decide) hdigits (by decide)) .nil)

end Flags

end CartridgeFixture
