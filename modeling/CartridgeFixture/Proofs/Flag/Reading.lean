import CartridgeFixture.Proofs.Flag.Undeclared

/-!
# How flag texts are read

Parts are read from left to right and the first one at fault decides the error, so a row of parts is read as its front
and then its back (`readParts_append`). A bar hence divides a text into two that are read one after the other
(`ofText_append_bar`). Only blanks are another matter: alone they are the empty value, beside a bar they are an empty
part.

The forms read the same parts. Truncating takes place when all of them have been read, and the strict form reads as the
full one does until it meets a number (`readParts_strict`). Where it meets none, they agree (`forms_agree`).
-/
namespace CartridgeFixture.Flags
variable {t : FlagTable} {form : FlagText}

/-! ## One part after the other -/

theorem empty_union (f : Flags t) : empty.union f = f := by
  refine ext_bits fun i => ?_
  rw [union, testBit_or, empty, testBit_zero, Bool.false_or]

theorem union_assoc (f g h : Flags t) : (f.union g).union h = f.union (g.union h) := by
  refine ext_bits fun i => ?_
  simp only [union, testBit_or, Bool.or_assoc]

/-- Every form keeps of a union what it keeps of the values. -/
theorem kept_union (f g : Flags t) : (f.union g).kept form = (f.kept form).union (g.kept form) := by
  unfold kept
  split
  · refine ext_bits fun i => ?_
    simp only [truncate, union, testBit_and, testBit_or, Bool.and_or_distrib_right]
  · rfl

/-- **A row of parts is read as its front and then its back.** -/
theorem readParts_append (front back : List (List Char)) :
    readParts (t := t) form (front ++ back) = do
      let f ← readParts form front
      let g ← readParts form back
      return f.union g := by
  induction front with
  | nil =>
    change readParts form back = readParts form back >>= fun g => pure (empty.union g)
    simp only [empty_union, bind_pure]
  | cons part rest ih => simp only [List.cons_append, readParts, ih, bind_assoc, pure_bind, union_assoc]

theorem ofText_of_blank {text : String} (h : text.toList.all Text.isBlank = true) :
    ofText (t := t) form text = .ok empty := if_pos h

theorem ofText_of_not_blank {text : String} (h : ¬ text.toList.all Text.isBlank = true) :
    ofText (t := t) form text = (readParts form (text.toList.splitOn '|')).map (kept form) := by
  rw [ofText, if_neg h]
  cases readParts form (text.toList.splitOn '|') <;> rfl

/-! ## Texts with a bar -/

/-- Reads what stands on one side of a bar. Blanks alone are no value there. -/
def readSide (form : FlagText) (text : String) : Except FlagTextError (Flags t) :=
  if text.toList.all Text.isBlank then .error .emptyPart else ofText form text

/-- A side has parts even if it is blank: then there is one, and it is empty. -/
theorem readSide_eq (text : String) :
    readSide (t := t) form text = (readParts form (text.toList.splitOn '|')).map (kept form) := by
  unfold readSide
  split
  · rename_i hblank
    have hblank : ∀ c ∈ text.toList, Text.isBlank c = true := List.all_eq_true.mp hblank
    rw [List.splitOn_eq_singleton fun hbar => Text.ne_bar_of_isBlank (hblank _ hbar) rfl, readParts, readPart,
      Text.trim_eq_nil_of_blank hblank]
    rfl
  · rename_i hblank
    exact ofText_of_not_blank hblank

/-- **A text with a bar is read as its two sides, the left one first.**  If both have values the text has their union.
Otherwise the left side decides the error if it is at fault, and the right side if it is not. -/
theorem ofText_append_bar (t : FlagTable) (form : FlagText) (left right : String) :
    ofText (t := t) form (left ++ "|" ++ right) = (do
      let f ← readSide form left
      let g ← readSide form right
      return f.union g) ∧
    FlagTextError.emptyPart.message = "encountered empty flag" := by
  refine ⟨?_, rfl⟩
  have htext : (left ++ "|" ++ right).toList = left.toList ++ '|' :: right.toList := by simp
  have hblank : ¬ (left ++ "|" ++ right).toList.all Text.isBlank = true := by
    rw [htext, List.all_append, List.all_cons]
    simp [show Text.isBlank '|' = false from rfl]
  rw [ofText_of_not_blank hblank, htext, List.splitOn_append_cons_self, readParts_append, readSide_eq, readSide_eq]
  cases readParts form (left.toList.splitOn '|') with
  | error e => rfl
  | ok f =>
    cases readParts form (right.toList.splitOn '|') with
    | error e => rfl
    | ok g => exact congrArg Except.ok (kept_union f g)

/-! ## The three forms -/

theorem readTrimmed_of_ne_strict (hform : form ≠ .strict) (part : List Char) :
    readTrimmed (t := t) form part = readTrimmed .full part := by
  unfold readTrimmed
  split
  · rfl
  · rw [if_neg hform]
    rfl
  · rfl

/-- The strict form refuses numbers, and reads all other parts as the full form does. -/
theorem readTrimmed_strict (part : List Char) :
    readTrimmed (t := t) .strict part = readTrimmed .full part ∨
      ['0', 'x'] <+: part ∧ readTrimmed (t := t) .strict part = .error .invalidNumber := by
  unfold readTrimmed
  split
  · exact Or.inl rfl
  · rename_i digits
    exact Or.inr ⟨⟨digits, rfl⟩, rfl⟩
  · exact Or.inl rfl

theorem readParts_of_ne_strict (hform : form ≠ .strict) (pieces : List (List Char)) :
    readParts (t := t) form pieces = readParts .full pieces := by
  induction pieces with
  | nil => rfl
  | cons piece rest ih => rw [readParts, readParts, ih, readPart, readPart, readTrimmed_of_ne_strict hform]

/-- **The strict form reads as the full one does until it meets a number**, which it refuses whatever stands behind. -/
theorem readParts_strict (pieces : List (List Char)) :
    readParts (t := t) .strict pieces = readParts .full pieces ∨
      (∃ part ∈ pieces.map Text.trim, ['0', 'x'] <+: part) ∧
        readParts (t := t) .strict pieces = .error .invalidNumber := by
  induction pieces with
  | nil => exact Or.inl rfl
  | cons piece rest ih =>
    simp only [readParts, readPart, List.map_cons]
    rcases readTrimmed_strict (t := t) (Text.trim piece) with hsame | ⟨hnumber, hrefused⟩
    · rw [hsame]
      cases readTrimmed (t := t) .full (Text.trim piece) with
      | error e => exact Or.inl rfl
      | ok f =>
        rcases ih with hsame | ⟨⟨part, hpart, hnumber⟩, hrefused⟩
        · rw [hsame]
          exact Or.inl rfl
        · rw [hrefused]
          exact Or.inr ⟨⟨part, List.mem_cons_of_mem _ hpart, hnumber⟩, rfl⟩
    · rw [hrefused]
      exact Or.inr ⟨⟨_, List.mem_cons_self .., hnumber⟩, rfl⟩

/-- Parts that the strict form reads are no numbers. -/
theorem not_number_of_readParts {pieces : List (List Char)} {f : Flags t} (h : readParts .strict pieces = .ok f) :
    ∀ part ∈ pieces.map Text.trim, ¬ ['0', 'x'] <+: part := by
  induction pieces generalizing f with
  | nil => simp
  | cons piece rest ih =>
    simp only [readParts, readPart, bind_eq_ok_iff] at h
    obtain ⟨value, hvalue, g, hg, -⟩ := h
    refine List.forall_mem_cons.mpr ⟨?_, ih hg⟩
    rintro ⟨digits, hnumber⟩
    rw [← hnumber] at hvalue
    cases hvalue

theorem ofText_truncated (text : String) :
    ofText (t := t) .truncated text = (ofText .full text).map fun f : Flags t => truncate f.bits := by
  by_cases hblank : text.toList.all Text.isBlank = true
  · rw [ofText_of_blank hblank, ofText_of_blank hblank]
    exact congrArg Except.ok (ext_bits fun i => by simp [truncate, empty])
  · rw [ofText_of_not_blank hblank, ofText_of_not_blank hblank, readParts_of_ne_strict (by decide)]
    cases readParts (t := t) .full (text.toList.splitOn '|') <;> rfl

theorem ofText_strict (text : String) :
    ofText (t := t) .strict text = ofText .full text ∨
      (∃ part ∈ Text.parts text.toList, ['0', 'x'] <+: part) ∧
        ofText (t := t) .strict text = .error .invalidNumber := by
  by_cases hblank : text.toList.all Text.isBlank = true
  · exact Or.inl (by rw [ofText_of_blank hblank, ofText_of_blank hblank])
  · rw [ofText_of_not_blank hblank, ofText_of_not_blank hblank]
    rcases readParts_strict (t := t) (text.toList.splitOn '|') with hsame | ⟨hnumber, hrefused⟩
    · rw [hsame]
      exact Or.inl rfl
    · rw [hrefused]
      exact Or.inr ⟨hnumber, rfl⟩

theorem not_number_of_ofText {text : String} {f : Flags t} (h : ofText .strict text = .ok f) :
    ∀ part ∈ Text.parts text.toList, ¬ ['0', 'x'] <+: part := by
  by_cases hblank : text.toList.all Text.isBlank = true
  · rw [Text.parts_of_blank (List.all_eq_true.mp hblank)]
    simp
  · rw [ofText, if_neg hblank] at h
    obtain ⟨g, hg, -⟩ := bind_eq_ok_iff.mp h
    exact not_number_of_readParts hg

theorem truncate_of_declared {f : Flags t} (h : f.hasUndeclared = false) : truncate f.bits = f := by
  refine ext_bits fun i => ?_
  have hbit := hasUndeclared_eq_false_iff.mp h i
  rw [testBit_undeclared] at hbit
  rw [truncate, testBit_and]
  cases hi : testBit f.bits i with
  | false => rfl
  | true => simpa [hi] using hbit

/-- **The forms agree.**  The truncated form fails where the full one does, and for the same cause; otherwise it gives
the declared bits of what that one gives. A value of the strict form has declared bits only, and the other forms give it
too. Only texts without numbers among their parts have such values, and for them strict and full form are the same; and
if the strict form fails at a part that is empty or no name, so does the full one. -/
theorem forms_agree (t : FlagTable) (text : String) :
    ofText (t := t) .truncated text = (ofText .full text).map (fun f : Flags t => truncate f.bits) ∧
    (∀ f : Flags t, ofText .strict text = .ok f →
      ofText .full text = .ok f ∧ ofText .truncated text = .ok f ∧ f.hasUndeclared = false ∧
        ∀ part ∈ Text.parts text.toList, ¬ ['0', 'x'] <+: part) ∧
    ((∀ part ∈ Text.parts text.toList, ¬ ['0', 'x'] <+: part) →
      ofText (t := t) .strict text = ofText .full text) ∧
    ∀ e : FlagTextError, e.message ∈ ["encountered empty flag", "unrecognized named flag"] →
      ofText (t := t) .strict text = .error e → ofText (t := t) .full text = .error e := by
  refine ⟨ofText_truncated text, fun f hf => ?_, fun hparts => ?_, fun e he hfails => ?_⟩
  · have hdeclared := hasUndeclared_ofText (by decide) hf
    rcases ofText_strict (t := t) text with hsame | ⟨-, hrefused⟩
    · have hfull := hsame.symm.trans hf
      refine ⟨hfull, ?_, hdeclared, not_number_of_ofText hf⟩
      rw [ofText_truncated, hfull]
      exact congrArg Except.ok (truncate_of_declared hdeclared)
    · cases hrefused.symm.trans hf
  · rcases ofText_strict (t := t) text with hsame | ⟨⟨part, hpart, hnumber⟩, -⟩
    · exact hsame
    · exact absurd hnumber (hparts part hpart)
  · rcases ofText_strict (t := t) text with hsame | ⟨-, hrefused⟩
    · exact hsame.symm.trans hfails
    · cases hrefused.symm.trans hfails
      exact absurd he (by decide)

/-- Names only, a value of the strict form, and a part at fault in front of a number. -/
theorem forms_agree_sample :
    (∀ part ∈ Text.parts " TRAINER |BATTERY".toList, ¬ ['0', 'x'] <+: part) ∧
      ofText (t := Header.flags6) .strict " TRAINER |BATTERY" = ofText .full " TRAINER |BATTERY" ∧
      ofText (t := Header.flags7) .strict "MAPPER_HIGH_MASK" = .ok ⟨0xf0⟩ ∧
      ofText (t := Header.flags7) .truncated "MAPPER_HIGH_MASK" = .ok ⟨0xf0⟩ ∧
      FlagTextError.emptyPart.message ∈ ["encountered empty flag", "unrecognized named flag"] ∧
      ofText (t := Header.flags7) .strict "|0x1" = .error .emptyPart ∧
      ofText (t := Header.flags7) .full "|0x1" = .error .emptyPart := by
  have hnames : ∀ part ∈ Text.parts " TRAINER |BATTERY".toList, ¬ ['0', 'x'] <+: part := by decide
  have hvalue : ofText (t := Header.flags7) .strict "MAPPER_HIGH_MASK" = .ok ⟨0xf0⟩ := by decide
  have hmessage : FlagTextError.emptyPart.message ∈ ["encountered empty flag", "unrecognized named flag"] := by decide
  have hfails : ofText (t := Header.flags7) .strict "|0x1" = .error .emptyPart := by decide
  exact ⟨hnames, (forms_agree Header.flags6 _).2.2.1 hnames,
    hvalue, ((forms_agree Header.flags7 _).2.1 _ hvalue).2.1,
    hmessage, hfails, (forms_agree Header.flags7 _).2.2.2 _ hmessage hfails⟩

end CartridgeFixture.Flags
