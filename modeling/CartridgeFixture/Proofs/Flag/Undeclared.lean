import CartridgeFixture.Flag.Step
import CartridgeFixture.Proofs.Flag.Grammar

/-!
# Where undeclared bits come from

An undeclared bit gets into a value only as it was given: in an argument that a step joins to the value or puts in its
place, or as a number in a text (`Step.brings`). No step makes one of its own, so those of a value at any point of a run
are **explained** by what the steps so far have brought (`Explained.step`, `Explained.after`). Some steps leave none
behind at all, whatever the value was (`Step.Cleans`).
-/
namespace CartridgeFixture

namespace Flags
variable {t : FlagTable} {form : FlagText}

/-- The bits of a value that no flag declares. -/
def undeclared (f : Flags t) : Flags t := f.diff all

@[simp] theorem testBit_undeclared (f : Flags t) (i : Nat) :
    testBit f.undeclared.bits i = (testBit f.bits i && !testBit t.mask i) := testBit_and_not f.bits t.mask i

theorem hasUndeclared_eq_false_iff {f : Flags t} :
    f.hasUndeclared = false ↔ ∀ i, testBit f.undeclared.bits i = false := by
  have hbits : f.hasUndeclared = false ↔ f.undeclared.bits = 0 := by
    simp [hasUndeclared, undeclared, diff, all]
  rw [hbits]
  constructor
  · intro h i
    rw [h, testBit_zero]
  · intro h
    exact ext_testBit fun i => (h i).trans (testBit_zero i).symm

/-! ## What steps bring -/

/-- The value of a part that is a number. -/
def numberOf? : List Char → Option (Flags t)
  | '0' :: 'x' :: digits => (Numeral.read? 16 255 digits).map fun n => retain n.toUInt8
  | _ => none

/-- The values of the parts of a text that are numbers. -/
def numbersIn (text : String) : List (Flags t) := (Text.parts text.toList).filterMap numberOf?

/-- **What a step brings**: the arguments whose bits it can set. An argument that can only take bits away, or is only
asked about, counts for nothing. A text in the full form brings its numbers, if it can be read. -/
def Step.brings : Step → List (Flags t)
  | .ofRetained bits | .operate .union bits | .operate .symmDiff bits | .set bits true => [retain bits]
  | .gather values | .extend values => values.map retain
  | .ofText .full text => match (Flags.ofText .full text : Except FlagTextError (Flags t)) with
    | .ok _ => numbersIn text
    | .error _ => []
  | _ => []

/-- The undeclared bits of a value are among those of some others. -/
def Explained (values : List (Flags t)) (f : Flags t) : Prop :=
  (unions (values.map undeclared)).contains f.undeclared = true

theorem explained_iff {values : List (Flags t)} {f : Flags t} :
    Explained values f ↔
      ∀ i, testBit f.undeclared.bits i = true → ∃ value ∈ values, testBit value.undeclared.bits i = true := by
  unfold Explained contains
  rw [beq_iff_eq, and_eq_right_iff]
  simp only [testBit_unions, List.any_map, List.any_eq_true, Function.comp_apply]

theorem explained_of_declared {f : Flags t} (h : f.hasUndeclared = false) (values : List (Flags t)) :
    Explained values f := by
  refine explained_iff.mpr fun i hi => ?_
  rw [hasUndeclared_eq_false_iff.mp h i] at hi
  cases hi

namespace Explained
variable {values more : List (Flags t)} {f g h : Flags t}

theorem of_mem (hmem : f ∈ values) : Explained values f := explained_iff.mpr fun _ hi => ⟨f, hmem, hi⟩

theorem mono (hf : Explained values f) (hsub : values ⊆ more) : Explained more f := by
  refine explained_iff.mpr fun i hi => ?_
  obtain ⟨value, hvalue, hi⟩ := explained_iff.mp hf i hi
  exact ⟨value, hsub hvalue, hi⟩

/-- A value that has no bits but those of two others is explained if these are. -/
theorem of_bits (hf : Explained values f) (hg : Explained values g)
    (hbits : ∀ i, testBit h.bits i = true → testBit f.bits i = true ∨ testBit g.bits i = true) :
    Explained values h := by
  refine explained_iff.mpr fun i hi => ?_
  rw [testBit_undeclared, Bool.and_eq_true] at hi
  rcases hbits i hi.1 with hbit | hbit
  · exact explained_iff.mp hf i (by rw [testBit_undeclared, hbit, hi.2, Bool.and_self])
  · exact explained_iff.mp hg i (by rw [testBit_undeclared, hbit, hi.2, Bool.and_self])

theorem foldl_union {others : List (Flags t)} (hf : Explained values f)
    (hothers : ∀ other ∈ others, Explained values other) : Explained values (others.foldl union f) := by
  induction others generalizing f with
  | nil => exact hf
  | cons other others ih =>
    obtain ⟨hother, hothers⟩ := List.forall_mem_cons.mp hothers
    refine ih (hf.of_bits hother fun i hi => ?_) hothers
    simpa [union] using hi

theorem declared (hf : Explained values f) (hvalues : ∀ value ∈ values, value.hasUndeclared = false) :
    f.hasUndeclared = false := by
  refine hasUndeclared_eq_false_iff.mpr fun i => Bool.eq_false_iff.mpr fun hi => ?_
  obtain ⟨value, hvalue, hi⟩ := explained_iff.mp hf i hi
  rw [hasUndeclared_eq_false_iff.mp (hvalues value hvalue) i] at hi
  cases hi

end Explained

/-! ## Values without undeclared bits -/

theorem hasUndeclared_truncate (bits : UInt8) : (truncate bits : Flags t).hasUndeclared = false := by
  refine hasUndeclared_eq_false_iff.mpr fun i => ?_
  rw [testBit_undeclared, truncate, testBit_and, Bool.and_assoc, Bool.and_not_self, Bool.and_false]

theorem hasUndeclared_empty : (empty : Flags t).hasUndeclared = false := by
  simp [hasUndeclared, empty]

theorem hasUndeclared_all : (all : Flags t).hasUndeclared = false := by
  refine hasUndeclared_eq_false_iff.mpr fun i => ?_
  rw [testBit_undeclared, all, Bool.and_not_self]

theorem hasUndeclared_ofBits? {bits : UInt8} {f : Flags t} (h : ofBits? bits = some f) : f.hasUndeclared = false := by
  unfold ofBits? at h
  split at h
  · rename_i hbits
    cases h
    rw [← hbits]
    exact hasUndeclared_truncate bits
  · cases h

theorem hasUndeclared_ofName? {name : String} {f : Flags t} (h : ofName? name = some f) : f.hasUndeclared = false := by
  obtain ⟨flag, hflag, rfl⟩ := Option.map_eq_some_iff.mp h
  refine hasUndeclared_eq_false_iff.mpr fun i => ?_
  rw [testBit_undeclared]
  cases hi : testBit flag.bits i with
  | false => rfl
  | true =>
    have hmask : testBit t.mask i = true :=
      (testBit_mask t i).trans (List.any_eq_true.mpr ⟨flag, List.mem_of_find?_eq_some hflag, hi⟩)
    rw [hmask]
    rfl

/-! ## Texts -/

theorem readTrimmed_cases {part : List Char} {f : Flags t} (h : readTrimmed form part = .ok f) :
    f.hasUndeclared = false ∨ form ≠ .strict ∧ numberOf? part = some f := by
  unfold readTrimmed at h
  split at h
  · cases h
  · split at h
    · cases h
    rename_i hform
    split at h
    · rename_i n hn
      cases h
      exact Or.inr ⟨hform, by rw [numberOf?, hn]; rfl⟩
    · cases h
  · split at h
    · rename_i value hname
      cases h
      exact Or.inl (hasUndeclared_ofName? hname)
    · cases h

/-- The undeclared bits of a row of parts are those of its numbers, of which the strict form has none. -/
theorem explained_readParts {pieces : List (List Char)} {f : Flags t} (h : readParts form pieces = .ok f) :
    Explained ((pieces.map Text.trim).filterMap numberOf?) f ∧ (form = .strict → f.hasUndeclared = false) := by
  induction pieces generalizing f with
  | nil =>
    cases h
    exact ⟨explained_of_declared hasUndeclared_empty _, fun _ => hasUndeclared_empty⟩
  | cons piece rest ih =>
    simp only [readParts, bind_eq_ok_iff] at h
    obtain ⟨value, hvalue, g, hg, hunion⟩ := h
    obtain rfl : value.union g = f := Except.ok.inj hunion
    obtain ⟨hrest, hstrict⟩ := ih hg
    have hbits : ∀ i, testBit (value.union g).bits i = true → testBit value.bits i = true ∨ testBit g.bits i = true :=
      fun i hi => by simpa [union] using hi
    have hsub : (rest.map Text.trim).filterMap numberOf? ⊆
        ((piece :: rest).map Text.trim).filterMap (numberOf? (t := t)) :=
      List.filterMap_subset _ (List.subset_cons_self ..)
    constructor
    · refine Explained.of_bits ?_ (hrest.mono hsub) hbits
      rcases readTrimmed_cases hvalue with hdeclared | ⟨-, hnumber⟩
      · exact explained_of_declared hdeclared _
      · exact .of_mem (List.mem_filterMap.mpr ⟨_, List.mem_cons_self .., hnumber⟩)
    · intro hform
      have hdeclared := (readTrimmed_cases hvalue).resolve_right fun hnumber => hnumber.1 hform
      have hnone := explained_of_declared hdeclared []
      exact (hnone.of_bits (explained_of_declared (hstrict hform) []) hbits).declared (by simp)

theorem explained_ofText {text : String} {f : Flags t} (h : ofText .full text = .ok f) :
    Explained (numbersIn text) f := by
  unfold ofText at h
  split at h
  · cases h
    exact explained_of_declared hasUndeclared_empty _
  · obtain ⟨g, hg, hkept⟩ := bind_eq_ok_iff.mp h
    cases hkept
    exact (explained_readParts hg).1

theorem hasUndeclared_ofText {text : String} {f : Flags t} (hform : form ≠ .full) (h : ofText form text = .ok f) :
    f.hasUndeclared = false := by
  unfold ofText at h
  split at h
  · cases h
    exact hasUndeclared_empty
  · obtain ⟨g, hg, hkept⟩ := bind_eq_ok_iff.mp h
    cases form with
    | full => exact absurd rfl hform
    | strict =>
      cases hkept
      exact (explained_readParts hg).2 rfl
    | truncated =>
      cases hkept
      exact hasUndeclared_truncate g.bits

/-! ## Steps and runs -/

/-- **Steps that leave no undeclared bits behind**, with the answer that tells so. -/
inductive Step.Cleans : Step → Answer → Prop
  | clear : Cleans .clear .done
  | all : Cleans .all .done
  | ofTruncated (bits : UInt8) : Cleans (.ofTruncated bits) .done
  | complement : Cleans .complement .done
  | truncate : Cleans .truncate .done
  | ofBits (bits : UInt8) : Cleans (.ofBits bits) (.truth true)
  | ofName (name : String) : Cleans (.ofName name) (.truth true)
  | ofText {form : FlagText} (hform : form ≠ .full) (text : String) : Cleans (.ofText form text) (.truth true)

theorem eq_some_of_accept {f : Flags t} {value? : Option (Flags t)} (h : (f.accept value?).2 = .truth true) :
    value? = some (f.accept value?).1 := by
  cases value? with
  | none => cases h
  | some value => rfl

theorem hasUndeclared_step_of_cleans (f : Flags t) {s : Step} (h : s.Cleans (f.step s).2) :
    (f.step s).1.hasUndeclared = false := by
  generalize hanswer : (f.step s).2 = answer at h
  cases h with
  | clear => exact hasUndeclared_empty
  | all => exact hasUndeclared_all
  | ofTruncated bits => exact hasUndeclared_truncate bits
  | complement => exact hasUndeclared_truncate _
  | truncate => exact hasUndeclared_truncate f.bits
  | ofBits bits => exact hasUndeclared_ofBits? (eq_some_of_accept hanswer)
  | ofName name => exact hasUndeclared_ofName? (eq_some_of_accept hanswer)
  | @ofText form hform text =>
    simp only [step] at hanswer ⊢
    split
    · rename_i g hg
      exact hasUndeclared_ofText hform hg
    · rename_i hrefused
      rw [hrefused] at hanswer
      cases hanswer

namespace Explained
variable {values : List (Flags t)} {f : Flags t}

theorem accept (hf : Explained values f) {value? : Option (Flags t)}
    (h : ∀ value, value? = some value → value.hasUndeclared = false) : Explained values (f.accept value?).1 := by
  cases value? with
  | none => exact hf
  | some value => exact explained_of_declared (h value rfl) values

theorem operate (hf : Explained values f) (operator : Operator) {bits : UInt8}
    (hbrings : Step.brings (.operate operator bits) ⊆ values) : Explained values (operator.apply f ⟨bits⟩) := by
  cases operator with
  | union =>
    refine hf.of_bits (.of_mem (hbrings (List.mem_cons_self ..))) fun i hi => ?_
    simpa [Operator.apply, union, retain] using hi
  | inter =>
    refine hf.of_bits hf fun i hi => Or.inl ?_
    simp only [Operator.apply, inter, testBit_and, Bool.and_eq_true] at hi
    exact hi.1
  | diff =>
    refine hf.of_bits hf fun i hi => Or.inl ?_
    simp only [Operator.apply, diff, testBit_and_not, Bool.and_eq_true] at hi
    exact hi.1
  | symmDiff =>
    refine hf.of_bits (.of_mem (hbrings (List.mem_cons_self ..))) fun i hi => ?_
    simp only [Operator.apply, symmDiff, testBit_xor] at hi
    cases hbit : testBit f.bits i
    · rw [hbit, Bool.false_xor] at hi
      exact Or.inr hi
    · exact Or.inl rfl

/-- **A step brings all the undeclared bits that are new.** -/
theorem step (hf : Explained values f) {s : Step} (hbrings : s.brings ⊆ values) :
    Explained values (f.step s).1 := by
  have hgiven : ∀ bytes : List UInt8, bytes.map retain ⊆ values →
      ∀ value ∈ bytes.map retain, Explained values value := fun _ hsub _ hvalue => .of_mem (hsub hvalue)
  cases s with
  | clear | all | ofTruncated | complement | truncate =>
    exact explained_of_declared (hasUndeclared_step_of_cleans f (by constructor)) values
  | ofRetained bits => exact .of_mem (hbrings (List.mem_cons_self ..))
  | ofBits bits => exact hf.accept fun _ => hasUndeclared_ofBits?
  | ofName name => exact hf.accept fun _ => hasUndeclared_ofName?
  | ofText form text =>
    simp only [Flags.step]
    split
    · rename_i g hg
      by_cases hform : form = .full
      · subst hform
        simp only [Step.brings, hg] at hbrings
        exact (explained_ofText hg).mono hbrings
      · exact explained_of_declared (hasUndeclared_ofText hform hg) values
    · exact hf
  | operate operator bits => exact hf.operate operator hbrings
  | set bits on =>
    cases on with
    | true => exact hf.operate .union hbrings
    | false => exact hf.operate .diff (List.nil_subset _)
  | gather bytes =>
    exact (explained_of_declared hasUndeclared_empty values).foldl_union (hgiven bytes hbrings)
  | extend bytes => exact hf.foldl_union (hgiven bytes hbrings)
  | equals | contains | intersects | isEmpty | isAll | hasUndeclared | groups | names | display | write => exact hf

/-- **The steps of a run bring all the undeclared bits that are new.** -/
theorem after (hf : Explained values f) {steps : List Step} (hbrings : steps.flatMap Step.brings ⊆ values) :
    Explained values (f.after steps) := by
  induction steps generalizing f with
  | nil => exact hf
  | cons s rest ih =>
    rw [List.flatMap_cons] at hbrings
    obtain ⟨hfirst, hrest⟩ := List.append_subset.mp hbrings
    rw [after_cons]
    exact ih (hf.step hfirst) hrest

end Explained

/-- Every value of a run is explained by what the steps up to it have brought. -/
theorem explained_getElem?_run {steps : List Step} {i : Nat} {f : Flags t} {answer : Answer}
    (h : (run empty steps)[i]? = some (f, answer)) : Explained ((steps.take (i + 1)).flatMap Step.brings) f := by
  rw [getElem?_run] at h
  obtain ⟨s, hs, hstep⟩ := Option.map_eq_some_iff.mp h
  obtain rfl := congrArg Prod.fst hstep
  rw [List.take_add_one, hs, List.flatMap_append]
  refine Explained.step ?_ (List.subset_append_of_subset_right _ (by simp))
  exact (explained_of_declared hasUndeclared_empty _).after (List.subset_append_left _ _)

end Flags

namespace Header

open Flags

theorem hasUndeclared_flags6 (f : Flags flags6) : f.hasUndeclared = false := by
  have hmask : flags6.mask = 0xff := by decide
  refine hasUndeclared_eq_false_iff.mpr fun i => ?_
  rw [undeclared, diff, all, hmask]
  exact (congrArg (testBit · i) UInt8.and_zero).trans (testBit_zero i)

theorem mapperHigh_contains {f : Flags flags7} (h : f.hasUndeclared = false) : Flags7.mapperHigh.contains f = true := by
  refine beq_iff_eq.mpr (and_eq_right_iff.mpr fun i hi => ?_)
  have hbit := hasUndeclared_eq_false_iff.mp h i
  rw [testBit_undeclared, hi, Bool.true_and, Bool.not_eq_false'] at hbit
  exact hbit

/-- **No flag operation invents undeclared bits.**  Wherever a run stands, the undeclared bits of the value are among
those of the arguments and numbers that it has been given so far, and after a step that cleans there are none. So a
run for byte 7 that is given declared bits only never leaves the mapper number, and a value of byte 6 never has an
undeclared bit, since all its bits are declared. -/
theorem undeclared_bits_are_brought :
    (∀ (t : FlagTable) (steps : List Step) (i : Nat) (s : Step) (f : Flags t) (answer : Answer),
      steps[i]? = some s → (run empty steps)[i]? = some (f, answer) →
      (unions (((steps.take (i + 1)).flatMap Step.brings).map undeclared)).contains f.undeclared = true ∧
      (s.Cleans answer → f.hasUndeclared = false)) ∧
    (∀ steps : List Step,
      (∀ s ∈ steps, ∀ value ∈ (s.brings : List (Flags flags7)), value.hasUndeclared = false) →
      ∀ entry ∈ run (t := flags7) empty steps, Flags7.mapperHigh.contains entry.1 = true) ∧
    ∀ f : Flags flags6, f.hasUndeclared = false := by
  refine ⟨?_, ?_, hasUndeclared_flags6⟩
  · intro t steps i s f answer hs hrun
    refine ⟨explained_getElem?_run hrun, fun hcleans => ?_⟩
    rw [getElem?_run, hs] at hrun
    have hstep : (after empty (steps.take i)).step s = (f, answer) := Option.some.inj hrun
    have hclean := hasUndeclared_step_of_cleans (after empty (steps.take i)) (s := s) (by rw [hstep]; exact hcleans)
    rwa [hstep] at hclean
  · rintro steps hsteps ⟨f, answer⟩ hentry
    obtain ⟨i, hi⟩ := List.mem_iff_getElem?.mp hentry
    refine mapperHigh_contains ((explained_getElem?_run hi).declared fun value hvalue => ?_)
    obtain ⟨s, hs, hvalue⟩ := List.mem_flatMap.mp hvalue
    exact hsteps s (List.mem_of_mem_take hs) value hvalue

/-- A number in a text brings two bits of which the argument of an operator takes one away; the complement then leaves
none. A text that fails at its last part brings nothing. -/
theorem undeclared_bits_are_brought_sample :
    let steps : List Step := [.ofText .full "0x9c|nothing", .ofText .full "0x8c|MAPPER_HIGH_MASK",
      .operate .symmDiff 0x34, .complement]
    let known : List Step := [.operate .union 0x30, .ofText .strict "MAPPER_HIGH_MASK", .set 0x10 true]
    steps[2]? = some (.operate .symmDiff 0x34) ∧ (run (t := flags7) empty steps)[2]? = some (⟨0xc8⟩, .done) ∧
      (steps.take 3).flatMap Step.brings = ([⟨0x8c⟩, ⟨0x34⟩] : List (Flags flags7)) ∧
      (unions (((steps.take 3).flatMap Step.brings).map undeclared)).contains
        (undeclared (⟨0xc8⟩ : Flags flags7)) = true ∧
      (run (t := flags7) empty steps)[3]? = some (⟨0x30⟩, .done) ∧ (⟨0x30⟩ : Flags flags7).hasUndeclared = false ∧
      (∀ s ∈ known, ∀ value ∈ (s.brings : List (Flags flags7)), value.hasUndeclared = false) ∧
      ∀ entry ∈ run (t := flags7) empty known, Flags7.mapperHigh.contains entry.1 = true := by
  intro steps known
  have hrun : (run (t := flags7) empty steps)[2]? = some (⟨0xc8⟩, .done) := by decide
  have hrun' : (run (t := flags7) empty steps)[3]? = some (⟨0x30⟩, .done) := by decide
  have hknown : ∀ s ∈ known, ∀ value ∈ (s.brings : List (Flags flags7)), value.hasUndeclared = false := by decide
  exact ⟨rfl, hrun, by decide, (undeclared_bits_are_brought.1 flags7 steps 2 _ _ _ rfl hrun).1, hrun',
    (undeclared_bits_are_brought.1 flags7 steps 3 _ _ _ rfl hrun').2 .complement, hknown,
    undeclared_bits_are_brought.2.1 known hknown⟩

end Header

end CartridgeFixture
