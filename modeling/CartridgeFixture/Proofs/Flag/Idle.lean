import CartridgeFixture.Flag.Step
import CartridgeFixture.Proofs.Flag.Grammar

/-!
# Steps without effect

A step is **idle** in a run if it only asks something or was refused there (`Step.Idle`). It leaves the value as it is
(`step_of_idle`), so the step behind it is taken with the value that it would have been taken with anyway. Hence any
idle steps may be deleted from a run: those that are kept end with the same values and give the same answers
(`run_without`), so no step is refused for the sake of one that was deleted.

A text is read part by part, but what its parts denote is joined only when all of them have been read: the first part
at fault takes the whole text with it (`step_of_fault`).
-/
namespace CartridgeFixture

/-- The entries of a list without those at some positions. -/
def without {α : Type} (deleted : Nat → Bool) (entries : List α) : List α :=
  (entries.zipIdx.filter fun e => !deleted e.2).map Prod.fst

theorem without_cons {α : Type} (deleted : Nat → Bool) (x : α) (rest : List α) :
    without deleted (x :: rest) =
      if deleted 0 then without (deleted ∘ Nat.succ) rest else x :: without (deleted ∘ Nat.succ) rest := by
  have hrest : (((rest.zipIdx 1).filter fun e => !deleted e.2).map Prod.fst) = without (deleted ∘ Nat.succ) rest := by
    rw [without, List.zipIdx_succ, List.filter_map, List.map_map]
    rfl
  rw [without, List.zipIdx_cons, List.filter_cons]
  cases deleted 0
  · exact congrArg (x :: ·) hrest
  · exact hrest

namespace Flags
variable {t : FlagTable} (f : Flags t)

/-- **A step without effect**, told by its answer: a question, or a byte, a name or a text that was refused. -/
inductive Step.Idle : Step → Answer → Prop
  | question {s : Step} (h : s.asks = true) (answer : Answer) : Idle s answer
  | byte (bits : UInt8) : Idle (.ofBits bits) (.truth false)
  | name (name : String) : Idle (.ofName name) (.truth false)
  | text (form : FlagText) (text : String) (error : FlagTextError) : Idle (.ofText form text) (.refused error)

theorem accept_of_refused {value? : Option (Flags t)} (h : (f.accept value?).2 = .truth false) :
    (f.accept value?).1 = f := by
  cases value? with
  | none => rfl
  | some value => cases h

/-- **An idle step leaves the value as it is.** -/
theorem step_of_idle {s : Step} (h : s.Idle (f.step s).2) : (f.step s).1 = f := by
  generalize hanswer : (f.step s).2 = answer at h
  cases h with
  | question hasks => exact step_of_asks f hasks
  | byte bits => exact f.accept_of_refused hanswer
  | name name => exact f.accept_of_refused hanswer
  | text form text error =>
    simp only [step] at hanswer ⊢
    split at hanswer
    · cases hanswer
    · rfl

/-! ## Runs -/

/-- The steps at some positions of a run are idle in it. -/
def IdleAt (deleted : Nat → Bool) (steps : List Step) : Prop :=
  ∀ i s g answer, deleted i = true → steps[i]? = some s → (f.run steps)[i]? = some (g, answer) → s.Idle answer

variable {f} {deleted : Nat → Bool} {s : Step} {rest steps : List Step}

theorem IdleAt.head (h : IdleAt f deleted (s :: rest)) (hdeleted : deleted 0 = true) : (f.step s).1 = f :=
  f.step_of_idle (h 0 s (f.step s).1 (f.step s).2 hdeleted rfl rfl)

theorem IdleAt.tail (h : IdleAt f deleted (s :: rest)) : IdleAt (f.step s).1 (deleted ∘ Nat.succ) rest :=
  fun i s' g answer hdeleted hs hrun => h (i + 1) s' g answer hdeleted hs hrun

/-- **A run without some idle steps** takes every other step with the same value and to the same answer. -/
theorem run_without (h : IdleAt f deleted steps) : f.run (without deleted steps) = without deleted (f.run steps) := by
  induction steps generalizing f deleted with
  | nil => rfl
  | cons s rest ih =>
    -- the rest runs from where the first step leads: if that one is idle, from the same value
    have hrest := ih h.tail
    rw [run, without_cons, without_cons]
    by_cases hdeleted : deleted 0 = true
    · rw [if_pos hdeleted, if_pos hdeleted, ← hrest, h.head hdeleted]
    · rw [if_neg hdeleted, if_neg hdeleted, ← hrest]
      rfl

theorem after_without (h : IdleAt f deleted steps) : f.after (without deleted steps) = f.after steps := by
  induction steps generalizing f deleted with
  | nil => rfl
  | cons s rest ih =>
    have hrest := ih h.tail
    rw [without_cons, after_cons, ← hrest]
    by_cases hdeleted : deleted 0 = true
    · rw [if_pos hdeleted, h.head hdeleted]
    · rw [if_neg hdeleted, after_cons]

/-! ## Texts -/

variable {form : FlagText} {good more : List (List Char)} {bad : List Char} {error : FlagTextError}

/-- The first part at fault decides, whatever the parts in front of it denote. -/
theorem readParts_of_fault (h : t.Legible) {pieces : List (List Char)}
    (hparts : pieces.map Text.trim = good ++ bad :: more) (hgood : ∀ part ∈ good, ∃ value, Denotes t form part value)
    (hbad : readTrimmed (t := t) form bad = .error error) : readParts (t := t) form pieces = .error error := by
  induction good generalizing pieces with
  | nil =>
    obtain ⟨piece, rest, rfl, rfl, -⟩ := List.map_eq_cons_iff.mp hparts
    rw [readParts, readPart, hbad]
    rfl
  | cons part good ih =>
    obtain ⟨piece, rest, rfl, rfl, hrest⟩ := List.map_eq_cons_iff.mp hparts
    obtain ⟨value, hvalue⟩ := hgood _ (List.mem_cons_self ..)
    have herror := ih hrest fun other hother => hgood other (List.mem_cons_of_mem _ hother)
    rw [readParts, readPart, hvalue.readTrimmed h, herror]
    rfl

/-- **A text with a part at fault behind parts that can be read** gives nothing of these. -/
theorem step_of_fault (h : t.Legible) (f : Flags t) {text : String}
    (hparts : Text.parts text.toList = good ++ bad :: more) (hsome : good ≠ [])
    (hgood : ∀ part ∈ good, ∃ value, Denotes t form part value)
    (hbad : readTrimmed (t := t) form bad = .error error) : f.step (.ofText form text) = (f, .refused error) := by
  have hsolid : ¬ text.toList.all Text.isBlank = true := by
    intro hblank
    -- a blank text has one part only
    rw [Text.parts_of_blank (List.all_eq_true.mp hblank)] at hparts
    have hlength := congrArg List.length hparts
    have hpos := List.length_pos_iff.mpr hsome
    rw [List.length_singleton, List.length_append, List.length_cons] at hlength
    omega
  have hread : ofText (t := t) form text = .error error := by
    rw [ofText, if_neg hsolid, readParts_of_fault h hparts hgood hbad]
    rfl
  rw [step, hread]

end Flags

namespace Header

open Flags

/-- **Questions and refused steps have no effect.**  If some of these are deleted from a run, every other step is taken
with the same value and answers the same, and the run ends with the same value. A text of which a part is at fault is
refused as a whole: the parts in front of that one have no effect, either. -/
theorem idle_steps_leave_no_trace :
    (∀ (t : FlagTable) (f : Flags t) (steps : List Step) (deleted : Nat → Bool), IdleAt f deleted steps →
      f.run (without deleted steps) = without deleted (f.run steps) ∧
      f.after (without deleted steps) = f.after steps) ∧
    ∀ t ∈ [flags6, flags7], ∀ (f : Flags t) (form : FlagText) (text : String) (good : List (List Char))
      (bad : List Char) (more : List (List Char)) (error : FlagTextError),
      Text.parts text.toList = good ++ bad :: more → good ≠ [] →
      (∀ part ∈ good, ∃ value, Denotes t form part value) → readTrimmed (t := t) form bad = .error error →
      ∀ rest, f.run (.ofText form text :: rest) = (f, .refused error) :: f.run rest := by
  refine ⟨fun t f steps deleted h => ⟨run_without h, after_without h⟩, ?_⟩
  intro t ht f form text good bad more error hparts hsome hgood hbad rest
  rw [run, step_of_fault (legible_of_mem ht) f hparts hsome hgood hbad]

/-- A question, a byte that is refused and a text that fails at its third part, deleted from between two steps. -/
theorem idle_steps_leave_no_trace_sample :
    let steps : List Step := [.ofRetained 0x21, .contains 0x20, .ofBits 0x08,
      .ofText .full "MAPPER_HIGH_MASK|0x0f|none", .operate .union 0x80, .names]
    let deleted : Nat → Bool := fun i => 1 ≤ i && i ≤ 3
    IdleAt (empty : Flags flags7) deleted steps ∧
      without deleted steps = [.ofRetained 0x21, .operate .union 0x80, .names] ∧
      (empty : Flags flags7).run [.ofRetained 0x21, .operate .union 0x80, .names] =
        without deleted ((empty : Flags flags7).run steps) ∧
      (⟨0x21⟩ : Flags flags7).run [.ofText .full "MAPPER_HIGH_MASK|0x0f|none", .isEmpty] =
        [(⟨0x21⟩, .refused .unknownName), (⟨0x21⟩, .truth false)] := by
  intro steps deleted
  have hbyte : ((empty : Flags flags7).run steps)[2]? = some (⟨0x21⟩, .truth false) := by decide
  have htext : ((empty : Flags flags7).run steps)[3]? = some (⟨0x21⟩, .refused .unknownName) := by decide
  have hidle : IdleAt (empty : Flags flags7) deleted steps := by
    intro i s g answer hi hs hanswer
    have hcases : i = 1 ∨ i = 2 ∨ i = 3 := by
      simp only [deleted, Bool.and_eq_true, decide_eq_true_eq] at hi
      omega
    rcases hcases with rfl | rfl | rfl
    · cases hs
      exact .question rfl answer
    · cases hs
      cases hbyte.symm.trans hanswer
      exact .byte 0x08
    · cases hs
      cases htext.symm.trans hanswer
      exact .text .full _ .unknownName
  have hfault : readTrimmed (t := flags7) .full "none".toList = .error .unknownName := by decide
  have hname : readTrimmed .full "MAPPER_HIGH_MASK".toList = .ok (⟨0xf0⟩ : Flags flags7) := by decide
  have hnumber : readTrimmed .full "0x0f".toList = .ok (⟨0x0f⟩ : Flags flags7) := by decide
  have hgood : ∀ part ∈ ["MAPPER_HIGH_MASK".toList, "0x0f".toList], ∃ value, Denotes flags7 .full part value := by
    intro part hpart
    rcases List.mem_pair.mp hpart with rfl | rfl
    · exact ⟨_, denotes_of_readTrimmed legible_flags7 hname⟩
    · exact ⟨_, denotes_of_readTrimmed legible_flags7 hnumber⟩
  refine ⟨hidle, by decide, (idle_steps_leave_no_trace.1 flags7 empty steps deleted hidle).1, ?_⟩
  exact idle_steps_leave_no_trace.2 flags7 (List.mem_pair.mpr (Or.inr rfl)) ⟨0x21⟩ .full "MAPPER_HIGH_MASK|0x0f|none"
    ["MAPPER_HIGH_MASK".toList, "0x0f".toList] "none".toList [] .unknownName (by decide) (List.cons_ne_nil _ _) hgood
    hfault [.isEmpty]

end Header

end CartridgeFixture
