import CartridgeFixture.Flag.Step
import CartridgeFixture.Header.Flags
import CartridgeFixture.Proofs.Flag.Bits
import Mathlib.Data.List.Forall2

/-!
# Runs that agree on some bits

No operation moves a bit to another place, so what becomes of the bits of a mask depends on the bits of that mask alone.
Two runs are **alike** on a mask if they take the same steps and their arguments agree on it (`Step.Alike`). One step
keeps two values in agreement (`AgreeOn.step`), hence a run does (`AgreeOn.after`).

Each field of the header is decoded from a mask of its own, and all of these are declared. Therefore no field tells
anything about the arguments outside its mask, and undeclared bits may be dropped wherever one likes
(`header_fields_apart`).
-/
namespace CartridgeFixture

/-- Two bytes have the same bits where the mask has bits. -/
def AgreeOn (mask a b : UInt8) : Prop := a &&& mask = b &&& mask

instance (mask a b : UInt8) : Decidable (AgreeOn mask a b) := inferInstanceAs (Decidable (_ = _))

namespace AgreeOn
variable {mask a b c d : UInt8}

theorem refl (mask a : UInt8) : AgreeOn mask a a := rfl

theorem symm (h : AgreeOn mask a b) : AgreeOn mask b a := Eq.symm h

theorem trans (h : AgreeOn mask a b) (h' : AgreeOn mask b c) : AgreeOn mask a c := Eq.trans h h'

theorem iff_testBit : AgreeOn mask a b ↔ ∀ i, testBit mask i = true → testBit a i = testBit b i := by
  constructor
  · intro h i hi
    have hbit := congrArg (testBit · i) h
    simpa [hi] using hbit
  · intro h
    refine ext_testBit fun i => ?_
    rw [testBit_and, testBit_and]
    cases hi : testBit mask i
    · rw [Bool.and_false, Bool.and_false]
    · rw [h i hi]

theorem testBit_eq (h : AgreeOn mask a b) {i : Nat} (hi : testBit mask i = true) : testBit a i = testBit b i :=
  iff_testBit.mp h i hi

/-- Agreement on a mask is agreement on every part of it. -/
theorem mono (h : AgreeOn mask a b) {part : UInt8} (hpart : mask &&& part = part) : AgreeOn part a b :=
  iff_testBit.mpr fun i hi => h.testBit_eq (and_eq_right_iff.mp hpart i hi)

theorem or (h : AgreeOn mask a b) (h' : AgreeOn mask c d) : AgreeOn mask (a ||| c) (b ||| d) :=
  iff_testBit.mpr fun i hi => by rw [testBit_or, testBit_or, h.testBit_eq hi, h'.testBit_eq hi]

theorem and (h : AgreeOn mask a b) (h' : AgreeOn mask c d) : AgreeOn mask (a &&& c) (b &&& d) :=
  iff_testBit.mpr fun i hi => by rw [testBit_and, testBit_and, h.testBit_eq hi, h'.testBit_eq hi]

theorem xor (h : AgreeOn mask a b) (h' : AgreeOn mask c d) : AgreeOn mask (a ^^^ c) (b ^^^ d) :=
  iff_testBit.mpr fun i hi => by rw [testBit_xor, testBit_xor, h.testBit_eq hi, h'.testBit_eq hi]

theorem andNot (h : AgreeOn mask a b) (h' : AgreeOn mask c d) : AgreeOn mask (a &&& ~~~c) (b &&& ~~~d) :=
  iff_testBit.mpr fun i hi => by rw [testBit_and_not, testBit_and_not, h.testBit_eq hi, h'.testBit_eq hi]

end AgreeOn

namespace Flags
variable {t : FlagTable} {mask : UInt8}

/-! ## One step -/

/-- **Steps that are alike on a mask.**  They do the same with arguments that agree on the mask, one by one. A step that
may be refused (a byte, a name or a text to be read) must be the same altogether, and questions may differ. -/
inductive Step.Alike (mask : UInt8) : Step → Step → Prop
  | same (s : Step) : Alike mask s s
  | ofTruncated {a b : UInt8} (h : AgreeOn mask a b) : Alike mask (.ofTruncated a) (.ofTruncated b)
  | ofRetained {a b : UInt8} (h : AgreeOn mask a b) : Alike mask (.ofRetained a) (.ofRetained b)
  | operate (operator : Operator) {a b : UInt8} (h : AgreeOn mask a b) :
      Alike mask (.operate operator a) (.operate operator b)
  | set (on : Bool) {a b : UInt8} (h : AgreeOn mask a b) : Alike mask (.set a on) (.set b on)
  | gather {as bs : List UInt8} (h : List.Forall₂ (AgreeOn mask) as bs) : Alike mask (.gather as) (.gather bs)
  | extend {as bs : List UInt8} (h : List.Forall₂ (AgreeOn mask) as bs) : Alike mask (.extend as) (.extend bs)
  | question {s other : Step} (hs : s.asks = true) (hother : other.asks = true) : Alike mask s other

end Flags

namespace AgreeOn
open Flags
variable {t : FlagTable} {mask a b : UInt8} {f g : Flags t}

theorem operate (operator : Operator) (h : AgreeOn mask f.bits g.bits) (harg : AgreeOn mask a b) :
    AgreeOn mask (operator.apply f ⟨a⟩).bits (operator.apply g ⟨b⟩).bits := by
  cases operator with
  | union => exact h.or harg
  | inter => exact h.and harg
  | diff => exact h.andNot harg
  | symmDiff => exact h.xor harg

theorem set (on : Bool) (h : AgreeOn mask f.bits g.bits) (harg : AgreeOn mask a b) :
    AgreeOn mask (f.set ⟨a⟩ on).bits (g.set ⟨b⟩ on).bits := by
  cases on with
  | true => exact h.operate .union harg
  | false => exact h.operate .diff harg

theorem complement (h : AgreeOn mask f.bits g.bits) : AgreeOn mask f.complement.bits g.complement.bits := by
  have hdrop := (AgreeOn.refl mask t.mask).andNot h
  rwa [UInt8.and_comm, UInt8.and_comm t.mask] at hdrop

theorem extend {as bs : List UInt8} (h : AgreeOn mask f.bits g.bits) (hargs : List.Forall₂ (AgreeOn mask) as bs) :
    AgreeOn mask ((as.map retain).foldl union f).bits ((bs.map retain).foldl union g).bits := by
  induction hargs generalizing f g with
  | nil => exact h
  | cons harg _ ih => exact ih (h.or harg)

theorem accept (h : AgreeOn mask f.bits g.bits) (value? : Option (Flags t)) :
    AgreeOn mask (f.accept value?).1.bits (g.accept value?).1.bits := by
  cases value? with
  | none => exact h
  | some value => exact .refl mask value.bits

/-- The same step keeps two values in agreement. -/
theorem step_same (h : AgreeOn mask f.bits g.bits) (s : Step) : AgreeOn mask (f.step s).1.bits (g.step s).1.bits := by
  cases s with
  | clear | all | ofTruncated | ofRetained | gather => exact .refl mask _
  | ofBits bits => exact h.accept _
  | ofName name => exact h.accept _
  | ofText form text =>
    simp only [Flags.step]
    split
    · exact .refl mask _
    · exact h
  | operate operator bits => exact h.operate operator (.refl mask bits)
  | set bits on => exact h.set on (.refl mask bits)
  | complement => exact h.complement
  | truncate => exact h.and (.refl mask t.mask)
  | extend values => exact h.extend (List.forall₂_same.mpr fun value _ => .refl mask value)
  | equals | contains | intersects | isEmpty | isAll | hasUndeclared | groups | names | display | write => exact h

/-- **Steps that are alike keep two values in agreement.** -/
theorem step (h : AgreeOn mask f.bits g.bits) {s other : Step} (halike : Step.Alike mask s other) :
    AgreeOn mask (f.step s).1.bits (g.step other).1.bits := by
  cases halike with
  | same => exact h.step_same s
  | ofTruncated harg => exact harg.and (.refl mask t.mask)
  | ofRetained harg => exact harg
  | operate operator harg => exact h.operate operator harg
  | set on harg => exact h.set on harg
  | gather hargs => exact (AgreeOn.refl mask (empty : Flags t).bits).extend hargs
  | extend hargs => exact h.extend hargs
  | question hs hother =>
    rw [step_of_asks f hs, step_of_asks g hother]
    exact h

/-! ## Runs -/

/-- **Runs that are alike keep two values in agreement.** -/
theorem after (h : AgreeOn mask f.bits g.bits) {steps others : List Step}
    (halike : List.Forall₂ (Step.Alike mask) steps others) :
    AgreeOn mask (f.after steps).bits (g.after others).bits := by
  induction halike generalizing f g with
  | nil => exact h
  | cons hstep _ ih =>
    rw [after_cons, after_cons]
    exact ih (h.step hstep)

/-- Steps that drop undeclared bits can be left out of a run, as far as the declared bits go. -/
theorem after_filter (h : AgreeOn t.mask f.bits g.bits) (steps : List Step) :
    AgreeOn t.mask (f.after steps).bits (g.after (steps.filter (· ≠ .truncate))).bits := by
  induction steps generalizing f g with
  | nil => exact h
  | cons s rest ih =>
    by_cases hs : s = .truncate
    · subst hs
      have hdrop : AgreeOn t.mask (f.bits &&& t.mask) f.bits := by
        rw [AgreeOn, UInt8.and_assoc, UInt8.and_self]
      rw [after_cons, List.filter_cons_of_neg (by simp)]
      exact ih (hdrop.trans h)
    · rw [after_cons, List.filter_cons_of_pos (by simpa using hs), after_cons]
      exact ih (h.step_same s)

end AgreeOn

/-! ## The fields of the header -/

namespace Header

open Flags

theorem contains_congr {t : FlagTable} {mask : UInt8} {f g : Flags t} (h : AgreeOn mask f.bits g.bits)
    (flag : Flags t) (hflag : mask &&& flag.bits = flag.bits) : f.contains flag = g.contains flag := by
  have hpart : f.bits &&& flag.bits = g.bits &&& flag.bits := h.mono hflag
  unfold contains
  rw [hpart]

/-- The fields in the low half of byte 6: mirroring, battery and trainer. -/
def lowFields (f : Flags flags6) : Mirroring × Bool × Bool :=
  (mirroringOf f, f.contains Flags6.battery, f.contains Flags6.trainer)

theorem lowFields_congr {f g : Flags flags6} (h : AgreeOn 0x0f f.bits g.bits) : lowFields f = lowFields g := by
  unfold lowFields mirroringOf
  rw [contains_congr h Flags6.fourScreen (by decide), contains_congr h Flags6.mirroring (by decide),
    contains_congr h Flags6.battery (by decide), contains_congr h Flags6.trainer (by decide)]

theorem mapperOf_congr {f f' : Flags flags6} {g g' : Flags flags7} (h : AgreeOn 0xf0 f.bits f'.bits)
    (h' : AgreeOn 0xf0 g.bits g'.bits) : mapperOf f g = mapperOf f' g' := by
  have hlow : f.bits &&& Flags6.mapperLow.bits = f'.bits &&& Flags6.mapperLow.bits := h
  have hhigh : g.bits &&& Flags7.mapperHigh.bits = g'.bits &&& Flags7.mapperHigh.bits := h'
  unfold mapperOf inter
  rw [hlow, hhigh]

/-- **The fields of the header do not leak into each other.**  Whatever the mask, runs that are alike on it end with
values that agree on it. So the mapper number depends on nothing but the high halves of the arguments for the two bytes,
and mirroring, battery and trainer on nothing but the low halves of those for byte 6; and runs that are the same but for
steps that drop undeclared bits end with the same fields. -/
theorem header_fields_apart :
    (∀ (t : FlagTable) (mask : UInt8) (f g : Flags t) (steps others : List Step),
      AgreeOn mask f.bits g.bits → List.Forall₂ (Step.Alike mask) steps others →
      AgreeOn mask (f.after steps).bits (g.after others).bits) ∧
    (∀ steps others steps' others' : List Step,
      List.Forall₂ (Step.Alike 0xf0) steps others → List.Forall₂ (Step.Alike 0xf0) steps' others' →
      mapperOf (after empty steps) (after empty steps') = mapperOf (after empty others) (after empty others')) ∧
    (∀ steps others : List Step, List.Forall₂ (Step.Alike 0x0f) steps others →
      lowFields (after empty steps) = lowFields (after empty others)) ∧
    ∀ steps others steps' others' : List Step,
      steps.filter (· ≠ .truncate) = others.filter (· ≠ .truncate) →
      steps'.filter (· ≠ .truncate) = others'.filter (· ≠ .truncate) →
      mapperOf (after empty steps) (after empty steps') = mapperOf (after empty others) (after empty others') ∧
      lowFields (after empty steps) = lowFields (after empty others) := by
  have hruns : ∀ (t : FlagTable) (mask : UInt8) (steps others : List Step),
      List.Forall₂ (Step.Alike mask) steps others →
      AgreeOn mask (after (t := t) empty steps).bits (after (t := t) empty others).bits :=
    fun t mask _ _ h => (AgreeOn.refl mask (empty : Flags t).bits).after h
  refine ⟨fun t mask f g steps others h halike => h.after halike, ?_, ?_, ?_⟩
  · intro steps others steps' others' h h'
    exact mapperOf_congr (hruns flags6 _ steps others h) (hruns flags7 _ steps' others' h')
  · intro steps others h
    exact lowFields_congr (hruns flags6 _ steps others h)
  · intro steps others steps' others' h h'
    -- either run agrees on the declared bits with the one that both become when nothing is dropped
    have hdrop : ∀ (t : FlagTable) (steps others : List Step),
        steps.filter (· ≠ .truncate) = others.filter (· ≠ .truncate) →
        AgreeOn t.mask (after (t := t) empty steps).bits (after (t := t) empty others).bits := by
      intro t steps others h
      have hleft := (AgreeOn.refl t.mask (empty : Flags t).bits).after_filter steps
      have hright := (AgreeOn.refl t.mask (empty : Flags t).bits).after_filter others
      rw [h] at hleft
      exact hleft.trans hright.symm
    have h6 := hdrop flags6 steps others h
    have h7 := hdrop flags7 steps' others' h'
    exact ⟨mapperOf_congr (h6.mono (by decide)) h7, lowFields_congr (h6.mono (by decide))⟩

/-- A complement and a text in between; then a run for byte 7 that drops its low bits early, late, or never. -/
theorem header_fields_apart_sample :
    let steps6 : List Step := [.ofRetained 0x41, .ofText .full "BATTERY|0x20", .complement, .set 0x4f false]
    let others6 : List Step := [.ofRetained 0x4e, .ofText .full "BATTERY|0x20", .complement, .set 0x40 false]
    let steps7 : List Step := [.gather [0x13, 0x80], .operate .symmDiff 0x31]
    let others7 : List Step := [.gather [0x1c, 0x8f], .operate .symmDiff 0x38]
    let dropped7 : List Step := [.truncate, .gather [0x13, 0x80], .truncate, .operate .symmDiff 0x31]
    List.Forall₂ (Step.Alike 0xf0) steps6 others6 ∧ List.Forall₂ (Step.Alike 0xf0) steps7 others7 ∧
      mapperOf (after empty steps6) (after empty steps7) = mapperOf (after empty others6) (after empty others7) ∧
      mapperOf (after empty steps6) (after empty steps7) = 0xa9 ∧
      AgreeOn 0xf0 (after (t := flags7) empty steps7).bits (after (t := flags7) empty others7).bits ∧
      List.Forall₂ (Step.Alike 0x0f) [.ofRetained 0x41, .complement] [.ofRetained 0xb1, .complement] ∧
      lowFields (after empty [.ofRetained 0x41, .complement]) =
        lowFields (after empty [.ofRetained 0xb1, .complement]) ∧
      steps7.filter (· ≠ .truncate) = dropped7.filter (· ≠ .truncate) ∧
      mapperOf (after empty steps6) (after empty steps7) = mapperOf (after empty steps6) (after empty dropped7) := by
  intro steps6 others6 steps7 others7 dropped7
  have h6 : List.Forall₂ (Step.Alike 0xf0) steps6 others6 :=
    .cons (.ofRetained (by decide)) (.cons (.same _) (.cons (.same _) (.cons (.set false (by decide)) .nil)))
  have h7 : List.Forall₂ (Step.Alike 0xf0) steps7 others7 :=
    .cons (.gather (.cons (by decide) (.cons (by decide) .nil))) (.cons (.operate .symmDiff (by decide)) .nil)
  have hlow : List.Forall₂ (Step.Alike 0x0f) [.ofRetained 0x41, .complement] [.ofRetained 0xb1, .complement] :=
    .cons (.ofRetained (by decide)) (.cons (.same _) .nil)
  have hdropped : steps7.filter (· ≠ .truncate) = dropped7.filter (· ≠ .truncate) := by decide
  exact ⟨h6, h7, header_fields_apart.2.1 _ _ _ _ h6 h7, by decide,
    header_fields_apart.1 flags7 0xf0 empty empty _ _ (.refl _ _) h7, hlow, header_fields_apart.2.2.1 _ _ hlow,
    hdropped, (header_fields_apart.2.2.2 _ _ _ _ rfl hdropped).1⟩

end Header

end CartridgeFixture
