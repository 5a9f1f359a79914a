import CartridgeFixture.Flag.Table

/-!
# Flag values bit by bit

Bytes are equal if they have the same bits, and each operation acts on every bit alone. A bit is in a union iff it is in
one of the values (`testBit_unions`), so neither their order nor how often one of them stands there matters
(`unions_congr`).
-/
namespace CartridgeFixture

/-- Bit `i` of a byte. -/
def testBit (byte : UInt8) (i : Nat) : Bool := byte.toBitVec.getLsbD i

@[simp] theorem testBit_zero (i : Nat) : testBit 0 i = false := BitVec.getLsbD_zero

@[simp] theorem testBit_or (a b : UInt8) (i : Nat) : testBit (a ||| b) i = (testBit a i || testBit b i) := by
  simp [testBit]

@[simp] theorem testBit_and (a b : UInt8) (i : Nat) : testBit (a &&& b) i = (testBit a i && testBit b i) := by
  simp [testBit]

@[simp] theorem testBit_xor (a b : UInt8) (i : Nat) : testBit (a ^^^ b) i = (testBit a i ^^ testBit b i) := by
  simp [testBit]

theorem ext_testBit {a b : UInt8} (h : ∀ i, testBit a i = testBit b i) : a = b :=
  UInt8.toBitVec_inj.mp (BitVec.eq_of_getLsbD_eq fun i _ => h i)

theorem testBit_and_not (a b : UInt8) (i : Nat) : testBit (a &&& ~~~b) i = (testBit a i && !testBit b i) := by
  by_cases hi : i < 8
  · simp [testBit, hi]
  · simp [testBit, BitVec.getLsbD_of_ge _ i (Nat.le_of_not_lt hi)]

theorem and_eq_right_iff {a b : UInt8} : a &&& b = b ↔ ∀ i, testBit b i = true → testBit a i = true := by
  constructor
  · intro h i hb
    rw [← h, testBit_and] at hb
    exact (Bool.and_eq_true_iff.mp hb).1
  · intro h
    refine ext_testBit fun i => ?_
    rw [testBit_and]
    cases hb : testBit b i
    · rw [Bool.and_false]
    · rw [h i hb, Bool.and_true]

theorem and_eq_zero_iff {a b : UInt8} : a &&& b = 0 ↔ ∀ i, testBit b i = true → testBit a i = false := by
  constructor
  · intro h i hb
    have hi := congrArg (testBit · i) h
    simpa [hb] using hi
  · intro h
    refine ext_testBit fun i => ?_
    rw [testBit_and, testBit_zero]
    cases hb : testBit b i
    · rw [Bool.and_false]
    · rw [h i hb, Bool.false_and]

namespace Flags
variable {t : FlagTable}

theorem ext_bits {f g : Flags t} (h : ∀ i, testBit f.bits i = testBit g.bits i) : f = g := by
  cases f
  cases g
  exact congrArg Flags.mk (ext_testBit h)

/-- A bit is declared iff it is one of some flag. -/
theorem testBit_mask (t : FlagTable) (i : Nat) : testBit t.mask i = t.flags.any (testBit ·.bits i) := by
  unfold FlagTable.mask
  induction t.flags with
  | nil => simp
  | cons flag flags ih => simpa using congrArg (testBit flag.bits i || ·) ih

theorem testBit_foldl_union (values : List (Flags t)) (f : Flags t) (i : Nat) :
    testBit (values.foldl union f).bits i = (testBit f.bits i || values.any (testBit ·.bits i)) := by
  induction values generalizing f with
  | nil => simp
  | cons value values ih => rw [List.foldl_cons, ih, union, testBit_or, List.any_cons, Bool.or_assoc]

theorem testBit_unions (values : List (Flags t)) (i : Nat) :
    testBit (unions values).bits i = values.any (testBit ·.bits i) := by
  rw [unions, testBit_foldl_union, empty, testBit_zero, Bool.false_or]

theorem unions_cons (value : Flags t) (values : List (Flags t)) :
    unions (value :: values) = value.union (unions values) := by
  refine ext_bits fun i => ?_
  rw [testBit_unions, List.any_cons, union, testBit_or, testBit_unions]

/-- **A union is that of a set.** Values may change places and be repeated. -/
theorem unions_congr {values others : List (Flags t)} (h : ∀ value, value ∈ values ↔ value ∈ others) :
    unions values = unions others := by
  refine ext_bits fun i => ?_
  rw [testBit_unions, testBit_unions, Bool.eq_iff_iff, List.any_eq_true, List.any_eq_true]
  simp only [h]

end Flags

end CartridgeFixture
