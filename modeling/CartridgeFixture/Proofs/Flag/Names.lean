import CartridgeFixture.Flag.Names
import CartridgeFixture.Proofs.Flag.Bits

/-!
# What the names of a value cover

The names of a value and the bits that are left over make up the value (`unions_groups`). Every declared flag that the
value contains is covered by the names alone, whether it is named itself or not (`unions_names`).
-/
namespace CartridgeFixture.Flags

/-- What the names of `whole` among the given flags are, where `rest` was not yet covered. -/
structure Naming (whole : UInt8) (flags : List Flag) (rest : UInt8) (names : List Flag) (left : UInt8) : Prop where
  sublist : names.Sublist flags
  contained : ∀ flag ∈ names, whole &&& flag.bits = flag.bits
  left_bits : ∀ i, testBit left i = (testBit rest i && !names.any (testBit ·.bits i))
  covered : ∀ flag ∈ flags, whole &&& flag.bits = flag.bits → left &&& flag.bits = 0

theorem Naming.left_of_rest {whole rest left : UInt8} {flags names : List Flag}
    (h : Naming whole flags rest names left) {i : Nat} (hi : testBit rest i = false) : testBit left i = false := by
  rw [h.left_bits, hi, Bool.false_and]

/-- A flag that adds nothing is passed over, and is covered already if the value contains it. -/
theorem Naming.pass {whole rest left : UInt8} {flag : Flag} {flags names : List Flag}
    (h : Naming whole flags rest names left) (hflag : whole &&& flag.bits = flag.bits → rest &&& flag.bits = 0) :
    Naming whole (flag :: flags) rest names left where
  sublist := h.sublist.cons flag
  contained := h.contained
  left_bits := h.left_bits
  covered := by
    intro other hother hcontained
    rcases List.mem_cons.mp hother with rfl | hother
    · have hrest := and_eq_zero_iff.mp (hflag hcontained)
      exact and_eq_zero_iff.mpr fun i hi => h.left_of_rest (hrest i hi)
    · exact h.covered other hother hcontained

/-- A flag that is named takes its bits from those not yet covered. -/
theorem Naming.name {whole rest left : UInt8} {flag : Flag} {flags names : List Flag}
    (h : Naming whole flags (rest &&& ~~~flag.bits) names left) (hflag : whole &&& flag.bits = flag.bits) :
    Naming whole (flag :: flags) rest (flag :: names) left where
  sublist := h.sublist.cons_cons flag
  contained := by
    intro other hother
    rcases List.mem_cons.mp hother with rfl | hother
    · exact hflag
    · exact h.contained other hother
  left_bits := by
    intro i
    rw [h.left_bits, testBit_and_not, List.any_cons, Bool.not_or, Bool.and_assoc]
  covered := by
    intro other hother hcontained
    rcases List.mem_cons.mp hother with rfl | hother
    · refine and_eq_zero_iff.mpr fun i hi => h.left_of_rest ?_
      rw [testBit_and_not, hi, Bool.not_true, Bool.and_false]
    · exact h.covered other hother hcontained

theorem naming_nameBits (whole : UInt8) (flags : List Flag) (rest : UInt8) :
    Naming whole flags rest (nameBits whole flags rest).1 (nameBits whole flags rest).2 := by
  induction flags generalizing rest with
  | nil => exact ⟨.slnil, by simp [nameBits], by simp [nameBits], by simp⟩
  | cons flag flags ih =>
    rw [nameBits]
    split
    · rename_i hrest
      subst hrest
      exact ⟨List.nil_sublist _, by simp, by simp, by simp⟩
    split
    · rename_i hflag
      exact (ih (rest &&& ~~~flag.bits)).name hflag.1
    · rename_i hflag
      exact (ih rest).pass fun hcontained => Decidable.byContradiction fun hne => hflag ⟨hcontained, hne⟩

variable {t : FlagTable}

theorem naming_names (f : Flags t) : Naming f.bits t.flags f.bits f.names f.remainder :=
  naming_nameBits f.bits t.flags f.bits

theorem mem_flags_of_mem_names {f : Flags t} {flag : Flag} (h : flag ∈ f.names) : flag ∈ t.flags :=
  (naming_names f).sublist.subset h

/-- **The groups of a value make it up.** -/
theorem unions_groups (f : Flags t) : unions (f.groups.map retain) = f := by
  have hremainder : ∀ i, (if f.remainder = 0 then [] else [f.remainder]).any (testBit · i) = testBit f.remainder i := by
    intro i
    split
    · rename_i hzero
      rw [hzero, testBit_zero, List.any_nil]
    · rw [List.any_cons, List.any_nil, Bool.or_false]
  have hnamed : ∀ i, f.names.any (testBit ·.bits i) = true → testBit f.bits i = true := by
    intro i hi
    obtain ⟨flag, hflag, hi⟩ := List.any_eq_true.mp hi
    exact and_eq_right_iff.mp ((naming_names f).contained flag hflag) i hi
  refine ext_bits fun i => ?_
  have hgroups : testBit (unions (t := t) (f.groups.map retain)).bits i =
      (f.names.any (testBit ·.bits i) || testBit f.remainder i) := by
    rw [testBit_unions, List.any_map, groups, List.any_append, List.any_map]
    exact congrArg _ (hremainder i)
  rw [hgroups, (naming_names f).left_bits]
  cases hi : f.names.any (testBit ·.bits i)
  · simp
  · simp [hnamed i hi]

/-- All declared flags that a value contains, together. -/
def declaredWithin (f : Flags t) : Flags t :=
  unions ((t.flags.map fun flag => retain flag.bits).filter f.contains)

/-- **The names of a value cover every declared flag that it contains.** -/
theorem unions_names (f : Flags t) : unions (f.names.map fun flag => retain flag.bits) = f.declaredWithin := by
  have hnaming := naming_names f
  refine ext_bits fun i => ?_
  rw [declaredWithin, testBit_unions, testBit_unions, List.any_map, Bool.eq_iff_iff]
  constructor
  · intro h
    obtain ⟨flag, hflag, hi⟩ := List.any_eq_true.mp h
    have hcontained : f.contains (retain flag.bits) = true := beq_iff_eq.mpr (hnaming.contained flag hflag)
    have hmem := List.mem_map_of_mem (f := fun flag : Flag => (retain flag.bits : Flags t))
      (mem_flags_of_mem_names hflag)
    exact List.any_eq_true.mpr ⟨_, List.mem_filter.mpr ⟨hmem, hcontained⟩, hi⟩
  · intro h
    obtain ⟨value, hvalue, hi⟩ := List.any_eq_true.mp h
    obtain ⟨hmem, hcontained⟩ := List.mem_filter.mp hvalue
    obtain ⟨flag, hflag, rfl⟩ := List.mem_map.mp hmem
    have hbits : f.bits &&& flag.bits = flag.bits := beq_iff_eq.mp hcontained
    -- the bit is one of the value and not one of those left over, so it is one of the names
    have hleft := and_eq_zero_iff.mp (hnaming.covered flag hflag hbits) i hi
    rw [hnaming.left_bits, and_eq_right_iff.mp hbits i hi, Bool.true_and, Bool.not_eq_false'] at hleft
    exact hleft

end CartridgeFixture.Flags
