import CartridgeFixture.Image.Ramp
import Mathlib.Data.List.Basic

/-!
# Windows of a ramp

A ramp of 64-bit length is never listed: what is left out and what is taken is found by arithmetic on two positions.
That arithmetic is tied here to the two things that a ramp is. It is a **list**, the bytes between its positions in a
listed ramp (`toList_eq`), of which a window takes and leaves out what the list does (`take_eq`, `toList_skip`). And it
is a **run of single bytes** (`next?`), which gives the window byte after byte and ends where the rest begins
(`gives_take_skip`). As long as the positions are in order, which no operation changes, no sum of them wraps.

Ramps of different lengths begin alike, but a ramp behind another goes on with it only if the first ends with a whole
round of 256 bytes (`ramp_add_eq_append_iff`).
-/
namespace CartridgeFixture

/-! ## Listed ramps -/

/-- A longer ramp goes on counting where a shorter one ends. -/
theorem ramp_add (a b : Nat) : ramp (a + b) = ramp a ++ (List.range b).map fun i => (a + i).toUInt8 := by
  unfold ramp
  rw [List.range_add, List.map_append, List.map_map]
  rfl

theorem toUInt8_eq_iff {m n : Nat} : m.toUInt8 = n.toUInt8 ↔ m % 256 = n % 256 := by
  rw [← UInt8.toNat_inj]
  rfl

/-- **One ramp behind another is a ramp** only if the second is empty or the first ends with a whole round. -/
theorem ramp_add_eq_append_iff {a b : Nat} : ramp (a + b) = ramp a ++ ramp b ↔ 256 ∣ a ∨ b = 0 := by
  rw [ramp_add, List.append_cancel_left_eq]
  constructor
  · intro h
    by_cases hb : b = 0
    · exact Or.inr hb
    · have hfirst := List.map_inj_left.mp h 0 (List.mem_range.mpr (Nat.pos_of_ne_zero hb))
      exact Or.inl (Nat.dvd_of_mod_eq_zero (toUInt8_eq_iff.mp hfirst))
  · rintro (⟨rounds, rfl⟩ | rfl)
    · refine List.map_congr_left fun i _ => toUInt8_eq_iff.mpr ?_
      rw [Nat.mul_add_mod]
    · rfl

namespace Ramp
variable {r : Ramp}

/-! ## Positions -/

/-- **The positions are in order**: the ramp has not gone past its end. -/
def Ordered (r : Ramp) : Prop := r.start.toNat ≤ r.stop.toNat

theorem ordered_ofLength (length : UInt64) : (ofLength length).Ordered := Nat.zero_le _

theorem toNat_remaining (r : Ramp) : r.remaining.toNat = r.stop.toNat - r.start.toNat := by
  unfold remaining
  split
  · rename_i h
    exact UInt64.toNat_sub_of_le _ _ (UInt64.le_of_lt h)
  · rename_i h
    rw [UInt64.lt_iff_toNat_lt] at h
    rw [UInt64.toNat_zero]
    omega

@[simp] theorem stop_skip (r : Ramp) (count : UInt64) : (r.skip count).stop = r.stop := by
  unfold skip
  split <;> rfl

/-- Leaving out some bytes moves the position on by as many, or to the end: the sum does not wrap. -/
theorem toNat_start_skip (h : r.Ordered) (count : UInt64) :
    (r.skip count).start.toNat = min (r.start.toNat + count.toNat) r.stop.toNat := by
  have hremaining := r.toNat_remaining
  have hstop := r.stop.toNat_lt
  unfold Ordered at h
  unfold skip
  split
  · rename_i hcount
    rw [UInt64.lt_iff_toNat_lt] at hcount
    rw [UInt64.toNat_add, Nat.mod_eq_of_lt (by omega)]
    omega
  · rename_i hcount
    rw [UInt64.lt_iff_toNat_lt] at hcount
    change r.stop.toNat = _
    omega

theorem ordered_skip (h : r.Ordered) (count : UInt64) : (r.skip count).Ordered := by
  unfold Ordered
  rw [toNat_start_skip h, stop_skip]
  exact Nat.min_le_right _ _

/-! ## A ramp as a list -/

theorem length_take (r : Ramp) (count : UInt64) :
    (r.take count).length = min count.toNat (r.stop.toNat - r.start.toNat) := by
  rw [take, List.length_map, List.length_range, ← toNat_remaining]
  change (if count ≤ r.remaining then count else r.remaining).toNat = _
  split
  · rename_i h
    rw [UInt64.le_iff_toNat_le] at h
    omega
  · rename_i h
    rw [UInt64.le_iff_toNat_le] at h
    omega

/-- The position of a byte in a window is a sum that does not wrap. -/
theorem toNat_position {count : UInt64} {k : Nat} (hk : k < (r.take count).length) :
    (r.start + k.toUInt64).toNat = r.start.toNat + k := by
  have hstop := r.stop.toNat_lt
  rw [length_take] at hk
  have hlast : r.start.toNat + k < 2 ^ 64 := by omega
  have hsmall : k.toUInt64.toNat = k := UInt64.toNat_ofNat_of_lt' (Nat.lt_of_le_of_lt (Nat.le_add_left _ _) hlast)
  rw [UInt64.toNat_add, hsmall, Nat.mod_eq_of_lt hlast]

theorem getElem_take {count : UInt64} {k : Nat} (hk : k < (r.take count).length) :
    (r.take count)[k] = (r.start.toNat + k).toUInt8 := by
  have hposition := toNat_position hk
  simp only [take, List.getElem_map, List.getElem_range]
  rw [← UInt8.toNat_inj, UInt64.toNat_toUInt8, hposition]
  rfl

/-- **What is taken is taken from the listed ramp.** -/
theorem take_eq (r : Ramp) (count : UInt64) :
    r.take count = ((ramp r.stop.toNat).drop r.start.toNat).take count.toNat := by
  refine List.ext_getElem ?_ fun k hk _ => ?_
  · rw [length_take, List.length_take, List.length_drop, length_ramp]
  · rw [getElem_take hk, List.getElem_take, List.getElem_drop, getElem_ramp]

/-- **A ramp is the listed one between its positions.** -/
theorem toList_eq (r : Ramp) : r.toList = (ramp r.stop.toNat).drop r.start.toNat := by
  have hlength : ((ramp r.stop.toNat).drop r.start.toNat).length = r.remaining.toNat := by
    rw [List.length_drop, length_ramp, toNat_remaining]
  rw [toList, take_eq, List.take_of_length_le (Nat.le_of_eq hlength)]

theorem take_eq_take_toList (r : Ramp) (count : UInt64) : r.take count = r.toList.take count.toNat := by
  rw [toList_eq, take_eq]

theorem toList_ofLength (length : UInt64) : (ofLength length).toList = ramp length.toNat := toList_eq _

/-- **What is left out is left out of the list.** -/
theorem toList_skip (h : r.Ordered) (count : UInt64) : (r.skip count).toList = r.toList.drop count.toNat := by
  rw [toList_eq, toList_eq, stop_skip, toNat_start_skip h, List.drop_drop]
  by_cases hcount : r.start.toNat + count.toNat ≤ r.stop.toNat
  · rw [Nat.min_eq_left hcount]
  · rw [Nat.min_eq_right (by omega), List.drop_of_length_le (by simp), List.drop_of_length_le (by simp; omega)]

/-- The announced size of a whole ramp is its length. -/
theorem sizeHint_ofLength (length : UInt64) : (ofLength length).sizeHint = (length, length) := by
  have hremaining : (ofLength length).remaining = length := UInt64.toNat_inj.mp (toNat_remaining _)
  rw [sizeHint, hremaining]

theorem toNat_remaining_eq_length (r : Ramp) : r.remaining.toNat = r.toList.length := by
  rw [toList_eq, List.length_drop, length_ramp, toNat_remaining]

/-! ## A ramp as a run of single bytes -/

/-- The next byte and the ramp behind it, unless the ramp is at its end. -/
def next? (r : Ramp) : Option (UInt8 × Ramp) :=
  if r.start < r.stop then some (r.start.toUInt8, ⟨r.start + 1, r.stop⟩) else none

/-- **A run of single bytes**: the ramp gives them one after the other, and is another ramp behind the last. -/
inductive Gives : Ramp → List UInt8 → Ramp → Prop
  | nil (r : Ramp) : Gives r [] r
  | cons {r next after : Ramp} {byte : UInt8} {bytes : List UInt8} (h : r.next? = some (byte, next))
      (hrest : Gives next bytes after) : Gives r (byte :: bytes) after

theorem next?_eq_none_iff : r.next? = none ↔ r.toList = [] := by
  rw [← List.length_eq_zero_iff, ← toNat_remaining_eq_length, toNat_remaining, next?]
  split
  · rename_i h
    rw [UInt64.lt_iff_toNat_lt] at h
    simp only [reduceCtorEq, false_iff]
    omega
  · rename_i h
    rw [UInt64.lt_iff_toNat_lt] at h
    simp only [true_iff]
    omega

/-- Behind the next byte the position is moved on by one: the sum does not wrap. -/
theorem next?_of_lt (h : r.start < r.stop) :
    ∃ next, r.next? = some (r.start.toUInt8, next) ∧ next.stop = r.stop ∧ next.start.toNat = r.start.toNat + 1 := by
  have hstop := r.stop.toNat_lt
  refine ⟨⟨r.start + 1, r.stop⟩, if_pos h, rfl, ?_⟩
  rw [UInt64.lt_iff_toNat_lt] at h
  rw [UInt64.toNat_add, UInt64.toNat_one, Nat.mod_eq_of_lt (by omega)]

/-- Within the ramp, any number of single bytes are the next ones of the list. -/
theorem gives_of_le {count : Nat} (h : r.start.toNat + count ≤ r.stop.toNat) :
    ∃ after : Ramp, Gives r (r.toList.take count) after ∧ after.stop = r.stop ∧
      after.start.toNat = r.start.toNat + count := by
  induction count generalizing r with
  | zero => exact ⟨r, .nil r, rfl, rfl⟩
  | succ count ih =>
    have hlt : r.start < r.stop := UInt64.lt_iff_toNat_lt.mpr (by omega)
    obtain ⟨next, hnext, hstop, hstart⟩ := next?_of_lt hlt
    obtain ⟨after, hgives, hafter, hend⟩ := ih (r := next) (by rw [hstart, hstop]; omega)
    -- what the ramp behind the next byte lists is the tail of what this one lists
    have hlist : r.toList = r.start.toUInt8 :: next.toList := by
      rw [toList_eq, toList_eq, hstart, hstop, List.drop_eq_getElem_cons (by rw [length_ramp]; omega), getElem_ramp]
      rfl
    refine ⟨after, ?_, hafter.trans hstop, by omega⟩
    rw [hlist, List.take_succ_cons]
    exact .cons hnext hgives

theorem eq_of_positions {r r' : Ramp} (hstart : r.start.toNat = r'.start.toNat) (hstop : r.stop = r'.stop) :
    r = r' := by
  obtain ⟨start, stop⟩ := r
  obtain ⟨start', stop'⟩ := r'
  cases hstop
  cases UInt64.toNat_inj.mp hstart
  rfl

/-- **A window is what the ramp gives byte after byte**, and the rest is what it is then. -/
theorem gives_take_skip (h : r.Ordered) (count : UInt64) : Gives r (r.take count) (r.skip count) := by
  have hskip := toNat_start_skip h count
  unfold Ordered at h
  have hle : r.start.toNat + min count.toNat (r.stop.toNat - r.start.toNat) ≤ r.stop.toNat := by omega
  obtain ⟨after, hgives, hstop, hstart⟩ := gives_of_le hle
  have hafter : after = r.skip count := eq_of_positions (by omega) (hstop.trans (stop_skip r count).symm)
  have hbytes : r.toList.take (min count.toNat (r.stop.toNat - r.start.toNat)) = r.take count := by
    rw [take_eq_take_toList, ← toNat_remaining, toNat_remaining_eq_length, ← List.take_eq_take_min]
  rwa [hafter, hbytes] at hgives

/-- Byte after byte a ramp gives its list, and then it is at its end. -/
theorem gives_toList (h : r.Ordered) : ∃ last : Ramp, Gives r r.toList last ∧ last.next? = none := by
  refine ⟨r.skip r.remaining, gives_take_skip h r.remaining, next?_eq_none_iff.mpr ?_⟩
  rw [toList_skip h, toNat_remaining_eq_length, List.drop_length]

end Ramp

/-- **The windows of a ramp of any 64-bit length are those of the listed ramp.**  A window has as many bytes as are
asked for and there, each of them its position modulo 256, and no sum of positions wraps. It is what the ramp gives byte
after byte behind the bytes that are left out; the announced size is that of the whole run to the end. A ramp begins
like every longer one, but goes on with a second ramp only if it ends with a whole round. -/
theorem ramp_windows_listed :
    (∀ length skipped count : UInt64,
      let whole := Ramp.ofLength length
      let rest := whole.skip skipped
      let window := rest.take count
      whole.sizeHint = (length, length) ∧
      window = ((ramp length.toNat).drop skipped.toNat).take count.toNat ∧
      window.length = min count.toNat (length.toNat - skipped.toNat) ∧
      rest.start.toNat = min skipped.toNat length.toNat ∧
      (∀ k, (hk : k < window.length) → window[k].toNat = (skipped.toNat + k) % 256 ∧
        (rest.start + k.toUInt64).toNat = rest.start.toNat + k) ∧
      whole.Gives (whole.take skipped) rest ∧ rest.Gives window (rest.skip count) ∧
      ∃ last, rest.Gives ((ramp length.toNat).drop skipped.toNat) last ∧ last.next? = none ∧
        rest.sizeHint.1.toNat = length.toNat - skipped.toNat ∧ rest.sizeHint.2 = rest.sizeHint.1) ∧
    ∀ a b : UInt64, a.toNat + b.toNat < UInt64.size →
      (Ramp.ofLength a).toList <+: (Ramp.ofLength (a + b)).toList ∧
      ((Ramp.ofLength (a + b)).toList = (Ramp.ofLength a).toList ++ (Ramp.ofLength b).toList ↔
        256 ∣ a.toNat ∨ b = 0) := by
  refine ⟨fun length skipped count => ?_, fun a b hsum => ?_⟩
  · intro whole rest window
    have hwhole : whole.Ordered := Ramp.ordered_ofLength length
    have hrest : rest.Ordered := Ramp.ordered_skip hwhole skipped
    have hstop : rest.stop = length := Ramp.stop_skip whole skipped
    have hstart : rest.start.toNat = min skipped.toNat length.toNat := by
      have hsum := Ramp.toNat_start_skip hwhole skipped
      rwa [show whole.start.toNat = 0 from rfl, Nat.zero_add] at hsum
    have hlist : rest.toList = (ramp length.toNat).drop skipped.toNat := by
      rw [Ramp.toList_skip hwhole, Ramp.toList_ofLength]
    have hlength : window.length = min count.toNat (length.toNat - skipped.toNat) := by
      rw [Ramp.length_take, hstop, hstart]
      omega
    refine ⟨Ramp.sizeHint_ofLength length, ?_, hlength, hstart, ?_, Ramp.gives_take_skip hwhole skipped,
      Ramp.gives_take_skip hrest count, ?_⟩
    · rw [← hlist]
      exact Ramp.take_eq_take_toList rest count
    · intro k hk
      have hfirst : rest.start.toNat = skipped.toNat := by omega
      refine ⟨?_, Ramp.toNat_position hk⟩
      rw [Ramp.getElem_take, hfirst]
      rfl
    · obtain ⟨last, hgives, hend⟩ := Ramp.gives_toList hrest
      rw [hlist] at hgives
      refine ⟨last, hgives, hend, ?_, rfl⟩
      change rest.remaining.toNat = _
      rw [Ramp.toNat_remaining, hstop, hstart]
      omega
  · have hadd : (a + b).toNat = a.toNat + b.toNat := by rw [UInt64.toNat_add, Nat.mod_eq_of_lt hsum]
    have hzero : b = 0 ↔ b.toNat = 0 := UInt64.toNat_inj.symm
    rw [Ramp.toList_ofLength, Ramp.toList_ofLength, Ramp.toList_ofLength, hadd, hzero]
    exact ⟨⟨_, (ramp_add a.toNat b.toNat).symm⟩, ramp_add_eq_append_iff⟩

/-- The last byte of the longest ramp, where more are asked for; and two rounds with the beginning of one behind. -/
theorem ramp_windows_listed_sample :
    ∃ h : 1 < (((Ramp.ofLength 0xffffffffffffffff).skip 0xfffffffffffffffd).take 5).length,
      (((Ramp.ofLength 0xffffffffffffffff).skip 0xfffffffffffffffd).take 5)[1].toNat = 0xfe ∧
      (512 : UInt64).toNat + (3 : UInt64).toNat < UInt64.size ∧
      (Ramp.ofLength (512 + 3)).toList = (Ramp.ofLength 512).toList ++ (Ramp.ofLength 3).toList := by
  have hlength : 1 < (((Ramp.ofLength 0xffffffffffffffff).skip 0xfffffffffffffffd).take 5).length := by decide
  have hbyte := ((ramp_windows_listed.1 0xffffffffffffffff 0xfffffffffffffffd 5).2.2.2.2.1 1 hlength).1
  have hsum : (512 : UInt64).toNat + (3 : UInt64).toNat < UInt64.size := by decide
  exact ⟨hlength, hbyte, hsum, (ramp_windows_listed.2 512 3 hsum).2.mpr (Or.inl (by decide))⟩

end CartridgeFixture
