import CartridgeFixture.Header.Summary
import CartridgeFixture.Image

/-!
# Slices of the image

The image is put together from constants: a header that is written out, and two regions of constant length. Whoever
reads it knows nothing of these. He decodes the header that stands at the start of the bytes, and expects each region
where the sizes in it announce the region.

Both agree. The image is its header with a ramp of each announced size behind it (`bytes_eq_announced`), which tells
every byte by its offset (`getElem?_regions`), and a slice has the bytes between its bounds, whatever regions these lie
in (`slices_as_announced`).
-/
namespace CartridgeFixture

/-! ## Regions -/

theorem toNat_toUInt8 (n : Nat) : n.toUInt8.toNat = n % 256 := UInt8.toNat_ofNat'

theorem getElem?_ramp (length i : Nat) : (ramp length)[i]? = if i < length then some i.toUInt8 else none := by
  split
  · rename_i h
    rw [List.getElem?_eq_getElem (by rwa [length_ramp]), getElem_ramp]
  · rename_i h
    exact List.getElem?_eq_none (by rw [length_ramp]; exact Nat.le_of_not_lt h)

/-- **Every byte by its offset**: behind a header each of two regions counts from zero. -/
theorem getElem?_regions (header : List UInt8) (prg chr offset : Nat) :
    (header ++ ramp prg ++ ramp chr)[offset]? =
      if offset < header.length then header[offset]?
      else if offset < header.length + prg then some (offset - header.length).toUInt8
      else if offset < header.length + prg + chr then some (offset - header.length - prg).toUInt8
      else none := by
  have hfront : (header ++ ramp prg).length = header.length + prg := by rw [List.length_append, length_ramp]
  rw [List.getElem?_append, hfront, List.getElem?_append, getElem?_ramp, getElem?_ramp]
  by_cases hheader : offset < header.length
  · rw [if_pos (by omega), if_pos hheader, if_pos hheader]
  · rw [if_neg hheader, if_neg hheader]
    by_cases hprg : offset < header.length + prg
    · rw [if_pos hprg, if_pos hprg, if_pos (by omega)]
    · rw [if_neg hprg, if_neg hprg, Nat.sub_add_eq]
      by_cases hchr : offset < header.length + prg + chr
      · rw [if_pos (by omega), if_pos hchr]
      · rw [if_neg (by omega), if_neg hchr]

namespace Image

open Header (Summary)

/-! ## What the header announces -/

theorem prgSize_ofBytes (bytes : List UInt8) :
    (Summary.ofBytes bytes).prgSize = (bytes.getD 4 0).toNat * Header.prgBankSize := rfl

theorem chrSize_ofBytes (bytes : List UInt8) :
    (Summary.ofBytes bytes).chrSize = (bytes.getD 5 0).toNat * Header.chrBankSize := rfl

/-- What the bytes at the start of the image announce. -/
def announced : Summary := Summary.ofBytes bytes

/-- The header stands at the start of the image, so what is decoded there is what it says. -/
theorem announced_eq : announced = Summary.fixture := by
  have hheader : ∀ i, i < Header.size → bytes.getD i 0 = Header.fixture.getD i 0 := by
    intro i hi
    rw [← Header.length_fixture] at hi
    rw [List.getD_eq_getElem?_getD, List.getD_eq_getElem?_getD, bytes, getElem?_regions, if_pos hi]
  unfold announced Summary.fixture Summary.ofBytes
  rw [hheader 4 (by decide), hheader 5 (by decide), hheader 6 (by decide), hheader 7 (by decide)]

/-- **The image is its header with the regions that it announces.** -/
theorem bytes_eq_announced :
    bytes = Header.fixture ++ ramp Summary.fixture.prgSize ++ ramp Summary.fixture.chrSize := by
  have hprg : Summary.fixture.prgSize = prgSize := by decide
  have hchr : Summary.fixture.chrSize = chrSize := by decide
  rw [hprg, hchr, bytes]

theorem size_eq_announced :
    Header.size + Summary.fixture.prgSize + Summary.fixture.chrSize = bytes.length := by
  rw [bytes_eq_announced, List.length_append, List.length_append, length_ramp, length_ramp, Header.length_fixture]

/-! ## Slices -/

variable {start middle stop : Nat} {slice front back : List UInt8}

theorem slice?_eq_some_iff :
    slice? start stop = some slice ↔
      (start ≤ stop ∧ stop ≤ size) ∧ slice = (bytes.take stop).drop start := by
  unfold slice?
  rw [length_bytes]
  split
  · rename_i h
    simp only [Option.some.injEq, h, and_self, true_and, eq_comm]
  · rename_i h
    simp only [reduceCtorEq, false_iff, not_and]
    exact fun hbounds => absurd hbounds h

theorem exists_slice_iff : (∃ slice, slice? start stop = some slice) ↔ start ≤ stop ∧ stop ≤ size := by
  simp only [slice?_eq_some_iff, exists_and_left, exists_eq, and_true]

theorem length_slice (h : slice? start stop = some slice) : slice.length = stop - start := by
  obtain ⟨⟨-, hstop⟩, rfl⟩ := slice?_eq_some_iff.mp h
  rw [List.length_drop, List.length_take, length_bytes, Nat.min_eq_left hstop]

theorem getElem?_slice (h : slice? start stop = some slice) {j : Nat} (hj : j < slice.length) :
    slice[j]? = bytes[start + j]? := by
  have hlength := length_slice h
  obtain ⟨-, rfl⟩ := slice?_eq_some_iff.mp h
  rw [List.getElem?_drop, List.getElem?_take, if_pos (by omega)]

/-- Two slices of which one begins where the other ends are one slice. -/
theorem slice?_append (hfront : slice? start middle = some front) (hback : slice? middle stop = some back) :
    slice? start stop = some (front ++ back) := by
  obtain ⟨⟨hstart, hmiddle⟩, rfl⟩ := slice?_eq_some_iff.mp hfront
  obtain ⟨⟨hle, hstop⟩, rfl⟩ := slice?_eq_some_iff.mp hback
  refine slice?_eq_some_iff.mpr ⟨⟨Nat.le_trans hstart hle, hstop⟩, ?_⟩
  have hbytes : bytes.take middle = (bytes.take stop).take middle := by
    rw [List.take_take, Nat.min_eq_left hle]
  have hlength : start ≤ ((bytes.take stop).take middle).length := by
    rw [← hbytes, List.length_take, length_bytes, Nat.min_eq_left hmiddle]
    exact hstart
  rw [hbytes, ← List.drop_append_of_le_length hlength, List.take_append_drop]

/-- **Every byte of a slice**, by the region in which it lies. -/
theorem getElem_slice (h : slice? start stop = some slice) {j : Nat} (hj : j < slice.length) :
    (start + j < 16 → Header.fixture[start + j]? = some slice[j]) ∧
    (16 ≤ start + j → start + j < 16 + Summary.fixture.prgSize → slice[j].toNat = (start + j - 16) % 256) ∧
    (16 + Summary.fixture.prgSize ≤ start + j →
      start + j < 16 + Summary.fixture.prgSize + Summary.fixture.chrSize →
      slice[j].toNat = (start + j - 16 - Summary.fixture.prgSize) % 256) := by
  have hsize : Header.fixture.length = 16 := rfl
  have hbyte : some slice[j] = bytes[start + j]? := by
    rw [← getElem?_slice h hj, List.getElem?_eq_getElem hj]
  rw [bytes_eq_announced, getElem?_regions, hsize] at hbyte
  refine ⟨fun hheader => ?_, fun hfirst hprg => ?_, fun hfirst hchr => ?_⟩
  · rw [if_pos hheader] at hbyte
    exact hbyte.symm
  · rw [if_neg (by omega), if_pos hprg] at hbyte
    rw [Option.some.inj hbyte, toNat_toUInt8]
  · rw [if_neg (by omega), if_neg (by omega), if_pos hchr] at hbyte
    rw [Option.some.inj hbyte, toNat_toUInt8]

/-- **Every slice is what the header announces.**  Bytes 4 and 5 of the image announce the sizes of two regions, which
with the header make up the whole image. There is a slice between any two offsets in order that do not pass the end.
Each byte of it is that of the header, or the position in its region modulo 256, whatever regions the slice begins and
ends in; and slices that meet are one slice. -/
theorem slices_as_announced :
    announced = Summary.ofBytes bytes ∧ announced = Summary.fixture ∧
    announced.prgSize = (bytes.getD 4 0).toNat * Header.prgBankSize ∧
    announced.chrSize = (bytes.getD 5 0).toNat * Header.chrBankSize ∧
    16 + announced.prgSize + announced.chrSize = bytes.length ∧
    (∀ start stop, (∃ slice, slice? start stop = some slice) ↔ start ≤ stop ∧ stop ≤ size) ∧
    (∀ start stop slice, slice? start stop = some slice →
      slice.length = stop - start ∧
      ∀ j, (hj : j < slice.length) →
        (start + j < 16 → Header.fixture[start + j]? = some slice[j]) ∧
        (16 ≤ start + j → start + j < 16 + announced.prgSize → slice[j].toNat = (start + j - 16) % 256) ∧
        (16 + announced.prgSize ≤ start + j → start + j < 16 + announced.prgSize + announced.chrSize →
          slice[j].toNat = (start + j - 16 - announced.prgSize) % 256)) ∧
    ∀ start middle stop front back, slice? start middle = some front → slice? middle stop = some back →
      slice? start stop = some (front ++ back) := by
  refine ⟨rfl, announced_eq, prgSize_ofBytes bytes, chrSize_ofBytes bytes, ?_, fun _ _ => exists_slice_iff, ?_,
    fun _ _ _ _ _ => slice?_append⟩
  · rw [announced_eq]
    exact size_eq_announced
  · rw [announced_eq]
    exact fun _ _ _ h => ⟨length_slice h, fun _ => getElem_slice h⟩

/-- The last byte of the first region and the first one of the second, each as a slice of its own and both as one. -/
theorem slices_as_announced_sample :
    slice? 32783 32784 = some [0xff] ∧ slice? 32784 32785 = some [0x00] ∧ slice? 32783 32785 = some [0xff, 0x00] := by
  obtain ⟨-, hannounced, -, -, -, hexists, hbytes, happend⟩ := slices_as_announced
  have hprg : announced.prgSize = 32768 := congrArg Summary.prgSize hannounced
  have hchr : announced.chrSize = 8192 := congrArg Summary.chrSize hannounced
  obtain ⟨front, hfront⟩ := (hexists 32783 32784).mpr (by decide)
  obtain ⟨back, hback⟩ := (hexists 32784 32785).mpr (by decide)
  obtain ⟨hfrontLength, hfrontByte⟩ := hbytes _ _ _ hfront
  obtain ⟨hbackLength, hbackByte⟩ := hbytes _ _ _ hback
  obtain ⟨a, rfl⟩ := List.length_eq_one_iff.mp hfrontLength
  obtain ⟨b, rfl⟩ := List.length_eq_one_iff.mp hbackLength
  have ha : a.toNat = 0xff := (hfrontByte 0 Nat.zero_lt_one).2.1 (by decide) (by rw [hprg]; decide)
  have hb : b.toNat = 0x00 := by
    have hsecond := (hbackByte 0 Nat.zero_lt_one).2.2
    rw [hprg, hchr] at hsecond
    exact hsecond (by decide) (by decide)
  obtain rfl : a = 0xff := UInt8.toNat_inj.mp ha
  obtain rfl : b = 0x00 := UInt8.toNat_inj.mp hb
  exact ⟨hfront, hback, happend _ _ _ _ _ hfront hback⟩

end Image

end CartridgeFixture
