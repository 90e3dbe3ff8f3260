import Propositional.Proofs.Karnaugh.Gray

/-!
# The Gray sequence in closed form

The sequence is built by reflection, but what stands at a place of it can be computed from the place
alone: the digits of `numberAt place`, each of which compares a digit of the place with the next
higher one.

The first half of a sequence has the numbers of the smaller width, with a zero before them
(`testBit_numberAt_of_lt`).  In the second half a one stands before them
(`testBit_numberAt_two_pow_add`), and they come in the opposite order (`ofNat_numberAt_mirror`).
`getElem?_code` puts the halves together, by induction on the width.  Since a sequence has every
digit list once, `rank` is the inverse of `numberAt` (`rank_eq_iff`), and looking for the digits of
a number never fails (`idxOf?_code`).
-/

namespace Propositional.Gray

/-- The number whose digits stand at a place of the Gray sequence. -/
def numberAt (place : Nat) : Nat := place ^^^ (place >>> 1)

theorem testBit_numberAt (place i : Nat) :
    (numberAt place).testBit i = (place.testBit i ^^ place.testBit (i + 1)) := by
  rw [numberAt, Nat.testBit_xor, Nat.testBit_shiftRight, Nat.add_comm 1 i]

theorem numberAt_lt {width place : Nat} (h : place < 2 ^ width) : numberAt place < 2 ^ width := by
  have hshift : place >>> 1 ≤ place := Nat.shiftRight_le place 1
  exact Nat.xor_lt_two_pow h (by omega)

/-- In the first half of a sequence the highest digit is zero. -/
theorem testBit_numberAt_of_lt {width place : Nat} (h : place < 2 ^ width) :
    (numberAt place).testBit width = false :=
  Nat.testBit_lt_two_pow (numberAt_lt h)

/-- In the second half it is one. -/
theorem testBit_numberAt_two_pow_add {width place : Nat} (h : place < 2 ^ width) :
    (numberAt (2 ^ width + place)).testBit width = true := by
  have hwide : 2 ^ width + place < 2 ^ (width + 1) := by
    rw [Nat.pow_succ]
    omega
  rw [testBit_numberAt, Nat.testBit_two_pow_add_eq, Nat.testBit_lt_two_pow h,
    Nat.testBit_lt_two_pow hwide]
  rfl

/-- The other digits of the second half are those of the first half, from its end. -/
theorem ofNat_numberAt_mirror {width place : Nat} (h : place < 2 ^ width) :
    Bits.ofNat width (numberAt (2 ^ width + place)) =
      Bits.ofNat width (numberAt (2 ^ width - (place + 1))) := by
  refine Bits.ofNat_congr fun i hi => ?_
  rw [testBit_numberAt, testBit_numberAt, Nat.testBit_two_pow_add_gt hi,
    Nat.testBit_two_pow_sub_succ h, Nat.testBit_two_pow_sub_succ h]
  by_cases hnext : i + 1 < width
  · -- both digits are turned round, so their comparison stays
    rw [Nat.testBit_two_pow_add_gt hnext]
    simp [hi, hnext]
  · -- the next higher digit is the highest one, the only one that is not turned round
    have hlast : i + 1 = width := by omega
    rw [hlast, Nat.testBit_two_pow_add_eq, Nat.testBit_lt_two_pow h]
    simp [hi]

/-- The digits at each place of a Gray sequence. -/
theorem getElem?_code {width place : Nat} (h : place < 2 ^ width) :
    (code width)[place]? = some (Bits.ofNat width (numberAt place)) := by
  induction width generalizing place with
  | zero =>
    have hzero : place = 0 := by omega
    subst hzero
    rfl
  | succ width ih =>
    by_cases hhalf : place < 2 ^ width
    · rw [code, List.getElem?_append_left (by simpa [length_code] using hhalf),
        List.getElem?_map, ih hhalf, Bits.ofNat, testBit_numberAt_of_lt hhalf]
      rfl
    · obtain ⟨rest, rfl⟩ : ∃ rest, place = 2 ^ width + rest := ⟨place - 2 ^ width, by omega⟩
      have hrest : rest < 2 ^ width := by
        rw [Nat.pow_succ] at h
        omega
      rw [code, List.getElem?_append_right (by simp [length_code]), List.getElem?_map,
        List.length_map, length_code, Nat.add_sub_cancel_left,
        List.getElem?_reverse (by simpa [length_code] using hrest), length_code,
        show 2 ^ width - 1 - rest = 2 ^ width - (rest + 1) by omega, ih (by omega), Bits.ofNat,
        testBit_numberAt_two_pow_add hrest, ofNat_numberAt_mirror hrest]
      rfl

theorem code_eq_map (width : Nat) :
    code width = (List.range (2 ^ width)).map fun place => Bits.ofNat width (numberAt place) := by
  refine List.ext_getElem? fun place => ?_
  rw [List.getElem?_map]
  by_cases h : place < 2 ^ width
  · rw [getElem?_code h, List.getElem?_range h]
    rfl
  · rw [List.getElem?_eq_none (by rw [length_code]; omega),
      List.getElem?_eq_none (by rw [List.length_range]; omega)]
    rfl

/-! ## Looking for a number -/

/-- A number is found at the one place that it belongs to. -/
theorem rank_eq_iff {width number place : Nat} (h : number < 2 ^ width) :
    rank width number = place ↔ place < 2 ^ width ∧ numberAt place = number := by
  constructor
  · intro hrank
    subst hrank
    have hlt := rank_lt width number
    have hdigits := getElem?_rank width number
    rw [getElem?_code hlt, Option.some.injEq] at hdigits
    exact ⟨hlt, Bits.ofNat_injective (numberAt_lt hlt) h hdigits⟩
  · intro hplace
    obtain ⟨hlt, hnumber⟩ := hplace
    refine rank_eq ?_
    rw [getElem?_code hlt, hnumber]

theorem idxOf?_code (width number : Nat) :
    (code width).idxOf? (Bits.ofNat width number) = some (rank width number) := by
  have hmem : Bits.ofNat width number ∈ code width := mem_code.mpr (Bits.length_ofNat width number)
  exact List.findIdx?_eq_some_iff_findIdx_eq.mpr ⟨List.idxOf_lt_length_of_mem hmem, rfl⟩

/-- The Gray sequence of a width has the digits of `numberAt` at its places, one place for each
number of that width.  Looking for the digits of such a number finds them, at the one place that
stands for it. -/
theorem code_closed_form (width : Nat) :
    codeOf width =
        .ok ((List.range (2 ^ width)).map fun place => Bits.ofNat width (numberAt place)) ∧
      ∀ number < 2 ^ width,
        (code width).idxOf? (Bits.ofNat width number) = some (rank width number) ∧
          ∀ place, rank width number = place ↔ place < 2 ^ width ∧ numberAt place = number := by
  constructor
  · rw [← code_eq_map]
    exact if_neg (by omega)
  · intro number h
    exact ⟨idxOf?_code width number, fun _ => rank_eq_iff h⟩

/-- The digits of five stand at the place six of the sequence for three digits, and nowhere else. -/
theorem code_closed_form_five :
    5 < 2 ^ 3 ∧ (code 3).idxOf? [true, false, true] = some 6 ∧
      ∀ place < 2 ^ 3, numberAt place = 5 → place = 6 := by
  obtain ⟨hfound, hunique⟩ := (code_closed_form 3).2 5 (by decide)
  refine ⟨by decide, hfound, fun place hplace hnumber => ?_⟩
  exact ((hunique place).mpr ⟨hplace, hnumber⟩).symm

end Propositional.Gray
