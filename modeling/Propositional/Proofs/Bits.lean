import Mathlib.Data.Nat.Bitwise
import Propositional.Bits

/-!
# Numbers and their digits

`Bits.ofNat` writes a number with a fixed number of binary digits, and `Bits.value` reads digits as
a number.  Between the numbers below `2 ^ width` and the digit lists of that width they are inverse
to each other (`value_ofNat`, `ofNat_value`).  `ofNat_append` cuts the digits of a number into those
of a quotient and those of a remainder.
-/

namespace Propositional.Bits

/-! ## Single digits -/

/-- The digits come with the most significant one first. -/
theorem getElem_ofNat {width number i : Nat} (h : i < (ofNat width number).length) :
    (ofNat width number)[i] = number.testBit (width - 1 - i) := by
  induction width generalizing i with
  | zero => exact absurd h (Nat.not_lt_zero i)
  | succ width ih =>
    cases i with
    | zero => rfl
    | succ i =>
      have hi : i < (ofNat width number).length := by
        simp only [length_ofNat] at h ⊢
        omega
      show (ofNat width number)[i] = _
      rw [ih hi, show width - 1 - i = width + 1 - 1 - (i + 1) by omega]

theorem count_eq (width : Nat) : count width = 2 ^ width := by
  unfold count
  rw [Nat.shiftLeft_eq, Nat.one_mul]

/-- The digits of a width are those below the power of two of that width. -/
theorem ofNat_congr {width number other : Nat}
    (h : ∀ i < width, number.testBit i = other.testBit i) :
    ofNat width number = ofNat width other := by
  induction width with
  | zero => rfl
  | succ width ih =>
    rw [ofNat, ofNat, h width (Nat.lt_succ_self width), ih fun i hi => h i (by omega)]

/-- A multiple of a power of two has no part in the digits below that power. -/
theorem ofNat_two_pow_mul_add (high : Nat) {width low : Nat} (hlow : low < 2 ^ width) :
    ∀ digits ≤ width, ofNat digits (2 ^ width * high + low) = ofNat digits low := by
  intro digits hdigits
  refine ofNat_congr fun i hi => ?_
  rw [Nat.testBit_two_pow_mul_add high hlow, if_pos (by omega)]

/-- The digits of a number are those of its quotient and its remainder by a power of two. -/
theorem ofNat_append (high low number : Nat) :
    ofNat (high + low) number = ofNat high (number / 2 ^ low) ++ ofNat low (number % 2 ^ low) := by
  induction high with
  | zero =>
    have hmod := Nat.mod_lt number (Nat.two_pow_pos low)
    have hdigits := ofNat_two_pow_mul_add (number / 2 ^ low) hmod low (Nat.le_refl low)
    rw [Nat.div_add_mod] at hdigits
    rw [Nat.zero_add, hdigits]
    rfl
  | succ high ih =>
    rw [Nat.add_right_comm, ofNat, ih, ofNat, Nat.testBit_div_two_pow, Nat.add_comm high low]
    rfl

/-! ## Digits as a number -/

/-- The number that digits stand for, the most significant one first. -/
def value : List Bool → Nat
  | [] => 0
  | digit :: digits => 2 ^ digits.length * digit.toNat + value digits

theorem value_lt (digits : List Bool) : value digits < 2 ^ digits.length := by
  induction digits with
  | nil => exact Nat.one_pos
  | cons digit digits ih =>
    have hdigit : digit.toNat ≤ 1 := Bool.toNat_le digit
    rw [value, List.length_cons, Nat.pow_succ]
    have hmul : 2 ^ digits.length * digit.toNat ≤ 2 ^ digits.length * 1 :=
      Nat.mul_le_mul_left _ hdigit
    omega

/-- Writing the number that digits stand for gives the digits back. -/
theorem ofNat_value (digits : List Bool) : ofNat digits.length (value digits) = digits := by
  induction digits with
  | nil => rfl
  | cons digit digits ih =>
    have hlt := value_lt digits
    rw [List.length_cons, ofNat, value, ofNat_two_pow_mul_add _ hlt _ (Nat.le_refl _), ih,
      Nat.testBit_two_pow_mul_add _ hlt, if_neg (Nat.lt_irrefl _), Nat.sub_self]
    cases digit <;> rfl

theorem value_ofNat_eq_mod (width number : Nat) :
    value (ofNat width number) = number % 2 ^ width := by
  induction width with
  | zero =>
    rw [Nat.pow_zero, Nat.mod_one]
    rfl
  | succ width ih =>
    have hdigit : (number.testBit width).toNat = number / 2 ^ width % 2 := by
      rw [Nat.testBit_eq_decide_div_mod_eq]
      rcases Nat.mod_two_eq_zero_or_one (number / 2 ^ width) with h | h <;> simp [h]
    rw [ofNat, value, length_ofNat, ih, hdigit, Nat.mod_pow_succ, Nat.add_comm]

/-- Reading the digits of a number gives the number back, if there are digits enough. -/
theorem value_ofNat {width number : Nat} (h : number < 2 ^ width) :
    value (ofNat width number) = number := by
  rw [value_ofNat_eq_mod, Nat.mod_eq_of_lt h]

/-- Numbers that are written alike are equal. -/
theorem ofNat_injective {width number other : Nat} (hnumber : number < 2 ^ width)
    (hother : other < 2 ^ width) (h : ofNat width number = ofNat width other) :
    number = other := by
  rw [← value_ofNat hnumber, h, value_ofNat hother]

end Propositional.Bits
