import Propositional.Bits

/-!
# The reflected Gray code

`code width` lists all digit lists of a width so that neighbours differ in one place: first those
that start with zero, in the order of the smaller width, then those that start with one, in the
opposite order.  `rank` is the place of a number's digits in that list.
-/

namespace Propositional.Gray

/-- The Gray sequence of a width. -/
def code : Nat → List (List Bool)
  | 0 => [[]]
  | width + 1 => (code width).map (false :: ·) ++ (code width).reverse.map (true :: ·)

/-- The sequence doubles with every digit. -/
theorem length_code_succ (width : Nat) :
    (code (width + 1)).length = 2 * (code width).length := by
  simp only [code, List.length_append, List.length_map, List.length_reverse]
  omega

/-- The place of the digits of a number in the Gray sequence. -/
def rank (width number : Nat) : Nat := (code width).idxOf (Bits.ofNat width number)

/-- A negative width was asked for. -/
structure NegativeWidth where
deriving DecidableEq

/-- What is said of a negative width. -/
def NegativeWidth.message (_ : NegativeWidth) : String := "Gray code width must be non-negative."

/-- The Gray sequence of a width that may be out of range. -/
def codeOf (width : Int) : Except NegativeWidth (List (List Bool)) :=
  if width < 0 then .error {} else .ok (code width.toNat)

end Propositional.Gray
