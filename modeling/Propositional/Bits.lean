/-!
# Binary digits

Numbers as lists of binary digits of a fixed width, the most significant first.
-/

namespace Propositional.Bits

/-- The last `width` binary digits of a number. -/
def ofNat : Nat → Nat → List Bool
  | 0, _ => []
  | width + 1, number => number.testBit width :: ofNat width number

@[simp] theorem length_ofNat (width number : Nat) : (ofNat width number).length = width := by
  induction width with
  | zero => rfl
  | succ width ih => simp [ofNat, ih]

/-- How many lists of binary digits there are of a width. -/
def count (width : Nat) : Nat := 1 <<< width

/-- A digit as an entry of a table. -/
def entry (digit : Bool) : Int := if digit then 1 else 0

/-- A digit as a character. -/
def char (digit : Bool) : Char := if digit then '1' else '0'

end Propositional.Bits
