/-!
# Sets of code points

Properties of characters are tables of closed ranges of code points.  `CodeSet.contains` is
membership of a character.
-/

namespace Propositional.Text

/-- All code points from `first` to `last`, both included. -/
structure CodeRange where
  first : Nat
  last : Nat

/-- Whether the range holds the code point. -/
def CodeRange.contains (range : CodeRange) (code : Nat) : Bool :=
  range.first ≤ code && code ≤ range.last

/-- A set of characters, given by ranges in ascending order. -/
structure CodeSet where
  ranges : List CodeRange

/-- Whether the set holds the character. -/
def CodeSet.contains (set : CodeSet) (char : Char) : Bool :=
  set.ranges.any (·.contains char.toNat)

end Propositional.Text
