/-!
# Formulas

Propositional formulas over named variables.  `Connective.apply` is the truth function of a binary
connective.
-/

namespace Propositional

/-- The binary connectives. -/
inductive Connective where
  | and
  | or
  | implies
  | iff
deriving DecidableEq

/-- The truth value of a compound from those of its two parts. -/
def Connective.apply : Connective → Bool → Bool → Bool
  | .and, left, right => left && right
  | .or, left, right => left || right
  | .implies, left, right => !left || right
  | .iff, left, right => left == right

/-- A formula: a variable, a constant, a negation, or two formulas joined by a connective. -/
inductive Formula where
  | var (name : String)
  | const (value : Bool)
  | neg (operand : Formula)
  | bin (connective : Connective) (left right : Formula)
deriving DecidableEq

namespace Formula

/-- The number of nodes. -/
def size : Formula → Nat
  | var _ => 1
  | const _ => 1
  | neg operand => operand.size + 1
  | bin _ left right => left.size + right.size + 1

/-- The names at the leaves, from left to right, as often as they occur. -/
def leaves : Formula → List String
  | var name => [name]
  | const _ => []
  | neg operand => operand.leaves
  | bin _ left right => left.leaves ++ right.leaves

end Formula

end Propositional
