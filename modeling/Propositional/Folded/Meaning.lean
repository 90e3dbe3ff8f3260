import Propositional.Folded.Basic

/-!
# The meaning of folded formulas

The truth value of a folded formula under values for its symbols.
-/

namespace Propositional

/-- The truth function of two operands of a junction. -/
def Junction.apply : Junction → Bool → Bool → Bool
  | .all, left, right => left && right
  | .any, left, right => left || right

namespace Folded

mutual

/-- The truth value of a folded formula. -/
def eval (values : String → Bool) : Folded → Bool
  | constant value => value
  | symbol name => values name
  | negation operand => !operand.eval values
  | junction kind operands => evalJunction values kind operands
  | implication left right => !left.eval values || right.eval values
  | equivalence left right => left.eval values == right.eval values

/-- The truth value of a junction of folded formulas. -/
def evalJunction (values : String → Bool) (kind : Junction) : List Folded → Bool
  | [] => !kind.deciding
  | first :: rest => kind.apply (first.eval values) (evalJunction values kind rest)

end

end Folded

end Propositional
