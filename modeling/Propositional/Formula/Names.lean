import Propositional.Ascending
import Propositional.Formula.Basic

/-!
# The variables of a formula

`Formula.names` lists the names that occur, in ascending order of code points and each once.  It
works through a pile of formulas and takes the right side of a connective first.
-/

namespace Propositional

/-- Add a name to a list of names in ascending order. -/
def insertName (name : String) (names : List String) : List String :=
  Ascending.insert compare name names

namespace Formula

/-- The number of nodes of several formulas. -/
def sizes : List Formula → Nat
  | [] => 0
  | first :: rest => first.size + sizes rest

/-- Add the names that occur in the pending formulas to the names found so far. -/
def collectNames (found : List String) : List Formula → List String
  | [] => found
  | var name :: pending => collectNames (insertName name found) pending
  | const _ :: pending => collectNames found pending
  | neg operand :: pending => collectNames found (operand :: pending)
  | bin _ left right :: pending => collectNames found (right :: left :: pending)
termination_by pending => sizes pending
decreasing_by all_goals simp only [sizes, size]; omega

/-- The names that occur in the formula, in ascending order. -/
def names (formula : Formula) : List String := collectNames [] [formula]

end Formula

end Propositional
