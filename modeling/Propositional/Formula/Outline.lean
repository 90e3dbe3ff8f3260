import Propositional.Formula.Basic
import Propositional.Text.Quoted

/-!
# The outline of a formula

A formula written out as nested constructors with named fields, such as
`Not(operand=Variable(name='a'))`.
-/

namespace Propositional

/-- The constructor's word for a connective. -/
def Connective.word : Connective → String
  | .and => "And"
  | .or => "Or"
  | .implies => "Implies"
  | .iff => "Iff"

/-- The formula as nested constructors. -/
def Formula.outline : Formula → String
  | var name => "Variable(name=" ++ Text.quotedString name ++ ")"
  | const value => "Constant(value=" ++ (if value then "True" else "False") ++ ")"
  | neg operand => "Not(operand=" ++ operand.outline ++ ")"
  | bin connective left right =>
    connective.word ++ "(left=" ++ left.outline ++ ", right=" ++ right.outline ++ ")"

end Propositional
