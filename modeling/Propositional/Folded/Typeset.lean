import Propositional.Ascending
import Propositional.Folded.Order

/-!
# Typeset formulas

A folded formula in LaTeX.  The operands of conjunctions, disjunctions and equivalences stand in
the order of their shapes, whatever their sizes.  A compound operand stands in parentheses unless
it is a negation.  A negated implication or equivalence is written with a struck-out arrow.
-/

namespace Propositional.Folded

/-- A control word of LaTeX. -/
def control (word : String) : List Char := '\x5c' :: word.toList

/-- A text between parentheses that grow with it. -/
def grouped (text : List Char) : List Char :=
  control "left(" ++ text ++ control "right)"

/-- A text in roman type. -/
def roman (text : String) : List Char := control "text\x7b" ++ text.toList ++ ['\x7d']

/-- Texts with an operator between them. -/
def infixed (operator : List Char) (texts : List (List Char)) : List Char :=
  (' ' :: operator ++ [' ']).intercalate texts

/-- The sign of a junction. -/
def junctionSign : Junction → List Char
  | .all => control "wedge"
  | .any => control "vee"

/-- The sign of implication. -/
def implicationSign : List Char := control "Rightarrow"

/-- The sign of equivalence. -/
def equivalenceSign : List Char := control "Leftrightarrow"

/-- Strikes out the sign after it. -/
def struck (sign : List Char) : List Char := control "not" ++ sign

/-- Whether a formula stands without parentheses as an operand. -/
def standsAlone : Folded → Bool
  | constant _ => true
  | symbol _ => true
  | negation _ => true
  | _ => false

/-- A typeset formula as an operand. -/
def asOperand (formula : Folded) (text : List Char) : List Char :=
  if formula.standsAlone then text else grouped text

/-- The texts of operands, by the order of the formulas they belong to. -/
def inShapeOrder (operands : List (Folded × List Char)) : List (List Char) :=
  (Ascending.ofList (fun left right => compareShape left.1 right.1) operands).map (·.2)

mutual

/-- The formula in LaTeX. -/
def typeset : Folded → List Char
  | constant value => roman (if value then "True" else "False")
  | symbol name => name.toList
  | junction kind operands => infixed (junctionSign kind) (inShapeOrder (typesetAll operands))
  | implication left right =>
    infixed implicationSign [asOperand left left.typeset, asOperand right right.typeset]
  | equivalence left right =>
    infixed equivalenceSign
      (inShapeOrder [(left, asOperand left left.typeset), (right, asOperand right right.typeset)])
  | negation (symbol name) => control "neg " ++ name.toList
  | negation (implication left right) =>
    infixed (struck implicationSign) [asOperand left left.typeset, asOperand right right.typeset]
  | negation (equivalence left right) =>
    infixed (struck equivalenceSign)
      (inShapeOrder [(left, asOperand left left.typeset), (right, asOperand right right.typeset)])
  | negation operand => control "neg " ++ grouped operand.typeset

/-- Several formulas, each with its text as an operand. -/
def typesetAll : List Folded → List (Folded × List Char)
  | [] => []
  | first :: rest => (first, asOperand first first.typeset) :: typesetAll rest

end

end Propositional.Folded
