import Propositional.Reader.Production

/-!
# The grammar

The language of formulas as an inductive relation, on its own and without a cursor.
`Derives production text formula nesting` says that the text is a phrase of that level which stands
for the formula, and that `nesting` is the greatest number of negations and parentheses around any
point of it.  Parentheses leave no trace in the formula, and the operands of a connective are
joined from the left.
-/

namespace Propositional

/-- The phrases of each level, what they stand for, and how deep they nest. -/
inductive Derives : Production → List Char → Formula → Nat → Prop where
  | letter (letter : Letter) : Derives .primary [letter.char] (.var letter.name) 0
  | literal (value : Bool) : Derives .primary (literal value) (.const value) 0
  | parenthesized {text formula nesting} (inside : Derives .formula text formula nesting) :
      Derives .primary ('(' :: (text ++ [')'])) formula (nesting + 1)
  | plain {text formula nesting} (inside : Derives .primary text formula nesting) :
      Derives .negation text formula nesting
  | negated {text formula nesting} (inside : Derives .negation text formula nesting) :
      Derives .negation ('!' :: text) (.neg formula) (nesting + 1)
  | single {connective text formula nesting}
      (operand : Derives connective.operandLevel text formula nesting) :
      Derives (.binary connective) text formula nesting
  | joined {connective leftText left leftNesting rightText right rightNesting}
      (first : Derives (.binary connective) leftText left leftNesting)
      (last : Derives connective.operandLevel rightText right rightNesting) :
      Derives (.binary connective) (leftText ++ (connective.spelling ++ rightText))
        (.bin connective left right) (max leftNesting rightNesting)

end Propositional
