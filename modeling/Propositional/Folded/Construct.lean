import Propositional.Ascending
import Propositional.Folded.Order

/-!
# Constructors that fold

Each constructor takes operands in reduced form to a reduced form with the meaning of the compound:

* a negation flips a constant and cancels another negation;
* a junction is decided by a deciding constant, drops the other constant, takes in the operands of
  operands of its own kind, and keeps one of several equal operands;
* an implication with a constant becomes a disjunction, and one between equals is true;
* an equivalence between equals is true, with true it is the other side and with false the
  negation of the other side.
-/

namespace Propositional.Folded

/-- The negation of a formula. -/
def negate : Folded → Folded
  | constant value => constant (!value)
  | negation operand => operand
  | operand => negation operand

/-- Whether a formula is this constant. -/
def isConstant (value : Bool) : Folded → Bool
  | constant other => other == value
  | _ => false

/-- What an operand adds to a junction that no constant decides. -/
def operandsOf (kind : Junction) : Folded → List Folded
  | constant _ => []
  | junction other operands => if other = kind then operands else [junction other operands]
  | operand => [operand]

/-- A junction of operands in order. -/
def ofOperands (kind : Junction) : List Folded → Folded
  | [] => constant (!kind.deciding)
  | [operand] => operand
  | operands => junction kind operands

/-- The junction of formulas. -/
def join (kind : Junction) (formulas : List Folded) : Folded :=
  if formulas.any (isConstant kind.deciding) then
    constant kind.deciding
  else
    ofOperands kind (Ascending.ofList compareSize (formulas.flatMap (operandsOf kind)))

/-- The implication from one formula to another. -/
def imply (left right : Folded) : Folded :=
  match left, right with
  | constant _, _ => join .any [negate left, right]
  | _, constant _ => join .any [negate left, right]
  | _, _ => if compareShape left right = .eq then constant true else implication left right

/-- The equivalence of two different formulas, given in order. -/
def equateDistinct (first second : Folded) : Folded :=
  match first, second with
  | constant true, other => other
  | other, constant true => other
  | constant false, other => negate other
  | other, constant false => negate other
  | _, _ => equivalence first second

/-- The equivalence of two formulas. -/
def equate (left right : Folded) : Folded :=
  match compareSize left right with
  | .lt => equateDistinct left right
  | .eq => constant true
  | .gt => equateDistinct right left

end Propositional.Folded
