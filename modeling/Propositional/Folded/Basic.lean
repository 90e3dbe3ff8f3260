import Propositional.Formula.Basic

/-!
# Folded formulas

Formulas in a reduced form: conjunctions and disjunctions have any number of operands in a fixed
order, and constants do not occur within compounds.  This module has the type; the constructors
that keep the form are in `Propositional.Folded.Construct`.
-/

namespace Propositional

/-- Conjunction and disjunction, of any number of operands. -/
inductive Junction where
  | all
  | any
deriving DecidableEq

/-- The truth value that decides a junction. -/
def Junction.deciding : Junction → Bool
  | .all => false
  | .any => true

/-- A formula in reduced form. -/
inductive Folded where
  | constant (value : Bool)
  | symbol (name : String)
  | negation (operand : Folded)
  | junction (kind : Junction) (operands : List Folded)
  | implication (left right : Folded)
  | equivalence (left right : Folded)

namespace Folded

/-- Induction on folded formulas, with the operands of a junction as a list. -/
@[elab_as_elim, induction_eliminator]
theorem induction {motive : Folded → Prop} (constant : ∀ value, motive (constant value))
    (symbol : ∀ name, motive (symbol name))
    (negation : ∀ operand, motive operand → motive (negation operand))
    (junction : ∀ kind operands, (∀ operand ∈ operands, motive operand) →
      motive (junction kind operands))
    (implication : ∀ left right, motive left → motive right → motive (implication left right))
    (equivalence : ∀ left right, motive left → motive right → motive (equivalence left right))
    (formula : Folded) : motive formula :=
  match formula with
  | .constant value => constant value
  | .symbol name => symbol name
  | .negation operand =>
    negation operand
      (operand.induction constant symbol negation junction implication equivalence)
  | .junction kind operands =>
    junction kind operands fun operand _ =>
      operand.induction constant symbol negation junction implication equivalence
  | .implication left right =>
    implication left right
      (left.induction constant symbol negation junction implication equivalence)
      (right.induction constant symbol negation junction implication equivalence)
  | .equivalence left right =>
    equivalence left right
      (left.induction constant symbol negation junction implication equivalence)
      (right.induction constant symbol negation junction implication equivalence)

mutual

/-- The number of nodes. -/
def size : Folded → Nat
  | constant _ => 1
  | symbol _ => 1
  | negation operand => operand.size + 1
  | junction _ operands => sizes operands + 1
  | implication left right => left.size + right.size + 1
  | equivalence left right => left.size + right.size + 1

/-- The number of nodes of several formulas. -/
def sizes : List Folded → Nat
  | [] => 0
  | first :: rest => first.size + sizes rest

end

end Folded

end Propositional
