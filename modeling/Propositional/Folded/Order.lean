import Propositional.Folded.Basic

/-!
# The order of folded formulas

By shape, `compareShape`: symbols come before compounds and are ordered by name; compounds are
ordered by kind, then by the number of operands, then by the operands from the first one on.  The
kinds are in the order conjunction, equivalence, implication, negation, disjunction.

By size and shape, `compareSize`: the smaller formula comes first, and formulas of one size are
ordered by shape.
-/

namespace Propositional.Folded

/-- The place of a formula's kind among the kinds. -/
def rank : Folded → Nat
  | constant _ => 0
  | symbol _ => 1
  | junction .all _ => 2
  | equivalence _ _ => 3
  | implication _ _ => 4
  | negation _ => 5
  | junction .any _ => 6

mutual

/-- The order by shape. -/
def compareShape : Folded → Folded → Ordering
  | constant left, constant right => compare left right
  | symbol left, symbol right => compare left right
  | negation left, negation right => compareShape left right
  | junction leftKind lefts, junction rightKind rights =>
    if leftKind = rightKind then
      (compare lefts.length rights.length).then (compareShapes lefts rights)
    else
      compare (rank (junction leftKind [])) (rank (junction rightKind []))
  | implication left₁ left₂, implication right₁ right₂ =>
    (compareShape left₁ right₁).then (compareShape left₂ right₂)
  | equivalence left₁ left₂, equivalence right₁ right₂ =>
    (compareShape left₁ right₁).then (compareShape left₂ right₂)
  | left, right => compare left.rank right.rank

/-- The order by shape, from the first operand on. -/
def compareShapes : List Folded → List Folded → Ordering
  | [], [] => .eq
  | [], _ :: _ => .lt
  | _ :: _, [] => .gt
  | left :: lefts, right :: rights => (compareShape left right).then (compareShapes lefts rights)

end

/-- The order by size, then by shape. -/
def compareSize (left right : Folded) : Ordering :=
  (compare left.size right.size).then (compareShape left right)

end Propositional.Folded
