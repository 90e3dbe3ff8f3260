import Propositional.Folded.Typeset
import Propositional.Proofs.Ascending
import Propositional.Proofs.Folded.Order

/-!
# Typeset operands

What typesetting does with operands.  `operandText` is the text of a formula as an operand, and the
operands of a junction are their texts in the order of the shapes (`typesetAll_eq`,
`inShapeOrder_map`).  Two sides of an equivalence are different, so both are kept (`ofList_pair`).
-/

namespace Propositional.Folded

/-- A formula typeset as an operand. -/
def operandText (formula : Folded) : List Char := asOperand formula formula.typeset

theorem operandText_of_standsAlone {formula : Folded} (h : formula.standsAlone = true) :
    formula.operandText = formula.typeset :=
  if_pos h

theorem typesetAll_eq (formulas : List Folded) :
    typesetAll formulas = formulas.map fun formula => (formula, formula.operandText) := by
  induction formulas with
  | nil => rfl
  | cons first rest ih => rw [typesetAll, ih, List.map_cons, operandText]

theorem inShapeOrder_map (formulas : List Folded) (text : Folded → List Char) :
    inShapeOrder (formulas.map fun formula => (formula, text formula)) =
      (Ascending.ofList compareShape formulas).map text := by
  rw [inShapeOrder, Ascending.ofList_map, List.map_map]
  rfl

/-- Two different formulas in the order of their shapes. -/
theorem ofList_pair {left right : Folded} (h : left ≠ right) :
    Ascending.ofList compareShape [left, right] = [left, right] ∨
      Ascending.ofList compareShape [left, right] = [right, left] := by
  show Ascending.insert compareShape left [right] = _ ∨
    Ascending.insert compareShape left [right] = _
  unfold Ascending.insert
  split
  · exact .inl rfl
  · rename_i heq
    exact absurd (eq_of_compareShape heq) h
  · exact .inr rfl

theorem typeset_equivalence (left right : Folded) :
    (equivalence left right).typeset =
      infixed equivalenceSign
        ((Ascending.ofList compareShape [left, right]).map operandText) := by
  rw [typeset, ← inShapeOrder_map]
  rfl

theorem typeset_negation_equivalence (left right : Folded) :
    (negation (equivalence left right)).typeset =
      infixed (struck equivalenceSign)
        ((Ascending.ofList compareShape [left, right]).map operandText) := by
  rw [typeset, ← inShapeOrder_map]
  rfl

theorem infixed_singleton (operator text : List Char) : infixed operator [text] = text := by
  simp [infixed, List.intercalate]

theorem infixed_cons_cons (operator first second : List Char) (rest : List (List Char)) :
    infixed operator (first :: second :: rest) =
      first ++ (' ' :: operator ++ [' ']) ++ infixed operator (second :: rest) := by
  simp [infixed, List.intercalate]

end Propositional.Folded
