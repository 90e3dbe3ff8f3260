import Propositional.Folded.Meaning
import Propositional.Folded.OfFormula
import Propositional.Proofs.Ascending
import Propositional.Proofs.Folded.Order

/-!
# What folding means

Each constructor that folds has the meaning of the compound that it stands for: `eval_negate`,
`eval_join`, `eval_imply` and `eval_equate`, and `Connective.eval_fold` for the four connectives.

A junction is treated by its deciding value.  It takes that value if one of its operands does
(`evalJunction_eq_deciding_iff`), so neither the order of the operands matters nor how often they
occur, and an operand may be replaced by its own operands (`exists_operandsOf_iff`).
-/

namespace Propositional

/-! ## Junctions -/

/-- Two truth values are equal if both or neither of them decides a junction. -/
theorem Junction.eq_of_deciding {kind : Junction} {value other : Bool}
    (h : value = kind.deciding ↔ other = kind.deciding) : value = other := by
  revert h
  cases kind <;> cases value <;> cases other <;> decide

theorem Junction.apply_eq_deciding_iff {kind : Junction} {left right : Bool} :
    kind.apply left right = kind.deciding ↔ left = kind.deciding ∨ right = kind.deciding := by
  cases kind <;> cases left <;> cases right <;> decide

namespace Folded

variable {values : String → Bool} {kind : Junction}

/-- A junction is decided by each of its operands. -/
theorem evalJunction_eq_deciding_iff {operands : List Folded} :
    evalJunction values kind operands = kind.deciding ↔
      ∃ operand ∈ operands, operand.eval values = kind.deciding := by
  induction operands with
  | nil => simp [evalJunction]
  | cons first rest ih =>
    rw [evalJunction, Junction.apply_eq_deciding_iff, ih]
    simp

theorem isConstant_iff {value : Bool} {formula : Folded} :
    formula.isConstant value = true ↔ formula = constant value := by
  cases formula <;> simp [isConstant]

/-- What an operand adds to a junction decides it if the operand does. -/
theorem exists_operandsOf_iff {formula : Folded} (h : formula ≠ constant kind.deciding) :
    (∃ operand ∈ operandsOf kind formula, operand.eval values = kind.deciding) ↔
      formula.eval values = kind.deciding := by
  cases formula with
  | constant value => simpa [operandsOf, eval] using h
  | junction other operands =>
    by_cases hkind : other = kind
    · subst hkind
      simp [operandsOf, eval, evalJunction_eq_deciding_iff]
    · simp [operandsOf, hkind]
  | symbol | negation | implication | equivalence => simp [operandsOf]

theorem eval_ofOperands (operands : List Folded) :
    (ofOperands kind operands).eval values = evalJunction values kind operands := by
  match operands with
  | [] => simp [ofOperands, eval, evalJunction]
  | [operand] => cases kind <;> simp [ofOperands, evalJunction, Junction.apply, Junction.deciding]
  | first :: second :: rest => simp [ofOperands, eval]

/-- A folded junction has the value of the junction of its operands. -/
theorem eval_join (formulas : List Folded) :
    (join kind formulas).eval values = evalJunction values kind formulas := by
  have hdecided : (join kind formulas).eval values = kind.deciding ↔
      evalJunction values kind formulas = kind.deciding := by
    unfold join
    split
    · rename_i hany
      obtain ⟨formula, hmem, hconstant⟩ := List.any_eq_true.mp hany
      rw [isConstant_iff] at hconstant
      have hvalue : formula.eval values = kind.deciding := by simp [hconstant, eval]
      simp [eval, evalJunction_eq_deciding_iff.mpr ⟨formula, hmem, hvalue⟩]
    · rename_i hnone
      have hother : ∀ formula ∈ formulas, formula ≠ constant kind.deciding := by
        intro formula hmem heq
        exact hnone (List.any_eq_true.mpr ⟨formula, hmem, isConstant_iff.mpr heq⟩)
      rw [eval_ofOperands, evalJunction_eq_deciding_iff, evalJunction_eq_deciding_iff]
      simp only [Ascending.mem_ofList, List.mem_flatMap]
      constructor
      · intro h
        obtain ⟨operand, ⟨formula, hmem, hoperand⟩, hvalue⟩ := h
        exact ⟨formula, hmem, (exists_operandsOf_iff (hother formula hmem)).mp
          ⟨operand, hoperand, hvalue⟩⟩
      · intro h
        obtain ⟨formula, hmem, hvalue⟩ := h
        obtain ⟨operand, hoperand, hdecided⟩ :=
          (exists_operandsOf_iff (hother formula hmem)).mpr hvalue
        exact ⟨operand, ⟨formula, hmem, hoperand⟩, hdecided⟩
  exact Junction.eq_of_deciding hdecided

/-! ## The other constructors -/

theorem eval_negate (formula : Folded) : formula.negate.eval values = !formula.eval values := by
  cases formula <;> simp [negate, eval]

theorem eval_imply (left right : Folded) :
    (imply left right).eval values = (!left.eval values || right.eval values) := by
  have hjoin : (join .any [negate left, right]).eval values =
      (!left.eval values || right.eval values) := by
    simp [eval_join, evalJunction, eval_negate, Junction.apply, Junction.deciding]
  unfold imply
  split
  · exact hjoin
  · exact hjoin
  · split
    · rename_i heq
      rw [eq_of_compareShape heq]
      simp [eval]
    · rw [eval]

theorem eval_equateDistinct (first second : Folded) :
    (equateDistinct first second).eval values = (first.eval values == second.eval values) := by
  unfold equateDistinct
  split <;> simp [eval, eval_negate]

theorem eval_equate (left right : Folded) :
    (equate left right).eval values = (left.eval values == right.eval values) := by
  unfold equate
  split
  · exact eval_equateDistinct left right
  · rename_i heq
    rw [Std.LawfulEqCmp.eq_of_compare heq]
    simp [eval]
  · rw [eval_equateDistinct]
    exact Bool.beq_comm

end Folded

/-- Folding under a connective has the connective's truth function. -/
theorem Connective.eval_fold {values : String → Bool} (connective : Connective)
    (left right : Folded) :
    (connective.fold left right).eval values =
      connective.apply (left.eval values) (right.eval values) := by
  cases connective with
  | and =>
    simp [fold, apply, Folded.eval_join, Folded.evalJunction, Junction.apply, Junction.deciding]
  | or =>
    simp [fold, apply, Folded.eval_join, Folded.evalJunction, Junction.apply, Junction.deciding]
  | implies => exact Folded.eval_imply left right
  | iff => exact Folded.eval_equate left right

end Propositional
