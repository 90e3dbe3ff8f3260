import Propositional.Folded.OfFormula
import Propositional.Formula.Evaluation

/-!
# How deep recursion on a formula goes

Evaluating and folding call themselves on the operands of a formula, so their calls are nested as
the nodes on a branch are.  `Branch` has the paths from the top of a formula to its leaves, none of
them longer than the formula has nodes (`Branch.length_le`).

The bound on the calls is said of the functions themselves: `within` cuts a recursion off below a
number of nested calls and has another function answer there, and with as many calls as the formula
has nodes that function is never asked (`within_evalStep`, `within_foldStep`).
-/

namespace Propositional.Formula

/-! ## Branches -/

/-- The formulas right below the top of a formula. -/
def operands : Formula → List Formula
  | var _ => []
  | const _ => []
  | neg operand => [operand]
  | bin _ left right => [left, right]

/-- Whether the formula is a negation. -/
def isNegation : Formula → Bool
  | neg _ => true
  | _ => false

/-- The nodes on a path from the top of a formula to one of its leaves. -/
inductive Branch : Formula → List Formula → Prop where
  | leaf {formula} (bare : formula.operands = []) : Branch formula [formula]
  | node {formula operand path} (below : operand ∈ formula.operands)
      (rest : Branch operand path) : Branch formula (formula :: path)

theorem size_lt_of_mem_operands {formula operand : Formula} (h : operand ∈ formula.operands) :
    operand.size < formula.size := by
  cases formula with
  | var _ | const _ => cases h
  | neg only =>
    rw [List.mem_singleton.mp h, size]
    omega
  | bin _ left right =>
    simp only [operands, List.mem_cons, List.not_mem_nil, or_false] at h
    rcases h with heq | heq
    all_goals
      rw [heq, size]
      omega

theorem size_pos (formula : Formula) : 0 < formula.size := by
  cases formula <;> simp [size]

/-- A branch has at most as many nodes as the formula. -/
theorem Branch.length_le {formula : Formula} {path : List Formula} (h : Branch formula path) :
    path.length ≤ formula.size := by
  induction h with
  | @leaf formula _ => exact formula.size_pos
  | node below _ ih =>
    have hlt := size_lt_of_mem_operands below
    rw [List.length_cons]
    omega

/-! ## Recursion that is cut off -/

section Cut

variable {α : Type}

/-- A recursion with at most that many nested calls, where `innermost` answers those that lie
deeper.  One round of it is given by `step`. -/
def within (step : (Formula → α) → Formula → α) (innermost : Formula → α) : Nat → Formula → α
  | 0 => innermost
  | calls + 1 => step (within step innermost calls)

/-- One round asks for nothing but the operands. -/
def AsksOperands (step : (Formula → α) → Formula → α) : Prop :=
  ∀ inner inner' formula, (∀ operand ∈ formula.operands, inner operand = inner' operand) →
    step inner formula = step inner' formula

/-- With as many nested calls as the formula has nodes, a recursion is not cut off. -/
theorem within_eq {step : (Formula → α) → Formula → α} {result : Formula → α}
    (hasks : AsksOperands step) (hresult : ∀ formula, step result formula = result formula)
    (innermost : Formula → α) :
    ∀ (calls : Nat) (formula : Formula), formula.size ≤ calls →
      within step innermost calls formula = result formula := by
  intro calls
  induction calls with
  | zero =>
    intro formula h
    exact absurd formula.size_pos (by omega)
  | succ calls ih =>
    intro formula h
    have hoperands : ∀ operand ∈ formula.operands,
        within step innermost calls operand = result operand := by
      intro operand hmem
      have hlt := size_lt_of_mem_operands hmem
      exact ih operand (by omega)
    rw [within, hasks _ result formula hoperands, hresult]

end Cut

/-! ## Evaluating and folding -/

/-- One round of evaluating a formula. -/
def evalStep (valuation : Valuation) (inner : Formula → Except MissingVariable Bool) :
    Formula → Except MissingVariable Bool
  | var name => (var name).eval valuation
  | const value => .ok value
  | neg operand => do
    let value ← inner operand
    return !value
  | bin connective left right => do
    let leftValue ← inner left
    let rightValue ← inner right
    return connective.apply leftValue rightValue

/-- One round of folding a formula. -/
def foldStep (symbols : Dictionary) (inner : Formula → Except MissingSymbol Folded) :
    Formula → Except MissingSymbol Folded
  | var name => (var name).fold symbols
  | const value => .ok (.constant value)
  | neg operand => do
    let operand ← inner operand
    return operand.negate
  | bin connective left right => do
    let left ← inner left
    let right ← inner right
    return connective.fold left right

theorem evalStep_eval (valuation : Valuation) (formula : Formula) :
    evalStep valuation (·.eval valuation) formula = formula.eval valuation := by
  cases formula <;> rfl

theorem foldStep_fold (symbols : Dictionary) (formula : Formula) :
    foldStep symbols (·.fold symbols) formula = formula.fold symbols := by
  cases formula <;> rfl

theorem evalStep_asksOperands (valuation : Valuation) : AsksOperands (evalStep valuation) := by
  intro inner inner' formula h
  cases formula with
  | var _ | const _ => rfl
  | neg operand => rw [evalStep, evalStep, h operand (by simp [operands])]
  | bin _ left right =>
    rw [evalStep, evalStep, h left (by simp [operands]), h right (by simp [operands])]

theorem foldStep_asksOperands (symbols : Dictionary) : AsksOperands (foldStep symbols) := by
  intro inner inner' formula h
  cases formula with
  | var _ | const _ => rfl
  | neg operand => rw [foldStep, foldStep, h operand (by simp [operands])]
  | bin _ left right =>
    rw [foldStep, foldStep, h left (by simp [operands]), h right (by simp [operands])]

/-- Evaluating a formula needs no more nested calls than the formula has nodes. -/
theorem within_evalStep (valuation : Valuation) (innermost : Formula → Except MissingVariable Bool)
    {calls : Nat} {formula : Formula} (h : formula.size ≤ calls) :
    within (evalStep valuation) innermost calls formula = formula.eval valuation :=
  within_eq (evalStep_asksOperands valuation) (evalStep_eval valuation) innermost calls formula h

/-- Folding a formula needs no more nested calls than the formula has nodes. -/
theorem within_foldStep (symbols : Dictionary) (innermost : Formula → Except MissingSymbol Folded)
    {calls : Nat} {formula : Formula} (h : formula.size ≤ calls) :
    within (foldStep symbols) innermost calls formula = formula.fold symbols :=
  within_eq (foldStep_asksOperands symbols) (foldStep_fold symbols) innermost calls formula h

end Propositional.Formula
