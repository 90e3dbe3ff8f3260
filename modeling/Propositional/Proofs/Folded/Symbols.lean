import Propositional.Folded.OfFormula
import Propositional.Proofs.Ascending
import Propositional.Proofs.Folded.Order

/-!
# The symbols of folded formulas

`Folded.symbols` lists the symbols that occur in a folded formula.  The constructors that fold may
lose symbols, but a symbol of what they make is one of an operand (`Connective.mem_symbols_fold`).
-/

namespace Propositional

/-! ## Occurring symbols -/

namespace Folded

mutual

/-- The symbols of a folded formula, from left to right, as often as they occur. -/
def symbols : Folded → List String
  | constant _ => []
  | symbol name => [name]
  | negation operand => operand.symbols
  | junction _ operands => symbolsAll operands
  | implication left right => left.symbols ++ right.symbols
  | equivalence left right => left.symbols ++ right.symbols

/-- The symbols of several folded formulas. -/
def symbolsAll : List Folded → List String
  | [] => []
  | first :: rest => first.symbols ++ symbolsAll rest

end

theorem mem_symbolsAll {name : String} {formulas : List Folded} :
    name ∈ symbolsAll formulas ↔ ∃ formula ∈ formulas, name ∈ formula.symbols := by
  induction formulas with
  | nil => simp [symbolsAll]
  | cons first rest ih => simp [symbolsAll, ih]

/-! ## Symbols of what is folded -/

theorem symbols_negate (formula : Folded) : formula.negate.symbols = formula.symbols := by
  cases formula <;> rfl

theorem mem_symbols_operandsOf {kind : Junction} {name : String} {formula operand : Folded}
    (hoperand : operand ∈ operandsOf kind formula) (hname : name ∈ operand.symbols) :
    name ∈ formula.symbols := by
  unfold operandsOf at hoperand
  split at hoperand
  · exact absurd hoperand List.not_mem_nil
  · split at hoperand
    · rw [symbols, mem_symbolsAll]
      exact ⟨operand, hoperand, hname⟩
    · rw [List.mem_singleton] at hoperand
      rwa [hoperand] at hname
  · rw [List.mem_singleton] at hoperand
    rwa [hoperand] at hname

theorem symbols_ofOperands (kind : Junction) (operands : List Folded) :
    (ofOperands kind operands).symbols = symbolsAll operands := by
  match operands with
  | [] => rfl
  | [operand] => simp [ofOperands, symbolsAll]
  | first :: second :: rest => rfl

theorem mem_symbols_join {kind : Junction} {name : String} {formulas : List Folded}
    (h : name ∈ (join kind formulas).symbols) : ∃ formula ∈ formulas, name ∈ formula.symbols := by
  unfold join at h
  split at h
  · simp [symbols] at h
  · rw [symbols_ofOperands, mem_symbolsAll] at h
    obtain ⟨operand, hmem, hname⟩ := h
    rw [Ascending.mem_ofList, List.mem_flatMap] at hmem
    obtain ⟨formula, hformula, hoperand⟩ := hmem
    exact ⟨formula, hformula, mem_symbols_operandsOf hoperand hname⟩

theorem mem_symbols_imply {name : String} {left right : Folded}
    (h : name ∈ (imply left right).symbols) : name ∈ left.symbols ∨ name ∈ right.symbols := by
  have hjoin : name ∈ (join .any [negate left, right]).symbols →
      name ∈ left.symbols ∨ name ∈ right.symbols := by
    intro hname
    have hmem := mem_symbols_join hname
    simpa [symbols_negate] using hmem
  unfold imply at h
  split at h
  · exact hjoin h
  · exact hjoin h
  · split at h
    · simp [symbols] at h
    · simpa [symbols] using h

theorem mem_symbols_equateDistinct {name : String} {first second : Folded}
    (h : name ∈ (equateDistinct first second).symbols) :
    name ∈ first.symbols ∨ name ∈ second.symbols := by
  unfold equateDistinct at h
  split at h <;> simp_all [symbols, symbols_negate]

theorem mem_symbols_equate {name : String} {left right : Folded}
    (h : name ∈ (equate left right).symbols) : name ∈ left.symbols ∨ name ∈ right.symbols := by
  unfold equate at h
  split at h
  · exact mem_symbols_equateDistinct h
  · simp [symbols] at h
  · exact (mem_symbols_equateDistinct h).symm

end Folded

theorem Connective.mem_symbols_fold {connective : Connective} {name : String}
    {left right : Folded} (h : name ∈ (connective.fold left right).symbols) :
    name ∈ left.symbols ∨ name ∈ right.symbols := by
  cases connective with
  | and => simpa using Folded.mem_symbols_join h
  | or => simpa using Folded.mem_symbols_join h
  | implies => exact Folded.mem_symbols_imply h
  | iff => exact Folded.mem_symbols_equate h

end Propositional
