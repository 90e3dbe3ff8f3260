import Propositional.Proofs.Folded.Meaning
import Propositional.Proofs.Folded.Symbols
import Propositional.Proofs.Formula.Context

/-!
# Folded formulas stand for formulas

`Folded.Renders` says what a folded formula has to do with the formula it was made of: with values
for the symbols it has the value of the formula, and it has no symbols but those of the formula's
variables.  The lemmas in that namespace carry this from the parts to the whole.  The dictionary may
give two names the same symbol.

`fold_renders` is the result: with a symbol for each variable there is a folded form and it stands
for the formula, and otherwise the first variable without one is reported.
-/

namespace Propositional

/-! ## Standing for a formula -/

/-- The valuation of names by the values of their symbols. -/
def Dictionary.valuation (symbols : Dictionary) (values : String → Bool) : Valuation :=
  fun name => (symbols name).map values

/-- The folded formula stands for the formula, its variables being written by their symbols: it has
the same value whatever the values of the symbols are, and no other symbols than those. -/
structure Folded.Renders (folded : Folded) (formula : Formula) (symbols : Dictionary) : Prop where
  value : ∀ values, formula.eval (symbols.valuation values) = .ok (folded.eval values)
  occurring : ∀ symbol ∈ folded.symbols, ∃ leaf ∈ formula.leaves, symbols leaf = some symbol

namespace Folded.Renders

variable {symbols : Dictionary} {left right : Folded} {first second : Formula}

theorem var {name symbol : String} (h : symbols name = some symbol) :
    (Folded.symbol symbol).Renders (.var name) symbols := by
  constructor
  case value =>
    intro values
    simp [Formula.eval, Dictionary.valuation, h, Folded.eval]
  case occurring =>
    intro other hother
    rw [Folded.symbols, List.mem_singleton] at hother
    exact ⟨name, List.mem_singleton_self name, by rw [h, hother]⟩

theorem const (value : Bool) : (Folded.constant value).Renders (.const value) symbols := by
  constructor
  case value => exact fun _ => rfl
  case occurring => exact fun _ h => absurd h List.not_mem_nil

theorem neg (h : left.Renders first symbols) : left.negate.Renders (.neg first) symbols := by
  constructor
  case value =>
    intro values
    rw [Formula.eval, h.value, eval_negate]
    rfl
  case occurring =>
    intro symbol hsymbol
    rw [symbols_negate] at hsymbol
    exact h.occurring symbol hsymbol

theorem bin (connective : Connective) (hleft : left.Renders first symbols)
    (hright : right.Renders second symbols) :
    (connective.fold left right).Renders (.bin connective first second) symbols := by
  constructor
  case value =>
    intro values
    rw [Formula.eval, hleft.value, hright.value, connective.eval_fold]
    rfl
  case occurring =>
    intro symbol hsymbol
    rcases Connective.mem_symbols_fold hsymbol with hmem | hmem
    · obtain ⟨leaf, hleaf, heq⟩ := hleft.occurring symbol hmem
      exact ⟨leaf, List.mem_append_left _ hleaf, heq⟩
    · obtain ⟨leaf, hleaf, heq⟩ := hright.occurring symbol hmem
      exact ⟨leaf, List.mem_append_right _ hleaf, heq⟩

end Folded.Renders

namespace Formula

variable {symbols : Dictionary}

/-- If every variable has a symbol there is a folded form, and it stands for the formula. -/
theorem exists_fold_renders {formula : Formula}
    (h : ∀ leaf ∈ formula.leaves, (symbols leaf).isSome) :
    ∃ folded, formula.fold symbols = .ok folded ∧ folded.Renders formula symbols := by
  induction formula with
  | var name =>
    obtain ⟨symbol, hsymbol⟩ := Option.isSome_iff_exists.mp (h name (List.mem_singleton_self _))
    exact ⟨.symbol symbol, by simp [fold, hsymbol], .var hsymbol⟩
  | const value => exact ⟨.constant value, rfl, .const value⟩
  | neg operand ih =>
    obtain ⟨folded, hfold, hrenders⟩ := ih h
    exact ⟨folded.negate, by rw [fold, hfold]; rfl, hrenders.neg⟩
  | bin connective left right ihleft ihright =>
    obtain ⟨folded, hfold, hrenders⟩ := ihleft fun leaf hmem => h leaf (List.mem_append_left _ hmem)
    obtain ⟨folded', hfold', hrenders'⟩ :=
      ihright fun leaf hmem => h leaf (List.mem_append_right _ hmem)
    exact ⟨connective.fold folded folded', by rw [fold, hfold, hfold']; rfl,
      hrenders.bin connective hrenders'⟩

/-- Upper case is a symbol for every name. -/
theorem exists_foldUpper_renders (formula : Formula) :
    ∃ folded, formula.foldUpper = .ok folded ∧ folded.Renders formula upperDictionary :=
  exists_fold_renders fun _ _ => rfl

/-- If a variable has no symbol, the first such variable is reported. -/
theorem fold_eq_error {formula : Formula} {name : String}
    (h : formula.leaves.find? (fun leaf => (symbols leaf).isNone) = some name) :
    formula.fold symbols = .error ⟨name⟩ := by
  induction formula with
  | var other =>
    cases hsymbol : symbols other with
    | none =>
      simp only [leaves, hsymbol, List.find?_singleton, Option.isNone_none, if_true,
        Option.some.injEq] at h
      rw [fold, hsymbol, h]
    | some symbol => simp [leaves, hsymbol] at h
  | const value => simp [leaves] at h
  | neg operand ih =>
    rw [fold, ih h]
    rfl
  | bin connective left right ihleft ihright =>
    rw [leaves, List.find?_append] at h
    cases hleft : left.leaves.find? (fun leaf => (symbols leaf).isNone) with
    | some other =>
      rw [hleft, Option.some_or] at h
      rw [fold, ihleft (hleft.trans h)]
      rfl
    | none =>
      rw [hleft, Option.none_or] at h
      have hcovered : ∀ leaf ∈ left.leaves, (symbols leaf).isSome := by
        intro leaf hleaf
        simpa [Option.isSome_iff_ne_none] using List.find?_eq_none.mp hleft leaf hleaf
      obtain ⟨folded, hfold, _⟩ := exists_fold_renders hcovered
      rw [fold, hfold, ihright h]
      rfl

end Formula

/-- If every variable has a symbol, the folded form is there and stands for the formula; otherwise
the first variable without one is reported.  Upper case is a symbol for every name. -/
theorem fold_renders (formula : Formula) (symbols : Dictionary) :
    ((∀ leaf ∈ formula.leaves, (symbols leaf).isSome) →
      ∃ folded, formula.fold symbols = .ok folded ∧ folded.Renders formula symbols) ∧
    ((∃ leaf ∈ formula.leaves, symbols leaf = none) →
      ∃ earlier name later, formula.leaves = earlier ++ name :: later ∧
        (∀ leaf ∈ earlier, (symbols leaf).isSome) ∧ symbols name = none ∧
        formula.fold symbols = .error ⟨name⟩) ∧
    ∃ folded, formula.foldUpper = .ok folded ∧ folded.Renders formula upperDictionary := by
  refine ⟨Formula.exists_fold_renders, fun h => ?_, formula.exists_foldUpper_renders⟩
  obtain ⟨name, hfirst⟩ := Formula.exists_firstMissing_iff.mpr h
  have hfold : formula.fold symbols = .error ⟨name⟩ :=
    Formula.fold_eq_error (Formula.find?_eq_some_iff_firstMissing.mpr hfirst)
  obtain ⟨earlier, later, hleaves, hearlier, hmissing⟩ := hfirst
  exact ⟨earlier, name, later, hleaves, hearlier, hmissing, hfold⟩

/-- In the dictionary of the example the letters `a` and `b` share a symbol, and `c` has none. -/
theorem fold_renders_shared_symbol :
    (∃ folded, Formula.fold (fun name => if name = "c" then none else some "X")
        (.bin .implies (.var "a") (.bin .iff (.var "b") (.const false))) = .ok folded ∧
      folded.Renders (.bin .implies (.var "a") (.bin .iff (.var "b") (.const false)))
        fun name => if name = "c" then none else some "X") ∧
    Formula.fold (fun name => if name = "c" then none else some "X")
      (.bin .and (.var "b") (.neg (.var "c"))) = .error ⟨"c"⟩ := by
  constructor
  · refine (fold_renders _ _).1 fun leaf hleaf => ?_
    have hcases : leaf = "a" ∨ leaf = "b" := by simpa [Formula.leaves] using hleaf
    rcases hcases with rfl | rfl <;> decide
  · obtain ⟨earlier, name, later, hleaves, hearlier, hnone, hfold⟩ :=
      (fold_renders (.bin .and (.var "b") (.neg (.var "c")))
        fun name => if name = "c" then none else some "X").2.1
        ⟨"c", by decide, by decide⟩
    have hname : name = "c" := by simpa using hnone
    rw [hfold, hname]

end Propositional
