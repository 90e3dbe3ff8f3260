import Propositional.Datum
import Propositional.Proofs.Formula.Evaluation

/-!
# Evaluation in a context

A context gives values of any kind to some names; what counts of a value is its truth value
(`Valuation.ofContext`).  Evaluation fails if a leaf has no value, with the first such leaf, and
neither the connectives nor the values of the other leaves have a part in this
(`eval_eq_error_iff`).  Otherwise it depends on nothing but the truth values at the leaves.
-/

namespace Propositional

/-- The valuation of a context, by the truth value that each value counts as. -/
def Valuation.ofContext {α : Type} (truth : α → Bool) (context : String → Option α) : Valuation :=
  fun name => (context name).map truth

@[simp] theorem Valuation.isSome_ofContext {α : Type} (truth : α → Bool)
    (context : String → Option α) (name : String) :
    (ofContext truth context name).isSome = (context name).isSome :=
  Option.isSome_map

@[simp] theorem Valuation.isNone_ofContext {α : Type} (truth : α → Bool)
    (context : String → Option α) (name : String) :
    (ofContext truth context name).isNone = (context name).isNone :=
  Option.isNone_map

namespace Formula

variable {α : Type} {truth : α → Bool} {context : String → Option α} {formula : Formula}

/-- The name is at the first leaf, from the left, that has no value. -/
def FirstMissing (context : String → Option α) (formula : Formula) (name : String) : Prop :=
  ∃ earlier later, formula.leaves = earlier ++ name :: later ∧
    (∀ leaf ∈ earlier, (context leaf).isSome) ∧ context name = none

theorem find?_eq_some_iff_firstMissing {name : String} :
    formula.leaves.find? (fun leaf => (context leaf).isNone) = some name ↔
      FirstMissing context formula name := by
  rw [List.find?_eq_some_iff_append]
  constructor
  · intro h
    obtain ⟨hmissing, earlier, later, hleaves, hearlier⟩ := h
    refine ⟨earlier, later, hleaves, fun leaf hleaf => ?_, Option.isNone_iff_eq_none.mp hmissing⟩
    simpa [Option.isSome_iff_ne_none] using hearlier leaf hleaf
  · intro h
    obtain ⟨earlier, later, hleaves, hearlier, hmissing⟩ := h
    refine ⟨Option.isNone_iff_eq_none.mpr hmissing, earlier, later, hleaves, fun leaf hleaf => ?_⟩
    simpa [Option.isSome_iff_ne_none] using hearlier leaf hleaf

/-- If a leaf has no value, one of those leaves is the first. -/
theorem exists_firstMissing_iff :
    (∃ name, FirstMissing context formula name) ↔ ∃ leaf ∈ formula.leaves, context leaf = none := by
  simp only [← find?_eq_some_iff_firstMissing, ← Option.isSome_iff_exists, List.find?_isSome,
    Option.isNone_iff_eq_none]

/-- Evaluation reports the first leaf without a value, and nothing else. -/
theorem eval_eq_error_iff {missing : MissingVariable} :
    formula.eval (.ofContext truth context) = .error missing ↔
      FirstMissing context formula missing.name := by
  have hreported : ∀ name, FirstMissing context formula name →
      formula.eval (.ofContext truth context) = .error ⟨name⟩ := by
    intro name h
    refine eval_eq_error ?_
    simpa only [Valuation.isNone_ofContext] using find?_eq_some_iff_firstMissing.mpr h
  constructor
  · intro h
    by_cases hmissing : ∃ leaf ∈ formula.leaves, context leaf = none
    · obtain ⟨name, hname⟩ := exists_firstMissing_iff.mpr hmissing
      cases (hreported name hname).symm.trans h
      exact hname
    · have hvalues : ∀ leaf ∈ formula.leaves,
          (Valuation.ofContext truth context leaf).isSome := by
        simpa [Option.isSome_iff_ne_none] using hmissing
      cases (eval_eq_ok hvalues).symm.trans h
  · exact hreported missing.name

end Formula

/-- Evaluation fails exactly if a leaf has no value in the context, with the first such leaf.  If
every leaf has one, any other context in which the leaves have values of the same truth gives the
same result. -/
theorem eval_fails_iff_missing {α : Type} (formula : Formula) (truth : α → Bool)
    (context : String → Option α) :
    ((∃ missing, formula.eval (.ofContext truth context) = .error missing) ↔
      ∃ leaf ∈ formula.leaves, context leaf = none) ∧
    (∀ missing, formula.eval (.ofContext truth context) = .error missing ↔
      formula.FirstMissing context missing.name) ∧
    ∀ {β : Type} (truth' : β → Bool) (other : String → Option β),
      (∀ leaf ∈ formula.leaves, ∃ value value', context leaf = some value ∧
        other leaf = some value' ∧ truth value = truth' value') →
      ∃ result, formula.eval (.ofContext truth context) = .ok result ∧
        formula.eval (.ofContext truth' other) = .ok result := by
  refine ⟨?_, fun _ => Formula.eval_eq_error_iff, ?_⟩
  · rw [← Formula.exists_firstMissing_iff]
    constructor
    · intro h
      obtain ⟨missing, hmissing⟩ := h
      exact ⟨missing.name, Formula.eval_eq_error_iff.mp hmissing⟩
    · intro h
      obtain ⟨name, hname⟩ := h
      exact ⟨⟨name⟩, Formula.eval_eq_error_iff.mpr hname⟩
  · intro β truth' other h
    have hvalues : ∀ leaf ∈ formula.leaves,
        (Valuation.ofContext truth context leaf).isSome := by
      intro leaf hleaf
      obtain ⟨value, _, hvalue, _⟩ := h leaf hleaf
      rw [Valuation.isSome_ofContext, hvalue]
      rfl
    have hagree : ∀ leaf ∈ formula.leaves,
        Valuation.ofContext truth context leaf = Valuation.ofContext truth' other leaf := by
      intro leaf hleaf
      obtain ⟨value, value', hvalue, hvalue', htruth⟩ := h leaf hleaf
      simp [Valuation.ofContext, hvalue, hvalue', htruth]
    refine ⟨_, Formula.eval_eq_ok hvalues, ?_⟩
    rw [← Formula.eval_congr hagree]
    exact Formula.eval_eq_ok hvalues

/-- A left side that decides does not hide that `c` has no value, and the text `0` counts as much as
the value true. -/
theorem eval_fails_iff_missing_decided :
    Formula.eval
        (.ofContext Datum.truth fun name => if name = "d" then some (.flag false) else none)
        (.bin .or (.const true) (.bin .and (.var "c") (.var "d"))) = .error ⟨"c"⟩ ∧
      ∃ result,
        Formula.eval (.ofContext Datum.truth fun _ => some (.text "0"))
          (.bin .implies (.var "a") (.neg (.var "b"))) = .ok result ∧
        Formula.eval (.ofContext id fun name => if name = "c" then none else some true)
          (.bin .implies (.var "a") (.neg (.var "b"))) = .ok result := by
  constructor
  · refine ((eval_fails_iff_missing _ _ _).2.1 ⟨"c"⟩).mpr ⟨[], ["d"], rfl, by simp, rfl⟩
  · refine (eval_fails_iff_missing _ _ _).2.2 _ _ fun leaf hleaf => ?_
    have hcases : leaf = "a" ∨ leaf = "b" := by simpa [Formula.leaves] using hleaf
    rcases hcases with heq | heq
    all_goals
      rw [heq]
      exact ⟨_, _, rfl, rfl, by decide⟩

end Propositional
