import Mathlib.Data.Finset.Card
import Propositional.Formula.Names
import Propositional.Proofs.Ascending

/-!
# The collected names

`Formula.names` works through a pile of formulas.  What it has found together with what still
occurs in the pile stays the same (`mem_collectNames`), and what it has found is in ascending order
(`collectNames_ascending`), whatever the pile.  So the names are those at the leaves, each once
(`mem_names`, `names_ascending`).
-/

namespace Propositional

theorem compare_eq_lt_iff {name other : String} : compare name other = .lt ↔ name < other :=
  compareOfLessAndEq_eq_lt

namespace Formula

theorem mem_collectNames {name : String} {found : List String} {pending : List Formula} :
    name ∈ collectNames found pending ↔
      name ∈ found ∨ ∃ formula ∈ pending, name ∈ formula.leaves := by
  induction found, pending using collectNames.induct with
  | case1 found => simp [collectNames]
  | case2 found other pending ih =>
    rw [collectNames, ih, insertName, Ascending.mem_insert]
    simp only [List.mem_cons, exists_eq_or_imp, leaves, List.not_mem_nil, or_false]
    tauto
  | case3 found value pending ih =>
    rw [collectNames, ih]
    simp [leaves]
  | case4 found operand pending ih =>
    rw [collectNames, ih]
    simp [leaves]
  | case5 found connective left right pending ih =>
    rw [collectNames, ih]
    simp only [List.mem_cons, exists_eq_or_imp, leaves, List.mem_append]
    tauto

theorem collectNames_ascending {found : List String} {pending : List Formula}
    (h : found.Pairwise (compare · · = .lt)) :
    (collectNames found pending).Pairwise (compare · · = .lt) := by
  induction found, pending using collectNames.induct with
  | case1 found =>
    rw [collectNames]
    exact h
  | case2 found other pending ih =>
    rw [collectNames]
    exact ih (Ascending.insert_ascending other h)
  | case3 found value pending ih | case4 found operand pending ih
  | case5 found connective left right pending ih =>
    rw [collectNames]
    exact ih h

/-- The names are the ones at the leaves. -/
theorem mem_names {formula : Formula} {name : String} :
    name ∈ formula.names ↔ name ∈ formula.leaves := by
  unfold names
  rw [mem_collectNames]
  simp

theorem names_ascending (formula : Formula) : formula.names.Pairwise (· < ·) := by
  have h : formula.names.Pairwise (compare · · = .lt) := collectNames_ascending .nil
  exact h.imp compare_eq_lt_iff.mp

theorem names_nodup (formula : Formula) : formula.names.Nodup :=
  (names_ascending formula).nodup

/-- There are as many names as different ones at the leaves. -/
theorem length_names (formula : Formula) :
    formula.names.length = formula.leaves.toFinset.card := by
  rw [← List.toFinset_card_of_nodup formula.names_nodup]
  congr 1
  ext name
  rw [List.mem_toFinset, List.mem_toFinset, mem_names]

end Formula

end Propositional
