import Mathlib.Algebra.BigOperators.Group.Multiset.Basic
import Mathlib.Data.Finset.Sort
import Mathlib.Data.String.Basic
import Mathlib.Logic.Relation
import Propositional.Proofs.Formula.Names
import Propositional.Proofs.Formula.Recursion

/-!
# Collecting names in any order

`Formula.names` takes the formulas from its pile in one particular order.  `Round` leaves the order
open: a collection has a set of names and a multiset of pending formulas, and a round looks at any
one of these.

* A round leaves one node less to look at (`Round.size_eq`), so the rounds come to an end
  (`round_wellFounded`).
* A round neither adds nor loses a name, those that are still pending included (`Round.has_iff`).
  So once nothing is pending, the names at the leaves have been found (`mem_found_of_run`).
* The order that `Formula.names` takes is one of the possible ones (`collectNames_run`).

An ascending list is determined by what is in it (`names_eq_of_mem_iff`), so the order makes no
difference to the names.
-/

namespace Propositional.Formula

/-! ## The top of a formula -/

/-- The name of a formula that is a variable. -/
def ownName : Formula → Finset String
  | var name => {name}
  | const _ | neg _ | bin _ _ _ => ∅

theorem size_eq (formula : Formula) : formula.size = sizes formula.operands + 1 := by
  cases formula <;> simp [size, sizes, operands]

theorem mem_leaves_iff (formula : Formula) {name : String} :
    name ∈ formula.leaves ↔
      name ∈ formula.ownName ∨ ∃ operand ∈ formula.operands, name ∈ operand.leaves := by
  cases formula <;> simp [leaves, ownName, operands]

/-! ## Rounds -/

/-- The names found so far, and the formulas that are still to be looked at. -/
structure Collection where
  found : Finset String
  pending : Multiset Formula

namespace Collection

/-- Nothing is found yet, and one formula is to be looked at. -/
def start (formula : Formula) : Collection := ⟨∅, {formula}⟩

/-- One round looks at any of the pending formulas.  If it is a variable, its name is found, and its
operands become pending. -/
inductive Round : Collection → Collection → Prop where
  | look (found : Finset String) (formula : Formula) (rest : Multiset Formula) :
      Round ⟨found, formula ::ₘ rest⟩ ⟨formula.ownName ∪ found, formula.operands + rest⟩

/-- Any number of rounds. -/
abbrev Run : Collection → Collection → Prop := Relation.ReflTransGen Round

variable {formula : Formula} {collection next : Collection} {name : String}

/-- While a formula is pending there is another round. -/
theorem exists_round (h : collection.pending ≠ 0) : ∃ next, Round collection next := by
  obtain ⟨found, pending⟩ := collection
  obtain ⟨formula, hmem⟩ := Multiset.exists_mem_of_ne_zero h
  obtain ⟨rest, rfl⟩ := Multiset.exists_cons_of_mem hmem
  exact ⟨_, .look found formula rest⟩

/-- The number of nodes that are still to be looked at. -/
def size (collection : Collection) : Nat := (collection.pending.map Formula.size).sum

theorem sum_map_size (formulas : List Formula) :
    (Multiset.map Formula.size formulas).sum = sizes formulas := by
  induction formulas with
  | nil => rfl
  | cons first rest ih => rw [← Multiset.cons_coe, Multiset.map_cons, Multiset.sum_cons, ih, sizes]

theorem Round.size_eq (h : Round collection next) : collection.size = next.size + 1 := by
  obtain ⟨found, formula, rest⟩ := h
  simp only [size, Multiset.map_cons, Multiset.sum_cons, Multiset.map_add, Multiset.sum_add,
    sum_map_size, formula.size_eq]
  omega

/-- Rounds do not follow each other for ever. -/
theorem round_wellFounded : WellFounded fun next collection => Round collection next := by
  refine Subrelation.wf (fun {next collection} h => ?_) (measure size).wf
  show next.size < collection.size
  have heq := h.size_eq
  omega

/-- The name is found, or it is at a leaf of a pending formula. -/
def Has (collection : Collection) (name : String) : Prop :=
  name ∈ collection.found ∨ ∃ formula ∈ collection.pending, name ∈ formula.leaves

/-- A round neither adds nor loses a name. -/
theorem Round.has_iff (h : Round collection next) : next.Has name ↔ collection.Has name := by
  obtain ⟨found, formula, rest⟩ := h
  simp only [Has, Finset.mem_union, Multiset.mem_add, Multiset.mem_coe, Multiset.mem_cons,
    or_and_right, exists_or, exists_eq_left, formula.mem_leaves_iff]
  rw [or_or_or_comm, or_left_comm]

theorem has_iff_of_run (h : Run collection next) : next.Has name ↔ collection.Has name := by
  induction h with
  | refl => exact Iff.rfl
  | tail _ hround ih => exact hround.has_iff.trans ih

/-- What has been found when nothing is pending is what is at the leaves. -/
theorem mem_found_of_run (h : Run (start formula) collection) (hdone : collection.pending = 0) :
    name ∈ collection.found ↔ name ∈ formula.leaves := by
  have hhas : collection.Has name ↔ (start formula).Has name := has_iff_of_run h
  simpa [Has, hdone, start] using hhas

end Collection

/-! ## The names of a formula -/

open Collection

theorem toFinset_insertName (name : String) (found : List String) :
    (insertName name found).toFinset = {name} ∪ found.toFinset := by
  ext other
  simp [insertName, Ascending.mem_insert]

/-- Working through a pile from its top goes by rounds. -/
theorem collectNames_run (found : List String) (pending : List Formula) :
    Run ⟨found.toFinset, pending⟩ ⟨(collectNames found pending).toFinset, 0⟩ := by
  induction found, pending using collectNames.induct with
  | case1 found =>
    rw [collectNames]
    exact .refl
  | case2 found name pending ih =>
    rw [toFinset_insertName] at ih
    rw [collectNames]
    exact .head (.look _ (var name) pending) (by simpa [ownName, operands] using ih)
  | case3 found value pending ih =>
    rw [collectNames]
    exact .head (.look _ (const value) pending) (by simpa [ownName, operands] using ih)
  | case4 found operand pending ih =>
    rw [collectNames]
    exact .head (.look _ (neg operand) pending) (by simpa [ownName, operands] using ih)
  | case5 found connective left right pending ih =>
    -- the right operand comes to lie on top, which the multiset does not show
    have hswap : ((right :: left :: pending : List Formula) : Multiset Formula) =
        ((left :: right :: pending : List Formula) : Multiset Formula) :=
      Multiset.coe_eq_coe.mpr (.swap left right pending)
    rw [hswap] at ih
    rw [collectNames]
    exact .head (.look _ (bin connective left right) pending)
      (by simpa [ownName, operands] using ih)

/-- Ascending lists of names are equal if the same names are in them. -/
theorem names_eq_of_mem_iff {formula : Formula} {list : List String} (hlist : list.Pairwise (· < ·))
    (hmem : ∀ name, name ∈ list ↔ name ∈ formula.leaves) : list = formula.names := by
  refine hlist.eq_of_mem_iff formula.names_ascending fun name => ?_
  rw [hmem, mem_names]

/-- The names of a formula are those at its leaves, in ascending order of code points.  In whatever
order the pending formulas are looked at, this comes to an end, and what has been found then are
these names; the run that gives them to `names` is one of those.  Formulas with the same names at
their leaves have the same list of names. -/
theorem names_of_any_order (formula : Formula) :
    formula.names.Pairwise (· < ·) ∧
      (∀ name, name ∈ formula.names ↔ name ∈ formula.leaves) ∧
      (WellFounded fun next collection => Round collection next) ∧
      Run (start formula) ⟨formula.names.toFinset, 0⟩ ∧
      (∀ collection, Run (start formula) collection →
        (collection.pending ≠ 0 → ∃ next, Round collection next) ∧
          (collection.pending = 0 → collection.found.sort (· ≤ ·) = formula.names)) ∧
      ∀ other : Formula, (∀ name, name ∈ other.leaves ↔ name ∈ formula.leaves) →
        other.names = formula.names := by
  refine ⟨formula.names_ascending, fun _ => mem_names, round_wellFounded,
    collectNames_run [] [formula], fun collection hrun => ⟨exists_round, fun hdone => ?found⟩,
    fun other hleaves => ?leaves⟩
  case found =>
    refine names_eq_of_mem_iff collection.found.sortedLT_sort.pairwise fun name => ?_
    rw [Finset.mem_sort, mem_found_of_run hrun hdone]
  case leaves =>
    refine names_eq_of_mem_iff other.names_ascending fun name => ?_
    rw [mem_names, hleaves]

/-- Looking at the left operand first, where `names` begins with the right one. -/
theorem names_of_any_order_left_first :
    let formula := bin .implies (var "b") (neg (var "a"))
    let other := bin .or (var "a") (bin .and (var "b") (var "a"))
    Run (start formula) ⟨{"a", "b"}, 0⟩ ∧ Finset.sort {"a", "b"} (· ≤ ·) = formula.names ∧
      (∀ name, name ∈ other.leaves ↔ name ∈ formula.leaves) ∧ other.names = formula.names := by
  intro formula other
  have htop : Round (start formula) ⟨∅, {var "b", neg (var "a")}⟩ := .look ∅ formula 0
  have hleft : Round ⟨∅, {var "b", neg (var "a")}⟩ ⟨{"b"}, {neg (var "a")}⟩ :=
    .look ∅ (var "b") {neg (var "a")}
  have hright : Round ⟨{"b"}, {neg (var "a")}⟩ ⟨{"b"}, {var "a"}⟩ := .look {"b"} (neg (var "a")) 0
  have hlast : Round ⟨{"b"}, {var "a"}⟩ ⟨{"a", "b"}, 0⟩ := .look {"b"} (var "a") 0
  have hrun : Run (start formula) ⟨{"a", "b"}, 0⟩ :=
    .head htop (.head hleft (.head hright (.single hlast)))
  have hleaves : ∀ name, name ∈ other.leaves ↔ name ∈ formula.leaves := by
    intro name
    simp only [other, formula, leaves, List.mem_append, List.mem_singleton]
    tauto
  obtain ⟨_, _, _, _, hruns, hother⟩ := names_of_any_order formula
  exact ⟨hrun, (hruns _ hrun).2 rfl, hleaves, hother other hleaves⟩

end Propositional.Formula
