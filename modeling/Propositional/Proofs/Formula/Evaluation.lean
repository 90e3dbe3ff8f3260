import Mathlib.Data.List.Nodup
import Propositional.Formula.Evaluation

/-!
# What the value of a formula depends on

`Formula.holds` is the value under an assignment of truth values to all names.  Evaluation gives
that value as soon as the leaves have values (`eval_eq_ok`), reports the first leaf without one
otherwise (`eval_eq_error`), and depends on nothing but the leaves (`eval_congr`).  The valuation of
a list of names and values gives each name the value at its place, provided that no name occurs
twice (`gives_ofList`).
-/

namespace Propositional

namespace Formula

/-- The truth value of a formula where every name has one. -/
def holds (assignment : String → Bool) : Formula → Bool
  | var name => assignment name
  | const value => value
  | neg operand => !operand.holds assignment
  | bin connective left right =>
    connective.apply (left.holds assignment) (right.holds assignment)

theorem eval_eq_ok {valuation : Valuation} {formula : Formula}
    (h : ∀ leaf ∈ formula.leaves, (valuation leaf).isSome) :
    formula.eval valuation = .ok (formula.holds fun name => (valuation name).getD false) := by
  induction formula with
  | var name =>
    obtain ⟨value, hvalue⟩ := Option.isSome_iff_exists.mp (h name (List.mem_singleton_self _))
    simp only [eval, holds, hvalue, Option.getD_some]
  | const value => rfl
  | neg operand ih =>
    rw [eval, ih h]
    rfl
  | bin connective left right ihleft ihright =>
    have hleft := ihleft fun leaf hmem => h leaf (List.mem_append_left _ hmem)
    have hright := ihright fun leaf hmem => h leaf (List.mem_append_right _ hmem)
    rw [eval, hleft, hright]
    rfl

/-- If a leaf has no value, the first such leaf is reported, whatever the connectives above it. -/
theorem eval_eq_error {valuation : Valuation} {formula : Formula} {name : String}
    (h : formula.leaves.find? (fun leaf => (valuation leaf).isNone) = some name) :
    formula.eval valuation = .error ⟨name⟩ := by
  induction formula with
  | var other =>
    cases hvalue : valuation other with
    | none =>
      simp only [leaves, hvalue, List.find?_singleton, Option.isNone_none, if_true,
        Option.some.injEq] at h
      rw [eval, hvalue, h]
    | some value => simp [leaves, hvalue] at h
  | const value => simp [leaves] at h
  | neg operand ih =>
    rw [eval, ih h]
    rfl
  | bin connective left right ihleft ihright =>
    rw [leaves, List.find?_append] at h
    cases hleft : left.leaves.find? (fun leaf => (valuation leaf).isNone) with
    | some other =>
      rw [hleft, Option.some_or] at h
      rw [eval, ihleft (hleft.trans h)]
      rfl
    | none =>
      -- the left side has a value, and it does not matter which
      rw [hleft, Option.none_or] at h
      have hvalues : ∀ leaf ∈ left.leaves, (valuation leaf).isSome := by
        intro leaf hleaf
        simpa [Option.isSome_iff_ne_none] using List.find?_eq_none.mp hleft leaf hleaf
      rw [eval, eval_eq_ok hvalues, ihright h]
      rfl

/-- Valuations that agree at the leaves give a formula the same value. -/
theorem eval_congr {valuation other : Valuation} {formula : Formula}
    (h : ∀ leaf ∈ formula.leaves, valuation leaf = other leaf) :
    formula.eval valuation = formula.eval other := by
  induction formula with
  | var name =>
    have hname := h name (List.mem_singleton_self _)
    rw [eval, eval, hname]
  | const value => rfl
  | neg operand ih => rw [eval, eval, ih h]
  | bin connective left right ihleft ihright =>
    have hleft := ihleft fun leaf hmem => h leaf (List.mem_append_left _ hmem)
    have hright := ihright fun leaf hmem => h leaf (List.mem_append_right _ hmem)
    rw [eval, eval, hleft, hright]

end Formula

namespace Valuation

/-- The names have the digits as their values, in order. -/
def Gives (valuation : Valuation) (names : List String) (digits : List Bool) : Prop :=
  names.map valuation = digits.map some

variable {valuation other : Valuation} {names : List String} {digits : List Bool}

theorem Gives.length_eq (h : valuation.Gives names digits) : names.length = digits.length := by
  have hlength := congrArg List.length h
  rw [List.length_map, List.length_map] at hlength
  exact hlength

theorem Gives.digits_eq {digits' : List Bool} (h : valuation.Gives names digits)
    (h' : valuation.Gives names digits') : digits = digits' := by
  have hmaps : digits.map some = digits'.map some := Eq.trans (Eq.symm h) h'
  exact List.map_injective_iff.mpr (fun _ _ => Option.some.inj) hmaps

/-- Two valuations that give some names the same digits agree on these names. -/
theorem Gives.agree (h : valuation.Gives names digits) (h' : other.Gives names digits)
    {name : String} (hname : name ∈ names) : valuation name = other name := by
  have hmaps : names.map valuation = names.map other := Eq.trans h (Eq.symm h')
  exact List.map_inj_left.mp hmaps name hname

/-- A valuation with a value for each of the names gives them some digits. -/
theorem exists_gives (h : ∀ name ∈ names, (valuation name).isSome) :
    ∃ digits, valuation.Gives names digits := by
  refine ⟨names.map fun name => (valuation name).getD false, ?_⟩
  unfold Gives
  rw [List.map_map]
  refine List.map_congr_left fun name hname => ?_
  obtain ⟨value, hvalue⟩ := Option.isSome_iff_exists.mp (h name hname)
  simp [hvalue]

/-- In a list in which no key occurs twice, every entry is found. -/
theorem lookup_of_mem {β : Type} {entries : List (String × β)}
    (hnodup : (entries.map Prod.fst).Nodup) {name : String} {entry : β}
    (hmem : (name, entry) ∈ entries) : entries.lookup name = some entry := by
  induction entries with
  | nil => exact absurd hmem List.not_mem_nil
  | cons entry entries ih =>
    obtain ⟨key, value⟩ := entry
    rw [List.map_cons, List.nodup_cons] at hnodup
    rcases List.mem_cons.mp hmem with heq | hrest
    · cases heq
      exact List.lookup_cons_self
    · have hne : name ≠ key := by
        intro heq
        subst heq
        exact hnodup.1 (List.mem_map.mpr ⟨_, hrest, rfl⟩)
      rw [List.lookup_cons, beq_false_of_ne hne]
      exact ih hnodup.2 hrest

/-- The valuation of names and digits gives the names the digits, if no name occurs twice. -/
theorem gives_ofList (hnodup : names.Nodup) (hlength : names.length = digits.length) :
    (ofList (names.zip digits)).Gives names digits := by
  have hkeys : ((names.zip digits).reverse.map Prod.fst).Nodup := by
    rw [List.map_reverse, List.nodup_reverse, List.map_fst_zip (Nat.le_of_eq hlength)]
    exact hnodup
  refine List.ext_getElem ?_ fun i hname hdigit => ?_
  · rw [List.length_map, List.length_map, hlength]
  · rw [List.getElem_map, List.getElem_map]
    refine lookup_of_mem hkeys (List.mem_reverse.mpr ?_)
    rw [List.length_map] at hname hdigit
    have hzip : i < (names.zip digits).length := by
      rw [List.length_zip]
      omega
    rw [← List.getElem_zip]
    exact List.getElem_mem hzip

end Valuation

end Propositional
