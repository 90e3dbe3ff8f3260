import Propositional.Folded.Order

/-!
# The laws of the order of folded formulas

Only equal formulas compare as equal, by shape (`eq_of_compareShape`) and so by size and shape.
This is what a list in that order needs in order to keep one of several equal formulas and no
others.  That such a list is ascending takes more: comparing the other way round gives the opposite
result (`compareShape_swap`), and what comes first is passed on (`compareShape_lt_trans`).

Formulas of different kinds are in the order of the kinds, which are numbers
(`compareShape_of_rank_ne`).  So each law is proved for formulas of one kind (`Alike`), by induction
on one of them; lists of operands are compared from the first one on, and have the law if their
elements do.
-/

namespace Propositional.Folded

/-! ## Kinds -/

theorem rank_junction (kind : Junction) (operands : List Folded) :
    rank (junction kind operands) = if kind = .all then 2 else 6 := by
  cases kind <;> rfl

/-- Formulas of one kind. -/
inductive Alike : Folded → Folded → Prop where
  | constant (value other : Bool) : Alike (.constant value) (.constant other)
  | symbol (name other : String) : Alike (.symbol name) (.symbol other)
  | negation (operand other : Folded) : Alike (.negation operand) (.negation other)
  | junction (kind : Junction) (operands others : List Folded) :
      Alike (.junction kind operands) (.junction kind others)
  | implication (left right left' right' : Folded) :
      Alike (.implication left right) (.implication left' right')
  | equivalence (left right left' right' : Folded) :
      Alike (.equivalence left right) (.equivalence left' right')

theorem alike_of_rank_eq {left right : Folded} (h : left.rank = right.rank) : Alike left right := by
  cases left <;> cases right
  case junction.junction kind operands kind' operands' =>
    have hkind : kind = kind' := by
      cases kind <;> cases kind' <;> simp [rank] at h ⊢
    rw [hkind]
    exact .junction _ _ _
  all_goals first | constructor | grind [rank, rank_junction]

/-- Formulas of different kinds are in the order of the kinds. -/
theorem compareShape_of_rank_ne {left right : Folded} (h : left.rank ≠ right.rank) :
    compareShape left right = compare left.rank right.rank := by
  unfold compareShape
  split
  case h_4 kind lefts kind' rights =>
    have hkind : kind ≠ kind' := by
      intro heq
      rw [heq, rank_junction, rank_junction] at h
      exact h rfl
    rw [if_neg hkind]
    simp only [rank_junction]
  case h_7 => rfl
  all_goals exact absurd rfl h

/-! ## Formulas that compare as equal -/

theorem compareShapes_self {formulas : List Folded}
    (h : ∀ formula ∈ formulas, compareShape formula formula = .eq) :
    compareShapes formulas formulas = .eq := by
  induction formulas with
  | nil => rw [compareShapes]
  | cons first rest ih =>
    have hrest := ih fun formula hmem => h formula (List.mem_cons_of_mem _ hmem)
    rw [compareShapes, h first List.mem_cons_self, hrest, Ordering.then_eq_eq]
    exact ⟨rfl, rfl⟩

theorem compareShape_self (formula : Folded) : compareShape formula formula = .eq := by
  induction formula with
  | constant value | symbol name => simp [compareShape]
  | negation operand ih => rw [compareShape, ih]
  | junction kind operands ih => simp [compareShape, compareShapes_self ih]
  | implication left right ihleft ihright | equivalence left right ihleft ihright =>
    simp [compareShape, ihleft, ihright]

/-- Formulas that compare as equal in shape are of one kind. -/
theorem alike_of_compareShape {left right : Folded} (h : compareShape left right = .eq) :
    Alike left right := by
  by_cases hrank : left.rank = right.rank
  · exact alike_of_rank_eq hrank
  · rw [compareShape_of_rank_ne hrank, Nat.compare_eq_eq] at h
    exact absurd h hrank

theorem eq_of_compareShapes {lefts : List Folded}
    (h : ∀ left ∈ lefts, ∀ {right}, compareShape left right = .eq → left = right) :
    ∀ {rights}, compareShapes lefts rights = .eq → lefts = rights := by
  induction lefts with
  | nil =>
    intro rights heq
    cases rights with
    | nil => rfl
    | cons => simp [compareShapes] at heq
  | cons left lefts ih =>
    intro rights heq
    cases rights with
    | nil => simp [compareShapes] at heq
    | cons right rights =>
      rw [compareShapes, Ordering.then_eq_eq] at heq
      rw [h left List.mem_cons_self heq.1,
        ih (fun left hmem => h left (List.mem_cons_of_mem _ hmem)) heq.2]

/-- Formulas that compare as equal in shape are equal. -/
theorem eq_of_compareShape {left right : Folded} (h : compareShape left right = .eq) :
    left = right := by
  induction left generalizing right with
  | constant value | symbol name =>
    cases alike_of_compareShape h
    rw [compareShape, Std.compare_eq_iff_eq] at h
    rw [h]
  | negation operand ih =>
    cases alike_of_compareShape h
    rw [compareShape] at h
    rw [ih h]
  | junction kind operands ih =>
    cases alike_of_compareShape h
    rw [compareShape, if_pos rfl, Ordering.then_eq_eq] at h
    rw [eq_of_compareShapes ih h.2]
  | implication left right ihleft ihright | equivalence left right ihleft ihright =>
    cases alike_of_compareShape h
    rw [compareShape, Ordering.then_eq_eq] at h
    rw [ihleft h.1, ihright h.2]

/-- Only equal formulas compare as equal in shape. -/
instance : Std.LawfulEqCmp compareShape where
  compare_self := compareShape_self _
  eq_of_compare := eq_of_compareShape

/-! ## Orientation -/

/-- The two formulas are compared the other way round with the opposite result. -/
def Swaps (left right : Folded) : Prop := compareShape left right = (compareShape right left).swap

theorem swaps_of_alike {left right : Folded} (h : Alike left right → Swaps left right) :
    Swaps left right := by
  by_cases hrank : left.rank = right.rank
  · exact h (alike_of_rank_eq hrank)
  · rw [Swaps, compareShape_of_rank_ne hrank, compareShape_of_rank_ne (Ne.symm hrank)]
    exact Std.OrientedCmp.eq_swap

theorem compareShapes_swap {lefts : List Folded} (h : ∀ left ∈ lefts, ∀ right, Swaps left right) :
    ∀ rights, compareShapes lefts rights = (compareShapes rights lefts).swap := by
  induction lefts with
  | nil =>
    intro rights
    cases rights <;> simp [compareShapes]
  | cons left lefts ih =>
    intro rights
    cases rights with
    | nil => simp [compareShapes]
    | cons right rights =>
      have hleft := h left List.mem_cons_self right
      have hlefts := ih (fun left hmem => h left (List.mem_cons_of_mem _ hmem)) rights
      rw [compareShapes, compareShapes, hleft, hlefts, Ordering.swap_then]

theorem compareShape_swap (left : Folded) : ∀ right, Swaps left right := by
  induction left with
  | constant value | symbol name =>
    refine fun right => swaps_of_alike fun h => ?_
    cases h
    rw [Swaps, compareShape, compareShape]
    exact Std.OrientedCmp.eq_swap
  | negation operand ih =>
    refine fun right => swaps_of_alike fun h => ?_
    cases h
    rw [Swaps, compareShape, compareShape, ih]
  | junction kind operands ih =>
    refine fun right => swaps_of_alike fun h => ?_
    cases h with
    | junction _ _ others =>
      rw [Swaps, compareShape, compareShape, if_pos rfl, if_pos rfl, Ordering.swap_then,
        compareShapes_swap ih]
      congr 1
      exact Std.OrientedCmp.eq_swap
  | implication left right ihleft ihright | equivalence left right ihleft ihright =>
    refine fun right => swaps_of_alike fun h => ?_
    cases h
    rw [Swaps, compareShape, compareShape, ihleft, ihright, Ordering.swap_then]

/-! ## Transitivity -/

/-- Two comparisons one after the other pass on what comes first. -/
theorem then_lt_trans {α β : Type} {cmp : α → α → Ordering} {cmp' : β → β → Ordering}
    (heq : ∀ {a a'}, cmp a a' = .eq → a = a') {a₁ a₂ a₃ : α} {b₁ b₂ b₃ : β}
    (hlt : cmp a₁ a₂ = .lt → cmp a₂ a₃ = .lt → cmp a₁ a₃ = .lt)
    (hlt' : cmp' b₁ b₂ = .lt → cmp' b₂ b₃ = .lt → cmp' b₁ b₃ = .lt)
    (h : (cmp a₁ a₂).then (cmp' b₁ b₂) = .lt) (h' : (cmp a₂ a₃).then (cmp' b₂ b₃) = .lt) :
    (cmp a₁ a₃).then (cmp' b₁ b₃) = .lt := by
  rw [Ordering.then_eq_lt] at *
  rcases h with h | ⟨h, hb⟩
  · rcases h' with h' | ⟨h', _⟩
    · exact .inl (hlt h h')
    · rw [← heq h']
      exact .inl h
  · rw [heq h]
    rcases h' with h' | ⟨h', hb'⟩
    · exact .inl h'
    · exact .inr ⟨h', hlt' hb hb'⟩

/-- What comes before the second formula, which comes before the third, comes before the third. -/
def LtTrans (left middle right : Folded) : Prop :=
  compareShape left middle = .lt → compareShape middle right = .lt → compareShape left right = .lt

theorem rank_le_of_compareShape {left right : Folded} (h : compareShape left right = .lt) :
    left.rank ≤ right.rank := by
  by_cases hrank : left.rank = right.rank
  · exact Nat.le_of_eq hrank
  · rw [compareShape_of_rank_ne hrank, Nat.compare_eq_lt] at h
    exact Nat.le_of_lt h

theorem ltTrans_of_alike {left middle right : Folded}
    (h : Alike left middle → Alike middle right → LtTrans left middle right) :
    LtTrans left middle right := by
  intro hlt hlt'
  have hle := rank_le_of_compareShape hlt
  have hle' := rank_le_of_compareShape hlt'
  by_cases hrank : left.rank = right.rank
  · exact h (alike_of_rank_eq (by omega)) (alike_of_rank_eq (by omega)) hlt hlt'
  · rw [compareShape_of_rank_ne hrank, Nat.compare_eq_lt]
    omega

theorem compareShapes_lt_trans {lefts : List Folded}
    (h : ∀ left ∈ lefts, ∀ middle right, LtTrans left middle right) :
    ∀ {middles rights}, compareShapes lefts middles = .lt → compareShapes middles rights = .lt →
      compareShapes lefts rights = .lt := by
  induction lefts with
  | nil =>
    intro middles rights hlt hlt'
    cases rights <;> cases middles <;> simp_all [compareShapes]
  | cons left lefts ih =>
    intro middles rights hlt hlt'
    match middles, rights with
    | [], _ | _ :: _, [] => simp [compareShapes] at hlt hlt'
    | middle :: middles, right :: rights =>
      rw [compareShapes] at hlt hlt' ⊢
      exact then_lt_trans eq_of_compareShape (h left List.mem_cons_self middle right)
        (ih fun left hmem => h left (List.mem_cons_of_mem _ hmem)) hlt hlt'

theorem compareShape_lt_trans (left : Folded) : ∀ middle right, LtTrans left middle right := by
  induction left with
  | constant value | symbol name =>
    refine fun middle right => ltTrans_of_alike fun h h' => ?_
    cases h
    cases h'
    simp only [LtTrans, compareShape]
    exact Std.TransCmp.lt_trans
  | negation operand ih =>
    refine fun middle right => ltTrans_of_alike fun h h' => ?_
    cases h
    cases h'
    simp only [LtTrans, compareShape]
    exact ih _ _
  | junction kind operands ih =>
    refine fun middle right => ltTrans_of_alike fun h h' => ?_
    cases h
    cases h'
    simp only [LtTrans, compareShape, if_pos]
    exact then_lt_trans Nat.compare_eq_eq.mp Std.TransCmp.lt_trans (compareShapes_lt_trans ih)
  | implication left right ihleft ihright | equivalence left right ihleft ihright =>
    refine fun middle right => ltTrans_of_alike fun h h' => ?_
    cases h
    cases h'
    simp only [LtTrans, compareShape]
    exact then_lt_trans eq_of_compareShape (ihleft _ _) (ihright _ _)

/-! ## The order by size -/

/-- Only equal formulas compare as equal. -/
instance : Std.LawfulEqCmp compareSize where
  compare_self {formula} := by simp [compareSize, compareShape_self]
  eq_of_compare {left right} h := by
    rw [compareSize, Ordering.then_eq_eq] at h
    exact eq_of_compareShape h.2

instance : Std.OrientedCmp compareSize where
  eq_swap {left right} := by
    rw [compareSize, compareSize, Ordering.swap_then, ← Std.OrientedCmp.eq_swap,
      ← compareShape_swap]

theorem compareSize_lt_trans {left middle right : Folded} (h : compareSize left middle = .lt)
    (h' : compareSize middle right = .lt) : compareSize left right = .lt :=
  then_lt_trans Nat.compare_eq_eq.mp Std.TransCmp.lt_trans (compareShape_lt_trans _ _ _) h h'

instance : Std.TransCmp compareSize where
  isLE_trans {left middle right} h h' := by
    rw [Ordering.isLE_iff_eq_lt_or_eq_eq] at *
    rcases h with h | h
    · rcases h' with h' | h'
      · exact .inl (compareSize_lt_trans h h')
      · rw [← Std.LawfulEqCmp.eq_of_compare h']
        exact .inl h
    · rw [Std.LawfulEqCmp.eq_of_compare h]
      exact h'

end Propositional.Folded
