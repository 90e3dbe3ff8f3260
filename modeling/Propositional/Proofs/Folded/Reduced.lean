import Propositional.Folded.OfFormula
import Propositional.Proofs.Ascending
import Propositional.Proofs.Folded.Rendering

/-!
# Reduced formulas

What folding leaves of a formula.  `Occurs` says that a formula occurs in another one, `ReducedAt`
has the rules for a single node, and a formula is `Reduced` if every formula that occurs in it keeps
them.  There is no constant in a reduced formula, so a folded formula is either a constant or reduced
(`Normal`).

Each constructor that folds keeps this: `normal_negate`, `normal_join`, `normal_imply` and
`normal_equate`.  What an operand adds to a junction is reduced, and is never a junction of the same
kind (`reduced_of_mem_operandsOf`); that is why one round of taking in operands is enough.
-/

namespace Propositional

namespace Folded

/-! ## The rules -/

/-- The formulas right below the top of a folded formula. -/
def operands : Folded → List Folded
  | constant _ => []
  | symbol _ => []
  | negation operand => [operand]
  | junction _ operands => operands
  | implication left right => [left, right]
  | equivalence left right => [left, right]

/-- A formula occurs in a formula, at its top or below. -/
inductive Occurs (part : Folded) : Folded → Prop where
  | top : Occurs part part
  | inside {whole operand : Folded} (mem : operand ∈ whole.operands) (rest : Occurs part operand) :
      Occurs part whole

/-- The rules of reduced formulas for the top of a formula. -/
def ReducedAt : Folded → Prop
  | constant _ => False
  | symbol _ => True
  | negation operand => ∀ inner, operand ≠ negation inner
  | junction kind operands =>
    2 ≤ operands.length ∧ operands.Nodup ∧ ∀ inner, junction kind inner ∉ operands
  | implication left right => left ≠ right
  | equivalence left right => left ≠ right

/-- Every formula that occurs keeps the rules. -/
def Reduced (formula : Folded) : Prop := ∀ part, Occurs part formula → part.ReducedAt

/-- A constant, or a reduced formula. -/
def Normal (formula : Folded) : Prop := (∃ value, formula = constant value) ∨ formula.Reduced

/-- What holds throughout a formula holds at its top and throughout its operands. -/
theorem forall_occurs_iff {rules : Folded → Prop} {formula : Folded} :
    (∀ part, Occurs part formula → rules part) ↔
      rules formula ∧ ∀ operand ∈ formula.operands, ∀ part, Occurs part operand → rules part := by
  constructor
  · intro h
    exact ⟨h formula .top, fun operand hmem part hpart => h part (.inside hmem hpart)⟩
  · intro h part hpart
    cases hpart with
    | top => exact h.1
    | inside mem rest => exact h.2 _ mem part rest

theorem reduced_iff {formula : Folded} :
    formula.Reduced ↔ formula.ReducedAt ∧ ∀ operand ∈ formula.operands, operand.Reduced :=
  forall_occurs_iff

theorem Reduced.top {formula : Folded} (h : formula.Reduced) : formula.ReducedAt :=
  h formula .top

theorem Reduced.operand {formula operand : Folded} (h : formula.Reduced)
    (hmem : operand ∈ formula.operands) : operand.Reduced :=
  (reduced_iff.mp h).2 operand hmem

theorem Reduced.ne_constant {formula : Folded} (h : formula.Reduced) (value : Bool) :
    formula ≠ constant value := by
  intro heq
  rw [heq] at h
  exact h _ .top

theorem Normal.reduced {formula : Folded} (h : formula.Normal)
    (hne : ∀ value, formula ≠ constant value) : formula.Reduced := by
  rcases h with ⟨value, heq⟩ | h
  · exact absurd heq (hne value)
  · exact h

/-! ## Negations -/

theorem Reduced.negation {operand : Folded} (h : operand.Reduced)
    (hne : ∀ inner, operand ≠ negation inner) : (negation operand).Reduced :=
  reduced_iff.mpr ⟨hne, by simpa [operands] using h⟩

theorem Reduced.negate {formula : Folded} (h : formula.Reduced) : formula.negate.Reduced := by
  cases formula with
  | constant value => exact absurd rfl (h.ne_constant value)
  | negation operand => exact (reduced_iff.mp h).2 operand (List.mem_singleton_self _)
  | symbol | junction | implication | equivalence =>
    exact h.negation fun inner heq => by cases heq

theorem normal_negate {formula : Folded} (h : formula.Normal) : formula.negate.Normal := by
  rcases h with ⟨value, heq⟩ | h
  · rw [heq]
    exact .inl ⟨_, rfl⟩
  · exact .inr h.negate

/-! ## Junctions -/

section Junctions

variable {kind : Junction}

/-- What a formula adds to a junction is reduced and no junction of that kind. -/
theorem reduced_of_mem_operandsOf {formula operand : Folded} (h : formula.Normal)
    (hmem : operand ∈ operandsOf kind formula) :
    operand.Reduced ∧ ∀ inner, operand ≠ junction kind inner := by
  rcases h with ⟨value, heq⟩ | h
  · rw [heq] at hmem
    exact absurd hmem List.not_mem_nil
  · cases formula with
    | constant value => exact absurd rfl (h.ne_constant value)
    | junction other operands =>
      rw [operandsOf] at hmem
      by_cases hkind : other = kind
      · rw [if_pos hkind] at hmem
        obtain ⟨⟨_, _, hothers⟩, hoperands⟩ := reduced_iff.mp h
        refine ⟨hoperands operand hmem, fun inner heq => ?_⟩
        rw [heq, ← hkind] at hmem
        exact hothers inner hmem
      · rw [if_neg hkind, List.mem_singleton] at hmem
        rw [hmem]
        exact ⟨h, fun inner heq => hkind (by cases heq; rfl)⟩
    | symbol | negation | implication | equivalence =>
      rw [operandsOf, List.mem_singleton] at hmem
      · rw [hmem]
        exact ⟨h, fun inner heq => by cases heq⟩
      all_goals simp

theorem normal_ofOperands {operands : List Folded} (hreduced : ∀ operand ∈ operands, operand.Reduced)
    (hother : ∀ operand ∈ operands, ∀ inner, operand ≠ junction kind inner)
    (hnodup : operands.Nodup) : (ofOperands kind operands).Normal := by
  match operands with
  | [] => exact .inl ⟨_, rfl⟩
  | [operand] => exact .inr (hreduced operand (List.mem_singleton_self _))
  | first :: second :: rest =>
    refine .inr (reduced_iff.mpr ⟨⟨?_, hnodup, fun inner hmem => hother _ hmem inner rfl⟩, hreduced⟩)
    simp

theorem normal_join {formulas : List Folded} (h : ∀ formula ∈ formulas, formula.Normal) :
    (join kind formulas).Normal := by
  unfold join
  split
  · exact .inl ⟨_, rfl⟩
  · have hoperands : ∀ operand ∈
        Ascending.ofList compareSize (formulas.flatMap (operandsOf kind)),
        operand.Reduced ∧ ∀ inner, operand ≠ junction kind inner := by
      intro operand hmem
      rw [Ascending.mem_ofList, List.mem_flatMap] at hmem
      obtain ⟨formula, hformula, hoperand⟩ := hmem
      exact reduced_of_mem_operandsOf (h formula hformula) hoperand
    exact normal_ofOperands (fun operand hmem => (hoperands operand hmem).1)
      (fun operand hmem => (hoperands operand hmem).2) (Ascending.ofList_nodup _)

end Junctions

/-! ## Implications and equivalences -/

theorem reduced_pair {left right : Folded} (hleft : left.Reduced) (hright : right.Reduced) :
    ∀ operand ∈ [left, right], operand.Reduced := by
  simp [hleft, hright]

theorem normal_imply {left right : Folded} (hleft : left.Normal) (hright : right.Normal) :
    (imply left right).Normal := by
  have hjoin : (join .any [negate left, right]).Normal :=
    normal_join (by simp [normal_negate hleft, hright])
  unfold imply
  split
  · exact hjoin
  · exact hjoin
  · rename_i hleftConstant hrightConstant
    split
    · exact .inl ⟨_, rfl⟩
    · rename_i hshape
      refine .inr (reduced_iff.mpr ⟨fun heq => hshape ?_, reduced_pair
        (hleft.reduced hleftConstant) (hright.reduced hrightConstant)⟩)
      rw [heq]
      exact compareShape_self right

theorem normal_equateDistinct {first second : Folded} (hfirst : first.Normal)
    (hsecond : second.Normal) (hne : first ≠ second) : (equateDistinct first second).Normal := by
  unfold equateDistinct
  split
  · exact hsecond
  · exact hfirst
  · exact normal_negate hsecond
  · exact normal_negate hfirst
  · rename_i hfirstTrue hfirstFalse hsecondTrue hsecondFalse
    refine .inr (reduced_iff.mpr ⟨hne, reduced_pair (hfirst.reduced ?_) (hsecond.reduced ?_)⟩)
    · exact Bool.rec hfirstFalse hfirstTrue
    · exact Bool.rec hsecondFalse hsecondTrue

theorem normal_equate {left right : Folded} (hleft : left.Normal) (hright : right.Normal) :
    (equate left right).Normal := by
  have hne : compareSize left right ≠ .eq → left ≠ right := by
    intro h heq
    rw [heq] at h
    exact h Std.ReflCmp.compare_self
  unfold equate
  split
  · rename_i hlt
    exact normal_equateDistinct hleft hright (hne (by rw [hlt]; decide))
  · exact .inl ⟨_, rfl⟩
  · rename_i hgt
    exact normal_equateDistinct hright hleft (hne (by rw [hgt]; decide)).symm

end Folded

/-! ## Formulas -/

theorem Connective.normal_fold {connective : Connective} {left right : Folded}
    (hleft : left.Normal) (hright : right.Normal) : (connective.fold left right).Normal := by
  cases connective with
  | and | or => exact Folded.normal_join (by simp [hleft, hright])
  | implies => exact Folded.normal_imply hleft hright
  | iff => exact Folded.normal_equate hleft hright

theorem Formula.normal_of_fold {formula : Formula} {symbols : Dictionary} {folded : Folded}
    (h : formula.fold symbols = .ok folded) : folded.Normal := by
  induction formula generalizing folded with
  | var name =>
    cases hsymbol : symbols name with
    | none => simp [fold, hsymbol] at h
    | some symbol =>
      simp only [fold, hsymbol, Except.ok.injEq] at h
      rw [← h]
      exact .inr (Folded.reduced_iff.mpr ⟨trivial, by simp [Folded.operands]⟩)
  | const value =>
    cases h
    exact .inl ⟨value, rfl⟩
  | neg operand ih =>
    cases hoperand : operand.fold symbols with
    | error missing =>
      rw [fold, hoperand] at h
      cases h
    | ok inner =>
      rw [fold, hoperand] at h
      cases h
      exact Folded.normal_negate (ih hoperand)
  | bin connective left right ihleft ihright =>
    cases hleft : left.fold symbols with
    | error missing =>
      rw [fold, hleft] at h
      cases h
    | ok first =>
      cases hright : right.fold symbols with
      | error missing =>
        rw [fold, hleft, hright] at h
        cases h
      | ok second =>
        rw [fold, hleft, hright] at h
        cases h
        exact connective.normal_fold (ihleft hleft) (ihright hright)

/-- If every variable has a symbol, the formula has a folded form, and it is a constant or keeps the
rules of reduced formulas throughout. -/
theorem fold_reduces (formula : Formula) (symbols : Dictionary)
    (h : ∀ leaf ∈ formula.leaves, (symbols leaf).isSome) :
    ∃ folded, formula.fold symbols = .ok folded ∧
      ((∃ value, folded = .constant value) ∨
        ∀ part, Folded.Occurs part folded → part.ReducedAt) := by
  obtain ⟨folded, hfold, _⟩ :
      ∃ folded, formula.fold symbols = .ok folded ∧ folded.Renders formula symbols :=
    Formula.exists_fold_renders h
  exact ⟨folded, hfold, Formula.normal_of_fold hfold⟩

/-- Without the constant, the negations of `!(a | b) -> false` cancel and one disjunction is left of
two. -/
theorem fold_reduces_nested :
    Formula.fold upperDictionary
        (.bin .or (.bin .implies (.neg (.bin .or (.var "a") (.var "b"))) (.const false))
          (.var "c")) =
      .ok (.junction .any [.symbol "A", .symbol "B", .symbol "C"]) ∧
    ∀ part, Folded.Occurs part (.junction .any [.symbol "A", .symbol "B", .symbol "C"]) →
      part.ReducedAt := by
  have hfolded : Formula.fold upperDictionary
        (.bin .or (.bin .implies (.neg (.bin .or (.var "a") (.var "b"))) (.const false))
          (.var "c")) =
      .ok (.junction .any [.symbol "A", .symbol "B", .symbol "C"]) := by
    with_unfolding_all rfl
  obtain ⟨folded, hfold, hreduced⟩ := fold_reduces
    (.bin .or (.bin .implies (.neg (.bin .or (.var "a") (.var "b"))) (.const false)) (.var "c"))
    upperDictionary fun _ _ => rfl
  cases hfolded.symm.trans hfold
  refine ⟨hfolded, hreduced.resolve_left fun h => ?_⟩
  obtain ⟨value, heq⟩ := h
  cases heq

end Propositional
