import Propositional.Proofs.Reader.Exact

/-!
# Phrases that nest too deep

A phrase that nests deeper than the limit allows is rejected for that reason and no other, whatever
comes after it (`Derives.reads_tooDeep`): everything before the sign that goes over the limit is
part of a phrase.  As a phrase within the limit is read, the two together say that a text nests to
one depth only (`Derives.nesting_unique`), and what becomes of a text that is derived
(`ofCanonical_of_derives`, `ofCanonical_isLimit`).
-/

namespace Propositional

/-- The text was rejected for its length or its depth. -/
def Rejection.IsLimit : Rejection → Prop
  | tooLong => True
  | tooDeep _ => True
  | _ => False

/-- The text is a formula, with that many negations and parentheses around some point of it and
nowhere more. -/
def Nests (text : List Char) (nesting : Nat) : Prop :=
  ∃ formula, Derives .formula text formula nesting

theorem Derives.ne_nil {production : Production} {text : List Char} {formula : Formula}
    {nesting : Nat} (h : Derives production text formula nesting) : text ≠ [] := by
  induction h with
  | letter _ => exact List.cons_ne_nil _ _
  | literal value => cases value <;> exact List.cons_ne_nil _ _
  | parenthesized _ _ => exact List.cons_ne_nil _ _
  | negated _ _ => exact List.cons_ne_nil _ _
  | plain _ ih | single _ ih => exact ih
  | joined _ _ ihfirst _ => exact List.append_ne_nil_of_left_ne_nil ihfirst _

/-- A phrase that is read has at least one character, and nothing of it stays open. -/
theorem Reads.returns {production : Production} {limit : Nat} {cursor next : Cursor}
    {formula : Formula} (h : Reads limit (.phrase production) cursor (.ok formula next)) :
    ∃ passed, passed ≠ [] ∧ cursor.Passes passed next ∧ next.depth = cursor.depth := by
  obtain ⟨passed, hpass, hdepth, _, hderives, _⟩ := h.yields rfl
  exact ⟨passed, hderives.ne_nil, hpass, hdepth⟩

/-- A phrase that does not fit under the limit is rejected for its depth, whatever follows it. -/
theorem Derives.reads_tooDeep {production : Production} {text : List Char} {formula : Formula}
    {nesting : Nat} (h : Derives production text formula nesting) :
    ∀ (limit : Nat) (rest : List Char) (position depth : Nat), ¬ Fits limit depth nesting →
      ∃ place stop, Reads limit (.phrase production) ⟨text ++ rest, position, depth⟩
        (.error (.tooDeep place) stop) := by
  induction h with
  | letter _ | literal _ =>
    intro limit rest position depth hdeep
    exact absurd (fits_zero limit depth) hdeep
  | @parenthesized text formula nesting _ ih =>
    intro limit rest position depth hdeep
    have hsign : ['('] <+: '(' :: (text ++ [')']) ++ rest := ⟨_, rfl⟩
    by_cases room : depth < limit
    · have hinside : ¬ Fits limit (depth + 1) nesting :=
        fun hfits => hdeep (fits_succ_iff.mpr ⟨room, hfits⟩)
      obtain ⟨place, stop, hreads⟩ := ih limit ([')'] ++ rest) (position + 1) (depth + 1) hinside
      rw [← List.append_assoc, ← Cursor.opened_cons '('] at hreads
      exact ⟨place, stop, .contentFails hsign room hreads⟩
    · exact ⟨_, _, .parenthesisTooDeep hsign (Nat.le_of_not_lt room)⟩
  | plain inside ih =>
    intro limit rest position depth hdeep
    obtain ⟨place, stop, hreads⟩ := ih limit rest position depth hdeep
    exact ⟨place, stop, .plain (inside.not_negation rest) hreads⟩
  | @negated text formula nesting _ ih =>
    intro limit rest position depth hdeep
    have hsign : ['!'] <+: '!' :: text ++ rest := ⟨_, rfl⟩
    by_cases room : depth < limit
    · have hinside : ¬ Fits limit (depth + 1) nesting :=
        fun hfits => hdeep (fits_succ_iff.mpr ⟨room, hfits⟩)
      obtain ⟨place, stop, hreads⟩ := ih limit rest (position + 1) (depth + 1) hinside
      rw [← Cursor.opened_cons '!'] at hreads
      exact ⟨place, stop, .negatedFails hsign room hreads⟩
    · exact ⟨_, _, .negationTooDeep hsign (Nat.le_of_not_lt room)⟩
  | single _ ih =>
    intro limit rest position depth hdeep
    obtain ⟨place, stop, hreads⟩ := ih limit rest position depth hdeep
    exact ⟨place, stop, .firstFails hreads⟩
  | @joined connective leftText left leftNesting rightText right rightNesting hfirst _ ihfirst
      ihlast =>
    intro limit rest position depth hdeep
    rw [List.append_assoc, List.append_assoc]
    by_cases hleft : Fits limit depth leftNesting
    · -- The first operands are read, and the last one is not.
      have hlast : ¬ Fits limit depth rightNesting :=
        fun hright => hdeep (fits_max_iff.mpr ⟨hleft, hright⟩)
      obtain ⟨place, stop, hreads⟩ :=
        ihlast limit rest (position + leftText.length + connective.spelling.length) depth hlast
      rw [← Cursor.advance_append] at hreads
      exact ⟨place, stop, hfirst.reads limit _ position depth _ hleft
        (stops_operandLevel connective _) (.operandFails (List.prefix_append _ _) hreads)⟩
    · exact ihfirst limit _ position depth hleft

/-- With the depth of one derivation as the limit, the text is read, so no other one is deeper. -/
theorem Derives.nesting_le {production : Production} {text : List Char}
    {formula formula' : Formula} {nesting nesting' : Nat}
    (h : Derives production text formula nesting)
    (h' : Derives production text formula' nesting') : nesting' ≤ nesting := by
  refine Nat.le_of_not_lt fun hlt => ?_
  have hdeep : ¬ Fits nesting 0 nesting' := by
    rw [fits_start_iff]
    omega
  obtain ⟨place, stop, hreads⟩ := h'.reads_tooDeep nesting [] 0 0 hdeep
  rw [List.append_nil] at hreads
  cases (h.reads_whole (Nat.le_refl nesting)).unique hreads

/-- A text nests to one depth only. -/
theorem Derives.nesting_unique {production : Production} {text : List Char}
    {formula formula' : Formula} {nesting nesting' : Nat}
    (h : Derives production text formula nesting)
    (h' : Derives production text formula' nesting') : nesting = nesting' :=
  Nat.le_antisymm (h'.nesting_le h) (h.nesting_le h')

theorem Derives.nests_iff {text : List Char} {formula : Formula} {nesting other : Nat}
    (h : Derives .formula text formula nesting) : Nests text other ↔ nesting = other := by
  constructor
  · intro hnests
    obtain ⟨formula', h'⟩ := hnests
    exact h.nesting_unique h'
  · intro heq
    exact ⟨formula, heq ▸ h⟩

/-! ## Whole texts -/

theorem ofCanonical_of_derives {text : List Char} {formula : Formula} {nesting : Nat}
    (h : Derives .formula text formula nesting) (hlength : text.length ≤ lengthLimit)
    (hnesting : nesting ≤ nestingLimit) : Formula.ofCanonical text = .ok formula :=
  ofCanonical_eq_ok_iff.mpr ⟨hlength, _, h.reads_whole hnesting, rfl⟩

/-- A formula that goes over one of the limits is rejected for that. -/
theorem ofCanonical_isLimit {text : List Char} {formula : Formula} {nesting : Nat}
    (h : Derives .formula text formula nesting)
    (hlimit : lengthLimit < text.length ∨ nestingLimit < nesting) :
    ∃ rejection, Formula.ofCanonical text = .error rejection ∧ rejection.IsLimit := by
  unfold Formula.ofCanonical
  by_cases hlength : lengthLimit < text.length
  · rw [if_pos hlength]
    exact ⟨.tooLong, rfl, trivial⟩
  · have hdeep : ¬ Fits nestingLimit 0 nesting := by
      rw [fits_start_iff]
      omega
    obtain ⟨place, stop, hreads⟩ := h.reads_tooDeep nestingLimit [] 0 0 hdeep
    rw [List.append_nil] at hreads
    rw [if_neg hlength, Cursor.start, read_eq_iff.mpr hreads]
    exact ⟨.tooDeep place, rfl, trivial⟩

end Propositional
