import Propositional.Proofs.Formula.Recursion
import Propositional.Proofs.Reader.Calls

/-!
# Bounds on recursion

What bounds the recursion of the readers, whatever the text, and that of evaluating and folding what
they return.

* The nesting limit bounds how many readers are at work inside each other, whatever the length of
  the text: `Production.Bounded`.
* Each node of a formula that is read stands for a character of its own (`Derives.size_le`) and each
  negation above a node for a construct around it (`Derives.countP_isNegation_le`).  A chain of
  connectives nests in the formula though it opens nothing, so it is the limit on the length that
  bounds the branches: `Formula.Small`.

`recursion_bounded` has both, and that every text is read to an end.
-/

namespace Propositional

/-! ## The formula that a text stands for -/

/-- A formula has at most as many nodes as a text that stands for it has characters. -/
theorem Derives.size_le {production : Production} {text : List Char} {formula : Formula}
    {nesting : Nat} (h : Derives production text formula nesting) :
    formula.size ≤ text.length := by
  induction h with
  | letter _ => exact Nat.le_refl _
  | literal value => cases value <;> decide
  | parenthesized _ ih =>
    simp only [List.length_cons, List.length_append]
    omega
  | plain _ ih | single _ ih => exact ih
  | negated _ ih =>
    simp only [Formula.size, List.length_cons]
    omega
  | @joined connective _ _ _ _ _ _ _ _ ihfirst ihlast =>
    have hspelling : 0 < connective.spelling.length :=
      List.length_pos_iff.mpr connective.spelling_ne_nil
    simp only [Formula.size, List.length_append]
    omega

/-- On a branch there are at most as many negations as constructs around some point of the text. -/
theorem Derives.countP_isNegation_le {production : Production} {text : List Char}
    {formula : Formula} {nesting : Nat} (h : Derives production text formula nesting) :
    ∀ path, formula.Branch path → path.countP Formula.isNegation ≤ nesting := by
  induction h with
  | letter _ | literal _ =>
    intro path hbranch
    cases hbranch with
    | leaf _ => exact Nat.le_refl _
    | node below _ => cases below
  | parenthesized _ ih => exact fun path hbranch => Nat.le_succ_of_le (ih path hbranch)
  | plain _ ih | single _ ih => exact ih
  | negated _ ih =>
    intro path hbranch
    cases hbranch with
    | leaf bare => cases bare
    | node below rest =>
      obtain rfl := List.mem_singleton.mp below
      rw [List.countP_cons_of_pos rfl]
      exact Nat.succ_le_succ (ih _ rest)
  | @joined _ _ left leftNesting _ right rightNesting _ _ ihfirst ihlast =>
    intro path hbranch
    cases hbranch with
    | leaf bare => cases bare
    | @node _ operand path below rest =>
      have hbelow : operand = left ∨ operand = right := by
        simpa [Formula.operands] using below
      have hpath : path.countP Formula.isNegation ≤ max leftNesting rightNesting := by
        rcases hbelow with rfl | rfl
        · exact Nat.le_trans (ihfirst path rest) (Nat.le_max_left _ _)
        · exact Nat.le_trans (ihlast path rest) (Nat.le_max_right _ _)
      rw [List.countP_cons_of_neg (by simp [Formula.isNegation])]
      exact hpath

/-- A formula that is read has at most as many nodes as characters were passed. -/
theorem size_le_of_read {production : Production} {cursor next : Cursor} {formula : Formula}
    (h : production.read cursor = .ok formula next) :
    cursor.position + formula.size ≤ next.position := by
  obtain ⟨passed, _, hpass, _, hderives, _⟩ := reads_ok_iff.mp (read_eq_iff.mp h)
  have hsize := hderives.size_le
  rw [hpass.position]
  omega

/-! ## Bounds for a text -/

/-- The bounds on reading a text for a level. -/
structure Production.Bounded (production : Production) (text : List Char) : Prop where
  /-- The descents that are open at once are never more than the limit and the one that is
  rejected. -/
  open_le : ∀ count, OpenAtOnce (.phrase production) (Cursor.start text) count →
    count ≤ nestingLimit + 1
  /-- The outcome is the same where no more readers than that may be at work inside each other,
  the outermost one included. -/
  within_eq : ∀ innermost entries, nestingLimit + 1 ≤ entries →
    production.within innermost entries (Cursor.start text) = production.read (Cursor.start text)
  /-- Reading comes to an end by the rules, which limit neither re-entries nor rounds. -/
  ends : Reads nestingLimit (.phrase production) (Cursor.start text)
    (production.read (Cursor.start text))
  /-- What is returned has at most as many nodes as characters were passed. -/
  size_le : ∀ formula next, production.read (Cursor.start text) = .ok formula next →
    formula.size ≤ next.position

theorem Production.bounded (production : Production) (text : List Char) :
    production.Bounded text where
  open_le := fun _ h => h.count_le
  within_eq := by
    intro innermost entries hentries
    obtain ⟨fewer, rfl⟩ : ∃ fewer, entries = fewer + 1 := ⟨entries - 1, by omega⟩
    refine within_eq_read innermost fewer production _ ?_
    show nestingLimit ≤ 0 + fewer
    omega
  ends := reads_read production _
  size_le := by
    intro formula next h
    have hle : 0 + formula.size ≤ next.position := size_le_of_read h
    omega

namespace Formula

/-- The bounds on a formula and on recursion on it. -/
structure Small (formula : Formula) : Prop where
  size_le : formula.size ≤ lengthLimit
  length_le : ∀ path, formula.Branch path → path.length ≤ lengthLimit
  countP_le : ∀ path, formula.Branch path → path.countP isNegation ≤ nestingLimit
  /-- Evaluating is the same if it may not nest more calls than the limit on the length. -/
  within_eval : ∀ valuation innermost calls, lengthLimit ≤ calls →
    within (evalStep valuation) innermost calls formula = formula.eval valuation
  /-- So is folding. -/
  within_fold : ∀ symbols innermost calls, lengthLimit ≤ calls →
    within (foldStep symbols) innermost calls formula = formula.fold symbols

theorem small_of_ofCanonical {text : List Char} {formula : Formula}
    (h : ofCanonical text = .ok formula) : formula.Small := by
  have hlength := (ofCanonical_eq_ok_iff.mp h).1
  obtain ⟨nesting, hderives, hnesting⟩ := derives_of_ofCanonical h
  have hsize : formula.size ≤ lengthLimit := Nat.le_trans hderives.size_le hlength
  constructor
  case size_le => exact hsize
  case length_le =>
    intro path hbranch
    exact Nat.le_trans hbranch.length_le hsize
  case countP_le =>
    intro path hbranch
    exact Nat.le_trans (hderives.countP_isNegation_le path hbranch) hnesting
  case within_eval =>
    intro valuation innermost calls hcalls
    exact within_evalStep valuation innermost (Nat.le_trans hsize hcalls)
  case within_fold =>
    intro symbols innermost calls hcalls
    exact within_foldStep symbols innermost (Nat.le_trans hsize hcalls)

end Formula

/-- Each re-entry and each round of a chain leaves less to read, so work that leads to other work
comes to an end; and there are no re-entries but these, as a level asks the readers for its
re-entries nowhere else.  For every text and each level, then, the recursion of reading is bounded,
and so is recursion on a formula that is returned for a text. -/
theorem recursion_bounded :
    (∀ aim cursor content, Descends aim cursor content →
      cursor.opened.unread.length < cursor.unread.length) ∧
    (∀ connective left cursor callee next, Calls (.others connective left) cursor callee next →
      next.unread.length < cursor.unread.length) ∧
    (WellFounded fun next work => LeadsTo work next) ∧
    (∀ inner production cursor, Agrees inner (.phrase production) cursor →
      production.level inner cursor = production.read cursor) ∧
    ∀ text, (∀ production : Production, production.Bounded text) ∧
      ∀ formula, Formula.ofCanonical text = .ok formula → formula.Small := by
  refine ⟨?descents, ?rounds, leadsTo_wellFounded, ?work, fun text => ⟨?text, ?formula⟩⟩
  case descents => exact fun _ _ _ h => h.length_lt
  case rounds => exact fun _ _ _ _ _ h => h.length_lt
  case work => exact fun _ _ _ h => level_eq_read h
  case text => exact fun production => production.bounded text
  case formula => exact fun _ h => Formula.small_of_ofCanonical h

end Propositional
