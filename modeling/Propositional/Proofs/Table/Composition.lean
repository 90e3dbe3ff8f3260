import Propositional.Proofs.Reader.Depth
import Propositional.Proofs.Table.Outcome
import Propositional.Proofs.Table.Projection

/-!
# Texts put together from texts

Texts that have tables may be put between parentheses and joined by a connective, or negated.  The
canonical spelling of the whole is put together from those of the parts (`canonical_joinTexts`,
`canonical_negateText`), and the grammar derives it from theirs (`Derives.joinTexts`,
`Derives.negateText`).  So the whole is a formula again, and its outcome is a rejection for one of
the limits or the table of that formula (`Build.outcome_of_derives`).

`composition_of_tables` is the result in terms of the tables.
-/

namespace Propositional

/-! ## Composed texts -/

/-- Two texts in parentheses with a connective between them. -/
def Connective.joinTexts (connective : Connective) (left right : String) : String :=
  "(" ++ left ++ ")" ++ String.ofList connective.spelling ++ "(" ++ right ++ ")"

/-- A text in parentheses behind a negation sign. -/
def negateText (text : String) : String := "!(" ++ text ++ ")"

namespace Spelling

theorem canonical_joinTexts (connective : Connective) {left right : String}
    (hleft : '\u03a3' ∉ left.toList) (hright : '\u03a3' ∉ right.toList) :
    canonical (connective.joinTexts left right).toList =
      '(' :: (canonical left.toList ++ [')']) ++
        (connective.spelling ++ '(' :: (canonical right.toList ++ [')'])) := by
  have hleftParen : canonicalChar '(' = ['('] := by decide
  have hrightParen : canonicalChar ')' = [')'] := by decide
  have hspelling : connective.spelling.flatMap canonicalChar = connective.spelling := by
    cases connective <;> decide
  have hconnective : '\u03a3' ∉ connective.spelling := by
    cases connective <;> decide
  have hsigma : '\u03a3' ∉ (connective.joinTexts left right).toList := by
    simp [Connective.joinTexts, hleft, hright, hconnective]
  rw [canonical_eq_flatMap hsigma, canonical_eq_flatMap hleft, canonical_eq_flatMap hright]
  simp [Connective.joinTexts, hleftParen, hrightParen, hspelling]

theorem canonical_negateText {text : String} (h : '\u03a3' ∉ text.toList) :
    canonical (negateText text).toList = '!' :: '(' :: (canonical text.toList ++ [')']) := by
  have hsign : canonicalChar '!' = ['!'] := by decide
  have hleftParen : canonicalChar '(' = ['('] := by decide
  have hrightParen : canonicalChar ')' = [')'] := by decide
  have hsigma : '\u03a3' ∉ (negateText text).toList := by
    simp [negateText, h]
  rw [canonical_eq_flatMap hsigma, canonical_eq_flatMap h]
  simp [negateText, hsign, hleftParen, hrightParen]

end Spelling

/-! ## Composed phrases -/

namespace Derives

variable {text leftText rightText : List Char} {formula left right : Formula}
  {nesting leftNesting rightNesting : Nat}

/-- A phrase of a connective's level is a formula. -/
theorem toFormula {connective : Connective}
    (h : Derives (.binary connective) text formula nesting) :
    Derives .formula text formula nesting := by
  have himplies : Derives (.binary .implies) text formula nesting →
      Derives .formula text formula nesting := fun h => .single h
  have hor : Derives (.binary .or) text formula nesting →
      Derives .formula text formula nesting := fun h => himplies (.single h)
  match connective with
  | .iff => exact h
  | .implies => exact himplies h
  | .or => exact hor h
  | .and => exact hor (.single h)

/-- A primary is an operand of each connective. -/
theorem toOperand (connective : Connective) (h : Derives .primary text formula nesting) :
    Derives connective.operandLevel text formula nesting := by
  have hnegation : Derives .negation text formula nesting := .plain h
  have hand : Derives (.binary .and) text formula nesting := .single hnegation
  have hor : Derives (.binary .or) text formula nesting := .single hand
  match connective with
  | .and => exact hnegation
  | .or => exact hand
  | .implies => exact hor
  | .iff => exact .single hor

theorem joinTexts (connective : Connective) (hleft : Derives .formula leftText left leftNesting)
    (hright : Derives .formula rightText right rightNesting) :
    Derives .formula
      ('(' :: (leftText ++ [')']) ++ (connective.spelling ++ '(' :: (rightText ++ [')'])))
      (.bin connective left right) (max (leftNesting + 1) (rightNesting + 1)) :=
  toFormula (.joined (.single (toOperand connective (.parenthesized hleft)))
    (toOperand connective (.parenthesized hright)))

theorem negateText (h : Derives .formula text formula nesting) :
    Derives .formula ('!' :: '(' :: (text ++ [')'])) (.neg formula) (nesting + 2) := by
  have hnegation : Derives .negation ('!' :: '(' :: (text ++ [')'])) (.neg formula) (nesting + 2) :=
    .negated (.plain (.parenthesized h))
  have hand : Derives (.binary .and) ('!' :: '(' :: (text ++ [')'])) (.neg formula) (nesting + 2) :=
    .single hnegation
  exact toFormula hand

end Derives

/-! ## Outcomes -/

namespace Build

/-- The text is rejected for one of the limits. -/
def OverLimit (text : String) : Prop :=
  ∃ rejection, (ofText (some text)).outcome = .error (.rejected rejection) ∧ rejection.IsLimit

variable {text : String} {formula : Formula} {nesting : Nat}

/-- A text that is derived goes over one of the limits or gets the table of its formula. -/
theorem outcome_of_derives
    (h : Derives .formula (Spelling.canonical text.toList) formula nesting) :
    OverLimit text ∧
        (lengthLimit < (Spelling.canonical text.toList).length ∨ nestingLimit < nesting) ∨
      (ofText (some text)).outcome = .ok (formula.table text) ∧
        (Spelling.canonical text.toList).length ≤ lengthLimit ∧ nesting ≤ nestingLimit := by
  by_cases hlimit : lengthLimit < (Spelling.canonical text.toList).length ∨ nestingLimit < nesting
  · obtain ⟨rejection, hrejection, hkind⟩ := ofCanonical_isLimit h hlimit
    refine .inl ⟨⟨rejection, ?_, hkind⟩, hlimit⟩
    rw [outcome_ofText, if_neg h.ne_nil, hrejection]
  · have hlength : (Spelling.canonical text.toList).length ≤ lengthLimit := by omega
    have hnesting : nesting ≤ nestingLimit := by omega
    refine .inr ⟨?_, hlength, hnesting⟩
    rw [outcome_ofText, if_neg h.ne_nil, ofCanonical_of_derives h hlength hnesting]

theorem overLimit_or_table
    (h : Derives .formula (Spelling.canonical text.toList) formula nesting) :
    OverLimit text ∨ (ofText (some text)).outcome = .ok (formula.table text) :=
  (outcome_of_derives h).imp And.left And.left

theorem overLimit_iff (h : Derives .formula (Spelling.canonical text.toList) formula nesting) :
    OverLimit text ↔
      lengthLimit < (Spelling.canonical text.toList).length ∨ nestingLimit < nesting := by
  rcases outcome_of_derives h with ⟨hover, hlimit⟩ | ⟨houtcome, hlength, hnesting⟩
  · exact iff_of_true hover hlimit
  · refine iff_of_false (fun hover => ?_) (by omega)
    obtain ⟨rejection, hrejection, _⟩ := hover
    rw [houtcome] at hrejection
    cases hrejection

end Build

/-- Two texts that have tables, put between parentheses and joined by a connective, go over a limit
exactly if the whole is too long or one of the two nests as deep as may be.  Otherwise there is a
table, and it comes from the two tables.  The same holds of a negation, which goes two levels
deeper. -/
theorem composition_of_tables {first second : String} {left right : TruthTable}
    (hleft : (Build.ofText (some first)).outcome = .ok left)
    (hright : (Build.ofText (some second)).outcome = .ok right) :
    (∀ connective : Connective,
      (Build.OverLimit (connective.joinTexts first second) ↔
        lengthLimit < (Spelling.canonical (connective.joinTexts first second).toList).length ∨
          Nests (Spelling.canonical first.toList) nestingLimit ∨
          Nests (Spelling.canonical second.toList) nestingLimit) ∧
      (Build.OverLimit (connective.joinTexts first second) ∨
        ∃ table, (Build.ofText (some (connective.joinTexts first second))).outcome = .ok table ∧
          table.JoinOf left right connective)) ∧
    (Build.OverLimit (negateText first) ↔
      lengthLimit < (Spelling.canonical (negateText first).toList).length ∨
        ∃ nesting, Nests (Spelling.canonical first.toList) nesting ∧ nestingLimit < nesting + 2) ∧
    (Build.OverLimit (negateText first) ∨
      ∃ table, (Build.ofText (some (negateText first))).outcome = .ok table ∧
        table.ComplementOf left) := by
  obtain ⟨formula, nesting, hderives, hnesting, hsigma, rfl⟩ := Build.derives_of_ofText hleft
  obtain ⟨formula', nesting', hderives', hnesting', hsigma', rfl⟩ := Build.derives_of_ofText hright
  refine ⟨fun connective => ?_, ?_⟩
  · have hwhole := hderives.joinTexts connective hderives'
    rw [← Spelling.canonical_joinTexts connective hsigma hsigma'] at hwhole
    constructor
    · rw [Build.overLimit_iff hwhole, hderives.nests_iff, hderives'.nests_iff]
      omega
    · refine (Build.overLimit_or_table hwhole).imp_right fun houtcome => ⟨_, houtcome, ?_⟩
      exact Formula.joinOf_table connective _ first second hderives.overLetters
        hderives'.overLetters
  · have hwhole := hderives.negateText
    rw [← Spelling.canonical_negateText hsigma] at hwhole
    constructor
    · rw [Build.overLimit_iff hwhole]
      simp only [hderives.nests_iff, exists_eq_left']
    · refine (Build.overLimit_or_table hwhole).imp_right fun houtcome => ⟨_, houtcome, ?_⟩
      exact Formula.complementOf_table _ first

/-- The tables of `b -> c` and of `a` share no column, and the one of the whole has its columns in
another order than the text. -/
theorem composition_of_tables_implication :
    (Build.ofText (some "b -> c")).outcome =
      .ok ⟨"b -> c", ["B", "C"], [[0, 0, 1], [0, 1, 1], [1, 0, 0], [1, 1, 1]]⟩ ∧
    (Build.ofText (some "A")).outcome = .ok ⟨"A", ["A"], [[0, 0], [1, 1]]⟩ ∧
    ∃ table, (Build.ofText (some "(b -> c)&(A)")).outcome = .ok table ∧
      table.JoinOf ⟨"b -> c", ["B", "C"], [[0, 0, 1], [0, 1, 1], [1, 0, 0], [1, 1, 1]]⟩
        ⟨"A", ["A"], [[0, 0], [1, 1]]⟩ .and := by
  have hfirst : (Build.ofText (some "b -> c")).outcome =
      .ok ⟨"b -> c", ["B", "C"], [[0, 0, 1], [0, 1, 1], [1, 0, 0], [1, 1, 1]]⟩ := by
    with_unfolding_all rfl
  have hsecond : (Build.ofText (some "A")).outcome = .ok ⟨"A", ["A"], [[0, 0], [1, 1]]⟩ := by
    with_unfolding_all rfl
  have hwhole : ∃ table, (Build.ofText (some "(b -> c)&(A)")).outcome = .ok table :=
    ⟨_, by with_unfolding_all rfl⟩
  refine ⟨hfirst, hsecond, ?_⟩
  rcases ((composition_of_tables hfirst hsecond).1 .and).2 with hover | htable
  · obtain ⟨rejection, hrejection, _⟩ := hover
    obtain ⟨table, htable⟩ := hwhole
    cases htable.symm.trans hrejection
  · exact htable

end Propositional
