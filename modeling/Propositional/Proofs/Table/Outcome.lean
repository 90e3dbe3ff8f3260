import Propositional.Proofs.Reader.Standing
import Propositional.Proofs.Spelling
import Propositional.Proofs.Table.Complete

/-!
# What the outcome depends on

Whether a text gets a table, and which one, depends on its canonical spelling alone
(`Build.outcome_ofText`); only the heading of the table is the text as it was typed.  So neither the
forms in which the tokens are written nor the white space in the text matters to the rest
(`outcome_of_respelled`).
-/

namespace Propositional

/-- The table with another text as its formula. -/
def TruthTable.retitled (table : TruthTable) (text : String) : TruthTable :=
  { table with formula := text }

namespace Build

/-- A text is blank if nothing is left of it in the canonical spelling, and otherwise that spelling
is read.  Lines are logged if it is read as a formula. -/
theorem ofText_some (text : String) :
    ofText (some text) =
      if Spelling.canonical text.toList = [] then reject .blank
      else
        match Formula.ofCanonical (Spelling.canonical text.toList) with
        | .error rejection => reject rejection
        | .ok formula =>
          ⟨.ok (formula.table text),
            [readLine text formula, rowsLine text (formula.table text).rows]⟩ := by
  have hblank : Spelling.canonical text.toList = [] ↔ (Text.strip text.toList).isEmpty = true := by
    rw [List.isEmpty_iff, Text.strip_eq_nil_iff_withoutBlanks, Spelling.canonical_eq_nil_iff]
  unfold ofText
  dsimp only
  by_cases h : Spelling.canonical text.toList = []
  · rw [if_pos h, if_pos (hblank.mp h)]
  · rw [if_neg h, if_neg (mt hblank.mpr h), Formula.ofTyped]
    cases Formula.ofCanonical (Spelling.canonical text.toList) with
    | error rejection => rfl
    | ok formula => exact ofFormula_eq text formula

theorem outcome_ofText (text : String) :
    (ofText (some text)).outcome =
      if Spelling.canonical text.toList = [] then .error (.rejected .blank)
      else
        match Formula.ofCanonical (Spelling.canonical text.toList) with
        | .error rejection => .error (.rejected rejection)
        | .ok formula => .ok (formula.table text) := by
  rw [ofText_some]
  split
  · rfl
  · cases Formula.ofCanonical (Spelling.canonical text.toList) with
    | error rejection => rfl
    | ok formula => rfl

/-- Texts with the same canonical spelling have the same outcome, up to the heading. -/
theorem outcome_of_canonical_eq {text other : String}
    (h : Spelling.canonical text.toList = Spelling.canonical other.toList) :
    (ofText (some other)).outcome = (ofText (some text)).outcome.map (·.retitled other) := by
  rw [outcome_ofText, outcome_ofText, ← h]
  split
  · rfl
  · cases Formula.ofCanonical (Spelling.canonical text.toList) with
    | error rejection => rfl
    | ok formula => rfl

/-- A table is built of a formula that is derived, and what it is read from has no capital sigma. -/
theorem derives_of_ofText {text : String} {table : TruthTable}
    (h : (ofText (some text)).outcome = .ok table) :
    ∃ formula nesting, Derives .formula (Spelling.canonical text.toList) formula nesting ∧
      nesting ≤ nestingLimit ∧ '\u03a3' ∉ text.toList ∧ table = formula.table text := by
  obtain ⟨_, formula, heq, hread, htable⟩ := ofText_eq_ok h
  cases heq
  obtain ⟨nesting, hderives, hnesting⟩ := derives_of_ofCanonical hread
  obtain ⟨tokens, hspelling, _⟩ := hderives.supplied
  exact ⟨formula, nesting, hderives, hnesting, Spelling.sigma_not_mem hspelling, htable⟩

/-- What is read as a formula has the table of the formula. -/
theorem outcome_of_ofTyped {text : String} {formula : Formula}
    (h : Formula.ofTyped text = .ok formula) :
    (ofText (some text)).outcome = .ok (formula.table text) := by
  have hne : Spelling.canonical text.toList ≠ [] := by
    intro hnil
    rw [Formula.ofTyped, hnil] at h
    cases h
  rw [outcome_ofText, if_neg hne, ← Formula.ofTyped, h]

end Build

/-- Two texts in which the same tokens are written have the same outcome, and so do two texts that
differ in white space only: the same rejection, or the same table but for its heading. -/
theorem outcome_of_respelled :
    (∀ (tokens : List Token) (text other : String),
      Spelling.Writes tokens text.toList → Spelling.Writes tokens other.toList →
        (Build.ofText (some other)).outcome =
          (Build.ofText (some text)).outcome.map (·.retitled other)) ∧
    ∀ text other : String, Text.Respaced text.toList other.toList →
      (Build.ofText (some other)).outcome =
        (Build.ofText (some text)).outcome.map (·.retitled other) := by
  constructor
  · intro tokens text other htext hother
    apply Build.outcome_of_canonical_eq
    rw [Spelling.canonical_of_writes htext, Spelling.canonical_of_writes hother]
  · intro text other hrespaced
    exact Build.outcome_of_canonical_eq (Spelling.canonical_of_respaced hrespaced)

/-- `!(a<->true)` in two spellings, and a text that stays rejected when a space is taken out. -/
theorem outcome_of_respelled_equivalence :
    Spelling.Writes
      [.negation, .leftParen, .letter .a, .connective .iff, .constant true, .rightParen]
      "¬(A ↔ TrUe)".toList ∧
    Spelling.Writes
      [.negation, .leftParen, .letter .a, .connective .iff, .constant true, .rightParen]
      "~ (a < → t\nrue)".toList ∧
    Text.Respaced "a b".toList "ab".toList ∧
    (Build.ofText (some "~ (a < → t\nrue)")).outcome =
      .ok ⟨"~ (a < → t\nrue)", ["A"], [[0, 1], [1, 0]]⟩ ∧
    (Build.ofText (some "ab")).outcome = .error (.rejected (.surplus 'b' 1)) := by
  have hsigns : Spelling.Writes
      [.negation, .leftParen, .letter .a, .connective .iff, .constant true, .rightParen]
      "¬(A ↔ TrUe)".toList := by
    refine ⟨[['¬'], ['('], ['A'], ['↔'], ['T', 'r', 'U', 'e'], [')']], ?_,
      Text.respaced_iff.mpr (by decide)⟩
    exact .cons .negationSign (.cons (.plain (by decide)) (.cons (.plain (by decide))
      (.cons .doubleArrow (.cons (.plain (by decide)) (.cons (.plain (by decide)) .nil)))))
  have hbroken : Spelling.Writes
      [.negation, .leftParen, .letter .a, .connective .iff, .constant true, .rightParen]
      "~ (a < → t\nrue)".toList := by
    refine ⟨[['~'], ['('], ['a'], ['<', '→'], ['t', 'r', 'u', 'e'], [')']], ?_,
      Text.respaced_iff.mpr (by decide)⟩
    exact .cons .tilde (.cons (.plain (by decide)) (.cons (.plain (by decide))
      (.cons .headAndArrow (.cons (.plain (by decide)) (.cons (.plain (by decide)) .nil)))))
  have hspace : Text.Respaced "a b".toList "ab".toList := Text.respaced_iff.mpr (by decide)
  refine ⟨hsigns, hbroken, hspace, ?_, ?_⟩
  · have hbuilt : (Build.ofText (some "¬(A ↔ TrUe)")).outcome =
        .ok ⟨"¬(A ↔ TrUe)", ["A"], [[0, 1], [1, 0]]⟩ := by
      with_unfolding_all rfl
    rw [outcome_of_respelled.1 _ _ _ hsigns hbroken, hbuilt]
    rfl
  · have hrejected : (Build.ofText (some "a b")).outcome =
        .error (.rejected (.surplus 'b' 1)) := by
      with_unfolding_all rfl
    rw [outcome_of_respelled.2 _ _ hspace, hrejected]
    rfl

end Propositional
