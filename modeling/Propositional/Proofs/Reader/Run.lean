import Propositional.Proofs.Reader.Rules

/-!
# The reader follows the rules

`Production.read` is built from readers that take their re-entries as an argument and from a number
of rounds.  `follows_level` does one level, under the assumption that the re-entries follow the
rules on shorter texts, and `follows_within` all of them, by induction on the number of re-entries.
`read_eq_iff` is the form that the later modules use: as the rules leave no choice, they and the
reader have the same outcomes.
-/

namespace Propositional

/-! ## One level -/

/-- The reader follows the rules of a level on the cursors with less than so much to read. -/
def Follows (reader : Reader Formula) (production : Production) (length : Nat) : Prop :=
  ∀ cursor : Cursor, cursor.unread.length < length →
    Reads nestingLimit (.phrase production) cursor (reader cursor)

section Levels

variable {inner : Production → Reader Formula} {connective : Connective} {operand : Reader Formula}
  {length : Nat}

/-- A chain has rounds enough if there are as many as characters to read. -/
theorem reads_chain (hoperand : Follows operand connective.operandLevel length) :
    ∀ (rounds : Nat) (left : Formula) (cursor : Cursor), cursor.unread.length ≤ rounds →
      cursor.unread.length < length →
      Reads nestingLimit (.others connective left) cursor
        (Reader.chain connective operand rounds left cursor) := by
  intro rounds
  induction rounds with
  | zero =>
    intro left cursor hrounds _
    have hnil : cursor.unread = [] := List.length_eq_zero_iff.mp (by omega)
    refine .done fun present => ?_
    rw [hnil, List.prefix_nil] at present
    exact connective.spelling_ne_nil present
  | succ rounds ih =>
    intro left cursor hrounds hlength
    rw [Reader.chain_succ]
    split
    · rename_i present
      have hshort := (Cursor.passes_advance present).length_lt connective.spelling_ne_nil
      have hright := hoperand (cursor.advance connective.spelling.length) (by omega)
      have hle := hright.length_le
      cases hcase : operand (cursor.advance connective.spelling.length) with
      | ok right next =>
        rw [hcase] at hright hle
        have hnext :
            next.unread.length ≤ (cursor.advance connective.spelling.length).unread.length := hle
        exact .more present hright (ih _ next (by omega) (by omega))
      | error rejection stop =>
        rw [hcase] at hright
        exact .operandFails present hright
    · rename_i absent
      exact .done absent

theorem follows_joined (hoperand : Follows operand connective.operandLevel length) :
    Follows (Reader.joined connective operand) (.binary connective) length := by
  intro cursor hlength
  have hfirst := hoperand cursor hlength
  have hle := hfirst.length_le
  rw [Reader.joined_apply]
  cases hcase : operand cursor with
  | ok left next =>
    rw [hcase] at hfirst hle
    have hnext : next.unread.length ≤ cursor.unread.length := hle
    exact .joined hfirst (reads_chain hoperand _ left next (Nat.le_refl _) (by omega))
  | error rejection stop =>
    rw [hcase] at hfirst
    exact .firstFails hfirst

theorem follows_primary (hinner : ∀ production, Follows (inner production) production length) :
    Follows (Reader.primary inner) .primary (length + 1) := by
  intro cursor hlength
  rw [Reader.primary_apply]
  split
  · rename_i sign
    have hshort := (Cursor.passes_opened sign).length_lt (List.cons_ne_nil _ _)
    split
    · rename_i room
      have hcontent := hinner .formula cursor.opened (by omega)
      cases hcase : inner .formula cursor.opened with
      | ok formula next =>
        rw [hcase] at hcontent
        dsimp only
        split
        · rename_i closing
          exact .parenthesized sign room hcontent closing
        · rename_i absent
          exact .unclosed sign room hcontent absent
      | error rejection stop =>
        rw [hcase] at hcontent
        exact .contentFails sign room hcontent
    · exact .parenthesisTooDeep sign (by omega)
  · rename_i absent
    exact .atom absent

theorem follows_negation (hinner : ∀ production, Follows (inner production) production length) :
    Follows (Reader.negation inner) .negation (length + 1) := by
  intro cursor hlength
  rw [Reader.negation_apply]
  split
  · rename_i sign
    have hshort := (Cursor.passes_opened sign).length_lt (List.cons_ne_nil _ _)
    split
    · rename_i room
      have hcontent := hinner .negation cursor.opened (by omega)
      cases hcase : inner .negation cursor.opened with
      | ok operand next =>
        rw [hcase] at hcontent
        exact .negated sign room hcontent
      | error rejection stop =>
        rw [hcase] at hcontent
        exact .negatedFails sign room hcontent
    · exact .negationTooDeep sign (by omega)
  · rename_i absent
    exact .plain absent (follows_primary hinner cursor hlength)

/-- A level follows the rules on a text if its re-entries do on every shorter text. -/
theorem follows_level (hinner : ∀ production, Follows (inner production) production length)
    (production : Production) : Follows (production.level inner) production (length + 1) := by
  have hnegation := follows_negation hinner
  have hand : Follows (Reader.conjunction inner) (.binary .and) (length + 1) :=
    follows_joined hnegation
  have hor : Follows (Reader.disjunction inner) (.binary .or) (length + 1) := follows_joined hand
  have himplies : Follows (Reader.implication inner) (.binary .implies) (length + 1) :=
    follows_joined hor
  match production with
  | .binary .iff => exact follows_joined himplies
  | .binary .implies => exact himplies
  | .binary .or => exact hor
  | .binary .and => exact hand
  | .negation => exact hnegation
  | .primary => exact follows_primary hinner

end Levels

/-! ## All levels -/

/-- With nothing to read an operand is missing, at every level. -/
theorem reads_nil (position depth : Nat) (production : Production) :
    Reads nestingLimit (.phrase production) ⟨[], position, depth⟩
      (.error (.operandMissing position) ⟨[], position, depth⟩) := by
  have hprimary : Reads nestingLimit (.phrase .primary) ⟨[], position, depth⟩
      (.error (.operandMissing position) ⟨[], position, depth⟩) := .atom (by simp)
  have hnegation : Reads nestingLimit (.phrase .negation) ⟨[], position, depth⟩
      (.error (.operandMissing position) ⟨[], position, depth⟩) := .plain (by simp) hprimary
  have hand : Reads nestingLimit (.phrase (.binary .and)) ⟨[], position, depth⟩
      (.error (.operandMissing position) ⟨[], position, depth⟩) := .firstFails hnegation
  have hor : Reads nestingLimit (.phrase (.binary .or)) ⟨[], position, depth⟩
      (.error (.operandMissing position) ⟨[], position, depth⟩) := .firstFails hand
  have himplies : Reads nestingLimit (.phrase (.binary .implies)) ⟨[], position, depth⟩
      (.error (.operandMissing position) ⟨[], position, depth⟩) := .firstFails hor
  match production with
  | .binary .iff => exact .firstFails himplies
  | .binary .implies => exact himplies
  | .binary .or => exact hor
  | .binary .and => exact hand
  | .negation => exact hnegation
  | .primary => exact hprimary

/-- So many re-entries are enough for a text of so many characters: each passes one. -/
theorem follows_within (entries : Nat) (production : Production) :
    Follows (production.within (Reader.fail .operandMissing) entries) production
      (entries + 1) := by
  induction entries generalizing production with
  | zero =>
    intro cursor hlength
    obtain ⟨unread, position, depth⟩ := cursor
    have hnil : unread = [] := List.length_eq_zero_iff.mp (Nat.lt_one_iff.mp hlength)
    subst hnil
    exact reads_nil position depth production
  | succ entries ih => exact follows_level ih production

/-- Reading a phrase of a level follows the rules. -/
theorem reads_read (production : Production) (cursor : Cursor) :
    Reads nestingLimit (.phrase production) cursor (production.read cursor) :=
  follows_within cursor.unread.length production cursor (Nat.lt_succ_self _)

/-- The rules and the reader give the same outcomes. -/
theorem read_eq_iff {production : Production} {cursor : Cursor} {outcome : Outcome} :
    production.read cursor = outcome ↔ Reads nestingLimit (.phrase production) cursor outcome := by
  constructor
  · intro h
    rw [← h]
    exact reads_read production cursor
  · exact (reads_read production cursor).unique

end Propositional
