import Propositional.Reader.Cursor
import Propositional.Token

/-!
# The productions of the grammar

From the weakest binding to the strongest: equivalence, implication, disjunction, conjunction,
negation, primary.  Each level of a connective reads operands of the next level and joins them from
the left, so `a -> b -> c` is `(a -> b) -> c`.  A negation sign re-enters the level of negations and
a parenthesis that of equivalences.

The readers of the levels take the readers for those re-entries as an argument, `inner`.
`Production.within` closes the knot for a number of re-entries, and `Production.read` for as many
as the unread text has characters: each re-entry passes a character first.
-/

namespace Propositional

/-- The levels of the grammar: one for each connective, then negations and primaries. -/
inductive Production where
  | binary (connective : Connective)
  | negation
  | primary
deriving DecidableEq

/-- The level of whole formulas. -/
abbrev Production.formula : Production := .binary .iff

/-- The level of the operands of a connective. -/
def Connective.operandLevel : Connective → Production
  | .iff => .binary .implies
  | .implies => .binary .or
  | .or => .binary .and
  | .and => .negation

/-! ## One reader for each level -/

namespace Reader

/-- While the connective comes next, read another operand and join it to what stands on the left.
The number of rounds is limited. -/
def chain (connective : Connective) (operand : Reader Formula) : Nat → Formula → Reader Formula
  | 0, left => return left
  | rounds + 1, left => do
    if ← accept connective.spelling then
      let right ← operand
      chain connective operand rounds (.bin connective left right)
    else
      return left

/-- One or more operands joined from the left.  Every round passes a character, so the unread text
bounds their number. -/
def joined (connective : Connective) (operand : Reader Formula) : Reader Formula := do
  let left ← operand
  chain connective operand (← remaining) left

/-- What stands between parentheses, the opening one being passed. -/
def parenthesized (content : Reader Formula) : Reader Formula := do
  enter
  let formula ← content
  if ← accept [')'] then
    leave
    return formula
  else
    fail (.unclosed (← lookahead))

/-- A letter or a literal. -/
def atom : Reader Formula := do
  match ← lookahead with
  | none => fail .operandMissing
  | some char =>
    match Letter.ofChar? char with
    | some letter =>
      skip
      return .var letter.name
    | none =>
      if ← accept (literal true) then
        return .const true
      else if ← accept (literal false) then
        return .const false
      else
        fail (.noToken char)

/-- A parenthesis, a letter or a literal. -/
def primary (inner : Production → Reader Formula) : Reader Formula := do
  if ← accept ['('] then parenthesized (inner .formula) else atom

/-- What stands after a negation sign, the sign being passed. -/
def negated (content : Reader Formula) : Reader Formula := do
  enter
  let formula ← content
  leave
  return .neg formula

/-- A primary with any number of negation signs before it. -/
def negation (inner : Production → Reader Formula) : Reader Formula := do
  if ← accept ['!'] then negated (inner .negation) else primary inner

/-- Negations joined by `&`. -/
def conjunction (inner : Production → Reader Formula) : Reader Formula :=
  joined .and (negation inner)

/-- Conjunctions joined by `|`. -/
def disjunction (inner : Production → Reader Formula) : Reader Formula :=
  joined .or (conjunction inner)

/-- Disjunctions joined by `->`. -/
def implication (inner : Production → Reader Formula) : Reader Formula :=
  joined .implies (disjunction inner)

/-- Implications joined by `<->`. -/
def equivalence (inner : Production → Reader Formula) : Reader Formula :=
  joined .iff (implication inner)

end Reader

/-! ## Re-entry -/

namespace Production

/-- The reader of a level over the readers for its re-entries. -/
def level (inner : Production → Reader Formula) : Production → Reader Formula
  | binary .iff => Reader.equivalence inner
  | binary .implies => Reader.implication inner
  | binary .or => Reader.disjunction inner
  | binary .and => Reader.conjunction inner
  | negation => Reader.negation inner
  | primary => Reader.primary inner

/-- The readers of the grammar with at most that many re-entries around any point, where
`innermost` reads whatever lies deeper. -/
def within (innermost : Reader Formula) : Nat → Production → Reader Formula
  | 0, _ => innermost
  | entries + 1, production => level (within innermost entries) production

/-- The reader of a level.  Once there is nothing left to read, an operand is missing. -/
def read (production : Production) : Reader Formula := do
  within (Reader.fail .operandMissing) (← Reader.remaining) production

end Production

end Propositional
