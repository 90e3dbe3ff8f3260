import Propositional.Folded.Construct
import Propositional.Text.Quoted
import Propositional.Text.Uppercase

/-!
# Folding a formula

`Formula.fold` puts a formula into reduced form from the leaves up, the left side first.  Its
variables become symbols, by a dictionary; the usual one puts the names into upper case.
-/

namespace Propositional

/-- A name for which the dictionary has no symbol. -/
structure MissingSymbol where
  name : String
deriving DecidableEq

/-- What is said of a name without a symbol. -/
def MissingSymbol.message (missing : MissingSymbol) : String := Text.quotedString missing.name

/-- The symbols of some names. -/
abbrev Dictionary := String → Option String

/-- The dictionary that puts every name into upper case. -/
def upperDictionary : Dictionary := fun name => some (Text.upperString name)

/-- The folded form of two folded formulas under a connective. -/
def Connective.fold : Connective → Folded → Folded → Folded
  | .and, left, right => .join .all [left, right]
  | .or, left, right => .join .any [left, right]
  | .implies, left, right => .imply left right
  | .iff, left, right => .equate left right

namespace Formula

/-- The folded form of a formula, or the first name without a symbol. -/
def fold (symbols : Dictionary) : Formula → Except MissingSymbol Folded
  | var name =>
    match symbols name with
    | some symbol => .ok (.symbol symbol)
    | none => .error ⟨name⟩
  | const value => .ok (.constant value)
  | neg operand => do
    let operand ← operand.fold symbols
    return operand.negate
  | bin connective left right => do
    let left ← left.fold symbols
    let right ← right.fold symbols
    return connective.fold left right

/-- The folded form of a formula over its names in upper case. -/
def foldUpper (formula : Formula) : Except MissingSymbol Folded := formula.fold upperDictionary

end Formula

end Propositional
