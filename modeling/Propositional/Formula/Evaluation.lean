import Propositional.Formula.Basic

/-!
# Truth values

The value of a formula under a valuation that may leave names without a value.  Both sides of a
connective are always evaluated, the left one first, so a missing name is found even where the
other side decides.
-/

namespace Propositional

/-- A truth value for some names. -/
abbrev Valuation := String → Option Bool

/-- The valuation of a list of names and values; of two entries for a name the later one counts. -/
def Valuation.ofList (entries : List (String × Bool)) : Valuation :=
  fun name => entries.reverse.lookup name

/-- A variable without a value was met. -/
structure MissingVariable where
  name : String
deriving DecidableEq

/-- What is said of a variable without a value. -/
def MissingVariable.message (missing : MissingVariable) : String :=
  "variable '" ++ missing.name ++ "' has no assigned value"

/-- The truth value of a formula, or the first variable that has none. -/
def Formula.eval (valuation : Valuation) : Formula → Except MissingVariable Bool
  | var name =>
    match valuation name with
    | some value => .ok value
    | none => .error ⟨name⟩
  | const value => .ok value
  | neg operand => do
    let value ← operand.eval valuation
    return !value
  | bin connective left right => do
    let leftValue ← left.eval valuation
    let rightValue ← right.eval valuation
    return connective.apply leftValue rightValue

end Propositional
