import Propositional.Bits
import Propositional.Formula.Evaluation

/-!
# Truth tables

A table has the text of a formula, the names of its variables, and rows of entries: one per
variable and the result last.  None of this is assumed of every table, so tables may also be
written by hand; a row may then be without a result.

`Formula.tabulate` gives the rows for a list of names, in the order of the numbers that the
variables' digits spell.
-/

namespace Propositional

/-- A truth table. -/
structure TruthTable where
  formula : String
  names : List String
  rows : List (List Int)
deriving DecidableEq

/-- A row without any entry, and so without a result. -/
structure EmptyRow where
deriving DecidableEq

/-- What is said of a row without entries. -/
def EmptyRow.message (_ : EmptyRow) : String := "tuple index out of range"

namespace TruthTable

/-- The last entry of a row. -/
def rowResult (row : List Int) : Except EmptyRow Int :=
  match row.getLast? with
  | some entry => .ok entry
  | none => .error {}

/-- The result column. -/
def resultColumn (table : TruthTable) : Except EmptyRow (List Int) := table.rows.mapM rowResult

/-- The numbers of the entries that are not zero, counted from a number on. -/
def nonzeroFrom (index : Nat) : List Int → List Nat
  | [] => []
  | entry :: rest =>
    if entry = 0 then nonzeroFrom (index + 1) rest else index :: nonzeroFrom (index + 1) rest

/-- The numbers of the rows whose result is not zero. -/
def minterms (table : TruthTable) : Except EmptyRow (List Nat) := do
  return nonzeroFrom 0 (← table.resultColumn)

/-- The fields of a table. -/
inductive Field where
  | formula
  | names
  | rows
deriving DecidableEq

/-- The name of a field. -/
def Field.label : Field → String
  | formula => "expr"
  | names => "vars"
  | rows => "rows"

/-- What is said of an attempt to change a field: tables do not change. -/
def Field.refusal (field : Field) : String := "cannot assign to field '" ++ field.label ++ "'"

end TruthTable

namespace Formula

/-- The valuation that gives the names the digits of a number. -/
def rowValuation (names : List String) (number : Nat) : Valuation :=
  .ofList (names.zip (Bits.ofNat names.length number))

/-- The row of a number: its digits, then the value of the formula. -/
def row (formula : Formula) (names : List String) (number : Nat) :
    Except MissingVariable (List Int) := do
  let value ← formula.eval (rowValuation names number)
  return (Bits.ofNat names.length number ++ [value]).map Bits.entry

/-- The rows of so many numbers, from a number on. -/
def rowsFrom (formula : Formula) (names : List String) (number : Nat) :
    Nat → Except MissingVariable (List (List Int))
  | 0 => .ok []
  | count + 1 => do
    let first ← formula.row names number
    let rest ← formula.rowsFrom names (number + 1) count
    return first :: rest

/-- The rows of every assignment to the names. -/
def tabulate (formula : Formula) (names : List String) :
    Except MissingVariable (List (List Int)) :=
  formula.rowsFrom names 0 (Bits.count names.length)

end Formula

end Propositional
