import Propositional.Formula.Names
import Propositional.Reader.Whole
import Propositional.Table.Basic
import Propositional.Text.Quoted
import Propositional.Text.Uppercase

/-!
# From a text to its table

`Build.ofText` takes a text as it was typed, or no text at all, to its truth table.  On the way it
keeps a log: one line once the formula has been read, one once the rows are there.
-/

namespace Propositional

/-- Why there is no table. -/
inductive BuildError where
  | rejected (error : Rejection)
  | unassigned (missing : MissingVariable)
deriving DecidableEq

/-- The wording of a failure. -/
def BuildError.message : BuildError → String
  | rejected error => error.message
  | unassigned missing => missing.message

/-- The outcome of building a table, and the lines logged on the way. -/
structure Build where
  outcome : Except BuildError TruthTable
  log : List String

namespace Build

/-- Names between parentheses; a single one is followed by a comma. -/
def enclosedNames : List String → String
  | [] => "()"
  | [name] => "(" ++ Text.quotedString name ++ ",)"
  | names => "(" ++ ", ".intercalate (names.map Text.quotedString) ++ ")"

/-- The log line for a formula that has been read. -/
def readLine (text : String) (formula : Formula) : String :=
  "normalized " ++ Text.quotedString text ++ " to " ++
    Text.quotedString (Spelling.canonicalString text) ++ " with variables " ++
    enclosedNames formula.names

/-- The log line for rows that have been made. -/
def rowsLine (text : String) (rows : List (List Int)) : String :=
  "built " ++ toString rows.length ++ " rows for " ++
    Text.quotedString (Spelling.canonicalString text)

/-- The rejection of a text, before anything is logged. -/
def reject (error : Rejection) : Build := ⟨.error (.rejected error), []⟩

/-- The table of a formula that was read from a text. -/
def ofFormula (text : String) (formula : Formula) : Build :=
  match formula.tabulate formula.names with
  | .error missing => ⟨.error (.unassigned missing), [readLine text formula]⟩
  | .ok rows =>
    ⟨.ok ⟨text, formula.names.map Text.upperString, rows⟩,
      [readLine text formula, rowsLine text rows]⟩

/-- The table of a text, if there is a text. -/
def ofText : Option String → Build
  | none => reject .blank
  | some text =>
    if (Text.strip text.toList).isEmpty then reject .blank
    else
      match Formula.ofTyped text with
      | .error error => reject error
      | .ok formula => ofFormula text formula

end Build

end Propositional
