import Propositional.Table.Basic
import Propositional.Text.Quoted

/-!
# Tables on display

Entries are shown as letters or as digits.  The mode may be given by name, and names other than
the two known ones are refused; rows refuse them only where there is an entry to show.
-/

namespace Propositional

/-! ## Modes -/

/-- How truth values are shown. -/
inductive DisplayMode where
  | letters
  | digits
deriving DecidableEq

namespace DisplayMode

/-- The name by which a mode is asked for. -/
def name : DisplayMode → String
  | letters => "vf"
  | digits => "01"

/-- The label of a mode. -/
def label : DisplayMode → String
  | letters => "V/F"
  | digits => "0/1"

/-- How a truth value is shown. -/
def glyph : DisplayMode → Bool → String
  | letters, true => "V"
  | letters, false => "F"
  | digits, true => "1"
  | digits, false => "0"

end DisplayMode

/-! ## Modes by name -/

/-- What is given as the name of a mode. -/
inductive ModeName where
  | absent
  | flag (value : Bool)
  | integer (value : Int)
  | text (value : String)
deriving DecidableEq

namespace ModeName

/-- The name in plain sight. -/
def quoted : ModeName → String
  | absent => "None"
  | flag true => "True"
  | flag false => "False"
  | integer value => toString value
  | text value => Text.quotedString value

/-- The name of a mode that there is. -/
def ofMode (mode : DisplayMode) : ModeName := text mode.name

end ModeName

/-- A name that no mode has. -/
structure UnknownMode where
  name : ModeName
deriving DecidableEq

/-- What is said of a name that no mode has. -/
def UnknownMode.message (unknown : UnknownMode) : String :=
  "Unknown display format: " ++ unknown.name.quoted

/-- The mode of a name. -/
def ModeName.mode (name : ModeName) : Except UnknownMode DisplayMode :=
  if name = ofMode .letters then .ok .letters
  else if name = ofMode .digits then .ok .digits
  else .error ⟨name⟩

/-- How a truth value is shown in the mode of a name. -/
def ModeName.glyph (name : ModeName) (bit : Bool) : Except UnknownMode String := do
  let mode ← name.mode
  return mode.glyph bit

/-! ## What is shown of a table -/

namespace TruthTable

/-- The heads of the columns. -/
def heads (table : TruthTable) : List String := table.names ++ ["Result"]

/-- The rows, every entry as it is shown. -/
def shownRows (table : TruthTable) (name : ModeName) : Except UnknownMode (List (List String)) :=
  table.rows.mapM fun row => row.mapM fun entry => name.glyph (entry != 0)

/-- The table in one line. -/
def summary (table : TruthTable) (name : ModeName) : Except UnknownMode String := do
  let mode ← name.mode
  return "Formula: " ++ table.formula ++ "  •  Rows: " ++ toString table.rows.length ++
    "  •  Format: " ++ mode.label

end TruthTable

end Propositional
