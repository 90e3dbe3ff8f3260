import Propositional.Folded.OfFormula
import Propositional.Folded.Typeset
import Propositional.Page.Drawing
import Propositional.Table.Build

/-!
# The page

One run of the page of the truth table calculator, as the list of what appears on it.  The head of
the page is always the same.  If there is a text, or the button was pressed, it is followed by a
rejection or by the summary, the table, the typeset formula and, if there are variables, the
Karnaugh map.
-/

namespace Propositional.Page

/-! ## Input and events -/

/-- What may appear on the page. -/
inductive Event where
  /-- The settings of the page: a wide one with this title. -/
  | settings (title : String)
  /-- The title at the top. -/
  | title (text : String)
  /-- A heading or a rule. -/
  | markdown (text : String)
  /-- A field to type into. -/
  | textField (label : String)
  /-- A line in small type. -/
  | caption (text : String)
  /-- A choice among options that stand side by side. -/
  | choice (label : String) (options : List String)
  /-- A button to press. -/
  | button (label : String)
  /-- A line of the log, which the visitor does not see. -/
  | log (message : String)
  /-- A failure. -/
  | error (message : String)
  /-- A summary. -/
  | info (text : String)
  /-- A table, each row as heads and entries. -/
  | table (rows : List (List (String × String)))
  /-- A formula in LaTeX. -/
  | typeset (text : String)
  /-- What follows is kept together. -/
  | groupStart
  /-- What is kept together ends. -/
  | groupEnd
  /-- A step of a drawing that is not on the page yet. -/
  | draw (step : Drawing.Step)
  /-- The drawing made so far. -/
  | picture
deriving DecidableEq

/-- What the visitor has entered. -/
structure Input where
  text : String
  mode : DisplayMode
  pressed : Bool
deriving DecidableEq

/-- Why a run may break off. -/
inductive Failure where
  | unassigned (missing : MissingVariable)
  | rejected (error : Rejection)
  | symbol (missing : MissingSymbol)
  | mode (unknown : UnknownMode)
  | drawing (error : Drawing.Failure)
deriving DecidableEq

/-! ## The parts of the page -/

/-- The head of the page. -/
def head : List Event :=
  [.settings "Truth Table Calculator",
    .title "🔣 Truth Table Calculator",
    .markdown "---",
    .textField "Formula (example: (a -> b) & !c):",
    .caption (typingHint ++ " Unicode ¬ ~ ∧ ∨ → ↔ also work."),
    .choice "Format:" [DisplayMode.letters.label, DisplayMode.digits.label],
    .button "Calculate 🚀"]

/-- The string without the white space at its ends. -/
def stripString (text : String) : String := String.ofList (Text.strip text.toList)

/-- What appears when the text is rejected. -/
def rejectionEvents (text : String) (error : Rejection) : List Event :=
  [.log ("rejected expression " ++ Text.quotedString text ++ ": " ++ error.message),
    .error ("Error: " ++ error.message)]

/-- The typeset formula of a text. -/
def typesetText (text : String) : Except Failure String := do
  let formula ← (Formula.ofTyped text).mapError .rejected
  let folded ← formula.foldUpper.mapError .symbol
  return String.ofList folded.typeset

/-- The Karnaugh map of a table with its heading; nothing for a table without variables. -/
def mapEvents (table : TruthTable) (mode : ModeName) : Except Failure (List Event) := do
  if table.names.isEmpty then
    return []
  else
    let steps ← (Drawing.stepsOf table mode).mapError .drawing
    return [.groupStart,
      .markdown "### 🗺️ Karnaugh map",
      .caption "Result column laid out in Gray order; cell corner shows the row number."] ++
      steps.map .draw ++ [.picture, .groupEnd]

/-- What appears for a table. -/
def tableEvents (table : TruthTable) (mode : ModeName) : Except Failure (List Event) := do
  let summary ← (table.summary mode).mapError .mode
  let rows ← (table.shownRows mode).mapError .mode
  let formula ← typesetText table.formula
  let map ← mapEvents table mode
  return [.info summary, .table (rows.map table.heads.zip), .typeset formula] ++ map

/-- What appears below the head of the page. -/
def resultEvents (input : Input) : Except Failure (List Event) :=
  if !input.pressed && input.text.isEmpty then
    .ok []
  else
    match (Build.ofText (some (stripString input.text))).outcome with
    | .error (.rejected error) => .ok (rejectionEvents input.text error)
    | .error (.unassigned missing) => .error (.unassigned missing)
    | .ok table => tableEvents table (.ofMode input.mode)

/-! ## The whole page -/

/-- One run of the page. -/
def run (input : Input) : Except Failure (List Event) := do
  let result ← resultEvents input
  return head ++ result

end Propositional.Page
