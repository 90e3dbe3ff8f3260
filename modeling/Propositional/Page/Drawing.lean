import Propositional.Karnaugh.Labels
import Propositional.Karnaugh.Map
import Propositional.Table.Display

/-!
# Drawing a Karnaugh map

`stepsOf` gives the steps that draw the map of a table: the frame, the labels of the columns and of
the lines, then for each row of the table its result in the middle of its cell and its number in
the corner.
-/

namespace Propositional.Drawing

/-! ## Steps of a drawing -/

/-- A length, in hundredths of the drawing's unit. -/
structure Measure where
  hundredths : Int
deriving DecidableEq

/-- Where a text lies with respect to its point. -/
inductive Alignment where
  | center
  | right
deriving DecidableEq

/-- The word for an alignment. -/
def Alignment.word : Alignment → String
  | center => "center"
  | right => "right"

/-- How a text is drawn.  What is not given is left to the drawing surface. -/
structure TextStyle where
  color : String
  size : Nat
  horizontal : Option Alignment
  vertical : Option Alignment
  bold : Bool
  opacity : Option Measure
deriving DecidableEq

/-- A step of a drawing. -/
inductive Step where
  /-- A new drawing of this size. -/
  | sheet (width height : Measure)
  /-- The part of the horizontal axis that is seen. -/
  | horizontalRange (low : Measure) (high : Nat)
  /-- The part of the vertical axis that is seen. -/
  | verticalRange (low : Measure) (high : Nat)
  /-- The places that are marked on the horizontal axis. -/
  | horizontalTicks (places : List Nat)
  /-- The places that are marked on the vertical axis. -/
  | verticalTicks (places : List Nat)
  /-- What stands at the marks of the horizontal axis. -/
  | horizontalTickLabels (labels : List String)
  /-- What stands at the marks of the vertical axis. -/
  | verticalTickLabels (labels : List String)
  /-- Lines through the marks of both axes. -/
  | gridLines (color : String) (width : Nat)
  /-- The vertical axis runs downwards. -/
  | turnVertical
  /-- The colour of the ground. -/
  | background (color : String)
  /-- A text at a point. -/
  | text (x y : Measure) (text : String) (style : TextStyle)
deriving DecidableEq

/-! ## The parts of a map -/

/-- The colour of true results. -/
def trueColor : String := "#1f3c88"

/-- The colour of false results. -/
def falseColor : String := "#9aa7b7"

/-- A place so many units and hundredths from the origin. -/
def place (units hundredths : Nat) : Measure := ⟨100 * units + hundredths⟩

/-- The distance of the axis labels from the map, towards the outside. -/
def labelPlace : Measure := ⟨-25⟩

/-- The frame of a map, without labels. -/
def frameSteps (size : Karnaugh.Size) : List Step :=
  [.sheet ⟨130 * size.columns + 120⟩ ⟨130 * size.lines + 100⟩,
    .horizontalRange ⟨-60⟩ size.columns,
    .verticalRange ⟨-60⟩ size.lines,
    .horizontalTicks (List.range (size.columns + 1)),
    .verticalTicks (List.range (size.lines + 1)),
    .horizontalTickLabels [],
    .verticalTickLabels [],
    .gridLines "#888" 1,
    .turnVertical,
    .background "#fafafa"]

/-- How labels are drawn. -/
def labelStyle (horizontal : Alignment) : TextStyle :=
  ⟨"#333", 10, some horizontal, some .center, false, none⟩

/-- The label of a column. -/
def columnLabelStep (label : String) (column : Nat) : Step :=
  .text (place column 50) labelPlace label (labelStyle .center)

/-- The label of a line. -/
def lineLabelStep (label : String) (line : Nat) : Step :=
  .text labelPlace (place line 50) label (labelStyle .right)

/-- A result in the middle of its cell. -/
def resultStep (mode : ModeName) (cell : Karnaugh.Cell) (bit : Bool) :
    Except UnknownMode Step := do
  let glyph ← mode.glyph bit
  return .text (place cell.column 50) (place cell.line 50) glyph
    ⟨if bit then trueColor else falseColor, 13, some .center, some .center, true, none⟩

/-- The number of a row in the corner of its cell. -/
def numberStep (cell : Karnaugh.Cell) (index : Nat) : Step :=
  .text (place cell.column 5) (place cell.line 90) (toString index)
    ⟨"#777", 8, none, none, false, some ⟨70⟩⟩

/-! ## The whole map -/

/-- Why a map cannot be drawn. -/
inductive Failure where
  | map (error : Karnaugh.MapError)
  | mode (error : UnknownMode)
deriving DecidableEq

/-- What is drawn in the cell of a row. -/
def cellSteps (mode : ModeName) (arity : Nat) (map : Grid) (index : Nat) :
    Except Failure (List Step) := do
  let cell ← (Karnaugh.cellFor arity index).mapError .map
  let result ← (resultStep mode cell (map.entry cell.line cell.column != 0)).mapError .mode
  return [result, numberStep cell index]

/-- The steps that draw the Karnaugh map of a table. -/
def stepsOf (table : TruthTable) (mode : ModeName) : Except Failure (List Step) := do
  let arity := table.names.length
  let size ← (Karnaugh.sizeFor arity).mapError .map
  let map ← (Karnaugh.mapOf table).mapError .map
  let labels := Karnaugh.labelsOf table
  let cells ← (List.range table.rows.length).mapM (cellSteps mode arity map)
  return frameSteps size ++ labels.columns.mapIdx (fun column label => columnLabelStep label column)
    ++ labels.lines.mapIdx (fun line label => lineLabelStep label line) ++ cells.flatten

end Propositional.Drawing
