import Propositional.Karnaugh.Layout
import Propositional.Table.Grid

/-!
# The Karnaugh map of a table

`mapOf` puts the result column of a table on the map, row by row; cells that no row belongs to hold
zero.  Of several failures the first one counts: the number of variables, then a row without
result, then, in the order of the rows, a row too many or a result too large.
-/

namespace Propositional.Karnaugh

/-- The lines of a map of zeros. -/
def Size.zeros (size : Size) : List (List Int) :=
  List.replicate size.lines (List.replicate size.columns 0)

/-- Put an entry into a cell. -/
def put (cell : Cell) (entry : Int) (lines : List (List Int)) : List (List Int) :=
  lines.modify cell.line (·.set cell.column entry)

/-- Put results on a map, the first one belonging to the row of the given number. -/
def putFrom (arity index : Nat) :
    List Int → List (List Int) → Except MapError (List (List Int))
  | [], lines => .ok lines
  | entry :: rest, lines => do
    let cell ← cellFor arity index
    if fitsByte entry then
      putFrom arity (index + 1) rest (put cell entry lines)
    else
      throw .entryRange

/-- The result column of a table on its Karnaugh map. -/
def mapOf (table : TruthTable) : Except MapError Grid := do
  let arity := table.names.length
  let size ← sizeFor arity
  let results ← table.resultColumn.mapError fun _ => .emptyRow
  let lines ← putFrom arity 0 results size.zeros
  return ⟨size.columns, lines⟩

end Propositional.Karnaugh
