import Propositional.Table.Basic

/-!
# Tables as grids of small integers

A grid has entries of one signed byte in lines of one length.  A table is made into one whose width
is the number of its variables and one more.
-/

namespace Propositional

/-- Integers in lines; the width is there even without lines. -/
structure Grid where
  width : Nat
  lines : List (List Int)
deriving DecidableEq

/-- The number of lines. -/
def Grid.height (grid : Grid) : Nat := grid.lines.length

/-- The entry at a place, or zero outside of the grid. -/
def Grid.entry (grid : Grid) (line column : Nat) : Int :=
  (grid.lines.getD line []).getD column 0

/-- Whether a number fits into a signed byte. -/
def fitsByte (entry : Int) : Bool := -128 ≤ entry && entry ≤ 127

/-- Why a table is no grid. -/
inductive GridError where
  /-- Two rows differ in length. -/
  | ragged
  /-- An entry does not fit into a signed byte. -/
  | entryRange
  /-- The rows do not have one entry per variable and one more. -/
  | width
deriving DecidableEq

/-- The rows of a table as a grid.  Of several failures the first one in the order of `GridError`
counts. -/
def TruthTable.grid (table : TruthTable) : Except GridError Grid :=
  let width := table.names.length + 1
  match table.rows with
  | [] => .ok ⟨width, []⟩
  | first :: rest =>
    if rest.any (·.length != first.length) then .error .ragged
    else if !(first :: rest).all (·.all fitsByte) then .error .entryRange
    else if first.length != width then .error .width
    else .ok ⟨width, first :: rest⟩

end Propositional
