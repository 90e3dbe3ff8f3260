import Propositional.Karnaugh.Gray

/-!
# The layout of a Karnaugh map

The first half of the variables, rounded down, selects the line of the map and the others the
column.  Both axes are in Gray order, so neighbouring cells differ in one variable.  There are maps
of up to four variables.
-/

namespace Propositional.Karnaugh

/-- Why there is no map, or no place on it. -/
inductive MapError where
  /-- The number of variables is out of range. -/
  | unavailable
  /-- A row of the table that the map has no cell for. -/
  | noSuchRow (index arity : Int)
  /-- A row of the table has no result. -/
  | emptyRow
  /-- A result does not fit into a signed byte. -/
  | entryRange
deriving DecidableEq

/-- The wording of the failures of the layout. -/
def MapError.message? : MapError → Option String
  | unavailable => some "K-map available for 0-4 variables."
  | noSuchRow index arity =>
    some ("Row index " ++ toString index ++ " out of range for " ++ toString arity ++
      " variables.")
  | emptyRow => none
  | entryRange => none

/-- How many of the variables select the line of the map. -/
def lineBits (arity : Nat) : Nat := arity / 2

/-- How many of the variables select the column of the map. -/
def columnBits (arity : Nat) : Nat := arity - lineBits arity

/-- The numbers of lines and columns of a map. -/
structure Size where
  lines : Nat
  columns : Nat
deriving DecidableEq

/-- The size of the map for a number of variables. -/
def sizeFor (arity : Int) : Except MapError Size :=
  if 0 ≤ arity ∧ arity ≤ 4 then
    .ok ⟨Bits.count (lineBits arity.toNat), Bits.count (columnBits arity.toNat)⟩
  else
    .error .unavailable

/-- A place on a map. -/
structure Cell where
  line : Nat
  column : Nat
deriving DecidableEq

/-- The place of a row on the map that has a cell for it. -/
def cellAt (arity index : Nat) : Cell where
  line := Gray.rank (lineBits arity) (index / Bits.count (columnBits arity))
  column := Gray.rank (columnBits arity) (index % Bits.count (columnBits arity))

/-- The place of a row of the table on the map. -/
def cellFor (arity index : Int) : Except MapError Cell := do
  let size ← sizeFor arity
  if 0 ≤ index ∧ index < size.lines * size.columns then
    return cellAt arity.toNat index.toNat
  else
    throw (.noSuchRow index arity)

end Propositional.Karnaugh
