import Propositional.Karnaugh.Layout
import Propositional.Table.Basic

/-!
# Axis labels

Each line and each column of a Karnaugh map is labelled with the names of its variables and their
digits there, such as `AB=01`, in Gray order.  An axis without variables has one empty label.
-/

namespace Propositional.Karnaugh

/-- The label of a place on the axis of the named variables. -/
def label (names : List String) (digits : List Bool) : String :=
  String.ofList (names.flatMap String.toList ++ '=' :: digits.map Bits.char)

/-- The labels of the axis of the named variables. -/
def labelsAlong (names : List String) : List String :=
  if names.isEmpty then [""] else (Gray.code names.length).map (label names)

/-- The labels of the two axes of a map. -/
structure Labels where
  lines : List String
  columns : List String
deriving DecidableEq

/-- The labels of the Karnaugh map of a table with any number of variables. -/
def labelsOf (table : TruthTable) : Labels where
  lines := labelsAlong (table.names.take (lineBits table.names.length))
  columns := labelsAlong (table.names.drop (lineBits table.names.length))

end Propositional.Karnaugh
