import Propositional.Table.Display

/-!
# What is shown of a table

A mode that is asked for by its own name is known (`ModeName.mode_ofMode`).  So in each of the two
modes the rows of every table are shown, entry by entry (`TruthTable.shownRows_ofMode`), and so is
the table in one line (`TruthTable.summary_ofMode`).
-/

namespace Propositional

/-- If a step is there for each element of a list, the steps are there for the list. -/
theorem mapM_eq_ok {α β ε : Type} {step : α → Except ε β} {result : α → β} {list : List α}
    (h : ∀ element ∈ list, step element = .ok (result element)) :
    list.mapM step = .ok (list.map result) := by
  induction list with
  | nil => rfl
  | cons first rest ih =>
    have hfirst := h first List.mem_cons_self
    have hrest := ih fun element hmem => h element (List.mem_cons_of_mem _ hmem)
    rw [List.mapM_cons, hfirst, hrest]
    rfl

namespace ModeName

theorem mode_ofMode (mode : DisplayMode) : (ofMode mode).mode = .ok mode := by
  unfold ModeName.mode
  cases mode with
  | letters => rw [if_pos rfl]
  | digits => rw [if_neg (by decide), if_pos rfl]

theorem glyph_ofMode (mode : DisplayMode) (bit : Bool) :
    (ofMode mode).glyph bit = .ok (mode.glyph bit) := by
  rw [glyph, mode_ofMode]
  rfl

end ModeName

namespace TruthTable

/-- The rows in a mode. -/
def glyphRows (table : TruthTable) (mode : DisplayMode) : List (List String) :=
  table.rows.map fun row => row.map fun entry => mode.glyph (entry != 0)

/-- The table in one line, in a mode. -/
def summaryLine (table : TruthTable) (mode : DisplayMode) : String :=
  "Formula: " ++ table.formula ++ "  •  Rows: " ++ toString table.rows.length ++
    "  •  Format: " ++ mode.label

theorem shownRows_ofMode (table : TruthTable) (mode : DisplayMode) :
    table.shownRows (.ofMode mode) = .ok (table.glyphRows mode) :=
  mapM_eq_ok fun _ _ => mapM_eq_ok fun entry _ => ModeName.glyph_ofMode mode (entry != 0)

theorem summary_ofMode (table : TruthTable) (mode : DisplayMode) :
    table.summary (.ofMode mode) = .ok (table.summaryLine mode) := by
  rw [summary, ModeName.mode_ofMode]
  rfl

end TruthTable

end Propositional
