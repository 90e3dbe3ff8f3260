import Mathlib
import Propositional.Proofs.Page.Run

/-!
# The views on one page

The table on the page and the drawn map show the same rows.  `Agree` says so for the rows that are
shown and the steps that are drawn, each taken from what appears on the page, and `views_agree` that
it is so on every page with a table that has variables.

On the map, a result and a number stand in the cell of a row and in no other (`holds_iff`), every
cell is the cell of a row, and different rows have different cells.  So the number in a cell tells
of which row it is the cell.
-/

namespace Propositional.Page

open Karnaugh Drawing

/-! ## Views -/

/-- The rows of a table on the page. -/
def Event.table? : Event → Option (List (List (String × String)))
  | .table rows => some rows
  | _ => none

/-- A step of a drawing. -/
def Event.step? : Event → Option Step
  | .draw step => some step
  | _ => none

/-- The text that a step writes. -/
def writtenText? : Step → Option String
  | .text _ _ text _ => some text
  | _ => none

/-- In the cell stand a result in the middle, in a colour, and a number in the corner, and nothing
else. -/
def Holds (steps : List Step) (cell : Cell) (glyph color : String) (k : Nat) : Prop :=
  ∃ style style', steps.filter (·.writesIn cell) =
      [.text (place cell.column 50) (place cell.line 50) glyph style,
        .text (place cell.column 5) (place cell.line 90) (toString k) style'] ∧
    style.color = color

/-- Beside the line of the cell and above its column stands one text each, and behind the equals
signs they have the digits. -/
def Headed (steps : List Step) (cell : Cell) (digits : List Bool) : Prop :=
  ∃ line column, (steps.filter (·.headsLine cell.line)).filterMap writtenText? = [line] ∧
    (steps.filter (·.headsColumn cell.column)).filterMap writtenText? = [column] ∧
      afterEquals line ++ afterEquals column = digits.map Bits.char

/-- The cell is on a map of this size. -/
def OnMap (size : Size) (cell : Cell) : Prop := cell.line < size.lines ∧ cell.column < size.columns

/-- The formula has the value where its variables have the digits of the number. -/
def ValueAt (formula : Formula) (k : Nat) (value : Bool) : Prop :=
  ∃ valuation, valuation.Gives formula.names (Bits.ofNat formula.names.length k) ∧
    formula.eval valuation = .ok value

/-- The rows that are shown and the map that is drawn agree with each other and with the formula. -/
structure Agree (formula : Formula) (names : List String) (mode : DisplayMode)
    (rows : List (List (String × String))) (size : Size) (steps : List Step) : Prop where
  names_eq : names = formula.names.map Text.upperString
  size_eq : sizeFor names.length = .ok size
  height : rows.length = 2 ^ names.length
  heads : ∀ row ∈ rows, row.map Prod.fst = names ++ ["Result"]
  distinct : (names ++ ["Result"]).Nodup
  /-- Under each variable stands its digit. -/
  digit : ∀ (k : Nat) row, rows[k]? = some row → ∀ (i : Nat) name, names[i]? = some name →
    row.lookup name = some (mode.glyph (k.testBit (names.length - 1 - i)))
  /-- In every cell of the map stands a result, and the number of exactly one row. -/
  filled : ∀ cell, OnMap size cell →
    ∃! k, k < rows.length ∧ ∃ glyph color, Holds steps cell glyph color k
  /-- The number of every row stands in exactly one cell of the map. -/
  placed : ∀ k < rows.length,
    ∃! cell, OnMap size cell ∧ ∃ glyph color, Holds steps cell glyph color k
  /-- With the number of a row stand its result, in the colour of the value, and its digits in the
  labels. -/
  result : ∀ (k : Nat) row, rows[k]? = some row → ∃ value, ValueAt formula k value ∧
    row.lookup "Result" = some (mode.glyph value) ∧
      ∀ cell glyph color, OnMap size cell → Holds steps cell glyph color k →
        glyph = mode.glyph value ∧ (color = trueColor ↔ value = true) ∧
          Headed steps cell (Bits.ofNat names.length k)

/-! ## Taking the views -/

theorem tables_mapBlock (steps : List Step) : (mapBlock steps).filterMap Event.table? = [] := by
  refine List.filterMap_eq_nil_iff.mpr fun event hevent => ?_
  simp only [mapBlock, List.cons_append, List.nil_append, List.mem_cons, List.mem_append,
    List.mem_map, List.not_mem_nil, or_false] at hevent
  rcases hevent with h | h | h | ⟨_, _, h⟩ | h | h
  all_goals
    subst h
    rfl

theorem steps_mapBlock (steps : List Step) : (mapBlock steps).filterMap Event.step? = steps := by
  have hdrawn : (steps.map Event.draw).filterMap Event.step? = steps := by
    rw [List.filterMap_map]
    exact List.filterMap_some
  rw [mapBlock, List.filterMap_append, List.filterMap_append, hdrawn]
  exact List.append_nil steps

/-! ## The rows that are shown -/

section Rows

variable {formula : Formula} {mode : DisplayMode}

/-- A row of the table on the page. -/
def shownRow (formula : Formula) (mode : DisplayMode) (k : Nat) : List (String × String) :=
  (formula.names.map Text.upperString ++ ["Result"]).zip
    ((formula.rowDigits formula.names k).map mode.glyph)

/-- The rows of the table on the page. -/
def shownRows (formula : Formula) (mode : DisplayMode) : List (List (String × String)) :=
  (List.range (2 ^ formula.names.length)).map (shownRow formula mode)

theorem shownRows_table (text : String) :
    ((formula.table text).glyphRows mode).map (formula.table text).heads.zip =
      shownRows formula mode := by
  simp only [Formula.table, TruthTable.glyphRows, TruthTable.heads, List.map_map]
  refine List.map_congr_left fun k _ => ?_
  simp only [Function.comp_apply, List.map_map, shownRow]
  congr 1
  refine List.map_congr_left fun digit _ => ?_
  rw [Function.comp_apply, entry_bne_zero]

theorem length_shownRows : (shownRows formula mode).length = 2 ^ formula.names.length := by
  rw [shownRows, List.length_map, List.length_range]

theorem getElem?_shownRows {k : Nat} {row : List (String × String)} :
    (shownRows formula mode)[k]? = some row ↔
      k < 2 ^ formula.names.length ∧ row = shownRow formula mode k := by
  rw [shownRows, List.getElem?_map, Option.map_eq_some_iff]
  constructor
  · intro h
    obtain ⟨number, hnumber, heq⟩ := h
    obtain ⟨hlt, hk⟩ := List.getElem?_eq_some_iff.mp hnumber
    rw [List.length_range] at hlt
    rw [List.getElem_range] at hk
    subst hk heq
    exact ⟨hlt, rfl⟩
  · intro h
    exact ⟨k, List.getElem?_range h.1, h.2.symm⟩

theorem heads_shownRow (k : Nat) :
    (shownRow formula mode k).map Prod.fst = formula.names.map Text.upperString ++ ["Result"] := by
  refine List.map_fst_zip ?_
  rw [List.length_append, List.length_map, List.length_map, Formula.length_rowDigits]
  rfl

theorem heads_nodup (h : formula.OverLetters) :
    (formula.names.map Text.upperString ++ ["Result"]).Nodup := by
  refine List.nodup_append.mpr
    ⟨Formula.upper_names_nodup h, List.nodup_singleton _, fun name hname result hresult heq => ?_⟩
  obtain ⟨letter, hletter⟩ := Formula.exists_letter_of_mem_upper h hname
  rw [List.mem_singleton.mp hresult, hletter] at heq
  revert heq
  cases letter <;> decide +kernel

/-- What stands in a row is found under its head. -/
theorem lookup_shownRow (h : formula.OverLetters) {k i : Nat} {name : String} {digit : Bool}
    (hname : (formula.names.map Text.upperString ++ ["Result"])[i]? = some name)
    (hdigit : (formula.rowDigits formula.names k)[i]? = some digit) :
    (shownRow formula mode k).lookup name = some (mode.glyph digit) := by
  refine Valuation.lookup_of_mem ?_ (List.mem_iff_getElem?.mpr ⟨i, ?_⟩)
  · rw [heads_shownRow]
    exact heads_nodup h
  · refine List.getElem?_zip_eq_some.mpr ⟨hname, ?_⟩
    rw [List.getElem?_map, hdigit]
    rfl

/-- The only table on the page of a formula. -/
theorem tables_page (formula : Formula) (folded : Folded) (text : String) (mode : DisplayMode) :
    (head ++ shownEvents formula folded text mode).filterMap Event.table? =
      [shownRows formula mode] := by
  rw [← shownRows_table text, List.filterMap_append, shownEvents, List.filterMap_append]
  split
  · rfl
  · rw [tables_mapBlock]
    rfl

end Rows

/-! ## The cells of the map -/

section Cells

variable {formula : Formula} {mode : DisplayMode} {labels : Labels}

theorem onMap_cellAt (formula : Formula) (k : Nat) :
    OnMap (mapSize formula) (cellAt formula.names.length k) :=
  ⟨cellAt_line_lt _ k, cellAt_column_lt _ k⟩

/-- The cell of a row holds its result and its number, and other cells do not. -/
theorem holds_iff {cell : Cell} (hcell : OnMap (mapSize formula) cell) {glyph color : String}
    {k : Nat} :
    Holds (mapSteps formula mode labels) cell glyph color k ↔
      k < 2 ^ formula.names.length ∧ cell = cellAt formula.names.length k ∧
        glyph = mode.glyph (formula.rowValue formula.names k) ∧
          color = resultColor (formula.rowValue formula.names k) := by
  constructor
  · intro h
    obtain ⟨style, style', htexts, hcolor⟩ := h
    obtain ⟨other, hother, heq⟩ := exists_cellAt hcell.1 hcell.2
    rw [← heq, filter_writesIn hother] at htexts
    simp only [rowSteps, resultText, numberStep, List.cons.injEq, Step.text.injEq, true_and,
      and_true] at htexts
    obtain ⟨⟨hglyph, hstyle⟩, hnumber, _⟩ := htexts
    -- Numbers are written differently, so the number in the cell tells the row.
    have hk : other = k := Nat.repr_inj.mp hnumber
    subst hk
    refine ⟨hother, heq.symm, hglyph.symm, ?_⟩
    rw [← hcolor, ← hstyle]
  · intro h
    obtain ⟨hk, heq, hglyph, hcolor⟩ := h
    subst heq hglyph hcolor
    exact ⟨_, _, filter_writesIn hk, rfl⟩

/-- The labels of a row's cell spell the digits of the row. -/
theorem exists_labels (text : String) (h : formula.OverLetters) (k : Nat) :
    ∃ line column,
      (labelsOf (formula.table text)).lines[(cellAt formula.names.length k).line]? = some line ∧
        (labelsOf (formula.table text)).columns[(cellAt formula.names.length k).column]? =
            some column ∧
          afterEquals line ++ afterEquals column =
            (Bits.ofNat formula.names.length k).map Bits.char := by
  have hnames := not_mem_names text h
  have hlength := formula.length_names_table text
  have hline : (cellAt formula.names.length k).line <
      (labelsOf (formula.table text)).lines.length := by
    rw [length_lines, hlength]
    exact cellAt_line_lt _ k
  have hcolumn : (cellAt formula.names.length k).column <
      (labelsOf (formula.table text)).columns.length := by
    rw [length_columns, hlength]
    exact cellAt_column_lt _ k
  obtain ⟨lineDigits, hlineDigits, hspelled⟩ :=
    exists_lineDigits hnames (List.getElem?_eq_getElem hline)
  obtain ⟨columnDigits, hcolumnDigits, hspelled'⟩ :=
    exists_columnDigits hnames (List.getElem?_eq_getElem hcolumn)
  refine ⟨_, _, List.getElem?_eq_getElem hline, List.getElem?_eq_getElem hcolumn, ?_⟩
  rw [hlength, cellAt_eq, Gray.getElem?_rank, Option.some.injEq] at hlineDigits hcolumnDigits
  have hdigits := Bits.ofNat_append (lineBits formula.names.length)
    (columnBits formula.names.length) k
  rw [lineBits_add_columnBits] at hdigits
  rw [hspelled, hspelled', ← hlineDigits, ← hcolumnDigits, hdigits, List.map_append]

theorem headed_cellAt (text : String) (h : formula.OverLetters) (k : Nat) :
    Headed (mapSteps formula mode (labelsOf (formula.table text)))
      (cellAt formula.names.length k) (Bits.ofNat formula.names.length k) := by
  obtain ⟨line, column, hline, hcolumn, hspelled⟩ := exists_labels text h k
  refine ⟨line, column, ?_, ?_, hspelled⟩
  · rw [filter_headsLine hline]
    rfl
  · rw [filter_headsColumn hcolumn]
    rfl

/-- All that is drawn on the page of a formula with variables. -/
theorem steps_page (folded : Folded) {text : String} (mode : DisplayMode)
    (h : (formula.table text).names ≠ []) :
    (head ++ shownEvents formula folded text mode).filterMap Event.step? =
      mapSteps formula mode (labelsOf (formula.table text)) := by
  rw [List.filterMap_append, shownEvents, List.filterMap_append, if_neg h, steps_mapBlock]
  rfl

end Cells

/-! ## Agreement -/

section Agreement

variable {formula : Formula}

theorem valueAt (k : Nat) : ValueAt formula k (formula.rowValue formula.names k) :=
  ⟨Formula.rowValuation formula.names k, Formula.gives_rowValuation formula.names_nodup k,
    Formula.eval_rowValuation Formula.leaf_mem_names k⟩

/-- The rows and the map of a formula's table agree. -/
theorem agree_table (text : String) (mode : DisplayMode) (h : formula.OverLetters) :
    Agree formula (formula.table text).names mode (shownRows formula mode) (mapSize formula)
      (mapSteps formula mode (labelsOf (formula.table text))) := by
  have hlength := formula.length_names_table text
  constructor
  case names_eq => rfl
  case size_eq =>
    rw [hlength]
    exact sizeFor_eq_ok (Formula.length_names_le h)
  case height => rw [length_shownRows, hlength]
  case heads =>
    intro row hrow
    obtain ⟨k, _, hk⟩ := List.mem_map.mp hrow
    rw [← hk]
    exact heads_shownRow k
  case distinct => exact heads_nodup h
  case digit =>
    intro k row hrow i name hname
    obtain ⟨_, heq⟩ := getElem?_shownRows.mp hrow
    obtain ⟨hi, _⟩ := List.getElem?_eq_some_iff.mp hname
    rw [heq, hlength]
    refine lookup_shownRow h (i := i) ?_ ?_
    · exact (List.getElem?_append_left hi).trans hname
    · exact Formula.getElem?_rowDigits k (hlength ▸ hi)
  case filled =>
    intro cell hcell
    obtain ⟨k, hk, heq⟩ := exists_cellAt hcell.1 hcell.2
    rw [length_shownRows]
    refine ⟨k, ⟨hk, _, _, (holds_iff hcell).mpr ⟨hk, heq.symm, rfl, rfl⟩⟩, ?_⟩
    intro other hother
    obtain ⟨_, glyph, color, hholds⟩ := hother
    obtain ⟨hlt, heq', _⟩ := (holds_iff hcell).mp hholds
    exact cellAt_injective hlt hk (heq'.symm.trans heq.symm)
  case placed =>
    intro k hk
    rw [length_shownRows] at hk
    have hcell := onMap_cellAt formula k
    refine ⟨_, ⟨hcell, _, _, (holds_iff hcell).mpr ⟨hk, rfl, rfl, rfl⟩⟩, ?_⟩
    intro other hother
    obtain ⟨honMap, glyph, color, hholds⟩ := hother
    exact ((holds_iff honMap).mp hholds).2.1
  case result =>
    intro k row hrow
    obtain ⟨hk, heq⟩ := getElem?_shownRows.mp hrow
    refine ⟨formula.rowValue formula.names k, valueAt k, ?_, ?_⟩
    · rw [heq]
      refine lookup_shownRow h (i := formula.names.length) ?_ ?_
      · simp
      · exact Formula.getElem?_rowDigits_result k
    · intro cell glyph color hcell hholds
      obtain ⟨_, hcell', hglyph, hcolor⟩ := (holds_iff hcell).mp hholds
      rw [hcell', hcolor, hlength]
      exact ⟨hglyph, resultColor_eq_iff, headed_cellAt text h k⟩

end Agreement

/-- Wherever a table appears on the page, it is the only one.  If it has variables, the table and
the drawn map agree. -/
theorem views_agree {input : Input} {events : List Event}
    {rows : List (List (String × String))} (hrun : run input = .ok events)
    (hrows : Event.table rows ∈ events) :
    ∃ table formula, input.build.outcome = .ok table ∧
      Formula.ofTyped table.formula = .ok formula ∧ events.filterMap Event.table? = [rows] ∧
        (table.names ≠ [] →
          ∃ size, Agree formula table.names input.mode rows size
            (events.filterMap Event.step?)) := by
  obtain ⟨below, hbelow, hcases⟩ := exists_below input
  cases hrun.symm.trans hbelow
  cases hcases with
  | nothing _ => exact absurd hrows (by simp [head])
  | rejected _ _ => exact absurd hrows (by simp [head, rejectionEvents])
  | @shown formula folded asked outcome read fold =>
    have htables := tables_page formula folded (stripString input.text) input.mode
    have hrows' : rows ∈ [shownRows formula input.mode] := by
      rw [← htables]
      exact List.mem_filterMap.mpr ⟨_, hrows, rfl⟩
    rw [List.mem_singleton.mp hrows']
    refine ⟨_, formula, outcome, read, htables, fun hnames => ⟨mapSize formula, ?_⟩⟩
    rw [steps_page folded input.mode hnames]
    exact agree_table _ input.mode (overLetters_of_ofTyped read)

/-- On the page of `a -> b` the third row, whose cell is the first one of the second line, has the
only zero. -/
theorem views_agree_of_implication :
    ∃ events rows size, run ⟨"a -> b", .digits, false⟩ = .ok events ∧
      rows = [[("A", "0"), ("B", "0"), ("Result", "1")], [("A", "0"), ("B", "1"), ("Result", "1")],
        [("A", "1"), ("B", "0"), ("Result", "0")], [("A", "1"), ("B", "1"), ("Result", "1")]] ∧
      Event.table rows ∈ events ∧ Holds (events.filterMap Event.step?) ⟨1, 0⟩ "0" falseColor 2 ∧
      Agree (.bin .implies (.var "a") (.var "b")) ["A", "B"] .digits rows size
        (events.filterMap Event.step?) := by
  have hrun : run ⟨"a -> b", .digits, false⟩ =
      .ok (head ++ shownEvents (.bin .implies (.var "a") (.var "b"))
        (.implication (.symbol "A") (.symbol "B")) "a -> b" .digits) := by
    with_unfolding_all rfl
  have hrows : Event.table
      [[("A", "0"), ("B", "0"), ("Result", "1")], [("A", "0"), ("B", "1"), ("Result", "1")],
        [("A", "1"), ("B", "0"), ("Result", "0")], [("A", "1"), ("B", "1"), ("Result", "1")]] ∈
      head ++ shownEvents (.bin .implies (.var "a") (.var "b"))
        (.implication (.symbol "A") (.symbol "B")) "a -> b" .digits := by
    decide +kernel
  obtain ⟨table, formula, htable, hformula, _, hagree⟩ := views_agree hrun hrows
  have hbuilt : (Input.build ⟨"a -> b", .digits, false⟩).outcome =
      .ok ((Formula.bin .implies (.var "a") (.var "b")).table "a -> b") := by
    with_unfolding_all rfl
  cases hbuilt.symm.trans htable
  have hread : Formula.ofTyped "a -> b" = .ok (.bin .implies (.var "a") (.var "b")) := by
    rfl
  cases hread.symm.trans hformula
  have hnames : ((Formula.bin .implies (.var "a") (.var "b")).table "a -> b").names =
      ["A", "B"] := by
    decide +kernel
  rw [hnames] at hagree
  obtain ⟨size, hviews⟩ := hagree (by simp)
  refine ⟨_, _, size, hrun, rfl, hrows, ?_, hviews⟩
  refine ⟨⟨falseColor, 13, some .center, some .center, true, none⟩,
    ⟨"#777", 8, none, none, false, some ⟨70⟩⟩, ?_, rfl⟩
  decide +kernel

end Propositional.Page
