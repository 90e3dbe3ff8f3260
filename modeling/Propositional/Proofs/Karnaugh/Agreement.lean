import Propositional.Proofs.Karnaugh.Labels
import Propositional.Proofs.Karnaugh.Map
import Propositional.Proofs.Table.Complete

/-!
# The map, its labels and the formula

The labels of a cell spell a valuation: the digits of the line's label, then those of the column's
label, are the values of the variables in order.  `Agrees` says that each cell has the value of the
formula under the valuation that its labels spell, and that the valuations of neighbouring cells
differ in one variable; `agrees_of_ofText` that this is so for every text that has a table.

The two sides meet at the number of a row: its digits are those of the two labels, and its cell is
the one at their places (`exists_row`).
-/

namespace Propositional

/-! ## One place apart -/

theorem Valuation.gives_cons_iff {valuation : Valuation} {name : String} {names : List String}
    {digit : Bool} {digits : List Bool} :
    valuation.Gives (name :: names) (digit :: digits) ↔
      valuation name = some digit ∧ valuation.Gives names digits := by
  unfold Gives
  rw [List.map_cons, List.map_cons, List.cons.injEq]

/-- Digit lists that differ at one place give one of the names different values. -/
theorem Gray.OneApart.existsUnique_ne {digits others : List Bool} (h : OneApart digits others)
    {valuation other : Valuation} {names : List String} (hgives : valuation.Gives names digits)
    (hgives' : other.Gives names others) :
    ∃! name, name ∈ names ∧ valuation name ≠ other name := by
  induction h generalizing names with
  | here hne =>
    cases names with
    | nil => cases hgives
    | cons name names =>
      obtain ⟨hname, hrest⟩ := Valuation.gives_cons_iff.mp hgives
      obtain ⟨hname', hrest'⟩ := Valuation.gives_cons_iff.mp hgives'
      refine ⟨name, ⟨List.mem_cons_self, ?_⟩, ?_⟩
      · rw [hname, hname', ne_eq, Option.some.injEq]
        exact hne
      · intro found hfound
        obtain ⟨hmem, hdiffers⟩ := hfound
        rcases List.mem_cons.mp hmem with heq | hmem
        · exact heq
        · exact absurd (hrest.agree hrest' hmem) hdiffers
  | there _ ih =>
    cases names with
    | nil => cases hgives
    | cons name names =>
      obtain ⟨hname, hrest⟩ := Valuation.gives_cons_iff.mp hgives
      obtain ⟨hname', hrest'⟩ := Valuation.gives_cons_iff.mp hgives'
      obtain ⟨found, ⟨hmem, hdiffers⟩, hunique⟩ := ih hrest hrest'
      refine ⟨found, ⟨List.mem_cons_of_mem _ hmem, hdiffers⟩, ?_⟩
      intro found' hfound'
      obtain ⟨hmem', hdiffers'⟩ := hfound'
      rcases List.mem_cons.mp hmem' with heq | hmem'
      · rw [heq, hname, hname'] at hdiffers'
        exact absurd rfl hdiffers'
      · exact hunique found' ⟨hmem', hdiffers'⟩

namespace Karnaugh

/-! ## Agreement -/

/-- The valuation gives the names the digits that the two labels have behind the equals sign. -/
def LabelsSpell (line column : String) (names : List String) (valuation : Valuation) : Prop :=
  names.map valuation = (afterEquals line ++ afterEquals column).map Bits.ofChar?

/-- The labels of two cells spell valuations that differ in exactly one of the names. -/
def OneVariableApart (names : List String) (line column line' column' : String) : Prop :=
  ∀ valuation valuation', LabelsSpell line column names valuation →
    LabelsSpell line' column' names valuation' →
      ∃! name, name ∈ names ∧ valuation name ≠ valuation' name

/-- A map with its labels shows the values of a formula, and neighbours on it differ in one
variable. -/
structure Agrees (grid : Grid) (labels : Labels) (formula : Formula) : Prop where
  height : grid.lines.length = labels.lines.length
  width : grid.width = labels.columns.length
  even : ∀ line ∈ grid.lines, line.length = labels.columns.length
  /-- The labels of every cell spell a valuation of the variables. -/
  spelled : ∀ line ∈ labels.lines, ∀ column ∈ labels.columns,
    ∃ valuation, LabelsSpell line column formula.names valuation
  /-- The entry of every cell is the value of the formula there. -/
  value : ∀ (r c : Nat) (line column : String), labels.lines[r]? = some line →
    labels.columns[c]? = some column →
      ∀ valuation, LabelsSpell line column formula.names valuation →
        ∃ value, formula.eval valuation = .ok value ∧
          entryAt? grid.lines ⟨r, c⟩ = some (Bits.entry value)
  /-- Going round a line, if it has more than one cell. -/
  beside : 1 < labels.columns.length →
    ∀ line ∈ labels.lines, ∀ (c : Nat) (column next : String), labels.columns[c]? = some column →
      labels.columns[(c + 1) % labels.columns.length]? = some next →
        OneVariableApart formula.names line column line next
  /-- Going round a column, if it has more than one cell. -/
  below : 1 < labels.lines.length →
    ∀ column ∈ labels.columns, ∀ (r : Nat) (line next : String), labels.lines[r]? = some line →
      labels.lines[(r + 1) % labels.lines.length]? = some next →
        OneVariableApart formula.names line column next column

theorem labelsSpell_iff {line column : String} {lineDigits columnDigits : List Bool}
    (hline : afterEquals line = lineDigits.map Bits.char)
    (hcolumn : afterEquals column = columnDigits.map Bits.char) {names : List String}
    {valuation : Valuation} :
    LabelsSpell line column names valuation ↔
      valuation.Gives names (lineDigits ++ columnDigits) := by
  unfold LabelsSpell
  rw [hline, hcolumn, ← List.map_append, Bits.map_ofChar?]
  rfl

/-- Labels whose digits are one place apart spell valuations that are one variable apart. -/
theorem oneVariableApart {names : List String} {line column line' column' : String}
    {lineDigits columnDigits lineDigits' columnDigits' : List Bool}
    (hline : afterEquals line = lineDigits.map Bits.char)
    (hcolumn : afterEquals column = columnDigits.map Bits.char)
    (hline' : afterEquals line' = lineDigits'.map Bits.char)
    (hcolumn' : afterEquals column' = columnDigits'.map Bits.char)
    (h : Gray.OneApart (lineDigits ++ columnDigits) (lineDigits' ++ columnDigits')) :
    OneVariableApart names line column line' column' := by
  intro valuation valuation' hspells hspells'
  exact h.existsUnique_ne ((labelsSpell_iff hline hcolumn).mp hspells)
    ((labelsSpell_iff hline' hcolumn').mp hspells')

/-! ## The table of a formula -/

theorem not_mem_upperString (letter : Letter) :
    '=' ∉ (Text.upperString letter.name).toList := by
  cases letter <;> decide +kernel

section Formula

variable {formula : Formula}

theorem not_mem_names (text : String) (h : formula.OverLetters) :
    ∀ name ∈ (formula.table text).names, '=' ∉ name.toList := by
  intro name hname
  obtain ⟨letter, hletter⟩ := Formula.exists_letter_of_mem_upper h hname
  rw [hletter]
  exact not_mem_upperString letter

/-- The map of a formula's table has the value of the formula for the digits of a row in the cell of
the row. -/
theorem mapOf_table (text : String) (harity : formula.names.length ≤ 4) :
    ∃ grid, mapOf (formula.table text) = .ok grid ∧
      grid.width = 2 ^ columnBits formula.names.length ∧
      Size.Fits ⟨2 ^ lineBits formula.names.length, 2 ^ columnBits formula.names.length⟩
        grid.lines ∧
      ∀ k < 2 ^ formula.names.length, entryAt? grid.lines (cellAt formula.names.length k) =
        some (Bits.entry (formula.rowValue formula.names k)) := by
  have hlength := formula.length_names_table text
  have hbytes : ∀ result ∈ (List.range (2 ^ formula.names.length)).map
      (fun k => Bits.entry (formula.rowValue formula.names k)), fitsByte result = true := by
    intro result hresult
    obtain ⟨k, _, heq⟩ := List.mem_map.mp hresult
    rw [← heq]
    cases formula.rowValue formula.names k <;> rfl
  obtain ⟨grid, hgrid, hwidth, hfits, hentries⟩ := mapOf_eq_ok (by rw [hlength]; exact harity)
    (formula.resultColumn_table text) (by simp [hlength]) hbytes
  rw [hlength] at hwidth hfits hentries
  refine ⟨grid, hgrid, hwidth, hfits, fun k hk => ?_⟩
  rw [hentries k hk, List.getElem?_map, List.getElem?_range hk]
  rfl

/-- The map and the labels of the table of a formula over letters agree with the formula. -/
theorem agrees_table (text : String) (h : formula.OverLetters) :
    ∃ grid, mapOf (formula.table text) = .ok grid ∧
      Agrees grid (labelsOf (formula.table text)) formula := by
  obtain ⟨grid, hgrid, hwidth, ⟨hheight, heven⟩, hentries⟩ :=
    mapOf_table text (Formula.length_names_le h)
  have hnames := not_mem_names text h
  have hlines : (labelsOf (formula.table text)).lines.length =
      2 ^ lineBits formula.names.length := by
    rw [length_lines, Formula.length_names_table]
  have hcolumns : (labelsOf (formula.table text)).columns.length =
      2 ^ columnBits formula.names.length := by
    rw [length_columns, Formula.length_names_table]
  refine ⟨grid, hgrid, ?_⟩
  constructor
  case height => rw [hheight, hlines]
  case width => rw [hwidth, hcolumns]
  case even =>
    intro line hline
    rw [heven line hline, hcolumns]
  case spelled =>
    intro line hline column hcolumn
    obtain ⟨r, hr⟩ := List.mem_iff_getElem?.mp hline
    obtain ⟨c, hc⟩ := List.mem_iff_getElem?.mp hcolumn
    obtain ⟨lineDigits, hlineDigits, hline'⟩ := exists_lineDigits hnames hr
    obtain ⟨columnDigits, hcolumnDigits, hcolumn'⟩ := exists_columnDigits hnames hc
    rw [Formula.length_names_table] at hlineDigits hcolumnDigits
    obtain ⟨k, _, hk, _⟩ := exists_row hlineDigits hcolumnDigits
    refine ⟨Formula.rowValuation formula.names k, (labelsSpell_iff hline' hcolumn').mpr ?_⟩
    rw [← hk]
    exact Formula.gives_rowValuation formula.names_nodup k
  case value =>
    intro r c line column hr hc valuation hspells
    obtain ⟨lineDigits, hlineDigits, hline'⟩ := exists_lineDigits hnames hr
    obtain ⟨columnDigits, hcolumnDigits, hcolumn'⟩ := exists_columnDigits hnames hc
    rw [Formula.length_names_table] at hlineDigits hcolumnDigits
    obtain ⟨k, hlt, hk, hcell⟩ := exists_row hlineDigits hcolumnDigits
    rw [labelsSpell_iff hline' hcolumn', ← hk] at hspells
    refine ⟨formula.rowValue formula.names k, ?_, ?_⟩
    · exact Formula.eval_of_gives formula.names_nodup Formula.leaf_mem_names hspells
    · rw [← hcell]
      exact hentries k hlt
  case beside =>
    intro hmany line hline c column next hc hnext
    obtain ⟨r, hr⟩ := List.mem_iff_getElem?.mp hline
    obtain ⟨lineDigits, _, hline'⟩ := exists_lineDigits hnames hr
    obtain ⟨columnDigits, hcolumnDigits, hcolumn'⟩ := exists_columnDigits hnames hc
    obtain ⟨nextDigits, hnextDigits, hnext'⟩ := exists_columnDigits hnames hnext
    rw [Formula.length_names_table] at hcolumnDigits hnextDigits
    rw [hcolumns] at hnextDigits hmany
    have hapart := Gray.oneApart_of_next hmany hcolumnDigits hnextDigits
    exact oneVariableApart hline' hcolumn' hline' hnext' (hapart.append_left lineDigits)
  case below =>
    intro hmany column hcolumn r line next hr hnext
    obtain ⟨c, hc⟩ := List.mem_iff_getElem?.mp hcolumn
    obtain ⟨columnDigits, _, hcolumn'⟩ := exists_columnDigits hnames hc
    obtain ⟨lineDigits, hlineDigits, hline'⟩ := exists_lineDigits hnames hr
    obtain ⟨nextDigits, hnextDigits, hnext'⟩ := exists_lineDigits hnames hnext
    rw [Formula.length_names_table] at hlineDigits hnextDigits
    rw [hlines] at hnextDigits hmany
    have hapart := Gray.oneApart_of_next hmany hlineDigits hnextDigits
    exact oneVariableApart hline' hcolumn' hnext' hcolumn' (hapart.append_right columnDigits)

end Formula

/-- For every text that has a table, the map of the table, its labels and the formula agree. -/
theorem agrees_of_ofText {input : Option String} {table : TruthTable}
    (h : (Build.ofText input).outcome = .ok table) :
    ∃ text formula grid, input = some text ∧ Formula.ofTyped text = .ok formula ∧
      mapOf table = .ok grid ∧ Agrees grid (labelsOf table) formula := by
  obtain ⟨text, formula, hinput, hread, htable⟩ := Build.ofText_eq_ok h
  obtain ⟨grid, hgrid, hagrees⟩ := agrees_table text (overLetters_of_ofTyped hread)
  subst htable
  exact ⟨text, formula, grid, hinput, hread, hgrid, hagrees⟩

/-- On the map of `a & (b | c)` the first variable selects the line. -/
theorem agrees_of_conjunction :
    (Build.ofText (some "a & (b | c)")).outcome =
      .ok ⟨"a & (b | c)", ["A", "B", "C"], [[0, 0, 0, 0], [0, 0, 1, 0], [0, 1, 0, 0],
        [0, 1, 1, 0], [1, 0, 0, 0], [1, 0, 1, 1], [1, 1, 0, 1], [1, 1, 1, 1]]⟩ ∧
    Agrees ⟨4, [[0, 0, 0, 0], [0, 1, 1, 1]]⟩
      ⟨["A=0", "A=1"], ["BC=00", "BC=01", "BC=11", "BC=10"]⟩
      (.bin .and (.var "a") (.bin .or (.var "b") (.var "c"))) := by
  have hbuilt : (Build.ofText (some "a & (b | c)")).outcome =
      .ok ⟨"a & (b | c)", ["A", "B", "C"], [[0, 0, 0, 0], [0, 0, 1, 0], [0, 1, 0, 0],
        [0, 1, 1, 0], [1, 0, 0, 0], [1, 0, 1, 1], [1, 1, 0, 1], [1, 1, 1, 1]]⟩ := by
    with_unfolding_all rfl
  have hread : Formula.ofTyped "a & (b | c)" =
      .ok (.bin .and (.var "a") (.bin .or (.var "b") (.var "c"))) := by
    rfl
  obtain ⟨text, formula, grid, hinput, hformula, hgrid, hagrees⟩ := agrees_of_ofText hbuilt
  cases hinput
  rw [hread] at hformula
  cases hformula
  cases hgrid
  exact ⟨hbuilt, hagrees⟩

end Karnaugh

end Propositional
