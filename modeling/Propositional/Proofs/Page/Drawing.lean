import Propositional.Page.Drawing
import Propositional.Proofs.Karnaugh.Agreement
import Propositional.Proofs.Table.Display

/-!
# What is written where on a drawn map

The map of a formula's table can be drawn (`stepsOf_table`), and `mapSteps` has the steps.  A text
of the drawing belongs to a place of it by the coordinates of its point alone: it is written in a
cell (`Step.writesIn`), or it stands beside a line (`Step.headsLine`) or above a column
(`Step.headsColumn`).

* In the cell of each row stand the row's result and its number, and nothing else
  (`filter_writesIn`).
* Beside each line stands its label and nothing else, and likewise above each column
  (`filter_headsLine`, `filter_headsColumn`).
-/

namespace Propositional.Drawing

open Karnaugh

/-! ## The steps -/

/-- The colour of a result. -/
def resultColor (value : Bool) : String := if value then trueColor else falseColor

/-- A result in the middle of its cell, in the colour of its value. -/
def resultText (mode : DisplayMode) (cell : Cell) (value : Bool) : Step :=
  .text (place cell.column 50) (place cell.line 50) (mode.glyph value)
    ⟨resultColor value, 13, some .center, some .center, true, none⟩

/-- The result and the number of a row in the row's cell. -/
def rowSteps (formula : Formula) (mode : DisplayMode) (k : Nat) : List Step :=
  let cell := cellAt formula.names.length k
  [resultText mode cell (formula.rowValue formula.names k), numberStep cell k]

/-- The labels above the columns. -/
def columnSteps (labels : List String) : List Step :=
  labels.mapIdx fun column label => columnLabelStep label column

/-- The labels beside the lines. -/
def lineSteps (labels : List String) : List Step :=
  labels.mapIdx fun line label => lineLabelStep label line

/-- The size of the map of a formula. -/
def mapSize (formula : Formula) : Size :=
  ⟨2 ^ lineBits formula.names.length, 2 ^ columnBits formula.names.length⟩

/-- The steps that draw the map of a formula. -/
def mapSteps (formula : Formula) (mode : DisplayMode) (labels : Labels) : List Step :=
  frameSteps (mapSize formula) ++ columnSteps labels.columns ++ lineSteps labels.lines ++
    (List.range (2 ^ formula.names.length)).flatMap (rowSteps formula mode)

theorem resultStep_ofMode (mode : DisplayMode) (cell : Cell) (bit : Bool) :
    resultStep (.ofMode mode) cell bit = .ok (resultText mode cell bit) := by
  rw [resultStep, ModeName.glyph_ofMode]
  rfl

theorem entry_of_entryAt? {grid : Grid} {cell : Cell} {entry : Int}
    (h : entryAt? grid.lines cell = some entry) : grid.entry cell.line cell.column = entry := by
  obtain ⟨line, hline, hentry⟩ := Option.bind_eq_some_iff.mp h
  rw [Grid.entry, List.getD_eq_getElem?_getD, List.getD_eq_getElem?_getD, hline, Option.getD_some,
    hentry, Option.getD_some]

theorem resultColor_eq_iff {value : Bool} : resultColor value = trueColor ↔ value = true := by
  cases value <;> decide

theorem entry_bne_zero (value : Bool) : (Bits.entry value != 0) = value := by
  cases value <;> rfl

/-- The map of a formula's table is drawn in these steps. -/
theorem stepsOf_table {formula : Formula} (text : String) (mode : DisplayMode)
    (harity : formula.names.length ≤ 4) :
    stepsOf (formula.table text) (.ofMode mode) =
      .ok (mapSteps formula mode (labelsOf (formula.table text))) := by
  obtain ⟨grid, hgrid, _, _, hentries⟩ := mapOf_table text harity
  have hcells : ∀ k ∈ List.range (2 ^ formula.names.length),
      cellSteps (.ofMode mode) formula.names.length grid k = .ok (rowSteps formula mode k) := by
    intro k hk
    have hlt := List.mem_range.mp hk
    rw [cellSteps, cellFor_eq_ok harity hlt]
    show ((resultStep (.ofMode mode) _ _).mapError Failure.mode >>= _) = _
    rw [entry_of_entryAt? (hentries k hlt), entry_bne_zero, resultStep_ofMode]
    rfl
  unfold stepsOf
  rw [Formula.height_table, Formula.length_names_table]
  dsimp only
  rw [sizeFor_eq_ok harity, hgrid]
  show (List.mapM (cellSteps (.ofMode mode) formula.names.length grid) _ >>= _) = _
  rw [mapM_eq_ok hcells]
  rfl

/-! ## Places -/

/-- The length lies in the unit after so many units. -/
def Measure.within (length : Measure) (units : Nat) : Bool :=
  100 * units ≤ length.hundredths && length.hundredths < 100 * units + 100

/-- The length is on the outer side of the origin. -/
def Measure.outside (length : Measure) : Bool := length.hundredths < 0

/-- The step writes a text into the cell. -/
def Step.writesIn (cell : Cell) : Step → Bool
  | .text x y _ _ => x.within cell.column && y.within cell.line
  | _ => false

/-- The step writes a text beside the line, before the first column. -/
def Step.headsLine (line : Nat) : Step → Bool
  | .text x y _ _ => x.outside && y.within line
  | _ => false

/-- The step writes a text above the column, before the first line. -/
def Step.headsColumn (column : Nat) : Step → Bool
  | .text x y _ _ => y.outside && x.within column
  | _ => false

theorem Measure.within_iff {length : Measure} {units : Nat} :
    length.within units = true ↔
      100 * units ≤ length.hundredths ∧ length.hundredths < 100 * units + 100 := by
  rw [within, Bool.and_eq_true, decide_eq_true_eq, decide_eq_true_eq]

theorem hundredths_place (units hundredths : Nat) :
    (place units hundredths).hundredths = 100 * units + hundredths := rfl

theorem within_place {hundredths : Nat} (h : hundredths < 100) (units other : Nat) :
    (place units hundredths).within other = (units == other) := by
  rw [Bool.eq_iff_iff, Measure.within_iff, beq_iff_eq, hundredths_place]
  omega

theorem outside_place (units hundredths : Nat) : (place units hundredths).outside = false := by
  refine decide_eq_false ?_
  rw [hundredths_place]
  omega

theorem within_labelPlace (units : Nat) : labelPlace.within units = false := by
  have hplace : labelPlace.hundredths = -25 := rfl
  rw [Bool.eq_false_iff, ne_eq, Measure.within_iff, hplace]
  omega

/-! ## What stands at a place -/

/-- If only one of several different items has steps of a kind, these are all steps of the kind. -/
theorem filter_flatMap_eq {α : Type} {items : List α} {steps : α → List Step} {kind : Step → Bool}
    (hnodup : items.Nodup) {item : α} (hmem : item ∈ items)
    (hothers : ∀ other ∈ items, other ≠ item → (steps other).filter kind = []) :
    (items.flatMap steps).filter kind = (steps item).filter kind := by
  obtain ⟨before, after, hitems⟩ := List.append_of_mem hmem
  subst hitems
  have hnot : item ∉ before ++ after := (List.nodup_cons.mp (List.nodup_middle.mp hnodup)).1
  have hempty : ∀ other ∈ before ++ after, (steps other).filter kind = [] := by
    intro other hother
    refine hothers other ?_ fun heq => hnot (heq ▸ hother)
    rcases List.mem_append.mp hother with h | h
    · exact List.mem_append_left _ h
    · exact List.mem_append_right _ (List.mem_cons_of_mem _ h)
  have hnone : ∀ part, part ⊆ before ++ after → (part.flatMap steps).filter kind = [] := by
    intro part hpart
    rw [List.filter_flatMap, List.flatMap_eq_nil_iff]
    exact fun other hother => hempty other (hpart hother)
  rw [List.flatMap_append, List.flatMap_cons, List.filter_append, List.filter_append,
    hnone before (List.subset_append_left _ _), hnone after (List.subset_append_right _ _),
    List.nil_append, List.append_nil]

/-- The same for labels, which are told apart by their places. -/
theorem filter_mapIdx_eq {labels : List String} {step : Nat → String → Step} {kind : Step → Bool}
    {index : Nat} {label : String} (hlabel : labels[index]? = some label)
    (hkind : ∀ other text, kind (step other text) = (other == index)) :
    (labels.mapIdx step).filter kind = [step index label] := by
  have hnodup : labels.zipIdx.Nodup := by
    refine List.Nodup.of_map Prod.snd ?_
    rw [List.zipIdx_map_snd]
    exact List.nodup_range'
  have hmem : (label, index) ∈ labels.zipIdx := List.mem_zipIdx_iff_getElem?.mpr hlabel
  have hothers : ∀ other ∈ labels.zipIdx, other ≠ (label, index) →
      [step other.2 other.1].filter kind = [] := by
    intro other hother hne
    have hindex : other.2 ≠ index := by
      intro heq
      have hget := List.mem_zipIdx_iff_getElem?.mp hother
      rw [heq, hlabel] at hget
      exact hne (Prod.ext (Option.some.inj hget).symm heq)
    simp [hkind, hindex]
  rw [List.mapIdx_eq_zipIdx_map, List.map_eq_flatMap, filter_flatMap_eq hnodup hmem hothers]
  simp [hkind]

theorem filter_mapIdx_eq_nil {labels : List String} {step : Nat → String → Step}
    {kind : Step → Bool} (hkind : ∀ index text, kind (step index text) = false) :
    (labels.mapIdx step).filter kind = [] := by
  refine List.filter_eq_nil_iff.mpr fun found hfound => ?_
  obtain ⟨index, _, heq⟩ := List.mem_mapIdx.mp hfound
  rw [← heq, hkind]
  exact Bool.false_ne_true

section Map

variable {formula : Formula} {mode : DisplayMode} {labels : Labels}

theorem filter_mapSteps (kind : Step → Bool) :
    (mapSteps formula mode labels).filter kind =
      (frameSteps (mapSize formula)).filter kind ++ (columnSteps labels.columns).filter kind ++
        (lineSteps labels.lines).filter kind ++
          ((List.range (2 ^ formula.names.length)).flatMap (rowSteps formula mode)).filter kind := by
  rw [mapSteps, List.filter_append, List.filter_append, List.filter_append]

/-- What is drawn for a row stands in the row's cell. -/
theorem writesIn_rowSteps {step : Step} {k : Nat} (h : step ∈ rowSteps formula mode k)
    (cell : Cell) : step.writesIn cell = decide (cellAt formula.names.length k = cell) := by
  have hcell : ∀ found : Cell, (found.column == cell.column && found.line == cell.line) =
      decide (found = cell) := by
    intro found
    cases found
    cases cell
    rw [Bool.eq_iff_iff]
    simp [and_comm]
  simp only [rowSteps, List.mem_cons, List.not_mem_nil, or_false] at h
  rcases h with heq | heq
  · rw [heq, ← hcell]
    simp only [resultText, Step.writesIn, within_place (show 50 < 100 by decide)]
  · rw [heq, ← hcell]
    simp only [numberStep, Step.writesIn, within_place (show 5 < 100 by decide),
      within_place (show 90 < 100 by decide)]

theorem not_heads_rowSteps {step : Step} {k : Nat} (h : step ∈ rowSteps formula mode k)
    (place : Nat) : step.headsLine place = false ∧ step.headsColumn place = false := by
  simp only [rowSteps, List.mem_cons, List.not_mem_nil, or_false] at h
  rcases h with heq | heq
  · rw [heq]
    simp [resultText, Step.headsLine, Step.headsColumn, outside_place]
  · rw [heq]
    simp [numberStep, Step.headsLine, Step.headsColumn, outside_place]

theorem filter_rows_eq_nil {kind : Step → Bool}
    (hkind : ∀ k, ∀ step ∈ rowSteps formula mode k, kind step = false) :
    ((List.range (2 ^ formula.names.length)).flatMap (rowSteps formula mode)).filter kind = [] := by
  refine List.filter_eq_nil_iff.mpr fun step hstep => ?_
  obtain ⟨k, _, hk⟩ := List.mem_flatMap.mp hstep
  rw [hkind k step hk]
  exact Bool.false_ne_true

/-- In the cell of a row stand its result and its number, and nothing else. -/
theorem filter_writesIn {k : Nat} (hk : k < 2 ^ formula.names.length) :
    (mapSteps formula mode labels).filter (·.writesIn (cellAt formula.names.length k)) =
      rowSteps formula mode k := by
  have hcolumns : (columnSteps labels.columns).filter
      (·.writesIn (cellAt formula.names.length k)) = [] :=
    filter_mapIdx_eq_nil fun column _ => by
      simp [columnLabelStep, Step.writesIn, within_labelPlace]
  have hlines : (lineSteps labels.lines).filter
      (·.writesIn (cellAt formula.names.length k)) = [] :=
    filter_mapIdx_eq_nil fun line _ => by
      simp [lineLabelStep, Step.writesIn, within_labelPlace]
  have hrows : ((List.range (2 ^ formula.names.length)).flatMap (rowSteps formula mode)).filter
      (·.writesIn (cellAt formula.names.length k)) = rowSteps formula mode k := by
    rw [filter_flatMap_eq List.nodup_range (List.mem_range.mpr hk)]
    · refine List.filter_eq_self.mpr fun step hstep => ?_
      rw [writesIn_rowSteps hstep, decide_eq_true rfl]
    · intro other hother hne
      refine List.filter_eq_nil_iff.mpr fun step hstep => ?_
      rw [writesIn_rowSteps hstep, decide_eq_true_eq]
      exact fun heq => hne (cellAt_injective (List.mem_range.mp hother) hk heq)
  rw [filter_mapSteps, hcolumns, hlines, hrows]
  rfl

/-- Beside a line stands its label, and nothing else. -/
theorem filter_headsLine {line : Nat} {label : String} (h : labels.lines[line]? = some label) :
    (mapSteps formula mode labels).filter (·.headsLine line) = [lineLabelStep label line] := by
  have hcolumns : (columnSteps labels.columns).filter (·.headsLine line) = [] :=
    filter_mapIdx_eq_nil fun column _ => by
      simp [columnLabelStep, Step.headsLine, within_labelPlace]
  have hlines : (lineSteps labels.lines).filter (·.headsLine line) =
      [lineLabelStep label line] := by
    refine filter_mapIdx_eq h fun other text => ?_
    show (labelPlace.outside && (place other 50).within line) = _
    rw [within_place (by decide)]
    rfl
  rw [filter_mapSteps, hcolumns, hlines,
    filter_rows_eq_nil fun _ _ hstep => (not_heads_rowSteps hstep line).1]
  rfl

/-- Above a column stands its label, and nothing else. -/
theorem filter_headsColumn {column : Nat} {label : String}
    (h : labels.columns[column]? = some label) :
    (mapSteps formula mode labels).filter (·.headsColumn column) =
      [columnLabelStep label column] := by
  have hcolumns : (columnSteps labels.columns).filter (·.headsColumn column) =
      [columnLabelStep label column] := by
    refine filter_mapIdx_eq h fun other text => ?_
    show (labelPlace.outside && (place other 50).within column) = _
    rw [within_place (by decide)]
    rfl
  have hlines : (lineSteps labels.lines).filter (·.headsColumn column) = [] :=
    filter_mapIdx_eq_nil fun line _ => by
      simp [lineLabelStep, Step.headsColumn, within_labelPlace]
  rw [filter_mapSteps, hcolumns, hlines,
    filter_rows_eq_nil fun _ _ hstep => (not_heads_rowSteps hstep column).2]
  rfl

end Map

end Propositional.Drawing
