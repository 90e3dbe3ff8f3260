import Mathlib.Algebra.BigOperators.Group.List.Basic
import Mathlib.Algebra.Ring.Int.Defs
import Propositional.Proofs.Karnaugh.Map
import Propositional.Proofs.Table.Rows

/-!
# Karnaugh maps of tables written by hand

A table that is written by hand may have any number of rows, rows of any length and any integers in
them.  Its map is there exactly if it is `Fillable`, and otherwise the first failure on the way is
reported, in the order in which the program meets them: `FirstFailure` has one rule for each.

* `mapOf_eq_of_split` passes over rows that are put on the map, so a failure is found by looking at
  the first row that is not, and there is one if not all are (`endsSmall_or_stops`).
* `total_putFrom` follows the sum of the cells.  Every result is put where zero stood before, since
  the rows have cells of their own, so the sum grows by the result.
* `mapOf_outcome` is the result; `FilledBy` has what it says of the map.
-/

namespace Propositional

/-- Of entries that are zero or one as many are different from zero as their sum says. -/
theorem TruthTable.length_nonzeroFrom {entries : List Int}
    (h : ∀ entry ∈ entries, entry = 0 ∨ entry = 1) (index : Nat) :
    ((nonzeroFrom index entries).length : Int) = entries.sum := by
  induction entries generalizing index with
  | nil => rfl
  | cons entry rest ih =>
    have hrest := ih (fun other hother => h other (List.mem_cons_of_mem _ hother)) (index + 1)
    rw [nonzeroFrom, List.sum_cons]
    rcases h entry List.mem_cons_self with heq | heq
    · rw [if_pos heq]
      omega
    · rw [if_neg (by omega), List.length_cons]
      omega

namespace Karnaugh

/-! ## The sum of the cells -/

/-- The sum of all entries. -/
def total (lines : List (List Int)) : Int := (lines.map List.sum).sum

theorem total_zeros (size : Size) : total size.zeros = 0 := by
  simp [total, Size.zeros]

/-- Putting an entry changes the sum by what the entry and the old one differ. -/
theorem total_put {cell : Cell} {old : Int} {lines : List (List Int)}
    (h : entryAt? lines cell = some old) (entry : Int) :
    total (put cell entry lines) = total lines - old + entry := by
  obtain ⟨line, hline, hold⟩ := Option.bind_eq_some_iff.mp h
  obtain ⟨hlt, heq⟩ := List.getElem?_eq_some_iff.mp hline
  obtain ⟨hlt', heq'⟩ := List.getElem?_eq_some_iff.mp hold
  have hset : put cell entry lines = lines.set cell.line (line.set cell.column entry) := by
    rw [put, List.modify_eq_set_getElem?, hline]
    rfl
  have hsum : (line.set cell.column entry).sum = line.sum - old + entry := by
    rw [List.sum_set', dif_pos hlt', heq']
    omega
  have hmap : cell.line < (lines.map List.sum).length := by
    rw [List.length_map]
    exact hlt
  rw [hset, total, List.map_set, List.sum_set', dif_pos hmap, List.getElem_map, heq, hsum, total]
  omega

/-- If the cells of all rows still to come hold zero, putting the results adds their sum. -/
theorem total_putFrom {arity : Nat} (harity : arity ≤ 4) {results : List Int} :
    ∀ {index : Nat} {lines filled : List (List Int)},
      putFrom arity index results lines = .ok filled →
      (∀ k < 2 ^ arity, index ≤ k → entryAt? lines (cellAt arity k) = some 0) →
      total filled = total lines + results.sum := by
  induction results with
  | nil =>
    intro index lines filled h _
    cases h
    rw [List.sum_nil, add_zero]
  | cons result rest ih =>
    intro index lines filled h hzero
    by_cases hindex : index < 2 ^ arity
    · rw [putFrom_cons harity hindex] at h
      by_cases hfits : fitsByte result = true
      · rw [if_pos hfits] at h
        have hnext : ∀ k < 2 ^ arity, index + 1 ≤ k →
            entryAt? (put (cellAt arity index) result lines) (cellAt arity k) = some 0 := by
          intro k hk hle
          have hne : cellAt arity k ≠ cellAt arity index := by
            intro hcell
            have heq := cellAt_injective hk hindex hcell
            omega
          rw [entryAt?_put, hzero k hk (by omega), Option.map_some, if_neg hne]
        rw [ih h hnext, total_put (hzero index hindex (Nat.le_refl _)), List.sum_cons]
        omega
      · rw [if_neg hfits] at h
        cases h
    · rw [putFrom_of_le harity (Nat.not_lt.mp hindex)] at h
      cases h

/-- The cells of a map sum up to the sum of the results. -/
theorem total_of_mapOf {table : TruthTable} {results : List Int} {grid : Grid}
    (harity : table.names.length ≤ 4) (hresults : table.resultColumn = .ok results)
    (h : mapOf table = .ok grid) : total grid.lines = results.sum := by
  rw [mapOf_eq harity hresults] at h
  cases hput : putFrom table.names.length 0 results
      (Size.zeros ⟨2 ^ lineBits table.names.length, 2 ^ columnBits table.names.length⟩) with
  | error error =>
    rw [hput] at h
    cases h
  | ok filled =>
    rw [hput] at h
    cases h
    have htotal := total_putFrom harity hput fun k _ _ => entryAt?_zeros_cellAt _ k
    rw [total_zeros, zero_add] at htotal
    exact htotal

/-! ## The way to a failure -/

/-- Results that have cells and fit into signed bytes are put on the map, and the others follow. -/
theorem putFrom_append {arity : Nat} (harity : arity ≤ 4) {earlier : List Int} :
    ∀ {index : Nat}, index + earlier.length ≤ 2 ^ arity →
      (∀ result ∈ earlier, fitsByte result = true) → ∀ (rest : List Int) (lines : List (List Int)),
      ∃ filled, putFrom arity index (earlier ++ rest) lines =
        putFrom arity (index + earlier.length) rest filled := by
  induction earlier with
  | nil =>
    intro index _ _ rest lines
    exact ⟨lines, rfl⟩
  | cons result earlier ih =>
    intro index hlength hfits rest lines
    rw [List.length_cons] at hlength
    have hindex : index < 2 ^ arity := by omega
    have hothers := fun other hother => hfits other (List.mem_cons_of_mem _ hother)
    obtain ⟨filled, hfilled⟩ := ih (show index + 1 + earlier.length ≤ 2 ^ arity by omega) hothers
      rest (put (cellAt arity index) result lines)
    refine ⟨filled, ?_⟩
    rw [List.cons_append, putFrom_cons harity hindex, if_pos (hfits result List.mem_cons_self),
      hfilled, List.length_cons, Nat.add_right_comm, Nat.add_assoc]

/-! ## Tables that have a map -/

/-- The row ends with a number that a signed byte holds. -/
def EndsSmall (row : List Int) : Prop :=
  ∃ entry, row.getLast? = some entry ∧ -128 ≤ entry ∧ entry ≤ 127

/-- The table has a map: there is one for its number of variables, no row is empty, the map has a
cell for every row, and every result is small enough. -/
structure Fillable (table : TruthTable) : Prop where
  arity_le : table.names.length ≤ 4
  nonempty : [] ∉ table.rows
  height_le : table.rows.length ≤ 2 ^ table.names.length
  small : ∀ row ∈ table.rows, EndsSmall row

/-- The first failure on the way to the map of a table. -/
inductive FirstFailure (table : TruthTable) : MapError → Prop where
  /-- The number of variables is judged before any row. -/
  | unavailable (many : 4 < table.names.length) : FirstFailure table .unavailable
  /-- All rows are looked at before any result is put. -/
  | emptyRow (arity_le : table.names.length ≤ 4) (empty : [] ∈ table.rows) :
      FirstFailure table .emptyRow
  /-- The first result that is too large or too small belongs to a row that has a cell. -/
  | entryRange {earlier later row} (arity_le : table.names.length ≤ 4)
      (nonempty : [] ∉ table.rows) (split : table.rows = earlier ++ row :: later)
      (cell : earlier.length < 2 ^ table.names.length)
      (small : ∀ other ∈ earlier, EndsSmall other) (large : ¬ EndsSmall row) :
      FirstFailure table .entryRange
  /-- All rows that have cells are put, and there is another one, whatever its result. -/
  | noSuchRow {earlier later row} (arity_le : table.names.length ≤ 4)
      (nonempty : [] ∉ table.rows) (split : table.rows = earlier ++ row :: later)
      (cells : earlier.length = 2 ^ table.names.length)
      (small : ∀ other ∈ earlier, EndsSmall other) :
      FirstFailure table (.noSuchRow (2 ^ table.names.length : Nat) table.names.length)

/-- The map shows the results of the table. -/
structure FilledBy (grid : Grid) (table : TruthTable) : Prop where
  /-- The map has the size for the number of variables. -/
  size : ∃ size, sizeFor table.names.length = .ok size ∧ grid.width = size.columns ∧
    size.Fits grid.lines
  /-- Different rows have different cells. -/
  apart : ∀ j < table.rows.length, ∀ k < table.rows.length, ∀ cell,
    cellFor table.names.length j = .ok cell → cellFor table.names.length k = .ok cell → j = k
  /-- The cell of each row holds the last entry of the row. -/
  result : ∀ (k : Nat) (row : List Int), table.rows[k]? = some row →
    ∃ cell entry, cellFor table.names.length k = .ok cell ∧ row.getLast? = some entry ∧
      entryAt? grid.lines cell = some entry
  /-- A cell that belongs to no row holds zero. -/
  blank : ∀ cell entry, entryAt? grid.lines cell = some entry →
    (∀ k < table.rows.length, cellFor table.names.length k ≠ .ok cell) → entry = 0
  /-- If all results are zero or one, the cells sum up to the number of minterms. -/
  ones : (∀ row ∈ table.rows, ∀ entry, row.getLast? = some entry → entry = 0 ∨ entry = 1) →
    ∃ indices, table.minterms = .ok indices ∧ total grid.lines = indices.length

section Outcome

variable {table : TruthTable}

/-- Among rows that are not empty, one ends small if its last entry fits into a signed byte. -/
theorem endsSmall_iff {rows : List (List Int)} (hnonempty : [] ∉ rows) {row : List Int}
    (hrow : row ∈ rows) : EndsSmall row ↔ fitsByte (row.getLastD 0) = true := by
  rw [EndsSmall, TruthTable.getLast?_eq_some hnonempty hrow]
  simp [fitsByte]

theorem fitsByte_of_endsSmall {rows part : List (List Int)} (hnonempty : [] ∉ rows)
    (hpart : part ⊆ rows) (h : ∀ row ∈ part, EndsSmall row) :
    ∀ result ∈ part.map (·.getLastD 0), fitsByte result = true := by
  intro result hresult
  obtain ⟨row, hrow, heq⟩ := List.mem_map.mp hresult
  rw [← heq]
  exact (endsSmall_iff hnonempty (hpart hrow)).mp (h row hrow)

/-- If the rows in front of a row have cells and end small, the map is decided from that row on. -/
theorem mapOf_eq_of_split (harity : table.names.length ≤ 4) (hnonempty : [] ∉ table.rows)
    {earlier later : List (List Int)} {row : List Int}
    (hsplit : table.rows = earlier ++ row :: later)
    (hcells : earlier.length ≤ 2 ^ table.names.length)
    (hsmall : ∀ other ∈ earlier, EndsSmall other) :
    ∃ filled, mapOf table =
      (putFrom table.names.length earlier.length
        (row.getLastD 0 :: later.map (·.getLastD 0)) filled).map
          (Grid.mk (2 ^ columnBits table.names.length)) := by
  have hpart : earlier ⊆ table.rows := hsplit ▸ List.subset_append_left _ _
  have hresults : table.rows.map (·.getLastD 0) =
      earlier.map (·.getLastD 0) ++ row.getLastD 0 :: later.map (·.getLastD 0) := by
    rw [hsplit, List.map_append, List.map_cons]
  have hlength : 0 + (earlier.map (·.getLastD 0)).length ≤ 2 ^ table.names.length := by
    rw [Nat.zero_add, List.length_map]
    exact hcells
  obtain ⟨filled, hfilled⟩ := putFrom_append harity hlength
    (fitsByte_of_endsSmall hnonempty hpart hsmall) (row.getLastD 0 :: later.map (·.getLastD 0))
    (Size.zeros ⟨2 ^ lineBits table.names.length, 2 ^ columnBits table.names.length⟩)
  refine ⟨filled, ?_⟩
  rw [mapOf_eq harity (TruthTable.resultColumn_of_nonempty hnonempty), hresults, hfilled,
    Nat.zero_add, List.length_map]

theorem FirstFailure.mapOf_eq {error : MapError} (h : FirstFailure table error) :
    mapOf table = .error error := by
  cases h with
  | unavailable many =>
    unfold mapOf
    dsimp only
    rw [sizeFor_eq_error many]
    rfl
  | emptyRow arity_le empty =>
    unfold mapOf
    dsimp only
    rw [sizeFor_eq_ok arity_le, TruthTable.resultColumn_eq_error empty]
    rfl
  | @entryRange earlier later row arity_le nonempty split cell small large =>
    have hrow : row ∈ table.rows := split ▸ List.mem_append_right _ List.mem_cons_self
    have hlarge := (endsSmall_iff nonempty hrow).not.mp large
    obtain ⟨filled, hfilled⟩ := mapOf_eq_of_split arity_le nonempty split (Nat.le_of_lt cell) small
    rw [hfilled, putFrom_cons arity_le cell, if_neg hlarge]
    rfl
  | noSuchRow arity_le nonempty split cells small =>
    obtain ⟨filled, hfilled⟩ :=
      mapOf_eq_of_split arity_le nonempty split (Nat.le_of_eq cells) small
    rw [hfilled, cells, putFrom_of_le arity_le (Nat.le_refl _)]
    rfl

/-- With a number of cells left, all rows have cells and end small, or there is a first row that
does not. -/
theorem endsSmall_or_stops (cells : Nat) (rows : List (List Int)) :
    (rows.length ≤ cells ∧ ∀ row ∈ rows, EndsSmall row) ∨
      ∃ earlier row later, rows = earlier ++ row :: later ∧
        (∀ other ∈ earlier, EndsSmall other) ∧
        (earlier.length = cells ∨ earlier.length < cells ∧ ¬ EndsSmall row) := by
  induction rows generalizing cells with
  | nil => exact .inl ⟨Nat.zero_le _, List.forall_mem_nil _⟩
  | cons row rest ih =>
    cases cells with
    | zero => exact .inr ⟨[], row, rest, rfl, List.forall_mem_nil _, .inl rfl⟩
    | succ cells =>
      by_cases hrow : EndsSmall row
      case neg =>
        exact .inr ⟨[], row, rest, rfl, List.forall_mem_nil _, .inr ⟨Nat.succ_pos _, hrow⟩⟩
      rcases ih cells with ⟨hlength, hsmall⟩ | ⟨earlier, other, later, hsplit, hsmall, hstop⟩
      · exact .inl ⟨Nat.succ_le_succ hlength, List.forall_mem_cons.mpr ⟨hrow, hsmall⟩⟩
      · refine .inr ⟨row :: earlier, other, later, by rw [hsplit, List.cons_append],
          List.forall_mem_cons.mpr ⟨hrow, hsmall⟩, ?_⟩
        exact hstop.imp (congrArg Nat.succ) fun h => ⟨Nat.succ_lt_succ h.1, h.2⟩

/-- Every table has a map or a first failure. -/
theorem fillable_or_fails (table : TruthTable) :
    Fillable table ∨ ∃ error, FirstFailure table error := by
  by_cases harity : table.names.length ≤ 4
  case neg => exact .inr ⟨_, .unavailable (Nat.lt_of_not_le harity)⟩
  by_cases hempty : [] ∈ table.rows
  case pos => exact .inr ⟨_, .emptyRow harity hempty⟩
  rcases endsSmall_or_stops (2 ^ table.names.length) table.rows with
    ⟨hheight, hsmall⟩ | ⟨earlier, row, later, hsplit, hsmall, hcells | ⟨hcell, hlarge⟩⟩
  · exact .inl ⟨harity, hempty, hheight, hsmall⟩
  · exact .inr ⟨_, .noSuchRow harity hempty hsplit hcells hsmall⟩
  · exact .inr ⟨_, .entryRange harity hempty hsplit hcell hsmall hlarge⟩

theorem Fillable.mapOf_eq (h : Fillable table) :
    ∃ grid, mapOf table = .ok grid ∧ FilledBy grid table := by
  have hresults := TruthTable.resultColumn_of_nonempty h.nonempty
  have hbytes := fitsByte_of_endsSmall h.nonempty (List.Subset.refl _) h.small
  obtain ⟨grid, hgrid, hwidth, hfits, hentries⟩ := mapOf_eq_ok h.arity_le hresults
    (by rw [List.length_map]; exact h.height_le) hbytes
  have hcell : ∀ k < table.rows.length,
      cellFor table.names.length k = .ok (cellAt table.names.length k) := fun k hk =>
    cellFor_eq_ok h.arity_le (Nat.lt_of_lt_of_le hk h.height_le)
  refine ⟨grid, hgrid, ?_⟩
  constructor
  case size => exact ⟨_, sizeFor_eq_ok h.arity_le, hwidth, hfits⟩
  case apart =>
    intro j hj k hk cell hcellj hcellk
    have heq := Eq.trans hcellj hcellk.symm
    rw [hcell j hj, hcell k hk, Except.ok.injEq] at heq
    exact cellAt_injective (Nat.lt_of_lt_of_le hj h.height_le)
      (Nat.lt_of_lt_of_le hk h.height_le) heq
  case result =>
    intro k row hrow
    obtain ⟨hk, _⟩ := List.getElem?_eq_some_iff.mp hrow
    have hlast := TruthTable.getLast?_eq_some h.nonempty (List.mem_of_getElem? hrow)
    refine ⟨_, _, hcell k hk, hlast, ?_⟩
    rw [hentries k (Nat.lt_of_lt_of_le hk h.height_le), List.getElem?_map, hrow]
    rfl
  case blank =>
    intro cell entry hentry hother
    obtain ⟨hline, hcolumn⟩ := hfits.inside_of_entryAt? hentry
    obtain ⟨k, hk, heq⟩ := exists_cellAt hline hcolumn
    have hmissing : table.rows.length ≤ k := by
      by_contra hrow
      exact hother k (Nat.lt_of_not_le hrow) (heq ▸ hcell k (Nat.lt_of_not_le hrow))
    rw [← heq, hentries k hk, List.getElem?_map, List.getElem?_eq_none hmissing] at hentry
    cases hentry
    rfl
  case ones =>
    intro hones
    have hdigits : ∀ entry ∈ table.rows.map (·.getLastD 0), entry = 0 ∨ entry = 1 := by
      intro entry hentry
      obtain ⟨row, hrow, heq⟩ := List.mem_map.mp hentry
      rw [← heq]
      exact hones row hrow _ (TruthTable.getLast?_eq_some h.nonempty hrow)
    refine ⟨TruthTable.nonzeroFrom 0 (table.rows.map (·.getLastD 0)), ?_, ?_⟩
    · rw [TruthTable.minterms, hresults]
      rfl
    · rw [total_of_mapOf h.arity_le hresults hgrid, TruthTable.length_nonzeroFrom hdigits]

end Outcome

/-- A table written by hand has a map exactly if it is fillable, and the map shows the results of
the table.  Otherwise the first failure is reported. -/
theorem mapOf_outcome (table : TruthTable) :
    ((∃ grid, mapOf table = .ok grid) ↔ Fillable table) ∧
    (∀ grid, mapOf table = .ok grid → FilledBy grid table) ∧
    ∀ error, mapOf table = .error error ↔ FirstFailure table error := by
  rcases fillable_or_fails table with h | ⟨error, h⟩
  · obtain ⟨grid, hgrid, hfilled⟩ := h.mapOf_eq
    refine ⟨iff_of_true ⟨grid, hgrid⟩ h, fun grid' hgrid' => ?_, fun error => ?_⟩
    · cases hgrid.symm.trans hgrid'
      exact hfilled
    · refine iff_of_false (fun herror => ?_) fun herror => ?_
      · cases hgrid.symm.trans herror
      · cases hgrid.symm.trans herror.mapOf_eq
  · have herror := h.mapOf_eq
    refine ⟨iff_of_false (fun hmap => ?_) fun hfillable => ?_, fun grid hgrid => ?_,
      fun error' => ⟨fun herror' => ?_, FirstFailure.mapOf_eq⟩⟩
    · obtain ⟨grid, hgrid⟩ := hmap
      cases herror.symm.trans hgrid
    · obtain ⟨grid, hgrid, _⟩ := hfillable.mapOf_eq
      cases herror.symm.trans hgrid
    · cases herror.symm.trans hgrid
    · cases herror.symm.trans herror'
      exact h

/-- The third row has neither a cell nor a small result, and it is the cell that is missed. -/
example : mapOf ⟨"", ["A"], [[0, 1], [7], [1000]]⟩ = .error (.noSuchRow 2 1) := by
  rfl

end Karnaugh

end Propositional
