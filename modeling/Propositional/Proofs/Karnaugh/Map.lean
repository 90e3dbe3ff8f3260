import Propositional.Karnaugh.Map
import Propositional.Proofs.Karnaugh.Gray

/-!
# The cells of a Karnaugh map

The two groups of lemmas are about the layout and about filling the map.

* `cellAt` gives different rows of the table different cells (`cellAt_injective`), and every place
  of the map is the cell of a row, whose digits are those that the two axes have there
  (`exists_row`).
* Putting one entry changes its cell and no other (`entryAt?_put`).  `putFrom_cons` and
  `putFrom_of_le` say what one result does.  Hence, by induction along the result column, a filled
  map has the result of each row in the row's cell (`mapOf_eq_ok`).
-/

namespace Propositional.Karnaugh

/-! ## Layout -/

theorem lineBits_add_columnBits (arity : Nat) : lineBits arity + columnBits arity = arity := by
  unfold columnBits lineBits
  omega

theorem sizeFor_eq_ok {arity : Nat} (h : arity ≤ 4) :
    sizeFor arity = .ok ⟨2 ^ lineBits arity, 2 ^ columnBits arity⟩ := by
  unfold sizeFor
  rw [if_pos (by omega), Bits.count_eq, Bits.count_eq]
  rfl

theorem sizeFor_eq_error {arity : Nat} (h : 4 < arity) : sizeFor arity = .error .unavailable := by
  unfold sizeFor
  rw [if_neg (by omega)]

theorem cellAt_eq (arity index : Nat) :
    cellAt arity index =
      ⟨Gray.rank (lineBits arity) (index / 2 ^ columnBits arity),
        Gray.rank (columnBits arity) (index % 2 ^ columnBits arity)⟩ := by
  unfold cellAt
  rw [Bits.count_eq]

/-- The number of a row's line is small enough. -/
theorem div_lt {arity index : Nat} (h : index < 2 ^ arity) :
    index / 2 ^ columnBits arity < 2 ^ lineBits arity := by
  refine Nat.div_lt_of_lt_mul ?_
  rw [← Nat.pow_add, Nat.add_comm, lineBits_add_columnBits]
  exact h

theorem cellAt_line_lt (arity index : Nat) : (cellAt arity index).line < 2 ^ lineBits arity :=
  Gray.rank_lt _ _

theorem cellAt_column_lt (arity index : Nat) :
    (cellAt arity index).column < 2 ^ columnBits arity :=
  Gray.rank_lt _ _

/-- Up to four variables, there is a cell for each number of that many digits, and for no other. -/
theorem cellFor_eq {arity : Nat} (harity : arity ≤ 4) (index : Nat) :
    cellFor arity index =
      if index < 2 ^ arity then .ok (cellAt arity index)
      else .error (.noSuchRow index arity) := by
  have hcells : 2 ^ lineBits arity * 2 ^ columnBits arity = 2 ^ arity := by
    rw [← Nat.pow_add, lineBits_add_columnBits]
  have hinside : ((0 : Int) ≤ index ∧ (index : Int) <
      ((2 ^ lineBits arity : Nat) : Int) * ((2 ^ columnBits arity : Nat) : Int)) ↔
        index < 2 ^ arity := by
    rw [← Int.natCast_mul, hcells]
    omega
  unfold cellFor
  rw [sizeFor_eq_ok harity]
  show (if _ then _ else _) = _
  simp only [hinside]
  rfl

theorem cellFor_eq_ok {arity index : Nat} (harity : arity ≤ 4) (hindex : index < 2 ^ arity) :
    cellFor arity index = .ok (cellAt arity index) := by
  rw [cellFor_eq harity, if_pos hindex]

/-- Different rows have different cells. -/
theorem cellAt_injective {arity index other : Nat} (hindex : index < 2 ^ arity)
    (hother : other < 2 ^ arity) (h : cellAt arity index = cellAt arity other) : index = other := by
  rw [cellAt_eq, cellAt_eq, Cell.mk.injEq] at h
  have hpos : 0 < 2 ^ columnBits arity := Nat.two_pow_pos _
  have hline := Gray.rank_injective (div_lt hindex) (div_lt hother) h.1
  have hcolumn := Gray.rank_injective (Nat.mod_lt _ hpos) (Nat.mod_lt _ hpos) h.2
  rw [← Nat.div_add_mod index (2 ^ columnBits arity), hline, hcolumn, Nat.div_add_mod]

/-- Every place of the map is the cell of a row, which has the digits of the line and of the
column. -/
theorem exists_row {arity line column : Nat} {lineDigits columnDigits : List Bool}
    (hline : (Gray.code (lineBits arity))[line]? = some lineDigits)
    (hcolumn : (Gray.code (columnBits arity))[column]? = some columnDigits) :
    ∃ index < 2 ^ arity, Bits.ofNat arity index = lineDigits ++ columnDigits ∧
      cellAt arity index = ⟨line, column⟩ := by
  have hlineLength := Gray.mem_code.mp (List.mem_of_getElem? hline)
  have hcolumnLength := Gray.mem_code.mp (List.mem_of_getElem? hcolumn)
  have hlength : (lineDigits ++ columnDigits).length = arity := by
    rw [List.length_append, hlineLength, hcolumnLength, lineBits_add_columnBits]
  have hdigits : Bits.ofNat arity (Bits.value (lineDigits ++ columnDigits)) =
      lineDigits ++ columnDigits := by
    have hvalue := Bits.ofNat_value (lineDigits ++ columnDigits)
    rw [hlength] at hvalue
    exact hvalue
  have hlt : Bits.value (lineDigits ++ columnDigits) < 2 ^ arity := by
    have hvalue := Bits.value_lt (lineDigits ++ columnDigits)
    rw [hlength] at hvalue
    exact hvalue
  refine ⟨Bits.value (lineDigits ++ columnDigits), hlt, hdigits, ?_⟩
  have hsplit := hdigits
  rw [← lineBits_add_columnBits arity, Bits.ofNat_append] at hsplit
  obtain ⟨hhigh, hlow⟩ := List.append_inj hsplit (by rw [Bits.length_ofNat, hlineLength])
  rw [← hhigh] at hline
  rw [← hlow] at hcolumn
  rw [cellAt_eq, Gray.rank_eq hline, Gray.rank_eq hcolumn]

/-- Every cell of the map is the cell of a row. -/
theorem exists_cellAt {arity : Nat} {cell : Cell} (hline : cell.line < 2 ^ lineBits arity)
    (hcolumn : cell.column < 2 ^ columnBits arity) :
    ∃ k < 2 ^ arity, cellAt arity k = cell := by
  rw [← Gray.length_code] at hline hcolumn
  obtain ⟨k, hk, _, hcell⟩ :=
    exists_row (List.getElem?_eq_getElem hline) (List.getElem?_eq_getElem hcolumn)
  exact ⟨k, hk, hcell⟩

/-! ## Filling -/

/-- The entry of a cell, if the lines have the cell. -/
def entryAt? (lines : List (List Int)) (cell : Cell) : Option Int :=
  lines[cell.line]?.bind (·[cell.column]?)

/-- The lines are as many and as long as the size says. -/
def Size.Fits (size : Size) (lines : List (List Int)) : Prop :=
  lines.length = size.lines ∧ ∀ line ∈ lines, line.length = size.columns

theorem Size.zeros_fits (size : Size) : size.Fits size.zeros := by
  refine ⟨List.length_replicate, fun line hline => ?_⟩
  rw [List.eq_of_mem_replicate hline, List.length_replicate]

/-- Lines of a size have all cells of that size. -/
theorem Size.Fits.entryAt?_isSome {size : Size} {lines : List (List Int)} (h : size.Fits lines)
    {cell : Cell} (hline : cell.line < size.lines) (hcolumn : cell.column < size.columns) :
    (entryAt? lines cell).isSome := by
  obtain ⟨hheight, hwidth⟩ := h
  have hlt : cell.line < lines.length := by omega
  have hlt' : cell.column < lines[cell.line].length := by
    rw [hwidth _ (List.getElem_mem hlt)]
    exact hcolumn
  simp [entryAt?, hlt, hlt']

/-- Lines of a size have no other cells. -/
theorem Size.Fits.inside_of_entryAt? {size : Size} {lines : List (List Int)} (h : size.Fits lines)
    {cell : Cell} {entry : Int} (hentry : entryAt? lines cell = some entry) :
    cell.line < size.lines ∧ cell.column < size.columns := by
  obtain ⟨hheight, hwidth⟩ := h
  obtain ⟨line, hline, hcolumn⟩ := Option.bind_eq_some_iff.mp hentry
  obtain ⟨hlt, _⟩ := List.getElem?_eq_some_iff.mp hline
  obtain ⟨hlt', _⟩ := List.getElem?_eq_some_iff.mp hcolumn
  rw [hheight] at hlt
  rw [hwidth line (List.mem_of_getElem? hline)] at hlt'
  exact ⟨hlt, hlt'⟩

theorem Size.entryAt?_zeros {size : Size} {cell : Cell} {entry : Int}
    (h : entryAt? size.zeros cell = some entry) : entry = 0 := by
  unfold entryAt? at h
  obtain ⟨line, hline, hentry⟩ := Option.bind_eq_some_iff.mp h
  have hzeros := List.eq_of_mem_replicate (List.mem_of_getElem? hline)
  subst hzeros
  exact List.eq_of_mem_replicate (List.mem_of_getElem? hentry)

/-- A map of zeros has a zero in the cell of every row. -/
theorem entryAt?_zeros_cellAt (arity k : Nat) :
    entryAt? (Size.zeros ⟨2 ^ lineBits arity, 2 ^ columnBits arity⟩) (cellAt arity k) = some 0 := by
  have hcell := (Size.zeros_fits ⟨2 ^ lineBits arity, 2 ^ columnBits arity⟩).entryAt?_isSome
    (cellAt_line_lt arity k) (cellAt_column_lt arity k)
  obtain ⟨entry, hentry⟩ := Option.isSome_iff_exists.mp hcell
  rw [hentry, Size.entryAt?_zeros hentry]

/-- Putting an entry leaves all other cells as they are. -/
theorem entryAt?_put (cell other : Cell) (entry : Int) (lines : List (List Int)) :
    entryAt? (put cell entry lines) other =
      (entryAt? lines other).map fun old => if other = cell then entry else old := by
  obtain ⟨line, column⟩ := cell
  obtain ⟨line', column'⟩ := other
  simp only [entryAt?, put, List.getElem?_modify, Cell.mk.injEq]
  by_cases hline : line = line'
  · subst hline
    cases lines[line]? with
    | none => rfl
    | some entries =>
      by_cases hcolumn : column = column'
      · subst hcolumn
        by_cases hlt : column < entries.length <;> simp [hlt]
      · have hne : ¬ column' = column := fun heq => hcolumn heq.symm
        simp [hcolumn, hne]
  · have hne : ¬ line' = line := fun heq => hline heq.symm
    simp [hline, hne]

theorem put_fits {size : Size} {lines : List (List Int)} (h : size.Fits lines) (cell : Cell)
    (entry : Int) : size.Fits (put cell entry lines) := by
  obtain ⟨hheight, hwidth⟩ := h
  refine ⟨?_, fun line hline => ?_⟩
  · rw [put, List.length_modify]
    exact hheight
  · obtain ⟨i, hi⟩ := List.mem_iff_getElem?.mp hline
    rw [put, List.getElem?_modify] at hi
    obtain ⟨old, hold, heq⟩ := Option.map_eq_some_iff.mp hi
    have hlength := hwidth old (List.mem_of_getElem? hold)
    rw [← heq]
    split
    · rw [List.length_set, hlength]
    · exact hlength

/-- A result goes to the cell of its row if it fits into a signed byte. -/
theorem putFrom_cons {arity index : Nat} (harity : arity ≤ 4) (hindex : index < 2 ^ arity)
    (result : Int) (rest : List Int) (lines : List (List Int)) :
    putFrom arity index (result :: rest) lines =
      if fitsByte result then putFrom arity (index + 1) rest (put (cellAt arity index) result lines)
      else .error .entryRange := by
  rw [putFrom, cellFor_eq_ok harity hindex]
  rfl

/-- For the results of rows that the map has no cells for it does not matter what they are. -/
theorem putFrom_of_le {arity index : Nat} (harity : arity ≤ 4) (hindex : 2 ^ arity ≤ index)
    (result : Int) (rest : List Int) (lines : List (List Int)) :
    putFrom arity index (result :: rest) lines = .error (.noSuchRow index arity) := by
  rw [putFrom, cellFor_eq harity, if_neg (Nat.not_lt.mpr hindex)]
  rfl

/-- Each result goes to the cell of its row, and the cells of other rows stay as they are. -/
theorem putFrom_eq_ok {arity : Nat} (harity : arity ≤ 4) {size : Size} {results : List Int} :
    ∀ {index : Nat} {lines : List (List Int)}, index + results.length ≤ 2 ^ arity →
      (∀ result ∈ results, fitsByte result = true) → size.Fits lines →
      ∃ filled, putFrom arity index results lines = .ok filled ∧ size.Fits filled ∧
        ∀ k < 2 ^ arity, entryAt? filled (cellAt arity k) =
          (entryAt? lines (cellAt arity k)).map fun old =>
            if index ≤ k then results[k - index]?.getD old else old := by
  induction results with
  | nil =>
    intro index lines _ _ hfits
    refine ⟨lines, rfl, hfits, fun k _ => ?_⟩
    simp
  | cons result rest ih =>
    intro index lines hlength hbytes hfits
    rw [List.length_cons] at hlength
    have hindex : index < 2 ^ arity := by omega
    have hbyte := hbytes result List.mem_cons_self
    have hrest := fun other hother => hbytes other (List.mem_cons_of_mem _ hother)
    have hnext : index + 1 + rest.length ≤ 2 ^ arity := by omega
    have hstep := put_fits hfits (cellAt arity index) result
    obtain ⟨filled, hfilled, hfits', hentries⟩ := ih hnext hrest hstep
    refine ⟨filled, ?_, hfits', fun k hk => ?_⟩
    · rw [putFrom_cons harity hindex, if_pos hbyte]
      exact hfilled
    · rw [hentries k hk, entryAt?_put, Option.map_map]
      congr 1
      funext old
      by_cases heq : k = index
      · subst heq
        simp
      · have hne : cellAt arity k ≠ cellAt arity index := fun hcell =>
          heq (cellAt_injective hk hindex hcell)
        by_cases hle : index + 1 ≤ k
        · have hsub : k - index = k - (index + 1) + 1 := by omega
          have hle' : index ≤ k := by omega
          simp [hne, hle, hle', hsub]
        · have hle' : ¬ index ≤ k := by omega
          simp [hne, hle, hle']

/-- With a map for its variables and a result in each row, the map of a table is what putting the
results on a map of zeros gives. -/
theorem mapOf_eq {table : TruthTable} {results : List Int} (harity : table.names.length ≤ 4)
    (hresults : table.resultColumn = .ok results) :
    mapOf table =
      (putFrom table.names.length 0 results (Size.zeros
        ⟨2 ^ lineBits table.names.length, 2 ^ columnBits table.names.length⟩)).map
          (Grid.mk (2 ^ columnBits table.names.length)) := by
  unfold mapOf
  dsimp only
  rw [sizeFor_eq_ok harity, hresults]
  show (do let lines ← putFrom _ 0 results _; return _) = _
  cases putFrom table.names.length 0 results _ <;> rfl

/-- The Karnaugh map of a table has the result of each row in the row's cell, and zero in the cells
of missing rows. -/
theorem mapOf_eq_ok {table : TruthTable} {results : List Int} (harity : table.names.length ≤ 4)
    (hresults : table.resultColumn = .ok results)
    (hlength : results.length ≤ 2 ^ table.names.length)
    (hbytes : ∀ result ∈ results, fitsByte result = true) :
    ∃ grid, mapOf table = .ok grid ∧ grid.width = 2 ^ columnBits table.names.length ∧
      Size.Fits ⟨2 ^ lineBits table.names.length, 2 ^ columnBits table.names.length⟩ grid.lines ∧
      ∀ k < 2 ^ table.names.length,
        entryAt? grid.lines (cellAt table.names.length k) = some (results[k]?.getD 0) := by
  have hzeros := Size.zeros_fits
    ⟨2 ^ lineBits table.names.length, 2 ^ columnBits table.names.length⟩
  have hall : 0 + results.length ≤ 2 ^ table.names.length := by
    rw [Nat.zero_add]
    exact hlength
  obtain ⟨lines, hlines, hfits, hentries⟩ := putFrom_eq_ok harity hall hbytes hzeros
  refine ⟨⟨2 ^ columnBits table.names.length, lines⟩, ?_, rfl, hfits, fun k hk => ?_⟩
  · rw [mapOf_eq harity hresults, hlines]
    rfl
  · rw [hentries k hk, entryAt?_zeros_cellAt, Option.map_some, if_pos (Nat.zero_le k),
      Nat.sub_zero]

end Propositional.Karnaugh
