import Mathlib.Data.List.Nodup
import Propositional.Proofs.Table.Complete

/-!
# Rows of a larger table

A row of a table gives values to all its names.  The digits for some of these names spell the number
of a row in the table of a formula over these (`Bits.project`), and in that row the formula has the
value that it has in the larger one (`Formula.rowValue_project`).

`TruthTable.JoinOf` and `TruthTable.ComplementOf` say how the table of a compound formula comes from
those of its parts, in terms of the tables alone; `Formula.joinOf_table` and
`Formula.complementOf_table` say that it does.
-/

namespace Propositional

/-! ## Projection -/

/-- The number that the digits for some of the names spell. -/
def Bits.project (names part : List String) (number : Nat) : Nat :=
  value (part.map fun name => number.testBit (names.length - 1 - names.idxOf name))

theorem Bits.project_lt (names part : List String) (number : Nat) :
    project names part number < 2 ^ part.length := by
  have hlt := value_lt (part.map fun name => number.testBit (names.length - 1 - names.idxOf name))
  rw [List.length_map] at hlt
  exact hlt

/-- Names that stay different when they are rewritten keep their places. -/
theorem Bits.idxOf_map {rewrite : String → String} {names : List String}
    (hnodup : (names.map rewrite).Nodup) {name : String} (hname : name ∈ names) :
    (names.map rewrite).idxOf (rewrite name) = names.idxOf name := by
  have hlt : names.idxOf name < (names.map rewrite).length := by
    rw [List.length_map]
    exact List.idxOf_lt_length_of_mem hname
  have hget : (names.map rewrite)[names.idxOf name] = rewrite name := by
    rw [List.getElem_map, List.getElem_idxOf]
  rw [← hget, hnodup.idxOf_getElem]

theorem Bits.project_map {rewrite : String → String} {names part : List String}
    (hnodup : (names.map rewrite).Nodup) (hpart : ∀ name ∈ part, name ∈ names) (number : Nat) :
    project (names.map rewrite) (part.map rewrite) number = project names part number := by
  unfold project
  rw [List.map_map, List.length_map]
  congr 1
  refine List.map_congr_left fun name hname => ?_
  rw [Function.comp_apply, idxOf_map hnodup (hpart name hname)]

namespace Formula

variable {formula left right : Formula} {names part : List String}

theorem rowValuation_eq_some (hnodup : names.Nodup) {name : String} (hname : name ∈ names)
    (number : Nat) :
    rowValuation names number name =
      some (number.testBit (names.length - 1 - names.idxOf name)) := by
  have hlt : names.idxOf name < (names.map (rowValuation names number)).length := by
    rw [List.length_map]
    exact List.idxOf_lt_length_of_mem hname
  have hdigit : names.idxOf name < (Bits.ofNat names.length number).length := by
    rw [Bits.length_ofNat]
    exact List.idxOf_lt_length_of_mem hname
  have hgives : names.map (rowValuation names number) =
      (Bits.ofNat names.length number).map some := gives_rowValuation hnodup number
  have hget : (names.map (rowValuation names number))[names.idxOf name] =
      rowValuation names number name := by
    rw [List.getElem_map, List.getElem_idxOf]
  simp only [← hget, hgives, List.getElem_map, Bits.getElem_ofNat hdigit]

/-- The row gives some of its names the digits of the projected number. -/
theorem gives_project (hnodup : names.Nodup) (hpart : ∀ name ∈ part, name ∈ names)
    (number : Nat) :
    (rowValuation names number).Gives part
      (Bits.ofNat part.length (Bits.project names part number)) := by
  have hdigits : Bits.ofNat part.length (Bits.project names part number) =
      part.map fun name => number.testBit (names.length - 1 - names.idxOf name) := by
    have hvalue := Bits.ofNat_value
      (part.map fun name => number.testBit (names.length - 1 - names.idxOf name))
    rw [List.length_map] at hvalue
    exact hvalue
  unfold Valuation.Gives
  rw [hdigits, List.map_map]
  exact List.map_congr_left fun name hname =>
    rowValuation_eq_some hnodup (hpart name hname) number

/-- A formula has the same value in a row of a larger table and in the row of its own table that the
digits for its names number. -/
theorem rowValue_project (hnodup : names.Nodup) (hleaves : ∀ leaf ∈ formula.leaves, leaf ∈ names)
    (number : Nat) :
    formula.rowValue formula.names (Bits.project names formula.names number) =
      formula.rowValue names number := by
  have hpart : ∀ name ∈ formula.names, name ∈ names :=
    fun name hname => hleaves name (mem_names.mp hname)
  have hown := eval_of_gives formula.names_nodup leaf_mem_names
    (gives_project hnodup hpart number)
  rw [eval_rowValuation hleaves, Except.ok.injEq] at hown
  exact hown.symm

end Formula

/-! ## Tables of compound formulas -/

namespace TruthTable

/-- The row of that number ends with the value. -/
def HasResult (table : TruthTable) (number : Nat) (value : Bool) : Prop :=
  ∃ row, table.rows[number]? = some row ∧ row.getLast? = some (Bits.entry value)

/-- The table has the names of both tables in order, and the result in each row comes by the truth
function from those in the rows which the digits for the names of the two tables number. -/
structure JoinOf (table left right : TruthTable) (connective : Connective) : Prop where
  names_ascending : table.names.Pairwise (· < ·)
  mem_names : ∀ name, name ∈ table.names ↔ name ∈ left.names ∨ name ∈ right.names
  height : table.rows.length = 2 ^ table.names.length
  result : ∀ k < 2 ^ table.names.length, ∃ leftValue rightValue,
    left.HasResult (Bits.project table.names left.names k) leftValue ∧
      right.HasResult (Bits.project table.names right.names k) rightValue ∧
        table.HasResult k (connective.apply leftValue rightValue)

/-- The table has the same names, and the opposite result in each row. -/
structure ComplementOf (table other : TruthTable) : Prop where
  names_eq : table.names = other.names
  height : table.rows.length = 2 ^ table.names.length
  result : ∀ k < 2 ^ table.names.length, ∃ value,
    other.HasResult k value ∧ table.HasResult k (!value)

end TruthTable

namespace Formula

variable {formula left right : Formula}

theorem hasResult_table (text : String) {k : Nat} (hk : k < 2 ^ formula.names.length) :
    (formula.table text).HasResult k (formula.rowValue formula.names k) := by
  refine ⟨_, getElem?_rows.mpr ⟨hk, rfl⟩, ?_⟩
  simp [rowDigits]

/-- A part has its own result in the row that is projected to its own table. -/
theorem hasResult_project (text : String) {names : List String}
    (hupper : (names.map Text.upperString).Nodup) (hleaves : ∀ leaf ∈ formula.leaves, leaf ∈ names)
    (k : Nat) :
    (formula.table text).HasResult
      (Bits.project (names.map Text.upperString) (formula.table text).names k)
      (formula.rowValue names k) := by
  have hpart : ∀ name ∈ formula.names, name ∈ names :=
    fun name hname => hleaves name (mem_names.mp hname)
  have hproject : Bits.project (names.map Text.upperString) (formula.table text).names k =
      Bits.project names formula.names k := Bits.project_map hupper hpart k
  rw [hproject, ← rowValue_project hupper.of_map hleaves]
  exact hasResult_table text (Bits.project_lt _ _ _)

/-- The table of two formulas under a connective comes from those of the two. -/
theorem joinOf_table (connective : Connective) (text first second : String)
    (hleft : left.OverLetters) (hright : right.OverLetters) :
    ((bin connective left right).table text).JoinOf (left.table first) (right.table second)
      connective := by
  have hletters : (bin connective left right).OverLetters := by
    intro leaf hleaf
    rcases List.mem_append.mp hleaf with hmem | hmem
    · exact hleft leaf hmem
    · exact hright leaf hmem
  have hupper := upper_names_nodup hletters
  have hsides : ∀ name, name ∈ (bin connective left right).names ↔
      name ∈ left.names ∨ name ∈ right.names := by
    intro name
    rw [mem_names, mem_names, mem_names, leaves, List.mem_append]
  constructor
  case names_ascending => exact upper_names_ascending hletters
  case mem_names =>
    intro name
    simp only [table, List.mem_map, hsides, or_and_right, exists_or]
  case height => exact height_table _ text
  case result =>
    intro k hk
    rw [length_names_table] at hk
    have hleaves : ∀ leaf ∈ left.leaves, leaf ∈ (bin connective left right).names :=
      fun leaf hleaf => (hsides leaf).mpr (.inl (mem_names.mpr hleaf))
    have hleaves' : ∀ leaf ∈ right.leaves, leaf ∈ (bin connective left right).names :=
      fun leaf hleaf => (hsides leaf).mpr (.inr (mem_names.mpr hleaf))
    exact ⟨_, _, hasResult_project first hupper hleaves k,
      hasResult_project second hupper hleaves' k, hasResult_table text hk⟩

/-- The table of a negation has the opposite results. -/
theorem complementOf_table (text other : String) :
    ((neg formula).table text).ComplementOf (formula.table other) := by
  have hnames : (neg formula).names = formula.names := by
    simp [names, collectNames]
  constructor
  case names_eq => simp [table, hnames]
  case height => exact height_table _ text
  case result =>
    intro k hk
    rw [length_names_table] at hk
    refine ⟨_, hasResult_table other (hnames ▸ hk), ?_⟩
    have hresult := hasResult_table text hk
    rw [hnames] at hresult
    exact hresult

end Formula

end Propositional
