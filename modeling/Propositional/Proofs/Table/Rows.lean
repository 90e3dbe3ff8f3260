import Propositional.Proofs.Bits
import Propositional.Proofs.Formula.Evaluation
import Propositional.Table.Basic

/-!
# The rows of a table

If every leaf of a formula is among the names, there is a row for each number below `2 ^ n`, where
`n` is the number of names: the digits of the number, then the value of the formula for them
(`tabulate_eq_ok`).  The second half reads the result column and the minterms off rows, which may
also be written by hand.
-/

namespace Propositional

/-! ## Making rows -/

/-- A name has a value if and only if it is in the list. -/
theorem Valuation.isSome_ofList_iff {names : List String} {digits : List Bool}
    (hlength : names.length = digits.length) {name : String} :
    (ofList (names.zip digits) name).isSome ↔ name ∈ names := by
  unfold ofList
  rw [List.lookup_isSome_iff]
  constructor
  · intro h
    obtain ⟨entry, hentry, heq⟩ := h
    rw [beq_iff_eq.mp heq]
    exact (List.of_mem_zip (List.mem_reverse.mp hentry)).1
  · intro hname
    rw [← List.map_fst_zip (Nat.le_of_eq hlength)] at hname
    obtain ⟨entry, hentry, heq⟩ := List.mem_map.mp hname
    exact ⟨entry, List.mem_reverse.mpr hentry, beq_iff_eq.mpr heq.symm⟩

namespace Formula

/-- The value of a formula where the names have the digits of the number. -/
def rowValue (formula : Formula) (names : List String) (number : Nat) : Bool :=
  formula.holds fun name => (rowValuation names number name).getD false

/-- The digits of the number, then the value of the formula. -/
def rowDigits (formula : Formula) (names : List String) (number : Nat) : List Bool :=
  Bits.ofNat names.length number ++ [formula.rowValue names number]

variable {formula : Formula} {names : List String}

theorem rowValuation_isSome_iff (number : Nat) {name : String} :
    (rowValuation names number name).isSome ↔ name ∈ names :=
  Valuation.isSome_ofList_iff (Bits.length_ofNat _ _).symm

theorem eval_rowValuation (h : ∀ leaf ∈ formula.leaves, leaf ∈ names) (number : Nat) :
    formula.eval (rowValuation names number) = .ok (formula.rowValue names number) := by
  exact eval_eq_ok fun leaf hleaf => (rowValuation_isSome_iff number).mpr (h leaf hleaf)

theorem row_eq_ok (h : ∀ leaf ∈ formula.leaves, leaf ∈ names) (number : Nat) :
    formula.row names number = .ok ((formula.rowDigits names number).map Bits.entry) := by
  rw [row, eval_rowValuation h]
  rfl

theorem rowsFrom_eq_ok (h : ∀ leaf ∈ formula.leaves, leaf ∈ names) (count : Nat) :
    ∀ number, formula.rowsFrom names number count =
      .ok ((List.range' number count).map fun k => (formula.rowDigits names k).map Bits.entry) := by
  induction count with
  | zero =>
    intro number
    rfl
  | succ count ih =>
    intro number
    rw [rowsFrom, row_eq_ok h, ih, List.range'_succ, List.map_cons]
    rfl

/-- There is one row for each number that has as many digits as there are names. -/
theorem tabulate_eq_ok (h : ∀ leaf ∈ formula.leaves, leaf ∈ names) :
    formula.tabulate names =
      .ok ((List.range (2 ^ names.length)).map fun k =>
        (formula.rowDigits names k).map Bits.entry) := by
  rw [tabulate, rowsFrom_eq_ok h, Bits.count_eq, List.range_eq_range']

theorem gives_rowValuation (hnodup : names.Nodup) (number : Nat) :
    (rowValuation names number).Gives names (Bits.ofNat names.length number) :=
  Valuation.gives_ofList hnodup (Bits.length_ofNat _ _).symm

/-- The row whose digits a valuation gives to the names ends with the value of the formula. -/
theorem eval_of_gives (hnodup : names.Nodup) (h : ∀ leaf ∈ formula.leaves, leaf ∈ names)
    {valuation : Valuation} {number : Nat}
    (hgives : valuation.Gives names (Bits.ofNat names.length number)) :
    formula.eval valuation = .ok (formula.rowValue names number) := by
  have hrow := gives_rowValuation hnodup number
  rw [← eval_rowValuation h]
  exact eval_congr fun leaf hleaf => hgives.agree hrow (h leaf hleaf)

theorem length_rowDigits (number : Nat) :
    (formula.rowDigits names number).length = names.length + 1 := by
  rw [rowDigits, List.length_append, Bits.length_ofNat, List.length_singleton]

theorem getElem?_rowDigits (number : Nat) {i : Nat} (h : i < names.length) :
    (formula.rowDigits names number)[i]? = some (number.testBit (names.length - 1 - i)) := by
  have hdigit : i < (Bits.ofNat names.length number).length := by
    rw [Bits.length_ofNat]
    exact h
  rw [rowDigits, List.getElem?_append_left hdigit, List.getElem?_eq_getElem hdigit,
    Bits.getElem_ofNat hdigit]

theorem getElem?_rowDigits_result (number : Nat) :
    (formula.rowDigits names number)[names.length]? = some (formula.rowValue names number) := by
  rw [rowDigits, List.getElem?_append_right (Nat.le_of_eq (Bits.length_ofNat _ _)),
    Bits.length_ofNat, Nat.sub_self, List.getElem?_cons_zero]

end Formula

/-! ## Entries -/

theorem Bits.entry_eq_zero_iff {digit : Bool} : entry digit = 0 ↔ digit = false := by
  cases digit <;> decide

theorem Bits.entry_eq_zero_or_one (digit : Bool) : entry digit = 0 ∨ entry digit = 1 := by
  cases digit <;> decide

theorem Bits.entry_injective {digit other : Bool} (h : entry digit = entry other) :
    digit = other := by
  cases digit <;> cases other <;> first | rfl | exact absurd h (by decide)

/-! ## Reading rows -/

namespace TruthTable

theorem resultColumn_eq_ok {table : TruthTable} {results : List Int}
    (h : table.rows.map List.getLast? = results.map some) : table.resultColumn = .ok results := by
  unfold resultColumn
  generalize table.rows = rows at h
  induction rows generalizing results with
  | nil =>
    cases results with
    | nil => rfl
    | cons result results => simp at h
  | cons row rows ih =>
    cases results with
    | nil => simp at h
    | cons result results =>
      simp only [List.map_cons, List.cons.injEq] at h
      rw [List.mapM_cons, ih h.2, rowResult, h.1]
      rfl

/-- A row without entries leaves the table without a result column. -/
theorem resultColumn_eq_error {table : TruthTable} (h : [] ∈ table.rows) :
    table.resultColumn = .error {} := by
  unfold resultColumn
  generalize table.rows = rows at h
  induction rows with
  | nil => exact absurd h List.not_mem_nil
  | cons row rows ih =>
    rw [List.mapM_cons]
    cases hrow : row.getLast? with
    | none =>
      rw [rowResult, hrow]
      rfl
    | some result =>
      have hrest : [] ∈ rows := by
        refine (List.mem_cons.mp h).resolve_left fun heq => ?_
        rw [← heq] at hrow
        cases hrow
      rw [rowResult, hrow, ih hrest]
      rfl

/-- A row among rows that are not empty has a last entry. -/
theorem getLast?_eq_some {rows : List (List Int)} (h : [] ∉ rows) {row : List Int}
    (hrow : row ∈ rows) : row.getLast? = some (row.getLastD 0) := by
  have hne : row ≠ [] := fun hnil => h (hnil ▸ hrow)
  rw [List.getLastD_eq_getLast?, List.getLast?_eq_some_getLast hne, Option.getD_some]

/-- Where no row is empty, the result column has the last entries. -/
theorem resultColumn_of_nonempty {table : TruthTable} (h : [] ∉ table.rows) :
    table.resultColumn = .ok (table.rows.map (·.getLastD 0)) := by
  refine resultColumn_eq_ok ?_
  rw [List.map_map]
  exact List.map_congr_left fun row hrow => getLast?_eq_some h hrow

/-- The minterms are the numbers of the entries that are not zero. -/
theorem mem_nonzeroFrom {index k : Nat} {entries : List Int} :
    k ∈ nonzeroFrom index entries ↔
      ∃ j entry, entries[j]? = some entry ∧ entry ≠ 0 ∧ k = index + j := by
  induction entries generalizing index with
  | nil => simp [nonzeroFrom]
  | cons entry rest ih =>
    have hcases : (∃ j result, (entry :: rest)[j]? = some result ∧ result ≠ 0 ∧ k = index + j) ↔
        (entry ≠ 0 ∧ k = index) ∨ k ∈ nonzeroFrom (index + 1) rest := by
      rw [ih]
      constructor
      · intro h
        obtain ⟨j, result, hresult, hne, hk⟩ := h
        cases j with
        | zero =>
          cases hresult
          exact .inl ⟨hne, hk⟩
        | succ j => exact .inr ⟨j, result, hresult, hne, by omega⟩
      · intro h
        rcases h with ⟨hne, hk⟩ | ⟨j, result, hresult, hne, hk⟩
        · exact ⟨0, entry, rfl, hne, hk⟩
        · exact ⟨j + 1, result, hresult, hne, by omega⟩
    rw [hcases, nonzeroFrom]
    split
    · simp [*]
    · simp [*]

theorem nonzeroFrom_ascending (index : Nat) (entries : List Int) :
    (nonzeroFrom index entries).Pairwise (· < ·) := by
  induction entries generalizing index with
  | nil => exact .nil
  | cons entry rest ih =>
    unfold nonzeroFrom
    split
    · exact ih (index + 1)
    · refine List.pairwise_cons.mpr ⟨?_, ih (index + 1)⟩
      intro k hk
      obtain ⟨j, _, _, _, hj⟩ := mem_nonzeroFrom.mp hk
      omega

end TruthTable

end Propositional
