import Propositional.Proofs.Formula.Names
import Propositional.Proofs.Reader.Exact
import Propositional.Proofs.Table.Rows
import Propositional.Table.Build

/-!
# Built tables are complete

Building a table never fails once the formula has been read: the rows are those of the formula's own
names (`Build.ofFormula_eq`).  `TruthTable.IsTableOf` says what the complete truth table of a
formula is, without reference to how it was made, and `isTableOf_of_ofText` that every table that is
built is one.

The names of a formula that was read are letters, so there are at most four of them, and their order
is still the same in upper case.
-/

namespace Propositional

/-! ## Headings -/

theorem Letter.upperString_lt {letter other : Letter} (h : letter.name < other.name) :
    Text.upperString letter.name < Text.upperString other.name := by
  revert h
  cases letter <;> cases other <;> decide +kernel

namespace Formula

variable {formula : Formula}

theorem leaf_mem_names : ∀ leaf ∈ formula.leaves, leaf ∈ formula.names :=
  fun _ => mem_names.mpr

/-- A formula over letters has at most four variables. -/
theorem length_names_le (h : formula.OverLetters) : formula.names.length ≤ 4 := by
  have hsubset : formula.leaves.toFinset ⊆ (Letter.all.map Letter.name).toFinset := by
    intro leaf hleaf
    obtain ⟨letter, hletter⟩ := h leaf (List.mem_toFinset.mp hleaf)
    rw [hletter, List.mem_toFinset]
    exact List.mem_map_of_mem letter.mem_all
  rw [length_names]
  exact Nat.le_trans (Finset.card_le_card hsubset) (List.toFinset_card_le _)

/-- Letters are in the same order in upper case. -/
theorem upper_names_ascending (h : formula.OverLetters) :
    (formula.names.map Text.upperString).Pairwise (· < ·) := by
  rw [List.pairwise_map]
  refine (names_ascending formula).imp_of_mem fun {name other} hname hother hlt => ?_
  obtain ⟨letter, hletter⟩ := h name (mem_names.mp hname)
  obtain ⟨letter', hletter'⟩ := h other (mem_names.mp hother)
  rw [hletter, hletter'] at hlt ⊢
  exact Letter.upperString_lt hlt

theorem upper_names_nodup (h : formula.OverLetters) :
    (formula.names.map Text.upperString).Nodup :=
  (upper_names_ascending h).nodup

/-- A name in upper case is that of a letter. -/
theorem exists_letter_of_mem_upper (h : formula.OverLetters) {name : String}
    (hname : name ∈ formula.names.map Text.upperString) :
    ∃ letter : Letter, name = Text.upperString letter.name := by
  obtain ⟨leaf, hleaf, hupper⟩ := List.mem_map.mp hname
  obtain ⟨letter, hletter⟩ := h leaf (mem_names.mp hleaf)
  exact ⟨letter, by rw [← hupper, hletter]⟩

/-! ## The table of a formula -/

/-- The table with a row for every assignment to the names of the formula. -/
def table (formula : Formula) (text : String) : TruthTable where
  formula := text
  names := formula.names.map Text.upperString
  rows := (List.range (2 ^ formula.names.length)).map fun k =>
    (formula.rowDigits formula.names k).map Bits.entry

theorem length_names_table (formula : Formula) (text : String) :
    (formula.table text).names.length = formula.names.length :=
  List.length_map _

theorem height_table (formula : Formula) (text : String) :
    (formula.table text).rows.length = 2 ^ (formula.table text).names.length := by
  simp [table]

theorem getElem?_rows {text : String} {k : Nat} {row : List Int} :
    (formula.table text).rows[k]? = some row ↔
      k < 2 ^ formula.names.length ∧
        row = (formula.rowDigits formula.names k).map Bits.entry := by
  unfold table
  by_cases hk : k < 2 ^ formula.names.length
  · simp only [List.getElem?_map, List.getElem?_range hk, Option.map_some, Option.some.injEq, hk,
      true_and]
    exact eq_comm
  · simp [hk]

/-- The result column has the values of the formula. -/
theorem resultColumn_table (text : String) :
    (formula.table text).resultColumn =
      .ok ((List.range (2 ^ formula.names.length)).map fun k =>
        Bits.entry (formula.rowValue formula.names k)) := by
  refine TruthTable.resultColumn_eq_ok ?_
  unfold table
  rw [List.map_map, List.map_map]
  refine List.map_congr_left fun k _ => ?_
  simp [rowDigits]

end Formula

namespace Build

/-- A table is made of every formula, and both lines are logged. -/
theorem ofFormula_eq (text : String) (formula : Formula) :
    ofFormula text formula =
      ⟨.ok (formula.table text),
        [readLine text formula, rowsLine text (formula.table text).rows]⟩ := by
  unfold ofFormula
  rw [Formula.tabulate_eq_ok Formula.leaf_mem_names]
  rfl

theorem outcome_ofFormula (text : String) (formula : Formula) :
    (ofFormula text formula).outcome = .ok (formula.table text) := by
  rw [ofFormula_eq]

/-- A table that is built is the one of the formula that the text is read as. -/
theorem ofText_eq_ok {input : Option String} {table : TruthTable}
    (h : (ofText input).outcome = .ok table) :
    ∃ text formula, input = some text ∧ Formula.ofTyped text = .ok formula ∧
      table = formula.table text := by
  cases input with
  | none => cases h
  | some text =>
    unfold ofText at h
    dsimp only at h
    by_cases hblank : (Text.strip text.toList).isEmpty
    · rw [if_pos hblank] at h
      cases h
    · rw [if_neg hblank] at h
      cases hread : Formula.ofTyped text with
      | error rejection =>
        rw [hread] at h
        cases h
      | ok formula =>
        rw [hread] at h
        refine ⟨text, formula, rfl, hread, ?_⟩
        have htable := Eq.trans h.symm (outcome_ofFormula text formula)
        cases htable
        rfl

end Build

/-! ## Complete tables -/

namespace TruthTable

/-- The row starts with the values of the names under the valuation, in order. -/
def Spells (row : List Int) (names : List String) (valuation : Valuation) : Prop :=
  ∃ digits, valuation.Gives names digits ∧ row.take names.length = digits.map Bits.entry

/-- The table is the complete truth table of the formula. -/
structure IsTableOf (table : TruthTable) (formula : Formula) : Prop where
  /-- The names of the formula are those at its leaves, each once and in order. -/
  occurring : ∀ name, name ∈ formula.names ↔ name ∈ formula.leaves
  occurring_ascending : formula.names.Pairwise (· < ·)
  /-- The table has these names in upper case, and they are still in order. -/
  names_eq : table.names = formula.names.map Text.upperString
  names_ascending : table.names.Pairwise (· < ·)
  arity_eq : table.names.length = formula.leaves.toFinset.card
  arity_le : table.names.length ≤ 4
  height : table.rows.length = 2 ^ table.names.length
  width : ∀ row ∈ table.rows,
    row.length = table.names.length + 1 ∧ ∀ entry ∈ row, entry = 0 ∨ entry = 1
  /-- Each row starts with its own number in binary, the first name most significant. -/
  digits : ∀ (k : Nat) (row : List Int), table.rows[k]? = some row → ∀ i < table.names.length,
    row[i]? = some (Bits.entry (k.testBit (table.names.length - 1 - i)))
  /-- Every assignment to the variables has one row. -/
  assigned : ∀ valuation : Valuation, (∀ leaf ∈ formula.leaves, (valuation leaf).isSome) →
    ∃! k : Nat, ∃ row, table.rows[k]? = some row ∧ Spells row formula.names valuation
  /-- That row ends with the value of the formula. -/
  value : ∀ (valuation : Valuation), ∀ row ∈ table.rows, Spells row formula.names valuation →
    ∃ value, formula.eval valuation = .ok value ∧ row.getLast? = some (Bits.entry value)
  /-- The minterms are the numbers of the rows whose assignment makes the formula true. -/
  minterms : ∃ indices, table.minterms = .ok indices ∧ indices.Pairwise (· < ·) ∧
    ∀ k, k ∈ indices ↔ ∃ row valuation, table.rows[k]? = some row ∧
      Spells row formula.names valuation ∧ formula.eval valuation = .ok true

end TruthTable

namespace Formula

variable {formula : Formula}

theorem take_rowDigits {names : List String} (k : Nat) :
    (formula.rowDigits names k).take names.length = Bits.ofNat names.length k := by
  rw [rowDigits, List.take_left' (Bits.length_ofNat _ _)]

/-- A row spells the valuations that give the names the digits of its number, and no others. -/
theorem spells_row_iff {names : List String} {valuation : Valuation} {k : Nat} :
    TruthTable.Spells ((formula.rowDigits names k).map Bits.entry) names valuation ↔
      valuation.Gives names (Bits.ofNat names.length k) := by
  unfold TruthTable.Spells
  rw [← List.map_take, take_rowDigits]
  constructor
  · intro h
    obtain ⟨digits, hgives, hdigits⟩ := h
    have heq := List.map_injective_iff.mpr (fun _ _ => Bits.entry_injective) hdigits
    rw [heq]
    exact hgives
  · intro h
    exact ⟨_, h, rfl⟩

/-- There is one row for every assignment to the variables. -/
theorem existsUnique_row (text : String) {valuation : Valuation}
    (h : ∀ leaf ∈ formula.leaves, (valuation leaf).isSome) :
    ∃! k : Nat, ∃ row, (formula.table text).rows[k]? = some row ∧
      TruthTable.Spells row formula.names valuation := by
  obtain ⟨digits, hgives⟩ :=
    Valuation.exists_gives fun name hname => h name (mem_names.mp hname)
  have hwidth : formula.names.length = digits.length := hgives.length_eq
  have hvalue : Bits.ofNat formula.names.length (Bits.value digits) = digits := by
    rw [hwidth, Bits.ofNat_value]
  have hlt : Bits.value digits < 2 ^ formula.names.length := by
    rw [hwidth]
    exact Bits.value_lt digits
  have hrow : (formula.table text).rows[Bits.value digits]? =
      some ((formula.rowDigits formula.names (Bits.value digits)).map Bits.entry) :=
    getElem?_rows.mpr ⟨hlt, rfl⟩
  refine ⟨Bits.value digits, ⟨_, hrow, spells_row_iff.mpr ?_⟩, ?_⟩
  · rw [hvalue]
    exact hgives
  · intro k hk
    obtain ⟨row, hrow, hspells⟩ := hk
    obtain ⟨hlt', heq⟩ := getElem?_rows.mp hrow
    rw [heq, spells_row_iff] at hspells
    refine Bits.ofNat_injective hlt' hlt ?_
    rw [hvalue]
    exact hspells.digits_eq hgives

/-- The minterms are the numbers with the value true. -/
theorem minterms_table (text : String) :
    ∃ indices, (formula.table text).minterms = .ok indices ∧ indices.Pairwise (· < ·) ∧
      ∀ k, k ∈ indices ↔
        k < 2 ^ formula.names.length ∧ formula.rowValue formula.names k = true := by
  have hminterms : (formula.table text).minterms =
      .ok (TruthTable.nonzeroFrom 0 ((List.range (2 ^ formula.names.length)).map fun k =>
        Bits.entry (formula.rowValue formula.names k))) := by
    unfold TruthTable.minterms
    rw [resultColumn_table]
    rfl
  refine ⟨_, hminterms, TruthTable.nonzeroFrom_ascending 0 _, fun k => ?_⟩
  rw [TruthTable.mem_nonzeroFrom]
  constructor
  · intro h
    obtain ⟨j, entry, hentry, hne, hk⟩ := h
    rw [Nat.zero_add] at hk
    subst hk
    simp only [List.getElem?_map, Option.map_eq_some_iff, List.getElem?_eq_some_iff,
      List.getElem_range, List.length_range] at hentry
    obtain ⟨number, ⟨hlt, hnumber⟩, hvalue⟩ := hentry
    subst hnumber hvalue
    refine ⟨hlt, ?_⟩
    rw [ne_eq, Bits.entry_eq_zero_iff, Bool.not_eq_false] at hne
    exact hne
  · intro h
    obtain ⟨hlt, hvalue⟩ := h
    refine ⟨k, Bits.entry true, ?_, by decide, (Nat.zero_add k).symm⟩
    rw [List.getElem?_map, List.getElem?_range hlt, Option.map_some, hvalue]

/-- The table of a formula over letters is complete. -/
theorem isTableOf_table (text : String) (h : formula.OverLetters) :
    (formula.table text).IsTableOf formula := by
  have harity := formula.length_names_table text
  constructor
  case occurring => exact fun _ => mem_names
  case occurring_ascending => exact formula.names_ascending
  case names_eq => rfl
  case names_ascending => exact upper_names_ascending h
  case arity_eq => rw [harity, length_names]
  case arity_le =>
    rw [harity]
    exact length_names_le h
  case height =>
    rw [harity]
    unfold table
    rw [List.length_map, List.length_range]
  case width =>
    intro row hrow
    obtain ⟨k, hk⟩ := List.mem_iff_getElem?.mp hrow
    obtain ⟨_, heq⟩ := getElem?_rows.mp hk
    rw [heq, List.length_map, length_rowDigits, harity]
    refine ⟨rfl, fun entry hentry => ?_⟩
    obtain ⟨digit, _, hdigit⟩ := List.mem_map.mp hentry
    rw [← hdigit]
    exact Bits.entry_eq_zero_or_one digit
  case digits =>
    intro k row hrow i hi
    obtain ⟨_, heq⟩ := getElem?_rows.mp hrow
    rw [harity] at hi ⊢
    rw [heq, List.getElem?_map, getElem?_rowDigits k hi, Option.map_some]
  case assigned =>
    intro valuation hvaluation
    exact existsUnique_row text hvaluation
  case value =>
    intro valuation row hrow hspells
    obtain ⟨k, hk⟩ := List.mem_iff_getElem?.mp hrow
    obtain ⟨_, heq⟩ := getElem?_rows.mp hk
    rw [heq] at hspells ⊢
    refine ⟨formula.rowValue formula.names k, ?_, ?_⟩
    · exact eval_of_gives formula.names_nodup leaf_mem_names (spells_row_iff.mp hspells)
    · simp [rowDigits]
  case minterms =>
    obtain ⟨indices, hindices, hascending, hmem⟩ := formula.minterms_table text
    refine ⟨indices, hindices, hascending, fun k => ?_⟩
    rw [hmem]
    constructor
    · intro hk
      obtain ⟨hlt, hvalue⟩ := hk
      refine ⟨_, rowValuation formula.names k, getElem?_rows.mpr ⟨hlt, rfl⟩,
        spells_row_iff.mpr (gives_rowValuation formula.names_nodup k), ?_⟩
      rw [eval_rowValuation leaf_mem_names, hvalue]
    · intro hk
      obtain ⟨row, valuation, hrow, hspells, heval⟩ := hk
      obtain ⟨hlt, heq⟩ := getElem?_rows.mp hrow
      rw [heq, spells_row_iff] at hspells
      rw [eval_of_gives formula.names_nodup leaf_mem_names hspells, Except.ok.injEq] at heval
      exact ⟨hlt, heval⟩

end Formula

/-- Every table that is built is the complete truth table of the formula that the text is read
as. -/
theorem isTableOf_of_ofText {input : Option String} {table : TruthTable}
    (h : (Build.ofText input).outcome = .ok table) :
    ∃ text formula, input = some text ∧ Formula.ofTyped text = .ok formula ∧
      table.IsTableOf formula := by
  obtain ⟨text, formula, hinput, hread, htable⟩ := Build.ofText_eq_ok h
  refine ⟨text, formula, hinput, hread, ?_⟩
  rw [htable]
  exact Formula.isTableOf_table text (overLetters_of_ofTyped hread)

/-- The table of `b -> a` has the columns in the order of the letters. -/
theorem isTableOf_of_implication :
    (Build.ofText (some "b -> a")).outcome =
      .ok ⟨"b -> a", ["A", "B"], [[0, 0, 1], [0, 1, 0], [1, 0, 1], [1, 1, 1]]⟩ ∧
    TruthTable.IsTableOf ⟨"b -> a", ["A", "B"], [[0, 0, 1], [0, 1, 0], [1, 0, 1], [1, 1, 1]]⟩
      (.bin .implies (.var "b") (.var "a")) := by
  have hbuilt : (Build.ofText (some "b -> a")).outcome =
      .ok ⟨"b -> a", ["A", "B"], [[0, 0, 1], [0, 1, 0], [1, 0, 1], [1, 1, 1]]⟩ := by
    with_unfolding_all rfl
  have hread : Formula.ofTyped "b -> a" = .ok (.bin .implies (.var "b") (.var "a")) := by
    rfl
  obtain ⟨text, formula, hinput, hformula, htable⟩ := isTableOf_of_ofText hbuilt
  cases hinput
  rw [hread] at hformula
  cases hformula
  exact ⟨hbuilt, htable⟩

end Propositional
