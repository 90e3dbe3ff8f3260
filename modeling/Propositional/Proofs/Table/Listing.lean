import Propositional.Proofs.Formula.Context
import Propositional.Proofs.Table.Rows

/-!
# Rows for any list of names

Rows may be made for any names in any order, and a name may stand in the list more than once.  Each
place of the list has its own digit in a row, and the value of the formula is the one for the
assignment in which the last place of a name counts.

* `Valuation.GivesLast` is that assignment, said without the list of entries it is made of.  The
  valuation of a row is one (`givesLast_rowValuation`), and all of them agree on the names
  (`GivesLast.agree`).
* A name that is missing is missing in every row, so the first row already reports it
  (`Formula.tabulate_eq_error`).
* `Formula.Listed` says what the rows are, and `tabulate_lists` that they are made if no leaf of the
  formula is missing, and which leaf is reported otherwise.
-/

namespace Propositional

/-! ## The last place of a name -/

/-- Every name in a list has a last place in it. -/
theorem exists_last_place {names : List String} {name : String} (h : name ∈ names) :
    ∃ i, names[i]? = some name ∧ name ∉ names.drop (i + 1) := by
  induction names with
  | nil => exact absurd h List.not_mem_nil
  | cons first rest ih =>
    by_cases hrest : name ∈ rest
    · obtain ⟨i, hi, hlast⟩ := ih hrest
      exact ⟨i + 1, hi, hlast⟩
    · have hfirst : name = first := (List.mem_cons.mp h).resolve_right hrest
      exact ⟨0, by rw [hfirst]; rfl, hrest⟩

namespace Valuation

/-- Each of the names has the digit at its last place as its value, the digits being those of the
number with the first name most significant. -/
def GivesLast (valuation : Valuation) (names : List String) (number : Nat) : Prop :=
  ∀ (i : Nat) (name : String), names[i]? = some name → name ∉ names.drop (i + 1) →
    valuation name = some (number.testBit (names.length - 1 - i))

theorem ofList_cons (name other : String) (digit : Bool) (entries : List (String × Bool)) :
    ofList ((name, digit) :: entries) other =
      (ofList entries other).or (if other = name then some digit else none) := by
  unfold ofList
  rw [List.reverse_cons, List.lookup_append, List.lookup_cons]
  by_cases h : other = name
  · rw [if_pos h, beq_iff_eq.mpr h]
  · rw [if_neg h, beq_false_of_ne h, List.lookup_nil]

/-- In the valuation of names and digits a name has the digit at its last place. -/
theorem ofList_eq_last {names : List String} {digits : List Bool}
    (hlength : names.length = digits.length) {i : Nat} {name : String} {digit : Bool}
    (hname : names[i]? = some name) (hdigit : digits[i]? = some digit)
    (hlast : name ∉ names.drop (i + 1)) :
    ofList (names.zip digits) name = some digit := by
  induction names generalizing digits i with
  | nil => cases hname
  | cons other rest ih =>
    cases digits with
    | nil => cases hdigit
    | cons digit' digits =>
      have hrest : rest.length = digits.length := Nat.succ.inj hlength
      rw [List.zip_cons_cons, ofList_cons]
      cases i with
      | zero =>
        cases hname
        cases hdigit
        have hnone : ofList (rest.zip digits) name = none := by
          rw [← Option.not_isSome_iff_eq_none, isSome_ofList_iff hrest]
          exact hlast
        rw [hnone, Option.none_or, if_pos rfl]
      | succ i => rw [ih hrest hname hdigit hlast, Option.some_or]

/-- Valuations that give the names the digits of one number agree on them. -/
theorem GivesLast.agree {valuation other : Valuation} {names : List String} {number : Nat}
    (h : valuation.GivesLast names number) (h' : other.GivesLast names number) {name : String}
    (hname : name ∈ names) : valuation name = other name := by
  obtain ⟨i, hi, hlast⟩ := exists_last_place hname
  rw [h i name hi hlast, h' i name hi hlast]

end Valuation

namespace Formula

variable {formula : Formula} {names : List String}

/-- The valuation of a row gives each name the digit at its last place. -/
theorem givesLast_rowValuation (names : List String) (number : Nat) :
    (rowValuation names number).GivesLast names number := by
  intro i name hname hlast
  have hlength : names.length = (Bits.ofNat names.length number).length :=
    (Bits.length_ofNat _ _).symm
  obtain ⟨hi, _⟩ := List.getElem?_eq_some_iff.mp hname
  refine Valuation.ofList_eq_last hlength hname ?_ hlast
  rw [List.getElem?_eq_getElem (hlength ▸ hi), Bits.getElem_ofNat]

/-- Any assignment in which the last places count has the value that the row ends with. -/
theorem eval_of_givesLast (h : ∀ leaf ∈ formula.leaves, leaf ∈ names) {valuation : Valuation}
    {number : Nat} (hgives : valuation.GivesLast names number) :
    formula.eval valuation = .ok (formula.rowValue names number) := by
  have hrow := givesLast_rowValuation names number
  rw [← eval_rowValuation h]
  exact eval_congr fun leaf hleaf => hgives.agree hrow (h leaf hleaf)

/-! ## A missing name -/

/-- In the assignment of a row the names that are missing are those that have no value. -/
theorem rowValuation_eq_none_iff (number : Nat) {name : String} :
    rowValuation names number name = none ↔ name ∉ names := by
  rw [← Option.not_isSome_iff_eq_none, rowValuation_isSome_iff]

/-- The row reports the first leaf without a value. -/
theorem row_eq_error {name : String} {number : Nat}
    (h : FirstMissing (rowValuation names number) formula name) :
    formula.row names number = .error ⟨name⟩ := by
  rw [row, eval_eq_error (find?_eq_some_iff_firstMissing.mpr h)]
  rfl

/-- There is a first row, whatever the number of names, and it reports the leaf. -/
theorem tabulate_eq_error {name : String} (h : FirstMissing (rowValuation names 0) formula name) :
    formula.tabulate names = .error ⟨name⟩ := by
  obtain ⟨count, hcount⟩ := Nat.exists_eq_add_one.mpr (Nat.two_pow_pos names.length)
  rw [tabulate, Bits.count_eq, hcount, rowsFrom, row_eq_error h]
  rfl

/-! ## The rows -/

/-- The rows are those of the formula for the names. -/
structure Listed (formula : Formula) (names : List String) (rows : List (List Int)) : Prop where
  height : rows.length = 2 ^ names.length
  width : ∀ row ∈ rows, row.length = names.length + 1
  /-- Each row starts with its own number in binary, the first name most significant. -/
  digits : ∀ (k : Nat) (row : List Int), rows[k]? = some row → ∀ i < names.length,
    row[i]? = some (Bits.entry (k.testBit (names.length - 1 - i)))
  /-- For each number there is the assignment in which the last place of a name counts; it has no
  value for other names. -/
  assigned : ∀ k : Nat, ∃ valuation : Valuation, valuation.GivesLast names k ∧
    ∀ name ∉ names, valuation name = none
  /-- Each row ends with the value of the formula for that assignment. -/
  result : ∀ (k : Nat) (row : List Int), rows[k]? = some row →
    ∀ valuation : Valuation, valuation.GivesLast names k →
      ∃ value, formula.eval valuation = .ok value ∧ row[names.length]? = some (Bits.entry value)

theorem listed_rowDigits (h : ∀ leaf ∈ formula.leaves, leaf ∈ names) :
    formula.Listed names ((List.range (2 ^ names.length)).map fun k =>
      (formula.rowDigits names k).map Bits.entry) := by
  have hrow : ∀ (k : Nat) (row : List Int),
      ((List.range (2 ^ names.length)).map fun k =>
        (formula.rowDigits names k).map Bits.entry)[k]? = some row →
      row = (formula.rowDigits names k).map Bits.entry := by
    intro k row hget
    rw [List.getElem?_map, Option.map_eq_some_iff] at hget
    obtain ⟨number, hnumber, heq⟩ := hget
    obtain ⟨_, hk⟩ := List.getElem?_eq_some_iff.mp hnumber
    rw [List.getElem_range] at hk
    rw [← heq, hk]
  constructor
  case height => rw [List.length_map, List.length_range]
  case width =>
    intro row hmem
    obtain ⟨k, hk⟩ := List.mem_iff_getElem?.mp hmem
    rw [hrow k row hk, List.length_map, length_rowDigits]
  case digits =>
    intro k row hk i hi
    rw [hrow k row hk, List.getElem?_map, getElem?_rowDigits k hi, Option.map_some]
  case assigned =>
    intro k
    refine ⟨rowValuation names k, givesLast_rowValuation names k, fun name hname => ?_⟩
    exact (rowValuation_eq_none_iff k).mpr hname
  case result =>
    intro k row hk valuation hgives
    refine ⟨formula.rowValue names k, eval_of_givesLast h hgives, ?_⟩
    rw [hrow k row hk, List.getElem?_map, getElem?_rowDigits_result, Option.map_some]

end Formula

/-- If every leaf of the formula is among the names, the rows are those of all assignments to the
names, in order.  Otherwise there are no rows, and the first leaf that is not among the names is
reported.  Without names there is one row, for the assignment that has no values. -/
theorem tabulate_lists (formula : Formula) (names : List String) :
    ((∀ leaf ∈ formula.leaves, leaf ∈ names) →
      ∃ rows, formula.tabulate names = .ok rows ∧ formula.Listed names rows) ∧
    ((∃ leaf ∈ formula.leaves, leaf ∉ names) →
      ∃ earlier name later, formula.leaves = earlier ++ name :: later ∧
        (∀ leaf ∈ earlier, leaf ∈ names) ∧ name ∉ names ∧
        formula.tabulate names = .error ⟨name⟩) := by
  constructor
  · intro h
    exact ⟨_, Formula.tabulate_eq_ok h, Formula.listed_rowDigits h⟩
  · intro h
    have hnone : ∃ leaf ∈ formula.leaves, Formula.rowValuation names 0 leaf = none := by
      simpa only [Formula.rowValuation_eq_none_iff] using h
    obtain ⟨name, hfirst⟩ := Formula.exists_firstMissing_iff.mpr hnone
    have hrows : formula.tabulate names = .error ⟨name⟩ := Formula.tabulate_eq_error hfirst
    obtain ⟨earlier, later, hleaves, hearlier, hmissing⟩ := hfirst
    refine ⟨earlier, name, later, hleaves, fun leaf hleaf => ?_,
      (Formula.rowValuation_eq_none_iff 0).mp hmissing, hrows⟩
    exact (Formula.rowValuation_isSome_iff 0).mp (hearlier leaf hleaf)

/-- The name `b` stands in two places, and the second one counts.  In the second formula `c` is
missing, although `b & ¬c` is decided by `b` alone in the first row. -/
theorem tabulate_lists_repeated :
    (Formula.bin .implies (.var "a") (.var "b")).tabulate ["b", "a", "b"] =
      .ok [[0, 0, 0, 1], [0, 0, 1, 1], [0, 1, 0, 0], [0, 1, 1, 1],
        [1, 0, 0, 1], [1, 0, 1, 1], [1, 1, 0, 0], [1, 1, 1, 1]] ∧
    (Formula.bin .implies (.var "a") (.var "b")).Listed ["b", "a", "b"]
      [[0, 0, 0, 1], [0, 0, 1, 1], [0, 1, 0, 0], [0, 1, 1, 1],
        [1, 0, 0, 1], [1, 0, 1, 1], [1, 1, 0, 0], [1, 1, 1, 1]] ∧
    (Formula.bin .and (.var "b") (.neg (.var "c"))).tabulate ["b", "a", "b"] = .error ⟨"c"⟩ := by
  have hmade : (Formula.bin .implies (.var "a") (.var "b")).tabulate ["b", "a", "b"] =
      .ok [[0, 0, 0, 1], [0, 0, 1, 1], [0, 1, 0, 0], [0, 1, 1, 1],
        [1, 0, 0, 1], [1, 0, 1, 1], [1, 1, 0, 0], [1, 1, 1, 1]] := by
    rfl
  refine ⟨hmade, ?_, ?_⟩
  · obtain ⟨rows, hrows, hlisted⟩ :=
      (tabulate_lists (.bin .implies (.var "a") (.var "b")) ["b", "a", "b"]).1 (by decide)
    rw [hmade] at hrows
    cases hrows
    exact hlisted
  · obtain ⟨earlier, name, later, hleaves, hearlier, hmissing, herror⟩ :=
      (tabulate_lists (.bin .and (.var "b") (.neg (.var "c"))) ["b", "a", "b"]).2 (by decide)
    have hmem : name ∈ ["b", "c"] := by
      show name ∈ (Formula.bin .and (.var "b") (.neg (.var "c"))).leaves
      rw [hleaves]
      exact List.mem_append_right _ List.mem_cons_self
    have hname : name = "c" := by
      rcases List.mem_cons.mp hmem with heq | hrest
      · exact absurd (heq ▸ hmissing) (by decide)
      · exact List.mem_singleton.mp hrest
    rw [herror, hname]

end Propositional
