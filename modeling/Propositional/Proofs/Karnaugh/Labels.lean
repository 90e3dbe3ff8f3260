import Propositional.Karnaugh.Labels
import Propositional.Proofs.Karnaugh.Gray

/-!
# The digits of a label

What a label has behind its equals sign are the digits of its place in Gray order, as long as no
name has an equals sign itself (`exists_digits`).  The empty label stands for no digits.  The two
axes of a table share out the names, so their labels have as many digits as the layout says.
-/

namespace Propositional

/-- The digit that a character is. -/
def Bits.ofChar? (char : Char) : Option Bool :=
  if char = '0' then some false else if char = '1' then some true else none

theorem Bits.ofChar?_char (digit : Bool) : ofChar? (char digit) = some digit := by
  cases digit <;> rfl

theorem Bits.map_ofChar? (digits : List Bool) :
    (digits.map char).map ofChar? = digits.map some := by
  rw [List.map_map]
  exact List.map_congr_left fun digit _ => ofChar?_char digit

namespace Karnaugh

/-- What stands behind the equals sign of a label. -/
def afterEquals (label : String) : List Char :=
  (label.toList.dropWhile (· != '=')).drop 1

theorem afterEquals_label {names : List String} (h : ∀ name ∈ names, '=' ∉ name.toList)
    (digits : List Bool) : afterEquals (label names digits) = digits.map Bits.char := by
  have hnames : ∀ char ∈ names.flatMap String.toList, (char != '=') = true := by
    intro char hchar
    obtain ⟨name, hname, hmem⟩ := List.mem_flatMap.mp hchar
    rw [bne_iff_ne]
    intro heq
    subst heq
    exact h name hname hmem
  unfold afterEquals label
  rw [String.toList_ofList, List.dropWhile_append_of_pos hnames]
  rfl

theorem length_labelsAlong (names : List String) :
    (labelsAlong names).length = 2 ^ names.length := by
  unfold labelsAlong
  cases names with
  | nil => rfl
  | cons name names => exact (List.length_map _).trans (Gray.length_code _)

/-- The label of a place has the digits of the place in Gray order. -/
theorem exists_digits {names : List String} (h : ∀ name ∈ names, '=' ∉ name.toList) {i : Nat}
    {label : String} (hlabel : (labelsAlong names)[i]? = some label) :
    ∃ digits, (Gray.code names.length)[i]? = some digits ∧
      afterEquals label = digits.map Bits.char := by
  unfold labelsAlong at hlabel
  cases names with
  | nil =>
    obtain ⟨hlt, heq⟩ := List.getElem?_eq_some_iff.mp hlabel
    have hzero : i = 0 := Nat.lt_one_iff.mp hlt
    subst hzero heq
    exact ⟨[], rfl, rfl⟩
  | cons name names =>
    rw [if_neg (by simp), List.getElem?_map, Option.map_eq_some_iff] at hlabel
    obtain ⟨digits, hdigits, heq⟩ := hlabel
    subst heq
    exact ⟨digits, hdigits, afterEquals_label h digits⟩

/-! ## The two axes of a table -/

section Axes

variable {table : TruthTable}

theorem length_lineNames :
    (table.names.take (lineBits table.names.length)).length = lineBits table.names.length := by
  rw [List.length_take]
  exact Nat.min_eq_left (Nat.div_le_self _ _)

theorem length_columnNames :
    (table.names.drop (lineBits table.names.length)).length = columnBits table.names.length := by
  rw [List.length_drop]
  rfl

theorem length_lines :
    (labelsOf table).lines.length = 2 ^ lineBits table.names.length := by
  rw [labelsOf, length_labelsAlong, length_lineNames]

theorem length_columns :
    (labelsOf table).columns.length = 2 ^ columnBits table.names.length := by
  rw [labelsOf, length_labelsAlong, length_columnNames]

theorem exists_lineDigits (h : ∀ name ∈ table.names, '=' ∉ name.toList) {r : Nat} {label : String}
    (hlabel : (labelsOf table).lines[r]? = some label) :
    ∃ digits, (Gray.code (lineBits table.names.length))[r]? = some digits ∧
      afterEquals label = digits.map Bits.char := by
  have hdigits := exists_digits (fun name hname => h name (List.mem_of_mem_take hname)) hlabel
  rw [length_lineNames] at hdigits
  exact hdigits

theorem exists_columnDigits (h : ∀ name ∈ table.names, '=' ∉ name.toList) {c : Nat} {label : String}
    (hlabel : (labelsOf table).columns[c]? = some label) :
    ∃ digits, (Gray.code (columnBits table.names.length))[c]? = some digits ∧
      afterEquals label = digits.map Bits.char := by
  have hdigits := exists_digits (fun name hname => h name (List.mem_of_mem_drop hname)) hlabel
  rw [length_columnNames] at hdigits
  exact hdigits

end Axes

end Karnaugh

end Propositional
