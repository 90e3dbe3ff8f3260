import Mathlib.Data.Set.Function
import Propositional.Proofs.Karnaugh.Labels

/-!
# The labels of the axes

What is true of the labels of any table, whatever its names are and however many there are.

An axis without names is not a special case once its label counts as the one with no digits:
`axisLabel` is the label of a place on either kind of axis, and the labels along an axis are those
of the Gray sequence (`labelsAlong_eq`).  The digits are the last characters of a label
(`lastChars_axisLabel`), so they can be read off even where names contain equals signs or digits.

`Covers` has what is true of one axis (`covers_labelsAlong`), and `endDigits_bijOn` puts the two
axes together: their digits run through all assignments, each once.
-/

namespace Propositional.Karnaugh

/-! ## One axis -/

/-- The label of a place on an axis, which is empty if there are no names. -/
def axisLabel (names : List String) (digits : List Bool) : String :=
  if names = [] then "" else label names digits

theorem labelsAlong_eq (names : List String) :
    labelsAlong names = (Gray.code names.length).map (axisLabel names) := by
  unfold labelsAlong
  cases names with
  | nil => rfl
  | cons name names => exact List.map_congr_left fun _ _ => rfl

theorem getElem?_labelsAlong {names : List String} {i : Nat} {label : String} :
    (labelsAlong names)[i]? = some label ↔
      ∃ digits, (Gray.code names.length)[i]? = some digits ∧ label = axisLabel names digits := by
  rw [labelsAlong_eq, List.getElem?_map, Option.map_eq_some_iff]
  simp only [eq_comm]

/-- The last characters of a label. -/
def lastChars (count : Nat) (label : String) : List Char :=
  label.toList.drop (label.toList.length - count)

/-- A label is something that depends on the names alone, and the digits behind it. -/
theorem toList_axisLabel {names : List String} {digits : List Bool}
    (h : digits.length = names.length) :
    (axisLabel names digits).toList =
      (axisLabel names []).toList ++ digits.map Bits.char := by
  unfold axisLabel
  by_cases hnames : names = []
  · rw [hnames, List.length_nil, List.length_eq_zero_iff] at h
    rw [h, if_pos hnames]
    rfl
  · rw [if_neg hnames, if_neg hnames, label, label, String.toList_ofList, String.toList_ofList]
    simp

/-- A label ends in its digits. -/
theorem lastChars_axisLabel {names : List String} {digits : List Bool}
    (h : digits.length = names.length) :
    lastChars names.length (axisLabel names digits) = digits.map Bits.char := by
  have hlength : (digits.map Bits.char).length = names.length := by rw [List.length_map, h]
  rw [lastChars, toList_axisLabel h, List.length_append, hlength, Nat.add_sub_cancel,
    List.drop_left]

theorem map_char_injective : Function.Injective (List.map Bits.char) := by
  refine List.map_injective_iff.mpr fun digit other h => ?_
  revert h
  cases digit <;> cases other <;> decide

/-- Labels of one axis with the same digits at the end are the same. -/
theorem axisLabel_injOn (names : List String) :
    Set.InjOn (axisLabel names) {digits | digits.length = names.length} := by
  intro digits hdigits others hothers heq
  have hlast := congrArg (lastChars names.length) heq
  rw [lastChars_axisLabel hdigits, lastChars_axisLabel hothers] at hlast
  exact map_char_injective hlast

/-- From one text to the other exactly one digit changes, which is one of the last ones. -/
def OneDigitApart (count : Nat) (label next : String) : Prop :=
  ∃ front digits others, digits.length = count ∧ label.toList = front ++ digits.map Bits.char ∧
    next.toList = front ++ others.map Bits.char ∧ Gray.OneApart digits others

/-- The labels of an axis with these names. -/
structure Covers (names labels : List String) : Prop where
  count : labels.length = 2 ^ names.length
  bare : names = [] → labels = [""]
  /-- A label has the names one after the other, an equals sign and a digit for each name. -/
  spelled : names ≠ [] → ∀ label ∈ labels, ∃ digits : List Bool,
    digits.length = names.length ∧
      label.toList = names.flatMap String.toList ++ '=' :: digits.map Bits.char
  distinct : labels.Nodup
  /-- Going round an axis with more than one label. -/
  next : 1 < labels.length → ∀ (i : Nat) label next, labels[i]? = some label →
    labels[(i + 1) % labels.length]? = some next → OneDigitApart names.length label next

theorem covers_labelsAlong (names : List String) : Covers names (labelsAlong names) := by
  have hcount := length_labelsAlong names
  constructor
  case count => exact hcount
  case bare =>
    intro hnames
    rw [hnames]
    rfl
  case spelled =>
    intro hnames label hlabel
    obtain ⟨i, hi⟩ := List.mem_iff_getElem?.mp hlabel
    obtain ⟨digits, hdigits, heq⟩ := getElem?_labelsAlong.mp hi
    refine ⟨digits, Gray.mem_code.mp (List.mem_iff_getElem?.mpr ⟨i, hdigits⟩), ?_⟩
    rw [heq, axisLabel, if_neg hnames, Karnaugh.label, String.toList_ofList]
  case distinct =>
    rw [labelsAlong_eq]
    refine (Gray.code_nodup _).map_on fun digits hdigits others hothers heq => ?_
    exact axisLabel_injOn names (Gray.mem_code.mp hdigits) (Gray.mem_code.mp hothers) heq
  case next =>
    intro hmany i label next hlabel hnext
    rw [hcount] at hmany hnext
    obtain ⟨digits, hdigits, heq⟩ := getElem?_labelsAlong.mp hlabel
    obtain ⟨others, hothers, heq'⟩ := getElem?_labelsAlong.mp hnext
    have hlength := Gray.mem_code.mp (List.mem_iff_getElem?.mpr ⟨_, hdigits⟩)
    have hlength' := Gray.mem_code.mp (List.mem_iff_getElem?.mpr ⟨_, hothers⟩)
    refine ⟨(axisLabel names []).toList, digits, others, hlength, ?_, ?_,
      Gray.oneApart_of_next hmany hdigits hothers⟩
    · rw [heq, toList_axisLabel hlength]
    · rw [heq', toList_axisLabel hlength']

/-! ## Digits at the end -/

/-- The texts of so many digits. -/
def digitTexts (count : Nat) : Set (List Char) :=
  {text | text.length = count ∧ ∀ char ∈ text, char = '0' ∨ char = '1'}

theorem mem_digitTexts_iff {count : Nat} {text : List Char} :
    text ∈ digitTexts count ↔
      ∃ digits : List Bool, digits.length = count ∧ digits.map Bits.char = text := by
  constructor
  · intro h
    obtain ⟨hlength, hdigits⟩ := h
    refine ⟨text.map (· == '1'), by rw [List.length_map, hlength], ?_⟩
    rw [List.map_map]
    refine (List.map_congr_left fun char hchar => ?_).trans (List.map_id text)
    rcases hdigits char hchar with heq | heq
    all_goals
      rw [heq]
      rfl
  · intro h
    obtain ⟨digits, hlength, heq⟩ := h
    rw [← heq]
    refine ⟨by rw [List.length_map, hlength], fun char hchar => ?_⟩
    obtain ⟨digit, _, hdigit⟩ := List.mem_map.mp hchar
    rw [← hdigit]
    cases digit
    · exact .inl rfl
    · exact .inr rfl

/-- The digits at the end of the labels of an axis run through all digit texts of that length. -/
theorem lastChars_bijOn (names : List String) :
    Set.BijOn (fun i : Fin (labelsAlong names).length =>
      lastChars names.length (labelsAlong names)[i]) Set.univ (digitTexts names.length) := by
  have hdigits : ∀ i : Fin (labelsAlong names).length, ∃ digits : List Bool,
      digits.length = names.length ∧ (labelsAlong names)[i] = axisLabel names digits := by
    intro i
    obtain ⟨digits, hcode, heq⟩ := getElem?_labelsAlong.mp (List.getElem?_eq_getElem i.isLt)
    exact ⟨digits, Gray.mem_code.mp (List.mem_iff_getElem?.mpr ⟨i, hcode⟩), heq⟩
  refine .mk ?_ ?_ ?_
  · intro i _
    obtain ⟨digits, hlength, heq⟩ := hdigits i
    refine mem_digitTexts_iff.mpr ⟨digits, hlength, ?_⟩
    simp only [heq, lastChars_axisLabel hlength]
  · intro i _ j _ hlast
    obtain ⟨digits, hlength, heq⟩ := hdigits i
    obtain ⟨others, hlength', heq'⟩ := hdigits j
    simp only [heq, heq', lastChars_axisLabel hlength, lastChars_axisLabel hlength'] at hlast
    rw [map_char_injective hlast, ← heq'] at heq
    exact Fin.ext ((covers_labelsAlong names).distinct.getElem_inj_iff.mp heq)
  · intro text htext
    obtain ⟨digits, hlength, heq⟩ := mem_digitTexts_iff.mp htext
    obtain ⟨i, hi⟩ := List.mem_iff_getElem?.mp (Gray.mem_code.mpr hlength)
    obtain ⟨hlt, hlabel⟩ :=
      List.getElem?_eq_some_iff.mp (getElem?_labelsAlong.mpr ⟨digits, hi, rfl⟩)
    refine ⟨⟨i, hlt⟩, Set.mem_univ _, ?_⟩
    simp only [Fin.getElem_fin, hlabel, lastChars_axisLabel hlength, heq]

/-! ## Both axes -/

section Axes

variable (table : TruthTable)

/-- The names that select the line. -/
def lineNames : List String := table.names.take (lineBits table.names.length)

/-- The names that select the column. -/
def columnNames : List String := table.names.drop (lineBits table.names.length)

/-- The digits at the end of the labels of a line and a column, one for each name. -/
def endDigits
    (place : Fin (labelsOf table).lines.length × Fin (labelsOf table).columns.length) :
    List Char :=
  lastChars (lineNames table).length (labelsOf table).lines[place.1] ++
    lastChars (columnNames table).length (labelsOf table).columns[place.2]

theorem length_lineNames_add_columnNames :
    (lineNames table).length + (columnNames table).length = table.names.length := by
  rw [← List.length_append, lineNames, columnNames, List.take_append_drop]

/-- Every assignment is spelled by the labels of exactly one cell. -/
theorem endDigits_bijOn :
    Set.BijOn (endDigits table) Set.univ (digitTexts table.names.length) := by
  have hlength := length_lineNames_add_columnNames table
  obtain ⟨hlineMaps, hlineInj, hlineSurj⟩ := lastChars_bijOn (lineNames table)
  obtain ⟨hcolumnMaps, hcolumnInj, hcolumnSurj⟩ := lastChars_bijOn (columnNames table)
  refine .mk ?_ ?_ ?_
  · intro place _
    obtain ⟨hline, hlineDigits⟩ := hlineMaps (Set.mem_univ place.1)
    obtain ⟨hcolumn, hcolumnDigits⟩ := hcolumnMaps (Set.mem_univ place.2)
    refine ⟨by rw [endDigits, List.length_append, ← hlength]; exact congrArg₂ _ hline hcolumn, ?_⟩
    intro char hchar
    exact (List.mem_append.mp hchar).elim (hlineDigits char) (hcolumnDigits char)
  · intro place _ place' _ heq
    have hline := (hlineMaps (Set.mem_univ place.1)).1
    have hline' := (hlineMaps (Set.mem_univ place'.1)).1
    obtain ⟨heqLine, heqColumn⟩ := List.append_inj heq (hline.trans hline'.symm)
    exact Prod.ext (hlineInj (Set.mem_univ _) (Set.mem_univ _) heqLine)
      (hcolumnInj (Set.mem_univ _) (Set.mem_univ _) heqColumn)
  · intro text htext
    obtain ⟨digits, hdigits, heq⟩ := mem_digitTexts_iff.mp htext
    obtain ⟨i, _, hi⟩ := hlineSurj (mem_digitTexts_iff.mpr
      ⟨digits.take (lineNames table).length, by rw [List.length_take]; omega, rfl⟩)
    obtain ⟨j, _, hj⟩ := hcolumnSurj (mem_digitTexts_iff.mpr
      ⟨digits.drop (lineNames table).length, by rw [List.length_drop]; omega, rfl⟩)
    refine ⟨(i, j), Set.mem_univ _, ?_⟩
    rw [← heq, ← List.take_append_drop (lineNames table).length digits, List.map_append]
    exact congrArg₂ (· ++ ·) hi hj

end Axes

/-- The labels of a table with any number of names, whatever the names are.  The first half of the
names has one axis and the others have the other one, and the digits at the end of a line's and a
column's label, taken together, are every assignment exactly once. -/
theorem labels_cover_assignments (table : TruthTable) :
    (labelsOf table).lines.length = 2 ^ (table.names.length / 2) ∧
      (labelsOf table).columns.length = 2 ^ (table.names.length - table.names.length / 2) ∧
      lineNames table ++ columnNames table = table.names ∧
      Covers (lineNames table) (labelsOf table).lines ∧
      Covers (columnNames table) (labelsOf table).columns ∧
      Set.BijOn (endDigits table) Set.univ (digitTexts table.names.length) :=
  ⟨length_lines, length_columns, List.take_append_drop _ _, covers_labelsAlong _,
    covers_labelsAlong _, endDigits_bijOn table⟩

end Propositional.Karnaugh
