import Mathlib.Data.List.Forall2
import Propositional.Proofs.Page.Run

/-!
# The page in letters and in digits

The mode changes how the page looks and nothing else.  `Counterpart` says which events of the page
in letters and of the page in digits belong together: an event that does not depend on the mode with
itself, and one that does with the same event in digits.  `run_counterpart` puts the two pages of a
text side by side, event by event.
-/

namespace Propositional.Page

open Drawing Karnaugh

/-! ## Events side by side -/

/-- A truth value as a letter and as a digit. -/
inductive Glyphs : String → String → Prop where
  | true : Glyphs "V" "1"
  | false : Glyphs "F" "0"

/-- The event is a summary, a table, or a text in the middle of a cell of a drawing. -/
def Event.IsModal : Event → Prop
  | .info _ => True
  | .table _ => True
  | .draw (.text x y _ _) => ∃ column line, x = place column 50 ∧ y = place line 50
  | _ => False

/-- The heads are the same, and the entries show one truth value. -/
def SameEntry (entry entry' : String × String) : Prop :=
  entry.1 = entry'.1 ∧ Glyphs entry.2 entry'.2

/-- An event of the page in letters and the event in its place of the page in digits. -/
inductive Counterpart : Event → Event → Prop where
  | same {event} (modeless : ¬ event.IsModal) : Counterpart event event
  | summary (text : String) : Counterpart (.info (text ++ "V/F")) (.info (text ++ "0/1"))
  | table {rows rows'} (entries : List.Forall₂ (List.Forall₂ SameEntry) rows rows') :
      Counterpart (.table rows) (.table rows')
  | result {column line glyph glyph' style} (glyphs : Glyphs glyph glyph') :
      Counterpart (.draw (.text (place column 50) (place line 50) glyph style))
        (.draw (.text (place column 50) (place line 50) glyph' style))

theorem glyphs_glyph (value : Bool) :
    Glyphs (DisplayMode.letters.glyph value) (DisplayMode.digits.glyph value) := by
  cases value with
  | true => exact .true
  | false => exact .false

/-- Events that do not depend on the mode stand beside themselves. -/
theorem counterpart_self {events : List Event} (h : ∀ event ∈ events, ¬ event.IsModal) :
    List.Forall₂ Counterpart events events :=
  List.forall₂_same.mpr fun event hmem => .same (h event hmem)

theorem forall₂_map {α β γ : Type} {R : β → γ → Prop} {f : α → β} {g : α → γ} {list : List α}
    (h : ∀ element ∈ list, R (f element) (g element)) :
    List.Forall₂ R (list.map f) (list.map g) := by
  rw [List.forall₂_map_left_iff, List.forall₂_map_right_iff, List.forall₂_same]
  exact h

/-! ## The parts of the page -/

theorem counterpart_head : List.Forall₂ Counterpart head head :=
  counterpart_self (by simp [head, Event.IsModal])

theorem counterpart_rejectionEvents (text : String) (error : Rejection) :
    List.Forall₂ Counterpart (rejectionEvents text error) (rejectionEvents text error) :=
  counterpart_self (by simp [rejectionEvents, Event.IsModal])

theorem counterpart_summaryLine (table : TruthTable) :
    Counterpart (.info (table.summaryLine .letters)) (.info (table.summaryLine .digits)) :=
  .summary _

/-- The rows have the same heads, and glyphs for the same entries. -/
theorem counterpart_glyphRows (table : TruthTable) :
    Counterpart (.table ((table.glyphRows .letters).map table.heads.zip))
      (.table ((table.glyphRows .digits).map table.heads.zip)) := by
  refine .table ?_
  simp only [TruthTable.glyphRows, List.map_map]
  refine forall₂_map fun row _ => ?_
  show List.Forall₂ SameEntry (table.heads.zip (row.map _)) (table.heads.zip (row.map _))
  rw [List.zip_map_right, List.zip_map_right]
  exact forall₂_map fun entry _ => ⟨rfl, glyphs_glyph (entry.2 != 0)⟩

theorem not_isModal_frameSteps {size : Size} : ∀ step ∈ frameSteps size,
    ¬ (Event.draw step).IsModal := by
  simp [frameSteps, Event.IsModal]

/-- A label stands beside the map, not in the middle of a cell. -/
theorem labelPlace_ne_place (units : Nat) : labelPlace ≠ place units 50 := by
  intro heq
  have hhundredths : (-25 : Int) = 100 * units + 50 := congrArg Measure.hundredths heq
  omega

theorem not_isModal_columnSteps {labels : List String} : ∀ step ∈ columnSteps labels,
    ¬ (Event.draw step).IsModal := by
  intro step hstep hmodal
  obtain ⟨column, _, rfl⟩ := List.mem_mapIdx.mp hstep
  obtain ⟨_, line, _, hy⟩ := hmodal
  exact labelPlace_ne_place line hy

theorem not_isModal_lineSteps {labels : List String} : ∀ step ∈ lineSteps labels,
    ¬ (Event.draw step).IsModal := by
  intro step hstep hmodal
  obtain ⟨line, _, rfl⟩ := List.mem_mapIdx.mp hstep
  obtain ⟨column, _, hx, _⟩ := hmodal
  exact labelPlace_ne_place column hx

/-- The number of a row stands in a corner of its cell. -/
theorem not_isModal_numberStep (cell : Cell) (index : Nat) :
    ¬ (Event.draw (numberStep cell index)).IsModal := by
  intro hmodal
  obtain ⟨column, _, hx, _⟩ := hmodal
  have hhundredths : (100 * cell.column + 5 : Int) = 100 * column + 50 :=
    congrArg Measure.hundredths hx
  omega

theorem counterpart_rowSteps (formula : Formula) (k : Nat) :
    List.Forall₂ Counterpart ((rowSteps formula .letters k).map .draw)
      ((rowSteps formula .digits k).map .draw) :=
  .cons (.result (glyphs_glyph _)) (.cons (.same (not_isModal_numberStep _ k)) .nil)

/-- Frame, labels and numbers are the same, and the results differ in their glyphs. -/
theorem counterpart_mapSteps (formula : Formula) (labels : Labels) :
    List.Forall₂ Counterpart ((mapSteps formula .letters labels).map .draw)
      ((mapSteps formula .digits labels).map .draw) := by
  have hfixed : ∀ steps : List Step, (∀ step ∈ steps, ¬ (Event.draw step).IsModal) →
      List.Forall₂ Counterpart (steps.map .draw) (steps.map .draw) :=
    fun steps h => forall₂_map fun step hmem => .same (h step hmem)
  have hnumbers : List.Forall₂ Eq (List.range (2 ^ formula.names.length))
      (List.range (2 ^ formula.names.length)) := List.forall₂_refl _
  simp only [mapSteps, List.map_append, List.map_flatMap]
  refine List.rel_append (List.rel_append (List.rel_append ?frame ?columns) ?lines) ?rows
  case frame => exact hfixed _ not_isModal_frameSteps
  case columns => exact hfixed _ not_isModal_columnSteps
  case lines => exact hfixed _ not_isModal_lineSteps
  case rows =>
    refine List.rel_flatMap hnumbers ?_
    rintro k _ rfl
    exact counterpart_rowSteps formula k

theorem counterpart_shownEvents (formula : Formula) (folded : Folded) (text : String) :
    List.Forall₂ Counterpart (shownEvents formula folded text .letters)
      (shownEvents formula folded text .digits) := by
  have htypeset : ¬ (Event.typeset (String.ofList folded.typeset)).IsModal := id
  refine .cons (counterpart_summaryLine _)
    (.cons (counterpart_glyphRows _) (.cons (.same htypeset) ?_))
  by_cases hnames : (formula.table text).names = []
  · rw [if_pos hnames, if_pos hnames]
    exact .nil
  · rw [if_neg hnames, if_neg hnames]
    refine List.rel_append (List.rel_append ?_ (counterpart_mapSteps _ _)) ?_
    · exact counterpart_self (by simp [Event.IsModal])
    · exact counterpart_self (by simp [Event.IsModal])

/-! ## The two pages -/

/-- What follows the head depends on the mode only in how it looks, and not at all if the text is
rejected. -/
theorem Below.counterpart {text : String} {pressed : Bool} {below : List Event}
    (h : Below ⟨text, .letters, pressed⟩ below) :
    ∃ below', Below ⟨text, .digits, pressed⟩ below' ∧ List.Forall₂ Counterpart below below' ∧
      ((∃ error, (Build.ofText (some (stripString text))).outcome = .error error) →
        below = below') := by
  cases h with
  | nothing idle => exact ⟨_, .nothing idle, .nil, fun _ => rfl⟩
  | rejected asked outcome =>
    exact ⟨_, .rejected asked outcome, counterpart_rejectionEvents text _, fun _ => rfl⟩
  | @shown formula folded asked outcome read fold =>
    refine ⟨_, .shown asked outcome read fold, counterpart_shownEvents formula folded _, ?_⟩
    intro hrejected
    obtain ⟨error, herror⟩ := hrejected
    cases outcome.symm.trans herror

/-- The page of a text in letters and its page in digits have as many events, and these go together
one by one.  If the text is rejected, the two pages are the same. -/
theorem run_counterpart (text : String) (pressed : Bool) :
    ∃ events events', run ⟨text, .letters, pressed⟩ = .ok events ∧
      run ⟨text, .digits, pressed⟩ = .ok events' ∧ List.Forall₂ Counterpart events events' ∧
        ((∃ error, (Build.ofText (some (stripString text))).outcome = .error error) →
          events = events') := by
  obtain ⟨below, hrun, hbelow⟩ := exists_below ⟨text, .letters, pressed⟩
  obtain ⟨below', hbelow', hcounterpart, hrejected⟩ := hbelow.counterpart
  refine ⟨head ++ below, head ++ below', hrun, hbelow'.run_eq, ?_, fun h => ?_⟩
  · exact List.rel_append counterpart_head hcounterpart
  · rw [hrejected h]

end Propositional.Page
