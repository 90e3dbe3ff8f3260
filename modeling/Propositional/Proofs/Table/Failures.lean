import Propositional.Proofs.Reader.DeadEnd
import Propositional.Proofs.Reader.Depth
import Propositional.Proofs.Table.Outcome

/-!
# How building a table ends

`Build.Ends` has one rule for each way in which building a table ends, and `Build.ends` says that
there is no other.  The rows are made for the formula's own names, so no way is left in which a
variable has no value.

Two causes are decided before a text is read.  No reading is rejected as blank
(`ofCanonical_ne_blank`), and one is rejected for its length exactly if the text is too long, however
else it is malformed (`ofCanonical_eq_tooLong_iff`): every other rejection names a place.

`failures_of_ofText` has the consequences for the outcome and for the log.
-/

namespace Propositional

/-! ## Rejections by reading -/

/-- A text that is not too long is rejected at a place. -/
theorem exists_position_of_ofCanonical {text : List Char} {rejection : Rejection}
    (hlength : text.length ≤ lengthLimit) (h : Formula.ofCanonical text = .error rejection) :
    ∃ position, rejection.position? = some position := by
  rcases ofCanonical_eq_error hlength h with ⟨stop, hreads⟩ | ⟨formula, stop, _, hleft⟩
  · exact ⟨stop.position, hreads.position?_eq rfl⟩
  · exact ⟨stop.position, Cursor.position?_of_leftover hleft⟩

/-- The length of a text is judged before anything else. -/
theorem ofCanonical_eq_tooLong_iff {text : List Char} :
    Formula.ofCanonical text = .error .tooLong ↔ lengthLimit < text.length := by
  constructor
  · intro h
    by_contra hlength
    obtain ⟨position, hposition⟩ := exists_position_of_ofCanonical (Nat.le_of_not_lt hlength) h
    cases hposition
  · intro hlength
    rw [Formula.ofCanonical, if_pos hlength]

theorem ofCanonical_ne_blank {text : List Char} : Formula.ofCanonical text ≠ .error .blank := by
  intro h
  by_cases hlength : lengthLimit < text.length
  · rw [ofCanonical_eq_tooLong_iff.mpr hlength] at h
    cases h
  · obtain ⟨position, hposition⟩ := exists_position_of_ofCanonical (Nat.le_of_not_lt hlength) h
    cases hposition

/-- The rejection is for a limit and names neither a character nor a place. -/
structure Rejection.IsLength (rejection : Rejection) : Prop where
  limit : rejection.IsLimit
  noChar : rejection.char? = none
  noPosition : rejection.position? = none

/-- Of the rejections for a limit, the one for depth has a place. -/
theorem Rejection.isLength_iff {rejection : Rejection} :
    rejection.IsLength ↔ rejection = .tooLong := by
  constructor
  · intro h
    obtain ⟨hlimit, _, hposition⟩ := h
    cases rejection with
    | tooLong => rfl
    | tooDeep _ => cases hposition
    | blank | operandMissing _ | noToken _ _ | unclosed _ _ | surplus _ _ => exact hlimit.elim
  · intro h
    subst h
    exact ⟨trivial, rfl, rfl⟩

/-! ## Ends of a build -/

namespace Build

/-- The ways in which building a table from an input ends. -/
inductive Ends : Option String → Build → Prop where
  | absent : Ends none (reject .blank)
  | blank {text} (nothing : Spelling.canonical text.toList = []) :
      Ends (some text) (reject .blank)
  | rejected {text rejection} (something : Spelling.canonical text.toList ≠ [])
      (unread : Formula.ofTyped text = .error rejection) : Ends (some text) (reject rejection)
  | table {text formula} (something : Spelling.canonical text.toList ≠ [])
      (read : Formula.ofTyped text = .ok formula) :
      Ends (some text)
        ⟨.ok (formula.table text),
          [readLine text formula, rowsLine text (formula.table text).rows]⟩

theorem ends (input : Option String) : Ends input (ofText input) := by
  cases input with
  | none => exact .absent
  | some text =>
    rw [ofText_some]
    by_cases h : Spelling.canonical text.toList = []
    · rw [if_pos h]
      exact .blank h
    · rw [if_neg h]
      cases hread : Formula.ofCanonical (Spelling.canonical text.toList) with
      | error rejection => exact .rejected h hread
      | ok formula => exact .table h hread

namespace Ends

variable {input : Option String} {build : Build}

/-- There is a table, or the input is rejected. -/
theorem table_or_rejected (h : Ends input build) :
    (∃ table, build.outcome = .ok table) ∨
      ∃ rejection, build.outcome = .error (.rejected rejection) := by
  cases h with
  | absent | blank _ => exact .inr ⟨.blank, rfl⟩
  | rejected _ _ => exact .inr ⟨_, rfl⟩
  | table _ _ => exact .inl ⟨_, rfl⟩

/-- Nothing but a missing or blank text is rejected as blank. -/
theorem blank_iff (h : Ends input build) :
    build.outcome = .error (.rejected .blank) ↔
      ∀ text, input = some text → Spelling.canonical text.toList = [] := by
  cases h with
  | absent => exact iff_of_true rfl fun _ heq => nomatch heq
  | blank nothing =>
    refine iff_of_true rfl fun _ heq => ?_
    cases heq
    exact nothing
  | rejected something unread =>
    refine iff_of_false (fun heq => ?_) fun hblank => something (hblank _ rfl)
    cases heq
    exact ofCanonical_ne_blank unread
  | table something _ =>
    refine iff_of_false (fun heq => ?_) fun hblank => something (hblank _ rfl)
    cases heq

/-- Whatever else is wrong with it, a text that is too long is rejected for its length. -/
theorem isLength_iff (h : Ends input build) :
    (∃ rejection, build.outcome = .error (.rejected rejection) ∧ rejection.IsLength) ↔
      ∃ text, input = some text ∧ lengthLimit < (Spelling.canonical text.toList).length := by
  simp only [Rejection.isLength_iff, exists_eq_right]
  cases h with
  | absent => simp [reject]
  | @blank text nothing => simp [reject, nothing]
  | @rejected text rejection _ unread =>
    have hlength : rejection = .tooLong ↔
        lengthLimit < (Spelling.canonical text.toList).length := by
      rw [← ofCanonical_eq_tooLong_iff, ← Formula.ofTyped, unread, Except.error.injEq]
    simpa [reject] using hlength
  | @table text formula _ read =>
    have hlength : ¬ lengthLimit < (Spelling.canonical text.toList).length := by
      rw [← ofCanonical_eq_tooLong_iff, ← Formula.ofTyped, read]
      simp
    simpa using hlength

/-- Both lines are logged for a table. -/
theorem log_of_table (h : Ends input build) {table : TruthTable} (htable : build.outcome = .ok table) :
    ∃ text formula, input = some text ∧ Formula.ofTyped text = .ok formula ∧
      build.log = [readLine text formula, rowsLine text table.rows] := by
  cases h with
  | absent | blank _ | rejected _ _ => cases htable
  | table _ read =>
    cases htable
    exact ⟨_, _, rfl, read, rfl⟩

theorem log_of_error (h : Ends input build) {error : BuildError}
    (herror : build.outcome = .error error) : build.log = [] := by
  cases h with
  | absent | blank _ | rejected _ _ => rfl
  | table _ _ => cases herror

end Ends

end Build

/-- Every input gets a table or a rejection, and nothing else: no variable is ever found without a
value.  A missing or blank text is rejected as blank and no other one is; a text that is too long is
rejected for its length and no other one is.  Both lines are logged for a table, and none for a
rejection. -/
theorem failures_of_ofText (input : Option String) :
    ((∃ table, (Build.ofText input).outcome = .ok table) ∨
      ∃ rejection, (Build.ofText input).outcome = .error (.rejected rejection)) ∧
    (∀ missing, (Build.ofText input).outcome ≠ .error (.unassigned missing)) ∧
    ((Build.ofText input).outcome = .error (.rejected .blank) ↔
      ∀ text, input = some text → Spelling.canonical text.toList = []) ∧
    ((∃ rejection, (Build.ofText input).outcome = .error (.rejected rejection) ∧
        rejection.IsLength) ↔
      ∃ text, input = some text ∧ lengthLimit < (Spelling.canonical text.toList).length) ∧
    (∀ table, (Build.ofText input).outcome = .ok table →
      ∃ text formula, input = some text ∧ Formula.ofTyped text = .ok formula ∧
        (Build.ofText input).log =
          [Build.readLine text formula, Build.rowsLine text table.rows]) ∧
    ∀ error, (Build.ofText input).outcome = .error error → (Build.ofText input).log = [] := by
  have hends := Build.ends input
  refine ⟨hends.table_or_rejected, fun missing hmissing => ?_, hends.blank_iff, hends.isLength_iff,
    fun _ => hends.log_of_table, fun _ => hends.log_of_error⟩
  rcases hends.table_or_rejected with ⟨table, htable⟩ | ⟨rejection, hrejection⟩
  · cases hmissing.symm.trans htable
  · cases hmissing.symm.trans hrejection

/-- A text of separators, one that is too long and has no token in it, and one with a table. -/
theorem failures_of_three_texts :
    (Build.ofText (some "\x1c \u3000")).outcome = .error (.rejected .blank) ∧
    (∃ rejection,
      (Build.ofText (some (String.ofList (List.replicate 257 '@')))).outcome =
        .error (.rejected rejection) ∧ rejection.IsLength) ∧
    (Build.ofText (some "!b")).outcome = .ok ⟨"!b", ["B"], [[0, 1], [1, 0]]⟩ ∧
    (Build.ofText (some "!b")).log =
      ["normalized '!b' to '!b' with variables ('b',)", "built 2 rows for '!b'"] := by
  have hbuilt : (Build.ofText (some "!b")).outcome = .ok ⟨"!b", ["B"], [[0, 1], [1, 0]]⟩ := by
    with_unfolding_all rfl
  have hlength : ∀ count, (Spelling.canonical (List.replicate count '@')).length = count := by
    intro count
    have hchar : Spelling.canonicalChar '@' = ['@'] := by
      decide
    rw [Spelling.canonical_eq_flatMap (by simp)]
    simp [List.length_flatMap, hchar]
  refine ⟨?_, ?_, hbuilt, ?_⟩
  · refine (failures_of_ofText _).2.2.1.mpr fun text heq => ?_
    cases heq
    decide +kernel
  · refine (failures_of_ofText _).2.2.2.1.mpr ⟨_, rfl, ?_⟩
    rw [String.toList_ofList, hlength]
    decide
  · obtain ⟨text, formula, heq, hread, hlog⟩ := (failures_of_ofText _).2.2.2.2.1 _ hbuilt
    cases heq
    have hformula : Formula.ofTyped "!b" = .ok (.neg (.var "b")) := by
      rfl
    rw [hformula] at hread
    cases hread
    rw [hlog]
    decide +kernel

end Propositional
