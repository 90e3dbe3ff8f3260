import Propositional.Proofs.Reader.Signs
import Propositional.Reader.Session

/-!
# What holds throughout a session

A call may fail, and the next one goes on from where it did.  `Takes` says what one call can do,
with the rules of reading behind it; every property of a session is a case analysis on it.

* `Placed` is the invariant: the cursor is a place in the text, and each construct that is counted
  was opened by a sign that has been passed.  The count is never taken below zero: a construct is
  closed where the count is what it was behind the sign that opened it (`Reads.yields`).
* `depth_reached` says what the count tells of the calls so far.
* `run_lawful` puts these together with what the next call does to the cursor.
-/

namespace Propositional

/-- A run that fails has passed a text in which as many signs are open as the depth has grown by. -/
theorem Reads.depth_eq_openSigns {limit : Nat} {aim : Aim} {cursor stop : Cursor}
    {rejection : Rejection} (h : Reads limit aim cursor (.error rejection stop)) :
    ∃ passed, cursor.Passes passed stop ∧
      stop.depth = cursor.depth + (openSigns passed).length := by
  obtain ⟨passed, opened, hpass, hdepth, hopened⟩ := h.staysOpen rfl
  have heq : openSigns passed = opened ++ [] := hopened [] aim.mayFollow_nil
  rw [List.append_nil] at heq
  exact ⟨passed, hpass, heq ▸ hdepth⟩

namespace Session

/-! ## One call -/

/-- What a call can do to a cursor. -/
inductive Takes (cursor : Cursor) : Call → Step → Prop where
  | finished : Takes cursor .finished ⟨.ok (.flag cursor.unread.head?.isNone), cursor⟩
  | lookahead : Takes cursor .lookahead ⟨.ok (.char cursor.unread.head?), cursor⟩
  | accepted {word} (present : word <+: cursor.unread) :
      Takes cursor (.accept word) ⟨.ok (.flag true), cursor.advance word.length⟩
  | refused {word} (absent : ¬ word <+: cursor.unread) :
      Takes cursor (.accept word) ⟨.ok (.flag false), cursor⟩
  | returned {production formula next}
      (reads : Reads nestingLimit (.phrase production) cursor (.ok formula next)) :
      Takes cursor (.read production) ⟨.ok (.formula formula), next⟩
  | failed {production rejection stop}
      (reads : Reads nestingLimit (.phrase production) cursor (.error rejection stop)) :
      Takes cursor (.read production) ⟨.error rejection, stop⟩

theorem takes_step (cursor : Cursor) (call : Call) : Takes cursor call (step cursor call) := by
  cases call with
  | finished => exact .finished
  | lookahead => exact .lookahead
  | accept word =>
    unfold step Call.reader
    dsimp only
    rw [Reader.accept_bind]
    by_cases h : word <+: cursor.unread
    · rw [if_pos h]
      exact .accepted h
    · rw [if_neg h]
      exact .refused h
  | read production =>
    have hreads := reads_read production cursor
    unfold step Call.reader
    dsimp only
    rw [Reader.bind_apply]
    cases hcase : production.read cursor with
    | ok formula next =>
      rw [hcase] at hreads
      exact .returned hreads
    | error rejection stop =>
      rw [hcase] at hreads
      exact .failed hreads

/-- The step ended in a rejection for one of the limits. -/
def Step.OverLimit (step : Step) : Prop :=
  ∃ rejection, step.outcome = .error rejection ∧ rejection.IsLimit

theorem not_overLimit_ok (answer : Answer) (cursor : Cursor) :
    ¬ Step.OverLimit ⟨.ok answer, cursor⟩ := nofun

theorem overLimit_error_iff {rejection : Rejection} {cursor : Cursor} :
    Step.OverLimit ⟨.error rejection, cursor⟩ ↔ rejection.IsLimit := by
  constructor
  · intro hover
    obtain ⟨_, heq, hkind⟩ := hover
    cases heq
    exact hkind
  · exact fun hkind => ⟨rejection, rfl, hkind⟩

/-- What a call does to a cursor. -/
structure Lawful (before : Cursor) (call : Call) (step : Step) : Prop where
  /-- A cursor never goes back. -/
  forward : before.position ≤ step.cursor.position
  /-- No construct that was open before is closed. -/
  deeper : before.depth ≤ step.cursor.depth
  finished : call = .finished → step.cursor = before
  lookahead : call = .lookahead → step.cursor = before
  refused : ∀ word, call = .accept word → step.outcome = .ok (.flag false) → step.cursor = before
  /-- What is read has at least one character, and nothing stays open that it opened. -/
  returned : ∀ production answer, call = .read production → step.outcome = .ok answer →
    before.position < step.cursor.position ∧ step.cursor.depth = before.depth
  /-- Only reading fails: at the place its rejection names, and with those constructs left open whose
  signs it passed and whose ends it did not find. -/
  failed : ∀ rejection, step.outcome = .error rejection →
    (∃ production, call = .read production) ∧
      rejection.position? = some step.cursor.position ∧
      ∃ passed, before.Passes passed step.cursor ∧
        step.cursor.depth = before.depth + (openSigns passed).length

namespace Takes

variable {cursor : Cursor} {call : Call} {step : Step}

/-- A call passes a text, and opens at most as many constructs as that has characters. -/
theorem passes (h : Takes cursor call step) :
    ∃ passed, cursor.Passes passed step.cursor ∧ cursor.depth ≤ step.cursor.depth ∧
      step.cursor.depth ≤ cursor.depth + passed.length := by
  cases h with
  | finished | lookahead | refused _ =>
    exact ⟨[], .refl cursor, Nat.le_refl _, Nat.le_refl _⟩
  | accepted present =>
    exact ⟨_, Cursor.passes_advance present, Nat.le_refl _, Nat.le_add_right _ _⟩
  | returned reads =>
    obtain ⟨passed, _, hpass, hdepth⟩ := reads.returns
    exact ⟨passed, hpass, Nat.le_of_eq hdepth.symm, hdepth ▸ Nat.le_add_right _ _⟩
  | failed reads =>
    obtain ⟨passed, hpass, hdepth⟩ := reads.depth_eq_openSigns
    refine ⟨passed, hpass, ?_, ?_⟩
    · rw [hdepth]
      exact Nat.le_add_right _ _
    · rw [hdepth]
      exact Nat.add_le_add_left (length_openSigns_le passed) _

theorem lawful (h : Takes cursor call step) : Lawful cursor call step := by
  obtain ⟨text, hpasses, hdeeper, _⟩ := h.passes
  have hforward : cursor.position ≤ step.cursor.position := by
    rw [hpasses.position]
    exact Nat.le_add_right _ _
  cases h with
  | finished | lookahead | refused _ =>
    exact ⟨hforward, hdeeper, fun _ => rfl, fun _ => rfl, fun _ _ _ => rfl, nofun, nofun⟩
  | accepted _ => exact ⟨hforward, hdeeper, nofun, nofun, nofun, nofun, nofun⟩
  | @returned _ _ next reads =>
    obtain ⟨passed, hne, hpass, hdepth⟩ := reads.returns
    have hmoves : cursor.position < next.position := by
      rw [hpass.position]
      exact Nat.lt_add_of_pos_right (List.length_pos_iff.mpr hne)
    exact ⟨hforward, hdeeper, nofun, nofun, nofun, fun _ _ _ _ => ⟨hmoves, hdepth⟩, nofun⟩
  | @failed production _ _ reads =>
    refine ⟨hforward, hdeeper, nofun, nofun, nofun, nofun, fun rejection heq => ?_⟩
    cases heq
    exact ⟨⟨production, rfl⟩, reads.position?_eq rfl, reads.depth_eq_openSigns⟩

/-- More constructs than the limit are counted behind a call exactly if there were as many before or
the call was rejected for a limit. -/
theorem over_iff (h : Takes cursor call step) :
    nestingLimit < step.cursor.depth ↔ nestingLimit < cursor.depth ∨ step.OverLimit := by
  cases h with
  | finished | lookahead | refused _ | accepted _ => exact (or_iff_left (not_overLimit_ok _ _)).symm
  | returned reads =>
    obtain ⟨_, _, _, hdepth⟩ := reads.returns
    rw [or_iff_left (not_overLimit_ok _ _), hdepth]
  | failed reads =>
    rw [overLimit_error_iff]
    exact reads.over_iff rfl

end Takes

/-! ## Sessions -/

/-- Where the last of some steps left the cursor. -/
def reached (cursor : Cursor) : List Step → Cursor
  | [] => cursor
  | step :: steps => reached step.cursor steps

theorem run_append (calls more : List Call) : ∀ cursor : Cursor,
    run cursor (calls ++ more) =
      run cursor calls ++ run (reached cursor (run cursor calls)) more := by
  induction calls with
  | nil => exact fun _ => rfl
  | cons call calls ih => exact fun cursor => congrArg _ (ih _)

/-- What every call keeps holds at the end of a session if it did at its beginning. -/
theorem reached_of_step {Keeps : Cursor → Prop}
    (hstep : ∀ cursor call, Keeps cursor → Keeps (step cursor call).cursor) (calls : List Call) :
    ∀ cursor : Cursor, Keeps cursor → Keeps (reached cursor (run cursor calls)) := by
  induction calls with
  | nil => exact fun _ h => h
  | cons call calls ih => exact fun cursor h => ih _ (hstep cursor call h)

/-- The cursor is a place in the text, with no more constructs counted than characters passed. -/
structure Placed (text : List Char) (cursor : Cursor) : Prop where
  unread : cursor.unread = text.drop cursor.position
  position_le : cursor.position ≤ text.length
  depth_le : cursor.depth ≤ cursor.position

theorem placed_start (text : List Char) : Placed text (Cursor.start text) :=
  ⟨rfl, Nat.zero_le _, Nat.zero_le _⟩

theorem Placed.step {text : List Char} {cursor : Cursor} (h : Placed text cursor) (call : Call) :
    Placed text (Session.step cursor call).cursor := by
  obtain ⟨passed, hpass, _, hdepth⟩ := (takes_step cursor call).passes
  have hunread := hpass.unread
  have hposition := hpass.position
  have hle := h.depth_le
  have hlength : (text.drop cursor.position).length = text.length - cursor.position :=
    List.length_drop
  rw [← h.unread, hunread, List.length_append] at hlength
  refine ⟨?_, ?_, by omega⟩
  · rw [hposition, ← List.drop_drop, ← h.unread, hunread, List.drop_left]
  · have hbefore := h.position_le
    omega

/-- More constructs than the limit are counted exactly if there were as many at the beginning or
some call was rejected for a limit. -/
theorem depth_reached (calls : List Call) : ∀ cursor : Cursor,
    nestingLimit < (reached cursor (run cursor calls)).depth ↔
      nestingLimit < cursor.depth ∨ ∃ step ∈ run cursor calls, step.OverLimit := by
  induction calls with
  | nil =>
    intro cursor
    exact (or_iff_left (by simp [run])).symm
  | cons call calls ih =>
    intro cursor
    have hcall := (takes_step cursor call).over_iff
    show nestingLimit < (reached (step cursor call).cursor _).depth ↔ _
    rw [ih, hcall, or_assoc, run, List.exists_mem_cons_iff]

/-- At every moment of a session on a text the cursor is a place in that text with at most as many
constructs counted as characters passed, and more than the limit are counted exactly if a call was
rejected for a limit; and whatever is called next, its step is lawful. -/
theorem run_lawful (text : List Char) (calls : List Call) :
    let steps := run (Cursor.start text) calls
    let cursor := reached (Cursor.start text) steps
    Placed text cursor ∧
      (nestingLimit < cursor.depth ↔ ∃ step ∈ steps, step.OverLimit) ∧
      ∀ call, ∃ next, run (Cursor.start text) (calls ++ [call]) = steps ++ [next] ∧
        Lawful cursor call next := by
  intro steps cursor
  have hplaced : Placed text cursor :=
    reached_of_step (fun _ call h => h.step call) calls _ (placed_start text)
  have hstart : ¬ nestingLimit < (Cursor.start text).depth := Nat.not_lt_zero _
  refine ⟨hplaced, (depth_reached calls _).trans (or_iff_right hstart), fun call => ?_⟩
  exact ⟨step cursor call, run_append calls [call] _, (takes_step cursor call).lawful⟩

example :
    (run (Cursor.start ['!', '(', 'a', '&', ')']) [.read .formula, .accept [')'], .finished]).map
      (fun step => (step.cursor.position, step.cursor.depth)) = [(4, 2), (5, 2), (5, 2)] := by
  rfl

end Session

end Propositional
