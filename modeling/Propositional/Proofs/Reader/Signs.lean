import Mathlib.Data.List.DropRight
import Propositional.Proofs.Reader.DeadEnd
import Propositional.Proofs.Reader.Depth

/-!
# Signs that are still open

A cursor only counts the constructs that are open.  Which ones they are can be told from the text
alone: `openSigns` goes through it with a pile of the negation signs and parentheses that have no
end yet.

* `Derives.after_eq`: a whole phrase opens nothing, and it ends the negations before it.
* `Reads.staysOpen` is the invariant of a failing run.  What has been passed leaves signs on the
  pile, and the depth has grown by their number.
* `Reads.over_iff`: a run gets over the limit only by a rejection that says so.
-/

namespace Propositional

/-! ## The pile of open signs -/

namespace Signs

/-- What is left of a pile behind an operand: the negations on top of it have ended. -/
def settle (signs : List Char) : List Char := signs.dropWhile (· == '!')

/-- The pile behind one more character.  A closing sign ends the innermost parenthesis, which is an
operand then; and any character that opens nothing belongs to an operand or stands behind one. -/
def step (signs : List Char) (char : Char) : List Char :=
  if char = '!' ∨ char = '(' then char :: signs
  else if char = ')' then settle (settle signs).tail
  else settle signs

/-- The pile behind a text. -/
def after (signs text : List Char) : List Char := text.foldl step signs

end Signs

/-- The negation signs and parentheses in a text whose constructs do not end in it, the innermost
first. -/
def openSigns (text : List Char) : List Char := Signs.after [] text

namespace Signs

theorem settle_settle (signs : List Char) : settle (settle signs) = settle signs :=
  List.dropWhile_idempotent (· == '!') signs

theorem settle_negation (signs : List Char) : settle ('!' :: signs) = settle signs := rfl

theorem settle_parenthesis (signs : List Char) : settle ('(' :: signs) = '(' :: signs := rfl

theorem length_settle_le (signs : List Char) : (settle signs).length ≤ signs.length :=
  (List.dropWhile_sublist _).length_le

theorem after_nil (signs : List Char) : after signs [] = signs := rfl

theorem after_cons (signs : List Char) (char : Char) (text : List Char) :
    after signs (char :: text) = after (step signs char) text := rfl

theorem after_append (signs text more : List Char) :
    after signs (text ++ more) = after (after signs text) more :=
  List.foldl_append

/-- A character adds at most one sign to the pile. -/
theorem length_step_le (signs : List Char) (char : Char) :
    (step signs char).length ≤ signs.length + 1 := by
  have hsettle := length_settle_le signs
  unfold step
  split
  · exact Nat.le_refl _
  · split
    · have htail : (settle signs).tail.length ≤ (settle signs).length := by
        rw [List.length_tail]
        omega
      have hagain := length_settle_le (settle signs).tail
      omega
    · omega

theorem length_after_le (text : List Char) :
    ∀ signs : List Char, (after signs text).length ≤ signs.length + text.length := by
  induction text with
  | nil => exact fun signs => Nat.le_refl _
  | cons char text ih =>
    intro signs
    have hstep := length_step_le signs char
    have hrest := ih (step signs char)
    rw [after_cons, List.length_cons]
    omega

end Signs

theorem length_openSigns_le (text : List Char) : (openSigns text).length ≤ text.length := by
  have h := Signs.length_after_le text []
  rwa [List.length_nil, Nat.zero_add] at h

theorem Connective.after_spelling (connective : Connective) (signs : List Char) :
    Signs.after signs connective.spelling = Signs.settle signs := by
  cases connective with
  | and | or => rfl
  | implies =>
    show Signs.settle (Signs.settle signs) = _
    rw [Signs.settle_settle]
  | iff =>
    show Signs.settle (Signs.settle (Signs.settle signs)) = _
    rw [Signs.settle_settle, Signs.settle_settle]

theorem Signs.after_literal (value : Bool) (signs : List Char) :
    Signs.after signs (literal value) = Signs.settle signs := by
  cases value with
  | true =>
    show Signs.settle (Signs.settle (Signs.settle (Signs.settle signs))) = _
    simp only [Signs.settle_settle]
  | false =>
    show Signs.settle (Signs.settle (Signs.settle (Signs.settle (Signs.settle signs)))) = _
    simp only [Signs.settle_settle]

/-- A whole phrase opens nothing that it does not close, and it is an operand for the negations
before it. -/
theorem Derives.after_eq {production : Production} {text : List Char} {formula : Formula}
    {nesting : Nat} (h : Derives production text formula nesting) :
    ∀ signs : List Char, Signs.after signs text = Signs.settle signs := by
  induction h with
  | letter letter =>
    intro signs
    cases letter <;> rfl
  | literal value => exact Signs.after_literal value
  | @parenthesized text _ _ _ ih =>
    intro signs
    have hinside : Signs.after ('(' :: signs) text = '(' :: signs := by
      rw [ih, Signs.settle_parenthesis]
    rw [Signs.after_cons]
    show Signs.after ('(' :: signs) (text ++ [')']) = _
    rw [Signs.after_append, hinside]
    rfl
  | plain _ ih | single _ ih => exact ih
  | @negated text _ _ _ ih =>
    intro signs
    rw [Signs.after_cons]
    show Signs.after ('!' :: signs) text = _
    rw [ih, Signs.settle_negation]
  | @joined connective leftText _ _ rightText _ _ _ _ ihfirst ihlast =>
    intro signs
    rw [Signs.after_append, Signs.after_append, ihfirst, connective.after_spelling, ihlast,
      Signs.settle_settle, Signs.settle_settle]

/-! ## Runs that fail -/

/-- The piles in front of which the aim may stand.  A chain of operands is never the operand of a
negation. -/
def Aim.MayFollow (signs : List Char) : Aim → Prop
  | .phrase (.binary _) => Signs.settle signs = signs
  | .phrase .negation => True
  | .phrase .primary => True
  | .others _ _ => Signs.settle signs = signs

theorem Aim.mayFollow_nil (aim : Aim) : aim.MayFollow [] := by
  match aim with
  | .phrase (.binary _) => exact rfl
  | .phrase .negation => trivial
  | .phrase .primary => trivial
  | .others _ _ => exact rfl

theorem Aim.mayFollow_operand {signs : List Char} (connective : Connective)
    (h : Signs.settle signs = signs) :
    (Aim.phrase connective.operandLevel).MayFollow signs := by
  cases connective with
  | and => trivial
  | or | implies | iff => exact h

/-- Between the two cursors signs have been passed that are still open, and the depth has grown by
their number. -/
def StaysOpen (aim : Aim) (cursor stop : Cursor) : Prop :=
  ∃ text opened, cursor.Passes text stop ∧ stop.depth = cursor.depth + opened.length ∧
    ∀ signs, aim.MayFollow signs → Signs.after signs text = opened ++ signs

namespace StaysOpen

variable {connective : Connective} {cursor next stop : Cursor} {text : List Char} {sign : Char}
  {left : Formula} {aim inner : Aim}

/-- Nothing has been passed. -/
theorem refl (aim : Aim) (cursor : Cursor) : StaysOpen aim cursor cursor :=
  ⟨[], [], .refl cursor, rfl, fun _ _ => rfl⟩

/-- What leaves a pile as it is can be passed before. -/
theorem trans (hpass : cursor.Passes text next) (hdepth : next.depth = cursor.depth)
    (hafter : ∀ signs, aim.MayFollow signs →
      Signs.after signs text = signs ∧ inner.MayFollow signs)
    (hrest : StaysOpen inner next stop) : StaysOpen aim cursor stop := by
  obtain ⟨others, opened, hpass', hdepth', hopened⟩ := hrest
  refine ⟨text ++ others, opened, hpass.trans hpass', ?_, fun signs hsigns => ?_⟩
  · rw [hdepth', hdepth]
  · obtain ⟨hsame, hinner⟩ := hafter signs hsigns
    rw [Signs.after_append, hsame]
    exact hopened signs hinner

/-- A sign that opens a construct stays open if what follows it does not come to its end. -/
theorem opened (hsign : sign = '!' ∨ sign = '(') (hnext : [sign] <+: cursor.unread)
    (hinner : ∀ signs, inner.MayFollow (sign :: signs))
    (hcontent : StaysOpen inner cursor.opened stop) : StaysOpen aim cursor stop := by
  obtain ⟨others, opened, hpass, hdepth, hopened⟩ := hcontent
  refine ⟨sign :: others, opened ++ [sign], (Cursor.passes_opened hnext).trans hpass, ?_,
    fun signs _ => ?_⟩
  · rw [hdepth, Cursor.opened_depth, List.length_append, List.length_singleton]
    omega
  · have hstep : Signs.step signs sign = sign :: signs := if_pos hsign
    rw [Signs.after_cons, hstep, hopened _ (hinner signs), List.append_assoc]
    rfl

end StaysOpen

/-- A run that fails leaves open what it counts as open. -/
theorem Reads.staysOpen {limit : Nat} {aim : Aim} {cursor : Cursor} {outcome : Outcome}
    (h : Reads limit aim cursor outcome) : ∀ {rejection : Rejection} {stop : Cursor},
      outcome = .error rejection stop → StaysOpen aim cursor stop := by
  have hparenthesis : ∀ signs, (Aim.phrase .formula).MayFollow ('(' :: signs) :=
    Signs.settle_parenthesis
  have hnegation : ∀ signs, (Aim.phrase .negation).MayFollow ('!' :: signs) := fun _ => trivial
  have hprimary : ∀ signs, (Aim.phrase .primary).MayFollow signs := fun _ => trivial
  induction h with
  | joined hfirst _ _ ihrest =>
    intro rejection stop heq
    obtain ⟨text, hpass, hdepth, _, hderives, _⟩ := hfirst.yields rfl
    refine .trans hpass hdepth (fun signs hsigns => ⟨?_, hsigns⟩) (ihrest heq)
    exact (hderives.after_eq signs).trans hsigns
  | @firstFails connective cursor _ _ _ ih =>
    intro rejection stop heq
    exact .trans (.refl cursor) rfl
      (fun signs hsigns => ⟨rfl, Aim.mayFollow_operand connective hsigns⟩) (ih heq)
  | @more connective _ _ _ _ _ present hoperand _ _ ihrest =>
    intro rejection stop heq
    obtain ⟨text, hpass, hdepth, _, hderives, _⟩ := hoperand.yields rfl
    refine .trans ((Cursor.passes_advance present).trans hpass) hdepth
      (fun signs hsigns => ⟨?_, hsigns⟩) (ihrest heq)
    have hsettled : Signs.settle signs = signs := hsigns
    rw [Signs.after_append, connective.after_spelling, hderives.after_eq, hsettled, hsettled]
  | @operandFails connective _ _ _ _ present _ ih =>
    intro rejection stop heq
    exact .trans (Cursor.passes_advance present) rfl
      (fun signs hsigns => ⟨(connective.after_spelling signs).trans hsigns,
        Aim.mayFollow_operand connective hsigns⟩) (ih heq)
  | negatedFails sign _ _ ih =>
    intro rejection stop heq
    exact .opened (.inl rfl) sign hnegation (ih heq)
  | @negationTooDeep cursor sign _ =>
    intro rejection stop heq
    cases heq
    exact .opened (.inl rfl) sign hnegation (.refl (.phrase .negation) _)
  | @plain cursor _ _ _ ih =>
    intro rejection stop heq
    exact .trans (.refl cursor) rfl (fun signs _ => ⟨rfl, hprimary signs⟩) (ih heq)
  | unclosed sign _ hcontent _ _ =>
    intro rejection stop heq
    cases heq
    obtain ⟨text, hpass, hdepth, _, hderives, _⟩ := hcontent.yields rfl
    -- The content is complete, so only the parenthesis itself has no end.
    refine .opened (.inr rfl) sign hparenthesis (.trans hpass hdepth
      (fun signs hsigns => ⟨?_, hsigns⟩) (.refl (.phrase .formula) _))
    exact (hderives.after_eq signs).trans hsigns
  | contentFails sign _ _ ih =>
    intro rejection stop heq
    exact .opened (.inr rfl) sign hparenthesis (ih heq)
  | parenthesisTooDeep sign _ =>
    intro rejection stop heq
    cases heq
    exact .opened (.inr rfl) sign hparenthesis (.refl (.phrase .formula) _)
  | @atom cursor _ =>
    intro rejection stop heq
    obtain ⟨_, rfl, _⟩ := Reader.atom_eq_error heq
    exact .refl _ _
  | done | negated | parenthesized =>
    intro rejection stop heq
    cases heq

/-! ## Runs that get over the limit -/

theorem Cursor.missing_not_isLimit (cursor : Cursor) : ¬ cursor.missing.IsLimit := by
  obtain ⟨_ | ⟨char, rest⟩, position, depth⟩ := cursor <;> exact id

/-- Behind a run that fails, more constructs than the limit are counted exactly if there were as
many before or the run is rejected for a limit. -/
theorem Reads.over_iff {limit : Nat} {aim : Aim} {cursor : Cursor} {outcome : Outcome}
    (h : Reads limit aim cursor outcome) : ∀ {rejection : Rejection} {stop : Cursor},
      outcome = .error rejection stop →
      (limit < stop.depth ↔ limit < cursor.depth ∨ rejection.IsLimit) := by
  induction h with
  | joined hfirst _ _ ihrest =>
    intro rejection stop heq
    obtain ⟨_, _, hdepth, _⟩ := hfirst.yields rfl
    rw [ihrest heq, hdepth]
  | firstFails _ ih | operandFails _ _ ih | plain _ _ ih => exact ih
  | more present hoperand _ _ ihrest =>
    intro rejection stop heq
    obtain ⟨_, _, hdepth, _⟩ := hoperand.yields rfl
    rw [ihrest heq, hdepth, Cursor.advance_depth]
  | negatedFails _ room _ ih | contentFails _ room _ ih =>
    intro rejection stop heq
    have hinside : ¬ limit < Cursor.depth _ + 1 := Nat.not_lt.mpr room
    have houtside : ¬ limit < Cursor.depth _ := Nat.not_lt.mpr (Nat.le_of_lt room)
    rw [ih heq, Cursor.opened_depth, or_iff_right hinside, or_iff_right houtside]
  | negationTooDeep _ full | parenthesisTooDeep _ full =>
    intro rejection stop heq
    cases heq
    exact iff_of_true (Nat.lt_succ_of_le full) (.inr trivial)
  | unclosed _ room hcontent _ _ =>
    intro rejection stop heq
    cases heq
    obtain ⟨_, _, hdepth, _⟩ := hcontent.yields rfl
    rw [hdepth, Cursor.opened_depth]
    refine iff_of_false (Nat.not_lt.mpr room) (not_or_intro ?_ id)
    exact Nat.not_lt.mpr (Nat.le_of_lt room)
  | @atom cursor _ =>
    intro rejection stop heq
    obtain ⟨rfl, rfl, _⟩ := Reader.atom_eq_error heq
    exact (or_iff_left stop.missing_not_isLimit).symm
  | done | negated | parenthesized =>
    intro rejection stop heq
    cases heq

end Propositional
