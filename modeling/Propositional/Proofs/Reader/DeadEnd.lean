import Propositional.Proofs.Reader.Exact
import Propositional.Proofs.Reader.Standing

/-!
# Where reading gives up

A text that is no formula has a first place where it stops being the beginning of one, and that is
the place which its rejection names.

* `Reads.deadEnd` is the invariant of a failing run.  What has been read can be completed to what
  was asked for, and no token that may come next does come next.  The lemmas in the namespace
  `DeadEnd` are its cases: each carries a dead end of a part over to the whole.
* `RejectedAt` says what the place means for the text, and `DeterminedAt` what it says about the
  rejection.
* `rejection_at_dead_end` is the result on whole texts.
-/

namespace Propositional

/-! ## Runs that fail -/

/-- The standing in which reading for the aim begins. -/
def Aim.operandDue : Aim → Bool
  | .phrase _ => true
  | .others _ _ => false

/-- Reading fails at the cursor, in the standing: no token that may come next comes next. -/
inductive Stuck : Standing → Cursor → Rejection → Prop where
  | operand {opened cursor}
      (none : ∀ token : Token, token.spelling <+: cursor.unread →
        ∀ opened, Standing.step ⟨true, opened⟩ token = none) :
      Stuck ⟨true, opened⟩ cursor cursor.missing
  | closing {opened cursor}
      (none : ∀ token : Token, token.spelling <+: cursor.unread →
        ∀ opened, Standing.step ⟨false, opened⟩ token = none) :
      Stuck ⟨false, opened + 1⟩ cursor (.unclosed cursor.unread.head? cursor.position)

theorem Stuck.within {standing : Standing} {cursor : Cursor} {rejection : Rejection}
    (h : Stuck standing cursor rejection) (count : Nat) :
    Stuck (standing.within count) cursor rejection := by
  cases h with
  | operand none => exact .operand none
  | @closing opened _ none =>
    show Stuck ⟨false, opened + 1 + count⟩ _ _
    rw [Nat.add_right_comm]
    exact .closing none

theorem Stuck.step_eq_none {standing : Standing} {cursor : Cursor} {rejection : Rejection}
    (h : Stuck standing cursor rejection) {token : Token}
    (htoken : token.spelling <+: cursor.unread) : standing.step token = none := by
  cases h with
  | operand none => exact none token htoken _
  | closing none => exact none token htoken _

/-- Between the cursor, where an operand is due or not, and the one where reading fails there are
tokens that may stand there, and a text behind them completes what the aim asks for. -/
def DeadEnd (limit : Nat) (aim : Aim) (cursor stop : Cursor) (rejection : Rejection) : Prop :=
  ∃ tokens tail formula standing, cursor.Passes (Token.spell tokens) stop ∧
    aim.Yields limit cursor.depth (Token.spell tokens ++ tail) formula ∧
    (∀ opened, Standing.after ⟨aim.operandDue, opened⟩ tokens = some (standing.within opened)) ∧
    Stuck standing stop rejection

theorem Aim.Yields.supplied {limit depth : Nat} {text : List Char} {formula : Formula}
    {production : Production} (h : (phrase production).Yields limit depth text formula) :
    ∃ tokens, text = Token.spell tokens ∧ Standing.Supplied tokens := by
  obtain ⟨nesting, hderives, _⟩ := h
  exact hderives.supplied

namespace DeadEnd

variable {limit : Nat} {connective : Connective} {cursor next stop : Cursor} {text : List Char}
  {left right formula : Formula} {rejection : Rejection}

theorem joined (hpass : cursor.Passes text next) (hdepth : next.depth = cursor.depth)
    (hfirst : (Aim.phrase connective.operandLevel).Yields limit cursor.depth text left)
    (hrest : DeadEnd limit (.others connective left) next stop rejection) :
    DeadEnd limit (.phrase (.binary connective)) cursor stop rejection := by
  obtain ⟨tokens, htext, hsupplied⟩ := hfirst.supplied
  obtain ⟨others, tail, whole, standing, hpass', hyields, hafter, hstuck⟩ := hrest
  subst htext
  rw [hdepth] at hyields
  refine ⟨tokens ++ others, tail, whole, standing, ?_, ?_, fun opened => ?_, hstuck⟩
  · rw [Token.spell_append]
    exact hpass.trans hpass'
  · rw [Token.spell_append, List.append_assoc]
    exact Aim.yields_joined hfirst hyields
  · show Standing.after ⟨true, opened⟩ (tokens ++ others) = _
    rw [Standing.after_append, hsupplied]
    exact hafter opened

theorem first (hfirst : DeadEnd limit (.phrase connective.operandLevel) cursor stop rejection) :
    DeadEnd limit (.phrase (.binary connective)) cursor stop rejection := by
  obtain ⟨tokens, tail, whole, standing, hpass, hyields, hafter, hstuck⟩ := hfirst
  have hsingle := Aim.yields_joined hyields (Aim.yields_done connective whole)
  rw [List.append_nil] at hsingle
  exact ⟨tokens, tail, whole, standing, hpass, hsingle, hafter, hstuck⟩

theorem more (present : connective.spelling <+: cursor.unread)
    (hpass : (cursor.advance connective.spelling.length).Passes text next)
    (hdepth : next.depth = cursor.depth)
    (hoperand : (Aim.phrase connective.operandLevel).Yields limit cursor.depth text right)
    (hrest : DeadEnd limit (.others connective (.bin connective left right)) next stop
      rejection) :
    DeadEnd limit (.others connective left) cursor stop rejection := by
  obtain ⟨tokens, htext, hsupplied⟩ := hoperand.supplied
  obtain ⟨others, tail, whole, standing, hpass', hyields, hafter, hstuck⟩ := hrest
  subst htext
  rw [hdepth] at hyields
  have hspell : Token.spell (.connective connective :: (tokens ++ others)) =
      connective.spelling ++ (Token.spell tokens ++ Token.spell others) := by
    rw [Token.spell_cons, Token.spell_append]
    rfl
  refine ⟨.connective connective :: (tokens ++ others), tail, whole, standing, ?_, ?_,
    fun opened => ?_, hstuck⟩
  · rw [hspell]
    exact (Cursor.passes_advance present).trans (hpass.trans hpass')
  · rw [hspell, List.append_assoc, List.append_assoc]
    exact Aim.yields_more hoperand hyields
  · show Standing.after ⟨true, opened⟩ (tokens ++ others) = _
    rw [Standing.after_append, hsupplied]
    exact hafter opened

theorem operand (present : connective.spelling <+: cursor.unread)
    (hoperand : DeadEnd limit (.phrase connective.operandLevel)
      (cursor.advance connective.spelling.length) stop rejection) :
    DeadEnd limit (.others connective left) cursor stop rejection := by
  obtain ⟨tokens, tail, whole, standing, hpass, hyields, hafter, hstuck⟩ := hoperand
  refine ⟨.connective connective :: tokens, tail, .bin connective left whole, standing, ?_, ?_,
    hafter, hstuck⟩
  · exact (Cursor.passes_advance present).trans hpass
  · have hmore := Aim.yields_more hyields (Aim.yields_done connective (.bin connective left whole))
    rw [List.append_nil] at hmore
    rw [Token.spell_cons, List.append_assoc]
    exact hmore

theorem negated (sign : ['!'] <+: cursor.unread) (room : cursor.depth < limit)
    (hcontent : DeadEnd limit (.phrase .negation) cursor.opened stop rejection) :
    DeadEnd limit (.phrase .negation) cursor stop rejection := by
  obtain ⟨tokens, tail, whole, standing, hpass, hyields, hafter, hstuck⟩ := hcontent
  exact ⟨.negation :: tokens, tail, .neg whole, standing,
    (Cursor.passes_opened sign).trans hpass, Aim.yields_negated room hyields, hafter, hstuck⟩

theorem plain (hcontent : DeadEnd limit (.phrase .primary) cursor stop rejection) :
    DeadEnd limit (.phrase .negation) cursor stop rejection := by
  obtain ⟨tokens, tail, whole, standing, hpass, hyields, hafter, hstuck⟩ := hcontent
  exact ⟨tokens, tail, whole, standing, hpass, Aim.yields_plain hyields, hafter, hstuck⟩

theorem content (sign : ['('] <+: cursor.unread) (room : cursor.depth < limit)
    (hcontent : DeadEnd limit (.phrase .formula) cursor.opened stop rejection) :
    DeadEnd limit (.phrase .primary) cursor stop rejection := by
  obtain ⟨tokens, tail, whole, standing, hpass, hyields, hafter, hstuck⟩ := hcontent
  refine ⟨.leftParen :: tokens, tail ++ [')'], whole, standing.within 1,
    (Cursor.passes_opened sign).trans hpass, ?_, fun opened => ?_, hstuck.within 1⟩
  · have hclosed := Aim.yields_parenthesized room hyields
    rw [List.append_assoc] at hclosed
    exact hclosed
  · show Standing.after ⟨true, opened + 1⟩ tokens = _
    rw [show (standing.within 1).within opened = standing.within (opened + 1) by
      simp only [Standing.within, Nat.add_assoc, Nat.add_comm 1]]
    exact hafter (opened + 1)

/-- Behind the content of a parenthesis only a connective and the closing sign may come next. -/
theorem unclosed (sign : ['('] <+: cursor.unread) (room : cursor.depth < limit)
    (hpass : cursor.opened.Passes text next)
    (hcontent : (Aim.phrase .formula).Yields limit (cursor.depth + 1) text formula)
    (hstops : Stops .formula next.unread) (absent : ¬ [')'] <+: next.unread) :
    DeadEnd limit (.phrase .primary) cursor next
      (.unclosed next.unread.head? next.position) := by
  obtain ⟨tokens, htext, hsupplied⟩ := hcontent.supplied
  subst htext
  refine ⟨.leftParen :: tokens, [')'], formula, ⟨false, 1⟩,
    (Cursor.passes_opened sign).trans hpass, Aim.yields_parenthesized room hcontent,
    fun opened => ?_, .closing fun token htoken opened => ?_⟩
  · show Standing.after ⟨true, opened + 1⟩ tokens = some ⟨false, 1 + opened⟩
    rw [hsupplied, Nat.add_comm]
  · cases token with
    | connective which => exact absurd htoken (hstops which (by cases which <;> decide))
    | rightParen => exact absurd htoken absent
    | letter _ | constant _ | negation | leftParen => rfl

/-- Where an atom is missing, a letter would have been one. -/
theorem missing (hnegation : ¬ ['!'] <+: cursor.unread) (hparen : ¬ ['('] <+: cursor.unread)
    (hletter : ∀ letter : Letter, ¬ [letter.char] <+: cursor.unread)
    (hliteral : ∀ value, ¬ literal value <+: cursor.unread) :
    DeadEnd limit (.phrase .primary) cursor cursor cursor.missing := by
  refine ⟨[], [Letter.a.char], .var Letter.a.name, ⟨true, 0⟩, .refl cursor, Aim.yields_letter .a,
    fun opened => ?_, .operand fun token htoken opened => ?_⟩
  · show some (⟨true, opened⟩ : Standing) = some ⟨true, 0 + opened⟩
    rw [Nat.zero_add]
  · cases token with
    | letter which => exact absurd htoken (hletter which)
    | constant value => exact absurd htoken (hliteral value)
    | negation => exact absurd htoken hnegation
    | leftParen => exact absurd htoken hparen
    | connective _ | rightParen => rfl

end DeadEnd

/-- Operands are never primaries as such: before those, a negation sign has been looked for. -/
theorem Connective.operandLevel_ne_primary (connective : Connective) :
    Aim.phrase connective.operandLevel ≠ .phrase .primary := by
  cases connective <;> simp [operandLevel]

/-- A run that fails for another reason than depth comes to a dead end. -/
theorem Reads.deadEnd {limit : Nat} {aim : Aim} {cursor : Cursor} {outcome : Outcome}
    (h : Reads limit aim cursor outcome) : ∀ {rejection : Rejection} {stop : Cursor},
      outcome = .error rejection stop → (∀ position, rejection ≠ .tooDeep position) →
      (aim = .phrase .primary → ¬ ['!'] <+: cursor.unread) →
      DeadEnd limit aim cursor stop rejection := by
  induction h with
  | joined hfirst _ _ ihrest =>
    intro rejection stop heq hdepth _
    obtain ⟨text, hpass, hnext, hyields⟩ := hfirst.yields rfl
    exact .joined hpass hnext hyields (ihrest heq hdepth (by simp))
  | @firstFails connective _ _ _ _ ih =>
    intro rejection stop heq hdepth _
    exact .first (ih heq hdepth fun hprimary =>
      absurd hprimary connective.operandLevel_ne_primary)
  | more present hoperand _ _ ihrest =>
    intro rejection stop heq hdepth _
    obtain ⟨text, hpass, hnext, hyields⟩ := hoperand.yields rfl
    exact .more present hpass hnext hyields (ihrest heq hdepth (by simp))
  | @operandFails connective _ _ _ _ present _ ih =>
    intro rejection stop heq hdepth _
    exact .operand present (ih heq hdepth fun hprimary =>
      absurd hprimary connective.operandLevel_ne_primary)
  | negatedFails sign room _ ih =>
    intro rejection stop heq hdepth _
    exact .negated sign room (ih heq hdepth (by simp))
  | plain absent _ ih =>
    intro rejection stop heq hdepth _
    exact .plain (ih heq hdepth fun _ => absent)
  | unclosed sign room hcontent absent _ =>
    intro rejection stop heq _ _
    cases heq
    obtain ⟨text, hpass, _, hyields⟩ := hcontent.yields rfl
    exact .unclosed sign room hpass hyields (hcontent.stops rfl) absent
  | contentFails sign room _ ih =>
    intro rejection stop heq hdepth _
    exact .content sign room (ih heq hdepth (by simp))
  | @atom cursor absent =>
    intro rejection stop heq _ hnegation
    obtain ⟨rfl, rfl, hletter, hliteral⟩ := Reader.atom_eq_error heq
    exact .missing (hnegation rfl) absent hletter hliteral
  | negationTooDeep | parenthesisTooDeep =>
    intro rejection stop heq hdepth _
    cases heq
    exact absurd rfl (hdepth _)
  | done | negated | parenthesized =>
    intro rejection stop heq _ _
    cases heq

/-- A rejection names the place where reading stopped. -/
theorem Reads.position?_eq {limit : Nat} {aim : Aim} {cursor : Cursor} {outcome : Outcome}
    (h : Reads limit aim cursor outcome) : ∀ {rejection : Rejection} {stop : Cursor},
      outcome = .error rejection stop → rejection.position? = some stop.position := by
  induction h with
  | joined _ _ _ ih | firstFails _ ih | more _ _ _ _ ih | operandFails _ _ ih
  | negatedFails _ _ _ ih | plain _ _ ih | contentFails _ _ _ ih => exact ih
  | negationTooDeep | unclosed | parenthesisTooDeep =>
    intro rejection stop heq
    cases heq
    rfl
  | @atom cursor _ =>
    intro rejection stop heq
    obtain ⟨rfl, rfl, _⟩ := Reader.atom_eq_error heq
    exact stop.missing_position?
  | done | negated | parenthesized =>
    intro rejection stop heq
    cases heq

/-! ## Whole texts -/

/-- A formula begins with the text, however deep it nests. -/
def BeginsFormula (text : List Char) : Prop :=
  ∃ rest formula nesting, Derives .formula (text ++ rest) formula nesting

/-- A formula that nests within the limit begins with the text. -/
def Viable (text : List Char) : Prop :=
  ∃ rest formula nesting, Derives .formula (text ++ rest) formula nesting ∧
    nesting ≤ nestingLimit

/-- No formula goes on with a token for which the standing has no use. -/
theorem not_beginsFormula {tokens : List Token} {standing : Standing} {token : Token}
    (hafter : Standing.after ⟨true, 0⟩ tokens = some standing)
    (hstep : standing.step token = none) :
    ¬ BeginsFormula (Token.spell tokens ++ token.spelling) := by
  intro h
  obtain ⟨rest, formula, nesting, hderives⟩ := h
  obtain ⟨whole, htext, hsupplied⟩ := hderives.supplied
  have hspell : Token.spell (tokens ++ [token]) <+: Token.spell whole := by
    rw [← htext, Token.spell_append, Token.spell_cons, Token.spell_nil, List.append_nil]
    exact List.prefix_append _ _
  obtain ⟨others, hwhole⟩ := Token.startsWith_of_spell hspell
  have hnone : Standing.after ⟨true, 0⟩ whole = none := by
    rw [← hwhole, Standing.after_append, Standing.after_append, hafter, Option.bind_some,
      Standing.after_singleton, hstep]
    rfl
  rw [hsupplied 0] at hnone
  cases hnone

/-- What a place in a text says about the rejection of the text there. -/
structure DeterminedAt (text : List Char) (position : Nat) (rejection : Rejection) : Prop where
  /-- An operand is due, and the text is over. -/
  ended : OperandDue (text.take position) → position = text.length →
    rejection = .operandMissing position
  /-- An operand is due, and something else is there. -/
  noOperand : OperandDue (text.take position) → ∀ h : position < text.length,
    rejection = .noToken text[position] position
  /-- An operand is there, and a parenthesis is open. -/
  unclosed : ¬ OperandDue (text.take position) →
    (text.take position).count ')' < (text.take position).count '(' →
    rejection = .unclosed text[position]? position
  /-- A formula is complete, and the text goes on with a token. -/
  surplus : ¬ OperandDue (text.take position) →
    (text.take position).count '(' = (text.take position).count ')' →
    ∃ h : position < text.length,
      ((∃ token : Token, token.spelling <+: text.drop position) →
        rejection = .surplus text[position] position) ∧
      ((∀ token : Token, ¬ token.spelling <+: text.drop position) →
        rejection = .noToken text[position] position)
  /-- No other case is left. -/
  balance : (text.take position).count ')' ≤ (text.take position).count '('

/-- The text is the beginning of a formula up to the position, and with no token that comes next
there it would still be one; the place determines the rejection. -/
structure RejectedAt (text : List Char) (position : Nat) (rejection : Rejection) : Prop where
  viable : Viable (text.take position)
  blocked : ∀ token : Token, token.spelling <+: text.drop position →
    ¬ BeginsFormula (text.take position ++ token.spelling)
  determined : DeterminedAt text position rejection

/-- What is left over is a token too many if a token begins there. -/
theorem Cursor.leftover?_of_token (cursor : Cursor) {char : Char} {rest : List Char}
    (hunread : cursor.unread = char :: rest) {token : Token}
    (htoken : token.spelling <+: cursor.unread) :
    cursor.leftover? = some (.surplus char cursor.position) := by
  have hnext := Token.next?_eq_some_iff.mpr htoken
  unfold leftover?
  rw [hunread] at hnext ⊢
  simp only [hnext]

theorem Cursor.leftover?_of_none (cursor : Cursor) {char : Char} {rest : List Char}
    (hunread : cursor.unread = char :: rest)
    (hnone : ∀ token : Token, ¬ token.spelling <+: cursor.unread) :
    cursor.leftover? = some (.noToken char cursor.position) := by
  have hnext := Token.next?_eq_none_iff.mpr hnone
  unfold leftover?
  rw [hunread] at hnext ⊢
  simp only [hnext]

theorem Cursor.position?_of_leftover {cursor : Cursor} {rejection : Rejection}
    (h : cursor.leftover? = some rejection) : rejection.position? = some cursor.position := by
  unfold leftover? at h
  split at h
  · cases h
  · split at h
    · cases h
      rfl
    · cases h
      rfl

section Places

variable {text read : List Char} {stop : Cursor} {tokens : List Token} {standing : Standing}
  {rejection : Rejection}

theorem Cursor.Passes.position_eq (hpass : (Cursor.start text).Passes read stop) :
    stop.position = read.length := by
  rw [hpass.position]
  exact Nat.zero_add _

theorem Cursor.Passes.take_eq (hpass : (Cursor.start text).Passes read stop) :
    text.take stop.position = read := by
  have htext : text = read ++ stop.unread := hpass.unread
  rw [hpass.position_eq, htext, List.take_left]

theorem Cursor.Passes.drop_eq (hpass : (Cursor.start text).Passes read stop) :
    text.drop stop.position = stop.unread := by
  have htext : text = read ++ stop.unread := hpass.unread
  rw [hpass.position_eq, htext, List.drop_left]

theorem Cursor.Passes.position_le (hpass : (Cursor.start text).Passes read stop) :
    stop.position ≤ text.length := by
  have htext : text = read ++ stop.unread := hpass.unread
  rw [hpass.position_eq, htext, List.length_append]
  omega

/-- The character at the place is the first one that is unread. -/
theorem Cursor.Passes.unread_eq_cons (hpass : (Cursor.start text).Passes read stop)
    (h : stop.position < text.length) :
    stop.unread = text[stop.position] :: text.drop (stop.position + 1) := by
  rw [← hpass.drop_eq]
  exact List.drop_eq_getElem_cons h

theorem Cursor.Passes.unread_eq_nil (hpass : (Cursor.start text).Passes read stop)
    (h : stop.position = text.length) : stop.unread = [] := by
  rw [← hpass.drop_eq, h, List.drop_length]

theorem determinedAt_of_stuck (hpass : (Cursor.start text).Passes (Token.spell tokens) stop)
    (hafter : Standing.after ⟨true, 0⟩ tokens = some standing)
    (hstuck : Stuck standing stop rejection) : DeterminedAt text stop.position rejection := by
  have hdue := Standing.operandDue_of_after hafter
  have hcount := Standing.count_of_after hafter
  rw [← hpass.take_eq] at hdue hcount
  cases hstuck with
  | @operand opened _ _ =>
    have hoperand : OperandDue (text.take stop.position) := hdue.mp rfl
    refine ⟨fun _ hend => ?_, fun _ hlt => ?_, fun hnot _ => absurd hoperand hnot,
      fun hnot _ => absurd hoperand hnot, ?_⟩
    · unfold Cursor.missing
      rw [hpass.unread_eq_nil hend]
    · unfold Cursor.missing
      rw [hpass.unread_eq_cons hlt]
    · simp only at hcount
      omega
  | @closing opened _ _ =>
    have hnot : ¬ OperandDue (text.take stop.position) := by
      intro hoperand
      cases hdue.mpr hoperand
    simp only at hcount
    refine ⟨fun hoperand _ => absurd hoperand hnot, fun hoperand _ => absurd hoperand hnot,
      fun _ _ => ?_, fun _ heq => ?_, ?_⟩
    · rw [← hpass.drop_eq, List.head?_drop]
    · exact absurd heq (by omega)
    · omega

theorem determinedAt_of_leftover (hpass : (Cursor.start text).Passes (Token.spell tokens) stop)
    (hsupplied : Standing.Supplied tokens) (hleft : stop.leftover? = some rejection) :
    DeterminedAt text stop.position rejection := by
  have hdue := Standing.operandDue_of_after (hsupplied 0)
  have hcount := Standing.count_of_after (hsupplied 0)
  rw [← hpass.take_eq] at hdue hcount
  have hnot : ¬ OperandDue (text.take stop.position) := by
    intro hoperand
    cases hdue.mpr hoperand
  simp only at hcount
  have hlt : stop.position < text.length := by
    refine Nat.lt_of_le_of_ne hpass.position_le fun hend => ?_
    rw [Cursor.leftover?_eq_none_iff.mpr (hpass.unread_eq_nil hend)] at hleft
    cases hleft
  refine ⟨fun hoperand _ => absurd hoperand hnot, fun hoperand _ => absurd hoperand hnot,
    fun _ hopen => ?_, fun _ _ => ⟨hlt, fun htoken => ?_, fun hnone => ?_⟩, ?_⟩
  · exact absurd hopen (by omega)
  · obtain ⟨token, htoken⟩ := htoken
    rw [hpass.drop_eq] at htoken
    rw [stop.leftover?_of_token (hpass.unread_eq_cons hlt) htoken] at hleft
    exact (Option.some.inj hleft).symm
  · rw [hpass.drop_eq] at hnone
    rw [stop.leftover?_of_none (hpass.unread_eq_cons hlt) hnone] at hleft
    exact (Option.some.inj hleft).symm
  · omega

end Places

/-- A token that comes next where a formula is complete is none that may stand there. -/
theorem step_eq_none_of_stops {text : List Char} (hstops : Stops .formula text) {token : Token}
    (htoken : token.spelling <+: text) : Standing.step ⟨false, 0⟩ token = none := by
  cases token with
  | connective which => exact absurd htoken (hstops which (by cases which <;> decide))
  | letter _ | constant _ | negation | leftParen | rightParen => rfl

/-- A rejection for another reason than length or depth names the first place at which the text is
no longer the beginning of a formula, and is the one that this place determines. -/
theorem rejection_at_dead_end {text : List Char} {rejection : Rejection}
    (hlength : text.length ≤ lengthLimit) (h : Formula.ofCanonical text = .error rejection) :
    ∃ position, rejection.position? = some position ∧ position ≤ text.length ∧
      ((∀ place, rejection ≠ .tooDeep place) → RejectedAt text position rejection) := by
  rcases ofCanonical_eq_error hlength h with ⟨stop, hreads⟩ | ⟨formula, stop, hreads, hleft⟩
  · obtain ⟨read, hread⟩ := hreads.passes
    refine ⟨stop.position, hreads.position?_eq rfl, hread.position_le, fun hdepth => ?_⟩
    obtain ⟨tokens, tail, formula, standing, hpass, ⟨nesting, hderives, hfits⟩, hafter, hstuck⟩ :=
      hreads.deadEnd rfl hdepth (by simp)
    have hafter : Standing.after ⟨true, 0⟩ tokens = some standing := hafter 0
    refine ⟨?_, fun token htoken => ?_, determinedAt_of_stuck hpass hafter hstuck⟩
    · rw [hpass.take_eq]
      exact ⟨tail, formula, nesting, hderives, fits_start_iff.mp hfits⟩
    · rw [hpass.drop_eq] at htoken
      rw [hpass.take_eq]
      exact not_beginsFormula hafter (hstuck.step_eq_none htoken)
  · obtain ⟨read, nesting, hread, _, hderives, hfits, hstops⟩ := reads_ok_iff.mp hreads
    obtain ⟨tokens, htext, hsupplied⟩ := hderives.supplied
    subst htext
    refine ⟨stop.position, Cursor.position?_of_leftover hleft, hread.position_le,
      fun _ => ⟨?_, fun token htoken => ?_, determinedAt_of_leftover hread hsupplied hleft⟩⟩
    · rw [hread.take_eq]
      refine ⟨[], formula, nesting, ?_, fits_start_iff.mp hfits⟩
      rw [List.append_nil]
      exact hderives
    · rw [hread.drop_eq] at htoken
      rw [hread.take_eq]
      exact not_beginsFormula (hsupplied 0) (step_eq_none_of_stops hstops htoken)

/-- `(!a->bfalse)` stops being the beginning of a formula in front of `false`, where the parenthesis
is still open. -/
theorem rejection_at_literal_in_parenthesis :
    ['(', '!', 'a', '-', '>', 'b', 'f', 'a', 'l', 's', 'e', ')'].length ≤ lengthLimit ∧
      Formula.ofCanonical ['(', '!', 'a', '-', '>', 'b', 'f', 'a', 'l', 's', 'e', ')'] =
        .error (.unclosed (some 'f') 6) ∧
      RejectedAt ['(', '!', 'a', '-', '>', 'b', 'f', 'a', 'l', 's', 'e', ')'] 6
        (.unclosed (some 'f') 6) := by
  have hlength :
      ['(', '!', 'a', '-', '>', 'b', 'f', 'a', 'l', 's', 'e', ')'].length ≤ lengthLimit := by
    decide
  have hrejected :
      Formula.ofCanonical ['(', '!', 'a', '-', '>', 'b', 'f', 'a', 'l', 's', 'e', ')'] =
        .error (.unclosed (some 'f') 6) := by
    rfl
  obtain ⟨position, hposition, _, hplace⟩ := rejection_at_dead_end hlength hrejected
  cases hposition
  refine ⟨hlength, hrejected, hplace fun place => ?_⟩
  simp

end Propositional
