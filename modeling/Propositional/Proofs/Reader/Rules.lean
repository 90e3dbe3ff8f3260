import Propositional.Proofs.Reader.Passing

/-!
# The rules of reading

`Reads` describes the reader by what it does: it has one rule for each way in which a level, or the
rest of a chain of operands, comes to its end, failures included.  The rules know neither re-entries
nor rounds.  By induction on them, reading goes forward (`Reads.passes`) and has one outcome
(`Reads.unique`).
-/

namespace Propositional

/-! ## The rules -/

/-- What is to be read: a phrase of a level, or the other operands of a chain whose beginning stands
for the formula on the left. -/
inductive Aim where
  | phrase (production : Production)
  | others (connective : Connective) (left : Formula)

/-- A formula or a rejection, and the cursor where reading stopped. -/
abbrev Outcome := EStateM.Result Rejection Cursor Formula

/-- The cursor where reading stopped. -/
def Outcome.cursor : Outcome → Cursor
  | .ok _ next => next
  | .error _ stop => stop

/-- Reading for the aim from the cursor has the outcome, where no more constructs than the limit may
be open at once. -/
inductive Reads (limit : Nat) : Aim → Cursor → Outcome → Prop where
  | joined {connective cursor left next outcome}
      (first : Reads limit (.phrase connective.operandLevel) cursor (.ok left next))
      (rest : Reads limit (.others connective left) next outcome) :
      Reads limit (.phrase (.binary connective)) cursor outcome
  | firstFails {connective cursor rejection stop}
      (first : Reads limit (.phrase connective.operandLevel) cursor (.error rejection stop)) :
      Reads limit (.phrase (.binary connective)) cursor (.error rejection stop)
  | done {connective left cursor} (absent : ¬ connective.spelling <+: cursor.unread) :
      Reads limit (.others connective left) cursor (.ok left cursor)
  | more {connective left cursor right next outcome}
      (present : connective.spelling <+: cursor.unread)
      (operand : Reads limit (.phrase connective.operandLevel)
        (cursor.advance connective.spelling.length) (.ok right next))
      (rest : Reads limit (.others connective (.bin connective left right)) next outcome) :
      Reads limit (.others connective left) cursor outcome
  | operandFails {connective left cursor rejection stop}
      (present : connective.spelling <+: cursor.unread)
      (operand : Reads limit (.phrase connective.operandLevel)
        (cursor.advance connective.spelling.length) (.error rejection stop)) :
      Reads limit (.others connective left) cursor (.error rejection stop)
  | negated {cursor operand next} (sign : ['!'] <+: cursor.unread)
      (room : cursor.depth < limit)
      (content : Reads limit (.phrase .negation) cursor.opened (.ok operand next)) :
      Reads limit (.phrase .negation) cursor (.ok (.neg operand) next.closed)
  | negatedFails {cursor rejection stop} (sign : ['!'] <+: cursor.unread)
      (room : cursor.depth < limit)
      (content : Reads limit (.phrase .negation) cursor.opened (.error rejection stop)) :
      Reads limit (.phrase .negation) cursor (.error rejection stop)
  | negationTooDeep {cursor} (sign : ['!'] <+: cursor.unread)
      (full : limit ≤ cursor.depth) :
      Reads limit (.phrase .negation) cursor
        (.error (.tooDeep cursor.opened.position) cursor.opened)
  | plain {cursor outcome} (absent : ¬ ['!'] <+: cursor.unread)
      (content : Reads limit (.phrase .primary) cursor outcome) :
      Reads limit (.phrase .negation) cursor outcome
  | parenthesized {cursor formula next} (sign : ['('] <+: cursor.unread)
      (room : cursor.depth < limit)
      (content : Reads limit (.phrase .formula) cursor.opened (.ok formula next))
      (closing : [')'] <+: next.unread) :
      Reads limit (.phrase .primary) cursor (.ok formula (next.advance 1).closed)
  | unclosed {cursor formula next} (sign : ['('] <+: cursor.unread)
      (room : cursor.depth < limit)
      (content : Reads limit (.phrase .formula) cursor.opened (.ok formula next))
      (absent : ¬ [')'] <+: next.unread) :
      Reads limit (.phrase .primary) cursor
        (.error (.unclosed next.unread.head? next.position) next)
  | contentFails {cursor rejection stop} (sign : ['('] <+: cursor.unread)
      (room : cursor.depth < limit)
      (content : Reads limit (.phrase .formula) cursor.opened (.error rejection stop)) :
      Reads limit (.phrase .primary) cursor (.error rejection stop)
  | parenthesisTooDeep {cursor} (sign : ['('] <+: cursor.unread)
      (full : limit ≤ cursor.depth) :
      Reads limit (.phrase .primary) cursor (.error (.tooDeep cursor.opened.position) cursor.opened)
  | atom {cursor} (absent : ¬ ['('] <+: cursor.unread) :
      Reads limit (.phrase .primary) cursor (Reader.atom cursor)

/-! ## The rules move forward and leave no choice -/

namespace Reads

/-- Reading goes forward, also where it fails. -/
theorem passes {limit : Nat} {aim : Aim} {cursor : Cursor} {outcome : Outcome}
    (h : Reads limit aim cursor outcome) : ∃ text, cursor.Passes text outcome.cursor := by
  induction h with
  | joined _ _ ihfirst ihrest =>
    obtain ⟨text, hfirst⟩ := ihfirst
    obtain ⟨others, hrest⟩ := ihrest
    exact ⟨text ++ others, hfirst.trans hrest⟩
  | firstFails _ ih => exact ih
  | done _ => exact ⟨[], .refl _⟩
  | more present _ _ ihoperand ihrest =>
    obtain ⟨text, hoperand⟩ := ihoperand
    obtain ⟨others, hrest⟩ := ihrest
    exact ⟨_, (Cursor.passes_advance present).trans (hoperand.trans hrest)⟩
  | operandFails present _ ih =>
    obtain ⟨text, hoperand⟩ := ih
    exact ⟨_, (Cursor.passes_advance present).trans hoperand⟩
  | negated sign _ _ ih =>
    obtain ⟨text, hcontent⟩ := ih
    exact ⟨_, ((Cursor.passes_opened sign).trans hcontent).closed⟩
  | negatedFails sign _ _ ih =>
    obtain ⟨text, hcontent⟩ := ih
    exact ⟨_, (Cursor.passes_opened sign).trans hcontent⟩
  | negationTooDeep sign _ => exact ⟨_, Cursor.passes_opened sign⟩
  | plain _ _ ih => exact ih
  | parenthesized sign _ _ closing ih =>
    obtain ⟨text, hcontent⟩ := ih
    have hinside := (Cursor.passes_opened sign).trans hcontent
    exact ⟨_, (hinside.trans (Cursor.passes_advance closing)).closed⟩
  | unclosed sign _ _ _ ih =>
    obtain ⟨text, hcontent⟩ := ih
    exact ⟨_, (Cursor.passes_opened sign).trans hcontent⟩
  | contentFails sign _ _ ih =>
    obtain ⟨text, hcontent⟩ := ih
    exact ⟨_, (Cursor.passes_opened sign).trans hcontent⟩
  | parenthesisTooDeep sign _ => exact ⟨_, Cursor.passes_opened sign⟩
  | @atom cursor _ =>
    rcases Reader.atom_cases cursor with ⟨letter, hword, heq⟩ | ⟨value, hword, heq⟩ | ⟨_, _, heq⟩
    · rw [heq]
      exact ⟨_, Cursor.passes_advance hword⟩
    · rw [heq]
      exact ⟨_, Cursor.passes_advance hword⟩
    · rw [heq]
      exact ⟨[], .refl _⟩

theorem length_le {limit : Nat} {aim : Aim} {cursor : Cursor} {outcome : Outcome}
    (h : Reads limit aim cursor outcome) :
    outcome.cursor.unread.length ≤ cursor.unread.length := by
  obtain ⟨text, hpass⟩ := h.passes
  exact hpass.length_le

/-- Reading for an aim from a cursor has one outcome. -/
theorem unique {limit : Nat} {aim : Aim} {cursor : Cursor} {outcome outcome' : Outcome}
    (h : Reads limit aim cursor outcome) (h' : Reads limit aim cursor outcome') :
    outcome = outcome' := by
  induction h generalizing outcome' with
  | joined _ _ ihfirst ihrest =>
    cases h' with
    | joined hfirst hrest =>
      cases ihfirst hfirst
      exact ihrest hrest
    | firstFails hfirst => cases ihfirst hfirst
  | firstFails _ ih =>
    cases h' with
    | joined hfirst _ => cases ih hfirst
    | firstFails hfirst => exact ih hfirst
  | done absent =>
    cases h' with
    | done _ => rfl
    | more present _ _ => exact absurd present absent
    | operandFails present _ => exact absurd present absent
  | more present _ _ ihoperand ihrest =>
    cases h' with
    | done absent => exact absurd present absent
    | more _ hoperand hrest =>
      cases ihoperand hoperand
      exact ihrest hrest
    | operandFails _ hoperand => cases ihoperand hoperand
  | operandFails present _ ih =>
    cases h' with
    | done absent => exact absurd present absent
    | more _ hoperand _ => cases ih hoperand
    | operandFails _ hoperand => exact ih hoperand
  | negated sign room _ ih =>
    cases h' with
    | negated _ _ hcontent =>
      cases ih hcontent
      rfl
    | negatedFails _ _ hcontent => cases ih hcontent
    | negationTooDeep _ full => exact absurd room (by omega)
    | plain absent _ => exact absurd sign absent
  | negatedFails sign room _ ih =>
    cases h' with
    | negated _ _ hcontent => cases ih hcontent
    | negatedFails _ _ hcontent => exact ih hcontent
    | negationTooDeep _ full => exact absurd room (by omega)
    | plain absent _ => exact absurd sign absent
  | negationTooDeep sign full =>
    cases h' with
    | negated _ room _ => exact absurd room (by omega)
    | negatedFails _ room _ => exact absurd room (by omega)
    | negationTooDeep _ _ => rfl
    | plain absent _ => exact absurd sign absent
  | plain absent _ ih =>
    cases h' with
    | negated sign _ _ => exact absurd sign absent
    | negatedFails sign _ _ => exact absurd sign absent
    | negationTooDeep sign _ => exact absurd sign absent
    | plain _ hcontent => exact ih hcontent
  | parenthesized sign room _ closing ih =>
    cases h' with
    | parenthesized _ _ hcontent _ =>
      cases ih hcontent
      rfl
    | unclosed _ _ hcontent absent =>
      cases ih hcontent
      exact absurd closing absent
    | contentFails _ _ hcontent => cases ih hcontent
    | parenthesisTooDeep _ full => exact absurd room (by omega)
    | atom absent => exact absurd sign absent
  | unclosed sign room _ absent ih =>
    cases h' with
    | parenthesized _ _ hcontent closing =>
      cases ih hcontent
      exact absurd closing absent
    | unclosed _ _ hcontent _ =>
      cases ih hcontent
      rfl
    | contentFails _ _ hcontent => cases ih hcontent
    | parenthesisTooDeep _ full => exact absurd room (by omega)
    | atom absent => exact absurd sign absent
  | contentFails sign room _ ih =>
    cases h' with
    | parenthesized _ _ hcontent _ => cases ih hcontent
    | unclosed _ _ hcontent _ => cases ih hcontent
    | contentFails _ _ hcontent => exact ih hcontent
    | parenthesisTooDeep _ full => exact absurd room (by omega)
    | atom absent => exact absurd sign absent
  | parenthesisTooDeep sign full =>
    cases h' with
    | parenthesized _ room _ _ => exact absurd room (by omega)
    | unclosed _ room _ _ => exact absurd room (by omega)
    | contentFails _ room _ => exact absurd room (by omega)
    | parenthesisTooDeep _ _ => rfl
    | atom absent => exact absurd sign absent
  | atom absent =>
    cases h' with
    | parenthesized sign _ _ _ => exact absurd sign absent
    | unclosed sign _ _ _ => exact absurd sign absent
    | contentFails sign _ _ => exact absurd sign absent
    | parenthesisTooDeep sign _ => exact absurd sign absent
    | atom _ => rfl

end Reads

end Propositional
