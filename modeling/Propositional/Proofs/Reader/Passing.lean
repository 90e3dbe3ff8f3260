import Propositional.Proofs.Token
import Propositional.Reader.Production

/-!
# What readers do to a cursor

`Cursor.Passes` says which text lies between two cursors.  The readers of the levels are then
described by equations on a cursor, one for each reader, so that later proofs need not open the
monad they are written in.
-/

namespace Propositional

/-! ## What a cursor passes -/

namespace Cursor

/-- The text lies between the two cursors. -/
structure Passes (cursor : Cursor) (text : List Char) (next : Cursor) : Prop where
  unread : cursor.unread = text ++ next.unread
  position : next.position = cursor.position + text.length

/-- The cursor behind a sign that opens a construct, the construct being counted. -/
def opened (cursor : Cursor) : Cursor :=
  { cursor.advance 1 with depth := cursor.depth + 1 }

/-- The cursor when a construct is no longer counted. -/
def closed (cursor : Cursor) : Cursor := { cursor with depth := cursor.depth - 1 }

@[simp] theorem opened_depth (cursor : Cursor) : cursor.opened.depth = cursor.depth + 1 := rfl

@[simp] theorem opened_position (cursor : Cursor) :
    cursor.opened.position = cursor.position + 1 := rfl

@[simp] theorem opened_unread (cursor : Cursor) :
    cursor.opened.unread = cursor.unread.drop 1 := rfl

@[simp] theorem closed_depth (cursor : Cursor) : cursor.closed.depth = cursor.depth - 1 := rfl

@[simp] theorem closed_position (cursor : Cursor) : cursor.closed.position = cursor.position := rfl

@[simp] theorem closed_unread (cursor : Cursor) : cursor.closed.unread = cursor.unread := rfl

@[simp] theorem advance_depth (cursor : Cursor) (count : Nat) :
    (cursor.advance count).depth = cursor.depth := rfl

@[simp] theorem advance_unread (cursor : Cursor) (count : Nat) :
    (cursor.advance count).unread = cursor.unread.drop count := rfl

@[simp] theorem advance_position (cursor : Cursor) (count : Nat) :
    (cursor.advance count).position = cursor.position + count := rfl

theorem opened_cons (sign : Char) (rest : List Char) (position depth : Nat) :
    (⟨sign :: rest, position, depth⟩ : Cursor).opened = ⟨rest, position + 1, depth + 1⟩ := rfl

theorem advance_append (word rest : List Char) (position depth : Nat) :
    (⟨word ++ rest, position, depth⟩ : Cursor).advance word.length =
      ⟨rest, position + word.length, depth⟩ := by
  rw [advance, List.drop_left]

theorem Passes.refl (cursor : Cursor) : cursor.Passes [] cursor := ⟨rfl, rfl⟩

theorem Passes.trans {cursor middle next : Cursor} {text more : List Char}
    (hfirst : cursor.Passes text middle) (hrest : middle.Passes more next) :
    cursor.Passes (text ++ more) next := by
  refine ⟨?_, ?_⟩
  · rw [hfirst.unread, hrest.unread, List.append_assoc]
  · rw [hrest.position, hfirst.position, List.length_append, Nat.add_assoc]

/-- A word that comes next lies between the cursor and the one behind the word. -/
theorem passes_advance {cursor : Cursor} {word : List Char} (hword : word <+: cursor.unread) :
    cursor.Passes word (cursor.advance word.length) := by
  obtain ⟨rest, hrest⟩ := hword
  refine ⟨?_, rfl⟩
  rw [advance_unread, ← hrest, List.drop_left]

/-- A sign that comes next lies between the cursor and the one inside the construct it opens. -/
theorem passes_opened {cursor : Cursor} {sign : Char} (hsign : [sign] <+: cursor.unread) :
    cursor.Passes [sign] cursor.opened :=
  ⟨(passes_advance hsign).unread, rfl⟩

/-- Closing a construct passes nothing. -/
theorem Passes.closed {cursor next : Cursor} {text : List Char}
    (hpass : cursor.Passes text next) : cursor.Passes text next.closed :=
  ⟨hpass.unread, hpass.position⟩

theorem Passes.length_le {cursor next : Cursor} {text : List Char}
    (hpass : cursor.Passes text next) : next.unread.length ≤ cursor.unread.length := by
  rw [hpass.unread, List.length_append]
  omega

/-- Passing a text that is not empty makes the unread text shorter. -/
theorem Passes.length_lt {cursor next : Cursor} {text : List Char}
    (hpass : cursor.Passes text next) (htext : text ≠ []) :
    next.unread.length < cursor.unread.length := by
  have hpos : 0 < text.length := List.length_pos_iff.mpr htext
  rw [hpass.unread, List.length_append]
  omega

end Cursor

/-! ## What the readers do to a cursor -/

/-- Why there is no letter or literal at the cursor. -/
def Cursor.missing (cursor : Cursor) : Rejection :=
  match cursor.unread with
  | [] => .operandMissing cursor.position
  | char :: _ => .noToken char cursor.position

theorem Cursor.missing_position? (cursor : Cursor) :
    cursor.missing.position? = some cursor.position := by
  obtain ⟨_ | ⟨char, rest⟩, position, depth⟩ := cursor <;> rfl

namespace Reader

theorem bind_apply {α β : Type} (reader : Reader α) (next : α → Reader β) (cursor : Cursor) :
    (reader >>= next) cursor =
      match reader cursor with
      | .ok value after => next value after
      | .error rejection stop => .error rejection stop := by
  change EStateM.bind reader next cursor = _
  unfold EStateM.bind
  cases reader cursor <;> rfl

theorem accept_bind {β : Type} (word : List Char) (next : Bool → Reader β) (cursor : Cursor) :
    (accept word >>= next) cursor =
      if word <+: cursor.unread then next true (cursor.advance word.length)
      else next false cursor := by
  rw [bind_apply, accept_apply]
  by_cases h : word <+: cursor.unread
  · rw [if_pos h, if_pos (List.isPrefixOf_iff_prefix.mpr h)]
  · rw [if_neg h, if_neg (fun hp => h (List.isPrefixOf_iff_prefix.mp hp))]

theorem enter_bind {β : Type} (next : Unit → Reader β) (cursor : Cursor) :
    (enter >>= next) (cursor.advance 1) =
      if cursor.depth < nestingLimit then next () cursor.opened
      else .error (.tooDeep cursor.opened.position) cursor.opened := by
  rw [bind_apply, enter_apply]
  by_cases h : cursor.depth < nestingLimit
  · have hroom : ¬ nestingLimit < cursor.depth + 1 := by omega
    rw [if_pos h]
    simp only [Cursor.advance_depth, hroom, if_false]
    rfl
  · have hfull : nestingLimit < cursor.depth + 1 := by omega
    rw [if_neg h]
    simp only [Cursor.advance_depth, hfull, if_true]
    rfl

theorem chain_succ (connective : Connective) (operand : Reader Formula) (rounds : Nat)
    (left : Formula) (cursor : Cursor) :
    chain connective operand (rounds + 1) left cursor =
      if connective.spelling <+: cursor.unread then
        match operand (cursor.advance connective.spelling.length) with
        | .ok right next => chain connective operand rounds (.bin connective left right) next
        | .error rejection stop => .error rejection stop
      else .ok left cursor := by
  rw [chain, accept_bind]
  split
  · rw [if_pos rfl, bind_apply]
    cases operand (cursor.advance connective.spelling.length) <;> rfl
  · rfl

theorem joined_apply (connective : Connective) (operand : Reader Formula) (cursor : Cursor) :
    joined connective operand cursor =
      match operand cursor with
      | .ok left next => chain connective operand next.unread.length left next
      | .error rejection stop => .error rejection stop := by
  rw [joined, bind_apply]
  cases operand cursor with
  | ok left next => rfl
  | error rejection stop => rfl

theorem negation_apply (inner : Production → Reader Formula) (cursor : Cursor) :
    negation inner cursor =
      if ['!'] <+: cursor.unread then
        if cursor.depth < nestingLimit then
          match inner .negation cursor.opened with
          | .ok operand next => .ok (.neg operand) next.closed
          | .error rejection stop => .error rejection stop
        else .error (.tooDeep cursor.opened.position) cursor.opened
      else primary inner cursor := by
  rw [negation, accept_bind]
  split
  · rw [if_pos rfl, negated, List.length_singleton, enter_bind]
    split
    · rw [bind_apply]
      cases inner .negation cursor.opened <;> rfl
    · rfl
  · rfl

theorem primary_apply (inner : Production → Reader Formula) (cursor : Cursor) :
    primary inner cursor =
      if ['('] <+: cursor.unread then
        if cursor.depth < nestingLimit then
          match inner .formula cursor.opened with
          | .ok formula next =>
            if [')'] <+: next.unread then .ok formula (next.advance 1).closed
            else .error (.unclosed next.unread.head? next.position) next
          | .error rejection stop => .error rejection stop
        else .error (.tooDeep cursor.opened.position) cursor.opened
      else atom cursor := by
  rw [primary, accept_bind]
  split
  · rw [if_pos rfl, parenthesized, List.length_singleton, enter_bind]
    split
    · rw [bind_apply]
      cases inner .formula cursor.opened with
      | ok formula next =>
        dsimp only
        rw [accept_bind]
        split <;> rfl
      | error rejection stop => rfl
    · rfl
  · rfl

theorem atom_letter (letter : Letter) (rest : List Char) (position depth : Nat) :
    atom ⟨letter.char :: rest, position, depth⟩ =
      .ok (.var letter.name) ⟨rest, position + 1, depth⟩ := by
  cases letter <;> rfl

theorem atom_literal (value : Bool) (rest : List Char) (position depth : Nat) :
    atom ⟨literal value ++ rest, position, depth⟩ =
      .ok (.const value) ⟨rest, position + (literal value).length, depth⟩ := by
  cases value <;> rfl

theorem ofChar?_eq_none {char : Char} (h : ∀ letter : Letter, letter.char ≠ char) :
    Letter.ofChar? char = none := by
  unfold Letter.ofChar?
  rw [List.find?_eq_none]
  intro letter _ heq
  exact h letter (beq_iff_eq.mp heq)

theorem atom_none {cursor : Cursor}
    (hletter : ∀ letter : Letter, ¬ [letter.char] <+: cursor.unread)
    (hliteral : ∀ value, ¬ literal value <+: cursor.unread) :
    atom cursor = .error cursor.missing cursor := by
  rcases cursor with ⟨_ | ⟨char, rest⟩, position, depth⟩
  · rfl
  · have hnone : Letter.ofChar? char = none := by
      apply ofChar?_eq_none
      intro letter heq
      subst heq
      exact hletter letter ⟨rest, rfl⟩
    rw [atom, bind_apply]
    simp only [lookahead_apply, List.head?_cons, hnone]
    rw [accept_bind, if_neg (hliteral true), if_neg Bool.false_ne_true, accept_bind,
      if_neg (hliteral false), if_neg Bool.false_ne_true]
    rfl

/-- Where an atom is due there is a letter, a literal, or neither. -/
theorem atom_cases (cursor : Cursor) :
    (∃ letter : Letter, [letter.char] <+: cursor.unread ∧
        atom cursor = .ok (.var letter.name) (cursor.advance 1)) ∨
      (∃ value, literal value <+: cursor.unread ∧
        atom cursor = .ok (.const value) (cursor.advance (literal value).length)) ∨
      ((∀ letter : Letter, ¬ [letter.char] <+: cursor.unread) ∧
        (∀ value, ¬ literal value <+: cursor.unread) ∧
        atom cursor = .error cursor.missing cursor) := by
  rcases cursor with ⟨unread, position, depth⟩
  by_cases hletter : ∃ letter : Letter, [letter.char] <+: unread
  · obtain ⟨letter, rest, rfl⟩ := hletter
    exact .inl ⟨letter, ⟨rest, rfl⟩, atom_letter letter rest position depth⟩
  by_cases hliteral : ∃ value, literal value <+: unread
  · obtain ⟨value, rest, rfl⟩ := hliteral
    refine .inr (.inl ⟨value, ⟨rest, rfl⟩, ?_⟩)
    rw [atom_literal, Cursor.advance_append]
  · have hletter' : ∀ letter : Letter, ¬ [letter.char] <+: unread :=
      fun letter h => hletter ⟨letter, h⟩
    have hliteral' : ∀ value, ¬ literal value <+: unread := fun value h => hliteral ⟨value, h⟩
    exact .inr (.inr ⟨hletter', hliteral', atom_none hletter' hliteral'⟩)

/-- Reading an atom fails in front of anything else, without moving. -/
theorem atom_eq_error {cursor stop : Cursor} {rejection : Rejection}
    (h : atom cursor = .error rejection stop) :
    rejection = cursor.missing ∧ stop = cursor ∧
      (∀ letter : Letter, ¬ [letter.char] <+: cursor.unread) ∧
      ∀ value, ¬ literal value <+: cursor.unread := by
  rcases atom_cases cursor with ⟨_, _, hatom⟩ | ⟨_, _, hatom⟩ | ⟨hletter, hliteral, hatom⟩
  · cases hatom.symm.trans h
  · cases hatom.symm.trans h
  · cases hatom.symm.trans h
    exact ⟨rfl, rfl, hletter, hliteral⟩

end Reader

end Propositional
