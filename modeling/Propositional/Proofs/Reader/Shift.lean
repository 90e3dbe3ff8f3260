import Propositional.Proofs.Reader.Stopping

/-!
# Reading behind another text

What stands before the place where a reader begins has no part in what it does, but for the
positions that are counted.  `shift` counts so many characters more, at a cursor, in a rejection and
in an outcome.  Each rule of reading that applies at a cursor applies at the shifted one and has the
shifted outcome (`Reads.shift`).  A place in a text is shifted when another text comes before
(`Cursor.inside_append`), and reading never leaves its text (`Cursor.Passes.stays_inside`), so what
is done at a place of a text is done at the corresponding place of a longer one.
-/

namespace Propositional

/-! ## Counting from further back -/

/-- The cursor with so many characters more before it. -/
def Cursor.shift (distance : Nat) (cursor : Cursor) : Cursor :=
  { cursor with position := distance + cursor.position }

namespace Rejection

/-- The same rejection at a position with so many characters more before it. -/
def shift (distance : Nat) : Rejection → Rejection
  | blank => blank
  | tooLong => tooLong
  | tooDeep position => tooDeep (distance + position)
  | operandMissing position => operandMissing (distance + position)
  | noToken char position => noToken char (distance + position)
  | unclosed char position => unclosed char (distance + position)
  | surplus char position => surplus char (distance + position)

variable (distance : Nat) (rejection : Rejection)

theorem message_shift : (rejection.shift distance).message = rejection.message := by
  cases rejection <;> rfl

theorem char?_shift : (rejection.shift distance).char? = rejection.char? := by
  cases rejection <;> rfl

theorem position?_shift :
    (rejection.shift distance).position? = rejection.position?.map (distance + ·) := by
  cases rejection <;> rfl

end Rejection

/-- The same outcome at a place with so many characters more before it. -/
def Outcome.shift (distance : Nat) : Outcome → Outcome
  | .ok formula next => .ok formula (next.shift distance)
  | .error rejection stop => .error (rejection.shift distance) (stop.shift distance)

namespace Cursor

variable (distance : Nat) (cursor : Cursor)

theorem advance_shift (count : Nat) :
    (cursor.shift distance).advance count = (cursor.advance count).shift distance := by
  simp [shift, advance, Nat.add_assoc]

theorem missing_shift : (cursor.shift distance).missing = cursor.missing.shift distance := by
  obtain ⟨_ | ⟨char, rest⟩, position, depth⟩ := cursor <;> rfl

/-- With another text before the text, a place in it is as much further on. -/
theorem inside_append (before text : List Char) (position depth : Nat) :
    inside (before ++ text) (before.length + position) depth =
      (inside text position depth).shift before.length := by
  simp [inside, shift, List.drop_append]

end Cursor

/-! ## Every rule is the same further on -/

theorem Reader.atom_shift (distance : Nat) (cursor : Cursor) :
    atom (cursor.shift distance) = Outcome.shift distance (atom cursor) := by
  rcases atom_cases cursor with ⟨letter, hword, _⟩ | ⟨value, hword, _⟩ | ⟨hletter, hliteral, hatom⟩
  · obtain ⟨unread, position, depth⟩ := cursor
    obtain ⟨rest, rfl⟩ := hword
    show atom ⟨letter.char :: rest, distance + position, depth⟩ =
      Outcome.shift distance (atom ⟨letter.char :: rest, position, depth⟩)
    rw [atom_letter, atom_letter]
    rfl
  · obtain ⟨unread, position, depth⟩ := cursor
    obtain ⟨rest, rfl⟩ := hword
    show atom ⟨literal value ++ rest, distance + position, depth⟩ =
      Outcome.shift distance (atom ⟨literal value ++ rest, position, depth⟩)
    rw [atom_literal, atom_literal, Nat.add_assoc]
    rfl
  · have hshifted : atom (cursor.shift distance) =
        .error (cursor.shift distance).missing (cursor.shift distance) :=
      atom_none hletter hliteral
    rw [hatom, hshifted, Cursor.missing_shift]
    rfl

/-- A rule that applies at a cursor applies further on, and has the same outcome there. -/
theorem Reads.shift {limit : Nat} {aim : Aim} {cursor : Cursor} {outcome : Outcome}
    (h : Reads limit aim cursor outcome) (distance : Nat) :
    Reads limit aim (cursor.shift distance) (outcome.shift distance) := by
  induction h with
  | joined _ _ ihfirst ihrest => exact .joined ihfirst ihrest
  | firstFails _ ih => exact .firstFails ih
  | done absent => exact .done absent
  | more present _ _ ihoperand ihrest =>
    rw [← Cursor.advance_shift] at ihoperand
    exact .more present ihoperand ihrest
  | operandFails present _ ih =>
    rw [← Cursor.advance_shift] at ih
    exact .operandFails present ih
  | @negated cursor operand next sign room _ ih =>
    exact @negated limit (cursor.shift distance) operand (next.shift distance) sign room ih
  | negatedFails sign room _ ih => exact .negatedFails sign room ih
  | negationTooDeep sign full => exact .negationTooDeep sign full
  | plain absent _ ih => exact .plain absent ih
  | @parenthesized cursor formula next sign room _ closing ih =>
    have hreads : Reads limit (.phrase .primary) (cursor.shift distance)
        (.ok formula ((next.shift distance).advance 1).closed) :=
      .parenthesized sign room ih closing
    rw [Cursor.advance_shift] at hreads
    exact hreads
  | @unclosed cursor formula next sign room _ absent ih =>
    exact @unclosed limit (cursor.shift distance) formula (next.shift distance) sign room ih absent
  | contentFails sign room _ ih => exact .contentFails sign room ih
  | parenthesisTooDeep sign full => exact .parenthesisTooDeep sign full
  | atom absent =>
    rw [← Reader.atom_shift]
    exact .atom absent

/-- A reader does the same at a shifted cursor. -/
theorem read_shift (production : Production) (distance : Nat) (cursor : Cursor) :
    production.read (cursor.shift distance) =
      Outcome.shift distance (production.read cursor) :=
  read_eq_iff.mpr ((reads_read production cursor).shift distance)

/-! ## Places in two texts -/

/-- Outcomes of reading a text and of reading it behind another one: the same formula or the same
rejection, with the same number of constructs open, at places that differ by the other text. -/
inductive Outcome.Corresponds (before text : List Char) : Outcome → Outcome → Prop where
  | returned (formula : Formula) (stop depth : Nat) :
      Corresponds before text (.ok formula (.inside text stop depth))
        (.ok formula (.inside (before ++ text) (before.length + stop) depth))
  | rejected (rejection : Rejection) (stop depth : Nat) :
      Corresponds before text (.error rejection (.inside text stop depth))
        (.error (rejection.shift before.length)
          (.inside (before ++ text) (before.length + stop) depth))

theorem Outcome.corresponds_shift {before text : List Char} {outcome : Outcome} {stop depth : Nat}
    (h : outcome.cursor = .inside text stop depth) :
    outcome.Corresponds before text (outcome.shift before.length) := by
  cases outcome with
  | ok formula next =>
    obtain rfl : next = .inside text stop depth := h
    rw [shift, ← Cursor.inside_append]
    exact .returned formula stop depth
  | error rejection next =>
    obtain rfl : next = .inside text stop depth := h
    rw [shift, ← Cursor.inside_append]
    exact .rejected rejection stop depth

/-- Reading for a level from a place in a text, with any number of constructs counted as open, has
the corresponding outcome when another text comes before.  The rejection for it has the same wording
and the same character, and its position is greater by the length of the other text. -/
theorem read_inside_append (before text : List Char) (production : Production)
    (position depth : Nat) :
    Outcome.Corresponds before text (production.read (.inside text position depth))
        (production.read (.inside (before ++ text) (before.length + position) depth)) ∧
      ∀ rejection : Rejection,
        (rejection.shift before.length).message = rejection.message ∧
          (rejection.shift before.length).char? = rejection.char? ∧
          (rejection.shift before.length).position? =
            rejection.position?.map (before.length + ·) := by
  constructor
  · obtain ⟨passed, hpass⟩ := (reads_read production (.inside text position depth)).passes
    rw [Cursor.inside_append, read_shift]
    exact Outcome.corresponds_shift hpass.stays_inside
  · intro rejection
    exact ⟨rejection.message_shift _, rejection.char?_shift _, rejection.position?_shift _⟩

end Propositional
