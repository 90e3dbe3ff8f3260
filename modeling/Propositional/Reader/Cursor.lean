import Propositional.Reader.Rejection

/-!
# Cursors and readers

A cursor is a place in a text together with the number of constructs that are open there.  A
reader moves a cursor; when it fails, the cursor stays where the failure was found.  All reading is
made of seven steps: `lookahead` and `remaining` look ahead, `accept` and `skip` go forward, `enter`
and `leave` count the open constructs, and `fail` gives up.  The lemmas `lookahead_apply` to
`leave_apply` give the outcome of each step on a cursor.
-/

namespace Propositional

/-- A place in a text.  `depth` counts the negations and parentheses that are open. -/
structure Cursor where
  unread : List Char
  position : Nat
  depth : Nat
deriving DecidableEq

namespace Cursor

/-- The cursor before the first character. -/
def start (text : List Char) : Cursor := ⟨text, 0, 0⟩

/-- The cursor after that many more characters. -/
def advance (cursor : Cursor) (count : Nat) : Cursor :=
  { cursor with unread := cursor.unread.drop count, position := cursor.position + count }

end Cursor

/-! ## Readers -/

/-- A step that moves a cursor and gives a result or fails. -/
abbrev Reader := EStateM Rejection Cursor

namespace Reader

/-- The next character, which stays unread. -/
def lookahead : Reader (Option Char) := return (← get).unread.head?

/-- The number of characters that are left. -/
def remaining : Reader Nat := return (← get).unread.length

/-- Pass a word if the unread text starts with it, and say whether it does. -/
def accept (word : List Char) : Reader Bool := do
  let cursor ← get
  if word.isPrefixOf cursor.unread then
    set (cursor.advance word.length)
    return true
  else
    return false

/-- Pass one character. -/
def skip : Reader Unit := modify (·.advance 1)

/-- Give up at the present position. -/
def fail (cause : Nat → Rejection) : Reader α := do throw (cause (← get).position)

/-- Open a negation or a parenthesis, unless too many are open then. -/
def enter : Reader Unit := do
  modify fun cursor => { cursor with depth := cursor.depth + 1 }
  if nestingLimit < (← get).depth then fail .tooDeep

/-- Close a negation or a parenthesis. -/
def leave : Reader Unit :=
  modify fun cursor => { cursor with depth := cursor.depth - 1 }

/-! ## What the steps do to a cursor -/

@[simp] theorem lookahead_apply (cursor : Cursor) :
    lookahead cursor = .ok cursor.unread.head? cursor := rfl

@[simp] theorem remaining_apply (cursor : Cursor) :
    remaining cursor = .ok cursor.unread.length cursor := rfl

theorem accept_apply (word : List Char) (cursor : Cursor) :
    accept word cursor =
      if word.isPrefixOf cursor.unread then .ok true (cursor.advance word.length)
      else .ok false cursor := by
  change (if word.isPrefixOf cursor.unread then do set (cursor.advance word.length); return true
    else return false : Reader Bool) cursor = _
  split <;> rfl

@[simp] theorem skip_apply (cursor : Cursor) : skip cursor = .ok () (cursor.advance 1) := rfl

@[simp] theorem fail_apply (cause : Nat → Rejection) (cursor : Cursor) :
    (fail cause : Reader α) cursor = .error (cause cursor.position) cursor := rfl

theorem enter_apply (cursor : Cursor) :
    enter cursor =
      let deeper := { cursor with depth := cursor.depth + 1 }
      if nestingLimit < deeper.depth then .error (.tooDeep cursor.position) deeper
      else .ok () deeper := by
  change (if nestingLimit < cursor.depth + 1 then fail .tooDeep else pure () : Reader Unit)
    { cursor with depth := cursor.depth + 1 } = _
  dsimp only
  split <;> rfl

@[simp] theorem leave_apply (cursor : Cursor) :
    leave cursor = .ok () { cursor with depth := cursor.depth - 1 } := rfl

end Reader

end Propositional
