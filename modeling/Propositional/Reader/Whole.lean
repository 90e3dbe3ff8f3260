import Propositional.Reader.Production
import Propositional.Spelling

/-!
# Whole texts

A text is a formula if reading it as one leaves nothing over.  `Formula.ofCanonical` reads the
canonical spelling, within the limit on its length, and `Formula.ofTyped` a text as it was typed.
What is left over is a misplaced token, or a character that starts no token at all.
-/

namespace Propositional

/-- Why a text is rejected that goes on after a complete formula, if it does. -/
def Cursor.leftover? (cursor : Cursor) : Option Rejection :=
  match cursor.unread with
  | [] => none
  | char :: _ =>
    match Token.next? cursor.unread with
    | none => some (.noToken char cursor.position)
    | some _ => some (.surplus char cursor.position)

/-- Read a text in its canonical spelling as a formula. -/
def Formula.ofCanonical (text : List Char) : Except Rejection Formula :=
  if lengthLimit < text.length then
    .error .tooLong
  else
    match Production.formula.read (Cursor.start text) with
    | .error error _ => .error error
    | .ok formula cursor =>
      match cursor.leftover? with
      | some error => .error error
      | none => .ok formula

/-- Read a text as it was typed as a formula. -/
def Formula.ofTyped (text : String) : Except Rejection Formula :=
  Formula.ofCanonical (Spelling.canonical text.toList)

end Propositional
