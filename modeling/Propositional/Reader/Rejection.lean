/-!
# Rejections

Why a text is no formula.  Each cause has its wording in `message`; `char?` and `position?` are the
place where reading stopped, as far as the cause has one.
-/

namespace Propositional

/-- The greatest number of characters of a formula in its canonical spelling. -/
def lengthLimit : Nat := 256

/-- The greatest number of negations and parentheses around any point of a formula. -/
def nestingLimit : Nat := 64

/-- What may be typed, in one sentence. -/
def typingHint : String := "Use A–D, !, &, |, ->, <->, parentheses, true/false."

/-- The causes for which a text is rejected. -/
inductive Rejection where
  /-- There is nothing but white space. -/
  | blank
  /-- The canonical spelling is over the length limit. -/
  | tooLong
  /-- The sign or parenthesis before the position goes over the nesting limit. -/
  | tooDeep (position : Nat)
  /-- The text ended where an operand was due. -/
  | operandMissing (position : Nat)
  /-- No token that is allowed at the position starts with the character there. -/
  | noToken (char : Char) (position : Nat)
  /-- A closing parenthesis was due; another character stands there, or the text ended. -/
  | unclosed (char : Option Char) (position : Nat)
  /-- A token follows a complete formula. -/
  | surplus (char : Char) (position : Nat)
deriving DecidableEq

namespace Rejection

/-- The wording of a rejection. -/
def message : Rejection → String
  | blank => "enter a formula"
  | tooLong => "expression is longer than " ++ toString lengthLimit ++ " symbols"
  | tooDeep _ => "expression nests deeper than " ++ toString nestingLimit ++ " levels"
  | operandMissing _ => "unexpected end of expression"
  | noToken char _ => "invalid token near '" ++ String.ofList [char] ++ "'. " ++ typingHint
  | unclosed _ _ => "expected ')'"
  | surplus _ _ => "trailing symbols after end of expression"

/-- The character at which reading stopped. -/
def char? : Rejection → Option Char
  | noToken char _ => some char
  | unclosed char _ => char
  | surplus char _ => some char
  | _ => none

/-- The position at which reading stopped, in characters of the canonical spelling. -/
def position? : Rejection → Option Nat
  | blank => none
  | tooLong => none
  | tooDeep position => some position
  | operandMissing position => some position
  | noToken _ position => some position
  | unclosed _ position => some position
  | surplus _ position => some position

end Rejection

end Propositional
