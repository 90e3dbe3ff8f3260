import Propositional.Formula.Basic

/-!
# Tokens

The vocabulary of formulas in their canonical spelling: four letters, two literals, the negation
sign, the connectives and the parentheses.  `Token.next?` is the token a text starts with, and
`Token.lookup` the one at a position that may also be counted from the end.
-/

namespace Propositional

/-- The letters that stand for variables. -/
inductive Letter where
  | a
  | b
  | c
  | d
deriving DecidableEq

namespace Letter

/-- The letter as a character. -/
def char : Letter → Char
  | a => 'a'
  | b => 'b'
  | c => 'c'
  | d => 'd'

/-- The variable that the letter stands for. -/
def name (letter : Letter) : String := String.ofList [letter.char]

/-- Every letter, in order. -/
def all : List Letter := [a, b, c, d]

/-- The letter that a character is. -/
def ofChar? (char : Char) : Option Letter := all.find? (·.char == char)

end Letter

/-- The connective in its canonical spelling. -/
def Connective.spelling : Connective → List Char
  | .and => ['&']
  | .or => ['|']
  | .implies => ['-', '>']
  | .iff => ['<', '-', '>']

/-- The literal of a truth value. -/
def literal : Bool → List Char
  | true => ['t', 'r', 'u', 'e']
  | false => ['f', 'a', 'l', 's', 'e']

/-- The words of the canonical alphabet. -/
inductive Token where
  | letter (which : Letter)
  | constant (value : Bool)
  | negation
  | connective (which : Connective)
  | leftParen
  | rightParen
deriving DecidableEq

namespace Token

/-- The characters of a token. -/
def spelling : Token → List Char
  | letter which => [which.char]
  | constant value => literal value
  | negation => ['!']
  | connective which => which.spelling
  | leftParen => ['(']
  | rightParen => [')']

/-- Every token. -/
def all : List Token :=
  Letter.all.map letter ++
    [constant false, constant true, connective .iff, connective .implies, leftParen, rightParen,
      negation, connective .and, connective .or]

/-- The token that a text starts with. -/
def next? (text : List Char) : Option Token :=
  all.find? (·.spelling.isPrefixOf text)

/-- A position before the first character of the text was asked for. -/
structure OutOfRange where
deriving DecidableEq

/-- What is said of a position before the first character. -/
def OutOfRange.message (_ : OutOfRange) : String := "string index out of range"

/-- The token at a position of the text, if there is one.  A negative position counts from the end
and must not lie before the first character; at the end and beyond there is no token. -/
def lookup (text : List Char) (position : Int) : Except OutOfRange (Option Token) :=
  let start := if position < 0 then position + text.length else position
  if start < 0 then .error {} else .ok (next? (text.drop start.toNat))

end Token

end Propositional
