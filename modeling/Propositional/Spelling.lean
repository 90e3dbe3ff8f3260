import Propositional.Text.Blank
import Propositional.Text.Lowercase

/-!
# The canonical spelling

Formulas may be typed with spaces, capitals and the mathematical signs.  `canonical` rewrites a
text into the alphabet of the tokens: white space goes, the signs become ASCII operators, and what
is left is put into lower case.
-/

namespace Propositional.Spelling

/-- The ASCII operator that a mathematical sign stands for; other characters stay. -/
def respell : Char → List Char
  | '¬' => ['!']
  | '~' => ['!']
  | '∧' => ['&']
  | '∨' => ['|']
  | '→' => ['-', '>']
  | '↔' => ['<', '-', '>']
  | other => [other]

/-- A text in its canonical spelling. -/
def canonical (text : List Char) : List Char :=
  Text.lowercase ((Text.withoutBlanks text).flatMap respell)

/-- A string in its canonical spelling. -/
def canonicalString (text : String) : String := String.ofList (canonical text.toList)

end Propositional.Spelling
