import Propositional.Text.Printable

/-!
# Quoted text

A text between quotes on one line, so that every character of it can be seen.  Apostrophes are the
quotes unless the text holds an apostrophe and no double quote.  A backslash and the quote in use
are written after a backslash; line feed, carriage return and tab have a letter; any other
character that is not printable is written by its code point, in two, four or eight hexadecimal
digits.
-/

namespace Propositional.Text

/-- The apostrophe. -/
def apostrophe : Char := '\x27'

/-- The backslash. -/
def backslash : Char := '\x5c'

/-- The last `width` hexadecimal digits of a number. -/
def hexDigits : Nat → Nat → List Char
  | 0, _ => []
  | width + 1, number => hexDigits width (number / 16) ++ [Nat.digitChar (number % 16)]

/-- A character by its code point, in the shortest of the three widths. -/
def codeEscape (code : Nat) : List Char :=
  if code < 0x100 then backslash :: 'x' :: hexDigits 2 code
  else if code < 0x10000 then backslash :: 'u' :: hexDigits 4 code
  else backslash :: 'U' :: hexDigits 8 code

/-- A character as it stands between two quotes of the given kind. -/
def escape (quote char : Char) : List Char :=
  if char = quote ∨ char = backslash then [backslash, char]
  else if char = '\n' then [backslash, 'n']
  else if char = '\r' then [backslash, 'r']
  else if char = '\t' then [backslash, 't']
  else if isPrintable char then [char]
  else codeEscape char.toNat

/-- The quote that the text is put in. -/
def quoteFor (text : List Char) : Char :=
  if apostrophe ∈ text ∧ '"' ∉ text then '"' else apostrophe

/-- The text between quotes. -/
def quoted (text : List Char) : List Char :=
  let quote := quoteFor text
  quote :: text.flatMap (escape quote) ++ [quote]

/-- The string between quotes. -/
def quotedString (text : String) : String := String.ofList (quoted text.toList)

end Propositional.Text
