import Propositional.Text.CodeRange

/-!
# White space

`isBlank` holds of the twenty-nine characters that separate words.  `withoutBlanks` drops them
everywhere, `strip` only at the two ends.
-/

namespace Propositional.Text

/-- The white-space characters, the four ASCII separators among them. -/
def blanks : CodeSet where
  ranges :=
    [⟨0x0009, 0x000D⟩, ⟨0x001C, 0x0020⟩, ⟨0x0085, 0x0085⟩, ⟨0x00A0, 0x00A0⟩, ⟨0x1680, 0x1680⟩,
     ⟨0x2000, 0x200A⟩, ⟨0x2028, 0x2029⟩, ⟨0x202F, 0x202F⟩, ⟨0x205F, 0x205F⟩, ⟨0x3000, 0x3000⟩]

/-- Whether the character is white space. -/
def isBlank (char : Char) : Bool := blanks.contains char

/-- The text less its white space. -/
def withoutBlanks (text : List Char) : List Char := text.filter (!isBlank ·)

/-- The text without the white space at its two ends. -/
def strip (text : List Char) : List Char :=
  ((text.dropWhile isBlank).reverse.dropWhile isBlank).reverse

end Propositional.Text
