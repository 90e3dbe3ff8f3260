import Propositional.Proofs.PrefixCode
import Propositional.Token

/-!
# Texts made of tokens

No token begins with another one, so a text is made of tokens in at most one way.
`Token.prefixCode` is that fact about the vocabulary, and `Token.startsWith_of_spell` is what it
means for lists of tokens: if one spelled text begins with another, so do the tokens.
-/

namespace Propositional

/-! ## Single tokens -/

theorem Letter.mem_all (letter : Letter) : letter ∈ Letter.all := by
  cases letter <;> decide

theorem Connective.spelling_ne_nil (connective : Connective) : connective.spelling ≠ [] := by
  cases connective <;> exact List.cons_ne_nil _ _

namespace Token

theorem mem_all (token : Token) : token ∈ Token.all := by
  cases token with
  | letter which => cases which <;> decide
  | constant value => cases value <;> decide
  | connective which => cases which <;> decide
  | negation | leftParen | rightParen => decide

theorem spelling_ne_nil (token : Token) : token.spelling ≠ [] := by
  cases token with
  | constant value => cases value <;> exact List.cons_ne_nil _ _
  | connective which => exact which.spelling_ne_nil
  | letter _ | negation | leftParen | rightParen => exact List.cons_ne_nil _ _

private theorem prefix_free :
    ∀ token ∈ Token.all, ∀ other ∈ Token.all,
      token.spelling <+: other.spelling → token = other := by
  decide

/-- The spellings of the tokens are a prefix code. -/
theorem prefixCode : PrefixCode spelling where
  ne_nil := spelling_ne_nil
  eq_of_startsWith {token other} h := prefix_free token token.mem_all other other.mem_all h

/-- A text begins with at most one token. -/
theorem eq_of_startsWith_text {token other : Token} {text : List Char}
    (htoken : token.spelling <+: text) (hother : other.spelling <+: text) : token = other :=
  prefixCode.eq_of_startsWith_text htoken hother

/-- A text that begins with a token begins with no other one. -/
theorem not_prefix_of_ne {token other : Token} (hne : token ≠ other) (rest : List Char) :
    ¬ token.spelling <+: other.spelling ++ rest := by
  intro h
  exact hne (eq_of_startsWith_text h (List.prefix_append _ _))

theorem prefix_of_next? {token : Token} {text : List Char} (h : next? text = some token) :
    token.spelling <+: text := by
  unfold next? at h
  have hprefix := List.find?_some h
  exact List.isPrefixOf_iff_prefix.mp hprefix

/-- `next?` finds the token that the text begins with. -/
theorem next?_eq_some_iff {token : Token} {text : List Char} :
    next? text = some token ↔ token.spelling <+: text := by
  refine ⟨prefix_of_next?, fun h => ?_⟩
  cases hfound : next? text with
  | none =>
    have hnone := List.find?_eq_none.mp hfound token token.mem_all
    exact absurd (List.isPrefixOf_iff_prefix.mpr h) hnone
  | some other => rw [eq_of_startsWith_text (prefix_of_next? hfound) h]

theorem next?_eq_none_iff {text : List Char} :
    next? text = none ↔ ∀ token : Token, ¬ token.spelling <+: text := by
  constructor
  · intro hnone token h
    rw [next?_eq_some_iff.mpr h] at hnone
    exact absurd hnone (Option.some_ne_none _)
  · intro h
    cases hfound : next? text with
    | none => rfl
    | some token => exact absurd (next?_eq_some_iff.mp hfound) (h token)

/-! ## Lists of tokens -/

/-- The text of a list of tokens. -/
def spell (tokens : List Token) : List Char := tokens.flatMap spelling

@[simp] theorem spell_nil : spell [] = [] := rfl

@[simp] theorem spell_cons (token : Token) (tokens : List Token) :
    spell (token :: tokens) = token.spelling ++ spell tokens := rfl

@[simp] theorem spell_append (tokens others : List Token) :
    spell (tokens ++ others) = spell tokens ++ spell others :=
  List.flatMap_append

/-- If a text of tokens begins with another one, the tokens begin with the other ones. -/
theorem startsWith_of_spell {tokens others : List Token} (h : spell tokens <+: spell others) :
    tokens <+: others :=
  prefixCode.startsWith_of_flatMap h

end Token

end Propositional
