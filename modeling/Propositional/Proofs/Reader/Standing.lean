import Propositional.Proofs.Token
import Propositional.Reader.Grammar

/-!
# Between two tokens

What may come next behind a beginning of a formula depends on two things only: whether an operand is
due, and how many parentheses are open.

`Standing.after` follows both through a list of tokens.  `Derives.supplied` says that every phrase
is made of tokens that take a standing in which an operand is due to the same one in which none is.
`operandDue_of_after` and `count_of_after` read the two things off the characters: the last one
tells whether an operand is due, and the numbers of parentheses tell how many are open.
-/

namespace Propositional

/-! ## Standings -/

/-- Whether an operand is due, and how many parentheses are open. -/
structure Standing where
  operandDue : Bool
  opened : Nat
deriving DecidableEq

namespace Standing

/-- The standing behind a token, if the token may come next. -/
def step : Standing → Token → Option Standing
  | ⟨true, opened⟩, .letter _ => some ⟨false, opened⟩
  | ⟨true, opened⟩, .constant _ => some ⟨false, opened⟩
  | ⟨true, opened⟩, .negation => some ⟨true, opened⟩
  | ⟨true, opened⟩, .leftParen => some ⟨true, opened + 1⟩
  | ⟨false, opened⟩, .connective _ => some ⟨true, opened⟩
  | ⟨false, opened + 1⟩, .rightParen => some ⟨false, opened⟩
  | _, _ => none

/-- The standing behind some tokens, if they may come next. -/
def after (standing : Standing) (tokens : List Token) : Option Standing :=
  tokens.foldlM step standing

theorem after_nil (standing : Standing) : standing.after [] = some standing := rfl

theorem after_cons (standing : Standing) (token : Token) (tokens : List Token) :
    standing.after (token :: tokens) = (standing.step token).bind (·.after tokens) := rfl

theorem after_append (standing : Standing) (tokens others : List Token) :
    standing.after (tokens ++ others) = (standing.after tokens).bind (·.after others) :=
  List.foldlM_append

theorem after_singleton (standing : Standing) (token : Token) :
    standing.after [token] = standing.step token := by
  rw [after_cons]
  cases standing.step token <;> rfl

/-- The standing within so many more open parentheses. -/
def within (standing : Standing) (count : Nat) : Standing :=
  { standing with opened := standing.opened + count }

/-- The tokens of a phrase: where an operand is due, they supply it. -/
def Supplied (tokens : List Token) : Prop :=
  ∀ opened, after ⟨true, opened⟩ tokens = some ⟨false, opened⟩

end Standing

/-- A phrase is made of tokens that supply an operand. -/
theorem Derives.supplied {production : Production} {text : List Char} {formula : Formula}
    {nesting : Nat} (h : Derives production text formula nesting) :
    ∃ tokens, text = Token.spell tokens ∧ Standing.Supplied tokens := by
  induction h with
  | letter letter => exact ⟨[.letter letter], rfl, fun _ => rfl⟩
  | literal value => exact ⟨[.constant value], (List.append_nil _).symm, fun _ => rfl⟩
  | parenthesized _ ih =>
    obtain ⟨tokens, htext, hsupplied⟩ := ih
    refine ⟨.leftParen :: (tokens ++ [.rightParen]), ?_, fun opened => ?_⟩
    · rw [htext, Token.spell_cons, Token.spell_append]
      rfl
    · rw [Standing.after_cons]
      show Standing.after ⟨true, opened + 1⟩ (tokens ++ [.rightParen]) = some ⟨false, opened⟩
      rw [Standing.after_append, hsupplied]
      rfl
  | plain _ ih => exact ih
  | negated _ ih =>
    obtain ⟨tokens, htext, hsupplied⟩ := ih
    refine ⟨.negation :: tokens, ?_, fun opened => ?_⟩
    · rw [htext, Token.spell_cons]
      rfl
    · rw [Standing.after_cons]
      exact hsupplied opened
  | single _ ih => exact ih
  | @joined connective _ _ _ _ _ _ _ _ ihfirst ihlast =>
    obtain ⟨tokens, htext, hsupplied⟩ := ihfirst
    obtain ⟨others, htext', hsupplied'⟩ := ihlast
    refine ⟨tokens ++ .connective connective :: others, ?_, fun opened => ?_⟩
    · rw [htext, htext', Token.spell_append, Token.spell_cons]
      rfl
    · rw [Standing.after_append, hsupplied]
      exact hsupplied' opened

/-! ## The standing in the characters -/

/-- An operand is due behind the text, as its last character shows. -/
def OperandDue (text : List Char) : Prop :=
  text = [] ∨ ∃ char ∈ ['(', '!', '&', '|', '>'], text.getLast? = some char

theorem operandDue_append {text word : List Char} (hword : word ≠ []) :
    OperandDue (text ++ word) ↔ OperandDue word := by
  unfold OperandDue
  have hlast : (text ++ word).getLast? = word.getLast? := by
    rw [List.getLast?_append, List.getLast?_eq_some_getLast hword, Option.some_or]
  rw [hlast, List.append_eq_nil_iff]
  simp [hword]

namespace Standing

/-- The last character of a token shows whether an operand is due behind it. -/
theorem operandDue_of_step {standing next : Standing} {token : Token}
    (h : standing.step token = some next) :
    next.operandDue = true ↔ OperandDue token.spelling := by
  unfold step at h
  split at h
  · rename_i letter
    cases h
    cases letter <;> simp [OperandDue, Token.spelling, Letter.char]
  · rename_i value
    cases h
    cases value <;> simp [OperandDue, Token.spelling, literal]
  · cases h
    simp [OperandDue, Token.spelling]
  · cases h
    simp [OperandDue, Token.spelling]
  · rename_i connective
    cases h
    cases connective <;> simp [OperandDue, Token.spelling, Connective.spelling]
  · cases h
    simp [OperandDue, Token.spelling]
  · cases h

/-- A parenthesis counts as open from the sign that opens it to the one that closes it. -/
theorem count_of_step {standing next : Standing} {token : Token}
    (h : standing.step token = some next) :
    standing.opened + token.spelling.count '(' = next.opened + token.spelling.count ')' := by
  unfold step at h
  split at h
  · rename_i letter
    cases h
    cases letter <;> rfl
  · rename_i value
    cases h
    cases value <;> rfl
  · cases h
    rfl
  · cases h
    rfl
  · rename_i connective
    cases h
    cases connective <;> rfl
  · cases h
    rfl
  · cases h

theorem count_of_after {standing next : Standing} {tokens : List Token}
    (h : standing.after tokens = some next) :
    standing.opened + (Token.spell tokens).count '(' =
      next.opened + (Token.spell tokens).count ')' := by
  induction tokens generalizing standing with
  | nil =>
    rw [after_nil] at h
    cases h
    rfl
  | cons token tokens ih =>
    rw [after_cons] at h
    obtain ⟨middle, hstep, hrest⟩ := Option.bind_eq_some_iff.mp h
    have hfirst := count_of_step hstep
    have hothers := ih hrest
    rw [Token.spell_cons, List.count_append, List.count_append]
    omega

theorem operandDue_of_after {tokens : List Token} {next : Standing}
    (h : after ⟨true, 0⟩ tokens = some next) :
    next.operandDue = true ↔ OperandDue (Token.spell tokens) := by
  rcases List.eq_nil_or_concat tokens with hnil | ⟨init, last, hconcat⟩
  · subst hnil
    rw [after_nil] at h
    cases h
    simp [OperandDue]
  · rw [List.concat_eq_append] at hconcat
    subst hconcat
    rw [after_append] at h
    obtain ⟨middle, _, hlast⟩ := Option.bind_eq_some_iff.mp h
    rw [after_singleton] at hlast
    rw [Token.spell_append, operandDue_append]
    · rw [Token.spell_cons, Token.spell_nil, List.append_nil]
      exact operandDue_of_step hlast
    · rw [Token.spell_cons, Token.spell_nil, List.append_nil]
      exact last.spelling_ne_nil

end Standing

end Propositional
