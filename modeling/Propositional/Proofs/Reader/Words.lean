import Propositional.Proofs.Formula.Names
import Propositional.Proofs.Reader.Exact
import Propositional.Proofs.Reader.Standing

/-!
# The words of a text that is read

Tokens are looked up in a table, while the reader asks for the words of its productions one by one.
Both have the same words, because a formula is spelled in tokens and the vocabulary is prefix-free.

* `Token.mem_words_iff` writes the vocabulary out, and `Token.lookup_of_nonneg` and its companions
  reduce a look-up at any position to the text behind the position.
* `Tiled` says that stepping from token to token ends exactly at the end of the text, which every
  list of tokens does (`tiled_of_spell`).  `lookup_shares_vocabulary` is the result.
* `Derives.exists_spelling` has the leaves of a formula as the letters among its tokens, and
  `Text.without_spell` finds the literal `false` nowhere but at its own tokens.  Hence the names are
  the letters that are left when the literal is deleted (`names_outside_literals`).
-/

namespace Propositional

/-! ## Looking tokens up -/

namespace Token

/-- The vocabulary, written out. -/
def words : List (List Char) :=
  ["a", "b", "c", "d", "true", "false", "<->", "->", "(", ")", "!", "&", "|"].map String.toList

private theorem words_cases :
    (∀ token ∈ Token.all, token.spelling ∈ words) ∧
      ∀ word ∈ words, ∃ token ∈ Token.all, token.spelling = word := by
  decide

/-- The words are the spellings of the tokens. -/
theorem mem_words_iff {word : List Char} :
    word ∈ words ↔ ∃ token : Token, token.spelling = word := by
  constructor
  · intro h
    obtain ⟨token, _, heq⟩ := words_cases.2 word h
    exact ⟨token, heq⟩
  · intro h
    obtain ⟨token, heq⟩ := h
    rw [← heq]
    exact words_cases.1 token token.mem_all

/-- A text begins with at most one of the words. -/
theorem word_unique {word other text : List Char} (hword : word ∈ words) (hother : other ∈ words)
    (h : word <+: text) (h' : other <+: text) : word = other := by
  obtain ⟨token, htoken⟩ := mem_words_iff.mp hword
  obtain ⟨token', htoken'⟩ := mem_words_iff.mp hother
  rw [← htoken] at h ⊢
  rw [← htoken'] at h' ⊢
  rw [eq_of_startsWith_text h h']

/-- The token that a text starts with is spelled by the word that it starts with. -/
theorem map_spelling_next?_iff {word text : List Char} :
    (next? text).map spelling = some word ↔ word ∈ words ∧ word <+: text := by
  rw [Option.map_eq_some_iff, mem_words_iff]
  constructor
  · intro h
    obtain ⟨token, htoken, heq⟩ := h
    rw [← heq]
    exact ⟨⟨token, rfl⟩, next?_eq_some_iff.mp htoken⟩
  · intro h
    obtain ⟨⟨token, heq⟩, hprefix⟩ := h
    rw [← heq] at hprefix
    exact ⟨token, next?_eq_some_iff.mpr hprefix, heq⟩

variable {text : List Char} {position : Int}

theorem lookup_of_nonneg (h : 0 ≤ position) :
    lookup text position = .ok (next? (text.drop position.toNat)) := by
  have hnot : ¬ position < 0 := by omega
  simp only [lookup, if_neg hnot]

theorem lookup_of_neg (h : position < 0) (hle : -text.length ≤ position) :
    lookup text position = .ok (next? (text.drop (text.length + position).toNat)) := by
  have hnot : ¬ (text.length : Int) + position < 0 := by omega
  simp only [lookup, if_pos h, Int.add_comm position, if_neg hnot]

theorem lookup_eq_error (h : position < -text.length) : lookup text position = .error {} := by
  have hneg : position < 0 := by omega
  have hout : position + text.length < 0 := by omega
  simp only [lookup, if_pos hneg, if_pos hout]

/-- There is no token at the end of the text and beyond. -/
theorem lookup_of_length_le (h : text.length ≤ position) : lookup text position = .ok none := by
  have hdrop : text.drop position.toNat = [] := List.drop_eq_nil_of_le (by omega)
  rw [lookup_of_nonneg (by omega), hdrop]
  rfl

end Token

/-! ## Stepping from token to token -/

/-- From the position on, adding the length of the token that is looked up there, again and again,
finds a token each time and leads exactly to the end of the text. -/
inductive Tiled (text : List Char) : Nat → Prop where
  | done : Tiled text text.length
  | step {position : Nat} {token} (found : Token.lookup text position = .ok (some token))
      (rest : Tiled text (position + token.spelling.length)) : Tiled text position

/-- The text of a list of tokens is tiled from each place between two of them. -/
theorem tiled_of_spell (after : List Token) : ∀ before : List Token,
    Tiled (Token.spell (before ++ after)) (Token.spell before).length := by
  induction after with
  | nil =>
    intro before
    rw [List.append_nil]
    exact .done
  | cons token after ih =>
    intro before
    have hdrop : (Token.spell (before ++ token :: after)).drop (Token.spell before).length =
        token.spelling ++ Token.spell after := by
      rw [Token.spell_append, List.drop_left, Token.spell_cons]
    have hbehind : (Token.spell (before ++ [token])).length =
        (Token.spell before).length + token.spelling.length := by
      rw [Token.spell_append, List.length_append, Token.spell_cons, Token.spell_nil,
        List.append_nil]
    have hrest := ih (before ++ [token])
    rw [List.append_assoc, List.singleton_append, hbehind] at hrest
    refine .step ?_ hrest
    rw [Token.lookup_of_nonneg (by omega), Int.toNat_natCast, hdrop,
      Token.next?_eq_some_iff.mpr (List.prefix_append _ _)]

/-- A text that is read as a formula is tiled by tokens. -/
theorem tiled_of_ofCanonical {text : List Char} {formula : Formula}
    (h : Formula.ofCanonical text = .ok formula) : Tiled text 0 := by
  obtain ⟨_, hderives, _⟩ := derives_of_ofCanonical h
  obtain ⟨tokens, htext, _⟩ := hderives.supplied
  rw [htext]
  exact tiled_of_spell tokens []

/-- At a position inside a text the token found is the one word of the vocabulary that the rest of
the text starts with, if there is one.  A negative position counts from the end, before the first
character it is out of range, and at the end and beyond there is no token.  A text that is read as a
formula is tiled by the tokens found. -/
theorem lookup_shares_vocabulary (text : List Char) :
    (∀ position : Int, 0 ≤ position → position < text.length →
      ∃ found, Token.lookup text position = .ok found ∧
        ∀ word, found.map Token.spelling = some word ↔
          word ∈ Token.words ∧ word <+: text.drop position.toNat) ∧
    (∀ (position : Nat), ∀ word ∈ Token.words, ∀ other ∈ Token.words,
      word <+: text.drop position → other <+: text.drop position → word = other) ∧
    (∀ position : Int, -text.length ≤ position → position < 0 →
      Token.lookup text position = Token.lookup text (text.length + position)) ∧
    (∀ position : Int, position < -text.length → Token.lookup text position = .error {}) ∧
    (∀ position : Int, text.length ≤ position → Token.lookup text position = .ok none) ∧
    ∀ formula, Formula.ofCanonical text = .ok formula → Tiled text 0 := by
  refine ⟨?_, ?_, ?_, fun _ => Token.lookup_eq_error, fun _ => Token.lookup_of_length_le,
    fun _ => tiled_of_ofCanonical⟩
  · intro position hnonneg _
    exact ⟨_, Token.lookup_of_nonneg hnonneg, fun _ => Token.map_spelling_next?_iff⟩
  · intro position word hword other hother h h'
    exact Token.word_unique hword hother h h'
  · intro position hle hneg
    rw [Token.lookup_of_neg hneg hle, Token.lookup_of_nonneg (by omega)]

/-- A literal that begins like no letter, a connective that begins with another's last signs, and a
position counted from the end. -/
theorem lookup_shares_vocabulary_nested :
    Formula.ofCanonical "!(a<->false)".toList =
      .ok (.neg (.bin .iff (.var "a") (.const false))) ∧
    Tiled "!(a<->false)".toList 0 ∧
    Token.lookup "!(a<->false)".toList (-9) = Token.lookup "!(a<->false)".toList 3 ∧
    Token.lookup "!(a<->false)".toList (-13) = .error {} := by
  have hread : Formula.ofCanonical "!(a<->false)".toList =
      .ok (.neg (.bin .iff (.var "a") (.const false))) := by
    rfl
  obtain ⟨_, _, hfromEnd, hout, _, htiled⟩ := lookup_shares_vocabulary "!(a<->false)".toList
  exact ⟨hread, htiled _ hread, hfromEnd (-9) (by decide) (by decide), hout (-13) (by decide)⟩

/-! ## Deleting a word -/

namespace Text

/-- The text without the occurrences of the word, of which each begins behind the one before. -/
def without (word : List Char) : List Char → List Char
  | [] => []
  | char :: rest =>
    if word.isPrefixOf (char :: rest) then without word (rest.drop (word.length - 1))
    else char :: without word rest
termination_by text => text.length
decreasing_by
  · rw [List.length_drop, List.length_cons]
    omega
  · exact Nat.lt_succ_self _

variable {first : Char} {others : List Char}

/-- An occurrence of the word is deleted. -/
theorem without_word_append (first : Char) (others rest : List Char) :
    without (first :: others) (first :: others ++ rest) = without (first :: others) rest := by
  have hprefix : (first :: others).isPrefixOf (first :: (others ++ rest)) = true :=
    List.isPrefixOf_iff_prefix.mpr (List.prefix_append (first :: others) rest)
  rw [List.cons_append, without, if_pos hprefix, List.length_cons, Nat.add_sub_cancel,
    List.drop_left]

/-- Where the first character of the word does not occur, nothing is deleted. -/
theorem without_append {part : List Char} (h : first ∉ part) (rest : List Char) :
    without (first :: others) (part ++ rest) = part ++ without (first :: others) rest := by
  induction part with
  | nil => rfl
  | cons char part ih =>
    rw [List.mem_cons, not_or] at h
    have hnot : (first :: others).isPrefixOf (char :: (part ++ rest)) = false := by
      rw [List.isPrefixOf, beq_false_of_ne h.1, Bool.false_and]
    rw [List.cons_append, without, hnot, if_neg Bool.false_ne_true, ih h.2, List.cons_append]

private theorem not_mem_spelling :
    ∀ token ∈ Token.all, token ≠ .constant false → 'f' ∉ token.spelling := by
  decide

/-- In a text of tokens the literal `false` occurs at its own tokens and nowhere else. -/
theorem without_spell (tokens : List Token) :
    without (literal false) (Token.spell tokens) =
      Token.spell (tokens.filter (· ≠ .constant false)) := by
  induction tokens with
  | nil => rw [Token.spell_nil, without, List.filter_nil, Token.spell_nil]
  | cons token tokens ih =>
    rw [Token.spell_cons]
    by_cases h : token = .constant false
    · rw [h, List.filter_cons_of_neg (by simp), ← ih]
      exact without_word_append 'f' ['a', 'l', 's', 'e'] _
    · rw [List.filter_cons_of_pos (by simpa using h), Token.spell_cons, ← ih]
      exact without_append (not_mem_spelling token token.mem_all h) _

/-- Only what was there before counts, not what comes together by the deletion. -/
example : without (literal false) "fafalselse".toList = "false".toList := by
  decide +kernel

end Text

/-! ## The letters of a formula -/

/-- The leaf that a token stands for, if it is a letter. -/
def Token.leaf? : Token → Option String
  | letter which => some which.name
  | _ => none

theorem Token.mem_filterMap_leaf? {tokens : List Token} {name : String} :
    name ∈ tokens.filterMap leaf? ↔ ∃ letter, .letter letter ∈ tokens ∧ name = letter.name := by
  rw [List.mem_filterMap]
  constructor
  · intro h
    obtain ⟨token, hmem, heq⟩ := h
    cases token with
    | letter which => exact ⟨which, hmem, (Option.some.inj heq).symm⟩
    | constant _ | negation | connective _ | leftParen | rightParen => cases heq
  · intro h
    obtain ⟨letter, hmem, heq⟩ := h
    exact ⟨.letter letter, hmem, congrArg some heq.symm⟩

/-- The leaves of a formula are the letters among the tokens of its text, in order. -/
theorem Derives.exists_spelling {production : Production} {text : List Char} {formula : Formula}
    {nesting : Nat} (h : Derives production text formula nesting) :
    ∃ tokens, text = Token.spell tokens ∧ formula.leaves = tokens.filterMap Token.leaf? := by
  induction h with
  | letter letter => exact ⟨[.letter letter], rfl, rfl⟩
  | literal value => exact ⟨[.constant value], (List.append_nil _).symm, rfl⟩
  | parenthesized _ ih =>
    obtain ⟨tokens, htext, hleaves⟩ := ih
    refine ⟨.leftParen :: (tokens ++ [.rightParen]), ?_, ?_⟩
    · rw [htext, Token.spell_cons, Token.spell_append]
      rfl
    · rw [hleaves, List.filterMap_cons, List.filterMap_append]
      exact (List.append_nil _).symm
  | plain _ ih | single _ ih => exact ih
  | negated _ ih =>
    obtain ⟨tokens, htext, hleaves⟩ := ih
    exact ⟨.negation :: tokens, by rw [htext, Token.spell_cons]; rfl, hleaves⟩
  | @joined connective _ _ _ _ _ _ _ _ ihfirst ihlast =>
    obtain ⟨tokens, htext, hleaves⟩ := ihfirst
    obtain ⟨others, htext', hleaves'⟩ := ihlast
    refine ⟨tokens ++ .connective connective :: others, ?_, ?_⟩
    · rw [htext, htext', Token.spell_append, Token.spell_cons]
      rfl
    · rw [Formula.leaves, hleaves, hleaves', List.filterMap_append]
      rfl

private theorem mem_spelling_cases :
    ∀ token ∈ Token.all, token ≠ .constant false → ∀ letter ∈ Letter.all,
      letter.char ∈ token.spelling → token = .letter letter := by
  decide

/-- Outside of the literal `false` a letter stands for itself. -/
theorem Letter.char_mem_without_iff {letter : Letter} {tokens : List Token} :
    letter.char ∈ Text.without (literal false) (Token.spell tokens) ↔ .letter letter ∈ tokens := by
  rw [Text.without_spell, Token.spell, List.mem_flatMap]
  constructor
  · intro h
    obtain ⟨token, hkept, hchar⟩ := h
    obtain ⟨hmem, hne⟩ := List.mem_filter.mp hkept
    have htoken := mem_spelling_cases token token.mem_all (of_decide_eq_true hne) letter
      letter.mem_all hchar
    rw [← htoken]
    exact hmem
  · intro h
    exact ⟨.letter letter, List.mem_filter.mpr ⟨h, by simp⟩, List.mem_singleton_self _⟩

/-- The names of a formula that is read are, in order and each once, those of the letters that still
occur in the text when the literal `false` is deleted. -/
theorem names_outside_literals {text : List Char} {formula : Formula}
    (h : Formula.ofCanonical text = .ok formula) :
    formula.names.Pairwise (· < ·) ∧
      ∀ name, name ∈ formula.names ↔
        ∃ letter : Letter, letter.char ∈ Text.without (literal false) text ∧
          name = letter.name := by
  obtain ⟨_, hderives, _⟩ := derives_of_ofCanonical h
  obtain ⟨tokens, htext, hleaves⟩ := hderives.exists_spelling
  refine ⟨formula.names_ascending, fun name => ?_⟩
  rw [Formula.mem_names, hleaves, Token.mem_filterMap_leaf?, htext]
  simp only [Letter.char_mem_without_iff]

/-- In `d&(false|!b)` the letter `a` occurs in the literal only. -/
theorem names_outside_literals_beside_false :
    Formula.ofCanonical "d&(false|!b)".toList =
      .ok (.bin .and (.var "d") (.bin .or (.const false) (.neg (.var "b")))) ∧
    ∀ name, name ∈ ["b", "d"] ↔
      ∃ letter : Letter, letter.char ∈ Text.without (literal false) "d&(false|!b)".toList ∧
        name = letter.name := by
  have hread : Formula.ofCanonical "d&(false|!b)".toList =
      .ok (.bin .and (.var "d") (.bin .or (.const false) (.neg (.var "b")))) := by
    rfl
  refine ⟨hread, fun name => ?_⟩
  rw [← (names_outside_literals hread).2 name, Formula.mem_names]
  simp [Formula.leaves, or_comm]

end Propositional
