import Mathlib.Data.List.Forall2
import Propositional.Proofs.Text.Blank
import Propositional.Proofs.Text.Lowercase
import Propositional.Proofs.Token
import Propositional.Spelling

/-!
# How tokens may be written

`Token.Form` lists the forms in which a token may be written, and `Spelling.Writes` adds white space
anywhere, also within a token.  However tokens are written, the canonical spelling of the text is
that of the tokens (`canonical_of_writes`).

Without a capital sigma the canonical spelling is made character by character
(`canonical_eq_flatMap`), so that of a text put together from parts is put together from those of
the parts.  A text whose canonical spelling consists of tokens has no capital sigma
(`sigma_not_mem`).
-/

namespace Propositional

/-! ## Forms -/

/-- The character in one of its two cases.  A character that is no letter has one form. -/
def EitherCase (char written : Char) : Prop := written = char ∨ written = char.toUpper

instance (char written : Char) : Decidable (EitherCase char written) :=
  inferInstanceAs (Decidable (_ ∨ _))

namespace Token

/-- The forms in which a token may be written. -/
inductive Form : Token → List Char → Prop where
  | plain {token word} (letters : List.Forall₂ EitherCase token.spelling word) : Form token word
  | tilde : Form .negation ['~']
  | negationSign : Form .negation ['¬']
  | conjunctionSign : Form (.connective .and) ['∧']
  | disjunctionSign : Form (.connective .or) ['∨']
  | arrow : Form (.connective .implies) ['→']
  | doubleArrow : Form (.connective .iff) ['↔']
  | headAndArrow : Form (.connective .iff) ['<', '→']

end Token

namespace Spelling

/-- The tokens may be written as the text: each in one of its forms, with white space anywhere. -/
def Writes (tokens : List Token) (text : List Char) : Prop :=
  ∃ words, List.Forall₂ Token.Form tokens words ∧ Text.Respaced words.flatten text

/-! ## Character by character -/

/-- What becomes of a character in the canonical spelling, wherever it stands. -/
def canonicalChar (char : Char) : List Char :=
  if Text.isBlank char then [] else (respell char).flatMap Text.lowerChar

theorem sigma_mem_respell_iff {char : Char} : '\u03a3' ∈ respell char ↔ char = '\u03a3' := by
  unfold respell
  split <;> simp [eq_comm]

/-- The capital sigma is neither white space nor a sign, and no sign stands for it. -/
theorem sigma_mem_rewritten_iff {text : List Char} :
    '\u03a3' ∈ (Text.withoutBlanks text).flatMap respell ↔ '\u03a3' ∈ text := by
  have hblank : Text.isBlank '\u03a3' = false := by decide
  simp only [List.mem_flatMap, sigma_mem_respell_iff, exists_eq_right, Text.withoutBlanks,
    List.mem_filter, hblank, Bool.not_false, and_true]

/-- A text without a capital sigma is rewritten character by character. -/
theorem canonical_eq_flatMap {text : List Char} (h : '\u03a3' ∉ text) :
    canonical text = text.flatMap canonicalChar := by
  unfold canonical
  rw [Text.lowercase_eq_flatMap (mt sigma_mem_rewritten_iff.mp h)]
  clear h
  induction text with
  | nil => rfl
  | cons char rest ih =>
    rw [Text.withoutBlanks_cons, List.flatMap_cons, canonicalChar, ← ih]
    split <;> simp

theorem respell_ne_nil (char : Char) : respell char ≠ [] := by
  unfold respell
  split <;> exact List.cons_ne_nil _ _

/-- Nothing but white space vanishes. -/
theorem canonical_eq_nil_iff {text : List Char} :
    canonical text = [] ↔ Text.withoutBlanks text = [] := by
  rw [canonical, Text.lowercase_eq_nil_iff, List.flatMap_eq_nil_iff, List.eq_nil_iff_forall_not_mem]
  simp [respell_ne_nil]

/-- Inserting and deleting white space leaves the canonical spelling as it is. -/
theorem canonical_of_respaced {text other : List Char} (h : Text.Respaced text other) :
    canonical text = canonical other := by
  rw [canonical, canonical, h.withoutBlanks_eq]

/-! ## Written tokens -/

/-- The word has no capital sigma, and comes out as the spelling. -/
structure Rewrites (word spelling : List Char) : Prop where
  noSigma : '\u03a3' ∉ word
  chars : word.flatMap canonicalChar = spelling

theorem Rewrites.canonical_eq {word spelling : List Char} (h : Rewrites word spelling) :
    canonical word = spelling := by
  rw [canonical_eq_flatMap h.noSigma, h.chars]

theorem Rewrites.nil : Rewrites [] [] := ⟨List.not_mem_nil, rfl⟩

theorem Rewrites.append {word spelling other spelling' : List Char} (h : Rewrites word spelling)
    (h' : Rewrites other spelling') : Rewrites (word ++ other) (spelling ++ spelling') := by
  constructor
  case noSigma => simp [h.noSigma, h'.noSigma]
  case chars => rw [List.flatMap_append, h.chars, h'.chars]

private theorem sigma_not_mem_cases :
    ∀ token ∈ Token.all,
      '\u03a3' ∉ token.spelling ∧ '\u03a3' ∉ token.spelling.map Char.toUpper := by
  decide +kernel

private theorem map_canonicalChar_cases :
    ∀ token ∈ Token.all,
      token.spelling.map canonicalChar = token.spelling.map ([·]) ∧
        token.spelling.map (canonicalChar ·.toUpper) = token.spelling.map ([·]) := by
  decide +kernel

/-- A character of a token may be written in either case. -/
theorem rewrites_char {token : Token} {char written : Char} (hchar : char ∈ token.spelling)
    (hwritten : EitherCase char written) : Rewrites [written] [char] := by
  obtain ⟨hsigma, hsigma'⟩ := sigma_not_mem_cases token token.mem_all
  obtain ⟨hlower, hupper⟩ := map_canonicalChar_cases token token.mem_all
  rcases hwritten with rfl | rfl
  · refine ⟨mt (fun hmem => ?_) hsigma, ?_⟩
    · rwa [List.mem_singleton.mp hmem]
    · rw [List.flatMap_singleton, List.map_inj_left.mp hlower _ hchar]
  · refine ⟨mt (fun hmem => ?_) hsigma', ?_⟩
    · rw [List.mem_singleton.mp hmem]
      exact List.mem_map_of_mem hchar
    · rw [List.flatMap_singleton, List.map_inj_left.mp hupper _ hchar]

/-- Each form of a token is rewritten to its spelling. -/
theorem rewrites_of_form {token : Token} {word : List Char} (h : token.Form word) :
    Rewrites word token.spelling := by
  cases h with
  | plain letters =>
    have hchars : ∀ char ∈ token.spelling, ∀ written, EitherCase char written →
        Rewrites [written] [char] := fun _ hchar _ hwritten => rewrites_char hchar hwritten
    generalize token.spelling = spelling at letters hchars
    induction letters with
    | nil => exact .nil
    | cons hletter _ ih =>
      have hrest := ih fun char hchar => hchars char (List.mem_cons_of_mem _ hchar)
      exact (hchars _ List.mem_cons_self _ hletter).append hrest
  | tilde | negationSign | conjunctionSign | disjunctionSign | arrow | doubleArrow
  | headAndArrow => constructor <;> decide +kernel

theorem rewrites_of_forms {tokens : List Token} {words : List (List Char)}
    (h : List.Forall₂ Token.Form tokens words) : Rewrites words.flatten (Token.spell tokens) := by
  induction h with
  | nil => exact .nil
  | cons hform _ ih => exact (rewrites_of_form hform).append ih

/-- However tokens are written, the canonical spelling is the one of the tokens. -/
theorem canonical_of_writes {tokens : List Token} {text : List Char} (h : Writes tokens text) :
    canonical text = Token.spell tokens := by
  obtain ⟨words, hforms, hrespaced⟩ := h
  rw [← canonical_of_respaced hrespaced, (rewrites_of_forms hforms).canonical_eq]

/-! ## Texts of tokens -/

private theorem sigmas_not_mem_spelling :
    ∀ token ∈ Token.all, '\u03c2' ∉ token.spelling ∧ '\u03c3' ∉ token.spelling := by
  decide

/-- A text whose canonical spelling consists of tokens has no capital sigma. -/
theorem sigma_not_mem {text : List Char} {tokens : List Token}
    (h : canonical text = Token.spell tokens) : '\u03a3' ∉ text := by
  intro hmem
  have hsigma := Text.sigma_mem_lowercase (sigma_mem_rewritten_iff.mpr hmem)
  change '\u03c2' ∈ canonical text ∨ '\u03c3' ∈ canonical text at hsigma
  rw [h, Token.spell, List.mem_flatMap, List.mem_flatMap] at hsigma
  rcases hsigma with ⟨token, _, hfinal⟩ | ⟨token, _, hplain⟩
  · exact (sigmas_not_mem_spelling token token.mem_all).1 hfinal
  · exact (sigmas_not_mem_spelling token token.mem_all).2 hplain

end Spelling

end Propositional
