import Propositional.Proofs.Table.Outcome
import Propositional.Proofs.Text.Ascii

/-!
# The alphabet of the texts that have tables

`Spelling.alphabet` has the characters in which formulas may be typed.  Every other character but
white space leaves something in the canonical spelling that is in no token
(`Spelling.mem_alphabet_of_canonicalChar`).  A text that has a table is spelled in tokens, so it is
typed in the alphabet.
-/

namespace Propositional

namespace Spelling

/-- The characters in which formulas may be typed, white space apart: the letters, those of the
literals, the ASCII operators and parentheses, and the mathematical signs. -/
def alphabet : List Char :=
  "abcdABCD".toList ++ "truefalseTRUEFALSE".toList ++ "!~&|-<>()".toList ++ "¬∧∨→↔".toList

private theorem ascii_cases :
    ∀ token ∈ Token.all,
      'k' ∉ token.spelling ∧ 'i' ∉ token.spelling ∧
        ∀ code ∈ token.spelling.map Char.toNat, code < 0x80 := by
  decide +kernel

private theorem subset_alphabet_cases :
    ∀ token ∈ Token.all,
      token.spelling ⊆ alphabet ∧ token.spelling.map Char.toUpper ⊆ alphabet := by
  decide +kernel

theorem ascii_of_mem_spelling {token : Token} {char : Char} (h : char ∈ token.spelling) :
    char.toNat < 0x80 :=
  (ascii_cases token token.mem_all).2.2 _ (List.mem_map_of_mem h)

/-- The two letters that other characters become are in no token. -/
theorem eitherCase_of_mem_spelling {token : Token} {char out : Char}
    (htoken : out ∈ token.spelling) (h : char = out ∨ char = out.toUpper ∨ out = 'k' ∨ out = 'i') :
    EitherCase out char := by
  obtain ⟨hk, hi, _⟩ := ascii_cases token token.mem_all
  rcases h with hsame | hcapital | heq | heq
  · exact .inl hsame
  · exact .inr hcapital
  · exact absurd (heq ▸ htoken) hk
  · exact absurd (heq ▸ htoken) hi

theorem mem_alphabet_of_eitherCase {token : Token} {char out : Char}
    (htoken : out ∈ token.spelling) (h : EitherCase out char) : char ∈ alphabet := by
  obtain ⟨hsmall, hcapital⟩ := subset_alphabet_cases token token.mem_all
  rcases h with rfl | rfl
  · exact hsmall htoken
  · exact hcapital (List.mem_map_of_mem htoken)

/-- A character that leaves a character of a token in the canonical spelling is in the alphabet. -/
theorem mem_alphabet_of_canonicalChar {token : Token} {char out : Char}
    (htoken : out ∈ token.spelling) (h : out ∈ canonicalChar char) : char ∈ alphabet := by
  unfold canonicalChar at h
  split at h
  · cases h
  · unfold respell at h
    split at h
    case h_7 =>
      -- The character is no sign, so it is the one that is put into lower case.
      rw [List.flatMap_singleton] at h
      have hcases := Text.ascii_mem_lowerChar h (ascii_of_mem_spelling htoken)
      exact mem_alphabet_of_eitherCase htoken (eitherCase_of_mem_spelling htoken hcases)
    all_goals decide

/-- No character but white space vanishes. -/
theorem canonicalChar_ne_nil {char : Char} (h : Text.isBlank char = false) :
    canonicalChar char ≠ [] := by
  obtain ⟨sign, hsign⟩ := List.exists_mem_of_ne_nil _ (respell_ne_nil char)
  obtain ⟨out, hout⟩ := List.exists_mem_of_ne_nil _ (Text.lowerChar_ne_nil sign)
  rw [canonicalChar, if_neg (by simp [h])]
  exact List.ne_nil_of_mem (List.mem_flatMap.mpr ⟨sign, hsign, hout⟩)

/-- A text that is spelled in tokens is typed in the alphabet. -/
theorem mem_alphabet_of_canonical {text : List Char} {tokens : List Token}
    (h : canonical text = Token.spell tokens) {char : Char} (hmem : char ∈ text)
    (hblank : Text.isBlank char = false) : char ∈ alphabet := by
  obtain ⟨out, hout⟩ := List.exists_mem_of_ne_nil _ (canonicalChar_ne_nil hblank)
  have hspelled : out ∈ Token.spell tokens := by
    rw [← h, canonical_eq_flatMap (sigma_not_mem h)]
    exact List.mem_flatMap.mpr ⟨char, hmem, hout⟩
  obtain ⟨token, _, htoken⟩ := List.mem_flatMap.mp hspelled
  exact mem_alphabet_of_canonicalChar htoken hout

end Spelling

/-- Every character of a text that has a table is white space or in the alphabet.  Among all
characters, none but the characters of a token and their capitals become characters of the token in
lower case, wherever they stand. -/
theorem alphabet_of_ofText :
    (∀ (text : String) (table : TruthTable), (Build.ofText (some text)).outcome = .ok table →
      ∀ char ∈ text.toList, Text.isBlank char = false → char ∈ Spelling.alphabet) ∧
    ∀ (token : Token) (before after : List Char) (char : Char), ∀ out ∈ token.spelling,
      out ∈ Text.lowerBetween before char after → EitherCase out char := by
  constructor
  · intro text table htable char hmem hblank
    obtain ⟨formula, nesting, hderives, _⟩ := Build.derives_of_ofText htable
    obtain ⟨tokens, hspelling, _⟩ := hderives.supplied
    exact Spelling.mem_alphabet_of_canonical hspelling hmem hblank
  · intro token before after char out htoken hout
    have hcases := Text.ascii_mem_lowerBetween hout (Spelling.ascii_of_mem_spelling htoken)
    exact Spelling.eitherCase_of_mem_spelling htoken hcases

/-- White space, signs and capitals in one text that has a table. -/
theorem alphabet_of_equivalence :
    (Build.ofText (some "¬A\u2003↔ FalSE")).outcome =
      .ok ⟨"¬A\u2003↔ FalSE", ["A"], [[0, 0], [1, 1]]⟩ ∧
    ∀ char ∈ "¬A\u2003↔ FalSE".toList, Text.isBlank char = false → char ∈ Spelling.alphabet := by
  have hbuilt : (Build.ofText (some "¬A\u2003↔ FalSE")).outcome =
      .ok ⟨"¬A\u2003↔ FalSE", ["A"], [[0, 0], [1, 1]]⟩ := by
    with_unfolding_all rfl
  exact ⟨hbuilt, alphabet_of_ofText.1 _ _ hbuilt⟩

end Propositional
