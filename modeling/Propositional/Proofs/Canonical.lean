import Propositional.Proofs.Spelling
import Propositional.Proofs.Text.LowerRuns

/-!
# Canonical texts

The canonical spelling has three phases, and none of them leaves work for an earlier one.  What is
neither white space nor a sign does not become so in lower case, since the images of lower case lie
elsewhere.  So every character of a canonical spelling is `Settled`: no phase changes it, whatever
stands around it (`settled_of_mem_canonical`).  A text of such characters is its own canonical
spelling (`canonical_of_settled`), and `canonical_idempotent` puts the two together.
-/

namespace Propositional.Spelling

/-! ## Signs -/

/-- The mathematical signs that stand for ASCII operators. -/
def signs : List Char := ['¬', '~', '∧', '∨', '→', '↔']

theorem respell_of_not_mem {char : Char} (h : char ∉ signs) : respell char = [char] := by
  unfold respell
  split
  case h_7 => rfl
  all_goals exact absurd (by decide) h

/-- No sign is respelled with white space or with signs. -/
private theorem respell_signs :
    (signs.all fun sign =>
      (respell sign).all fun char => !Text.isBlank char && !signs.contains char) = true := by
  decide +kernel

theorem respelled_of_mem {text : List Char} {char : Char}
    (h : char ∈ (Text.withoutBlanks text).flatMap respell) :
    Text.isBlank char = false ∧ char ∉ signs := by
  obtain ⟨source, hsource, hchar⟩ := List.mem_flatMap.mp h
  by_cases hsign : source ∈ signs
  · have hsigns := List.all_eq_true.mp (List.all_eq_true.mp respell_signs source hsign) char hchar
    simpa using hsigns
  · rw [respell_of_not_mem hsign, List.mem_singleton] at hchar
    subst hchar
    have hkept := (List.mem_filter.mp hsource).2
    exact ⟨by simpa using hkept, hsign⟩

/-! ## Settled characters -/

/-- None of the phases changes the character. -/
structure Settled (char : Char) : Prop where
  notBlank : Text.isBlank char = false
  notSign : char ∉ signs
  lowered : Text.Lowered char

private theorem lowerRuns_avoid_blanks :
    (Text.blanks.ranges.all fun range => Text.lowerRuns.runs.all (·.avoids range)) = true := by
  decide +kernel

private theorem lowerRuns_avoid_signs :
    (signs.all fun sign =>
      Text.lowerRuns.runs.all (·.avoids ⟨sign.toNat, sign.toNat⟩)) = true := by
  decide +kernel

/-- Lower case does not lead to white space. -/
theorem isBlank_lowerRuns_apply {char : Char} (h : Text.isBlank char = false) :
    Text.isBlank (Text.lowerRuns.apply char) = false := by
  unfold Text.isBlank Text.CodeSet.contains at h ⊢
  rw [List.any_eq_false] at h ⊢
  intro range hrange
  have havoids := List.all_eq_true.mp lowerRuns_avoid_blanks range hrange
  rw [Text.lowerRuns_apply_avoids havoids (Bool.eq_false_iff.mpr (h range hrange))]
  exact Bool.false_ne_true

/-- Lower case does not lead to a sign. -/
theorem lowerRuns_apply_not_mem_signs {char : Char} (h : char ∉ signs) :
    Text.lowerRuns.apply char ∉ signs := by
  intro hmem
  have havoids := List.all_eq_true.mp lowerRuns_avoid_signs _ hmem
  rcases Text.lowerRuns_apply_cases char with heq | ⟨run, hrun, himage⟩
  · exact h (heq ▸ hmem)
  · have hoff := Text.CaseRun.contains_eq_false (List.all_eq_true.mp havoids run hrun) himage
    rw [Text.CodeRange.contains_eq_false_iff] at hoff
    dsimp only at hoff
    omega

private theorem special_settled :
    (['\u03c2', '\u03c3', 'i', '\u0307'].all fun char =>
      !Text.isBlank char && !signs.contains char) = true := by
  decide +kernel

/-- What is made of a character that is neither white space nor a sign is neither. -/
theorem lowerBetween_settled {before after : List Char} {char out : Char}
    (hblank : Text.isBlank char = false) (hsign : char ∉ signs)
    (h : out ∈ Text.lowerBetween before char after) : Settled out := by
  have hlowered : Text.Lowered out := Text.lowered_of_mem_lowerBetween h
  rcases Text.lowerBetween_cases h with hspecial | ⟨_, heq⟩
  · have hout : Text.isBlank out = false ∧ out ∉ signs := by
      simpa using List.all_eq_true.mp special_settled out hspecial
    exact ⟨hout.1, hout.2, hlowered⟩
  · rw [heq] at hlowered ⊢
    exact ⟨isBlank_lowerRuns_apply hblank, lowerRuns_apply_not_mem_signs hsign, hlowered⟩

/-- Every character of a canonical spelling is settled. -/
theorem settled_of_mem_canonical {text : List Char} {char : Char} (h : char ∈ canonical text) :
    Settled char := by
  obtain ⟨source, hsource, before, after, hout⟩ := Text.exists_of_mem_lowercaseAfter [] h
  obtain ⟨hblank, hsign⟩ := respelled_of_mem hsource
  exact lowerBetween_settled hblank hsign hout

/-! ## Canonical texts -/

theorem lowercaseAfter_of_lowered {text : List Char} (h : ∀ char ∈ text, Text.Lowered char) :
    ∀ before : List Char, Text.lowercaseAfter before text = text := by
  induction text with
  | nil => exact fun _ => rfl
  | cons char after ih =>
    intro before
    rw [Text.lowercaseAfter, h char List.mem_cons_self,
      ih fun other hmem => h other (List.mem_cons_of_mem _ hmem)]
    rfl

/-- A text of settled characters is its own canonical spelling. -/
theorem canonical_of_settled {text : List Char} (h : ∀ char ∈ text, Settled char) :
    canonical text = text := by
  have hblanks : Text.withoutBlanks text = text :=
    List.filter_eq_self.mpr fun char hmem => by simp [(h char hmem).notBlank]
  have hsigns : text.flatMap respell = text := by
    rw [List.flatMap_congr fun char hmem => respell_of_not_mem (h char hmem).notSign,
      List.flatMap_singleton']
  rw [canonical, hblanks, hsigns]
  exact lowercaseAfter_of_lowered (fun char hmem => (h char hmem).lowered) []

/-- The canonical spelling of a canonical spelling is that spelling itself, of all texts of
characters.  It has no white space, no sign, and no character that lower case would change, wherever
the character stood. -/
theorem canonical_idempotent (text : String) :
    canonicalString (canonicalString text) = canonicalString text ∧
      ∀ char ∈ (canonicalString text).toList,
        Text.isBlank char = false ∧ char ∉ signs ∧
          ∀ before after : List Char, Text.lowerBetween before char after = [char] := by
  have hsettled : ∀ char ∈ (canonicalString text).toList, Settled char := by
    intro char hmem
    rw [canonicalString, String.toList_ofList] at hmem
    exact settled_of_mem_canonical hmem
  constructor
  · rw [canonicalString, canonical_of_settled hsettled, String.ofList_toList]
  · intro char hmem
    obtain ⟨hblank, hsign, hlowered⟩ := hsettled char hmem
    exact ⟨hblank, hsign, hlowered⟩

/-- The dotted capital I becomes two characters, and the capital sigma the one that is due within a
word once the white space is gone. -/
example : canonicalString "İ ↔ ΑΣ Β" = "i\u0307<->ασβ" := by
  decide +kernel

end Propositional.Spelling
