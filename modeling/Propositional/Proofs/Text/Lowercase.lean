import Propositional.Text.Lowercase

/-!
# Lower case character by character

Only the capital sigma is judged by what stands around it.  A text without one is put into lower
case character by character (`lowercase_eq_flatMap`).  A text with one still has a sigma afterwards,
the final or the plain one (`sigma_mem_lowercase`).
-/

namespace Propositional.Text

theorem lowerChar_ne_nil (char : Char) : lowerChar char ≠ [] := by
  unfold lowerChar
  split <;> exact List.cons_ne_nil _ _

theorem lowerBetween_ne_nil (before : List Char) (char : Char) (after : List Char) :
    lowerBetween before char after ≠ [] := by
  unfold lowerBetween
  split
  · exact List.cons_ne_nil _ _
  · exact lowerChar_ne_nil char

theorem lowercaseAfter_eq_flatMap {text : List Char} (h : '\u03a3' ∉ text) (before : List Char) :
    lowercaseAfter before text = text.flatMap lowerChar := by
  induction text generalizing before with
  | nil => rfl
  | cons char after ih =>
    obtain ⟨hchar, hafter⟩ := not_or.mp (mt List.mem_cons.mpr h)
    rw [lowercaseAfter, lowerBetween, if_neg (Ne.symm hchar), ih hafter, List.flatMap_cons]

theorem lowercase_eq_flatMap {text : List Char} (h : '\u03a3' ∉ text) :
    lowercase text = text.flatMap lowerChar :=
  lowercaseAfter_eq_flatMap h []

theorem lowercase_eq_nil_iff {text : List Char} : lowercase text = [] ↔ text = [] := by
  cases text with
  | nil => simp [lowercase, lowercaseAfter]
  | cons char after => simp [lowercase, lowercaseAfter, lowerBetween_ne_nil]

/-- Every character of a lower-case text is made of one of the text. -/
theorem exists_of_mem_lowercaseAfter {text : List Char} {out : Char} :
    ∀ before : List Char, out ∈ lowercaseAfter before text →
      ∃ char ∈ text, ∃ before after, out ∈ lowerBetween before char after := by
  induction text with
  | nil => exact fun _ h => absurd h List.not_mem_nil
  | cons char after ih =>
    intro before h
    rcases List.mem_append.mp h with hhere | hlater
    · exact ⟨char, List.mem_cons_self, before, after, hhere⟩
    · obtain ⟨other, hmem, hother⟩ := ih (char :: before) hlater
      exact ⟨other, List.mem_cons_of_mem _ hmem, hother⟩

theorem sigma_mem_lowercaseAfter {text : List Char} (h : '\u03a3' ∈ text)
    (before : List Char) :
    '\u03c2' ∈ lowercaseAfter before text ∨ '\u03c3' ∈ lowercaseAfter before text := by
  induction text generalizing before with
  | nil => cases h
  | cons char after ih =>
    simp only [lowercaseAfter, List.mem_append]
    rcases List.mem_cons.mp h with heq | hmem
    · subst heq
      unfold lowerBetween
      cases endsWord before after <;> simp
    · rcases ih hmem (char :: before) with hfinal | hplain
      · exact .inl (.inr hfinal)
      · exact .inr (.inr hplain)

theorem sigma_mem_lowercase {text : List Char} (h : '\u03a3' ∈ text) :
    '\u03c2' ∈ lowercase text ∨ '\u03c3' ∈ lowercase text :=
  sigma_mem_lowercaseAfter h []

end Propositional.Text
