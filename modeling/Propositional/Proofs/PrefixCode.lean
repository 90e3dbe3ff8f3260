/-!
# Prefix codes

A code writes each symbol as a word.  If no word begins with another one, and none is empty, a text
is made of words in at most one way: where a text of words begins with another one, so do the
symbols (`startsWith_of_flatMap`).
-/

namespace Propositional

/-- No word of the code is empty or begins with the word of another symbol. -/
structure PrefixCode {α β : Type} (code : α → List β) : Prop where
  ne_nil : ∀ symbol, code symbol ≠ []
  eq_of_startsWith : ∀ {symbol other}, code symbol <+: code other → symbol = other

namespace PrefixCode

variable {α β : Type} {code : α → List β}

/-- A text begins with the word of at most one symbol. -/
theorem eq_of_startsWith_text (h : PrefixCode code) {symbol other : α} {text : List β}
    (hsymbol : code symbol <+: text) (hother : code other <+: text) : symbol = other := by
  rcases List.prefix_or_prefix_of_prefix hsymbol hother with hstarts | hstarts
  · exact h.eq_of_startsWith hstarts
  · exact (h.eq_of_startsWith hstarts).symm

/-- If a text of words begins with another one, the symbols begin with the other ones. -/
theorem startsWith_of_flatMap (h : PrefixCode code) {symbols others : List α}
    (hstarts : symbols.flatMap code <+: others.flatMap code) : symbols <+: others := by
  induction symbols generalizing others with
  | nil => exact List.nil_prefix
  | cons symbol symbols ih =>
    rw [List.flatMap_cons] at hstarts
    have hsymbol : code symbol <+: others.flatMap code := (List.prefix_append _ _).trans hstarts
    cases others with
    | nil =>
      rw [List.flatMap_nil, List.prefix_nil] at hsymbol
      exact absurd hsymbol (h.ne_nil symbol)
    | cons other others =>
      rw [List.flatMap_cons] at hstarts hsymbol
      have heq : symbol = other := h.eq_of_startsWith_text hsymbol (List.prefix_append _ _)
      subst heq
      rw [List.prefix_append_right_inj] at hstarts
      exact List.cons_prefix_cons.mpr ⟨rfl, ih hstarts⟩

/-- The words of a text can be told apart. -/
theorem flatMap_injective (h : PrefixCode code) :
    ∀ {symbols others : List α}, symbols.flatMap code = others.flatMap code →
      symbols = others := by
  intro symbols others heq
  have hstarts : symbols.flatMap code <+: others.flatMap code := heq ▸ List.prefix_rfl
  have hstarts' : others.flatMap code <+: symbols.flatMap code := heq ▸ List.prefix_rfl
  exact (h.startsWith_of_flatMap hstarts).eq_of_length_le
    (h.startsWith_of_flatMap hstarts').length_le

end PrefixCode

end Propositional
