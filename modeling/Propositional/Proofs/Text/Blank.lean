import Mathlib.Data.List.TakeWhile
import Propositional.Text.Blank

/-!
# Texts up to white space

`Respaced` relates two texts that differ in white space only, by one rule for each place at which
they may differ.  These are the texts that are the same without their white space (`respaced_iff`).
Stripping a text leaves nothing of it exactly if dropping its white space does
(`strip_eq_nil_iff_withoutBlanks`).
-/

namespace Propositional.Text

/-- The second text is the first one with white space inserted and deleted anywhere. -/
inductive Respaced : List Char → List Char → Prop where
  | nil : Respaced [] []
  | same {text other} (char : Char) (rest : Respaced text other) :
      Respaced (char :: text) (char :: other)
  | inserted {char text other} (blank : isBlank char = true) (rest : Respaced text other) :
      Respaced text (char :: other)
  | deleted {char text other} (blank : isBlank char = true) (rest : Respaced text other) :
      Respaced (char :: text) other

theorem withoutBlanks_cons (char : Char) (text : List Char) :
    withoutBlanks (char :: text) =
      if isBlank char then withoutBlanks text else char :: withoutBlanks text := by
  unfold withoutBlanks
  cases h : isBlank char <;> simp [h]

theorem withoutBlanks_dropWhile (text : List Char) :
    withoutBlanks (text.dropWhile isBlank) = withoutBlanks text := by
  induction text with
  | nil => rfl
  | cons char rest ih =>
    rw [List.dropWhile_cons]
    split
    · rename_i hblank
      rw [ih, withoutBlanks_cons, if_pos hblank]
    · rfl

/-- Stripping a text takes white space only. -/
theorem withoutBlanks_strip (text : List Char) : withoutBlanks (strip text) = withoutBlanks text := by
  have hreverse : ∀ text, withoutBlanks text.reverse = (withoutBlanks text).reverse :=
    fun _ => List.filter_reverse ..
  rw [strip, hreverse, withoutBlanks_dropWhile, hreverse, List.reverse_reverse,
    withoutBlanks_dropWhile]

theorem Respaced.withoutBlanks_eq {text other : List Char} (h : Respaced text other) :
    withoutBlanks text = withoutBlanks other := by
  induction h with
  | nil => rfl
  | same char _ ih => rw [withoutBlanks_cons, withoutBlanks_cons, ih]
  | inserted blank _ ih => rw [withoutBlanks_cons, if_pos blank, ih]
  | deleted blank _ ih => rw [withoutBlanks_cons, if_pos blank, ih]

theorem respaced_of_withoutBlanks_eq {text other : List Char}
    (h : withoutBlanks text = withoutBlanks other) : Respaced text other := by
  induction text generalizing other with
  | nil =>
    induction other with
    | nil => exact .nil
    | cons char rest ih =>
      rw [withoutBlanks_cons] at h
      split at h
      · rename_i hblank
        exact .inserted hblank (ih h)
      · cases h
  | cons char text ihtext =>
    by_cases hchar : isBlank char = true
    · rw [withoutBlanks_cons, if_pos hchar] at h
      exact .deleted hchar (ihtext h)
    · -- The other text has the character too, behind some white space.
      induction other with
      | nil =>
        rw [withoutBlanks_cons, if_neg hchar] at h
        cases h
      | cons char' other ihother =>
        by_cases hblank : isBlank char' = true
        · rw [withoutBlanks_cons char', if_pos hblank] at h
          exact .inserted hblank (ihother h)
        · rw [withoutBlanks_cons, withoutBlanks_cons, if_neg hchar, if_neg hblank] at h
          obtain ⟨heq, hrest⟩ := List.cons.inj h
          subst heq
          exact .same char (ihtext hrest)

/-- Two texts differ in white space only if they are the same without it. -/
theorem respaced_iff {text other : List Char} :
    Respaced text other ↔ withoutBlanks text = withoutBlanks other :=
  ⟨Respaced.withoutBlanks_eq, respaced_of_withoutBlanks_eq⟩

/-- Nothing is left of a text of white space, and of no other one. -/
theorem strip_eq_nil_iff {text : List Char} :
    strip text = [] ↔ ∀ char ∈ text, isBlank char = true := by
  unfold strip
  rw [List.reverse_eq_nil_iff, List.dropWhile_eq_nil_iff]
  constructor
  · intro h
    have hnil : text.dropWhile isBlank = [] := by
      by_contra hne
      have hhead := List.head_dropWhile_not isBlank hne
      rw [h _ (List.mem_reverse.mpr (List.head_mem hne))] at hhead
      cases hhead
    exact List.dropWhile_eq_nil_iff.mp hnil
  · intro h char hchar
    rw [List.dropWhile_eq_nil_iff.mpr h] at hchar
    cases hchar

theorem strip_eq_nil_iff_withoutBlanks {text : List Char} :
    strip text = [] ↔ withoutBlanks text = [] := by
  rw [strip_eq_nil_iff, withoutBlanks, List.filter_eq_nil_iff]
  simp

end Propositional.Text
