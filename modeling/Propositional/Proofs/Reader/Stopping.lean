import Propositional.Proofs.Reader.Depth

/-!
# Reading from the middle of a text

A reader may be set to work at any position of a text, with any number of constructs counted as
open.  `read_inside_iff` says exactly where it stops: behind a phrase that fits under the limit,
and in front of a text with which the phrase does not go on.  Nothing is assumed of what stands
before the position or behind the phrase.
-/

namespace Propositional

/-- The cursor at a position of a text, with that many constructs counted as open. -/
def Cursor.inside (text : List Char) (position depth : Nat) : Cursor :=
  ⟨text.drop position, position, depth⟩

/-- What lies between two cursors inside a text is the part of it between their positions. -/
theorem Cursor.passes_inside {text : List Char} {position stop : Nat} (depth depth' : Nat)
    (hle : position ≤ stop) (hstop : stop ≤ text.length) :
    (inside text position depth).Passes ((text.take stop).drop position)
      (inside text stop depth') := by
  have hlength : ((text.take stop).drop position).length = stop - position := by
    simp only [List.length_drop, List.length_take]
    omega
  constructor
  case unread =>
    calc text.drop position = (text.take stop ++ text.drop stop).drop position := by
          rw [List.take_append_drop]
      _ = (text.take stop).drop position ++ text.drop stop := by
          rw [List.drop_append_of_le_length]
          simp only [List.length_take]
          omega
  case position =>
    show stop = position + _
    omega

/-- A cursor that is reached from a place in a text is a place in it too. -/
theorem Cursor.Passes.stays_inside {text passed : List Char} {position depth : Nat} {next : Cursor}
    (hpass : (inside text position depth).Passes passed next) :
    next = inside text next.position next.depth := by
  have hunread : text.drop position = passed ++ next.unread := hpass.unread
  have hposition : next.position = position + passed.length := hpass.position
  have hrest : next.unread = text.drop next.position := by
    rw [hposition, ← List.drop_drop, hunread, List.drop_left]
  rw [inside, ← hrest]

/-- It does not lie behind the end of the text, unless nothing has been passed. -/
theorem Cursor.Passes.eq_inside {text passed : List Char} {position depth : Nat} {next : Cursor}
    (hpass : (inside text position depth).Passes passed next) (hpassed : passed ≠ []) :
    next = inside text next.position next.depth ∧ position ≤ next.position ∧
      next.position ≤ text.length ∧ passed = (text.take next.position).drop position := by
  have hunread : text.drop position = passed ++ next.unread := hpass.unread
  have hposition : next.position = position + passed.length := hpass.position
  have hlength : text.length - position = passed.length + next.unread.length := by
    rw [← List.length_drop, hunread, List.length_append]
  have hpos : 0 < passed.length := List.length_pos_iff.mpr hpassed
  refine ⟨hpass.stays_inside, by omega, by omega, ?_⟩
  rw [List.drop_take, hunread, hposition, Nat.add_sub_cancel_left, List.take_left]

/-- From any position, reading for a level gives a formula and stops at another position exactly if
the text between the two is a phrase of the level for the formula that fits under the limit, and
neither the connective of the level nor one of a tighter level comes next.  As many constructs are
counted as open afterwards as before. -/
theorem read_inside_iff (text : List Char) (production : Production) (position depth : Nat)
    (formula : Formula) (next : Cursor) :
    production.read (.inside text position depth) = .ok formula next ↔
      ∃ stop nesting, next = .inside text stop depth ∧ position ≤ stop ∧ stop ≤ text.length ∧
        Derives production ((text.take stop).drop position) formula nesting ∧
        (nesting = 0 ∨ depth + nesting ≤ nestingLimit) ∧
        ∀ connective ∈ production.connectives, ¬ connective.spelling <+: text.drop stop := by
  rw [read_eq_iff, reads_ok_iff]
  constructor
  · intro h
    obtain ⟨passed, nesting, hpass, hdepth, hderives, hfits, hstops⟩ := h
    have hdepth' : next.depth = depth := hdepth
    obtain ⟨hnext, hle, hstop, hpassed⟩ := hpass.eq_inside hderives.ne_nil
    rw [hdepth'] at hnext
    rw [hpassed] at hderives
    rw [hnext] at hstops
    exact ⟨next.position, nesting, hnext, hle, hstop, hderives, hfits, hstops⟩
  · intro h
    obtain ⟨stop, nesting, hnext, hle, hstop, hderives, hfits, hstops⟩ := h
    subst hnext
    exact ⟨_, nesting, Cursor.passes_inside depth depth hle hstop, rfl, hderives, hfits, hstops⟩

/-- In front of a looser connective a level stops, and without signs that open a construct it reads
also where the limit is long passed. -/
example :
    (Production.binary .or).read (.inside "(a|b&c->d".toList 1 70) =
      .ok (.bin .or (.var "a") (.bin .and (.var "b") (.var "c")))
        (.inside "(a|b&c->d".toList 6 70) := by
  rfl

end Propositional
