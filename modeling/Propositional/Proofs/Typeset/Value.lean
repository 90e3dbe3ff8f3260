import Propositional.Proofs.Typeset.Line

/-!
# The value of a typeset line

`Line.eval` gives a line a truth value.  Within a chain the first arrow counts as the outermost one,
which is a choice: the line does not tell.  In a clear chain the choice does not matter
(`Chain.eval_append`).  A chain is clear if it has at most one arrow, or if all its arrows are those
of equivalences, since exclusive disjunction is associative.
-/

namespace Propositional.Typeset

/-! ## Values -/

mutual

/-- The truth value of a part. -/
def Part.eval (values : String → Bool) : Part → Bool
  | .constant value => value
  | .symbol letter => values letter.symbol
  | .group content => content.eval values
  | .negated part => !part.eval values

/-- The truth value of a chain, the first arrow being the outermost one. -/
def Chain.eval (values : String → Bool) : Chain → Bool
  | .last part => part.eval values
  | .more part arrow rest => !arrow.connective.apply (part.eval values) (rest.eval values)

/-- The truth value of a line. -/
def Line.eval (values : String → Bool) : Line → Bool
  | .last chain => chain.eval values
  | .more chain connective rest => connective.apply (chain.eval values) (rest.eval values)

end

/-! ## Clear chains -/

/-- It does not matter which of the arrows is the outermost one. -/
def ClearArrows (arrows : List Arrow) : Prop :=
  arrows.length ≤ 1 ∨ ∀ arrow ∈ arrows, arrow = .equivalence

/-- The arrows of a chain. -/
def Chain.arrows : Chain → List Arrow
  | .last _ => []
  | .more _ arrow rest => arrow :: rest.arrows

mutual

/-- The chains within a part are clear. -/
def Part.Clear : Part → Prop
  | .constant _ => True
  | .symbol _ => True
  | .group content => content.Clear
  | .negated part => part.Clear

/-- The chains within the parts of a chain are clear. -/
def Chain.ClearInside : Chain → Prop
  | .last part => part.Clear
  | .more part _ rest => part.Clear ∧ rest.ClearInside

/-- The chains of a line are clear, and so are those within their parts. -/
def Line.Clear : Line → Prop
  | .last chain => ClearArrows chain.arrows ∧ chain.ClearInside
  | .more chain _ rest => (ClearArrows chain.arrows ∧ chain.ClearInside) ∧ rest.Clear

end

/-- A chain is clear, and so are the chains within its parts. -/
def Chain.Clear (chain : Chain) : Prop := ClearArrows chain.arrows ∧ chain.ClearInside

theorem Chain.clear_last {part : Part} : (Chain.last part).Clear ↔ part.Clear := by
  simp [Clear, ClearInside, ClearArrows, arrows]

theorem Line.clear_last {chain : Chain} : (Line.last chain).Clear ↔ chain.Clear := by
  rw [Clear, Chain.Clear]

theorem Line.clear_more {chain : Chain} {connective : Connective} {rest : Line} :
    (Line.more chain connective rest).Clear ↔ chain.Clear ∧ rest.Clear := by
  rw [Clear, Chain.Clear]

namespace ClearArrows

variable {arrows others : List Arrow} {arrow : Arrow}

/-- Fewer arrows are clear if more are. -/
theorem of_sublist (h : ClearArrows others) (hsublist : List.Sublist arrows others) :
    ClearArrows arrows := by
  rcases h with hlength | hall
  · exact .inl (Nat.le_trans hsublist.length_le hlength)
  · exact .inr fun arrow hmem => hall arrow (hsublist.subset hmem)

/-- Clear arrows are all alike. -/
theorem eq_of_mem (h : ClearArrows arrows) {other : Arrow} (harrow : arrow ∈ arrows)
    (hother : other ∈ arrows) : other = arrow := by
  rcases h with hlength | hall
  · obtain ⟨only, heq⟩ := List.length_eq_one_iff.mp
      (Nat.le_antisymm hlength (List.length_pos_of_mem harrow))
    rw [heq, List.mem_singleton] at harrow hother
    rw [harrow, hother]
  · rw [hall arrow harrow, hall other hother]

/-- Arrows are clear if whatever stands beside one of them makes all those of equivalences. -/
theorem append (harrows : ∀ other ∈ arrows, arrow = .equivalence ∧ other = .equivalence)
    (hothers : ∀ other ∈ others, arrow = .equivalence ∧ other = .equivalence) :
    ClearArrows (arrows ++ arrow :: others) := by
  by_cases harrow : arrow = .equivalence
  · refine .inr fun other hmem => ?_
    rcases List.mem_append.mp hmem with hmem | hmem
    · exact (harrows other hmem).2
    · rcases List.mem_cons.mp hmem with heq | hmem
      · exact heq.trans harrow
      · exact (hothers other hmem).2
  · have hnone : arrows = [] :=
      List.eq_nil_iff_forall_not_mem.mpr fun other hmem => harrow (harrows other hmem).1
    have hnone' : others = [] :=
      List.eq_nil_iff_forall_not_mem.mpr fun other hmem => harrow (hothers other hmem).1
    exact .inl (by rw [hnone, hnone']; exact Nat.le_refl 1)

/-- An arrow with others beside it is clear only if all of them are those of equivalences. -/
theorem eq_equivalence (h : ClearArrows (arrows ++ arrow :: others))
    (hbeside : arrows ≠ [] ∨ others ≠ []) :
    ∀ other ∈ arrows ++ arrow :: others, other = .equivalence := by
  refine h.resolve_left fun hlength => ?_
  rw [List.length_append, List.length_cons] at hlength
  rcases hbeside with hne | hne
  · have hpos := List.length_pos_iff.mpr hne
    omega
  · have hpos := List.length_pos_iff.mpr hne
    omega

end ClearArrows

/-! ## Joining chains -/

namespace Chain

/-- Two chains with an arrow between them. -/
def append : Chain → Arrow → Chain → Chain
  | .last part, arrow, chain => .more part arrow chain
  | .more part first rest, arrow, chain => .more part first (rest.append arrow chain)

variable (arrow : Arrow) (second : Chain)

theorem marks_append : ∀ first : Chain,
    (first.append arrow second).marks = first.marks ++ .struck arrow :: second.marks
  | .last part => by rw [append, marks, marks]
  | .more part other rest => by
    rw [append, marks, marks_append rest, marks, List.append_assoc, List.cons_append]

theorem arrows_append : ∀ first : Chain,
    (first.append arrow second).arrows = first.arrows ++ arrow :: second.arrows
  | .last part => rfl
  | .more part other rest => by rw [append, arrows, arrows_append rest, arrows, List.cons_append]

theorem clearInside_append : ∀ first : Chain,
    (first.append arrow second).ClearInside ↔ first.ClearInside ∧ second.ClearInside
  | .last part => by rw [append, ClearInside, ClearInside]
  | .more part other rest => by
    rw [append, ClearInside, clearInside_append rest, ClearInside, and_assoc]

variable {arrow second}

/-- Both sides of an arrow in a clear chain are clear. -/
theorem Clear.of_append {first : Chain} (h : (first.append arrow second).Clear) :
    first.Clear ∧ second.Clear := by
  obtain ⟨harrows, hinside⟩ := h
  rw [arrows_append] at harrows
  rw [clearInside_append] at hinside
  exact ⟨⟨harrows.of_sublist (List.sublist_append_left _ _), hinside.1⟩,
    harrows.of_sublist ((List.sublist_cons_self _ _).trans (List.sublist_append_right _ _)),
    hinside.2⟩

/-- Exclusive disjunction is associative. -/
private theorem not_beq_not (first second third : Bool) :
    (!(first == !(second == third))) = !((!(first == second)) == third) := by
  revert first second third
  decide

/-- In a clear chain the arrow between two chains may be taken as the outermost one. -/
theorem eval_append (values : String → Bool) : ∀ {first : Chain},
    ClearArrows (first.append arrow second).arrows →
      (first.append arrow second).eval values =
        !arrow.connective.apply (first.eval values) (second.eval values)
  | .last part, _ => by rw [append, eval, eval]
  | .more part other rest, h => by
    have ih := eval_append values (h.of_sublist (List.sublist_cons_self _ _))
    rw [arrows_append, arrows] at h
    -- There are two arrows at least, so all of them are those of equivalences.
    have hall := h.eq_equivalence (.inl (List.cons_ne_nil _ _))
    obtain rfl : other = .equivalence := hall other (by simp)
    obtain rfl : arrow = .equivalence := hall arrow (by simp)
    rw [append, eval, ih, eval]
    exact not_beq_not _ _ _

end Chain

end Propositional.Typeset
