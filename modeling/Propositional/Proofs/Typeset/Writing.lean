import Propositional.Proofs.Folded.Reduced
import Propositional.Proofs.Folded.Typeset
import Propositional.Proofs.Typeset.Value

/-!
# Typeset formulas as lines

Every reduced formula is typeset as the text of a line (`exists_writes`).  The line has the value of
the formula if it is clear, and it is clear if the formula is `Unmixed`: no struck-out implication
has another struck-out arrow beside it.

A text is that of one line only.  So two formulas with the same text have the same line, and it is
enough that one of them is unmixed for both to have its value (`eval_eq_of_typeset_eq`).
-/

namespace Propositional

open Typeset

/-! ## Struck-out arrows -/

namespace Folded

/-- The struck-out arrow of a negated implication or equivalence. -/
def struckArrow? : Folded → Option Arrow
  | negation (implication _ _) => some .implication
  | negation (equivalence _ _) => some .equivalence
  | _ => none

/-- A formula may stand beside a struck-out arrow: there is none at its top, or both are those of
equivalences. -/
def FitsBeside (arrow : Arrow) (formula : Folded) : Prop :=
  ∀ other, formula.struckArrow? = some other → arrow = .equivalence ∧ other = .equivalence

/-- Both sides of a struck-out arrow may stand beside it. -/
def UnmixedAt : Folded → Prop
  | negation (implication left right) =>
    left.FitsBeside .implication ∧ right.FitsBeside .implication
  | negation (equivalence left right) =>
    left.FitsBeside .equivalence ∧ right.FitsBeside .equivalence
  | _ => True

/-- No struck-out implication has another struck-out arrow beside it. -/
def Unmixed (formula : Folded) : Prop := ∀ part, Occurs part formula → part.UnmixedAt

theorem unmixed_iff {formula : Folded} :
    formula.Unmixed ↔ formula.UnmixedAt ∧ ∀ operand ∈ formula.operands, operand.Unmixed :=
  forall_occurs_iff

@[simp] theorem unmixed_symbol (name : String) : (symbol name).Unmixed :=
  unmixed_iff.mpr ⟨trivial, by simp [operands]⟩

@[simp] theorem unmixed_negation {operand : Folded} :
    (negation operand).Unmixed ↔ (negation operand).UnmixedAt ∧ operand.Unmixed := by
  rw [unmixed_iff]
  simp [operands]

@[simp] theorem unmixed_junction {kind : Junction} {formulas : List Folded} :
    (junction kind formulas).Unmixed ↔ ∀ operand ∈ formulas, operand.Unmixed := by
  rw [unmixed_iff]
  simp [operands, UnmixedAt]

@[simp] theorem unmixed_implication {left right : Folded} :
    (implication left right).Unmixed ↔ left.Unmixed ∧ right.Unmixed := by
  rw [unmixed_iff]
  simp [operands, UnmixedAt]

@[simp] theorem unmixed_equivalence {left right : Folded} :
    (equivalence left right).Unmixed ↔ left.Unmixed ∧ right.Unmixed := by
  rw [unmixed_iff]
  simp [operands, UnmixedAt]

/-- The symbols of a formula are those of letters. -/
def OverLetters (formula : Folded) : Prop :=
  ∀ name ∈ formula.symbols, ∃ letter : Letter, name = letter.symbol

theorem OverLetters.operand {formula operand : Folded} (h : formula.OverLetters)
    (hmem : operand ∈ formula.operands) : operand.OverLetters := by
  intro name hname
  refine h name ?_
  cases formula with
  | constant | symbol => exact absurd hmem List.not_mem_nil
  | negation inner =>
    rw [operands, List.mem_singleton] at hmem
    rwa [hmem] at hname
  | junction kind operands => exact mem_symbolsAll.mpr ⟨operand, hmem, hname⟩
  | implication left right | equivalence left right =>
    rw [symbols, List.mem_append]
    simp only [operands, List.mem_cons, List.not_mem_nil, or_false] at hmem
    exact hmem.imp (fun heq => by rwa [heq] at hname) fun heq => by rwa [heq] at hname

/-- A reduced formula over letters. -/
structure Plain (formula : Folded) : Prop where
  reduced : formula.Reduced
  letters : formula.OverLetters

theorem Plain.operand {formula operand : Folded} (h : formula.Plain)
    (hmem : operand ∈ formula.operands) : operand.Plain :=
  ⟨h.reduced.operand hmem, h.letters.operand hmem⟩

theorem Plain.pair {formula left right : Folded} (h : formula.Plain)
    (hoperands : formula.operands = [left, right]) : left.Plain ∧ right.Plain :=
  ⟨h.operand (by simp [hoperands]), h.operand (by simp [hoperands])⟩

end Folded

/-! ## Writing -/

namespace Typeset

open Folded

/-- The line is what the formula is typeset as. -/
structure Line.Writes (line : Line) (formula : Folded) : Prop where
  text : formula.typeset = spell line.marks
  clear : formula.Unmixed → line.Clear
  value : line.Clear → ∀ values, line.eval values = formula.eval values

/-- The chain is what the formula is typeset as if it is an operand. -/
structure Chain.Writes (chain : Chain) (formula : Folded) : Prop where
  text : formula.operandText = spell chain.marks
  clear : formula.Unmixed → chain.Clear
  value : chain.Clear → ∀ values, chain.eval values = formula.eval values
  bare : formula.struckArrow? = none → chain.arrows = []
  struck : ∀ arrow, formula.struckArrow? = some arrow → arrow ∈ chain.arrows

namespace Chain.Writes

variable {chain : Chain} {formula : Folded}

/-- A formula that stands without parentheses is typeset as it is as an operand. -/
theorem line (h : chain.Writes formula) (halone : formula.standsAlone = true) :
    (Line.last chain).Writes formula where
  text := by
    rw [← operandText_of_standsAlone halone]
    exact h.text
  clear := fun hunmixed => Line.clear_last.mpr (h.clear hunmixed)
  value := by
    intro hclear values
    rw [Line.eval]
    exact h.value (Line.clear_last.mp hclear) values

end Chain.Writes

/-- Any other formula is put into parentheses. -/
theorem Line.Writes.group {line : Line} {formula : Folded} (h : line.Writes formula)
    (halone : formula.standsAlone = false) : (Chain.last (.group line)).Writes formula where
  text := by
    rw [operandText, asOperand, if_neg (by rw [halone]; decide), grouped, h.text]
    simp [Chain.marks, Part.marks, Mark.text]
  clear := fun hunmixed => Chain.clear_last.mpr (h.clear hunmixed)
  value := by
    intro hclear values
    rw [Chain.eval, Part.eval]
    exact h.value (Chain.clear_last.mp hclear) values
  bare := fun _ => rfl
  struck := by
    intro arrow harrow
    cases formula with
    | negation operand => cases halone
    | constant | symbol | junction | implication | equivalence => cases harrow

/-! ## Constants, symbols and their negations -/

theorem writes_constant (value : Bool) :
    (Line.last (.last (.constant value))).Writes (.constant value) where
  text := by simp [typeset, Line.marks, Chain.marks, Part.marks, Mark.text]
  clear := fun _ => Line.clear_last.mpr (Chain.clear_last.mpr trivial)
  value := fun _ _ => by rw [Line.eval, Chain.eval, Part.eval, Folded.eval]

theorem writes_symbol (letter : Letter) :
    (Chain.last (.symbol letter)).Writes (.symbol letter.symbol) where
  text := by
    simp [operandText, asOperand, standsAlone, typeset, Chain.marks, Part.marks, Mark.text]
  clear := fun _ => Chain.clear_last.mpr trivial
  value := fun _ _ => by rw [Chain.eval, Part.eval, Folded.eval]
  bare := fun _ => rfl
  struck := fun _ h => nomatch h

theorem writes_negation_symbol (letter : Letter) :
    (Chain.last (.negated (.symbol letter))).Writes (.negation (.symbol letter.symbol)) where
  text := by
    simp [operandText, asOperand, standsAlone, typeset, Chain.marks, Part.marks, Mark.text]
  clear := fun _ => Chain.clear_last.mpr trivial
  value := fun _ _ => by rw [Chain.eval, Part.eval, Part.eval, Folded.eval, Folded.eval]
  bare := fun _ => rfl
  struck := fun _ h => nomatch h

theorem writes_negation_junction {line : Line} {kind : Junction} {operands : List Folded}
    (h : line.Writes (.junction kind operands)) :
    (Chain.last (.negated (.group line))).Writes (.negation (.junction kind operands)) where
  text := by
    have htext := h.text
    rw [typeset] at htext
    simp [operandText, asOperand, standsAlone, typeset, grouped, htext, Chain.marks, Part.marks,
      Mark.text]
  clear := by
    intro hunmixed
    exact Chain.clear_last.mpr (h.clear (unmixed_negation.mp hunmixed).2)
  value := by
    intro hclear values
    rw [Chain.eval, Part.eval, Part.eval, h.value (Chain.clear_last.mp hclear), ← Folded.eval]
  bare := fun _ => rfl
  struck := fun _ h => nomatch h

/-! ## Two operands -/

section Pairs

variable {first second : Chain} {left right formula : Folded}

/-- Two operands with the sign of a connective between them. -/
theorem writes_pair (connective : Connective) (hfirst : first.Writes left)
    (hsecond : second.Writes right)
    (htext : formula.typeset = infixed connective.sign [left.operandText, right.operandText])
    (hunmixed : formula.Unmixed → left.Unmixed ∧ right.Unmixed)
    (hvalue : ∀ values,
      formula.eval values = connective.apply (left.eval values) (right.eval values)) :
    (Line.more first connective (.last second)).Writes formula where
  text := by
    rw [htext, infixed_cons_cons, infixed_singleton, hfirst.text, hsecond.text]
    simp [Line.marks, Mark.text]
  clear := by
    intro h
    obtain ⟨hleft, hright⟩ := hunmixed h
    exact Line.clear_more.mpr ⟨hfirst.clear hleft, Line.clear_last.mpr (hsecond.clear hright)⟩
  value := by
    intro hclear values
    obtain ⟨hclearFirst, hclearRest⟩ := Line.clear_more.mp hclear
    rw [Line.eval, Line.eval, hfirst.value hclearFirst,
      hsecond.value (Line.clear_last.mp hclearRest), hvalue]

/-- If a formula may stand beside an arrow, then so may all arrows of its chain. -/
theorem Chain.Writes.arrows_fit {arrow : Arrow} (h : first.Writes left) (hunmixed : left.Unmixed)
    (hfits : left.FitsBeside arrow) :
    ∀ other ∈ first.arrows, arrow = .equivalence ∧ other = .equivalence := by
  intro other hmem
  cases hstruck : left.struckArrow? with
  | none =>
    rw [h.bare hstruck] at hmem
    exact absurd hmem List.not_mem_nil
  | some top =>
    obtain ⟨harrow, htop⟩ := hfits top hstruck
    have hother : other = top := (h.clear hunmixed).1.eq_of_mem (h.struck top hstruck) hmem
    exact ⟨harrow, hother.trans htop⟩

/-- Two operands with a struck-out arrow between them. -/
theorem writes_struck_pair (arrow : Arrow) (hfirst : first.Writes left)
    (hsecond : second.Writes right)
    (htext : formula.operandText =
      infixed (struck arrow.connective.sign) [left.operandText, right.operandText])
    (hstruck : formula.struckArrow? = some arrow)
    (hunmixed : formula.Unmixed →
      (left.Unmixed ∧ left.FitsBeside arrow) ∧ right.Unmixed ∧ right.FitsBeside arrow)
    (hvalue : ∀ values,
      formula.eval values = !arrow.connective.apply (left.eval values) (right.eval values)) :
    (first.append arrow second).Writes formula where
  text := by
    rw [htext, infixed_cons_cons, infixed_singleton, hfirst.text, hsecond.text,
      Chain.marks_append]
    simp [Mark.text]
  clear := by
    intro h
    obtain ⟨⟨hleft, hleftFits⟩, hright, hrightFits⟩ := hunmixed h
    constructor
    · rw [Chain.arrows_append]
      exact .append (hfirst.arrows_fit hleft hleftFits) (hsecond.arrows_fit hright hrightFits)
    · rw [Chain.clearInside_append]
      exact ⟨(hfirst.clear hleft).2, (hsecond.clear hright).2⟩
  value := by
    intro hclear values
    obtain ⟨hclearFirst, hclearSecond⟩ := Chain.Clear.of_append hclear
    rw [Chain.eval_append values hclear.1, hfirst.value hclearFirst, hsecond.value hclearSecond,
      hvalue]
  bare := by
    intro hnone
    rw [hstruck] at hnone
    cases hnone
  struck := by
    intro other hother
    rw [hstruck, Option.some.injEq] at hother
    rw [← hother, Chain.arrows_append]
    exact List.mem_append_right _ (List.mem_cons_self ..)

end Pairs

/-! ## Every reduced formula -/

/-- There is a line for the formula, and a chain for it as an operand. -/
def Writable (formula : Folded) : Prop :=
  (∃ line : Line, line.Writes formula) ∧ ∃ chain : Chain, chain.Writes formula

namespace Writable

variable {left right : Folded}

theorem of_chain {formula : Folded} {chain : Chain} (h : chain.Writes formula)
    (halone : formula.standsAlone = true) : Writable formula :=
  ⟨⟨_, h.line halone⟩, _, h⟩

theorem of_line {formula : Folded} {line : Line} (h : line.Writes formula)
    (halone : formula.standsAlone = false) : Writable formula :=
  ⟨⟨_, h⟩, _, h.group halone⟩

theorem implication (hleft : Writable left) (hright : Writable right) :
    Writable (.implication left right) := by
  obtain ⟨_, first, hfirst⟩ := hleft
  obtain ⟨_, second, hsecond⟩ := hright
  exact of_line (writes_pair .implies hfirst hsecond (by rw [typeset]; rfl) unmixed_implication.mp
    fun values => by rw [Folded.eval]; rfl) rfl

theorem negation_implication (hleft : Writable left) (hright : Writable right) :
    Writable (.negation (.implication left right)) := by
  obtain ⟨_, first, hfirst⟩ := hleft
  obtain ⟨_, second, hsecond⟩ := hright
  refine of_chain (writes_struck_pair .implication hfirst hsecond ?_ rfl ?_ ?_) rfl
  · rw [operandText_of_standsAlone rfl, typeset]
    rfl
  · intro hunmixed
    obtain ⟨⟨hfitsLeft, hfitsRight⟩, hinner⟩ := unmixed_negation.mp hunmixed
    obtain ⟨hleft, hright⟩ := unmixed_implication.mp hinner
    exact ⟨⟨hleft, hfitsLeft⟩, hright, hfitsRight⟩
  · intro values
    rw [Folded.eval, Folded.eval]
    rfl

theorem equivalence (hleft : Writable left) (hright : Writable right) (hne : left ≠ right) :
    Writable (.equivalence left right) := by
  obtain ⟨_, first, hfirst⟩ := hleft
  obtain ⟨_, second, hsecond⟩ := hright
  rcases ofList_pair hne with hsorted | hsorted
  · refine of_line (writes_pair .iff hfirst hsecond ?_ unmixed_equivalence.mp ?_) rfl
    · rw [typeset_equivalence, hsorted]
      rfl
    · exact fun values => by rw [Folded.eval]; rfl
  · refine of_line
      (writes_pair .iff hsecond hfirst ?_ (fun h => (unmixed_equivalence.mp h).symm) ?_) rfl
    · rw [typeset_equivalence, hsorted]
      rfl
    · exact fun values => by rw [Folded.eval, Bool.beq_comm]; rfl

theorem negation_equivalence (hleft : Writable left) (hright : Writable right)
    (hne : left ≠ right) : Writable (.negation (.equivalence left right)) := by
  obtain ⟨_, first, hfirst⟩ := hleft
  obtain ⟨_, second, hsecond⟩ := hright
  have hunmixed (h : (Folded.negation (.equivalence left right)).Unmixed) :
      (left.Unmixed ∧ left.FitsBeside .equivalence) ∧
        right.Unmixed ∧ right.FitsBeside .equivalence := by
    obtain ⟨⟨hfitsLeft, hfitsRight⟩, hinner⟩ := unmixed_negation.mp h
    obtain ⟨hleft, hright⟩ := unmixed_equivalence.mp hinner
    exact ⟨⟨hleft, hfitsLeft⟩, hright, hfitsRight⟩
  rcases ofList_pair hne with hsorted | hsorted
  · refine of_chain (writes_struck_pair .equivalence hfirst hsecond ?_ rfl hunmixed ?_) rfl
    · rw [operandText_of_standsAlone rfl, typeset_negation_equivalence, hsorted]
      rfl
    · exact fun values => by rw [Folded.eval, Folded.eval]; rfl
  · refine of_chain
      (writes_struck_pair .equivalence hsecond hfirst ?_ rfl (fun h => (hunmixed h).symm) ?_) rfl
    · rw [operandText_of_standsAlone rfl, typeset_negation_equivalence, hsorted]
      rfl
    · exact fun values => by rw [Folded.eval, Folded.eval, Bool.beq_comm]; rfl

/-- There is a line for the operands of a junction, in any order.  It is clear if they are unmixed,
and then has the value of the junction. -/
theorem exists_line {kind : Junction} {first : Folded} {rest : List Folded}
    (h : ∀ operand ∈ first :: rest, Writable operand) :
    ∃ line : Line, infixed (junctionSign kind) ((first :: rest).map operandText) =
        spell line.marks ∧
      ((∀ operand ∈ first :: rest, operand.Unmixed) → line.Clear) ∧
        (line.Clear → ∀ values, line.eval values = evalJunction values kind (first :: rest)) := by
  induction rest generalizing first with
  | nil =>
    obtain ⟨_, chain, hchain⟩ := h first (List.mem_singleton_self first)
    refine ⟨.last chain, ?_, fun hunmixed => ?_, fun hclear values => ?_⟩
    · rw [List.map_singleton, infixed_singleton]
      exact hchain.text
    · exact Line.clear_last.mpr (hchain.clear (hunmixed first (List.mem_singleton_self first)))
    · rw [Line.eval, hchain.value (Line.clear_last.mp hclear), evalJunction, evalJunction]
      cases kind <;> simp [Junction.apply, Junction.deciding]
  | cons second rest ih =>
    obtain ⟨_, chain, hchain⟩ := h first (List.mem_cons_self ..)
    obtain ⟨line, htext, hclear, hvalue⟩ := ih fun operand hmem => h operand (.tail _ hmem)
    refine ⟨.more chain kind.connective line, ?_, fun hunmixed => ?_, fun hclears values => ?_⟩
    · rw [List.map_cons] at htext
      rw [List.map_cons, List.map_cons, infixed_cons_cons, htext, hchain.text]
      cases kind <;> simp [Line.marks, Mark.text, Junction.connective, Connective.sign]
    · exact Line.clear_more.mpr ⟨hchain.clear (hunmixed first (List.mem_cons_self ..)),
        hclear fun operand hmem => hunmixed operand (.tail _ hmem)⟩
    · obtain ⟨hclearChain, hclearLine⟩ := Line.clear_more.mp hclears
      rw [Line.eval, hchain.value hclearChain, hvalue hclearLine, evalJunction]
      cases kind <;> rfl

theorem evalJunction_ofList (values : String → Bool) (kind : Junction) (operands : List Folded) :
    evalJunction values kind (Ascending.ofList compareShape operands) =
      evalJunction values kind operands := by
  have hdecided : evalJunction values kind (Ascending.ofList compareShape operands) = kind.deciding ↔
      evalJunction values kind operands = kind.deciding := by
    simp only [evalJunction_eq_deciding_iff, Ascending.mem_ofList]
  exact Junction.eq_of_deciding hdecided

/-- There is a line for a junction of at least two operands. -/
theorem exists_junction {kind : Junction} {operands : List Folded} (hlength : 2 ≤ operands.length)
    (h : ∀ operand ∈ operands, Writable operand) :
    ∃ line : Line, line.Writes (.junction kind operands) := by
  cases hsorted : Ascending.ofList compareShape operands with
  | nil =>
    obtain ⟨operand, hmem⟩ := List.exists_mem_of_length_pos (Nat.lt_of_succ_lt hlength)
    have hmem' : operand ∈ Ascending.ofList compareShape operands := Ascending.mem_ofList.mpr hmem
    rw [hsorted] at hmem'
    exact absurd hmem' List.not_mem_nil
  | cons first rest =>
    have hmem : ∀ operand, operand ∈ first :: rest ↔ operand ∈ operands := by
      intro operand
      rw [← hsorted]
      exact Ascending.mem_ofList
    obtain ⟨line, htext, hclear, hvalue⟩ :=
      exists_line fun operand hoperand => h operand ((hmem operand).mp hoperand)
    refine ⟨line, ?_, fun hunmixed => ?_, fun hclears values => ?_⟩
    · rw [typeset, typesetAll_eq, inShapeOrder_map, hsorted, htext]
    · exact hclear fun operand hoperand =>
        unmixed_junction.mp hunmixed operand ((hmem operand).mp hoperand)
    · rw [Folded.eval, ← evalJunction_ofList, hsorted, hvalue hclears]

end Writable

/-- There is a line for a reduced formula, and a chain for it as an operand. -/
theorem writable : ∀ {formula : Folded}, formula.Plain → Writable formula
  | .constant value, h => absurd rfl (h.reduced.ne_constant value)
  | .symbol name, h => by
    obtain ⟨letter, hletter⟩ := h.letters name (List.mem_singleton_self name)
    rw [hletter]
    exact .of_chain (writes_symbol letter) rfl
  | .junction kind operands, h => by
    obtain ⟨line, hline⟩ := Writable.exists_junction h.reduced.top.1 fun operand hmem =>
      writable (h.operand hmem)
    exact .of_line hline rfl
  | .implication left right, h => by
    obtain ⟨hleft, hright⟩ := h.pair rfl
    exact (writable hleft).implication (writable hright)
  | .equivalence left right, h => by
    obtain ⟨hleft, hright⟩ := h.pair rfl
    exact (writable hleft).equivalence (writable hright) h.reduced.top
  | .negation inner, h => by
    -- A negated implication or equivalence is not typeset as the negation of an operand, so the
    -- cases go one level deeper.
    have hinner : inner.Plain := h.operand (List.mem_singleton_self inner)
    match inner with
    | .constant value => exact absurd rfl (hinner.reduced.ne_constant value)
    | .negation operand => exact absurd rfl (h.reduced.top operand)
    | .symbol name =>
      obtain ⟨letter, hletter⟩ := hinner.letters name (List.mem_singleton_self name)
      rw [hletter]
      exact .of_chain (writes_negation_symbol letter) rfl
    | .junction kind operands =>
      obtain ⟨line, hline⟩ := Writable.exists_junction hinner.reduced.top.1 fun operand hmem =>
        writable (hinner.operand hmem)
      exact .of_chain (writes_negation_junction hline) rfl
    | .implication left right =>
      obtain ⟨hleft, hright⟩ := hinner.pair rfl
      exact (writable hleft).negation_implication (writable hright)
    | .equivalence left right =>
      obtain ⟨hleft, hright⟩ := hinner.pair rfl
      exact (writable hleft).negation_equivalence (writable hright) hinner.reduced.top

/-- What folding leaves of a formula over letters is typeset as a line. -/
theorem exists_writes {formula : Folded} (h : formula.Normal) (hletters : formula.OverLetters) :
    ∃ line : Line, line.Writes formula := by
  rcases h with ⟨value, heq⟩ | hreduced
  · rw [heq]
    exact ⟨_, writes_constant value⟩
  · exact (writable ⟨hreduced, hletters⟩).1

/-- Folded formulas with the same text have the same value if one of them is unmixed. -/
theorem eval_eq_of_typeset_eq {first second : Folded} (hfirst : first.Normal)
    (hfirstLetters : first.OverLetters) (hsecond : second.Normal)
    (hsecondLetters : second.OverLetters) (hunmixed : first.Unmixed)
    (h : first.typeset = second.typeset) (values : String → Bool) :
    first.eval values = second.eval values := by
  obtain ⟨line, hline⟩ := exists_writes hfirst hfirstLetters
  obtain ⟨other, hother⟩ := exists_writes hsecond hsecondLetters
  have hclear : line.Clear := hline.clear hunmixed
  obtain rfl : line = other := Line.eq_of_text (by rw [← hline.text, h, hother.text])
  rw [← hline.value hclear, hother.value hclear]

end Typeset

end Propositional
