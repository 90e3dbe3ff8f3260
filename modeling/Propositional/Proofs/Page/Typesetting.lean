import Propositional.Proofs.Formula.Context
import Propositional.Proofs.Page.Run
import Propositional.Proofs.Typeset.Writing

/-!
# What the typeset formula on the page tells

The page typesets the folded form of the formula that is read from a text.  If no struck-out
implication has another struck-out arrow beside it, the typeset formula tells the value of the
formula (`typeset_determines_value`), although not the formula.

Otherwise it does not (`struck_arrows_clash`): a negated implication or equivalence has no
parentheses around it, so it is left open which of the arrows is the outermost one.
-/

namespace Propositional

/-! ## Symbols of letters -/

theorem Letter.symbol_injective : Function.Injective Letter.symbol := by
  intro letter other h
  revert h
  cases letter <;> cases other <;> decide +kernel

/-- The symbols of letters can be given any values. -/
theorem exists_values (valuation : Valuation)
    (h : ∀ letter : Letter, (valuation letter.name).isSome) :
    ∃ values : String → Bool, ∀ letter : Letter,
      valuation letter.name = upperDictionary.valuation values letter.name := by
  refine ⟨Function.extend Letter.symbol (fun letter => (valuation letter.name).get (h letter))
    fun _ => false, fun letter => ?_⟩
  show _ = some (Function.extend Letter.symbol _ _ letter.symbol)
  rw [Letter.symbol_injective.extend_apply, Option.some_get]

namespace Folded.Renders

variable {formula : Formula} {folded : Folded}

/-- The symbols of a formula over letters are those of letters. -/
theorem overLetters (h : folded.Renders formula upperDictionary) (hletters : formula.OverLetters) :
    folded.OverLetters := by
  intro name hname
  obtain ⟨leaf, hleaf, hsymbol⟩ := h.occurring name hname
  obtain ⟨letter, hletter⟩ := hletters leaf hleaf
  rw [hletter] at hsymbol
  exact ⟨letter, (Option.some.inj hsymbol).symm⟩

/-- Where the letters have the values of their symbols, the formula has the value of its folded
form. -/
theorem eval_eq (h : folded.Renders formula upperDictionary) (hletters : formula.OverLetters)
    {valuation : Valuation} {values : String → Bool}
    (hvalues : ∀ letter : Letter,
      valuation letter.name = upperDictionary.valuation values letter.name) :
    formula.eval valuation = .ok (folded.eval values) := by
  rw [← h.value values]
  refine Formula.eval_congr fun leaf hleaf => ?_
  obtain ⟨letter, hletter⟩ := hletters leaf hleaf
  rw [hletter]
  exact hvalues letter

end Folded.Renders

/-! ## On the page -/

/-- A text is read alike with and without the white space at its ends. -/
theorem Formula.ofTyped_stripString (text : String) :
    Formula.ofTyped (Page.stripString text) = Formula.ofTyped text := by
  rw [Formula.ofTyped, Formula.ofTyped, Page.stripString, String.toList_ofList,
    Spelling.canonical_of_respaced (Text.respaced_iff.mpr (Text.withoutBlanks_strip text.toList))]

namespace Page

/-- The page has a table for its text, which is read as the formula, and the formula is typeset as
the text in LaTeX. -/
structure Typesets (input : Input) (formula : Formula) (latex : String) : Prop where
  accepted : ∃ table, (Build.ofText (some input.text)).outcome = .ok table
  read : Formula.ofTyped input.text = .ok formula
  typeset : ∃ events, run input = .ok events ∧ .typeset latex ∈ events

theorem typeset_mem_shownEvents_iff {formula : Formula} {folded : Folded} {text latex : String}
    {mode : DisplayMode} :
    .typeset latex ∈ head ++ shownEvents formula folded text mode ↔
      latex = String.ofList folded.typeset := by
  simp only [head, shownEvents, mapBlock]
  split <;> simp

/-- What is typeset on the page is the folded form of the formula. -/
theorem Typesets.eq_typeset {input : Input} {formula : Formula} {folded : Folded} {latex : String}
    (h : Typesets input formula latex) (hfold : formula.foldUpper = .ok folded) :
    latex = String.ofList folded.typeset := by
  obtain ⟨events, hrun, hmem⟩ := h.typeset
  obtain ⟨below, hbelow, hcases⟩ := exists_below input
  cases hrun.symm.trans hbelow
  cases hcases with
  | nothing _ => exact absurd hmem (by simp [head])
  | rejected _ _ => exact absurd hmem (by simp [head, rejectionEvents])
  | shown _ _ read fold =>
    rw [Formula.ofTyped_stripString, h.read] at read
    cases read
    cases hfold.symm.trans fold
    exact typeset_mem_shownEvents_iff.mp hmem

/-- The folded form of whatever formula is read is typeset on the page. -/
theorem typesets_of_fold {input : Input} {formula : Formula} {folded : Folded} {latex : String}
    (hread : Formula.ofTyped input.text = .ok formula) (hfold : formula.foldUpper = .ok folded)
    (hlatex : latex = String.ofList folded.typeset) : Typesets input formula latex := by
  have htable := Build.outcome_of_ofTyped hread
  obtain ⟨below, hrun, hbelow⟩ := exists_below input
  refine ⟨⟨_, htable⟩, hread, head ++ below, hrun, ?_⟩
  cases hbelow with
  | nothing idle =>
    have htext : input.text = "" := by
      by_contra hne
      exact idle (.inl hne)
    rw [htext] at hread
    cases hread
  | rejected _ outcome =>
    have hstripped : input.build.outcome = .ok (formula.table (stripString input.text)) :=
      Build.outcome_of_ofTyped (by rw [Formula.ofTyped_stripString, hread])
    cases outcome.symm.trans hstripped
  | shown _ _ read fold =>
    rw [Formula.ofTyped_stripString, hread] at read
    cases read
    cases hfold.symm.trans fold
    exact typeset_mem_shownEvents_iff.mpr hlatex

/-- Two formulas that are typeset alike have the same value wherever the letters have values, if in
the folded form of one of them no struck-out implication has a struck-out arrow beside it. -/
theorem typeset_determines_value {input input' : Input} {formula formula' : Formula}
    {folded : Folded} {latex : String} (h : Typesets input formula latex)
    (h' : Typesets input' formula' latex) (hfold : formula.foldUpper = .ok folded)
    (hunmixed : folded.Unmixed) {α : Type} (truth : α → Bool) (context : String → Option α)
    (hcontext : ∀ letter : Letter, (context letter.name).isSome) :
    ∃ value, formula.eval (.ofContext truth context) = .ok value ∧
      formula'.eval (.ofContext truth context) = .ok value := by
  obtain ⟨_, hfoldRenders, hrenders⟩ := formula.exists_foldUpper_renders
  cases hfold.symm.trans hfoldRenders
  obtain ⟨folded', hfold', hrenders'⟩ := formula'.exists_foldUpper_renders
  have hletters := overLetters_of_ofTyped h.read
  have hletters' := overLetters_of_ofTyped h'.read
  obtain ⟨values, hvalues⟩ := exists_values (.ofContext truth context) fun letter => by
    rw [Valuation.isSome_ofContext]
    exact hcontext letter
  have htypeset : folded.typeset = folded'.typeset :=
    String.ofList_injective ((h.eq_typeset hfold).symm.trans (h'.eq_typeset hfold'))
  refine ⟨folded.eval values, hrenders.eval_eq hletters hvalues, ?_⟩
  rw [Typeset.eval_eq_of_typeset_eq (Formula.normal_of_fold hfold) (hrenders.overLetters hletters)
    (Formula.normal_of_fold hfold') (hrenders'.overLetters hletters') hunmixed htypeset values]
  exact hrenders'.eval_eq hletters' hvalues

/-- Both groupings of two struck-out equivalences are typeset alike, and have the same value. -/
theorem typeset_determines_value_of_equivalences :
    Typesets ⟨"!(a <-> !(b <-> (c | d)))", .letters, false⟩
      (.neg (.bin .iff (.var "a") (.neg (.bin .iff (.var "b") (.bin .or (.var "c") (.var "d"))))))
      "A \\not\\Leftrightarrow B \\not\\Leftrightarrow \\left(C \\vee D\\right)" ∧
    Typesets ⟨"!(!(a <-> b) <-> (c | d))", .digits, true⟩
      (.neg (.bin .iff (.neg (.bin .iff (.var "a") (.var "b"))) (.bin .or (.var "c") (.var "d"))))
      "A \\not\\Leftrightarrow B \\not\\Leftrightarrow \\left(C \\vee D\\right)" ∧
    ∃ value,
      Formula.eval (.ofContext Datum.truth fun name => some (.text name))
        (.neg (.bin .iff (.var "a")
          (.neg (.bin .iff (.var "b") (.bin .or (.var "c") (.var "d")))))) = .ok value ∧
      Formula.eval (.ofContext Datum.truth fun name => some (.text name))
        (.neg (.bin .iff (.neg (.bin .iff (.var "a") (.var "b")))
          (.bin .or (.var "c") (.var "d")))) = .ok value := by
  have hfold : Formula.foldUpper
      (.neg (.bin .iff (.var "a") (.neg (.bin .iff (.var "b") (.bin .or (.var "c") (.var "d")))))) =
      .ok (.negation (.equivalence (.symbol "A") (.negation (.equivalence (.symbol "B")
        (.junction .any [.symbol "C", .symbol "D"]))))) := by
    with_unfolding_all rfl
  have hfold' : Formula.foldUpper
      (.neg (.bin .iff (.neg (.bin .iff (.var "a") (.var "b"))) (.bin .or (.var "c") (.var "d")))) =
      .ok (.negation (.equivalence (.junction .any [.symbol "C", .symbol "D"])
        (.negation (.equivalence (.symbol "A") (.symbol "B"))))) := by
    with_unfolding_all rfl
  have h : Typesets ⟨"!(a <-> !(b <-> (c | d)))", .letters, false⟩ _
      "A \\not\\Leftrightarrow B \\not\\Leftrightarrow \\left(C \\vee D\\right)" :=
    typesets_of_fold rfl hfold (by decide +kernel)
  have h' : Typesets ⟨"!(!(a <-> b) <-> (c | d))", .digits, true⟩ _
      "A \\not\\Leftrightarrow B \\not\\Leftrightarrow \\left(C \\vee D\\right)" :=
    typesets_of_fold rfl hfold' (by decide +kernel)
  refine ⟨h, h', typeset_determines_value h h' hfold ?_ Datum.truth _ fun _ => rfl⟩
  simp [Folded.UnmixedAt, Folded.FitsBeside, Folded.struckArrow?]

/-! ## Clashes -/

/-- Two struck-out arrows in a row, of which the second one is the outermost. -/
def groupedLeft (first second : Connective) : Formula :=
  .neg (.bin second (.neg (.bin first (.var "a") (.var "b"))) (.var "c"))

/-- Two struck-out arrows in a row, of which the first one is the outermost. -/
def groupedRight (first second : Connective) : Formula :=
  .neg (.bin first (.var "a") (.neg (.bin second (.var "b") (.var "c"))))

/-- Both groupings of two struck-out implications are typeset alike, and so are both groupings of a
struck-out equivalence and a struck-out implication, but their values differ. -/
theorem struck_arrows_clash :
    (Typesets ⟨"!(!(a -> b) -> c)", .letters, false⟩ (groupedLeft .implies .implies)
        "A \\not\\Rightarrow B \\not\\Rightarrow C" ∧
      Typesets ⟨"!(a -> !(b -> c))", .letters, false⟩ (groupedRight .implies .implies)
        "A \\not\\Rightarrow B \\not\\Rightarrow C" ∧
      (groupedLeft .implies .implies).eval (.ofContext id fun name => some (name != "b")) =
        .ok false ∧
      (groupedRight .implies .implies).eval (.ofContext id fun name => some (name != "b")) =
        .ok true) ∧
    Typesets ⟨"!(!(a <-> b) -> c)", .letters, false⟩ (groupedLeft .iff .implies)
        "A \\not\\Leftrightarrow B \\not\\Rightarrow C" ∧
      Typesets ⟨"!(a <-> !(b -> c))", .letters, false⟩ (groupedRight .iff .implies)
        "A \\not\\Leftrightarrow B \\not\\Rightarrow C" ∧
      (groupedLeft .iff .implies).eval (.ofContext id fun _ => some true) = .ok false ∧
      (groupedRight .iff .implies).eval (.ofContext id fun _ => some true) = .ok true := by
  have hleft : (groupedLeft .implies .implies).foldUpper =
      .ok (.negation (.implication (.negation (.implication (.symbol "A") (.symbol "B")))
        (.symbol "C"))) := by
    with_unfolding_all rfl
  have hright : (groupedRight .implies .implies).foldUpper =
      .ok (.negation (.implication (.symbol "A")
        (.negation (.implication (.symbol "B") (.symbol "C"))))) := by
    with_unfolding_all rfl
  have hleft' : (groupedLeft .iff .implies).foldUpper =
      .ok (.negation (.implication (.negation (.equivalence (.symbol "A") (.symbol "B")))
        (.symbol "C"))) := by
    with_unfolding_all rfl
  have hright' : (groupedRight .iff .implies).foldUpper =
      .ok (.negation (.equivalence (.symbol "A")
        (.negation (.implication (.symbol "B") (.symbol "C"))))) := by
    with_unfolding_all rfl
  refine ⟨⟨?_, ?_, rfl, rfl⟩, ?_, ?_, rfl, rfl⟩
  · exact typesets_of_fold rfl hleft (by decide +kernel)
  · exact typesets_of_fold rfl hright (by decide +kernel)
  · exact typesets_of_fold rfl hleft' (by decide +kernel)
  · exact typesets_of_fold rfl hright' (by decide +kernel)

end Page

end Propositional
