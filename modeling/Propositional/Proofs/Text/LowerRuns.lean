import Mathlib
import Propositional.Proofs.Text.Lowercase
import Propositional.Text.Blank

/-!
# The images of lower case

The runs of `lowerRuns` are a table, so what holds of their images is decided on the table, run by
run, and then said of characters.  A character that lower case changes is on a run, and its
lower-case form has the image for its code point (`lowerRuns_apply_cases`).  No image is on a run
(`lowerRuns_misses`).  So what is in lower case stays as it is when it is put into lower case again,
wherever it stands (`lowered_of_mem_lowerBetween`).
-/

namespace Propositional.Text

/-! ## Runs -/

theorem CaseRun.image?_eq_some_iff {run : CaseRun} {code image : Nat} :
    run.image? code = some image ↔
      run.first ≤ code ∧ code ≤ run.last ∧ (code - run.first) % run.step = 0 ∧
        image = run.image + (code - run.first) := by
  unfold image?
  split
  · rename_i hon
    simp [hon, eq_comm]
  · rename_i hoff
    simp only [reduceCtorEq, false_iff]
    exact fun h => hoff ⟨h.1, h.2.1, h.2.2.1⟩

/-- A character that a case mapping changes is on one of its runs. -/
theorem CaseMap.apply_cases (map : CaseMap) (char : Char) :
    map.apply char = char ∨
      ∃ run ∈ map.runs, ∃ image, run.image? char.toNat = some image ∧
        map.apply char = Char.ofNat image := by
  unfold CaseMap.apply
  cases hfound : map.runs.findSome? (·.image? char.toNat) with
  | none => exact .inl rfl
  | some image =>
    obtain ⟨run, hrun, himage⟩ := List.exists_of_findSome?_eq_some hfound
    exact .inr ⟨run, hrun, image, himage, rfl⟩

/-- A character that is on no run stays as it is. -/
theorem CaseMap.apply_eq_self {map : CaseMap} {char : Char}
    (h : ∀ run ∈ map.runs, run.image? char.toNat = none) : map.apply char = char := by
  rw [apply, List.findSome?_eq_none_iff.mpr h]

/-- The images of the run lie outside the range. -/
def CaseRun.avoids (run : CaseRun) (range : CodeRange) : Bool :=
  (run.image + (run.last - run.first)).blt range.first || range.last.blt run.image

/-- No image of the run is on the other one: the two lie apart, or the images are every second code
point and the other run is made of those between. -/
def CaseRun.misses (run other : CaseRun) : Bool :=
  run.avoids ⟨other.first, other.last⟩ ||
    other.step == 2 && (run.first == run.last || run.step == 2) &&
      (run.image + other.first) % 2 == 1

theorem CodeRange.contains_eq_false_iff {range : CodeRange} {code : Nat} :
    range.contains code = false ↔ code < range.first ∨ range.last < code := by
  rw [contains, Bool.and_eq_false_iff, decide_eq_false_iff_not, decide_eq_false_iff_not, Nat.not_le,
    Nat.not_le]

theorem CaseRun.contains_eq_false {run : CaseRun} {range : CodeRange} {code image : Nat}
    (h : run.avoids range = true) (himage : run.image? code = some image) :
    range.contains image = false := by
  obtain ⟨_, _, _, heq⟩ := image?_eq_some_iff.mp himage
  simp only [avoids, Bool.or_eq_true, Nat.blt_eq] at h
  rw [CodeRange.contains_eq_false_iff]
  omega

theorem CaseRun.image?_eq_none {run other : CaseRun} {code image : Nat}
    (h : run.misses other = true) (himage : run.image? code = some image) :
    other.image? image = none := by
  obtain ⟨_, _, hstep, heq⟩ := image?_eq_some_iff.mp himage
  refine Option.eq_none_iff_forall_ne_some.mpr fun image' himage' => ?_
  obtain ⟨hfirst, hlast, hstep', _⟩ := image?_eq_some_iff.mp himage'
  rw [misses, Bool.or_eq_true] at h
  rcases h with hapart | halternate
  · have hoff := CodeRange.contains_eq_false_iff.mp (contains_eq_false hapart himage)
    dsimp only at hoff
    omega
  · simp only [Bool.and_eq_true, Bool.or_eq_true, beq_iff_eq] at halternate
    obtain ⟨⟨htwo, hsingle | htwo'⟩, hodd⟩ := halternate
    · rw [htwo] at hstep'
      omega
    · rw [htwo] at hstep'
      rw [htwo'] at hstep
      omega

/-! ## The table -/

/-- The images are code points of characters. -/
private theorem lowerRuns_valid :
    (lowerRuns.runs.all fun run =>
      run.avoids ⟨0xD800, 0xDFFF⟩ && (run.image + (run.last - run.first)).blt 0x110000) = true := by
  decide +kernel

private theorem lowerRuns_misses :
    (lowerRuns.runs.all fun run => lowerRuns.runs.all run.misses) = true := by
  decide +kernel

/-- A character that lower case changes is on a run, which leads to its lower-case form. -/
theorem lowerRuns_apply_cases (char : Char) :
    lowerRuns.apply char = char ∨
      ∃ run ∈ lowerRuns.runs, run.image? char.toNat = some (lowerRuns.apply char).toNat := by
  rcases lowerRuns.apply_cases char with heq | ⟨run, hrun, image, himage, heq⟩
  · exact .inl heq
  · have hvalid := List.all_eq_true.mp lowerRuns_valid run hrun
    simp only [Bool.and_eq_true, Nat.blt_eq] at hvalid
    have hoff := CodeRange.contains_eq_false_iff.mp (CaseRun.contains_eq_false hvalid.1 himage)
    dsimp only at hoff
    obtain ⟨_, _, _, hplace⟩ := CaseRun.image?_eq_some_iff.mp himage
    have hchar : image.isValidChar := by
      unfold Nat.isValidChar
      omega
    rw [heq, Char.toNat_ofNat, if_pos hchar]
    exact .inr ⟨run, hrun, himage⟩

/-- Lower case does not lead into a range that all runs avoid. -/
theorem lowerRuns_apply_avoids {range : CodeRange} {char : Char}
    (h : (lowerRuns.runs.all (·.avoids range)) = true) (hchar : range.contains char.toNat = false) :
    range.contains (lowerRuns.apply char).toNat = false := by
  rcases lowerRuns_apply_cases char with heq | ⟨run, hrun, himage⟩
  · rw [heq, hchar]
  · exact CaseRun.contains_eq_false (List.all_eq_true.mp h run hrun) himage

/-- Lower case changes no character twice. -/
theorem lowerRuns_apply_apply (char : Char) :
    lowerRuns.apply (lowerRuns.apply char) = lowerRuns.apply char := by
  rcases lowerRuns_apply_cases char with heq | ⟨run, hrun, himage⟩
  · rw [heq, heq]
  · refine CaseMap.apply_eq_self fun other hother => ?_
    have hmisses := List.all_eq_true.mp (List.all_eq_true.mp lowerRuns_misses run hrun) other hother
    exact CaseRun.image?_eq_none hmisses himage

/-! ## What is in lower case -/

/-- Lower case leaves the character as it is, wherever it stands. -/
def Lowered (char : Char) : Prop :=
  ∀ before after : List Char, lowerBetween before char after = [char]

/-- The characters with a lower-case form of their own have four characters in it. -/
theorem lowerBetween_cases {before after : List Char} {char out : Char}
    (h : out ∈ lowerBetween before char after) :
    out ∈ ['\u03c2', '\u03c3', 'i', '\u0307'] ∨
      char ≠ '\u0130' ∧ out = lowerRuns.apply char := by
  unfold lowerBetween at h
  split at h
  · rw [List.mem_singleton] at h
    subst h
    cases endsWord before after <;> simp
  · unfold lowerChar at h
    split at h
    · simp only [List.mem_cons, List.not_mem_nil, or_false] at h
      rcases h with heq | heq <;> simp [heq]
    · rename_i hdotted
      exact .inr ⟨hdotted, List.mem_singleton.mp h⟩

/-- The capital sigma is on a run, so a character that the runs leave as it is may only be the other
one that they do not cover. -/
theorem lowered_of_apply_eq {char : Char} (h : lowerRuns.apply char = char)
    (hdotted : char ≠ '\u0130') : Lowered char := by
  have hsigma : char ≠ '\u03a3' := by
    intro heq
    rw [heq] at h
    revert h
    decide +kernel
  intro before after
  rw [lowerBetween, if_neg hsigma, lowerChar, if_neg hdotted, h]

private theorem apply_special :
    (['\u03c2', '\u03c3', 'i', '\u0307'].all fun char =>
      lowerRuns.apply char == char && char != '\u0130') = true := by
  decide +kernel

private theorem lowerRuns_avoids_dotted :
    (lowerRuns.runs.all (·.avoids ⟨0x0130, 0x0130⟩)) = true := by
  decide +kernel

/-- A lower-case text has no character that would be changed again. -/
theorem lowered_of_mem_lowerBetween {before after : List Char} {char out : Char}
    (h : out ∈ lowerBetween before char after) : Lowered out := by
  rcases lowerBetween_cases h with hspecial | ⟨hdotted, heq⟩
  · have hout := List.all_eq_true.mp apply_special out hspecial
    simp only [Bool.and_eq_true, beq_iff_eq, bne_iff_ne] at hout
    exact lowered_of_apply_eq hout.1 hout.2
  · refine lowered_of_apply_eq ?_ fun hout => ?_
    · rw [heq, lowerRuns_apply_apply]
    · have hchar : (⟨0x0130, 0x0130⟩ : CodeRange).contains char.toNat = false := by
        rw [CodeRange.contains_eq_false_iff]
        have hne : char.toNat ≠ 0x0130 := fun heq => hdotted (Char.toNat_inj.mp heq)
        dsimp only
        omega
      have hoff := lowerRuns_apply_avoids lowerRuns_avoids_dotted hchar
      rw [← heq, hout] at hoff
      revert hoff
      decide

end Propositional.Text
