import Mathlib
import Propositional.Proofs.Text.LowerRuns

/-!
# ASCII characters in lower case

An ASCII character in a lower-case text was there before, or its capital was, wherever it stands
(`ascii_mem_lowerBetween`).  There are two exceptions: the Kelvin sign becomes a `k`, and the dotted
capital I becomes an `i` and a combining dot.
-/

namespace Propositional.Text

/-- One run has the ASCII capitals, one more has an image in ASCII, and the images of the others lie
beyond it. -/
private theorem lowerRuns_cases :
    ∀ run ∈ lowerRuns.runs,
      run.first = 'A'.toNat ∧ run.last = 'Z'.toNat ∧ run.image = 'a'.toNat ∨
        run.first = run.last ∧ run.image = 'k'.toNat ∨
        0x80 ≤ run.image := by
  decide +kernel

/-- What is ASCII in lower case was the same character or its capital, or is a `k`. -/
theorem lowerRuns_apply_ascii {char : Char} (h : (lowerRuns.apply char).toNat < 0x80) :
    char = lowerRuns.apply char ∨ char = (lowerRuns.apply char).toUpper ∨
      lowerRuns.apply char = 'k' := by
  rcases lowerRuns_apply_cases char with heq | ⟨run, hrun, himage⟩
  · exact .inl heq.symm
  · obtain ⟨hfirst, hlast, _, hcode⟩ := CaseRun.image?_eq_some_iff.mp himage
    rcases lowerRuns_cases run hrun with ⟨hA, hZ, ha⟩ | ⟨hsingle, hk⟩ | hbeyond
    · rw [hA] at hfirst
      rw [hZ] at hlast
      have hupper : char.isUpper = true := decide_eq_true ⟨hfirst, hlast⟩
      have hplace : 'a'.toNat + (char.toNat - 'A'.toNat) = char.toNat + 32 := by
        change 0x41 ≤ char.toNat at hfirst
        show 0x61 + (char.toNat - 0x41) = char.toNat + 32
        omega
      have hlower : lowerRuns.apply char = char.toLower := by
        rw [← Char.ofNat_toNat (lowerRuns.apply char), hcode, Char.toLower_eq_of_isUpper hupper,
          hA, ha, hplace]
      rw [hlower, Char.toUpper_toLower_eq_toUpper,
        Char.toUpper_eq_of_not_isLower (Char.not_isLower_of_isUpper hupper)]
      exact .inr (.inl rfl)
    · have hzero : char.toNat - run.first = 0 := by omega
      rw [hk, hzero] at hcode
      exact .inr (.inr (Char.toNat_inj.mp hcode))
    · omega

theorem ascii_mem_lowerChar {char out : Char} (h : out ∈ lowerChar char)
    (hascii : out.toNat < 0x80) :
    char = out ∨ char = out.toUpper ∨ out = 'k' ∨ out = 'i' := by
  unfold lowerChar at h
  split at h
  · rw [List.mem_cons, List.mem_singleton] at h
    rcases h with heq | heq
    · exact .inr (.inr (.inr heq))
    · subst heq
      exact absurd hascii (by decide)
  · rw [List.mem_singleton] at h
    subst h
    rcases lowerRuns_apply_ascii hascii with hsame | hcapital | hkelvin
    · exact .inl hsame
    · exact .inr (.inl hcapital)
    · exact .inr (.inr (.inl hkelvin))

/-- Wherever a character stands, what is ASCII of its lower-case form is itself or has it as the
capital, or is one of two letters. -/
theorem ascii_mem_lowerBetween {before after : List Char} {char out : Char}
    (h : out ∈ lowerBetween before char after) (hascii : out.toNat < 0x80) :
    char = out ∨ char = out.toUpper ∨ out = 'k' ∨ out = 'i' := by
  unfold lowerBetween at h
  split at h
  · rw [List.mem_singleton] at h
    subst h
    have hsigma : ∀ final : Bool, ¬ (if final then '\u03c2' else '\u03c3').toNat < 0x80 := by
      decide
    exact absurd hascii (hsigma _)
  · exact ascii_mem_lowerChar h hascii

end Propositional.Text
