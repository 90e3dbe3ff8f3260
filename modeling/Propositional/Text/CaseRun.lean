/-!
# Runs of case pairs

A case mapping that sends one character to one is a table of runs: evenly spaced code points that
all move by the same distance.
-/

namespace Propositional.Text

/-- The code points `first`, `first + step`, up to `last`; the first goes to `image` and the others
move with it. -/
structure CaseRun where
  first : Nat
  last : Nat
  step : Nat
  image : Nat

/-- Where the run sends a code point, if the code point is on it. -/
def CaseRun.image? (run : CaseRun) (code : Nat) : Option Nat :=
  if run.first ≤ code ∧ code ≤ run.last ∧ (code - run.first) % run.step = 0 then
    some (run.image + (code - run.first))
  else
    none

/-- A mapping of characters, given by its runs. -/
structure CaseMap where
  runs : List CaseRun

/-- The image of a character; one that is on no run stays as it is. -/
def CaseMap.apply (map : CaseMap) (char : Char) : Char :=
  match map.runs.findSome? (·.image? char.toNat) with
  | some code => Char.ofNat code
  | none => char

end Propositional.Text
