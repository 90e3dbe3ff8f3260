import Mathlib.Data.List.Chain
import Mathlib.Data.List.Nodup
import Propositional.Karnaugh.Gray
import Propositional.Proofs.Bits

/-!
# The Gray sequence

Of each width, the Gray sequence lists every digit list (`mem_code`) and none twice (`code_nodup`),
so `rank` is the place at which a number's digits stand (`getElem?_rank`, `rank_eq`).  Digit lists
that follow each other in it differ at one place, and so do the last one and the first one
(`oneApart_of_next`).
-/

namespace Propositional.Gray

/-! ## What is in the sequence -/

theorem length_code (width : Nat) : (code width).length = 2 ^ width := by
  induction width with
  | zero => rfl
  | succ width ih => rw [length_code_succ, ih, Nat.pow_succ, Nat.mul_comm]

theorem mem_code {width : Nat} {digits : List Bool} :
    digits ∈ code width ↔ digits.length = width := by
  induction width generalizing digits with
  | zero => rw [code, List.mem_singleton, List.length_eq_zero_iff]
  | succ width ih =>
    simp only [code, List.mem_append, List.mem_map, List.mem_reverse, ih]
    constructor
    · intro h
      rcases h with ⟨rest, hrest, heq⟩ | ⟨rest, hrest, heq⟩
      · rw [← heq, List.length_cons, hrest]
      · rw [← heq, List.length_cons, hrest]
    · intro h
      cases digits with
      | nil => cases h
      | cons digit rest =>
        rw [List.length_cons, Nat.succ.injEq] at h
        cases digit with
        | false => exact .inl ⟨rest, h, rfl⟩
        | true => exact .inr ⟨rest, h, rfl⟩

theorem code_nodup (width : Nat) : (code width).Nodup := by
  induction width with
  | zero => exact List.nodup_singleton []
  | succ width ih =>
    refine List.nodup_append.mpr ⟨?_, ?_, ?_⟩
    · exact ih.map fun _ _ heq => (List.cons.inj heq).2
    · exact (List.nodup_reverse.mpr ih).map fun _ _ heq => (List.cons.inj heq).2
    · intro digits hdigits digits' hdigits' heq
      obtain ⟨rest, _, hrest⟩ := List.mem_map.mp hdigits
      obtain ⟨rest', _, hrest'⟩ := List.mem_map.mp hdigits'
      rw [← hrest, ← hrest', List.cons.injEq] at heq
      exact absurd heq.1 Bool.false_ne_true

/-! ## Ranks -/

theorem rank_lt (width number : Nat) : rank width number < 2 ^ width := by
  rw [← length_code]
  exact List.idxOf_lt_length_of_mem (mem_code.mpr (Bits.length_ofNat width number))

/-- The digits of a number stand at the number's rank. -/
theorem getElem?_rank (width number : Nat) :
    (code width)[rank width number]? = some (Bits.ofNat width number) := by
  have hlt : rank width number < (code width).length := by
    rw [length_code]
    exact rank_lt width number
  rw [List.getElem?_eq_getElem hlt]
  exact congrArg some (List.getElem_idxOf hlt)

/-- A number has the rank at which its digits stand. -/
theorem rank_eq {width number i : Nat}
    (h : (code width)[i]? = some (Bits.ofNat width number)) : rank width number = i := by
  obtain ⟨hlt, hdigits⟩ := List.getElem?_eq_some_iff.mp h
  rw [rank, ← hdigits]
  exact (code_nodup width).idxOf_getElem i hlt

/-- Numbers of one rank are equal. -/
theorem rank_injective {width number other : Nat} (hnumber : number < 2 ^ width)
    (hother : other < 2 ^ width) (h : rank width number = rank width other) : number = other := by
  have hdigits := getElem?_rank width number
  rw [h, getElem?_rank, Option.some.injEq] at hdigits
  exact Bits.ofNat_injective hnumber hother hdigits.symm

/-! ## Neighbours -/

/-- Two digit lists of one length differ at exactly one place. -/
inductive OneApart : List Bool → List Bool → Prop where
  | here {digit other : Bool} {digits : List Bool} (hne : digit ≠ other) :
      OneApart (digit :: digits) (other :: digits)
  | there {digit : Bool} {digits others : List Bool} (hrest : OneApart digits others) :
      OneApart (digit :: digits) (digit :: others)

namespace OneApart

theorem symm {digits others : List Bool} (h : OneApart digits others) : OneApart others digits := by
  induction h with
  | here hne => exact .here hne.symm
  | there _ ih => exact .there ih

theorem append_left (front : List Bool) {digits others : List Bool} (h : OneApart digits others) :
    OneApart (front ++ digits) (front ++ others) := by
  induction front with
  | nil => exact h
  | cons digit front ih => exact .there ih

theorem append_right (back : List Bool) {digits others : List Bool} (h : OneApart digits others) :
    OneApart (digits ++ back) (others ++ back) := by
  induction h with
  | here hne => exact .here hne
  | there _ ih => exact .there ih

end OneApart

theorem head?_code (width : Nat) : (code width).head? = some (List.replicate width false) := by
  induction width with
  | zero => rfl
  | succ width ih =>
    rw [code, List.head?_append, List.head?_map, ih]
    rfl

theorem getLast?_code_succ (width : Nat) :
    (code (width + 1)).getLast? = some (true :: List.replicate width false) := by
  rw [code, List.getLast?_append, List.getLast?_map, List.getLast?_reverse, head?_code]
  rfl

/-- Digit lists that follow each other differ at one place. -/
theorem code_isChain (width : Nat) : (code width).IsChain OneApart := by
  induction width with
  | zero => exact List.isChain_singleton []
  | succ width ih =>
    refine List.isChain_append.mpr ⟨?_, ?_, ?_⟩
    · exact (List.isChain_map _).mpr (ih.imp fun _ _ h => .there h)
    · rw [List.isChain_map, List.isChain_reverse]
      exact ih.imp fun _ _ h => .there h.symm
    · -- where the halves meet, both have the last digits of the smaller width
      intro digits hdigits others hothers
      rw [Option.mem_def, List.getLast?_map, Option.map_eq_some_iff] at hdigits
      rw [Option.mem_def, List.head?_map, List.head?_reverse, Option.map_eq_some_iff] at hothers
      obtain ⟨last, hlast, heq⟩ := hdigits
      obtain ⟨last', hlast', heq'⟩ := hothers
      rw [hlast, Option.some.injEq] at hlast'
      subst hlast' heq heq'
      exact .here Bool.false_ne_true

/-- Going round a sequence of more than one, each digit list differs from the next at one place. -/
theorem oneApart_of_next {width i : Nat} {digits others : List Bool} (hmany : 1 < 2 ^ width)
    (hdigits : (code width)[i]? = some digits)
    (hothers : (code width)[(i + 1) % 2 ^ width]? = some others) : OneApart digits others := by
  by_cases hlast : i + 1 < (code width).length
  · have hnext : (i + 1) % 2 ^ width = i + 1 := by
      rw [← length_code]
      exact Nat.mod_eq_of_lt hlast
    rw [hnext] at hothers
    obtain ⟨_, heq⟩ := List.getElem?_eq_some_iff.mp hdigits
    obtain ⟨_, heq'⟩ := List.getElem?_eq_some_iff.mp hothers
    rw [← heq, ← heq']
    exact List.isChain_iff_getElem.mp (code_isChain width) i hlast
  · -- the last one starts with one, the first one with zero, and all else is zero
    obtain ⟨hlt, _⟩ := List.getElem?_eq_some_iff.mp hdigits
    have hlength : i + 1 = (code width).length := by omega
    have hround : (i + 1) % 2 ^ width = 0 := by
      rw [hlength, length_code, Nat.mod_self]
    have hfirst := head?_code width
    rw [hround, ← List.head?_eq_getElem?, hfirst] at hothers
    cases width with
    | zero => exact absurd hmany (Nat.lt_irrefl 1)
    | succ width =>
      have hfinal := getLast?_code_succ width
      rw [List.getLast?_eq_getElem?, ← hlength, Nat.add_sub_cancel, hdigits] at hfinal
      cases hfinal
      cases hothers
      exact .here Bool.false_ne_true.symm

end Propositional.Gray
