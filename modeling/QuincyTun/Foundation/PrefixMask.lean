import Mathlib.Data.List.Basic
import Mathlib.Tactic.Common

/-! Bit masks whose ones all come first.

A mask is read from its most significant bit. Such a mask is determined by the
number of its ones, and the test that counts ones in two ways accepts it exactly.
-/

set_option autoImplicit false

namespace QuincyTun.Foundation

variable {w : Nat}

def IsPrefixMask (mask : BitVec w) (len : Nat) : Prop :=
  len ≤ w ∧ ∀ i < w, mask.getMsbD i = decide (i < len)

/-- A shift by the width or more has no result. -/
def checkedShl (bits : BitVec w) (amount : Nat) : Option (BitVec w) :=
  if amount < w then some (bits <<< amount) else none

theorem IsPrefixMask.unique {mask : BitVec w} {a b : Nat} (first : IsPrefixMask mask a)
    (second : IsPrefixMask mask b) : a = b := by
  -- Where one length ends and the other does not, the bit would be both.
  by_contra differ
  have smaller : min a b < w := by
    have := first.1
    have := second.1
    omega
  have same := (first.2 _ smaller).symm.trans (second.2 _ smaller)
  rw [decide_eq_decide] at same
  omega

theorem isPrefixMask_shiftLeft {len : Nat} (fits : len ≤ w) :
    IsPrefixMask (BitVec.allOnes w <<< (w - len)) len := by
  refine ⟨fits, fun i bound => ?_⟩
  rw [BitVec.getMsbD_shiftLeft, BitVec.getMsbD_allOnes, decide_eq_decide]
  omega

theorem IsPrefixMask.eq_shiftLeft {mask : BitVec w} {len : Nat} (ones : IsPrefixMask mask len) :
    mask = BitVec.allOnes w <<< (w - len) := by
  apply BitVec.eq_of_getMsbD_eq
  intro i bound
  rw [ones.2 i bound, (isPrefixMask_shiftLeft ones.1).2 i bound]

theorem checkedShl_getD (bits : BitVec w) (amount : Nat) :
    (checkedShl bits amount).getD 0 = bits <<< amount := by
  unfold checkedShl
  split
  · rfl
  · case isFalse wide =>
    have out : bits <<< amount = 0 := BitVec.shiftLeft_eq_zero (by omega)
    exact out.symm

/-! ## Leading and counted ones -/

theorem takeWhile_eq_countP_iff {α : Type} (holds : α → Bool) (xs : List α) :
    (xs.takeWhile holds).length = xs.countP holds ↔ ∀ x ∈ xs.dropWhile holds, holds x = false := by
  have front : (xs.takeWhile holds).countP holds = (xs.takeWhile holds).length := by
    rw [List.countP_eq_length]
    exact List.all_eq_true.mp List.all_takeWhile
  have whole : xs.countP holds =
      (xs.takeWhile holds).length + (xs.dropWhile holds).countP holds := by
    rw [← front, ← List.countP_append, List.takeWhile_append_dropWhile]
  rw [whole, Nat.left_eq_add, List.countP_eq_zero]
  simp only [Bool.not_eq_true]

theorem leading_of_first {bit : Nat → Bool} {len : Nat} (fits : len ≤ w)
    (ones : ∀ i < w, bit i = decide (i < len)) : ((List.range w).takeWhile bit).length = len := by
  have split : List.range w = List.range len ++ (List.range (w - len)).map (len + ·) := by
    rw [← List.range_add, Nat.add_sub_cancel' fits]
  have front : ∀ i ∈ List.range len, bit i = true := by
    intro i member
    have bound := List.mem_range.mp member
    rw [ones i (by omega)]
    exact decide_eq_true bound
  have back : ((List.range (w - len)).map (len + ·)).takeWhile bit = [] := by
    cases size : w - len with
    | zero => rfl
    | succ rest =>
      have stops : ¬ bit (len + 0) = true := by
        rw [ones _ (by omega)]
        simp
      rw [List.range_succ_eq_map, List.map_cons, List.takeWhile_cons_of_neg stops]
  rw [split, List.takeWhile_append_of_pos front, back, List.append_nil, List.length_range]

/-- The two counts agree exactly on bits that are ones first and zeros after. -/
theorem leading_eq_count_iff (bit : Nat → Bool) :
    ((List.range w).takeWhile bit).length = (List.range w).countP bit ↔
      ∀ i < w, bit i = decide (i < ((List.range w).takeWhile bit).length) := by
  -- The counts agree when no bit behind the leading ones is set.
  rw [takeWhile_eq_countP_iff]
  have whole : (List.range w).takeWhile bit ++ (List.range w).dropWhile bit = List.range w :=
    List.takeWhile_append_dropWhile
  have at_ (i : Nat) (bound : i < w) :
      ((List.range w).takeWhile bit ++ (List.range w).dropWhile bit)[i]? = some i := by
    rw [whole, List.getElem?_range bound]
  constructor
  · intro zeros i bound
    by_cases early : i < ((List.range w).takeWhile bit).length
    · have found := at_ i bound
      rw [List.getElem?_append_left early] at found
      have one := List.all_eq_true.mp List.all_takeWhile i (List.mem_of_getElem? found)
      rw [one, decide_eq_true early]
    · have found := at_ i bound
      rw [List.getElem?_append_right (by omega)] at found
      rw [zeros i (List.mem_of_getElem? found), decide_eq_false early]
  · intro ones i member
    obtain ⟨k, found⟩ := List.getElem?_of_mem member
    have place : (List.range w)[((List.range w).takeWhile bit).length + k]? = some i := by
      rw [← whole, List.getElem?_append_right (by simp)]
      simpa using found
    obtain ⟨bound, same⟩ := List.getElem?_eq_some_iff.mp place
    rw [List.getElem_range] at same
    rw [List.length_range] at bound
    rw [← same, ones _ bound]
    exact decide_eq_false (by omega)

end QuincyTun.Foundation
