import Mathlib.Data.List.Basic
import Mathlib.Algebra.Order.Group.Nat
import Mathlib.Tactic.Ring

/-! Lists cut into segments of one size, with at most one shorter tail.

A list of segments carries no boundaries once it is joined. `Segmented` is the
condition under which the boundaries are recovered from the size alone.
-/

set_option autoImplicit false

namespace QuincyTun.Foundation

variable {α : Type}

/-- All segments have `size` elements, except a last one that is shorter but not empty. -/
def Segmented (size : Nat) : List (List α) → Prop
  | [] => False
  | [last] => 0 < last.length ∧ last.length ≤ size
  | segment :: next :: rest => segment.length = size ∧ Segmented size (next :: rest)

theorem Segmented.ne_nil {size : Nat} {segments : List (List α)}
    (cut : Segmented size segments) : segments ≠ [] := by
  rintro rfl
  exact cut

theorem Segmented.size_pos {size : Nat} {segments : List (List α)}
    (cut : Segmented size segments) : 0 < size := by
  fun_induction Segmented size segments with
  | case1 => exact cut.elim
  | case2 last => omega
  | case3 segment next rest ih => exact ih cut.2

theorem Segmented.length_flatten {size : Nat} {segments : List (List α)}
    (cut : Segmented size segments) :
    (segments.length - 1) * size < segments.flatten.length ∧
      segments.flatten.length ≤ segments.length * size := by
  fun_induction Segmented size segments with
  | case1 => exact cut.elim
  | case2 last =>
    simp only [List.length_singleton, List.flatten_singleton]
    omega
  | case3 segment next rest ih =>
    obtain ⟨lower, upper⟩ := ih cut.2
    have full := cut.1
    simp only [List.length_cons, Nat.add_sub_cancel, List.flatten_cons, List.length_append]
      at lower upper ⊢
    constructor
    · calc (rest.length + 1) * size = size + rest.length * size := by ring
        _ < segment.length + (next.length + rest.flatten.length) := by omega
    · calc segment.length + (next.length + rest.flatten.length)
          ≤ size + (rest.length + 1) * size := by omega
        _ = (rest.length + 1 + 1) * size := by ring

theorem Segmented.getElem {size : Nat} {segments : List (List α)} (cut : Segmented size segments)
    (i : Nat) (bound : i < segments.length) :
    segments[i] = (segments.flatten.drop (i * size)).take size := by
  fun_induction Segmented size segments generalizing i with
  | case1 => exact cut.elim
  | case2 last =>
    have first : i = 0 := by simpa using bound
    subst first
    simp [List.take_of_length_le cut.2]
  | case3 segment next rest ih =>
    cases i with
    | zero =>
      simp [cut.1]
    | succ i =>
      have shift : (i + 1) * size = segment.length + i * size := by rw [cut.1]; ring
      rw [List.getElem_cons_succ, ih cut.2 i (by simpa using bound), shift,
        List.flatten_cons (l := segment), ← List.drop_drop, List.drop_left]

theorem Segmented.length_getElem {size : Nat} {segments : List (List α)}
    (cut : Segmented size segments) (i : Nat) (bound : i + 1 < segments.length) :
    segments[i].length = size := by
  have long := cut.length_flatten.1
  have product : (i + 1) * size ≤ (segments.length - 1) * size :=
    Nat.mul_le_mul_right size (by omega)
  rw [Nat.succ_mul] at product
  rw [cut.getElem i (by omega), List.length_take, List.length_drop]
  omega

theorem Segmented.concat {size : Nat} {segments : List (List α)} {last : List α}
    (cut : Segmented size segments) (full : segments.flatten.length % size = 0)
    (nonempty : 0 < last.length) (small : last.length ≤ size) :
    Segmented size (segments ++ [last]) := by
  fun_induction Segmented size segments with
  | case1 => exact cut.elim
  | case2 only =>
    have whole : only.length = size := by
      by_contra short
      have less : only.length < size := by omega
      simp only [List.flatten_singleton, Nat.mod_eq_of_lt less] at full
      omega
    exact ⟨whole, nonempty, small⟩
  | case3 segment next rest ih =>
    refine ⟨cut.1, ih cut.2 ?_⟩
    have split : (segment :: next :: rest).flatten.length =
        size + (next :: rest).flatten.length := by
      rw [List.flatten_cons, List.length_append, cut.1]
    rw [split, Nat.add_mod_left] at full
    exact full

theorem Segmented.cons {size : Nat} {segments : List (List α)} {first : List α}
    (cut : Segmented size segments) (whole : first.length = size) :
    Segmented size (first :: segments) := by
  cases segments with
  | nil => exact cut.elim
  | cons next rest => exact ⟨whole, cut⟩

/-- Cutting at the multiples of a size loses nothing. -/
theorem flatMap_cut (xs : List α) (size n : Nat) (enough : xs.length ≤ n * size) :
    ((List.range n).flatMap fun i => (xs.drop (i * size)).take size) = xs := by
  have front : ∀ m, ((List.range m).flatMap fun i => (xs.drop (i * size)).take size) =
      xs.take (m * size) := by
    intro m
    induction m with
    | zero => simp
    | succ m ih =>
      rw [List.range_succ, List.flatMap_append, ih, Nat.succ_mul, List.take_add]
      simp
  rw [front, List.take_of_length_le enough]

theorem Segmented.singleton_mono {size larger : Nat} {only : List α}
    (cut : Segmented size [only]) (grow : size ≤ larger) : Segmented larger [only] :=
  ⟨cut.1, cut.2.trans grow⟩

end QuincyTun.Foundation
