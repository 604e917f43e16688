import Mathlib.Data.List.Basic
import Mathlib.Data.List.Nodup
import Mathlib.Data.List.Range
import Mathlib.Tactic.Common

/-! Searches over an index whose loop may be left, advanced or merely repeated.

A turn that repeats without advancing finds the same entry again. So a search
that would end does so exactly when no turn that it reaches is of that kind, and
then it visits every index up to its end once.
-/

set_option autoImplicit false

namespace QuincyTun.Foundation

inductive Turn (β : Type) where
  | again
  | advance
  | stop (verdict : β)
  deriving DecidableEq, Repr

structure Search (β : Type) where
  index : Nat
  visited : List Nat
  verdict : Option β
  deriving DecidableEq, Repr

namespace Search

variable {β : Type} {turnAt : Nat → Turn β} {i n : Nat} {verdict : β}

def turn (turnAt : Nat → Turn β) (s : Search β) : Search β :=
  match s.verdict with
  | some _ => s
  | none =>
    match turnAt s.index with
    | .again => { s with visited := s.visited ++ [s.index] }
    | .advance => { s with index := s.index + 1, visited := s.visited ++ [s.index] }
    | .stop verdict => { s with visited := s.visited ++ [s.index], verdict := some verdict }

def after (turnAt : Nat → Turn β) : Nat → Search β
  | 0 => ⟨0, [], none⟩
  | n + 1 => turn turnAt (after turnAt n)

def Reached (turnAt : Nat → Turn β) (i : Nat) : Prop := ∀ j < i, turnAt j = .advance

theorem after_reached (reached : Reached turnAt n) :
    after turnAt n = ⟨n, List.range n, none⟩ := by
  induction n with
  | zero => rfl
  | succ n ih =>
    have before := ih fun j below => reached j (by omega)
    simp only [after, before, turn, reached n (by omega), List.range_succ]

theorem after_stop (reached : Reached turnAt i) (stops : turnAt i = .stop verdict) (k : Nat) :
    after turnAt (i + 1 + k) = ⟨i, List.range (i + 1), some verdict⟩ := by
  induction k with
  | zero => simp only [after, after_reached reached, turn, stops, List.range_succ]
  | succ k ih => rw [← Nat.add_assoc, after, ih, turn]

theorem after_again (reached : Reached turnAt i) (stays : turnAt i = .again) (k : Nat) :
    after turnAt (i + k) = ⟨i, List.range i ++ List.replicate k i, none⟩ := by
  induction k with
  | zero => rw [Nat.add_zero, after_reached reached, List.replicate_zero, List.append_nil]
  | succ k ih =>
    rw [← Nat.add_assoc, after, ih]
    simp only [turn, stays, List.append_assoc, List.replicate_succ']

/-- A search that cannot advance for ever reaches a turn that does not. -/
theorem exists_reached (ends : turnAt n ≠ .advance) :
    ∃ i ≤ n, Reached turnAt i ∧ turnAt i ≠ .advance := by
  induction n using Nat.strongRecOn with
  | ind n ih =>
    by_cases reached : Reached turnAt n
    · exact ⟨n, le_rfl, reached, ends⟩
    · simp only [Reached, not_forall] at reached
      obtain ⟨j, below, stuck⟩ := reached
      obtain ⟨i, order, first⟩ := ih j below stuck
      exact ⟨i, by omega, first⟩

theorem index_le (ends : turnAt n ≠ .advance) (k : Nat) : (after turnAt k).index ≤ n := by
  obtain ⟨i, order, reached, stuck⟩ := exists_reached ends
  by_cases early : k ≤ i
  · rw [after_reached fun j below => reached j (by omega)]
    exact early.trans order
  · cases same : turnAt i with
    | advance => exact (stuck same).elim
    | again =>
      have here := after_again reached same (k - i)
      rw [Nat.add_sub_cancel' (by omega)] at here
      rw [here]
      exact order
    | stop verdict =>
      have here := after_stop reached same (k - (i + 1))
      rw [Nat.add_sub_cancel' (by omega)] at here
      rw [here]
      exact order

theorem of_verdict (found : (after turnAt n).verdict = some verdict) :
    ∃ i, Reached turnAt i ∧ turnAt i = .stop verdict ∧
      after turnAt n = ⟨i, List.range (i + 1), some verdict⟩ := by
  have notReached : ¬ Reached turnAt n := by
    intro reached
    rw [after_reached reached] at found
    cases found
  simp only [Reached, not_forall] at notReached
  obtain ⟨j, below, stuck⟩ := notReached
  obtain ⟨i, order, reached, stays⟩ := exists_reached stuck
  cases same : turnAt i with
  | advance => exact (stays same).elim
  | again =>
    have here := after_again reached same (n - i)
    rw [Nat.add_sub_cancel' (by omega)] at here
    rw [here] at found
    cases found
  | stop other =>
    have here := after_stop reached same (n - (i + 1))
    rw [Nat.add_sub_cancel' (by omega)] at here
    rw [here] at found
    obtain rfl := Option.some.inj found
    exact ⟨i, reached, same, here⟩

/-- A search with an end comes there without visiting an index twice exactly when no turn that it
reaches repeats itself. -/
theorem ends_iff (ends : turnAt n ≠ .advance) :
    (∃ n verdict, (after turnAt n).verdict = some verdict ∧ (after turnAt n).visited.Nodup) ↔
      ∀ i, Reached turnAt i → turnAt i ≠ .again := by
  constructor
  · rintro ⟨n, verdict, found, -⟩ i reached stays
    obtain ⟨j, reachedStop, stops, -⟩ := of_verdict found
    rcases Nat.lt_trichotomy i j with below | rfl | above
    · cases stays.symm.trans (reachedStop i below)
    · cases stays.symm.trans stops
    · cases stops.symm.trans (reached j above)
  · intro advancing
    obtain ⟨i, -, reached, stuck⟩ := exists_reached ends
    cases same : turnAt i with
    | advance => exact (stuck same).elim
    | again => exact (advancing i reached same).elim
    | stop verdict =>
      refine ⟨i + 1 + 0, verdict, ?_⟩
      rw [after_stop reached same]
      exact ⟨rfl, List.nodup_range⟩

end Search

end QuincyTun.Foundation
