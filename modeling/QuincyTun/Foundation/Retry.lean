import Mathlib.Data.Nat.Nth
import QuincyTun.Foundation.OsCall

/-! Attempts that are repeated a few times, and numbers for names that are not taken. -/

set_option autoImplicit false

namespace QuincyTun.Foundation

/-! ## Repeated attempts -/

namespace OsCall

variable {σ α : Type}

/-- Attempts from number `k` on, until one succeeds or after it so many more have failed. An
attempt may also give up at once. -/
def retry (attemptAt : Nat → OsCall σ (Result α)) (k : Nat) : (more : Nat) → OsCall σ α
  | 0 => attemptAt k >>= ofResult
  | more + 1 => do
    match ← attemptAt k with
    | .ok value => return value
    | .error _ => retry attemptAt (k + 1) more

def settle (attemptAt : Nat → OsCall σ (Result α)) (k : Nat) : Result α → (more : Nat) → OsCall σ α
  | result, 0 => ofResult result
  | .ok value, _ + 1 => pure value
  | .error _, more + 1 => retry attemptAt (k + 1) more

theorem retry_eq (attemptAt : Nat → OsCall σ (Result α)) (k more : Nat) :
    retry attemptAt k more = attemptAt k >>= fun result => settle attemptAt k result more := by
  cases more with
  | zero => rfl
  | succ more =>
    rw [retry]
    refine bind_congr fun result => ?_
    cases result <;> rfl

@[simp] theorem settle_ok (attemptAt : Nat → OsCall σ (Result α)) (k more : Nat) (value : α) :
    settle attemptAt k (.ok value) more = pure value := by
  cases more <;> rfl

end OsCall

/-! ## Free numbers -/

section Free

variable {α : Type} [DecidableEq α] {name : Nat → α} {taken : List α}

def Free (name : Nat → α) (taken : List α) (n : Nat) : Prop := name n ∉ taken

instance (name : Nat → α) (taken : List α) : DecidablePred (Free name taken) :=
  fun n => inferInstanceAs (Decidable (name n ∉ taken))

/-- So many of the first numbers are free, unless there are as many names. -/
theorem le_count_free (injective : name.Injective) (taken : List α) (n : Nat) :
    n ≤ Nat.count (Free name taken) n + taken.length := by
  have split := List.length_eq_countP_add_countP (decide <| Free name taken ·) (l := List.range n)
  rw [List.length_range] at split
  have names : (((List.range n).filter (¬ Free name taken ·)).map name).Nodup :=
    (List.nodup_range.filter _).map injective
  have among : ((List.range n).filter (¬ Free name taken ·)).map name ⊆ taken := by
    intro found member
    obtain ⟨i, inside, rfl⟩ := List.mem_map.mp member
    exact not_not.mp (of_decide_eq_true (List.mem_filter.mp inside).2)
  have fewer := (names.subperm among).length_le
  rw [List.length_map, ← List.countP_eq_length_filter] at fewer
  simp only [decide_eq_true_eq, decide_not] at split fewer
  rw [Nat.count]
  omega

theorem infinite_free (injective : name.Injective) (taken : List α) :
    (Set.ofPred (Free name taken)).Infinite := by
  intro finite
  -- There are at most as many free numbers as the set has elements.
  have many := le_count_free injective taken (finite.toFinset.card + taken.length + 1)
  rw [Nat.count_eq_card_filter_range] at many
  have among : {n ∈ Finset.range (finite.toFinset.card + taken.length + 1) | Free name taken n} ⊆
      finite.toFinset := fun n member => finite.mem_toFinset.mpr (Finset.mem_filter.mp member).2
  have bound := Finset.card_le_card among
  omega

end Free

end QuincyTun.Foundation
