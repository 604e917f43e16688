import Mathlib.Data.List.Induction

/-! Logs in which every event was permitted by the events before it. -/

set_option autoImplicit false

namespace QuincyTun.Foundation

variable {α : Type} {permitted : List α → α → Prop} {log : List α} {event : α}

def Lawful (permitted : List α → α → Prop) (log : List α) : Prop :=
  ∀ earlier event later, log = earlier ++ event :: later → permitted earlier event

namespace Lawful

theorem nil : Lawful permitted [] := by
  intro earlier event later split
  exact absurd split.symm (List.append_ne_nil_of_right_ne_nil _ (List.cons_ne_nil _ _))

theorem concat (lawful : Lawful permitted log) (allowed : permitted log event) :
    Lawful permitted (log ++ [event]) := by
  intro earlier other later split
  rcases List.eq_nil_or_concat later with rfl | ⟨middle, final, rfl⟩
  · obtain ⟨rfl, same⟩ := List.append_inj' split rfl
    rwa [← List.head_eq_of_cons_eq same]
  · rw [List.concat_eq_append, ← List.cons_append, ← List.append_assoc] at split
    exact lawful earlier other middle (List.append_inj' split rfl).1

theorem of_append {later : List α} (lawful : Lawful permitted (log ++ later)) :
    Lawful permitted log := by
  intro earlier event rest split
  refine lawful earlier event (rest ++ later) ?_
  rw [split, List.append_assoc, List.cons_append]

/-- An event that is permitted only when it did not happen before happens once at most. -/
theorem count_le_one [DecidableEq α] (lawful : Lawful permitted log)
    (once : ∀ earlier, permitted earlier event → event ∉ earlier) : log.count event ≤ 1 := by
  induction log using List.reverseRecOn with
  | nil => exact Nat.zero_le 1
  | append_singleton earlier final ih =>
    rw [List.count_append, List.count_singleton]
    have before := ih lawful.of_append
    split
    case isTrue same =>
      obtain rfl := beq_iff_eq.mp same
      have fresh := List.count_eq_zero_of_not_mem (once earlier (lawful earlier final [] rfl))
      omega
    case isFalse => exact before

end Lawful

end QuincyTun.Foundation
