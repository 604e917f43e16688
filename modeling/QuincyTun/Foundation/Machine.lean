/-! Machines that make labelled steps, and what holds in every state they reach.

A label says who acts and how the surroundings answer, so one machine stands for
all interleavings of its parties. An invariant is proved once per action.
-/

set_option autoImplicit false

namespace QuincyTun.Foundation

universe u

/-- Not every action is possible in every state. -/
structure Machine (σ : Type) (α : Type u) where
  start : σ
  step : σ → α → Option σ

namespace Machine

variable {σ : Type} {α : Type u} {machine : Machine σ α} {meets stronger : σ → α → Prop} {s s' : σ}

/-- The states reached by steps that all meet a condition. -/
inductive Reaches (machine : Machine σ α) (meets : σ → α → Prop) : σ → Prop
  | start : Reaches machine meets machine.start
  | next {s s' : σ} {a : α} (before : Reaches machine meets s) (met : meets s a)
      (stepped : machine.step s a = some s') : Reaches machine meets s'

abbrev Reachable (machine : Machine σ α) : σ → Prop := machine.Reaches fun _ _ => True

/-- What holds at the start and is kept by every step that meets the condition holds throughout. -/
theorem Reaches.invariant {inv : σ → Prop} (reached : machine.Reaches meets s)
    (initially : inv machine.start)
    (kept : ∀ s a s', inv s → meets s a → machine.step s a = some s' → inv s') : inv s := by
  induction reached with
  | start => exact initially
  | next before met stepped ih => exact kept _ _ _ ih met stepped

theorem Reaches.mono (reached : machine.Reaches stronger s)
    (weaker : ∀ s a, stronger s a → meets s a) : machine.Reaches meets s := by
  induction reached with
  | start => exact .start
  | next before met stepped ih => exact .next ih (weaker _ _ met) stepped

theorem Reaches.reachable (reached : machine.Reaches meets s) : machine.Reachable s :=
  reached.mono fun _ _ _ => trivial

def run (machine : Machine σ α) (meets : σ → α → Prop) [∀ s a, Decidable (meets s a)] :
    List α → σ → Option σ
  | [], s => some s
  | a :: rest, s => if meets s a then (machine.step s a).bind (run machine meets rest) else none

theorem Reaches.run [∀ s a, Decidable (meets s a)] {actions : List α}
    (reached : machine.Reaches meets s) (ran : machine.run meets actions s = some s') :
    machine.Reaches meets s' := by
  induction actions generalizing s with
  | nil => exact Option.some.inj ran ▸ reached
  | cons a rest ih =>
    rw [Machine.run] at ran
    split at ran
    case isTrue met =>
      obtain ⟨between, stepped, later⟩ := Option.bind_eq_some_iff.mp ran
      exact ih (.next reached met stepped) later
    case isFalse => cases ran

end Machine

end QuincyTun.Foundation
