import QuincyTun.Foundation.Panic

/-! Two computations side by side. They are related when they stop with the same panic
or end in related values, and sequencing keeps that.
-/

set_option autoImplicit false

namespace QuincyTun.Foundation

variable {α β γ δ : Type} {rel stronger : α → β → Prop} {rel' : γ → δ → Prop}

inductive Related (rel : α → β → Prop) : Run α → Run β → Prop
  | ok {a : α} {b : β} (related : rel a b) : Related rel (.ok a) (.ok b)
  | panic (panic : Panic) : Related rel (.error panic) (.error panic)

namespace Related

theorem mono {first : Run α} {second : Run β} (related : Related stronger first second)
    (weaker : ∀ a b, stronger a b → rel a b) : Related rel first second := by
  cases related with
  | ok related => exact .ok (weaker _ _ related)
  | panic panic => exact .panic panic

theorem bind {first : Run α} {second : Run β} {next : α → Run γ} {next' : β → Run δ}
    (related : Related rel first second)
    (later : ∀ a b, rel a b → Related rel' (next a) (next' b)) :
    Related rel' (first >>= next) (second >>= next') := by
  cases related with
  | ok related => exact later _ _ related
  | panic panic => exact .panic panic

theorem bind_same {first : Run α} {next : α → Run γ} {next' : α → Run δ}
    (later : ∀ a, first = .ok a → Related rel' (next a) (next' a)) :
    Related rel' (first >>= next) (first >>= next') := by
  cases first with
  | ok a => exact later a rfl
  | error panic => exact .panic panic

theorem ok_left {first : Run α} {second : Run β} {a : α} (related : Related rel first second)
    (ran : first = .ok a) : ∃ b, second = .ok b ∧ rel a b := by
  cases related with
  | ok related => exact ⟨_, rfl, Except.ok.inj ran ▸ related⟩
  | panic panic => cases ran

end Related

end QuincyTun.Foundation
