import Mathlib.Data.List.Basic

/-! Changing the elements at some positions of a list, each in the same way.

A change that does nothing the second time leaves a list alone exactly when it
leaves every touched element alone.
-/

set_option autoImplicit false

namespace QuincyTun.Foundation

variable {α : Type} {change : α → α} {positions : List Nat} {xs : List α}

def touch (change : α → α) (positions : List Nat) (xs : List α) : List α :=
  positions.foldl (fun xs i => xs.modify i change) xs

@[simp] theorem touch_nil : touch change [] xs = xs := rfl

@[simp] theorem touch_cons (i : Nat) :
    touch change (i :: positions) xs = touch change positions (xs.modify i change) := rfl

theorem touch_append (others : List Nat) :
    touch change (positions ++ others) xs = touch change others (touch change positions xs) :=
  List.foldl_append ..

theorem getElem?_touch (idempotent : ∀ x, change (change x) = change x) (i : Nat) :
    (touch change positions xs)[i]? = if i ∈ positions then xs[i]?.map change else xs[i]? := by
  induction positions generalizing xs with
  | nil => simp
  | cons first rest ih =>
    rw [touch_cons, ih, List.getElem?_modify]
    by_cases same : first = i
    · cases xs[i]? <;> simp [same, idempotent]
    · simp [same, Ne.symm same]

theorem touch_eq_self_iff (idempotent : ∀ x, change (change x) = change x) :
    touch change positions xs = xs ↔ ∀ i ∈ positions, ∀ x, xs[i]? = some x → change x = x := by
  constructor
  · intro same i touched x found
    have here := @getElem?_touch _ _ positions xs idempotent i
    rw [same, if_pos touched, found] at here
    exact (Option.some.inj here).symm
  · intro alone
    apply List.ext_getElem?
    intro i
    rw [getElem?_touch idempotent]
    split
    case isTrue touched =>
      cases found : xs[i]? with
      | none => rfl
      | some x => exact congrArg some (alone i touched x found)
    case isFalse => rfl

end QuincyTun.Foundation
