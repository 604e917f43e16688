import QuincyTun.Foundation.CallLog
import Mathlib.Data.Multiset.AddSub

/-! Descriptors and other resources that requests open, use and close.

A log is sound if it uses and closes only what is open. Rules for sequences of calls give
what a call holds at its end from what it holds at its start, whatever else is open.
-/

set_option autoImplicit false

namespace QuincyTun.Foundation

/-- What a request opens if it is granted, what must be open for it, and what it closes. -/
structure Ledger (ι ρ : Type) where
  opened : ι → Option ρ
  used : ι → List ρ := fun _ => []
  closed : ι → Option ρ

namespace Ledger

variable {ι ρ α β : Type} [DecidableEq ρ] {ledger : Ledger ι ρ} {requests more : List ι}
  {held : Multiset ρ}

/-- Nothing is used or closed that is not open. -/
def step (ledger : Ledger ι ρ) (held : Multiset ρ) (request : ι) : Option (Multiset ρ) :=
  if ∀ resource ∈ ledger.used request, resource ∈ held then
    match ledger.closed request with
    | some resource => if resource ∈ held then some (held.erase resource) else none
    | none => some ((ledger.opened request).toList + held)
  else none

def run (ledger : Ledger ι ρ) (held : Multiset ρ) (requests : List ι) : Option (Multiset ρ) :=
  requests.foldlM ledger.step held

@[simp] theorem run_nil : ledger.run held [] = some held := rfl

theorem run_append : ledger.run held (requests ++ more) =
    (ledger.run held requests).bind fun between => ledger.run between more :=
  List.foldlM_append

theorem run_singleton (request : ι) : ledger.run held [request] = ledger.step held request := by
  simp [run]

/-- The call adds requests that turn what is held before into what is held after, for a value and
for an error. What others hold stays open. -/
def Holds (ledger : Ledger ι ρ) (before : Multiset ρ) (call : OsCall (List ι) α)
    (after : α → Multiset ρ) (failed : Multiset ρ) : Prop :=
  ∀ log, ∃ added, (call.on log).2 = log ++ added ∧ ∀ others,
    ledger.run (before + others) added = some
      ((match (call.on log).1 with
        | .ok value => after value
        | .error _ => failed) + others)

variable {before failed : Multiset ρ} {after : α → Multiset ρ}
  {call : OsCall (List ι) α} {next : α → OsCall (List ι) β} {final : β → Multiset ρ}

namespace Holds

theorem ofResult (ledger : Ledger ι ρ) (before : Multiset ρ) (result : Result α) :
    ledger.Holds before (OsCall.ofResult result) (fun _ => before) before := by
  refine fun log => ⟨[], (List.append_nil log).symm, fun others => ?_⟩
  cases result <;> rfl

theorem pure (ledger : Ledger ι ρ) (value : α) (after : α → Multiset ρ) (failed : Multiset ρ) :
    ledger.Holds (after value) (Pure.pure value) after failed :=
  fun log => ⟨[], (List.append_nil log).symm, fun _ => rfl⟩

theorem fails (ledger : Ledger ι ρ) (error : IoError) (after : α → Multiset ρ)
    (failed : Multiset ρ) :
    ledger.Holds failed (OsCall.ofResult (.error error)) after failed :=
  fun log => ⟨[], (List.append_nil log).symm, fun _ => rfl⟩

theorem asks {request : ι} (opened : ledger.opened request = none)
    (used : ∀ resource ∈ ledger.used request, resource ∈ before)
    (closed : ledger.closed request = none) (answer : Result α) :
    ledger.Holds before (OsCall.logged [request] answer) (fun _ => before) before := by
  refine fun log => ⟨[request], rfl, fun others => ?_⟩
  have isOpen (resource : ρ) (member : resource ∈ ledger.used request) :
      resource ∈ before + others := Multiset.mem_add.mpr (.inl (used resource member))
  rw [run_singleton, step, if_pos isOpen, closed, opened]
  cases answer <;> simp

theorem does {request : ι} (opened : ledger.opened request = none)
    (used : ∀ resource ∈ ledger.used request, resource ∈ before)
    (closed : ledger.closed request = none) (value : α) :
    ledger.Holds before (OsCall.logged [request] (.ok value)) (fun _ => before) failed :=
  asks opened used closed (.ok value)

theorem opensAs {request : ι} {answer : Result α} {resource : α → ρ}
    (opened : ledger.opened request = answer.toOption.map resource)
    (used : ∀ resource ∈ ledger.used request, resource ∈ before)
    (closed : ledger.closed request = none) :
    ledger.Holds before (OsCall.logged [request] answer)
      (fun value => resource value ::ₘ before) before := by
  refine fun log => ⟨[request], rfl, fun others => ?_⟩
  have isOpen (resource : ρ) (member : resource ∈ ledger.used request) :
      resource ∈ before + others := Multiset.mem_add.mpr (.inl (used resource member))
  rw [run_singleton, step, if_pos isOpen, closed, opened]
  cases answer <;> simp [Except.toOption]

theorem opens {request : ι} {answer : Result ρ}
    (opened : ledger.opened request = answer.toOption)
    (used : ∀ resource ∈ ledger.used request, resource ∈ before)
    (closed : ledger.closed request = none) :
    ledger.Holds before (OsCall.logged [request] answer) (fun fd => fd ::ₘ before) before :=
  opensAs (by rw [opened, Option.map_id']) used closed

/-- A request that closes one resource and may use the others. -/
theorem closes {request : ι} {resource : ρ}
    (used : ∀ resource ∈ ledger.used request, resource ∈ before)
    (closed : ledger.closed request = some resource) (value : α) :
    ledger.Holds (resource ::ₘ before) (OsCall.logged [request] (.ok value)) (fun _ => before)
      failed := by
  refine fun log => ⟨[request], rfl, fun others => ?_⟩
  have isOpen (other : ρ) (member : other ∈ ledger.used request) :
      other ∈ resource ::ₘ before + others :=
    Multiset.mem_add.mpr (.inl (Multiset.mem_cons_of_mem (used other member)))
  rw [run_singleton, step, if_pos isOpen, closed]
  simp

theorem asked {entry : Result α → ι} {answer : List ι → Result α}
    (holds : ∀ log, ledger.Holds before (OsCall.logged [entry (answer log)] (answer log)) after
      failed) : ledger.Holds before (OsCall.asked entry answer) after failed :=
  fun log => holds log log

theorem observed {entry : α → ι} {answer : List ι → α}
    (opened : ∀ value, ledger.opened (entry value) = none)
    (used : ∀ value, ∀ resource ∈ ledger.used (entry value), resource ∈ before)
    (closed : ∀ value, ledger.closed (entry value) = none) :
    ledger.Holds before (OsCall.observed entry answer) (fun _ => before) failed := by
  intro log
  have holds : ledger.Holds before (OsCall.logged [entry (answer log)] (.ok (answer log)))
      (fun _ => before) failed := does (opened _) (used _) (closed _) (answer log)
  exact holds log

theorem bind_returned (first : ledger.Holds before call after failed)
    (rest : ∀ value, (∃ log, (call.on log).1 = .ok value) →
      ledger.Holds (after value) (next value) final failed) :
    ledger.Holds before (call >>= next) final failed := by
  intro log
  obtain ⟨added, grows, ran⟩ := first log
  rw [OsCall.on_bind]
  rcases result : call.on log with ⟨answer, between⟩
  rw [result] at grows ran
  cases answer with
  | error error => exact ⟨added, grows, ran⟩
  | ok value =>
    obtain ⟨more, further, later⟩ := rest value ⟨log, by rw [result]⟩ between
    refine ⟨added ++ more, by rw [← List.append_assoc, ← grows]; exact further, fun others => ?_⟩
    rw [run_append, ran others, Option.bind_some]
    exact later others

theorem bind (first : ledger.Holds before call after failed)
    (rest : ∀ value, ledger.Holds (after value) (next value) final failed) :
    ledger.Holds before (call >>= next) final failed :=
  first.bind_returned fun value _ => rest value

/-- An attempt holds what the call holds in the case that came about. -/
theorem attempt (holds : ledger.Holds before call after failed) {other : Multiset ρ} :
    ledger.Holds before (OsCall.attempt call)
      (fun result => match result with
        | .ok value => after value
        | .error _ => failed) other := by
  intro log
  rw [OsCall.on_attempt]
  exact holds log

theorem tried (holds : ledger.Holds before call (fun _ => before) before)
    {other : Multiset ρ} :
    ledger.Holds before (OsCall.attempt call) (fun _ => before) other := by
  have same : (fun result : Result α => match result with
      | .ok _ => before
      | .error _ => before) = fun _ => before := by
    funext result
    cases result <;> rfl
  exact same ▸ holds.attempt

/-- What is held when the call fails is for the undoing call to release. -/
theorem orElseUndo {undo : OsCall (List ι) Unit} {released : Multiset ρ}
    (undoes : ledger.Holds failed undo (fun _ => released) released)
    (holds : ledger.Holds before call after failed) :
    ledger.Holds before (OsCall.orElseUndo undo call) after released := by
  refine holds.attempt.bind fun result => ?_
  cases result with
  | ok value => exact .pure ledger value after released
  | error error =>
    refine undoes.attempt.bind fun undone => ?_
    cases undone with
    | ok => exact .fails ledger error after released
    | error => exact .fails ledger error after released

end Holds

end Ledger

end QuincyTun.Foundation
