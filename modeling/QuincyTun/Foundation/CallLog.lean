import QuincyTun.Foundation.OsCall

/-! Calls that are known by what they ask the system to do.

The state of such a call is the log of the requests so far. Where every request is made at
most once, the answers of the system are fixed; else they may depend on the log.
-/

set_option autoImplicit false

namespace QuincyTun.Foundation

namespace OsCall

variable {ι α β : Type}

def logged (requests : List ι) (answer : Result α) : OsCall (List ι) α :=
  ExceptT.mk fun log => (answer, log ++ requests)

/-- A request whose answer may depend on all those before it. The log has the answer as well. -/
def asked (entry : Result α → ι) (answer : List ι → Result α) : OsCall (List ι) α :=
  ExceptT.mk fun log => (answer log, log ++ [entry (answer log)])

def observed (entry : α → ι) (answer : List ι → α) : OsCall (List ι) α :=
  ExceptT.mk fun log => (.ok (answer log), log ++ [entry (answer log)])

/-- A call that is undone when it fails. -/
def orElseUndo (undo : OsCall (List ι) Unit) (call : OsCall (List ι) α) : OsCall (List ι) α := do
  match ← attempt call with
  | .ok value => return value
  | .error error => do
    let _ ← attempt undo
    ofResult (.error error)

@[simp] theorem on_logged (requests : List ι) (answer : Result α) (log : List ι) :
    (logged requests answer).on log = (answer, log ++ requests) := rfl

@[simp] theorem on_asked (entry : Result α → ι) (answer : List ι → Result α) (log : List ι) :
    (asked entry answer).on log = (answer log, log ++ [entry (answer log)]) := rfl

@[simp] theorem on_observed (entry : α → ι) (answer : List ι → α) (log : List ι) :
    (observed entry answer).on log = (.ok (answer log), log ++ [entry (answer log)]) := rfl

theorem on_orElseUndo (undo : OsCall (List ι) Unit) (call : OsCall (List ι) α) (log : List ι) :
    (orElseUndo undo call).on log =
      ((call.on log).1, match (call.on log).1 with
        | .ok _ => (call.on log).2
        | .error _ => (undo.on (call.on log).2).2) := by
  rw [orElseUndo, on_bind, on_attempt]
  cases (call.on log).1 with
  | ok value => rfl
  | error error =>
    dsimp only
    rw [on_bind, on_attempt]
    rfl

theorem orElseUndo_ok {undo : OsCall (List ι) Unit} {call : OsCall (List ι) α} {log after : List ι}
    {value : α} (ran : (orElseUndo undo call).on log = (.ok value, after)) :
    call.on log = (.ok value, after) := by
  rw [on_orElseUndo] at ran
  obtain ⟨succeeded, left⟩ := Prod.mk.inj ran
  rw [succeeded] at left
  exact Prod.ext succeeded left

/-- The call only adds requests with the property to the log. -/
def Asks (p : ι → Prop) (call : OsCall (List ι) α) : Prop :=
  ∀ log, ∃ added, (call.on log).2 = log ++ added ∧ ∀ request ∈ added, p request

def Requires (p : ι → Prop) (call : OsCall (List ι) α) : Prop :=
  ∀ log value after, call.on log = (.ok value, after) → ∃ request ∈ after, p request

variable {p : ι → Prop} {call : OsCall (List ι) α} {next : α → OsCall (List ι) β}
  {requests : List ι}

namespace Asks

theorem ofResult (p : ι → Prop) (result : Result α) :
    (OsCall.ofResult result : OsCall (List ι) α).Asks p := fun log =>
  ⟨[], (List.append_nil log).symm, by simp⟩

theorem logged (all : ∀ request ∈ requests, p request) (answer : Result α) :
    (OsCall.logged requests answer).Asks p := fun _ => ⟨requests, rfl, all⟩

theorem bind (first : call.Asks p) (rest : ∀ value, (next value).Asks p) :
    (call >>= next).Asks p := by
  intro log
  obtain ⟨added, grows, all⟩ := first log
  rw [on_bind]
  rcases ran : call.on log with ⟨result, after⟩
  rw [ran] at grows
  cases result with
  | error error => exact ⟨added, grows, all⟩
  | ok value =>
    obtain ⟨more, further, others⟩ := rest value after
    refine ⟨added ++ more, by rw [← List.append_assoc, ← grows]; exact further, ?_⟩
    intro request member
    exact (List.mem_append.mp member).elim (all request) (others request)

theorem mono {q : ι → Prop} (asks : call.Asks p) (weaker : ∀ request, p request → q request) :
    call.Asks q := by
  intro log
  obtain ⟨added, grows, all⟩ := asks log
  exact ⟨added, grows, fun request member => weaker request (all request member)⟩

theorem attempt (asks : call.Asks p) : (OsCall.attempt call).Asks p := by
  intro log
  rw [on_attempt]
  exact asks log

theorem orElseUndo {undo : OsCall (List ι) Unit} (undoes : undo.Asks p) (asks : call.Asks p) :
    (OsCall.orElseUndo undo call).Asks p := by
  refine asks.attempt.bind fun result => ?_
  cases result with
  | ok value => exact ofResult p (.ok value)
  | error error => exact undoes.attempt.bind fun _ => ofResult p _

theorem mem (asks : call.Asks p) {request : ι} (member : request ∈ (call.on []).2) :
    p request := by
  obtain ⟨added, same, all⟩ := asks []
  rw [same, List.nil_append] at member
  exact all request member

end Asks

namespace Requires

theorem failed_of_none (requires : call.Requires p) {log : List ι}
    (none : ∀ request ∈ (call.on log).2, ¬ p request) :
    ∃ error, (call.on log).1 = .error error := by
  rcases ran : call.on log with ⟨error | value, after⟩
  · exact ⟨error, rfl⟩
  · obtain ⟨request, member, meets⟩ := requires log value after ran
    rw [ran] at none
    exact absurd meets (none request member)

theorem logged {request : ι} (here : request ∈ requests) (meets : p request) (answer : Result α) :
    (OsCall.logged requests answer).Requires p := by
  intro log value after ran
  obtain ⟨-, rfl⟩ := Prod.mk.inj ran
  exact ⟨request, List.mem_append_right log here, meets⟩

theorem bind_right (rest : ∀ value, (next value).Requires p) : (call >>= next).Requires p := by
  intro log value after ran
  rw [on_bind] at ran
  split at ran
  · exact rest _ _ _ _ ran
  · cases ran

theorem bind_left {q : ι → Prop} (first : call.Requires p) (rest : ∀ value, (next value).Asks q) :
    (call >>= next).Requires p := by
  intro log value after ran
  rw [on_bind] at ran
  split at ran
  case h_1 middle between early =>
    obtain ⟨request, member, meets⟩ := first _ _ _ early
    obtain ⟨added, grows, -⟩ := rest middle between
    have kept : request ∈ between ++ added := List.mem_append_left added member
    rw [← grows, ran] at kept
    exact ⟨request, kept, meets⟩
  case h_2 => cases ran

theorem orElseUndo (undo : OsCall (List ι) Unit) (requires : call.Requires p) :
    (OsCall.orElseUndo undo call).Requires p := by
  intro log value after ran
  unfold OsCall.orElseUndo at ran
  rw [on_bind, on_attempt] at ran
  rcases result : call.on log with ⟨answer, between⟩
  rw [result] at ran
  cases answer with
  | ok found =>
    obtain ⟨-, rfl⟩ := Prod.mk.inj ran
    exact requires _ _ _ result
  | error error =>
    exfalso
    change ((OsCall.attempt undo >>= fun _ => OsCall.ofResult (.error error)).on between) = _ at ran
    rw [on_bind, on_attempt] at ran
    cases ran

end Requires

end OsCall

end QuincyTun.Foundation
