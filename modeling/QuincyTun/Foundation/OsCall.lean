import QuincyTun.Foundation.IoError

/-! Calls that may change the state of a system and may fail. A call that fails keeps
the state that it reached; nothing is rolled back.
-/

set_option autoImplicit false

namespace QuincyTun.Foundation

abbrev OsCall (σ : Type) := ExceptT IoError (StateM σ)

namespace OsCall

variable {σ α β : Type} {call : OsCall σ α} {next : α → OsCall σ β} {s after : σ}

def on (call : OsCall σ α) (s : σ) : Result α × σ := Id.run (StateT.run (ExceptT.run call) s)

def ofResult (result : Result α) : OsCall σ α := ExceptT.mk (pure result)

/-- A call that the program survives when it fails. -/
def attempt (call : OsCall σ α) : OsCall σ (Result α) :=
  ExceptT.mk do
    let result ← call.run
    return .ok result

@[simp] theorem on_pure (value : α) : (pure value : OsCall σ α).on s = (.ok value, s) := rfl

@[simp] theorem on_ofResult (result : Result α) :
    (ofResult result : OsCall σ α).on s = (result, s) := rfl

theorem on_bind : (call >>= next).on s =
    match call.on s with
    | (.ok value, after) => (next value).on after
    | (.error error, after) => (.error error, after) := by
  simp only [on, ExceptT.run_bind, StateT.run_bind, Id.run_bind]
  rcases Id.run (StateT.run (ExceptT.run call) s) with ⟨result, after⟩
  cases result <;> rfl

theorem on_bind_ok {value : α} (ran : call.on s = (.ok value, after)) :
    (call >>= next).on s = (next value).on after := by
  rw [on_bind, ran]

theorem on_bind_error {error : IoError} (ran : call.on s = (.error error, after)) :
    (call >>= next).on s = (.error error, after) := by
  rw [on_bind, ran]

theorem on_bind_cases {result : Result β} (ran : (call >>= next).on s = (result, after)) :
    (∃ error, call.on s = (.error error, after) ∧ result = .error error) ∨
      ∃ value between, call.on s = (.ok value, between) ∧
        (next value).on between = (result, after) := by
  rw [on_bind] at ran
  split at ran
  · exact .inr ⟨_, _, ‹_›, ran⟩
  · obtain ⟨rfl, rfl⟩ := Prod.mk.inj ran
    exact .inl ⟨_, ‹_›, rfl⟩

theorem on_ofResult_bind_ok {result : Result α} {value : α} (ok : result = .ok value) :
    ((ofResult result : OsCall σ α) >>= next).on s = (next value).on s := on_bind_ok (ok ▸ rfl)

theorem on_ofResult_bind_error {result : Result α} {error : IoError}
    (failed : result = .error error) :
    ((ofResult result : OsCall σ α) >>= next).on s = (.error error, s) :=
  on_bind_error (failed ▸ rfl)

@[simp] theorem on_attempt (call : OsCall σ α) :
    (attempt call).on s = (.ok (call.on s).1, (call.on s).2) := by
  simp only [on, attempt, ExceptT.run_mk, StateT.run_bind, Id.run_bind, StateT.run_pure,
    Id.run_pure]

@[simp] theorem on_lift (answer : StateM σ α) :
    (liftM answer : OsCall σ α).on s = (.ok (answer.run s).1, (answer.run s).2) := rfl

theorem on_lift_bind (answer : StateM σ α) :
    ((liftM answer : OsCall σ α) >>= next).on s = (next (answer.run s).1).on (answer.run s).2 := by
  rw [on_bind, on_lift]

theorem ext {call other : OsCall σ α} (same : ∀ s, call.on s = other.on s) : call = other := by
  funext s
  exact same s

theorem ofResult_bind_keeps {inv : σ → Prop} {result : Result α} (holds : inv s)
    (rest : ∀ value, result = .ok value → inv ((next value).on s).2) :
    inv (((ofResult result : OsCall σ α) >>= next).on s).2 := by
  cases result with
  | error error =>
    rw [on_ofResult_bind_error rfl]
    exact holds
  | ok value =>
    rw [on_ofResult_bind_ok rfl]
    exact rest value rfl

/-- The call fails and has changed nothing. -/
def Refuses (call : OsCall σ α) (s : σ) : Prop := ∃ error, call.on s = (.error error, s)

/-- A conversion that fails refuses the call; otherwise it is for the rest to refuse it. -/
theorem Refuses.ofResult_bind {result : Result α}
    (rest : ∀ value, result = .ok value → (next value).Refuses s) :
    ((ofResult result : OsCall σ α) >>= next).Refuses s := by
  cases result with
  | error error => exact ⟨error, on_ofResult_bind_error rfl⟩
  | ok value =>
    rw [Refuses, on_ofResult_bind_ok rfl]
    exact rest value rfl

@[simp] theorem on_forM_nil (body : α → OsCall σ Unit) :
    (([] : List α).forM body).on s = (.ok (), s) := rfl

theorem on_forM_cons {body : α → OsCall σ Unit} (first : α) (rest : List α) :
    ((first :: rest).forM body).on s =
    match (body first).on s with
    | (.ok _, after) => (rest.forM body).on after
    | (.error error, after) => (.error error, after) := by
  change (body first >>= fun _ => rest.forM body).on s = _
  rw [on_bind]
  rcases (body first).on s with ⟨result, after⟩
  cases result <;> rfl

/-! ## Loops -/

variable {body : α → OsCall σ Unit} {items : List α} {r : σ → σ → Prop}

/-- What relates the states around every turn relates the states around the loop. -/
theorem on_forM_related (refl : ∀ s, r s s) (trans : ∀ s between after, r s between →
    r between after → r s after) (each : ∀ item ∈ items, ∀ s, r s ((body item).on s).2) (s : σ) :
    r s ((items.forM body).on s).2 := by
  induction items generalizing s with
  | nil => exact refl s
  | cons first rest ih =>
    rw [on_forM_cons]
    have head := each first List.mem_cons_self s
    cases ran : (body first).on s with | mk result between =>
      rw [ran] at head
      cases result with
      | error error => exact head
      | ok => exact trans _ _ _ head (ih (fun item later => each item (.tail _ later)) between)

/-- A loop that ends has done every turn, and what a turn has done stays done. -/
theorem on_forM_done {done : α → σ → Prop} (refl : ∀ s, r s s) (trans : ∀ s between after,
    r s between → r between after → r s after)
    (each : ∀ item ∈ items, ∀ s, r s ((body item).on s).2)
    (does : ∀ item ∈ items, ∀ s after, (body item).on s = (.ok (), after) → done item after)
    (stays : ∀ item s after, r s after → done item s → done item after)
    (ran : (items.forM body).on s = (.ok (), after)) : ∀ item ∈ items, done item after := by
  induction items generalizing s with
  | nil => exact nofun
  | cons first rest ih =>
    rw [on_forM_cons] at ran
    have eachLater : ∀ item ∈ rest, ∀ s, r s ((body item).on s).2 :=
      fun item later => each item (.tail _ later)
    cases head : (body first).on s with | mk result between =>
      rw [head] at ran
      cases result with
      | error error => cases ran
      | ok =>
        replace ran : (rest.forM body).on between = (.ok (), after) := ran
        have later := on_forM_related refl trans eachLater between
        rw [ran] at later
        refine List.forall_mem_cons.mpr ⟨?_, ?_⟩
        · exact stays first between after later (does first List.mem_cons_self s between head)
        · exact ih eachLater (fun item later => does item (.tail _ later)) ran

/-! ## What calls leave alone -/

/-- A part of the state that the call never changes, whether it succeeds or not. -/
def Keeps {γ : Type} (view : σ → γ) (call : OsCall σ α) : Prop :=
  ∀ s, view (call.on s).2 = view s

section Keeps

variable {γ : Type} {view : σ → γ}

theorem Keeps.of_on {result : Result α} (keeps : call.Keeps view)
    (ran : call.on s = (result, after)) : view after = view s := by
  have same := keeps s
  rwa [ran] at same

theorem Keeps.pure (value : α) : (Pure.pure value : OsCall σ α).Keeps view := fun _ => rfl

theorem Keeps.ofResult (result : Result α) : (ofResult result : OsCall σ α).Keeps view :=
  fun _ => rfl

theorem Keeps.bind (first : call.Keeps view) (rest : ∀ value, (next value).Keeps view) :
    (call >>= next).Keeps view := by
  intro s
  rw [on_bind]
  cases ran : call.on s with | mk result between =>
    cases result with
    | error error => exact first.of_on ran
    | ok value => exact (rest value between).trans (first.of_on ran)

theorem Keeps.forM (each : ∀ item, (body item).Keeps view) : (items.forM body).Keeps view :=
  on_forM_related (r := fun s after => view after = view s) (fun _ => rfl)
    (fun _ _ _ first second => second.trans first) fun item _ => each item

theorem Keeps.optionForM {option : Option α} (each : ∀ value, (body value).Keeps view) :
    (option.forM body).Keeps view := by
  cases option with
  | none => exact .pure ()
  | some value => exact each value

end Keeps

/-! ## Calls on a part of the state -/

def onFst {τ : Type} (call : OsCall σ α) : OsCall (σ × τ) α :=
  ExceptT.mk fun (s, t) =>
    let (answer, after) := call.on s
    (answer, after, t)

@[simp] theorem on_onFst {τ : Type} (call : OsCall σ α) (s : σ) (t : τ) :
    (onFst call).on (s, t) = ((call.on s).1, (call.on s).2, t) := rfl

theorem onFst_on {τ : Type} {result : Result α} {t t' : τ} :
    (onFst call).on (s, t) = (result, after, t') ↔ call.on s = (result, after) ∧ t = t' := by
  rw [on_onFst]
  constructor
  · rintro ⟨⟩
    exact ⟨rfl, rfl⟩
  · rintro ⟨ran, rfl⟩
    rw [ran]

/-- What holds of calls on a part of the state holds of the calls on all of it. -/
theorem onFst_cases {τ : Type} {result : Result α} {s after : σ × τ}
    (ran : (onFst call).on s = (result, after)) :
    call.on s.1 = (result, after.1) ∧ s.2 = after.2 := onFst_on.mp ran

/-! ## Recorded calls -/

/-- The call, with every argument and its answer recorded beside the state. -/
def recorded {ι : Type} (call : ι → OsCall σ α) (argument : ι) :
    OsCall (σ × List (ι × Result α)) α :=
  ExceptT.mk fun (s, record) =>
    let (answer, after) := (call argument).on s
    (answer, after, record ++ [(argument, answer)])

@[simp] theorem on_recorded {ι : Type} (call : ι → OsCall σ α) (argument : ι)
    (record : List (ι × Result α)) :
    (recorded call argument).on (s, record) =
      (((call argument).on s).1, ((call argument).on s).2,
        record ++ [(argument, ((call argument).on s).1)]) := rfl

end OsCall

end QuincyTun.Foundation
