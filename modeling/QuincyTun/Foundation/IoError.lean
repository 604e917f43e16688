import QuincyTun.Foundation.Panic

/-! Errors that calls return to their callers, apart from panics. -/

set_option autoImplicit false

namespace QuincyTun.Foundation

inductive ErrorKind where
  | invalidInput
  | invalidData
  | wouldBlock
  | writeZero
  | unexpectedEof
  | timedOut
  | alreadyExists
  | other
  /-- An error number of the operating system. -/
  | os (code : Nat)
  deriving DecidableEq, Repr

structure IoError where
  kind : ErrorKind
  message : String
  deriving DecidableEq, Repr

abbrev Result (α : Type) := Except IoError α

def invalidInput {α : Type} (message : String) : Result α := .error ⟨.invalidInput, message⟩

def invalidData {α : Type} (message : String) : Result α := .error ⟨.invalidData, message⟩

def otherError {α : Type} (message : String) : Result α := .error ⟨.other, message⟩

def errorOf {α : Type} (kind : ErrorKind) : Result α := .error ⟨kind, ""⟩

def finalState {σ α : Type} : Run (σ × Result α) → Option σ
  | .ok (s, .ok _) => some s
  | _ => none

section FinalState

variable {σ α γ : Type} {run : Run (σ × Result α)}

theorem finalState_eq_some {s : σ} (found : finalState run = some s) :
    ∃ value, run = .ok (s, .ok value) := by
  unfold finalState at found
  split at found
  · exact ⟨_, by rw [Option.some.inj found]⟩
  · cases found

theorem of_finalState_map {f : σ → γ} {view : γ} (seen : (finalState run).map f = some view) :
    ∃ s value, run = .ok (s, .ok value) ∧ f s = view := by
  obtain ⟨s, found, same⟩ := Option.map_eq_some_iff.mp seen
  obtain ⟨value, ran⟩ := finalState_eq_some found
  exact ⟨s, value, ran, same⟩

end FinalState

end QuincyTun.Foundation
