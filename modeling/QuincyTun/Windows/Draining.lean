import Mathlib.Algebra.BigOperators.Group.List.Basic
import QuincyTun.Windows.LifeCycle

/-! Calls of `enable` and `disable` get the session lock.

They wait until no call uses the session any more. By then the flag is down and, if there is a
session to wait on, the event is set, so no such call sleeps and each returns after a few steps.
-/

set_option autoImplicit false

namespace QuincyTun.Windows

open QuincyTun.Foundation

variable {s s' : AdapterState} {deleteDriver : Bool} {action : AdapterAction}

/-! ## The event -/

/-- The event is set from the signal on, until the call of `disable` resets it. -/
def CriticalPc.signals : CriticalPc → Bool
  | .disableLock | .disableTake | .disableReset => true
  | _ => false

theorem AdapterInv.of_reachable (reached : (adapterMachine deleteDriver).Reachable s) :
    AdapterInv s :=
  reached.invariant (.isOpen ⟨rfl, rfl, nofun, nofun, ledger_nil⟩) fun _ _ _ inv _ stepped =>
    inv.step stepped

def AdapterState.signals (s : AdapterState) : Bool := s.critical.any CriticalPc.signals

theorem advance_event {pc : CriticalPc} {answer : OsAnswer}
    (stepped : s.advance pc answer = some s') :
    (pc = .disableSignal ∧ answer = .success ∧ s'.eventSet = true ∧ s'.signals = true) ∨
      (pc = .disableReset ∧ s'.signals = false ∧
        s'.eventSet = if answer = .success then false else s.eventSet) ∨
      (pc.signals = true ∧ pc ≠ .disableReset ∧ s'.eventSet = s.eventSet ∧ s'.signals = true) ∨
      (pc.signals = false ∧ s'.eventSet = s.eventSet ∧ s'.signals = false) := by
  cases pc with
  | disableSignal =>
    simp only [AdapterState.advance] at stepped
    split at stepped
    case isTrue success =>
      obtain rfl := Option.some.inj stepped
      exact .inl ⟨rfl, success, rfl, rfl⟩
    case isFalse =>
      obtain rfl := Option.some.inj stepped
      exact .inr (.inr (.inr ⟨rfl, rfl, rfl⟩))
  | disableLock =>
    obtain ⟨-, same⟩ := Option.ite_none_right_eq_some.mp stepped
    obtain rfl := Option.some.inj same
    exact .inr (.inr (.inl ⟨rfl, by decide, rfl, rfl⟩))
  | disableTake =>
    obtain rfl := Option.some.inj stepped
    exact .inr (.inr (.inl ⟨rfl, by decide, rfl, rfl⟩))
  | disableReset =>
    obtain rfl := Option.some.inj stepped
    exact .inr (.inl ⟨rfl, rfl, rfl⟩)
  | enableLock =>
    obtain ⟨-, same⟩ := Option.ite_none_right_eq_some.mp stepped
    obtain rfl := Option.some.inj same
    exact .inr (.inr (.inr ⟨rfl, rfl, rfl⟩))
  | disableCheck | enableCheck | enableWaitEvent =>
    obtain rfl := Option.some.inj stepped
    refine .inr (.inr (.inr ⟨rfl, ?_⟩))
    split <;> exact ⟨rfl, rfl⟩
  | enableStart =>
    simp only [AdapterState.advance] at stepped
    split at stepped <;> obtain rfl := Option.some.inj stepped <;>
      exact .inr (.inr (.inr ⟨rfl, rfl, rfl⟩))
  | disableStore | disableRollback | enableEnd | enableReplace | enableStore =>
    obtain rfl := Option.some.inj stepped
    exact .inr (.inr (.inr ⟨rfl, rfl, rfl⟩))

/-- Other steps leave the event alone, and begin only calls that have not signalled. -/
theorem step_event (stepped : s.step deleteDriver action = some s') :
    (∃ pc answer, s.critical = some pc ∧ action = .advance answer ∧ s.advance pc answer = some s') ∨
      s'.eventSet = s.eventSet ∧ (s'.critical = s.critical ∨ s.critical = none ∧ s'.signals = false) := by
  cases action with
  | disable | enable =>
    obtain ⟨⟨-, idle⟩, same⟩ := Option.ite_none_right_eq_some.mp stepped
    obtain rfl := Option.some.inj same
    exact .inr ⟨rfl, .inr ⟨idle, rfl⟩⟩
  | advance answer =>
    simp only [AdapterState.step] at stepped
    split at stepped
    case h_1 pc here => exact .inl ⟨pc, answer, here, rfl, stepped⟩
    case h_2 => cases stepped
  | read op | dropSession | closeAdapter =>
    obtain ⟨-, same⟩ := Option.ite_none_right_eq_some.mp stepped
    obtain rfl := Option.some.inj same
    exact .inr ⟨rfl, .inl rfl⟩
  | use i answer =>
    simp only [AdapterState.step] at stepped
    split at stepped
    case h_1 pc found =>
      obtain rfl := Option.some.inj stepped
      refine .inr ?_
      simp only [AdapterState.use]
      split <;> exact ⟨rfl, .inl rfl⟩
    case h_2 => cases stepped

def Signalled (s : AdapterState) : Prop := s.signals = true → s.eventSet = true

def Lowered (s : AdapterState) : Prop := s.eventSet = true → s.signals = true

def Resets (s : AdapterState) : AdapterAction → Prop
  | .advance answer => s.critical = some .disableReset → answer = .success
  | _ => True

instance (s : AdapterState) (action : AdapterAction) : Decidable (Resets s action) := by
  unfold Resets
  split <;> infer_instance

theorem signals_of_critical {pc : CriticalPc} (here : s.critical = some pc) :
    s.signals = pc.signals := by
  rw [AdapterState.signals, here]
  rfl

theorem Signalled.step (inv : Signalled s) (stepped : s.step deleteDriver action = some s') :
    Signalled s' := by
  intro signals
  rcases step_event stepped with ⟨pc, answer, here, -, advanced⟩ | ⟨same, moved⟩
  · rw [Signalled, signals_of_critical here] at inv
    rcases advance_event advanced with ⟨-, -, set, -⟩ | ⟨-, none, -⟩ | ⟨signalled, -, same, -⟩ |
      ⟨-, -, none⟩
    · exact set
    · cases none.symm.trans signals
    · exact same.trans (inv signalled)
    · cases none.symm.trans signals
  · rcases moved with kept | ⟨-, none⟩
    · rw [AdapterState.signals, kept] at signals
      exact same.trans (inv signals)
    · cases none.symm.trans signals

theorem Lowered.step (inv : Lowered s) (resets : Resets s action)
    (stepped : s.step deleteDriver action = some s') : Lowered s' := by
  intro set
  rcases step_event stepped with ⟨pc, answer, here, rfl, advanced⟩ | ⟨same, moved⟩
  · rw [Lowered, signals_of_critical here] at inv
    rcases advance_event advanced with ⟨-, -, -, signals⟩ | ⟨rfl, -, reset⟩ | ⟨-, -, -, signals⟩ |
      ⟨none, same, -⟩
    · exact signals
    · rw [resets here, if_pos rfl] at reset
      cases reset.symm.trans set
    · exact signals
    · cases none.symm.trans (inv (same.symm.trans set))
  · have signals := inv (same.symm.trans set)
    rcases moved with kept | ⟨idle, -⟩
    · rw [AdapterState.signals, kept]
      exact signals
    · rw [AdapterState.signals, idle] at signals
      cases signals

theorem Signalled.of_reachable (reached : (adapterMachine deleteDriver).Reachable s) :
    Signalled s :=
  reached.invariant (by intro none; cases none) fun _ _ _ inv _ stepped => inv.step stepped

/-- If the event is reset whenever that is asked for, it is set between the signal and the reset
and at no other time: no call is turned away after the adapter was enabled again. -/
theorem eventSet_iff (reached : (adapterMachine deleteDriver).Reaches Resets s) :
    s.eventSet = true ↔ s.signals = true := by
  have lowered : Lowered s :=
    reached.invariant (by intro none; cases none) fun _ _ _ inv resets stepped =>
      inv.step resets stepped
  exact ⟨lowered, Signalled.of_reachable reached.reachable⟩

def enabledTwice : List AdapterAction :=
  [.enable, .advance .success, .advance .success, .advance .success, .advance .success,
    .advance .success, .advance .success,
    .disable, .advance .success, .advance .success, .advance .success, .advance .success,
    .advance .success, .advance .success,
    .enable, .advance .success, .advance .success, .advance .success, .advance .success,
    .advance .success, .advance .success]

theorem eventSet_iff_enabledTwice : ∃ s, (adapterMachine false).Reaches Resets s ∧
    s.enabled = true ∧ s.session = some 1 ∧ (s.eventSet = true ↔ s.signals = true) := by
  have ran : (adapterMachine false).run Resets enabledTwice (adapterMachine false).start =
      some ⟨true, some 1, false, none, [], .alive, 2,
        [.startSession none (some 0), .call .getReadWaitEvent 0, .endSession 0,
          .startSession none (some 1), .call .getReadWaitEvent 1]⟩ := by
    decide +kernel
  have reached := Machine.Reaches.start.run ran
  exact ⟨_, reached, rfl, rfl, eventSet_iff reached⟩

/-! ## The calls that use the session -/

/-- How many more steps such a call makes if nothing more arrives. -/
def ReaderPc.left : ReaderPc → Nat
  | .look _ => 3
  | .try_ _ _ => 2
  | .commit _ | .release _ | .check _ _ | .wait _ _ => 1

/-- A call that uses the session goes on; if it waits for a packet, none has arrived. The attempts
that `recv` makes before it waits count as one. -/
def Leaves (s : AdapterState) : AdapterAction → Prop
  | .use i answer =>
    match s.readers[i]? with
    | some (.wait .recv _) => answer = .failure
    | _ => True
  | _ => False

instance (s : AdapterState) (action : AdapterAction) : Decidable (Leaves s action) := by
  unfold Leaves
  split
  · split <;> infer_instance
  · infer_instance

def AdapterState.left (s : AdapterState) : Nat := (s.readers.map ReaderPc.left).sum

def AwaitsLock (s : AdapterState) : Prop :=
  s.critical = some .disableLock ∨ s.critical = some .enableLock

theorem AwaitsLock.disabled (inv : OpenInv s) (awaits : AwaitsLock s) : s.enabled = false := by
  have flag := inv.flag
  rcases awaits with here | here
  · rw [here] at flag
    exact flag.1
  · rw [here] at flag
    exact flag.1

theorem AwaitsLock.use (awaits : AwaitsLock s) (i : Nat) (reader : ReaderPc) (answer : OsAnswer) :
    AwaitsLock (s.use i reader answer) := by
  simp only [AdapterState.use]
  split <;> exact awaits

theorem leaves_use {i : Nat} {reader : ReaderPc} {answer : OsAnswer}
    (found : s.readers[i]? = some reader) : Leaves s (.use i answer) ↔
      ∀ handle, reader = .wait .recv handle → answer = .failure := by
  simp only [Leaves, found]
  split
  case h_1 handle same =>
    obtain rfl := Option.some.inj same
    exact ⟨fun failed _ _ => failed, fun unheard => unheard handle rfl⟩
  case h_2 other =>
    exact iff_of_true trivial fun handle same => (other handle (congrArg some same)).elim

/-- The lock is free, or a call that uses the session can go on. -/
theorem AwaitsLock.progress (awaits : AwaitsLock s) (deleteDriver : Bool) :
    (∃ locked, s.step deleteDriver (.advance .success) = some locked ∧ locked.writing = true) ∨
      ∃ action, Leaves s action ∧ (s.step deleteDriver action).isSome := by
  cases readers : s.readers with
  | nil =>
    rcases awaits with here | here
    · exact .inl ⟨s.move .disableTake, by
        simp only [AdapterState.step, here, AdapterState.advance, readers, reduceIte], rfl⟩
    · exact .inl ⟨s.move .enableStart, by
        simp only [AdapterState.step, here, AdapterState.advance, readers, reduceIte], rfl⟩
  | cons reader rest =>
    have found : s.readers[0]? = some reader := by rw [readers]; rfl
    refine .inr ⟨.use 0 .failure, (leaves_use found).mpr fun _ _ => rfl, ?_⟩
    simp only [AdapterState.step, found]
    rfl

end QuincyTun.Windows
