import QuincyTun.Foundation.History
import QuincyTun.Windows.Session

/-! The life cycle of Wintun sessions is sound under every interleaving.

The calls of the driver form a log. Each is permitted by those before it: sessions
start only into an empty slot, are used only while they last, end once, and the
adapter is closed after all of them.
-/

set_option autoImplicit false

namespace QuincyTun.Windows

open QuincyTun.Foundation

variable {s s' : AdapterState} {started handle : Nat} {log : List DriverCall}
  {pc : CriticalPc} {answer : OsAnswer}

/-! ## Calls of the driver -/

def Permitted (earlier : List DriverCall) : DriverCall → Prop
  | .startSession stored _ => stored = none ∧ .closeAdapter ∉ earlier
  | .call _ handle | .endSession handle =>
    .startSession none (some handle) ∈ earlier ∧ .endSession handle ∉ earlier ∧
      .closeAdapter ∉ earlier
  | .closeAdapter => .closeAdapter ∉ earlier ∧
      ∀ handle, .startSession none (some handle) ∈ earlier → .endSession handle ∈ earlier
  | .deleteDriver => .closeAdapter ∈ earlier

/-- What the log says while the adapter is open: all sessions ended but the live one. -/
structure Ledger (started : Nat) (live : Option Nat) (log : List DriverCall) : Prop where
  lawful : Lawful Permitted log
  isOpen : .closeAdapter ∉ log
  begun : ∀ handle, .startSession none (some handle) ∈ log ↔ handle < started
  ended : ∀ handle, .endSession handle ∈ log ↔ handle < started ∧ live ≠ some handle
  within : ∀ handle, live = some handle → handle < started

theorem ledger_nil : Ledger 0 none [] where
  lawful := .nil
  isOpen := List.not_mem_nil
  begun := by simp
  ended := by simp
  within := nofun

namespace Ledger

theorem permits (ledger : Ledger started (some handle) log) :
    .startSession none (some handle) ∈ log ∧ .endSession handle ∉ log ∧ .closeAdapter ∉ log :=
  ⟨(ledger.begun handle).mpr (ledger.within handle rfl),
    fun ended => ((ledger.ended handle).mp ended).2 rfl, ledger.isOpen⟩

theorem call (ledger : Ledger started (some handle) log) (call : SessionCall) :
    Ledger started (some handle) (log ++ [.call call handle]) where
  lawful := ledger.lawful.concat ledger.permits
  isOpen := by simp [ledger.isOpen]
  begun := by simp [ledger.begun]
  ended := by simp [ledger.ended]
  within := ledger.within

theorem startFailed (ledger : Ledger started none log) :
    Ledger started none (log ++ [.startSession none none]) where
  lawful := ledger.lawful.concat ⟨rfl, ledger.isOpen⟩
  isOpen := by simp [ledger.isOpen]
  begun := by simp [ledger.begun]
  ended := by simp [ledger.ended]
  within := ledger.within

theorem start (ledger : Ledger started none log) :
    Ledger (started + 1) (some started) (log ++ [.startSession none (some started)]) where
  lawful := ledger.lawful.concat ⟨rfl, ledger.isOpen⟩
  isOpen := by simp [ledger.isOpen]
  begun handle := by
    simp only [List.mem_append, ledger.begun, List.mem_singleton, DriverCall.startSession.injEq,
      Option.some.injEq, true_and]
    omega
  ended handle := by
    simp only [List.mem_append, ledger.ended, List.mem_singleton, reduceCtorEq, or_false, ne_eq,
      not_false_eq_true, and_true, Option.some.injEq]
    omega
  within handle same := by
    have := Option.some.inj same
    omega

theorem endSession (ledger : Ledger started (some handle) log) :
    Ledger started none (log ++ [.endSession handle]) where
  lawful := ledger.lawful.concat ledger.permits
  isOpen := by simp [ledger.isOpen]
  begun := by simp [ledger.begun]
  ended other := by
    have bound := ledger.within handle rfl
    simp only [List.mem_append, ledger.ended, List.mem_singleton, DriverCall.endSession.injEq,
      ne_eq, Option.some.injEq, reduceCtorEq, not_false_eq_true, and_true]
    omega
  within := nofun

theorem allEnded (ledger : Ledger started none log)
    (begun : .startSession none (some handle) ∈ log) : .endSession handle ∈ log :=
  (ledger.ended handle).mpr ⟨(ledger.begun handle).mp begun, nofun⟩

end Ledger

/-! ## The states of an open adapter -/

/-- The session that a call of `enable` started and did not store yet. -/
def CriticalPc.holds : CriticalPc → Option Nat
  | .enableWaitEvent handle | .enableEnd handle | .enableReplace handle => some handle
  | _ => none

def AdapterState.live (s : AdapterState) : Option Nat :=
  (s.critical.bind CriticalPc.holds).or s.session

/-- What the position of the call that holds `State.lock` says of the flag and the slot. -/
def FlagAgrees (enabled : Bool) (session : Option Nat) : Option CriticalPc → Prop
  | none | some .disableCheck | some .enableCheck => enabled = session.isSome
  | some .disableStore => enabled = true ∧ session.isSome = true
  | some .disableSignal | some .disableRollback | some .disableLock | some .disableTake
  | some .enableStore => enabled = false ∧ session.isSome = true
  | some .disableReset | some .enableLock | some .enableStart | some (.enableWaitEvent _)
  | some (.enableEnd _) | some (.enableReplace _) => enabled = false ∧ session = none

structure OpenInv (s : AdapterState) : Prop where
  life : s.life = .alive
  flag : FlagAgrees s.enabled s.session s.critical
  readers : ∀ pc ∈ s.readers, ∀ handle, pc.handle = some handle → s.session = some handle
  writing : s.writing = true → s.readers = []
  ledger : Ledger s.started s.live s.log

namespace OpenInv

theorem moved (inv : OpenInv s) {critical : Option CriticalPc} {enabled eventSet : Bool}
    (flag : FlagAgrees enabled s.session critical)
    (writing : critical.any CriticalPc.writes = true → s.readers = [])
    (holds : s.critical.bind CriticalPc.holds = critical.bind CriticalPc.holds) :
    OpenInv { s with critical, enabled, eventSet } where
  life := inv.life
  flag := flag
  readers := inv.readers
  writing := writing
  ledger := by
    have ledger := inv.ledger
    rwa [AdapterState.live, holds] at ledger

theorem atPc (inv : OpenInv s) (here : s.critical = some pc) :
    FlagAgrees s.enabled s.session (some pc) ∧ (pc.writes = true → s.readers = []) := by
  refine ⟨here ▸ inv.flag, fun writes => inv.writing ?_⟩
  rw [AdapterState.writing, here]
  exact writes

theorem disableTake (inv : OpenInv s) (here : s.critical = some .disableTake) :
    OpenInv (s.endStored.move .disableReset) := by
  obtain ⟨⟨disabled, stored⟩, unread⟩ := inv.atPc here
  obtain ⟨handle, session⟩ := Option.isSome_iff_exists.mp stored
  have live : s.live = some handle := by rw [AdapterState.live, here, session]; rfl
  have ledger := inv.ledger
  rw [live] at ledger
  refine ⟨inv.life, ⟨disabled, rfl⟩, ?_, nofun, ?_⟩
  -- The write lock is held, so no reader still has the handle that is taken.
  · intro pc reads
    exact absurd ((unread rfl : s.readers = []) ▸ reads) List.not_mem_nil
  · have longer : s.endStored.log = s.log ++ [.endSession handle] := by
      rw [AdapterState.endStored, session]
      rfl
    change Ledger s.started none s.endStored.log
    rw [longer]
    exact ledger.endSession

theorem enableStart (inv : OpenInv s) (here : s.critical = some .enableStart)
    (stepped : s.advance .enableStart answer = some s') : OpenInv s' := by
  obtain ⟨⟨disabled, empty⟩, unread⟩ := inv.atPc here
  have live : s.live = none := by rw [AdapterState.live, here, empty]; rfl
  have ledger := inv.ledger
  rw [live] at ledger
  simp only [AdapterState.advance, empty] at stepped
  split at stepped
  case isTrue =>
    obtain rfl := Option.some.inj stepped
    exact ⟨inv.life, ⟨disabled, empty⟩, inv.readers, fun _ => unread rfl, ledger.start⟩
  case isFalse =>
    obtain rfl := Option.some.inj stepped
    refine ⟨inv.life, ?_, inv.readers, nofun, ?_⟩
    · change s.enabled = s.session.isSome
      rw [disabled, empty]
      rfl
    · change Ledger s.started s.session (s.log ++ [.startSession none none])
      rw [empty]
      exact ledger.startFailed

theorem enableWaitEvent (inv : OpenInv s) (here : s.critical = some (.enableWaitEvent handle))
    (stepped : s.advance (.enableWaitEvent handle) answer = some s') : OpenInv s' := by
  obtain ⟨flag, unread⟩ := inv.atPc here
  have ledger := inv.ledger
  rw [AdapterState.live, here] at ledger
  obtain rfl := Option.some.inj stepped
  split
  case isTrue => exact ⟨inv.life, flag, inv.readers, fun _ => unread rfl, ledger.call _⟩
  case isFalse => exact ⟨inv.life, flag, inv.readers, fun _ => unread rfl, ledger.call _⟩

theorem enableEnd (inv : OpenInv s) (here : s.critical = some (.enableEnd handle)) :
    OpenInv (s.record [.endSession handle]).unlock := by
  obtain ⟨⟨disabled, empty⟩, -⟩ := inv.atPc here
  have ledger := inv.ledger
  rw [AdapterState.live, here] at ledger
  refine ⟨inv.life, ?_, inv.readers, nofun, ?_⟩
  · change s.enabled = s.session.isSome
    rw [disabled, empty]
    rfl
  · change Ledger s.started s.session (s.log ++ [.endSession handle])
    rw [empty]
    exact ledger.endSession

theorem enableReplace (inv : OpenInv s) (here : s.critical = some (.enableReplace handle)) :
    OpenInv { s.endStored.move .enableStore with session := some handle } := by
  obtain ⟨⟨disabled, empty⟩, unread⟩ := inv.atPc here
  have ledger := inv.ledger
  rw [AdapterState.live, here] at ledger
  refine ⟨inv.life, ⟨disabled, rfl⟩, ?_, fun _ => unread rfl, ?_⟩
  · intro pc reads
    exact absurd ((unread rfl : s.readers = []) ▸ reads) List.not_mem_nil
  -- Replacing the stored session would end it, but the slot is empty here.
  · have sameLog : s.endStored.log = s.log := by
      rw [AdapterState.endStored, empty]
      exact List.append_nil _
    change Ledger s.started (some handle) s.endStored.log
    rwa [sameLog]

theorem advance (inv : OpenInv s) (here : s.critical = some pc)
    (stepped : s.advance pc answer = some s') : OpenInv s' := by
  obtain ⟨flag, unread⟩ := inv.atPc here
  -- Most positions only move on; those that touch the slot or the log have lemmas of their own.
  cases pc with
  | disableCheck =>
    obtain rfl := Option.some.inj stepped
    split
    case isTrue on => exact inv.moved ⟨on, flag ▸ on⟩ nofun (by rw [here]; rfl)
    case isFalse => exact inv.moved flag nofun (by rw [here]; rfl)
  | disableStore =>
    obtain rfl := Option.some.inj stepped
    exact inv.moved ⟨rfl, flag.2⟩ nofun (by rw [here]; rfl)
  | disableSignal =>
    simp only [AdapterState.advance] at stepped
    split at stepped
    case isTrue =>
      obtain rfl := Option.some.inj stepped
      exact inv.moved flag nofun (by rw [here]; rfl)
    case isFalse =>
      obtain rfl := Option.some.inj stepped
      exact inv.moved flag nofun (by rw [here]; rfl)
  | disableRollback =>
    obtain rfl := Option.some.inj stepped
    exact inv.moved flag.2.symm nofun (by rw [here]; rfl)
  | disableLock =>
    simp only [AdapterState.advance] at stepped
    split at stepped
    case isTrue none =>
      obtain rfl := Option.some.inj stepped
      exact inv.moved flag (fun _ => none) (by rw [here]; rfl)
    case isFalse => cases stepped
  | disableTake => exact Option.some.inj stepped ▸ inv.disableTake here
  | disableReset =>
    obtain rfl := Option.some.inj stepped
    refine inv.moved ?_ nofun (by rw [here]; rfl)
    change s.enabled = s.session.isSome
    rw [flag.1, flag.2]
    rfl
  | enableCheck =>
    obtain rfl := Option.some.inj stepped
    split
    case isTrue => exact inv.moved flag nofun (by rw [here]; rfl)
    case isFalse off =>
      have disabled : s.enabled = false := Bool.not_eq_true _ ▸ off
      refine inv.moved ⟨disabled, ?_⟩ nofun (by rw [here]; rfl)
      exact Option.not_isSome_iff_eq_none.mp (flag ▸ off)
  | enableLock =>
    simp only [AdapterState.advance] at stepped
    split at stepped
    case isTrue none =>
      obtain rfl := Option.some.inj stepped
      exact inv.moved flag (fun _ => none) (by rw [here]; rfl)
    case isFalse => cases stepped
  | enableStart => exact inv.enableStart here stepped
  | enableWaitEvent handle => exact inv.enableWaitEvent here stepped
  | enableEnd handle => exact Option.some.inj stepped ▸ inv.enableEnd here
  | enableReplace handle => exact Option.some.inj stepped ▸ inv.enableReplace here
  | enableStore =>
    obtain rfl := Option.some.inj stepped
    exact inv.moved flag.2.symm nofun (by rw [here]; rfl)

theorem enter (inv : OpenInv s) (idle : s.critical = none)
    (first : pc = .disableCheck ∨ pc = .enableCheck) : OpenInv (s.move pc) := by
  have flag := inv.flag
  rw [idle] at flag
  rcases first with rfl | rfl
  · exact inv.moved flag nofun (by rw [idle]; rfl)
  · exact inv.moved flag nofun (by rw [idle]; rfl)

end OpenInv

/-! ## Calls that use a session -/

theorem CriticalPc.writes_of_holds (holds : pc.holds = some handle) : pc.writes = true := by
  cases pc with
  | enableWaitEvent | enableEnd | enableReplace => rfl
  | _ => cases holds

/-- A reader uses the driver through the handle that it has, and gets its handle from the slot. -/
theorem AdapterState.readerStep_spec (s : AdapterState) (reader : ReaderPc) (answer : OsAnswer) :
    ((s.readerStep reader answer).1 = [] ∨ ∃ call handle, reader.handle = some handle ∧
      (s.readerStep reader answer).1 = [.call call handle]) ∧
    ∀ after, (s.readerStep reader answer).2 = some after →
      after.handle = reader.handle ∨ after.handle = s.session := by
  cases reader with
  | look op =>
    cases session : s.session with
    | none =>
      simp only [AdapterState.readerStep, session]
      exact ⟨.inl trivial, nofun⟩
    | some handle =>
      simp only [AdapterState.readerStep, session]
      refine ⟨.inl trivial, ?_⟩
      rintro after next
      rw [← Option.some.inj next]
      split
      · exact .inr rfl
      · exact .inr rfl
  -- From here on the reader works on the handle that it has looked up.
  | try_ op handle =>
    cases op with
    | send len | trySend len =>
      by_cases long : len > u32Max
      · simp only [AdapterState.readerStep, if_pos long]
        exact ⟨.inl trivial, nofun⟩
      · simp only [AdapterState.readerStep, if_neg long]
        refine ⟨.inr ⟨_, handle, rfl, rfl⟩, fun after next => .inl ?_⟩
        cases answer <;> cases next <;> rfl
    | recv | tryRecv | waitReadable =>
      refine ⟨.inr ⟨_, handle, rfl, rfl⟩, fun after next => .inl ?_⟩
      cases answer <;> cases next <;> rfl
  | commit handle => exact ⟨.inr ⟨_, handle, rfl, rfl⟩, nofun⟩
  | release handle => exact ⟨.inr ⟨_, handle, rfl, rfl⟩, nofun⟩
  | check op handle =>
    refine ⟨.inl rfl, fun after next => .inl ?_⟩
    obtain ⟨-, same⟩ := Option.ite_none_right_eq_some.mp next
    rw [← Option.some.inj same]
    rfl
  | wait op handle =>
    simp only [AdapterState.readerStep]
    split
    case isTrue =>
      refine ⟨.inl rfl, fun after next => .inl ?_⟩
      rw [← Option.some.inj next]
      rfl
    case isFalse =>
      refine ⟨.inr ⟨_, handle, rfl, rfl⟩, fun after next => .inl ?_⟩
      obtain ⟨-, same⟩ := Option.ite_none_right_eq_some.mp next
      rw [← Option.some.inj same]
      rfl

namespace OpenInv

/-- While calls use the session, it is the one in the slot that is live. -/
theorem live_of_reader (inv : OpenInv s) {reader : ReaderPc} (reads : reader ∈ s.readers) :
    s.live = s.session := by
  have holdsNone : s.critical.bind CriticalPc.holds = none := by
    rw [Option.eq_none_iff_forall_not_mem]
    intro handle held
    obtain ⟨pc, here, holds⟩ := Option.bind_eq_some_iff.mp held
    have unread := (inv.atPc here).2 (CriticalPc.writes_of_holds holds)
    exact absurd (unread ▸ reads) List.not_mem_nil
  rw [AdapterState.live, holdsNone]
  rfl

theorem reading (inv : OpenInv s) {reader : ReaderPc} (reads : reader ∈ s.readers)
    {readers : List ReaderPc}
    (handles : ∀ pc ∈ readers, ∀ handle, pc.handle = some handle → s.session = some handle)
    (ledger : Ledger s.started s.live log) : OpenInv { s with readers, log } where
  life := inv.life
  flag := inv.flag
  readers := handles
  writing writes := absurd (inv.writing writes ▸ reads) List.not_mem_nil
  ledger := ledger

theorem use (inv : OpenInv s) {i : Nat} {reader : ReaderPc} (found : s.readers[i]? = some reader) :
    OpenInv (s.use i reader answer) := by
  have reads := List.mem_of_getElem? found
  obtain ⟨calls, next⟩ := s.readerStep_spec reader answer
  have ledger : Ledger s.started s.live (s.record (s.readerStep reader answer).1).log := by
    rcases calls with nothing | ⟨call, handle, has, made⟩
    · rw [nothing, AdapterState.record, List.append_nil]
      exact inv.ledger
    · have live : s.live = some handle :=
        (inv.live_of_reader reads).trans (inv.readers reader reads handle has)
      have ledger := inv.ledger
      rw [live] at ledger ⊢
      rw [made]
      exact ledger.call call
  simp only [AdapterState.use]
  split
  case h_2 =>
    exact inv.reading reads (fun pc among => inv.readers pc (List.mem_of_mem_eraseIdx among)) ledger
  case h_1 moved after =>
    refine inv.reading reads (fun pc among handle has => ?_) ledger
    rcases List.mem_or_eq_of_mem_set among with before | rfl
    · exact inv.readers pc before handle has
    · rcases next pc after with same | same
      · exact inv.readers reader reads handle (same ▸ has)
      · exact same ▸ has

theorem read (inv : OpenInv s) (op : SessionOp) (unwritten : s.writing = false) :
    OpenInv { s with readers := s.readers ++ [.look op] } where
  life := inv.life
  flag := inv.flag
  readers pc among handle has := by
    rcases List.mem_append.mp among with before | new
    · exact inv.readers pc before handle has
    · rw [List.mem_singleton.mp new] at has
      cases has
  writing writes := absurd (writes : s.writing = true) (Bool.not_eq_true _ ▸ unwritten)
  ledger := inv.ledger

end OpenInv

/-! ## Dropping the adapter -/

inductive AdapterInv (s : AdapterState) : Prop
  | isOpen (inv : OpenInv s)
  | sessionDropped (here : s.life = .sessionDropped) (unused : s.unused) (empty : s.session = none)
      (ledger : Ledger s.started none s.log)
  | closed (here : s.life = .closed) (unused : s.unused) (empty : s.session = none)
      (lawful : Lawful Permitted s.log)
      (ended : ∀ handle, .startSession none (some handle) ∈ s.log → .endSession handle ∈ s.log)

theorem OpenInv.dropSession (inv : OpenInv s) (unused : s.unused) :
    AdapterInv { s.endStored with life := .sessionDropped } := by
  refine .sessionDropped rfl unused rfl ?_
  have ledger := inv.ledger
  rw [AdapterState.live, unused.1] at ledger
  rw [AdapterState.endStored]
  cases session : s.session with
  | none =>
    rw [session] at ledger
    change Ledger s.started none (s.log ++ [])
    rw [List.append_nil]
    exact ledger
  | some handle =>
    rw [session] at ledger
    exact ledger.endSession

theorem lawful_close {deleteDriver : Bool} (ledger : Ledger started none log) :
    Lawful Permitted
      (log ++ .closeAdapter :: if deleteDriver then [.deleteDriver] else []) := by
  have closed : Lawful Permitted (log ++ [.closeAdapter]) :=
    ledger.lawful.concat ⟨ledger.isOpen, fun _ => ledger.allEnded⟩
  cases deleteDriver with
  | false => exact closed
  | true =>
    have both := closed.concat (show Permitted _ .deleteDriver from
      List.mem_append_right _ (List.mem_singleton_self _))
    rwa [List.append_assoc] at both

namespace AdapterInv

variable {deleteDriver : Bool} {action : AdapterAction}

/-- A dropped adapter is not used any more; only `drop` itself goes on. -/
theorem step_of_unused (unused : s.unused) (dropped : s.life ≠ .alive)
    (stepped : s.step deleteDriver action = some s') :
    action = .closeAdapter ∧ s.life = .sessionDropped := by
  cases action with
  | disable | enable | read op | dropSession =>
    obtain ⟨⟨alive, -⟩, -⟩ := Option.ite_none_right_eq_some.mp stepped
    exact absurd alive dropped
  | advance answer =>
    simp only [AdapterState.step, unused.1] at stepped
    cases stepped
  | use i answer =>
    simp only [AdapterState.step, unused.2, List.getElem?_nil] at stepped
    cases stepped
  | closeAdapter => exact ⟨rfl, (Option.ite_none_right_eq_some.mp stepped).1⟩

theorem step (inv : AdapterInv s) (stepped : s.step deleteDriver action = some s') :
    AdapterInv s' := by
  cases inv with
  | isOpen inv =>
    cases action with
    | disable =>
      obtain ⟨⟨-, idle⟩, same⟩ := Option.ite_none_right_eq_some.mp stepped
      exact .isOpen (Option.some.inj same ▸ inv.enter idle (.inl rfl))
    | enable =>
      obtain ⟨⟨-, idle⟩, same⟩ := Option.ite_none_right_eq_some.mp stepped
      exact .isOpen (Option.some.inj same ▸ inv.enter idle (.inr rfl))
    | advance answer =>
      simp only [AdapterState.step] at stepped
      split at stepped
      case h_1 pc here => exact .isOpen (inv.advance here stepped)
      case h_2 => cases stepped
    | read op =>
      obtain ⟨⟨-, unwritten⟩, same⟩ := Option.ite_none_right_eq_some.mp stepped
      exact .isOpen (Option.some.inj same ▸ inv.read op unwritten)
    | use i answer =>
      simp only [AdapterState.step] at stepped
      split at stepped
      case h_1 reader found => exact .isOpen (Option.some.inj stepped ▸ inv.use found)
      case h_2 => cases stepped
    | dropSession =>
      obtain ⟨⟨-, unused⟩, same⟩ := Option.ite_none_right_eq_some.mp stepped
      exact Option.some.inj same ▸ inv.dropSession unused
    | closeAdapter =>
      obtain ⟨dropped, -⟩ := Option.ite_none_right_eq_some.mp stepped
      rw [inv.life] at dropped
      cases dropped
  | sessionDropped here unused empty ledger =>
    obtain ⟨rfl, -⟩ := step_of_unused unused (here ▸ nofun) stepped
    obtain ⟨-, same⟩ := Option.ite_none_right_eq_some.mp stepped
    obtain rfl := Option.some.inj same
    -- Closing starts and ends no session, so those of the ledger are all there are.
    refine .closed rfl unused empty (lawful_close ledger) fun handle begun => ?_
    refine List.mem_append_left _ (ledger.allEnded ?_)
    rcases List.mem_append.mp begun with before | closing
    · exact before
    · cases deleteDriver <;> simp at closing
  | closed here unused =>
    obtain ⟨-, dropped⟩ := step_of_unused unused (here ▸ nofun) stepped
    rw [here] at dropped
    cases dropped

theorem lawful (inv : AdapterInv s) : Lawful Permitted s.log := by
  cases inv with
  | isOpen inv => exact inv.ledger.lawful
  | sessionDropped _ _ _ ledger => exact ledger.lawful
  | closed _ _ _ lawful => exact lawful

theorem live_of_unused (unused : s.unused) (empty : s.session = none) : s.live = none := by
  rw [AdapterState.live, unused.1, empty]
  rfl

theorem ended_iff (inv : AdapterInv s) (begun : .startSession none (some handle) ∈ s.log) :
    .endSession handle ∈ s.log ↔ s.live ≠ some handle := by
  cases inv with
  | isOpen inv =>
    rw [inv.ledger.ended]
    exact and_iff_right ((inv.ledger.begun handle).mp begun)
  | sessionDropped _ unused empty ledger =>
    rw [live_of_unused unused empty]
    exact iff_of_true (ledger.allEnded begun) nofun
  | closed _ unused empty _ ended =>
    rw [live_of_unused unused empty]
    exact iff_of_true (ended handle begun) nofun

end AdapterInv

/-- The flag says whether a session is stored, unless a call of `enable` or `disable` is on its way;
sessions start only into an empty slot, and are used only until they end; every session that was
started ends exactly once, unless it is live still; and the adapter is closed after all of them. -/
theorem session_lifeCycle {deleteDriver : Bool}
    (reached : (adapterMachine deleteDriver).Reachable s) :
    (s.life = .alive → s.critical = none → s.enabled = s.session.isSome) ∧
      Lawful Permitted s.log ∧
      (∀ handle, .startSession none (some handle) ∈ s.log →
        s.log.count (.endSession handle) = if s.live = some handle then 0 else 1) ∧
      (s.life ≠ .alive → s.live = none) := by
  have inv : AdapterInv s := by
    refine reached.invariant (.isOpen ?_) fun _ _ _ inv _ stepped => inv.step stepped
    exact ⟨rfl, rfl, nofun, nofun, ledger_nil⟩
  refine ⟨fun alive idle => ?_, inv.lawful, fun handle begun => ?_, fun dropped => ?_⟩
  · cases inv with
    | isOpen inv => exact (idle ▸ inv.flag : FlagAgrees s.enabled s.session none)
    | sessionDropped here => exact nomatch alive.symm.trans here
    | closed here => exact nomatch alive.symm.trans here
  -- A lawful log ends a session once at most, so the count says whether it has ended.
  · have once : s.log.count (.endSession handle) ≤ 1 :=
      inv.lawful.count_le_one fun _ permitted => permitted.2.1
    have ended := inv.ended_iff begun
    rw [← List.count_pos_iff] at ended
    split
    case isTrue live =>
      have := mt ended.mp (not_not_intro live)
      omega
    case isFalse dead =>
      have := ended.mpr dead
      omega
  · cases inv with
    | isOpen inv => exact absurd inv.life dropped
    | sessionDropped _ unused empty => exact AdapterInv.live_of_unused unused empty
    | closed _ unused empty => exact AdapterInv.live_of_unused unused empty

/-- The read event of the first session is not available, and the event that interrupts readers
cannot be set while the second one is in use. -/
def failingCalls : List AdapterAction :=
  [.enable, .advance .success, .advance .success, .advance .success, .advance .failure,
    .advance .success,
    .enable, .advance .success, .advance .success, .advance .success, .advance .success,
    .advance .success, .advance .success,
    .read .recv, .use 0 .success, .use 0 .success,
    .disable, .advance .success, .advance .success, .advance .failure, .advance .success,
    .use 0 .success, .dropSession, .closeAdapter]

theorem session_lifeCycle_failing : ∃ s, (adapterMachine false).Reachable s ∧
    s.log = [.startSession none (some 0), .call .getReadWaitEvent 0, .endSession 0,
      .startSession none (some 1), .call .getReadWaitEvent 1, .call .receivePacket 1,
      .call .releaseReceivePacket 1, .endSession 1, .closeAdapter] ∧
    Lawful Permitted s.log ∧ s.log.count (.endSession 1) = 1 ∧ s.live = none := by
  have ran : (adapterMachine false).run (fun _ _ => True) failingCalls
      (adapterMachine false).start =
      some ⟨true, none, false, none, [], .closed, 2,
        [.startSession none (some 0), .call .getReadWaitEvent 0, .endSession 0,
          .startSession none (some 1), .call .getReadWaitEvent 1, .call .receivePacket 1,
          .call .releaseReceivePacket 1, .endSession 1, .closeAdapter]⟩ := by
    decide +kernel
  have reached := Machine.Reaches.start.run ran
  obtain ⟨-, lawful, once, dropped⟩ := session_lifeCycle reached
  exact ⟨_, reached, rfl, lawful, once 1 (by decide), dropped nofun⟩

end QuincyTun.Windows
