import QuincyTun.Foundation.Machine
import QuincyTun.Windows.Driver

/-! The life cycle of Wintun sessions: `enable`, `disable`, the calls that use a
session, and `drop`.

`State.lock` is held by one call at a time, whose position in its code is `critical`.
That position also says whether the call holds the session lock for writing. The
calls that hold it for reading are `readers`. Every step is one access to the shared
state or one call of the operating system, which may fail.
-/

set_option autoImplicit false

namespace QuincyTun.Windows

open QuincyTun.Foundation

/-! ## Positions in the code -/

/-- Where a call of `disable` or `enable` is that holds `State.lock`. -/
inductive CriticalPc where
  | disableCheck
  | disableStore
  | disableSignal
  | disableRollback
  | disableLock
  | disableTake
  | disableReset
  | enableCheck
  | enableLock
  | enableStart
  | enableWaitEvent (handle : Nat)
  | enableEnd (handle : Nat)
  | enableReplace (handle : Nat)
  | enableStore
  deriving DecidableEq, Repr

def CriticalPc.writes : CriticalPc → Bool
  | .disableTake | .enableStart | .enableWaitEvent _ | .enableEnd _ | .enableReplace _
  | .enableStore => true
  | _ => false

inductive SessionOp where
  | send (len : Nat)
  | trySend (len : Nat)
  | recv
  | tryRecv
  | waitReadable
  deriving DecidableEq, Repr

/-- Where a call is that holds the session lock for reading. -/
inductive ReaderPc where
  | look (op : SessionOp)
  | try_ (op : SessionOp) (handle : Nat)
  | commit (handle : Nat)
  | release (handle : Nat)
  | check (op : SessionOp) (handle : Nat)
  | wait (op : SessionOp) (handle : Nat)
  deriving DecidableEq, Repr

def ReaderPc.handle : ReaderPc → Option Nat
  | .look _ => none
  | .try_ _ handle | .commit handle | .release handle | .check _ handle | .wait _ handle =>
    some handle

/-! ## Calls of the driver -/

inductive SessionCall where
  | getReadWaitEvent
  | allocateSendPacket
  | sendPacket
  | receivePacket
  | releaseReceivePacket
  | waitForReadEvent
  deriving DecidableEq, Repr

inductive DriverCall where
  /-- A session was started while `stored` was in the slot. -/
  | startSession (stored result : Option Nat)
  | call (call : SessionCall) (handle : Nat)
  | endSession (handle : Nat)
  | closeAdapter
  | deleteDriver
  deriving DecidableEq, Repr

inductive Life where
  | alive
  | sessionDropped
  | closed
  deriving DecidableEq, Repr

structure AdapterState where
  /-- `State.state` -/
  enabled : Bool
  session : Option Nat
  eventSet : Bool
  critical : Option CriticalPc
  readers : List ReaderPc
  life : Life
  /-- How many sessions were started; their handles are the numbers below. -/
  started : Nat
  log : List DriverCall
  deriving DecidableEq, Repr

inductive OsAnswer where
  | success
  | wouldBlock
  | failure
  deriving DecidableEq, Repr

inductive AdapterAction where
  | disable
  | enable
  | advance (answer : OsAnswer)
  | read (op : SessionOp)
  | use (reader : Nat) (answer : OsAnswer)
  | dropSession
  | closeAdapter
  deriving DecidableEq, Repr

namespace AdapterState

def move (s : AdapterState) (pc : CriticalPc) : AdapterState := { s with critical := some pc }

def unlock (s : AdapterState) : AdapterState := { s with critical := none }

def record (s : AdapterState) (calls : List DriverCall) : AdapterState :=
  { s with log := s.log ++ calls }

/-- Dropping a `WinTunSession`, if there is one, ends it. -/
def endStored (s : AdapterState) : AdapterState :=
  { s.record (s.session.toList.map .endSession) with session := none }

def advance (s : AdapterState) (pc : CriticalPc) (answer : OsAnswer) : Option AdapterState :=
  match pc with
  | .disableCheck => some (if s.enabled then s.move .disableStore else s.unlock)
  | .disableStore => some { s.move .disableSignal with enabled := false }
  | .disableSignal =>
    if answer = .success then some { s.move .disableLock with eventSet := true }
    else some (s.move .disableRollback)
  | .disableRollback => some { s.unlock with enabled := true }
  | .disableLock => if s.readers = [] then some (s.move .disableTake) else none
  | .disableTake => some (s.endStored.move .disableReset)
  | .disableReset =>
    some { s.unlock with eventSet := if answer = .success then false else s.eventSet }
  | .enableCheck => some (if s.enabled then s.unlock else s.move .enableLock)
  | .enableLock => if s.readers = [] then some (s.move .enableStart) else none
  | .enableStart =>
    if answer = .success then
      some { (s.record [.startSession s.session (some s.started)]).move
        (.enableWaitEvent s.started) with started := s.started + 1 }
    else some (s.record [.startSession s.session none]).unlock
  | .enableWaitEvent handle =>
    let s := s.record [.call .getReadWaitEvent handle]
    some (s.move (if answer = .success then .enableReplace handle else .enableEnd handle))
  | .enableEnd handle => some (s.record [.endSession handle]).unlock
  | .enableReplace handle =>
    some { s.endStored.move .enableStore with session := some handle }
  | .enableStore => some { s.unlock with enabled := true }

/-- The next step of a call that holds the session lock for reading: the calls of the driver that
it makes and where it is afterwards, unless it returns. -/
def readerStep (s : AdapterState) (pc : ReaderPc) (answer : OsAnswer) :
    List DriverCall × Option ReaderPc :=
  match pc with
  | .look op =>
    match s.session with
    | some handle => ([], some (if op = .waitReadable then .wait op handle else .try_ op handle))
    | none => ([], none)
  | .try_ op handle =>
    match op with
    | .trySend len =>
      if len > u32Max then ([], none)
      else ([.call .allocateSendPacket handle],
        if answer = .success then some (.commit handle) else none)
    | .send len =>
      if len > u32Max then ([], none)
      else ([.call .allocateSendPacket handle],
        match answer with
        | .success => some (.commit handle)
        | .wouldBlock => some (.check op handle)
        | .failure => none)
    | .recv | .tryRecv | .waitReadable =>
      ([.call .receivePacket handle],
        if answer = .success then some (.release handle)
        else if answer = .wouldBlock ∧ op = .recv then some (.wait op handle)
        else none)
  | .commit handle => ([.call .sendPacket handle], none)
  | .release handle => ([.call .releaseReceivePacket handle], none)
  -- The flag is read, and then the clock and the interrupt event.
  | .check op handle =>
    ([], if s.enabled ∧ answer = .success then some (.try_ op handle) else none)
  -- Before it blocks, `recv` tries the ring several times.
  | .wait op handle =>
    if op = .recv ∧ answer = .wouldBlock then ([], some (.try_ op handle))
    else ([.call .waitForReadEvent handle],
      if op = .recv ∧ answer = .success then some (.try_ op handle) else none)

def use (s : AdapterState) (i : Nat) (pc : ReaderPc) (answer : OsAnswer) : AdapterState :=
  let (calls, next) := s.readerStep pc answer
  let s := s.record calls
  match next with
  | some pc => { s with readers := s.readers.set i pc }
  | none => { s with readers := s.readers.eraseIdx i }

def unused (s : AdapterState) : Prop := s.critical = none ∧ s.readers = []

instance (s : AdapterState) : Decidable s.unused := inferInstanceAs (Decidable (_ ∧ _))

def writing (s : AdapterState) : Bool := s.critical.any CriticalPc.writes

def step (deleteDriver : Bool) (s : AdapterState) : AdapterAction → Option AdapterState
  | .disable =>
    if s.life = .alive ∧ s.critical = none then some (s.move .disableCheck) else none
  | .enable =>
    if s.life = .alive ∧ s.critical = none then some (s.move .enableCheck) else none
  | .advance answer =>
    match s.critical with
    | some pc => s.advance pc answer
    | none => none
  | .read op =>
    if s.life = .alive ∧ s.writing = false then some { s with readers := s.readers ++ [.look op] }
    else none
  | .use i answer =>
    match s.readers[i]? with
    | some pc => some (s.use i pc answer)
    | none => none
  | .dropSession =>
    if s.life = .alive ∧ s.unused then some { s.endStored with life := .sessionDropped } else none
  | .closeAdapter =>
    if s.life = .sessionDropped then
      some { s.record (.closeAdapter :: if deleteDriver then [.deleteDriver] else []) with
        life := .closed }
    else none

end AdapterState

def adapterMachine (deleteDriver : Bool) : Machine AdapterState AdapterAction where
  start := ⟨false, none, false, none, [], .alive, 0, []⟩
  step := AdapterState.step deleteDriver

end QuincyTun.Windows
