import QuincyTun.Foundation.Machine
import QuincyTun.Windows.Driver

/-! Polled sending: calls of `poll_send` share one slot for a background task.

An attempt is a series of calls with one packet. A call holds the lock of the slot
from its start to its result; background tasks make progress at any time. The
machine records which attempt a packet that reached the driver belongs to.
-/

set_option autoImplicit false

namespace QuincyTun.Windows

open QuincyTun.Foundation

inductive TaskStatus where
  | running
  | returning (result : Result Nat)
  | finished (result : Result Nat)
  deriving DecidableEq

/-- A call of `device.send` on a copy of the packet of the attempt that spawned it. -/
structure SendTask where
  owner : Nat
  packet : List UInt8
  status : TaskStatus
  deriving DecidableEq

inductive AttemptStatus where
  | fresh
  | pending
  | ready (result : Result Nat)
  | abandoned
  deriving DecidableEq

structure SendAttempt where
  packet : List UInt8
  status : AttemptStatus
  deriving DecidableEq

/-- `send_task_lock`. A call that holds it has taken the task out of the slot. -/
inductive SendLock where
  | free (slot : Option SendTask)
  | held (attempt : Nat) (task : SendTask)
  deriving DecidableEq

structure SendState where
  lock : SendLock
  attempts : List SendAttempt
  /-- The packets that reached the driver, and the attempts whose packets they are. -/
  handed : List (Nat × List UInt8)
  deriving DecidableEq

inductive SendAction where
  | begin (packet : List UInt8)
  | enter (attempt : Nat) (answer : SendAnswer)
  | leave
  | drive (answer : SendAnswer) (wait : SendWait)
  | complete
  | abandon (attempt : Nat)
  deriving DecidableEq

namespace SendState

def handedOf (s : SendState) (attempt : Nat) : List (List UInt8) :=
  (s.handed.filter fun entry => entry.1 = attempt).map Prod.snd

def setStatus (s : SendState) (attempt : Nat) (status : AttemptStatus) : SendState :=
  { s with attempts := s.attempts.modify attempt fun a => { a with status } }

def hand (s : SendState) (attempt : Nat) (packet : Option (List UInt8)) : SendState :=
  { s with handed := s.handed ++ (packet.map fun bytes => (attempt, bytes)).toList }

def task (s : SendState) : Option SendTask :=
  match s.lock with
  | .free slot => slot
  | .held _ task => some task

def isPolling (s : SendState) (a : Nat) : Bool :=
  match s.lock with
  | .free _ => false
  | .held attempt _ => attempt == a

def setTask (s : SendState) (status : TaskStatus) : SendState :=
  match s.lock with
  | .free slot => { s with lock := .free (slot.map fun task => { task with status }) }
  | .held attempt task => { s with lock := .held attempt { task with status } }

/-- The start of a call: take the task, or try to send and spawn one if that would block. -/
def enter (s : SendState) (a : Nat) (packet : List UInt8) (slot : Option SendTask)
    (answer : SendAnswer) : SendState :=
  match slot with
  | some task => { s with lock := .held a task }
  | none =>
    let (handed, result) := trySend packet answer
    if isWouldBlock result then { s with lock := .held a ⟨a, packet, .running⟩ }
    else (s.hand a handed).setStatus a (.ready result)

/-- The end of a call that holds a task: the task is done, or it goes back to the slot. -/
def leave (s : SendState) (a : Nat) (task : SendTask) : SendState :=
  match task.status with
  | .finished result => { s with lock := .free none }.setStatus a (.ready result)
  | .running | .returning _ => { s with lock := .free (some task) }.setStatus a .pending

def drive (s : SendState) (task : SendTask) (answer : SendAnswer) (wait : SendWait) : SendState :=
  match sendRound task.packet answer wait with
  | (handed, some result) => (s.hand task.owner handed).setTask (.returning result)
  | (handed, none) => s.hand task.owner handed

def step (s : SendState) : SendAction → Option SendState
  | .begin packet => some { s with attempts := s.attempts ++ [⟨packet, .fresh⟩] }
  | .enter a answer =>
    match s.lock, s.attempts[a]? with
    | .free slot, some ⟨packet, .fresh⟩ | .free slot, some ⟨packet, .pending⟩ =>
      some (s.enter a packet slot answer)
    | _, _ => none
  | .leave =>
    match s.lock with
    | .held a task => some (s.leave a task)
    | .free _ => none
  | .drive answer wait =>
    match s.task with
    | some ⟨owner, packet, .running⟩ => some (s.drive ⟨owner, packet, .running⟩ answer wait)
    | _ => none
  | .complete =>
    match s.task with
    | some ⟨_, _, .returning result⟩ => some (s.setTask (.finished result))
    | _ => none
  | .abandon a =>
    match s.attempts[a]? with
    | some ⟨_, .pending⟩ => if s.isPolling a then none else some (s.setStatus a .abandoned)
    | _ => none

end SendState

def sendMachine : Machine SendState SendAction where
  start := ⟨.free none, [], []⟩
  step := SendState.step

end QuincyTun.Windows
