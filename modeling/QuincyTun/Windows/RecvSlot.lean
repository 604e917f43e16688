import QuincyTun.Foundation.Machine
import QuincyTun.Windows.Driver

/-! Polled receiving: calls of `poll_recv` share one slot for a background task.

There are two ways out of the ring: a call takes a packet itself when the slot is
empty, or the background task takes one that a later call returns. The machine
logs what arrives, what leaves the ring and what the calls return.
-/

set_option autoImplicit false

namespace QuincyTun.Windows

open QuincyTun.Foundation

inductive RecvStatus where
  | running
  | returning (result : Result (List UInt8))
  | finished (result : Result (List UInt8))
  deriving DecidableEq

structure RecvTask where
  size : Nat
  status : RecvStatus
  deriving DecidableEq

/-- `recv_task_lock`. A call with a buffer of `size` bytes has taken the task out of the slot. -/
inductive RecvLock where
  | free (slot : Option RecvTask)
  | held (size : Nat) (task : RecvTask)
  deriving DecidableEq

structure RecvState where
  lock : RecvLock
  ring : List (List UInt8)
  arrived : List (List UInt8)
  dequeued : List (List UInt8)
  /-- The results of the calls that were ready, in the order in which they held the lock. -/
  results : List (Result (List UInt8))
  deriving DecidableEq

inductive RingState where
  | ready
  | refuses (lastError : Nat)
  | disabled
  deriving DecidableEq

inductive RecvAction where
  | arrive (packet : List UInt8)
  | enter (size : Nat) (ring : RingState)
  | leave
  | drive (ring : RingState) (wait : RecvWait)
  | complete
  deriving DecidableEq

namespace RecvState

/-- `WintunReceivePacket`: the first packet of the ring leaves it. -/
def dequeue (s : RecvState) (ring : RingState) : RecvAnswer × RecvState :=
  match ring, s.ring with
  | .ready, packet :: rest =>
    (.packet packet, { s with ring := rest, dequeued := s.dequeued ++ [packet] })
  | .ready, [] => (.refused errorNoMoreItems, s)
  | .refuses lastError, _ => (.refused lastError, s)
  | .disabled, _ => (.noSession, s)

def task (s : RecvState) : Option RecvTask :=
  match s.lock with
  | .free slot => slot
  | .held _ task => some task

def setTask (s : RecvState) (status : RecvStatus) : RecvState :=
  match s.lock with
  | .free slot => { s with lock := .free (slot.map fun task => { task with status }) }
  | .held size task => { s with lock := .held size { task with status } }

def giveBack (s : RecvState) (result : Result (List UInt8)) : RecvState :=
  { s with lock := .free none, results := s.results ++ [result] }

def enter (s : RecvState) (size : Nat) (slot : Option RecvTask) (ring : RingState) : RecvState :=
  match slot with
  | some task => { s with lock := .held size task }
  | none =>
    let (answer, s) := s.dequeue ring
    let result := tryRecv size answer
    if isWouldBlock result then { s with lock := .held size ⟨size, .running⟩ }
    else s.giveBack result

def leave (s : RecvState) (size : Nat) (task : RecvTask) : RecvState :=
  match task.status with
  | .finished (.ok packet) =>
    if packet.length > size then s.giveBack (invalidInput "receive buffer too small")
    else s.giveBack (.ok packet)
  | .finished (.error error) => s.giveBack (.error error)
  | .running | .returning _ => { s with lock := .free (some task) }

def drive (s : RecvState) (size : Nat) (ring : RingState) (wait : RecvWait) : RecvState :=
  let (answer, s) := s.dequeue ring
  match recvRound size answer wait with
  | some result => s.setTask (.returning result)
  | none => s

def step (s : RecvState) : RecvAction → Option RecvState
  | .arrive packet => some { s with ring := s.ring ++ [packet], arrived := s.arrived ++ [packet] }
  | .enter size ring =>
    match s.lock with
    | .free slot => some (s.enter size slot ring)
    | .held _ _ => none
  | .leave =>
    match s.lock with
    | .held size task => some (s.leave size task)
    | .free _ => none
  | .drive ring wait =>
    match s.task with
    | some ⟨size, .running⟩ => some (s.drive size ring wait)
    | _ => none
  | .complete =>
    match s.task with
    | some ⟨_, .returning result⟩ => some (s.setTask (.finished result))
    | _ => none

def returned (s : RecvState) : List (List UInt8) :=
  s.results.filterMap fun result => result.toOption

def outstanding (s : RecvState) : Option (List UInt8) :=
  match s.task with
  | some ⟨_, .returning result⟩ | some ⟨_, .finished result⟩ => result.toOption
  | _ => none

end RecvState

def recvMachine : Machine RecvState RecvAction where
  start := ⟨.free none, [], [], [], []⟩
  step := RecvState.step

def PassesLength (len : Nat) (_ : RecvState) : RecvAction → Prop
  | .enter size _ => size = len
  | _ => True

/-! ## What arrives is returned in order -/

/-- The packets of `len` bytes at most that left the ring were returned, but for one. -/
structure RecvInv (len : Nat) (s : RecvState) : Prop where
  queue : s.arrived = s.dequeued ++ s.ring
  delivered : s.dequeued.filter (fun packet => packet.length ≤ len) =
    s.returned ++ s.outstanding.toList
  taskSize : ∀ task, s.task = some task → task.size = len
  polled : ∀ size task, s.lock = .held size task → size = len
  fits : ∀ packet, s.outstanding = some packet → packet.length ≤ len

theorem recvInv_start (len : Nat) : RecvInv len recvMachine.start where
  queue := rfl
  delivered := rfl
  taskSize := nofun
  polled := nofun
  fits := nofun

section Step

variable {len : Nat} {s s' : RecvState} {task : RecvTask} {result : Result (List UInt8)}

theorem RecvState.dequeue_cases (s : RecvState) (ring : RingState) :
    (∃ packet rest, s.ring = packet :: rest ∧ s.dequeue ring =
      (.packet packet, { s with ring := rest, dequeued := s.dequeued ++ [packet] })) ∨
      ∃ answer, (∀ bytes, answer ≠ .packet bytes) ∧ s.dequeue ring = (answer, s) := by
  cases ring with
  | ready =>
    cases content : s.ring with
    | nil => exact .inr ⟨.refused errorNoMoreItems, nofun, by simp only [dequeue, content]⟩
    | cons packet rest => exact .inl ⟨packet, rest, rfl, by simp only [dequeue, content]⟩
  | refuses lastError => exact .inr ⟨.refused lastError, nofun, rfl⟩
  | disabled => exact .inr ⟨.noSession, nofun, rfl⟩

/-- The ring and its log after a request for a packet that ended in `result`. -/
structure Dequeued (len : Nat) (s between : RecvState) (result : Result (List UInt8)) : Prop where
  lock : between.lock = s.lock
  results : between.results = s.results
  queue : between.arrived = between.dequeued ++ between.ring
  delivered : between.dequeued.filter (fun packet => packet.length ≤ len) =
    s.dequeued.filter (fun packet => packet.length ≤ len) ++ result.toOption.toList
  fits : ∀ packet, result.toOption = some packet → packet.length ≤ len

theorem RecvInv.dequeue (inv : RecvInv len s) (ring : RingState) :
    Dequeued len s (s.dequeue ring).2 (tryRecv len (s.dequeue ring).1) := by
  rcases s.dequeue_cases ring with ⟨packet, rest, content, taken⟩ | ⟨answer, noPacket, same⟩
  -- A packet leaves the ring even when the buffer turns out too small for it.
  · rw [taken]
    have queue : s.arrived = (s.dequeued ++ [packet]) ++ rest := by
      rw [inv.queue, content, List.append_assoc]
      rfl
    rcases tryRecv_spec len (.packet packet) with ⟨bytes, same, short, ok⟩ |
      ⟨bytes, error, same, long, failed, -⟩ | ⟨other, -⟩
    · refine ⟨rfl, rfl, queue, ?_, ?_⟩
      · rw [ok, List.filter_append, List.filter_singleton, RecvAnswer.packet.inj same]
        simp [Except.toOption, short]
      · rw [ok]
        intro other found
        rw [← Option.some.inj found]
        exact short
    · refine ⟨rfl, rfl, queue, ?_, ?_⟩
      · rw [failed, List.filter_append, List.filter_singleton, RecvAnswer.packet.inj same]
        simp [Except.toOption, Nat.not_le.mpr long]
      · intro other found
        rw [failed] at found
        cases found
    · exact absurd rfl (other packet)
  · rw [same]
    rcases tryRecv_spec len answer with ⟨bytes, packet, -⟩ | ⟨bytes, _, packet, -⟩ | ⟨-, error, failed⟩
    · exact absurd packet (noPacket bytes)
    · exact absurd packet (noPacket bytes)
    · rw [failed]
      refine ⟨rfl, rfl, inv.queue, (List.append_nil _).symm, ?_⟩
      intro packet found
      cases found

theorem toOption_of_isWouldBlock (blocked : isWouldBlock result = true) :
    result.toOption = none := by
  cases result with
  | ok packet => cases blocked
  | error error => rfl

theorem RecvState.returned_giveBack (s : RecvState) (result : Result (List UInt8)) :
    (s.giveBack result).returned = s.returned ++ result.toOption.toList := by
  simp only [returned, giveBack, List.filterMap_append]
  cases result <;> rfl

theorem RecvState.task_setTask (s : RecvState) (status : RecvStatus) :
    (s.setTask status).task = s.task.map fun task => { task with status } := by
  unfold setTask task
  cases s.lock with
  | free slot => rfl
  | held size task => rfl

theorem RecvInv.giveBack {between : RecvState}
    (queue : between.arrived = between.dequeued ++ between.ring)
    (delivered : between.dequeued.filter (fun packet => packet.length ≤ len) =
      between.returned ++ result.toOption.toList) : RecvInv len (between.giveBack result) where
  queue := queue
  delivered := by
    rw [RecvState.returned_giveBack]
    exact delivered.trans (List.append_nil _).symm
  taskSize := nofun
  polled := nofun
  fits := nofun

theorem RecvInv.relock (inv : RecvInv len s) {lock : RecvLock}
    (same : ({ s with lock } : RecvState).task = s.task)
    (polled : ∀ size task, lock = .held size task → size = len) :
    RecvInv len { s with lock } := by
  have kept : ({ s with lock } : RecvState).outstanding = s.outstanding := by
    rw [RecvState.outstanding, RecvState.outstanding, same]
  refine ⟨inv.queue, ?_, fun task live => inv.taskSize task (same ▸ live), polled, ?_⟩
  · rw [kept]
    exact inv.delivered
  · rw [kept]
    exact inv.fits

/-- What left the ring was returned, but for the packet of a request that nothing else waits on. -/
theorem RecvInv.dequeue_delivered (inv : RecvInv len s) (idle : s.outstanding = none)
    (ring : RingState) :
    (s.dequeue ring).2.dequeued.filter (fun packet => packet.length ≤ len) =
      (s.dequeue ring).2.returned ++ (tryRecv len (s.dequeue ring).1).toOption.toList := by
  have taken := inv.dequeue ring
  have before := inv.delivered
  rw [idle, Option.toList_none, List.append_nil] at before
  rw [taken.delivered, before, RecvState.returned, RecvState.returned, taken.results]

theorem RecvInv.enter (inv : RecvInv len s) {slot : Option RecvTask} (ring : RingState)
    (free : s.lock = .free slot) : RecvInv len (s.enter len slot ring) := by
  have here : s.task = slot := by rw [RecvState.task, free]
  cases slot with
  | some task =>
    refine inv.relock here.symm ?_
    intro size other held
    exact (RecvLock.held.inj held).1.symm
  | none =>
    have idle : s.outstanding = none := by rw [RecvState.outstanding, here]
    have taken := inv.dequeue ring
    have delivered := inv.dequeue_delivered idle ring
    simp only [RecvState.enter]
    split
    case isTrue blocked =>
      -- A request that would block took nothing from the ring.
      rw [toOption_of_isWouldBlock blocked] at delivered
      refine ⟨taken.queue, delivered, ?_, ?_, nofun⟩
      · rintro other found
        rw [← Option.some.inj found]
      · intro size other held
        exact (RecvLock.held.inj held).1.symm
    case isFalse => exact .giveBack taken.queue delivered

theorem RecvInv.leave (inv : RecvInv len s) {size : Nat} (held : s.lock = .held size task) :
    RecvInv len (s.leave size task) := by
  have here : s.task = some task := by rw [RecvState.task, held]
  have sameSize := inv.polled size task held
  have delivered := inv.delivered
  have fits := inv.fits
  obtain ⟨taskSize, status⟩ := task
  have waits : RecvInv len { s with lock := .free (some ⟨taskSize, status⟩) } :=
    inv.relock here.symm nofun
  cases status with
  | running => exact waits
  | returning result => exact waits
  | finished result =>
    have holds : s.outstanding = result.toOption := by rw [RecvState.outstanding, here]
    rw [holds] at delivered fits
    cases result with
    | error error => exact .giveBack inv.queue delivered
    | ok packet =>
      -- The buffer of this call has the length for which the task was started.
      have short : ¬ packet.length > size := by
        have bound := fits packet rfl
        omega
      rw [RecvState.leave]
      simp only []
      rw [if_neg short]
      exact .giveBack inv.queue delivered

theorem RecvInv.progress {between : RecvState} {status : RecvStatus} (inv : RecvInv len s)
    (live : s.task = some task) (lock : between.lock = s.lock)
    (queue : between.arrived = between.dequeued ++ between.ring)
    (outstanding : (between.setTask status).outstanding = result.toOption)
    (delivered : between.dequeued.filter (fun packet => packet.length ≤ len) =
      between.returned ++ result.toOption.toList)
    (fits : ∀ packet, result.toOption = some packet → packet.length ≤ len) :
    RecvInv len (between.setTask status) := by
  have fields : (between.setTask status).arrived = between.arrived ∧
      (between.setTask status).dequeued = between.dequeued ∧
      (between.setTask status).ring = between.ring ∧
      (between.setTask status).results = between.results := by
    unfold RecvState.setTask
    split <;> exact ⟨rfl, rfl, rfl, rfl⟩
  obtain ⟨sameArrived, sameDequeued, sameRing, sameResults⟩ := fields
  have sameTask : between.task = s.task := by rw [RecvState.task, lock, ← RecvState.task]
  constructor
  case queue => rw [sameArrived, sameDequeued, sameRing, queue]
  case delivered =>
    rw [sameDequeued, RecvState.returned, sameResults, ← RecvState.returned, outstanding]
    exact delivered
  case taskSize =>
    intro other found
    rw [RecvState.task_setTask, sameTask, live] at found
    rw [← Option.some.inj found]
    exact inv.taskSize task live
  -- `setTask` keeps the size that the lock is held with.
  case polled =>
    intro size other held
    unfold RecvState.setTask at held
    rw [lock] at held
    cases was : s.lock with
    | free slot =>
      rw [was] at held
      cases held
    | held before polled =>
      rw [was] at held
      exact (RecvLock.held.inj held).1 ▸ inv.polled before polled was
  case fits => rwa [outstanding]

theorem RecvInv.drive (inv : RecvInv len s) (live : s.task = some ⟨len, .running⟩)
    (ring : RingState) (wait : RecvWait) : RecvInv len (s.drive len ring wait) := by
  have idle : s.outstanding = none := by rw [RecvState.outstanding, live]
  have taken := inv.dequeue ring
  have delivered := inv.dequeue_delivered idle ring
  have sameTask : (s.dequeue ring).2.task = s.task := by
    rw [RecvState.task, taken.lock, ← RecvState.task]
  have holds : ∀ result : Result (List UInt8), ((s.dequeue ring).2.setTask
      (.returning result)).outstanding = result.toOption := by
    intro result
    rw [RecvState.outstanding, RecvState.task_setTask, sameTask, live]
    rfl
  simp only [RecvState.drive, recvRound]
  by_cases blocked : isWouldBlock (tryRecv len (s.dequeue ring).1) = true
  · rw [toOption_of_isWouldBlock blocked] at delivered
    rw [if_pos blocked]
    cases wait with
    | again =>
      -- The task goes on running and still holds nothing.
      have none : (s.dequeue ring).2.outstanding = none := by
        rw [RecvState.outstanding, sameTask, live]
      refine ⟨taken.queue, ?_, ?_, ?_, by rw [none]; nofun⟩
      · rw [none]
        exact delivered
      · rw [sameTask]
        exact inv.taskSize
      · rw [taken.lock]
        exact inv.polled
    | disabled => exact inv.progress live taken.lock taken.queue (holds _) delivered nofun
    | failed lastError => exact inv.progress live taken.lock taken.queue (holds _) delivered nofun
  · rw [if_neg blocked]
    exact inv.progress live taken.lock taken.queue (holds _) delivered taken.fits

theorem RecvInv.complete (inv : RecvInv len s) {size : Nat}
    (live : s.task = some ⟨size, .returning result⟩) :
    RecvInv len (s.setTask (.finished result)) := by
  have holds : s.outstanding = result.toOption := by rw [RecvState.outstanding, live]
  refine inv.progress live rfl inv.queue ?_ (holds ▸ inv.delivered) (holds ▸ inv.fits)
  rw [RecvState.outstanding, RecvState.task_setTask, live]
  rfl

theorem RecvInv.step (inv : RecvInv len s) {action : RecvAction} (met : PassesLength len s action)
    (stepped : s.step action = some s') : RecvInv len s' := by
  cases action with
  | arrive packet =>
    obtain rfl := Option.some.inj stepped
    refine ⟨?_, inv.delivered, inv.taskSize, inv.polled, inv.fits⟩
    change s.arrived ++ [packet] = s.dequeued ++ (s.ring ++ [packet])
    rw [inv.queue, List.append_assoc]
  | enter size ring =>
    obtain rfl : size = len := met
    cases lock : s.lock with
    | held other task =>
      simp only [RecvState.step, lock] at stepped
      cases stepped
    | free slot =>
      simp only [RecvState.step, lock] at stepped
      exact Option.some.inj stepped ▸ inv.enter ring lock
  | leave =>
    cases lock : s.lock with
    | free slot =>
      simp only [RecvState.step, lock] at stepped
      cases stepped
    | held size task =>
      simp only [RecvState.step, lock] at stepped
      exact Option.some.inj stepped ▸ inv.leave lock
  | drive ring wait =>
    simp only [RecvState.step] at stepped
    split at stepped
    case h_1 size live =>
      obtain rfl : size = len := inv.taskSize _ live
      exact Option.some.inj stepped ▸ inv.drive live ring wait
    case h_2 => cases stepped
  | complete =>
    simp only [RecvState.step] at stepped
    split at stepped
    case h_1 size result live => exact Option.some.inj stepped ▸ inv.complete live
    case h_2 => cases stepped

/-- In every run of calls with buffers of one length, the packets of that length at most that left
the ring were returned, each once and in order, but for the one that the task may hold. -/
theorem pollRecv_inOrder (reached : recvMachine.Reaches (PassesLength len) s) :
    s.arrived = s.dequeued ++ s.ring ∧
      s.dequeued.filter (fun packet => packet.length ≤ len) =
        s.returned ++ s.outstanding.toList ∧
      (s.task = none → s.outstanding = none) := by
  have inv : RecvInv len s :=
    reached.invariant (recvInv_start len) fun _ _ _ inv met stepped => inv.step met stepped
  refine ⟨inv.queue, inv.delivered, fun idle => ?_⟩
  rw [RecvState.outstanding, idle]

instance (len : Nat) (s : RecvState) (action : RecvAction) :
    Decidable (PassesLength len s action) := by
  unfold PassesLength
  cases action <;> infer_instance

/-- The first packet comes through the background task, the second one directly. -/
theorem pollRecv_inOrder_blocked : ∃ s, recvMachine.Reaches (PassesLength 4) s ∧
    s.returned = [[1, 2], [3]] ∧
    s.dequeued.filter (fun packet => packet.length ≤ 4) = s.returned ++ s.outstanding.toList := by
  have ran : recvMachine.run (PassesLength 4) [.enter 4 .ready, .leave, .arrive [1, 2],
      .drive .ready .again, .arrive [0, 0, 0, 0, 0], .complete, .enter 4 .ready, .leave,
      .enter 4 .ready, .arrive [3], .enter 4 .ready] recvMachine.start =
      some ⟨.free none, [], [[1, 2], [0, 0, 0, 0, 0], [3]], [[1, 2], [0, 0, 0, 0, 0], [3]],
        [.ok [1, 2], invalidInput "destination buffer too small", .ok [3]]⟩ := by decide
  have reached := Machine.Reaches.start.run ran
  exact ⟨_, reached, rfl, (pollRecv_inOrder reached).2.1⟩

end Step

end QuincyTun.Windows
