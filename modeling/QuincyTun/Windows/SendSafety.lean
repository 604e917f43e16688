import QuincyTun.Windows.SendSlot

/-! When polled sending reports each caller's own packet.

A call that finds the task of another attempt in the slot returns that attempt's
result. As long as this does not happen, every attempt is accounted for by its own
task or by its own result.
-/

set_option autoImplicit false

namespace QuincyTun.Windows

open QuincyTun.Foundation

def Delivered (packet : List UInt8) (result : Result Nat) (handed : List (List UInt8)) : Prop :=
  match result with
  | .ok n => handed = [packet] ∧ n = packet.length
  | .error _ => handed = []

/-- Every attempt that ended well sent its own packet once, an abandoned one at most once. -/
structure SendsOwnPacket (s : SendState) : Prop where
  ready : ∀ (a : Nat) (packet : List UInt8) (n : Nat),
    s.attempts[a]? = some ⟨packet, .ready (.ok n)⟩ →
      s.handedOf a = [packet] ∧ n = packet.length
  abandoned : ∀ (a : Nat) (packet : List UInt8), s.attempts[a]? = some ⟨packet, .abandoned⟩ →
    s.handedOf a = [] ∨ s.handedOf a = [packet]

/-- A call finds the slot empty, or its own task in it. -/
def FindsOwnTask (s : SendState) : SendAction → Prop
  | .enter a _ => ∀ task, s.lock = .free (some task) → task.owner = a
  | _ => True

/-! ## The invariant -/

/-- What has reached the driver from a task in this state. -/
def SendTask.Accounts (task : SendTask) (handed : List (List UInt8)) : Prop :=
  match task.status with
  | .running => handed = []
  | .returning result | .finished result => Delivered task.packet result handed

def SendAttempt.Accounts (attempt : SendAttempt) (handed : List (List UInt8)) : Prop :=
  match attempt.status with
  | .fresh => handed = []
  | .ready result => Delivered attempt.packet result handed
  | .pending | .abandoned => False

structure SendInv (s : SendState) : Prop where
  polled : ∀ a task, s.lock = .held a task → task.owner = a
  live : ∀ task, s.task = some task → ∃ attempt, s.attempts[task.owner]? = some attempt ∧
    attempt.packet = task.packet ∧ (∀ result, attempt.status ≠ .ready result) ∧
    task.Accounts (s.handedOf task.owner)
  rest : ∀ (a : Nat) (attempt : SendAttempt), s.attempts[a]? = some attempt →
    (∀ task, s.task = some task → task.owner ≠ a) → attempt.Accounts (s.handedOf a)
  unknown : ∀ a : Nat, s.attempts[a]? = none → s.handedOf a = []

namespace SendState

variable {s : SendState}

theorem handedOf_hand (s : SendState) (a b : Nat) (packet : Option (List UInt8)) :
    (s.hand a packet).handedOf b =
      if a = b then s.handedOf b ++ packet.toList else s.handedOf b := by
  unfold handedOf hand
  cases packet with
  | none => simp
  | some bytes =>
    by_cases same : a = b
    · simp [same]
    · simp [same]

@[simp] theorem hand_none (s : SendState) (a : Nat) : s.hand a none = s := by
  cases s
  simp [hand]

theorem handedOf_setTask (s : SendState) (status : TaskStatus) (b : Nat) :
    (s.setTask status).handedOf b = s.handedOf b := by
  unfold setTask
  split <;> rfl

theorem attempts_setTask (s : SendState) (status : TaskStatus) :
    (s.setTask status).attempts = s.attempts := by
  unfold setTask
  split <;> rfl

theorem task_setTask (s : SendState) (status : TaskStatus) :
    (s.setTask status).task = s.task.map fun task => { task with status } := by
  unfold setTask task
  cases s.lock with
  | free slot => rfl
  | held attempt task => rfl

theorem lock_setTask {status : TaskStatus} {a : Nat} {task : SendTask}
    (held : (s.setTask status).lock = .held a task) : ∃ before, s.lock = .held a before := by
  unfold setTask at held
  split at held
  case h_1 slot free => cases held
  case h_2 attempt before was => exact ⟨before, (SendLock.held.inj held).1 ▸ was⟩

theorem getElem?_setStatus (s : SendState) (a b : Nat) (status : AttemptStatus) :
    (s.setStatus a status).attempts[b]? =
      if a = b then s.attempts[b]?.map fun attempt => { attempt with status }
      else s.attempts[b]? := by
  rw [setStatus, List.getElem?_modify]
  by_cases same : a = b
  · simp [same]
  · simp [same]

end SendState

theorem sendInv_start : SendInv sendMachine.start where
  polled := nofun
  live := nofun
  rest := nofun
  unknown := fun _ _ => rfl

/-- The attempts of two states differ in the status of one attempt at most. -/
def Restated (s s' : SendState) (a : Nat) (packet : List UInt8) (status : AttemptStatus) : Prop :=
  ∀ b, s'.attempts[b]? = if a = b then some ⟨packet, status⟩ else s.attempts[b]?

theorem restated_setStatus {s : SendState} {a : Nat} {packet : List UInt8}
    {before : AttemptStatus} (found : s.attempts[a]? = some ⟨packet, before⟩)
    (status : AttemptStatus) : Restated s (s.setStatus a status) a packet status := by
  intro b
  rw [SendState.getElem?_setStatus]
  split
  case isTrue same => rw [← same, found]; rfl
  case isFalse => rfl

theorem restated_same {s s' : SendState} {a : Nat} {packet : List UInt8} {status : AttemptStatus}
    (found : s.attempts[a]? = some ⟨packet, status⟩) (same : s'.attempts = s.attempts) :
    Restated s s' a packet status := by
  intro b
  rw [same]
  split
  case isTrue here => rw [← here, found]
  case isFalse => rfl

section Step

variable {s s' : SendState} {a : Nat} {packet : List UInt8} {before status : AttemptStatus}
  {task : SendTask} {result : Result Nat}

theorem SendInv.unknown_of (inv : SendInv s) (restated : Restated s s' a packet status)
    (others : ∀ b, b ≠ a → s'.handedOf b = s.handedOf b) (b : Nat)
    (none : s'.attempts[b]? = none) : s'.handedOf b = [] := by
  rw [restated b] at none
  split at none
  case isTrue => cases none
  case isFalse apart =>
    rw [others b (Ne.symm apart)]
    exact inv.unknown b none

theorem SendInv.settle (inv : SendInv s) (own : ∀ task, s.task = some task → task.owner = a)
    (idle : s'.lock = .free none) (restated : Restated s s' a packet (.ready result))
    (others : ∀ b, b ≠ a → s'.handedOf b = s.handedOf b)
    (delivered : Delivered packet result (s'.handedOf a)) : SendInv s' := by
  have noTask : s'.task = none := by rw [SendState.task, idle]
  constructor
  case polled =>
    intro b other held
    rw [idle] at held
    cases held
  case live =>
    intro other live
    rw [noTask] at live
    cases live
  case rest =>
    intro b attempt there _
    rw [restated b] at there
    split at there
    case isTrue same =>
      obtain rfl := Option.some.inj there
      exact same ▸ delivered
    case isFalse apart =>
      rw [others b (Ne.symm apart)]
      exact inv.rest b attempt there fun task live same => apart ((own task live).symm.trans same)
  case unknown => exact inv.unknown_of restated others

theorem SendInv.carry (inv : SendInv s) (own : ∀ task, s.task = some task → task.owner = a)
    (live : s'.task = some task) (owner : task.owner = a) (samePacket : task.packet = packet)
    (polled : ∀ b other, s'.lock = .held b other → b = a)
    (restated : Restated s s' a packet status) (isOpen : ∀ result, status ≠ .ready result)
    (others : ∀ b, b ≠ a → s'.handedOf b = s.handedOf b)
    (accounts : task.Accounts (s'.handedOf a)) : SendInv s' := by
  subst owner samePacket
  constructor
  case polled =>
    intro b other held
    have same : s'.task = some other := by rw [SendState.task, held]
    rw [polled b other held, Option.some.inj (live.symm.trans same)]
  case live =>
    intro other found
    obtain rfl := Option.some.inj (live.symm.trans found)
    exact ⟨⟨task.packet, status⟩, by rw [restated, if_pos rfl], rfl, isOpen, accounts⟩
  case rest =>
    intro b attempt there apart
    have different := apart task live
    rw [restated b, if_neg different] at there
    rw [others b (Ne.symm different)]
    exact inv.rest b attempt there fun other found same =>
      different ((own other found).symm.trans same)
  case unknown => exact inv.unknown_of restated others

theorem SendInv.nothingHanded (inv : SendInv s) (idle : s.task = none)
    (found : s.attempts[a]? = some ⟨packet, status⟩) (isOpen : ∀ result, status ≠ .ready result) :
    s.handedOf a = [] := by
  have accounts := inv.rest a _ found (by simp [idle])
  cases status with
  | fresh => exact accounts
  | pending | abandoned => exact accounts.elim
  | ready result => exact absurd rfl (isOpen result)

theorem SendInv.enter (inv : SendInv s) {slot : Option SendTask} (answer : SendAnswer)
    (free : s.lock = .free slot) (found : s.attempts[a]? = some ⟨packet, status⟩)
    (isOpen : ∀ result, status ≠ .ready result)
    (own : ∀ task, slot = some task → task.owner = a) : SendInv (s.enter a packet slot answer) := by
  have here : s.task = slot := by rw [SendState.task, free]
  cases slot with
  | some task =>
    -- The task that is taken over is the caller's own, so it sends the caller's packet.
    obtain ⟨attempt, there, samePacket, -, accounts⟩ := inv.live task here
    have owner := own task rfl
    rw [owner, found] at there
    obtain rfl := Option.some.inj there
    refine inv.carry (fun other live => own other (here.symm.trans live)) rfl owner samePacket.symm
      ?_ (restated_same found rfl) isOpen (fun _ _ => rfl) (owner ▸ accounts)
    rintro b other held
    exact (SendLock.held.inj held).1.symm
  | none =>
    -- Nothing was handed to the driver for this attempt, so the request is its first.
    have empty := inv.nothingHanded here found isOpen
    have noTask : ∀ task, s.task = some task → task.owner = a := by simp [here]
    have result : ∀ handed result, trySend packet answer = (handed, result) →
        Delivered packet result handed.toList := by
      intro handed result answered
      rcases trySend_spec packet answer with sent | ⟨error, failed⟩
      · obtain ⟨rfl, rfl⟩ := Prod.mk.inj (answered.symm.trans sent)
        exact ⟨rfl, rfl⟩
      · obtain ⟨rfl, rfl⟩ := Prod.mk.inj (answered.symm.trans failed)
        exact rfl
    rw [SendState.enter]
    cases answered : trySend packet answer with
    | mk handed outcome =>
      simp only []
      split
      case isTrue =>
        refine inv.carry noTask rfl rfl rfl ?_ (restated_same found rfl) isOpen (fun _ _ => rfl)
          empty
        rintro b other held
        exact (SendLock.held.inj held).1.symm
      case isFalse =>
        refine inv.settle noTask free (restated_setStatus found _) (fun b apart => ?_) ?_
        · exact (SendState.handedOf_hand s a b handed).trans (if_neg (Ne.symm apart))
        · change Delivered packet outcome ((s.hand a handed).handedOf a)
          rw [SendState.handedOf_hand, if_pos rfl, empty]
          exact result handed outcome answered

theorem SendInv.leave (inv : SendInv s) (held : s.lock = .held a task) :
    SendInv (s.leave a task) := by
  have here : s.task = some task := by rw [SendState.task, held]
  have owner := inv.polled a task held
  have own : ∀ other, s.task = some other → other.owner = a := by
    intro other live
    rw [← Option.some.inj (here.symm.trans live), owner]
  obtain ⟨⟨packet, status⟩, found, samePacket, -, accounts⟩ := inv.live task here
  rw [owner] at found accounts
  change packet = task.packet at samePacket
  have back : (∃ result, task.status = .finished result) ∨
      s.leave a task = { s with lock := .free (some task) }.setStatus a .pending := by
    unfold SendState.leave
    cases task.status with
    | running | returning result => exact .inr rfl
    | finished result => exact .inl ⟨result, rfl⟩
  rcases back with ⟨result, done⟩ | goesBack
  · rw [SendTask.Accounts, done] at accounts
    rw [SendState.leave, done]
    exact inv.settle own rfl (restated_setStatus found _) (fun _ _ => rfl) (samePacket ▸ accounts)
  · rw [goesBack]
    exact inv.carry own rfl owner samePacket.symm nofun (restated_setStatus found _) (by simp)
      (fun _ _ => rfl) accounts

theorem SendInv.progress (inv : SendInv s) (live : s.task = some task) {handed : Option (List UInt8)}
    {done : TaskStatus} (accounts : SendTask.Accounts { task with status := done }
      (s.handedOf task.owner ++ handed.toList)) :
    SendInv ((s.hand task.owner handed).setTask done) := by
  obtain ⟨⟨packet, status⟩, found, samePacket, isOpen, -⟩ := inv.live task live
  have own : ∀ other, s.task = some other → other.owner = task.owner := fun other same => by
    rw [Option.some.inj (live.symm.trans same)]
  have handedOf : ∀ b, ((s.hand task.owner handed).setTask done).handedOf b =
      if task.owner = b then s.handedOf b ++ handed.toList else s.handedOf b := fun b => by
    rw [SendState.handedOf_setTask, SendState.handedOf_hand]
  have moved : ((s.hand task.owner handed).setTask done).task =
      some { task with status := done } := by
    have same : (s.hand task.owner handed).task = s.task := rfl
    rw [SendState.task_setTask, same, live]
    rfl
  refine inv.carry own moved rfl samePacket.symm ?_
    (restated_same found (SendState.attempts_setTask _ _)) isOpen ?_ ?_
  · intro b other held
    obtain ⟨before, was⟩ := SendState.lock_setTask held
    have same : s.task = some before := by
      have was : s.lock = .held b before := was
      rw [SendState.task, was]
    rw [← inv.polled b before was, own before same]
  · intro b apart
    rw [handedOf, if_neg (Ne.symm apart)]
  · rw [handedOf, if_pos rfl]
    exact accounts

theorem SendInv.drive (inv : SendInv s) (live : s.task = some task) (running : task.status = .running)
    (answer : SendAnswer) (wait : SendWait) : SendInv (s.drive task answer wait) := by
  obtain ⟨-, -, -, -, empty⟩ := inv.live task live
  rw [SendTask.Accounts, running] at empty
  unfold SendState.drive
  rcases sendRound_spec task.packet answer wait with sent | again | ⟨error, failed⟩
  · rw [sent]
    refine inv.progress live ?_
    rw [empty]
    exact ⟨rfl, rfl⟩
  · rw [again]
    change SendInv (s.hand task.owner none)
    rw [SendState.hand_none]
    exact inv
  · rw [failed]
    refine inv.progress live ?_
    rw [empty]
    exact rfl

theorem SendInv.complete (inv : SendInv s) (live : s.task = some task)
    (returning : task.status = .returning result) : SendInv (s.setTask (.finished result)) := by
  obtain ⟨-, -, -, -, accounts⟩ := inv.live task live
  rw [SendTask.Accounts, returning] at accounts
  have after : SendInv ((s.hand task.owner none).setTask (.finished result)) :=
    inv.progress live (by rw [Option.toList_none, List.append_nil]; exact accounts)
  rwa [SendState.hand_none] at after

theorem SendInv.abandon (inv : SendInv s) (found : s.attempts[a]? = some ⟨packet, .pending⟩) :
    SendInv (s.setStatus a .abandoned) := by
  obtain ⟨task, live, owner⟩ : ∃ task, s.task = some task ∧ task.owner = a := by
    by_contra none
    exact inv.rest a _ found fun task live owner => none ⟨task, live, owner⟩
  obtain ⟨attempt, there, samePacket, -, accounts⟩ := inv.live task live
  rw [owner, found] at there
  obtain rfl := Option.some.inj there
  refine inv.carry (fun other same => ?_) live owner samePacket.symm ?_
    (restated_setStatus found _) (by simp) (fun _ _ => rfl) (owner ▸ accounts)
  · rw [← Option.some.inj (live.symm.trans same), owner]
  · intro b other held
    have was : s.lock = .held b other := held
    have same : s.task = some other := by rw [SendState.task, was]
    rw [← inv.polled b other was, ← Option.some.inj (live.symm.trans same), owner]

theorem SendInv.begin (inv : SendInv s) (packet : List UInt8) :
    SendInv { s with attempts := s.attempts ++ [⟨packet, .fresh⟩] } := by
  constructor
  case polled => exact inv.polled
  case live =>
    intro task live
    obtain ⟨attempt, found, rest⟩ := inv.live task live
    have inside : task.owner < s.attempts.length := (List.getElem?_eq_some_iff.mp found).1
    exact ⟨attempt, (List.getElem?_append_left inside).trans found, rest⟩
  case rest =>
    intro a attempt there apart
    by_cases inside : a < s.attempts.length
    · rw [List.getElem?_append_left inside] at there
      exact inv.rest a attempt there apart
    · have none : s.attempts[a]? = none := List.getElem?_eq_none (Nat.not_lt.mp inside)
      have new := List.mem_of_getElem? ((List.getElem?_append_right (Nat.not_lt.mp inside)).symm.trans
        there)
      rw [List.mem_singleton.mp new]
      exact inv.unknown a none
  case unknown =>
    intro a none
    have outside := List.getElem?_eq_none_iff.mp none
    rw [List.length_append] at outside
    exact inv.unknown a (List.getElem?_eq_none (by omega))

theorem SendInv.step (inv : SendInv s) {action : SendAction} (met : FindsOwnTask s action)
    (stepped : s.step action = some s') : SendInv s' := by
  cases action with
  | begin packet => exact Option.some.inj stepped ▸ inv.begin packet
  | enter a answer =>
    simp only [SendState.step] at stepped
    split at stepped
    case h_1 | h_2 =>
      rename_i slot packet free found
      obtain rfl := Option.some.inj stepped
      refine inv.enter answer free found (by simp) fun task here => met task ?_
      rw [free, here]
    case h_3 => cases stepped
  | leave =>
    cases lock : s.lock with
    | free slot =>
      simp only [SendState.step, lock] at stepped
      cases stepped
    | held a task =>
      simp only [SendState.step, lock] at stepped
      exact Option.some.inj stepped ▸ inv.leave lock
  | drive answer wait =>
    simp only [SendState.step] at stepped
    split at stepped
    case h_1 owner packet live =>
      exact Option.some.inj stepped ▸ inv.drive live rfl answer wait
    case h_2 => cases stepped
  | complete =>
    simp only [SendState.step] at stepped
    split at stepped
    case h_1 owner packet result live =>
      exact Option.some.inj stepped ▸ inv.complete live rfl
    case h_2 => cases stepped
  | abandon a =>
    simp only [SendState.step] at stepped
    split at stepped
    case h_1 packet found =>
      split at stepped
      case isTrue => cases stepped
      case isFalse => exact Option.some.inj stepped ▸ inv.abandon found
    case h_2 => cases stepped

theorem SendTask.Accounts.handed {handed : List (List UInt8)} (accounts : task.Accounts handed) :
    handed = [] ∨ handed = [task.packet] := by
  have delivered : ∀ result, Delivered task.packet result handed →
      handed = [] ∨ handed = [task.packet] := by
    intro result delivered
    cases result with
    | ok n => exact .inr delivered.1
    | error error => exact .inl delivered
  cases status : task.status with
  | running =>
    rw [SendTask.Accounts, status] at accounts
    exact .inl accounts
  | returning result | finished result =>
    rw [SendTask.Accounts, status] at accounts
    exact delivered result accounts

theorem SendInv.sendsOwnPacket (inv : SendInv s) : SendsOwnPacket s := by
  constructor
  case ready =>
    intro a packet n found
    refine inv.rest a _ found fun task live owner => ?_
    obtain ⟨attempt, there, -, notReady, -⟩ := inv.live task live
    rw [owner, found] at there
    obtain rfl := Option.some.inj there
    exact notReady _ rfl
  case abandoned =>
    intro a packet found
    by_contra lost
    refine inv.rest a _ found fun task live owner => lost ?_
    obtain ⟨attempt, there, samePacket, -, accounts⟩ := inv.live task live
    rw [owner, found] at there
    obtain rfl := Option.some.inj there
    have samePacket : packet = task.packet := samePacket
    rw [owner] at accounts
    rw [samePacket]
    exact accounts.handed

/-- As long as no call finds the task of another attempt, every caller's result is about its own
packet. -/
theorem pollSend_sendsOwnPacket (reached : sendMachine.Reaches FindsOwnTask s) :
    SendsOwnPacket s :=
  (reached.invariant sendInv_start fun _ _ _ inv met stepped => inv.step met stepped).sendsOwnPacket

instance (s : SendState) (action : SendAction) : Decidable (FindsOwnTask s action) := by
  unfold FindsOwnTask
  cases s.lock with
  | held attempt task => cases action <;> exact isTrue (by simp)
  | free slot =>
    cases slot with
    | none => cases action <;> exact isTrue (by simp)
    | some task =>
      cases action with
      | enter a answer => exact decidable_of_iff (task.owner = a) (by simp)
      | begin | leave | drive | complete | abandon => exact isTrue trivial

/-- The ring is full at first, and the background task delivers the packet later. -/
theorem pollSend_sendsOwnPacket_blocked : ∃ s, sendMachine.Reaches FindsOwnTask s ∧
    s.attempts = [⟨[1, 2, 3], .ready (.ok 3)⟩] ∧ SendsOwnPacket s := by
  have ran : sendMachine.run FindsOwnTask [.begin [1, 2, 3], .enter 0 (.refused errorBufferOverflow),
      .leave, .drive .allocated .again, .complete, .enter 0 .allocated, .leave] sendMachine.start =
      some ⟨.free none, [⟨[1, 2, 3], .ready (.ok 3)⟩], [(0, [1, 2, 3])]⟩ := by decide
  have reached := Machine.Reaches.start.run ran
  exact ⟨_, reached, rfl, pollSend_sendsOwnPacket reached⟩

/-- The first attempt is abandoned with its task in the slot; the second one gets its result. -/
theorem pollSend_reports_other_packet : ∃ s, sendMachine.Reachable s ∧
    s.attempts[1]? = some ⟨[9], .ready (.ok 3)⟩ ∧ s.handedOf 1 = [] ∧ ¬ SendsOwnPacket s := by
  have ran : sendMachine.run (fun _ _ => True) [.begin [1, 2, 3],
      .enter 0 (.refused errorBufferOverflow), .leave, .abandon 0, .begin [9], .enter 1 .allocated,
      .drive .allocated .again, .complete, .leave] sendMachine.start =
      some ⟨.free none, [⟨[1, 2, 3], .abandoned⟩, ⟨[9], .ready (.ok 3)⟩], [(0, [1, 2, 3])]⟩ := by
    decide
  refine ⟨_, Machine.Reaches.start.run ran, rfl, rfl, fun own => ?_⟩
  obtain ⟨sent, -⟩ := own.ready 1 [9] 3 rfl
  exact absurd sent (by decide)

end Step

end QuincyTun.Windows
