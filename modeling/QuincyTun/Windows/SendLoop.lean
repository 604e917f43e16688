import QuincyTun.Foundation.CallLog
import QuincyTun.Windows.Driver

/-! How long `send` goes on when the ring is full.

Between its attempts it sleeps, twice as long each time up to a limit. The clock moves on by
what it sleeps at least, so the attempts are counted.
-/

set_option autoImplicit false

namespace QuincyTun.Windows

open QuincyTun.Foundation

/-- What `send` asks of the driver and of the system, with the answers. -/
inductive SendCall where
  /-- The answer is the last error, if there is no room. -/
  | allocateSendPacket (len : Nat) (answer : Option Nat)
  | sendPacket (bytes : List UInt8)
  | isEnabled (answer : Bool)
  /-- In nanoseconds -/
  | elapsed (answer : Nat)
  /-- Whether the event is set. -/
  | waitForSingleObject (answer : Bool)
  | spinLoop
  | sleep (millis : Nat)
  deriving DecidableEq, Repr

structure SendHost where
  allocateSendPacket : Nat → List SendCall → Option Nat
  isEnabled : List SendCall → Bool
  elapsed : List SendCall → Nat
  waitForSingleObject : List SendCall → Bool

/-- How a send ends that does not fail. An interrupt is an error with a kind of its own. -/
inductive SendEnd where
  | sent (len : Nat)
  | interrupted
  deriving DecidableEq, Repr

section Loop

variable (host : SendHost) (interruptible : Bool) (buf : List UInt8)

def WinTunSession.trySend : OsCall (List SendCall) Nat :=
  if buf.length > u32Max then OsCall.ofResult (Windows.trySend buf .allocated).2
  else do
    let lastError ← OsCall.observed (.allocateSendPacket buf.length)
      (host.allocateSendPacket buf.length)
    let (handed, result) := Windows.trySend buf (lastError.elim .allocated .refused)
    OsCall.logged (handed.toList.map .sendPacket) result

/-- In nanoseconds -/
def timeout : Nat := 5 * 1000 * 1000000

/-- Exponential backoff: 0, 1, 2, 4, 8, capped at 10ms -/
def nextBackoff (backoff : Nat) : Nat := if backoff = 0 then 1 else min (backoff * 2) 10

def isTriggered : OsCall (List SendCall) Bool :=
  if interruptible then OsCall.observed .waitForSingleObject host.waitForSingleObject
  else pure false

/-- What is done when the ring is full; without an end there is another attempt. -/
def waitForRoom (backoff : Nat) : OsCall (List SendCall) (Option SendEnd) := do
  if ← OsCall.observed .isEnabled host.isEnabled then
    if (← OsCall.observed .elapsed host.elapsed) > timeout then
      OsCall.ofResult (errorOf .timedOut)
    else if ← isTriggered host interruptible then return some .interrupted
    else
      OsCall.logged [if backoff = 0 then .spinLoop else .sleep backoff] (.ok none)
  else OsCall.ofResult disabledError

/-- The loop of `send` for some turns; without an end it was still going on. -/
def sendLoop : (turns backoff : Nat) → OsCall (List SendCall) (Option SendEnd)
  | 0, _ => return none
  | turns + 1, backoff => do
    match ← OsCall.attempt (WinTunSession.trySend host buf) with
    | .ok len => return some (.sent len)
    | .error e =>
      if e.kind = .wouldBlock then
        match ← waitForRoom host interruptible backoff with
        | some ended => return some ended
        | none => sendLoop turns (nextBackoff backoff)
      else OsCall.ofResult (.error e)

def WinTunSession.send (turns : Nat) : OsCall (List SendCall) (Option SendEnd) :=
  sendLoop host interruptible buf turns 0

def whileEnabled {α : Type} (hasSession : List SendCall → Bool) (call : OsCall (List SendCall) α) :
    OsCall (List SendCall) α := do
  if hasSession (← get) then call else OsCall.ofResult disabledError

/-- `send` of an asynchronous device: one attempt, and then a thread that goes on until its event
is set. The adapter has no session when it was disabled before either of them. -/
def AsyncDevice.send (hasSession : List SendCall → Bool) (newCancelable : Result Unit)
    (turns : Nat) : OsCall (List SendCall) (Option SendEnd) := do
  match ← OsCall.attempt (whileEnabled hasSession (WinTunSession.trySend host buf)) with
  | .ok len => return some (.sent len)
  | .error e =>
    if e.kind = .wouldBlock then
      OsCall.ofResult newCancelable
      whileEnabled hasSession (WinTunSession.send host true buf turns)
    else OsCall.ofResult (.error e)

end Loop

/-! ## One turn -/

/-- A clock that does not go back, and sleep that is not too short. -/
structure SendHost.Lawful (host : SendHost) : Prop where
  monotone : ∀ log call, host.elapsed log ≤ host.elapsed (log ++ [call])
  sleeps : ∀ log millis,
    host.elapsed log + millis * 1000000 ≤ host.elapsed (log ++ [.sleep millis])

def attempts (log : List SendCall) : Nat :=
  log.countP fun call => call matches .allocateSendPacket ..

def handed (log : List SendCall) : List (List UInt8) :=
  log.filterMap fun
    | .sendPacket bytes => some bytes
    | _ => none

@[simp] theorem attempts_append (log more : List SendCall) :
    attempts (log ++ more) = attempts log + attempts more := List.countP_append

@[simp] theorem handed_append (log more : List SendCall) :
    handed (log ++ more) = handed log ++ handed more := List.filterMap_append

def Quiet (log : List SendCall) : Prop := attempts log = 0 ∧ handed log = []

theorem Quiet.append {log more : List SendCall} (first : Quiet log) (second : Quiet more) :
    Quiet (log ++ more) := by
  rw [Quiet, attempts_append, handed_append, first.1, first.2, second.1, second.2]
  exact ⟨rfl, rfl⟩

/-- The packet is handed over exactly if its length is returned, after one attempt at most. -/
def TriesOnce (buf : List UInt8) (call : OsCall (List SendCall) Nat) (log : List SendCall) : Prop :=
  ∃ result added, call.on log = (result, log ++ added) ∧ attempts added ≤ 1 ∧
    (result = .ok buf.length ∧ handed added = [buf] ∨
      (∃ error, result = .error error) ∧ handed added = [])

def Unset (host : SendHost) (interruptible : Bool) (log : List SendCall) : Prop :=
  interruptible = true → ∃ more, host.waitForSingleObject (log ++ more) = false

section Turn

variable {host : SendHost} {interruptible : Bool} {buf : List UInt8} {backoff : Nat}

theorem Unset.of_append {log : List SendCall} (added : List SendCall)
    (unset : Unset host interruptible (log ++ added)) : Unset host interruptible log := by
  intro polled
  obtain ⟨more, still⟩ := unset polled
  exact ⟨added ++ more, by rw [← List.append_assoc]; exact still⟩

theorem SendHost.Lawful.grows (lawful : host.Lawful) (log more : List SendCall) :
    host.elapsed log ≤ host.elapsed (log ++ more) := by
  induction more generalizing log with
  | nil => rw [List.append_nil]
  | cons call rest ih =>
    rw [List.append_cons]
    exact (lawful.monotone log call).trans (ih _)

theorem trySend_triesOnce (host : SendHost) (buf : List UInt8) (log : List SendCall) :
    TriesOnce buf (WinTunSession.trySend host buf) log := by
  rw [TriesOnce, WinTunSession.trySend]
  split
  case isTrue long =>
    refine ⟨_, [], by rw [OsCall.on_ofResult, List.append_nil], Nat.zero_le 1, .inr ⟨?_, rfl⟩⟩
    simp only [Windows.trySend, if_pos long]
    exact ⟨_, rfl⟩
  case isFalse =>
    rw [OsCall.on_bind_ok (OsCall.on_observed _ _ log), OsCall.on_logged, List.append_assoc]
    refine ⟨_, _, rfl, ?_, ?_⟩
    · cases Windows.trySend buf _ with
      | mk handed _ => cases handed <;> simp [attempts]
    · rcases trySend_spec buf ((host.allocateSendPacket buf.length log).elim .allocated .refused)
        with sent | ⟨error, failed⟩
      · rw [sent]
        exact .inl ⟨rfl, rfl⟩
      · rw [failed]
        exact .inr ⟨⟨error, rfl⟩, rfl⟩

theorem isTriggered_on (host : SendHost) (interruptible : Bool) (log : List SendCall) :
    ∃ answer added, (isTriggered host interruptible).on log = (.ok answer, log ++ added) ∧
      Quiet added ∧ (interruptible = true → answer = host.waitForSingleObject log) := by
  cases interruptible with
  | true => exact ⟨_, _, OsCall.on_observed _ _ log, ⟨rfl, rfl⟩, fun _ => rfl⟩
  | false => exact ⟨false, [], by rw [List.append_nil]; rfl, ⟨rfl, rfl⟩, nofun⟩

/-- Going on takes the time of the backoff, and the time that was allowed is not over. -/
theorem waitForRoom_on (lawful : host.Lawful) (interruptible : Bool) (backoff : Nat)
    (log : List SendCall) :
    ∃ result added, (waitForRoom host interruptible backoff).on log = (result, log ++ added) ∧
      Quiet added ∧ (∀ len, result ≠ .ok (some (.sent len))) ∧
      (result = .ok none → Unset host interruptible log ∧ host.elapsed log ≤ timeout ∧
        host.elapsed log + backoff * 1000000 ≤ host.elapsed (log ++ added)) := by
  rw [waitForRoom, OsCall.on_bind_ok (OsCall.on_observed _ _ log)]
  split
  case isFalse => exact ⟨_, _, rfl, ⟨rfl, rfl⟩, nofun, nofun⟩
  case isTrue =>
    rw [OsCall.on_bind_ok (OsCall.on_observed _ _ _), List.append_assoc]
    split
    case isTrue => exact ⟨_, _, rfl, ⟨rfl, rfl⟩, nofun, nofun⟩
    case isFalse inTime =>
      have early := (lawful.grows log _).trans (Nat.not_lt.mp inTime)
      have asked : Quiet ([.isEnabled (host.isEnabled log)] ++
          [.elapsed (host.elapsed (log ++ [.isEnabled (host.isEnabled log)]))]) := ⟨rfl, rfl⟩
      generalize ([.isEnabled (host.isEnabled log)] ++
          [.elapsed (host.elapsed (log ++ [.isEnabled (host.isEnabled log)]))] : List SendCall) =
        before at asked ⊢
      obtain ⟨answer, polled, triggered, quiet, polls⟩ :=
        isTriggered_on host interruptible (log ++ before)
      rw [OsCall.on_bind_ok triggered, List.append_assoc]
      split
      case isTrue => exact ⟨_, _, rfl, asked.append quiet, nofun, nofun⟩
      case isFalse unset =>
        rw [OsCall.on_logged, List.append_assoc]
        refine ⟨_, _, rfl, (asked.append quiet).append ?_, nofun, fun _ => ⟨?_, early, ?_⟩⟩
        · split <;> exact ⟨rfl, rfl⟩
        · exact fun polled => ⟨before, polls polled ▸ Bool.eq_false_of_not_eq_true unset⟩
        · rw [← List.append_assoc]
          have before := lawful.grows log (before ++ polled)
          split
          case isTrue zero =>
            rw [zero, Nat.zero_mul, Nat.add_zero]
            exact before.trans (lawful.grows _ _)
          case isFalse => exact (Nat.add_le_add_right before _).trans (lawful.sleeps _ backoff)

end Turn

/-! ## All turns -/

def slept : (pauses backoff : Nat) → Nat
  | 0, _ => 0
  | pauses + 1, backoff => backoff + slept pauses (nextBackoff backoff)

theorem slept_capped (pauses : Nat) : slept pauses 10 = 10 * pauses := by
  induction pauses with
  | zero => rfl
  | succ pauses ih =>
    rw [slept, show nextBackoff 10 = 10 from rfl, ih]
    omega

/-- The pauses grow for a while and then stay the same. -/
theorem slept_start (pauses : Nat) : slept (pauses + 5) 0 = 15 + 10 * pauses := by
  rw [← slept_capped pauses]
  simp [slept, nextBackoff]
  omega

section Run

variable {host : SendHost} {interruptible : Bool} {buf : List UInt8}

/-- A packet was handed over exactly if its length is returned. -/
def DeliveredOnce (buf : List UInt8) (result : Result (Option SendEnd))
    (log : List SendCall) : Prop :=
  result = .ok (some (.sent buf.length)) ∧ handed log = [buf] ∨
    (∀ len, result ≠ .ok (some (.sent len))) ∧ handed log = []

def Ends (buf : List UInt8) (call : OsCall (List SendCall) (Option SendEnd))
    (log : List SendCall) (most : Nat) : Prop :=
  ∃ result added, call.on log = (result, log ++ added) ∧ result ≠ .ok none ∧
    attempts added ≤ most ∧ DeliveredOnce buf result added

theorem refused_ends (error : IoError) (log : List SendCall) (most : Nat) :
    Ends buf (OsCall.ofResult (.error error)) log most :=
  ⟨.error error, [], by rw [OsCall.on_ofResult, List.append_nil], nofun, Nat.zero_le most,
    .inr ⟨nofun, rfl⟩⟩

theorem Ends.after {α : Type} {first : OsCall (List SendCall) α}
    {next : α → OsCall (List SendCall) (Option SendEnd)} {value : α} {log added : List SendCall}
    {tried most : Nat} (ran : first.on log = (.ok value, log ++ added))
    (few : attempts added ≤ tried) (silent : handed added = [])
    (later : Ends buf (next value) (log ++ added) most) :
    Ends buf (first >>= next) log (most + tried) := by
  obtain ⟨result, further, ended, returned, within, delivered⟩ := later
  refine ⟨result, added ++ further, ?_, returned, ?_, ?_⟩
  · rw [OsCall.on_bind_ok ran, ended, List.append_assoc]
  · rw [attempts_append]
    omega
  · rw [DeliveredOnce, handed_append, silent, List.nil_append]
    exact delivered

theorem TriesOnce.ends {first : OsCall (List SendCall) Nat}
    {next : OsCall (List SendCall) (Option SendEnd)} {log : List SendCall} {most : Nat}
    (tries : TriesOnce buf first log) (later : ∀ added, Ends buf next (log ++ added) most) :
    Ends buf (do
      match ← OsCall.attempt first with
      | .ok len => return some (.sent len)
      | .error e => if e.kind = .wouldBlock then next else OsCall.ofResult (.error e))
      log (most + 1) := by
  obtain ⟨tried, added, ran, once, ⟨rfl, sent⟩ | ⟨⟨error, rfl⟩, nothing⟩⟩ := tries
  · refine ⟨.ok (some (.sent buf.length)), added, ?_, nofun, by omega, .inl ⟨rfl, sent⟩⟩
    rw [OsCall.on_bind, OsCall.on_attempt, ran]
    rfl
  · refine Ends.after (by rw [OsCall.on_attempt, ran]) once nothing ?_
    dsimp only
    split
    case isTrue => exact later added
    case isFalse => exact refused_ends error _ most

theorem waitForRoom_ends (lawful : host.Lawful) {backoff most : Nat} {log : List SendCall}
    {next : OsCall (List SendCall) (Option SendEnd)}
    (later : ∀ added, Unset host interruptible log → host.elapsed log ≤ timeout →
      host.elapsed log + backoff * 1000000 ≤ host.elapsed (log ++ added) →
      Ends buf next (log ++ added) most) :
    Ends buf (do
      match ← waitForRoom host interruptible backoff with
      | some ended => return some ended
      | none => next) log most := by
  obtain ⟨waited, added, ran, quiet, unsent, passes⟩ :=
    waitForRoom_on lawful interruptible backoff log
  have few : attempts added ≤ most := quiet.1.le.trans (Nat.zero_le most)
  rcases waited with error | _ | ended
  · exact ⟨.error error, added, OsCall.on_bind_error ran, nofun, few, .inr ⟨nofun, quiet.2⟩⟩
  · obtain ⟨unset, early, elapses⟩ := passes rfl
    exact Ends.after ran quiet.1.le quiet.2 (later added unset early elapses)
  · exact ⟨.ok (some ended), added, OsCall.on_bind_ok ran, nofun, few, .inr ⟨unsent, quiet.2⟩⟩

theorem sendTurn_ends (lawful : host.Lawful) {turns backoff most : Nat} {log : List SendCall}
    (later : ∀ added, Unset host interruptible log → host.elapsed log ≤ timeout →
      host.elapsed log + backoff * 1000000 ≤ host.elapsed (log ++ added) →
      Ends buf (sendLoop host interruptible buf turns (nextBackoff backoff)) (log ++ added) most) :
    Ends buf (sendLoop host interruptible buf (turns + 1) backoff) log (most + 1) := by
  refine (trySend_triesOnce host buf log).ends fun tried => ?_
  refine waitForRoom_ends lawful fun waited unset early elapses => ?_
  have before := lawful.grows log tried
  rw [List.append_assoc] at elapses ⊢
  exact later (tried ++ waited) (unset.of_append tried) (before.trans early) (by omega)

/-- If the pauses that are left take longer than the time that is left, the loop ends. -/
theorem sendLoop_ends (lawful : host.Lawful) {pauses backoff spent : Nat}
    (enough : 5000 < spent + slept pauses backoff) (more : Nat) {log : List SendCall}
    (clock : spent * 1000000 ≤ host.elapsed log) :
    Ends buf (sendLoop host interruptible buf (more + pauses + 1) backoff) log (pauses + 1) := by
  induction pauses generalizing backoff spent log with
  | zero =>
    refine sendTurn_ends lawful fun added _ early => ?_
    have late : timeout < spent * 1000000 := Nat.mul_lt_mul_of_pos_right enough (by decide)
    omega
  | succ pauses ih =>
    refine sendTurn_ends lawful fun added _ _ passes => ?_
    rw [slept, ← Nat.add_assoc] at enough
    refine ih enough ?_
    rw [Nat.add_mul]
    exact (Nat.add_le_add_right clock _).trans passes

/-- A full ring makes the loop sleep for longer than five seconds. -/
theorem sendLoop_start_ends (lawful : host.Lawful) {turns : Nat} (many : 505 ≤ turns)
    (log : List SendCall) : Ends buf (sendLoop host interruptible buf turns 0) log 505 := by
  have start : slept 504 0 = 15 + 10 * 499 := slept_start 499
  have enough : 5000 < 0 + slept 504 0 := by rw [start]; decide
  have clock : 0 * 1000000 ≤ host.elapsed log := by
    rw [Nat.zero_mul]
    exact Nat.zero_le _
  have ends : Ends buf (sendLoop host interruptible buf (turns - 505 + 504 + 1) 0) log 505 :=
    sendLoop_ends lawful enough (turns - 505) clock
  rwa [show turns - 505 + 504 + 1 = turns by omega] at ends

/-- `send` ends after 505 attempts at most, however many turns it is allowed. The packet reaches the
driver once if its length is returned, and not at all otherwise. -/
theorem send_ends (lawful : host.Lawful) (interruptible : Bool) (buf : List UInt8) {turns : Nat}
    (many : 505 ≤ turns) (log : List SendCall) :
    Ends buf (WinTunSession.send host interruptible buf turns) log 505 :=
  sendLoop_start_ends lawful many log

def fillingRing : SendHost where
  allocateSendPacket _ log := if attempts log < 3 then some errorBufferOverflow else none
  isEnabled _ := true
  elapsed log := (log.map fun
    | .sleep millis => millis * 1000000
    | _ => 0).sum
  waitForSingleObject _ := false

theorem fillingRing_lawful : fillingRing.Lawful where
  monotone log call := by simp [fillingRing]
  sleeps log millis := by simp [fillingRing]

/-- The fourth attempt gets the packet through. -/
theorem send_ends_filling :
    Ends [1] (WinTunSession.send fillingRing true [1] 505) [] 505 ∧
      ((WinTunSession.send fillingRing true [1] 505).on []).1 = .ok (some (.sent 1)) ∧
      attempts ((WinTunSession.send fillingRing true [1] 505).on []).2 = 4 :=
  ⟨send_ends fillingRing_lawful true [1] le_rfl [], rfl, rfl⟩

/-! ## Sending asynchronously -/

theorem on_whileEnabled {α : Type} (hasSession : List SendCall → Bool)
    (call : OsCall (List SendCall) α) (log : List SendCall) :
    (whileEnabled hasSession call).on log =
      if hasSession log then call.on log else (disabledError, log) := by
  change (if hasSession log then call else OsCall.ofResult disabledError).on log = _
  split <;> rfl

theorem TriesOnce.whileEnabled {call : OsCall (List SendCall) Nat} {log : List SendCall}
    (tries : TriesOnce buf call log) (hasSession : List SendCall → Bool) :
    TriesOnce buf (whileEnabled hasSession call) log := by
  rw [TriesOnce, on_whileEnabled]
  split
  case isTrue => exact tries
  case isFalse =>
    exact ⟨disabledError, [], by rw [List.append_nil], Nat.zero_le 1, .inr ⟨⟨_, rfl⟩, rfl⟩⟩

theorem Ends.whileEnabled {call : OsCall (List SendCall) (Option SendEnd)} {log : List SendCall}
    {most : Nat} (ends : Ends buf call log most) (hasSession : List SendCall → Bool) :
    Ends buf (whileEnabled hasSession call) log most := by
  rw [Ends, on_whileEnabled]
  split
  case isTrue => exact ends
  case isFalse => exact refused_ends _ log most

/-- The thread sends the packet once or not at all, as it says in the end. When its event was set,
it makes one more attempt at most. -/
theorem asyncSend_ends (lawful : host.Lawful) (hasSession : List SendCall → Bool)
    (newCancelable : Result Unit) {turns : Nat} (many : 505 ≤ turns) :
    (∀ log, Ends buf (AsyncDevice.send host buf hasSession newCancelable turns) log 506) ∧
    ∀ turns backoff log, (∀ more, host.waitForSingleObject (log ++ more) = true) →
      Ends buf (sendLoop host true buf (turns + 1) backoff) log 1 := by
  refine ⟨fun log => ?_, fun turns backoff log set => ?_⟩
  · refine ((trySend_triesOnce host buf log).whileEnabled hasSession).ends fun tried => ?_
    cases newCancelable with
    | error error => exact refused_ends error _ 505
    | ok _ => exact (sendLoop_start_ends lawful many (log ++ tried)).whileEnabled hasSession
  · refine sendTurn_ends lawful fun added unset => ?_
    obtain ⟨more, unset⟩ := unset rfl
    cases (set more).symm.trans unset

def cancelledRing : SendHost :=
  { fillingRing with
    allocateSendPacket := fun _ _ => some errorBufferOverflow
    waitForSingleObject := fun _ => true }

theorem cancelledRing_lawful : cancelledRing.Lawful :=
  ⟨fillingRing_lawful.monotone, fillingRing_lawful.sleeps⟩

/-- The packet is attempted once before there is a thread, and once by it. -/
theorem asyncSend_ends_cancelled :
    Ends [1] (AsyncDevice.send cancelledRing [1] (fun _ => true) (.ok ()) 505) [] 506 ∧
      Ends [1] (sendLoop cancelledRing true [1] 505 0) [] 1 ∧
      ((AsyncDevice.send cancelledRing [1] (fun _ => true) (.ok ()) 505).on []).1 =
        .ok (some .interrupted) ∧
      attempts ((AsyncDevice.send cancelledRing [1] (fun _ => true) (.ok ()) 505).on []).2 = 2 := by
  obtain ⟨ends, cancels⟩ := asyncSend_ends cancelledRing_lawful (fun _ => true) (.ok ()) le_rfl
  exact ⟨ends [], cancels 504 0 [] fun _ => rfl, rfl, rfl⟩

end Run

end QuincyTun.Windows
