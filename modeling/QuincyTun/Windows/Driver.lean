import QuincyTun.Foundation.IoError

/-! One attempt to use the ring of the Wintun driver. The driver and the rest of the
system answer as they like; what the session makes of an answer is fixed.
-/

set_option autoImplicit false

namespace QuincyTun.Windows

open QuincyTun.Foundation

def errorInvalidData : Nat := 13
def errorHandleEof : Nat := 38
def errorBufferOverflow : Nat := 111
def errorNoMoreItems : Nat := 259

def u32Max : Nat := 4294967295

def disabledError {α : Type} : Result α := otherError "The interface has been disabled"

def isWouldBlock {α : Type} : Result α → Bool
  | .error error => error.kind == .wouldBlock
  | .ok _ => false

/-! ## Sending -/

inductive SendAnswer where
  | allocated
  | refused (lastError : Nat)
  | noSession
  deriving DecidableEq, Repr

def sendError (lastError : Nat) : Result Nat :=
  if lastError = errorHandleEof then errorOf .writeZero
  else if lastError = errorBufferOverflow then errorOf .wouldBlock
  else if lastError = errorInvalidData then errorOf .invalidData
  else errorOf (.os lastError)

/-- `try_send`: the packet that reaches the driver, if any, and the result. -/
def trySend (buf : List UInt8) (answer : SendAnswer) : Option (List UInt8) × Result Nat :=
  match answer with
  | .noSession => (none, disabledError)
  | .allocated | .refused _ =>
    if buf.length > u32Max then
      let len := buf.length
      (none, invalidInput
        s!"Buffer too large: {len} bytes exceeds maximum size of {u32Max} bytes")
    else
      match answer with
      | .refused lastError => (none, sendError lastError)
      | .allocated | .noSession => (some buf, .ok buf.length)

inductive SendWait where
  | again
  | disabled
  | timedOut
  deriving DecidableEq, Repr

def sendRound (buf : List UInt8) (answer : SendAnswer) (wait : SendWait) :
    Option (List UInt8) × Option (Result Nat) :=
  let (handed, result) := trySend buf answer
  if isWouldBlock result then
    match wait with
    | .again => (handed, none)
    | .disabled => (handed, some disabledError)
    | .timedOut => (handed, some (errorOf .timedOut))
  else (handed, some result)

/-- A packet reaches the driver exactly when the result is its length. -/
theorem trySend_spec (buf : List UInt8) (answer : SendAnswer) :
    trySend buf answer = (some buf, .ok buf.length) ∨
      ∃ error, trySend buf answer = (none, .error error) := by
  unfold trySend
  cases answer with
  | noSession => exact .inr ⟨_, rfl⟩
  | allocated =>
    simp only []
    split
    · exact .inr ⟨_, rfl⟩
    · exact .inl rfl
  | refused lastError =>
    simp only []
    split
    · exact .inr ⟨_, rfl⟩
    · unfold sendError
      split_ifs <;> exact .inr ⟨_, rfl⟩

theorem sendRound_spec (buf : List UInt8) (answer : SendAnswer) (wait : SendWait) :
    sendRound buf answer wait = (some buf, some (.ok buf.length)) ∨
      sendRound buf answer wait = (none, none) ∨
      ∃ error, sendRound buf answer wait = (none, some (.error error)) := by
  unfold sendRound
  rcases trySend_spec buf answer with sent | ⟨error, failed⟩
  · rw [sent]
    exact .inl rfl
  · rw [failed]
    simp only []
    split
    · cases wait with
      | again => exact .inr (.inl rfl)
      | disabled | timedOut => exact .inr (.inr ⟨_, rfl⟩)
    · exact .inr (.inr ⟨_, rfl⟩)

/-! ## Receiving -/

inductive RecvAnswer where
  | packet (bytes : List UInt8)
  | refused (lastError : Nat)
  | noSession
  deriving DecidableEq, Repr

def recvError {α : Type} (lastError : Nat) : Result α :=
  if lastError = errorHandleEof then errorOf .unexpectedEof
  else if lastError = errorNoMoreItems then errorOf .wouldBlock
  else errorOf (.os lastError)

/-- `try_recv` into a buffer of `dstLen` bytes; a packet that does not fit is released. -/
def tryRecv (dstLen : Nat) (answer : RecvAnswer) : Result (List UInt8) :=
  match answer with
  | .packet bytes =>
    if bytes.length > dstLen then invalidInput "destination buffer too small" else .ok bytes
  | .refused lastError => recvError lastError
  | .noSession => disabledError

inductive RecvWait where
  | again
  | disabled
  | failed (lastError : Nat)
  deriving DecidableEq, Repr

def recvRound (dstLen : Nat) (answer : RecvAnswer) (wait : RecvWait) :
    Option (Result (List UInt8)) :=
  let result := tryRecv dstLen answer
  if isWouldBlock result then
    match wait with
    | .again => none
    | .disabled => some disabledError
    | .failed lastError => some (errorOf (.os lastError))
  else some result

theorem recvError_eq {α : Type} (lastError : Nat) :
    ∃ error, (recvError lastError : Result α) = .error error := by
  unfold recvError
  split_ifs <;> exact ⟨_, rfl⟩

theorem tryRecv_spec (dstLen : Nat) (answer : RecvAnswer) :
    (∃ bytes, answer = .packet bytes ∧ bytes.length ≤ dstLen ∧ tryRecv dstLen answer = .ok bytes) ∨
      (∃ bytes error, answer = .packet bytes ∧ dstLen < bytes.length ∧
        tryRecv dstLen answer = .error error ∧ isWouldBlock (tryRecv dstLen answer) = false) ∨
      (∀ bytes, answer ≠ .packet bytes) ∧ ∃ error, tryRecv dstLen answer = .error error := by
  cases answer with
  | packet bytes =>
    by_cases long : bytes.length > dstLen
    · have answered : tryRecv dstLen (.packet bytes) = invalidInput "destination buffer too small" :=
        if_pos long
      exact .inr (.inl ⟨bytes, _, rfl, long, answered, by rw [answered]; rfl⟩)
    · exact .inl ⟨bytes, rfl, Nat.not_lt.mp long, if_neg long⟩
  | refused lastError => exact .inr (.inr ⟨nofun, recvError_eq lastError⟩)
  | noSession => exact .inr (.inr ⟨nofun, _, rfl⟩)

end QuincyTun.Windows
