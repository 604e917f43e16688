import QuincyTun.Foundation.Bytes

/-! Checked execution: every access and every arithmetic step that can abort the
program is a `Run`, so the absence of panics is a statement about results.

The rules `_ok` turn a checked operation into its total counterpart under the
bound that the operation tests; `Run.bind_eq_ok` takes a finished run apart.
-/

set_option autoImplicit false

namespace QuincyTun.Foundation

inductive Panic where
  | outOfRange
  | overflow
  | divisionByZero
  | expectation (message : String)
  deriving DecidableEq, Repr

abbrev Run (α : Type) := Except Panic α

instance decidableEqExcept {ε α : Type} [DecidableEq ε] [DecidableEq α] :
    DecidableEq (Except ε α)
  | .ok a, .ok b => decidable_of_iff (a = b) (Except.ok.injEq a b).to_iff.symm
  | .error a, .error b => decidable_of_iff (a = b) (Except.error.injEq a b).to_iff.symm
  | .ok _, .error _ => .isFalse nofun
  | .error _, .ok _ => .isFalse nofun

variable {α β : Type}

@[simp] theorem Run.ok_bind (value : α) (next : α → Run β) :
    (Except.ok value >>= next : Run β) = next value := rfl

@[simp] theorem Run.error_bind (panic : Panic) (next : α → Run β) :
    (Except.error panic >>= next : Run β) = .error panic := rfl

@[simp] theorem Run.pure_eq_ok (value : α) : (pure value : Run α) = .ok value := rfl

theorem Run.bind_eq_ok {first : Run α} {next : α → Run β} {result : β} :
    first >>= next = .ok result ↔ ∃ value, first = .ok value ∧ next value = .ok result := by
  cases first with
  | error panic => simp
  | ok value => simp

@[simp] theorem Run.toOption_ok (value : α) : (Except.ok value : Run α).toOption = some value := rfl

@[simp] theorem Run.toOption_error (panic : Panic) :
    (Except.error panic : Run α).toOption = none := rfl

theorem Run.toOption_eq_some {run : Run α} {value : α} :
    run.toOption = some value ↔ run = .ok value := by
  cases run with
  | error panic => simp [Except.toOption]
  | ok value => simp [Except.toOption]

theorem Run.toOption_bind (first : Run α) (next : α → Run β) :
    (first >>= next).toOption = first.toOption.bind fun value => (next value).toOption := by
  cases first with
  | error panic => rfl
  | ok value => rfl

/-! ## Indexing and slicing -/

def index (xs : List α) (i : Nat) : Run α :=
  match xs[i]? with
  | some x => .ok x
  | none => .error .outOfRange

def setIndex (xs : List α) (i : Nat) (x : α) : Run (List α) :=
  if i < xs.length then .ok (xs.set i x) else .error .outOfRange

def getByte (bytes : List UInt8) (i : Nat) : Run UInt8 :=
  if i < bytes.length then .ok (byteAt bytes i) else .error .outOfRange

def sliceFrom (xs : List α) (start : Nat) : Run (List α) :=
  if start ≤ xs.length then .ok (xs.drop start) else .error .outOfRange

def slice (xs : List α) (start stop : Nat) : Run (List α) :=
  if start ≤ stop ∧ stop ≤ xs.length then .ok (window xs start (stop - start))
  else .error .outOfRange

/-- `bytes[start..stop].copy_from_slice(source)` -/
def copyInto (xs : List α) (start stop : Nat) (source : List α) : Run (List α) :=
  if start ≤ stop ∧ stop ≤ xs.length ∧ source.length = stop - start then
    .ok (overwrite xs start source)
  else .error .outOfRange

def setByte (bytes : List UInt8) (i : Nat) (value : UInt8) : Run (List UInt8) :=
  if i < bytes.length then .ok (overwrite bytes i [value]) else .error .outOfRange

def readU16 (bytes : List UInt8) (i : Nat) : Run UInt16 :=
  if i + 2 ≤ bytes.length then .ok (u16At bytes i) else .error .outOfRange

def readU32 (bytes : List UInt8) (i : Nat) : Run UInt32 :=
  if i + 4 ≤ bytes.length then .ok (u32At bytes i) else .error .outOfRange

def writeU16 (bytes : List UInt8) (i : Nat) (value : UInt16) : Run (List UInt8) :=
  if i + 2 ≤ bytes.length then .ok (overwrite bytes i (be16 value)) else .error .outOfRange

def writeU32 (bytes : List UInt8) (i : Nat) (value : UInt32) : Run (List UInt8) :=
  if i + 4 ≤ bytes.length then .ok (overwrite bytes i (be32 value)) else .error .outOfRange

theorem index_eq_ok {xs : List α} {i : Nat} {x : α} : index xs i = .ok x ↔ xs[i]? = some x := by
  unfold index
  cases xs[i]? <;> simp

theorem index_ok {xs : List α} {i : Nat} {x : α} (found : xs[i]? = some x) :
    index xs i = .ok x := index_eq_ok.mpr found

theorem setIndex_ok {xs : List α} {i : Nat} {x : α} (bound : i < xs.length) :
    setIndex xs i x = .ok (xs.set i x) := if_pos bound

theorem getByte_ok {bytes : List UInt8} {i : Nat} (bound : i < bytes.length) :
    getByte bytes i = .ok (byteAt bytes i) := if_pos bound

theorem sliceFrom_ok {xs : List α} {start : Nat} (bound : start ≤ xs.length) :
    sliceFrom xs start = .ok (xs.drop start) := if_pos bound

theorem slice_ok {xs : List α} {start stop : Nat} (order : start ≤ stop)
    (bound : stop ≤ xs.length) : slice xs start stop = .ok (window xs start (stop - start)) :=
  if_pos ⟨order, bound⟩

theorem copyInto_ok {xs : List α} {start stop : Nat} {source : List α} (order : start ≤ stop)
    (bound : stop ≤ xs.length) (size : source.length = stop - start) :
    copyInto xs start stop source = .ok (overwrite xs start source) :=
  if_pos ⟨order, bound, size⟩

theorem setByte_ok {bytes : List UInt8} {i : Nat} {value : UInt8} (bound : i < bytes.length) :
    setByte bytes i value = .ok (overwrite bytes i [value]) := if_pos bound

theorem readU16_ok {bytes : List UInt8} {i : Nat} (bound : i + 2 ≤ bytes.length) :
    readU16 bytes i = .ok (u16At bytes i) := if_pos bound

theorem readU32_ok {bytes : List UInt8} {i : Nat} (bound : i + 4 ≤ bytes.length) :
    readU32 bytes i = .ok (u32At bytes i) := if_pos bound

theorem writeU16_ok {bytes : List UInt8} {i : Nat} {value : UInt16}
    (bound : i + 2 ≤ bytes.length) :
    writeU16 bytes i value = .ok (overwrite bytes i (be16 value)) := if_pos bound

/-! ## Checked arithmetic and conversions -/

def addU8 (a b : UInt8) : Run UInt8 :=
  if a.toNat + b.toNat < 256 then .ok (a + b) else .error .overflow

def addU16 (a b : UInt16) : Run UInt16 :=
  if a.toNat + b.toNat < 65536 then .ok (a + b) else .error .overflow

def subU16 (a b : UInt16) : Run UInt16 :=
  if b.toNat ≤ a.toNat then .ok (a - b) else .error .overflow

def mulU32 (a b : Nat) : Run UInt32 :=
  if a * b < 2 ^ 32 then .ok (UInt32.ofNat (a * b)) else .error .overflow

def addU64 (a b : Nat) : Run Nat :=
  if a + b < 2 ^ 64 then .ok (a + b) else .error .overflow

def subLen (a b : Nat) : Run Nat :=
  if b ≤ a then .ok (a - b) else .error .overflow

def remLen (a b : Nat) : Run Nat :=
  if b = 0 then .error .divisionByZero else .ok (a % b)

/-- `n.try_into().expect(message)` at `u8`. -/
def expectU8 (n : Nat) (message : String) : Run UInt8 :=
  if n < 256 then .ok (UInt8.ofNat n) else .error (.expectation message)

def expectU16 (n : Nat) (message : String) : Run UInt16 :=
  if n < 65536 then .ok (UInt16.ofNat n) else .error (.expectation message)

theorem addU8_ok {a b : UInt8} (fits : a.toNat + b.toNat < 256) : addU8 a b = .ok (a + b) :=
  if_pos fits

theorem addU16_ok {a b : UInt16} (fits : a.toNat + b.toNat < 65536) :
    addU16 a b = .ok (a + b) := if_pos fits

theorem subU16_ok {a b : UInt16} (fits : b.toNat ≤ a.toNat) : subU16 a b = .ok (a - b) :=
  if_pos fits

theorem mulU32_ok {a b : Nat} (fits : a * b < 2 ^ 32) :
    mulU32 a b = .ok (UInt32.ofNat (a * b)) := if_pos fits

theorem addU64_ok {a b : Nat} (fits : a + b < 2 ^ 64) :
    addU64 a b = .ok (a + b) := if_pos fits

/-- Checked additions overflow exactly when the whole sum does. -/
theorem addU64_bind (a b c : Nat) : (addU64 a b >>= fun sum => addU64 sum c) = addU64 a (b + c) := by
  unfold addU64
  by_cases room : a + b < 2 ^ 64
  · rw [if_pos room, Run.ok_bind, Nat.add_assoc]
  · rw [if_neg room, Run.error_bind, if_neg (by omega)]

theorem subLen_ok {a b : Nat} (fits : b ≤ a) : subLen a b = .ok (a - b) := if_pos fits

theorem subLen_eq_ok {a b c : Nat} : subLen a b = .ok c ↔ b ≤ a ∧ c = a - b := by
  unfold subLen
  split
  case isTrue fits => simp [fits, eq_comm]
  case isFalse below => simp [below]

theorem remLen_ok {a b : Nat} (nonzero : b ≠ 0) : remLen a b = .ok (a % b) := if_neg nonzero

theorem expectU8_ok {n : Nat} {message : String} (fits : n < 256) :
    expectU8 n message = .ok (UInt8.ofNat n) := if_pos fits

theorem expectU16_ok {n : Nat} {message : String} (fits : n < 65536) :
    expectU16 n message = .ok (UInt16.ofNat n) := if_pos fits

end QuincyTun.Foundation
