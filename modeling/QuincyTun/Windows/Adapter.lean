import QuincyTun.Foundation.IoError
import QuincyTun.Foundation.Search

/-! Looking for an orphaned adapter of a given name.

The system enumerates its devices by an index and answers queries about each of
them. Before Windows 8 a device has no status to go by; there the process that
is recorded as its owner decides.
-/

set_option autoImplicit false

namespace QuincyTun.Windows

open QuincyTun.Foundation

@[ext]
structure Filetime where
  dwHighDateTime : UInt32
  dwLowDateTime : UInt32
  deriving DecidableEq, Repr

structure OwningProcess where
  processId : UInt32
  creationTime : Filetime
  deriving DecidableEq, Repr

structure Process where
  creationTime : Filetime
  readable : Bool
  deriving DecidableEq, Repr

structure Device where
  devNodeStatus : Result UInt32
  name : Result String
  /-- The property that records the owner, when it is there and of binary type. -/
  owner : Option OwningProcess

structure Devices where
  /-- Whether there is a device list at all. -/
  listed : Bool
  /-- An entry can fail; the enumeration ends where there is no entry. -/
  enumDeviceInfo : Nat → Option (Result Device)
  /-- The processes that can be opened. -/
  openProcess : UInt32 → Option Process

/-- The indices are 32 bits wide, and from some of them on there is no entry. -/
def Devices.Finite (devices : Devices) : Prop :=
  ∃ count < 2 ^ 32, ∀ i, count ≤ i → devices.enumDeviceInfo i = none

def dnHasProblem : UInt32 := 0x400

def processIsStale (devices : Devices) (owningProcess : OwningProcess) : Bool :=
  match devices.openProcess owningProcess.processId with
  | none => true
  | some process =>
    if process.readable = false then false
    else
      process.creationTime.dwHighDateTime == owningProcess.creationTime.dwHighDateTime &&
        process.creationTime.dwLowDateTime == owningProcess.creationTime.dwLowDateTime

/-- The name is compared last in both loops. -/
def compareName (adapterName : String) (device : Device) : Turn Bool :=
  match device.name with
  | .error _ => .advance
  | .ok name => if adapterName = name then .stop true else .advance

def checkDevice (adapterName : String) (devices : Devices) (index : Nat) : Turn Bool :=
  match devices.enumDeviceInfo index with
  | none => .stop false
  -- This `continue` leaves the index where it is.
  | some (.error _) => .again
  | some (.ok device) =>
    match device.devNodeStatus with
    | .error _ => .advance
    | .ok status =>
      if status &&& dnHasProblem = 0 then .advance else compareName adapterName device

def checkDeviceWin7 (adapterName : String) (devices : Devices) (index : Nat) : Turn Bool :=
  match devices.enumDeviceInfo index with
  | none => .stop false
  | some (.error _) => .again
  | some (.ok device) =>
    match device.owner with
    | none => compareName adapterName device
    | some owningProcess =>
      -- An owner that is taken for alive is passed over by the same kind of `continue`.
      if processIsStale devices owningProcess then compareName adapterName device else .again

inductive SetupCall where
  | enumDeviceInfo (memberIndex : Nat)
  | destroyDeviceInfoList
  deriving DecidableEq, Repr

/-- The calls so far, and the result once the function has returned. -/
structure Check where
  calls : List SetupCall
  result : Option Bool
  deriving DecidableEq, Repr

/-- The function after a number of turns of its loop. Without a list it returns at once. -/
def checkDevices (devices : Devices) (turnAt : Nat → Turn Bool) (turns : Nat) : Check :=
  if devices.listed = false then ⟨[], some false⟩
  else
    let search := Search.after turnAt turns
    match search.verdict with
    | none => ⟨search.visited.map .enumDeviceInfo, none⟩
    | some orphaned =>
      ⟨search.visited.map .enumDeviceInfo ++ [.destroyDeviceInfoList], some orphaned⟩

def checkAdapterIfOrphanedDevicesWin7 (adapterName : String) (devices : Devices) : Nat → Check :=
  checkDevices devices (checkDeviceWin7 adapterName devices)

def checkAdapterIfOrphanedDevices (windowsSeven : Bool) (adapterName : String)
    (devices : Devices) : Nat → Check :=
  if windowsSeven then checkAdapterIfOrphanedDevicesWin7 adapterName devices
  else checkDevices devices (checkDevice adapterName devices)

/-! ## One turn -/

section Turns

variable {adapterName : String} {devices : Devices} {i : Nat}

theorem compareName_stop {device : Device} (same : device.name = .ok adapterName) :
    compareName adapterName device = .stop true := by
  rw [compareName, same]
  exact if_pos rfl

theorem compareName_advance {device : Device} (differs : device.name ≠ .ok adapterName) :
    compareName adapterName device = .advance := by
  unfold compareName
  cases found : device.name with
  | error error => rfl
  | ok name =>
    refine if_neg fun same => differs ?_
    rw [found, same]

def Device.Reported (device : Device) (adapterName : String) : Prop :=
  (∃ status, device.devNodeStatus = .ok status ∧ status &&& dnHasProblem ≠ 0) ∧
    device.name = .ok adapterName

/-- The recorded owner is not stale by the test of the source. -/
def Device.Blocks (device : Device) (devices : Devices) : Prop :=
  ∃ owningProcess, device.owner = some owningProcess ∧
    processIsStale devices owningProcess = false

/-- What one turn does, with every way to leave it. -/
inductive TurnOf (devices : Devices) (i : Nat) (reported stuck : Device → Prop) :
    Turn Bool → Prop
  | ended (none : devices.enumDeviceInfo i = none) :
      TurnOf devices i reported stuck (.stop false)
  | failed {error : IoError} (entry : devices.enumDeviceInfo i = some (.error error)) :
      TurnOf devices i reported stuck .again
  | stuck {device : Device} (entry : devices.enumDeviceInfo i = some (.ok device))
      (here : stuck device) : TurnOf devices i reported stuck .again
  | passed {device : Device} (entry : devices.enumDeviceInfo i = some (.ok device))
      (free : ¬ stuck device) (other : ¬ reported device) :
      TurnOf devices i reported stuck .advance
  | found {device : Device} (entry : devices.enumDeviceInfo i = some (.ok device))
      (free : ¬ stuck device) (here : reported device) :
      TurnOf devices i reported stuck (.stop true)

theorem checkDevice_turn (adapterName : String) (devices : Devices) (i : Nat) :
    TurnOf devices i (·.Reported adapterName) (fun _ => False)
      (checkDevice adapterName devices i) := by
  unfold checkDevice
  cases entry : devices.enumDeviceInfo i with
  | none => exact .ended entry
  | some answer =>
    cases answer with
    | error error => exact .failed entry
    | ok device =>
      have free : ¬ False := id
      dsimp only
      cases status : device.devNodeStatus with
      | error error =>
        -- A device whose status cannot be read is passed over.
        have other : ¬ device.Reported adapterName := by
          rintro ⟨⟨_, known, -⟩, -⟩
          cases status.symm.trans known
        exact .passed entry free other
      | ok flags =>
        dsimp only
        by_cases problem : flags &&& dnHasProblem = 0
        · have other : ¬ device.Reported adapterName := by
            rintro ⟨⟨_, known, other⟩, -⟩
            cases status.symm.trans known
            exact other problem
          rw [if_pos problem]
          exact .passed entry free other
        · rw [if_neg problem]
          by_cases same : device.name = .ok adapterName
          · have reported : device.Reported adapterName := ⟨⟨flags, status, problem⟩, same⟩
            rw [compareName_stop same]
            exact .found entry free reported
          · have other : ¬ device.Reported adapterName := fun reported => same reported.2
            rw [compareName_advance same]
            exact .passed entry free other

theorem checkDeviceWin7_turn (adapterName : String) (devices : Devices) (i : Nat) :
    TurnOf devices i (·.name = .ok adapterName) (·.Blocks devices)
      (checkDeviceWin7 adapterName devices i) := by
  have compared {device : Device} (entry : devices.enumDeviceInfo i = some (.ok device))
      (free : ¬ device.Blocks devices) :
      TurnOf devices i (·.name = .ok adapterName) (·.Blocks devices)
        (compareName adapterName device) := by
    by_cases same : device.name = .ok adapterName
    · rw [compareName_stop same]
      exact .found entry free same
    · rw [compareName_advance same]
      exact .passed entry free same
  unfold checkDeviceWin7
  cases entry : devices.enumDeviceInfo i with
  | none => exact .ended entry
  | some answer =>
    cases answer with
    | error error => exact .failed entry
    | ok device =>
      dsimp only
      -- A device blocks the search only while a process that is not stale owns it.
      cases owner : device.owner with
      | none =>
        have free : ¬ device.Blocks devices := by
          rintro ⟨_, known, -⟩
          cases owner.symm.trans known
        exact compared entry free
      | some owningProcess =>
        dsimp only
        by_cases stale : processIsStale devices owningProcess = true
        · have free : ¬ device.Blocks devices := by
            rintro ⟨_, known, alive⟩
            cases owner.symm.trans known
            cases stale.symm.trans alive
          rw [if_pos stale]
          exact compared entry free
        · have blocks : device.Blocks devices :=
            ⟨owningProcess, owner, Bool.eq_false_iff.mpr stale⟩
          rw [if_neg stale]
          exact .stuck entry blocks

end Turns

end QuincyTun.Windows
