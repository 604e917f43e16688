import QuincyTun.Config.Builder
import QuincyTun.Foundation.Descriptors
import QuincyTun.Foundation.Retry
import QuincyTun.Windows.Orphans
import QuincyTun.Windows.WideString

/-! Opening a Windows device: the adapter that is looked for, and the attempts to create one.

Adapters are created anew after a failure, so the same request may be made several times. What
the system answers may depend on everything that happened before.
-/

set_option autoImplicit false

namespace QuincyTun.Windows

open QuincyTun.Foundation QuincyTun.Config

def maxRingCapacity : UInt32 := 0x4000000

def minRingCapacity : UInt32 := 0x20000

/-- Maximum pool name length including zero terminator -/
def maxPool : Nat := 256

/-- A request to the system or to the library of the driver, with the answer. -/
inductive OpenCall where
  | getifaddrs (answer : Result (List String))
  /-- There is no answer while the search goes on. -/
  | checkAdapterIfOrphanedDevices (name : String) (answer : Option Bool)
  | createEvent (answer : Result Nat)
  | loadLibrary (path : String) (answer : Result Nat)
  | getSymbols (library : Nat) (answer : Result Unit)
  | setLogger (library : Nat)
  | openAdapter (library : Nat) (name : List UInt16) (answer : Result Nat)
  | createAdapter (library : Nat) (name tunnelType : List UInt16) (guid : Option (BitVec 128))
    (answer : Result Nat)
  | getAdapterLuid (library adapter : Nat) (answer : UInt64)
  | convertInterfaceLuidToIndex (luid : UInt64) (answer : Result UInt32)
  | closeAdapter (library adapter : Nat)
  | deleteDriver (library : Nat)
  | freeLibrary (library : Nat)
  | closeEvent (event : Nat)

/-- What the system answers after some requests were made. -/
structure OpenSystem where
  /-- The descriptions of all adapters. -/
  getifaddrs : List OpenCall → Result (List String)
  isWindowsSeven : Bool
  /-- What a search for an orphaned adapter finds. -/
  devices : List OpenCall → Devices
  createEvent : List OpenCall → Result Nat
  loadLibrary : String → List OpenCall → Result Nat
  getSymbols : Nat → List OpenCall → Result Unit
  openAdapter : List UInt16 → List OpenCall → Result Nat
  createAdapter : List UInt16 → List UInt16 → Option (BitVec 128) → List OpenCall → Result Nat
  getAdapterLuid : Nat → List OpenCall → UInt64
  convertInterfaceLuidToIndex : UInt64 → List OpenCall → Result UInt32

structure WinTunAdapter where
  winTun : Nat
  handle : Nat
  event : Nat
  ringCapacity : UInt32
  deleteDriver : Bool
  deriving DecidableEq, Repr

structure TunDevice where
  index : UInt32
  luid : UInt64
  winTunAdapter : WinTunAdapter
  deriving DecidableEq, Repr

/-- What `drop` itself does, before the fields are dropped. -/
def WinTunAdapter.close (adapter : WinTunAdapter) : OsCall (List OpenCall) Unit := do
  OsCall.logged [.closeAdapter adapter.winTun adapter.handle] (.ok ())
  if adapter.deleteDriver then OsCall.logged [.deleteDriver adapter.winTun] (.ok ())

def TunDevice.drop (device : TunDevice) : OsCall (List OpenCall) Unit := do
  device.winTunAdapter.close
  OsCall.logged [.freeLibrary device.winTunAdapter.winTun] (.ok ())
  OsCall.logged [.closeEvent device.winTunAdapter.event] (.ok ())

def checkCapacity (ringCapacity : UInt32) : Result Unit :=
  if minRingCapacity ≤ ringCapacity ∧ ringCapacity ≤ maxRingCapacity then .ok ()
  else otherError
    s!"ring capacity {ringCapacity} not in [{minRingCapacity},{maxRingCapacity}]"

def wintunNew (system : OpenSystem) (path : String) : OsCall (List OpenCall) Nat := do
  let library ← OsCall.asked (.loadLibrary path) (system.loadLibrary path)
  OsCall.orElseUndo (OsCall.logged [.freeLibrary library] (.ok ())) do
    OsCall.asked (.getSymbols library) (system.getSymbols library)
    return library

def setDefaultLogger (wintunLog : Bool) (winTun : Nat) : OsCall (List OpenCall) Unit :=
  if wintunLog then OsCall.logged [.setLogger winTun] (.ok ()) else pure ()

/-- What `open` and `create` do, apart from the request for the adapter. -/
def withAdapter (system : OpenSystem) (wintunPath : String) (ringCapacity : UInt32)
    (deleteDriver wintunLog : Bool) (request : Nat → OsCall (List OpenCall) Nat) :
    OsCall (List OpenCall) TunDevice := do
  let event ← OsCall.asked .createEvent system.createEvent
  OsCall.orElseUndo (OsCall.logged [.closeEvent event] (.ok ())) do
    let winTun ← wintunNew system wintunPath
    OsCall.orElseUndo (OsCall.logged [.freeLibrary winTun] (.ok ())) do
      setDefaultLogger wintunLog winTun
      let handle ← request winTun
      let luid ← OsCall.observed (.getAdapterLuid winTun handle) (system.getAdapterLuid handle)
      let winTunAdapter : WinTunAdapter := { winTun, handle, event, ringCapacity, deleteDriver }
      OsCall.orElseUndo winTunAdapter.close do
        let index ← OsCall.asked (.convertInterfaceLuidToIndex luid)
          (system.convertInterfaceLuidToIndex luid)
        return { index, luid, winTunAdapter }

def TunDevice.open (system : OpenSystem) (wintunPath name : String) (ringCapacity : UInt32)
    (deleteDriver wintunLog : Bool) : OsCall (List OpenCall) TunDevice := do
  OsCall.ofResult (checkCapacity ringCapacity)
  let nameUtf16 := encodeUtf16 name
  OsCall.ofResult (if nameUtf16.length > maxPool then otherError "name too long" else .ok ())
  withAdapter system wintunPath ringCapacity deleteDriver wintunLog fun winTun =>
    OsCall.asked (.openAdapter winTun nameUtf16) (system.openAdapter nameUtf16)

def TunDevice.create (system : OpenSystem) (wintunPath name description : String)
    (guid : Option (BitVec 128)) (ringCapacity : UInt32) (deleteDriver wintunLog : Bool) :
    OsCall (List OpenCall) TunDevice := do
  OsCall.ofResult (checkCapacity ringCapacity)
  let nameUtf16 := encodeUtf16 name
  let descriptionUtf16 := encodeUtf16 description
  OsCall.ofResult (if nameUtf16.length > maxPool then otherError "name too long" else .ok ())
  OsCall.ofResult
    (if descriptionUtf16.length > maxPool then otherError "tunnel type too long" else .ok ())
  withAdapter system wintunPath ringCapacity deleteDriver wintunLog fun winTun =>
    OsCall.asked (.createAdapter winTun nameUtf16 descriptionUtf16 guid)
      (system.createAdapter nameUtf16 descriptionUtf16 guid)

/-! ## The loop of `new` -/

section New

variable (system : OpenSystem) (config : DeviceConfig)

def openNamed (name : String) : OsCall (List OpenCall) TunDevice :=
  TunDevice.open system (config.wintunFile.getD "wintun.dll") name
    (config.ringCapacity.getD 0x200000) (config.deleteDriver.getD false)
    (config.wintunLog.getD false)

def createNamed (name : String) : OsCall (List OpenCall) TunDevice :=
  TunDevice.create system (config.wintunFile.getD "wintun.dll") name
    (config.description.getD name) config.deviceGuid (config.ringCapacity.getD 0x200000)
    (config.deleteDriver.getD false) (config.wintunLog.getD false)

def OpenSystem.search (name : String) (log : List OpenCall) : Nat → Check :=
  checkAdapterIfOrphanedDevices system.isWindowsSeven name (system.devices log)

/-- Each search makes at most the given number of turns. -/
def isOrphanedAdapter (searchTurns : List OpenCall → Nat) (name : String) :
    OsCall (List OpenCall) (Option Bool) :=
  OsCall.observed (.checkAdapterIfOrphanedDevices name) fun log =>
    (system.search name log (searchTurns log)).result

def defaultName (count : Nat) : String := "tun" ++ count.repr

def createOrRetry (name : String) (attempts : Nat)
    (again : OsCall (List OpenCall) (Option TunDevice)) :
    OsCall (List OpenCall) (Option TunDevice) := do
  match ← OsCall.attempt (createNamed system config name) with
  | .ok tunDevice => return some tunDevice
  | .error e => if attempts > 3 then OsCall.ofResult (.error e) else again

/-- The loop for some turns; without a device it was still going on. -/
def newLoop (searchTurns : List OpenCall → Nat) (interfaces : List String) :
    (turns count attempts : Nat) → OsCall (List OpenCall) (Option TunDevice)
  | 0, _, _ => return none
  | turns + 1, count, attempts => do
    let name := config.devName.getD (defaultName count)
    let again := newLoop searchTurns interfaces turns (count + 1) (attempts + 1)
    if name ∈ interfaces then
      if config.devName.isNone then newLoop searchTurns interfaces turns (count + 1) attempts
      else
        match ← isOrphanedAdapter system searchTurns name with
        | none => return none
        | some true => createOrRetry system config name attempts again
        | some false => return some (← openNamed system config name)
    else createOrRetry system config name attempts again

/-- `DeviceImpl::new`, whose loops make at most the given numbers of turns. -/
def DeviceImpl.new (searchTurns : List OpenCall → Nat) (turns : Nat) :
    OsCall (List OpenCall) (Option TunDevice) := do
  let interfaces ← OsCall.asked .getifaddrs system.getifaddrs
  newLoop system config searchTurns interfaces turns 0 0

end New

/-! ## What the loop amounts to -/

section Attempts

variable {system : OpenSystem} {config : DeviceConfig} {interfaces : List String}
  {searchTurns : List OpenCall → Nat} {count attempts turns : Nat} {name : String}

theorem defaultName_injective : defaultName.Injective := by
  intro m n same
  have digits := congrArg String.toList same
  rw [defaultName, defaultName, String.toList_append, String.toList_append,
    List.append_cancel_left_eq, Nat.toList_repr, Nat.toList_repr] at digits
  have read := congrArg (Nat.ofDigitChars 10 · 0) digits
  simpa only [Nat.ofDigitChars_ten_toDigits] using read

open Classical in
/-- What a search returns in the end, if it does. -/
noncomputable def OpenSystem.orphaned (system : OpenSystem) (name : String) (log : List OpenCall) :
    Bool :=
  decide (∃ turns, (system.search name log turns).result = some true)

open Classical in
theorem OpenSystem.result_eq {log : List OpenCall} {n : Nat} {orphaned : Bool}
    (returned : (system.search name log n).result = some orphaned) :
    system.orphaned name log = orphaned := by
  obtain ⟨turnAt, same⟩ := exists_turnAt system.isWindowsSeven name (system.devices log)
  rw [OpenSystem.search, same] at returned
  rw [OpenSystem.orphaned]
  cases orphaned with
  | true =>
    refine decide_eq_true ⟨n, ?_⟩
    rwa [OpenSystem.search, same]
  | false =>
    refine decide_eq_false ?_
    rintro ⟨m, other⟩
    rw [OpenSystem.search, same] at other
    cases result_unique returned other

/-- Every search for the configured name through a list of devices is completed. -/
def OpenSystem.SearchesComplete (system : OpenSystem) (config : DeviceConfig) : Prop :=
  ∀ name, config.devName = some name → ∀ log, (system.devices log).listed = true →
    Completes (system.search name log)

def Suffices (system : OpenSystem) (config : DeviceConfig) (searchTurns : List OpenCall → Nat) :
    Prop :=
  ∀ name, config.devName = some name → ∀ log,
    (system.search name log (searchTurns log)).result = some (system.orphaned name log)

theorem OpenSystem.SearchesComplete.exists_turns (complete : system.SearchesComplete config)
    (named : config.devName = some name) (log : List OpenCall) :
    ∃ turns orphaned, (system.search name log turns).result = some orphaned := by
  cases listed : (system.devices log).listed with
  | true =>
    obtain ⟨turns, orphaned, returned, -⟩ := complete name named log listed
    exact ⟨turns, orphaned, returned⟩
  | false =>
    obtain ⟨turnAt, same⟩ := exists_turnAt system.isWindowsSeven name (system.devices log)
    refine ⟨0, false, ?_⟩
    rw [OpenSystem.search, same, checkDevices, if_pos listed]

theorem OpenSystem.SearchesComplete.exists_suffices (complete : system.SearchesComplete config) :
    ∃ searchTurns, Suffices system config searchTurns := by
  cases named : config.devName with
  | none => exact ⟨fun _ => 0, fun name given => absurd (named.symm.trans given) nofun⟩
  | some given =>
    choose turns orphaned returned using complete.exists_turns named
    refine ⟨turns, fun name same log => ?_⟩
    obtain rfl : given = name := Option.some.inj (named.symm.trans same)
    rw [returned log, OpenSystem.result_eq (returned log)]

theorem isOrphanedAdapter_eq (lasts : Suffices system config searchTurns) (named : config.devName = some name) :
    isOrphanedAdapter system searchTurns name = some <$>
      OsCall.observed (.checkAdapterIfOrphanedDevices name ∘ some) (system.orphaned name) := by
  have found : (fun log => (system.search name log (searchTurns log)).result) =
      fun log => some (system.orphaned name log) := funext (lasts name named)
  rw [isOrphanedAdapter, found]
  rfl

/-- What is attempted after so many attempts have failed: a new adapter under the next default name
that is not taken; or the adapter with the given name, unless that is orphaned and created anew. -/
noncomputable def attemptAt (system : OpenSystem) (config : DeviceConfig)
    (interfaces : List String) (attempts : Nat) : OsCall (List OpenCall) (Result TunDevice) :=
  match config.devName with
  | none =>
    OsCall.attempt (createNamed system config
      (defaultName (Nat.nth (Free defaultName interfaces) attempts)))
  | some name =>
    if name ∈ interfaces then do
      if ← OsCall.observed (.checkAdapterIfOrphanedDevices name ∘ some) (system.orphaned name) then
        OsCall.attempt (createNamed system config name)
      else return .ok (← openNamed system config name)
    else OsCall.attempt (createNamed system config name)

theorem createOrRetry_eq {attempt : Nat → OsCall (List OpenCall) (Result TunDevice)}
    {again : OsCall (List OpenCall) (Option TunDevice)} (few : attempts ≤ 4)
    (later : attempts < 4 → again = some <$> OsCall.retry attempt (attempts + 1) (3 - attempts)) :
    createOrRetry system config name attempts again =
      OsCall.attempt (createNamed system config name) >>= fun result =>
        some <$> OsCall.settle attempt attempts result (4 - attempts) := by
  refine bind_congr fun result => ?_
  cases result with
  | ok tunDevice => rw [OsCall.settle_ok, map_pure]
  | error e =>
    dsimp only
    rcases Nat.eq_or_lt_of_le few with rfl | below
    · rfl
    · rw [if_neg (by omega), later below, show 4 - attempts = 3 - attempts + 1 by omega]
      rfl

/-- Numbers that are taken are passed over, so the attempts so far are the free numbers so far. -/
theorem newLoop_unnamed (unnamed : config.devName = none)
    (tried : attempts = Nat.count (Free defaultName interfaces) count) (few : attempts ≤ 4)
    (enough : interfaces.length + 5 ≤ turns + count) :
    newLoop system config searchTurns interfaces turns count attempts =
      some <$> OsCall.retry (attemptAt system config interfaces) attempts (4 - attempts) := by
  induction turns generalizing count attempts with
  | zero =>
    have := le_count_free defaultName_injective interfaces count
    omega
  | succ turns ih =>
    rw [newLoop, unnamed, Option.getD_none]
    split
    case isTrue taken =>
      have same := Nat.count_succ_eq_count (p := Free defaultName interfaces) (not_not_intro taken)
      exact ih (tried.trans same.symm) few (by omega)
    case isFalse free =>
      have next := Nat.count_succ_eq_succ_count (p := Free defaultName interfaces) free
      have here : attemptAt system config interfaces attempts =
          OsCall.attempt (createNamed system config (defaultName count)) := by
        rw [attemptAt, unnamed, tried, Nat.nth_count free]
      rw [OsCall.retry_eq, map_bind, here]
      refine createOrRetry_eq few fun below => ?_
      have left : 3 - attempts = 4 - (attempts + 1) := by omega
      rw [ih (by rw [next, tried]) (by omega) (by omega), left]

theorem newLoop_named (lasts : Suffices system config searchTurns)
    (named : config.devName = some name) (few : attempts ≤ 4)
    (enough : 5 ≤ turns + attempts) :
    newLoop system config searchTurns interfaces turns count attempts =
      some <$> OsCall.retry (attemptAt system config interfaces) attempts (4 - attempts) := by
  induction turns generalizing count attempts with
  | zero => omega
  | succ turns ih =>
    have later (below : attempts < 4) :
        newLoop system config searchTurns interfaces turns (count + 1) (attempts + 1) =
          some <$> OsCall.retry (attemptAt system config interfaces) (attempts + 1)
            (3 - attempts) := by
      rw [ih (by omega) (by omega), show 3 - attempts = 4 - (attempts + 1) by omega]
    rw [newLoop, OsCall.retry_eq, map_bind, attemptAt, named, Option.getD_some]
    dsimp only
    split
    case isFalse => exact createOrRetry_eq few later
    case isTrue =>
      rw [if_neg nofun, isOrphanedAdapter_eq lasts named, bind_map_left, bind_assoc]
      refine bind_congr fun orphaned => ?_
      cases orphaned with
      | true => exact createOrRetry_eq few later
      | false =>
        rw [if_neg Bool.false_ne_true, bind_assoc]
        refine bind_congr fun tunDevice => ?_
        rw [pure_bind, OsCall.settle_ok, map_pure]

/-- What `new` is for: five attempts at most, with the names of the adapters as they were before
the first one. -/
noncomputable def fiveAttempts (system : OpenSystem) (config : DeviceConfig) :
    OsCall (List OpenCall) TunDevice := do
  let interfaces ← OsCall.asked OpenCall.getifaddrs system.getifaddrs
  OsCall.retry (attemptAt system config interfaces) 0 4

/-- If the searches are completed, `new` comes to an end, with the outcome of at most five attempts.
The default names that are tried are those that no adapter has, each of them once and in the order
of their numbers. If the first search is not completed, `new` does not come to an end. -/
theorem new_retries (system : OpenSystem) (config : DeviceConfig) :
    (system.SearchesComplete config → ∃ searchTurns, Suffices system config searchTurns) ∧
    (∀ searchTurns, Suffices system config searchTurns → ∀ log, ∃ enough, ∀ turns ≥ enough,
      (DeviceImpl.new system config searchTurns turns).on log =
        (some <$> fiveAttempts system config).on log) ∧
    (∀ interfaces, StrictMono (Nat.nth (Free defaultName interfaces)) ∧
      ∀ count, defaultName count ∉ interfaces ↔
        ∃ k, Nat.nth (Free defaultName interfaces) k = count) ∧
    ∀ log interfaces name, system.getifaddrs log = .ok interfaces → config.devName = some name →
      name ∈ interfaces →
      (system.devices (log ++ [.getifaddrs (.ok interfaces)])).listed = true →
      ¬ Completes (system.search name (log ++ [.getifaddrs (.ok interfaces)])) →
      ∀ searchTurns turns, ((DeviceImpl.new system config searchTurns turns).on log).1 = .ok none := by
  refine ⟨OpenSystem.SearchesComplete.exists_suffices, fun searchTurns lasts log => ?_,
    fun interfaces => ?_,
    fun log interfaces name answer named taken listed endless searchTurns turns => ?_⟩
  · have answered := OsCall.on_asked OpenCall.getifaddrs system.getifaddrs log
    rw [fiveAttempts, map_bind]
    cases answer : system.getifaddrs log with
    | error error =>
      rw [answer] at answered
      exact ⟨0, fun turns _ => by rw [DeviceImpl.new, OsCall.on_bind_error answered,
        OsCall.on_bind_error answered]⟩
    | ok interfaces =>
      rw [answer] at answered
      refine ⟨interfaces.length + 5, fun turns enough => ?_⟩
      rw [DeviceImpl.new, OsCall.on_bind_ok answered, OsCall.on_bind_ok answered]
      congr 1
      cases named : config.devName with
      | none => exact newLoop_unnamed named (Nat.count_zero _).symm (Nat.zero_le 4) enough
      | some name => exact newLoop_named lasts named (Nat.zero_le 4) (by omega)
  · have infinite := infinite_free defaultName_injective interfaces
    refine ⟨Nat.nth_strictMono infinite, fun count => ?_⟩
    exact (Set.ext_iff.mp (Nat.range_nth_of_infinite infinite) count).symm
  · have answered := OsCall.on_asked OpenCall.getifaddrs system.getifaddrs log
    rw [answer] at answered
    rw [DeviceImpl.new, OsCall.on_bind_ok answered]
    cases turns with
    | zero => rfl
    | succ turns =>
      have still (n : Nat) :
          (system.search name (log ++ [.getifaddrs (.ok interfaces)]) n).result = none := by
        by_contra found
        obtain ⟨orphaned, returned⟩ := Option.ne_none_iff_exists'.mp found
        obtain ⟨turnAt, same⟩ := exists_turnAt system.isWindowsSeven name
          (system.devices (log ++ [.getifaddrs (.ok interfaces)]))
        rw [OpenSystem.search, same] at endless returned
        exact endless (completes_of_result listed returned)
      rw [newLoop, named, Option.getD_some, if_pos taken, if_neg nofun, isOrphanedAdapter,
        OsCall.on_bind_ok (OsCall.on_observed _ _ _), still]
      rfl

def busySystem : OpenSystem where
  getifaddrs _ := .ok ["tun0"]
  isWindowsSeven := false
  devices _ := crowd
  createEvent _ := .ok 1
  loadLibrary _ _ := .ok 2
  getSymbols _ _ := .ok ()
  openAdapter _ _ := .ok 3
  createAdapter name _ _ log :=
    if log.any fun call => call matches .createAdapter .. then .ok name.length
    else errorOf (.os 31)
  getAdapterLuid handle _ := .ofNat handle
  convertInterfaceLuidToIndex luid _ := .ok luid.toUInt32

example : ∃ device log, (DeviceImpl.new busySystem {} (fun _ => 0) 3).on [] =
      (.ok (some device), log) ∧
    (log.any fun call =>
      call matches .createAdapter 2 [0x74, 0x75, 0x6e, 0x32, 0] _ _ (.ok _)) := by
  refine ⟨_, _, rfl, ?_⟩
  decide

/-- The search for `tun0` finds the fourth device each time, and the adapter is created in the second
attempt. -/
theorem new_retries_orphaned : ∃ enough device log, ∀ turns ≥ enough,
    (DeviceImpl.new busySystem { devName := some "tun0" } (fun _ => 4) turns).on [] =
      (.ok (some device), log) := by
  have lasts : Suffices busySystem { devName := some "tun0" } fun _ => 4 := by
    rintro name ⟨⟩ log
    have found : (busySystem.search "tun0" log 4).result = some true := rfl
    rw [found, OpenSystem.result_eq found]
  obtain ⟨enough, ends⟩ := (new_retries busySystem { devName := some "tun0" }).2.1 _ lasts []
  have ran : ∃ device log, (DeviceImpl.new busySystem { devName := some "tun0" } (fun _ => 4)
      (enough + 2)).on [] = (.ok (some device), log) := ⟨_, _, rfl⟩
  obtain ⟨device, log, ran⟩ := ran
  refine ⟨enough, device, log, fun turns many => ?_⟩
  rw [ends turns many, ← ends (enough + 2) (Nat.le_add_right ..), ran]

end Attempts

/-! ## What is held open -/

inductive Handle where
  | event (handle : Nat)
  | library (handle : Nat)
  | adapter (handle : Nat)
  deriving DecidableEq, Repr

/-- Adapters and loggers need the library that they belong to. -/
def windowsLedger : Foundation.Ledger OpenCall Handle where
  opened
    | .createEvent answer => answer.toOption.map .event
    | .loadLibrary _ answer => answer.toOption.map .library
    | .openAdapter _ _ answer | .createAdapter _ _ _ _ answer => answer.toOption.map .adapter
    | _ => none
  used
    | .getSymbols library _ | .setLogger library | .openAdapter library _ _
    | .createAdapter library _ _ _ _ | .closeAdapter library _ | .deleteDriver library =>
      [.library library]
    | .getAdapterLuid library adapter _ => [.library library, .adapter adapter]
    | _ => []
  closed
    | .closeAdapter _ adapter => some (.adapter adapter)
    | .freeLibrary library => some (.library library)
    | .closeEvent event => some (.event event)
    | _ => none

def WinTunAdapter.handles (adapter : WinTunAdapter) : Multiset Handle :=
  .adapter adapter.handle ::ₘ .library adapter.winTun ::ₘ .event adapter.event ::ₘ 0

section Holds

open QuincyTun.Foundation.Ledger

variable {before failed : Multiset Handle}

theorem uses_nothing : ∀ handle ∈ ([] : List Handle), handle ∈ before := List.forall_mem_nil _

theorem uses_library {winTun : Nat} (isOpen : .library winTun ∈ before) :
    ∀ handle ∈ [Handle.library winTun], handle ∈ before := List.forall_mem_singleton.mpr isOpen

theorem close_holds (adapter : WinTunAdapter) (isOpen : .library adapter.winTun ∈ before) :
    windowsLedger.Holds (.adapter adapter.handle ::ₘ before) adapter.close (fun _ => before)
      failed := by
  refine (Holds.closes (uses_library isOpen) rfl ()).bind fun _ => ?_
  cases adapter.deleteDriver with
  | true => exact .does rfl (uses_library isOpen) rfl ()
  | false => exact .pure _ () (fun _ => before) failed

theorem drop_holds (device : TunDevice) :
    windowsLedger.Holds device.winTunAdapter.handles device.drop (fun _ => 0) 0 := by
  rw [WinTunAdapter.handles]
  refine (close_holds device.winTunAdapter (Multiset.mem_cons_self _ _)).bind fun _ => ?_
  refine (Holds.closes uses_nothing rfl ()).bind fun _ => ?_
  exact .closes uses_nothing rfl ()

theorem wintunNew_holds (system : OpenSystem) (path : String) :
    windowsLedger.Holds before (wintunNew system path) (fun winTun => .library winTun ::ₘ before)
      before := by
  refine (Holds.asked fun _ => .opensAs rfl uses_nothing rfl).bind fun winTun => ?_
  refine .orElseUndo (.closes uses_nothing rfl ()) ?_
  have isOpen : .library winTun ∈ Handle.library winTun ::ₘ before := Multiset.mem_cons_self _ _
  refine (Holds.asked fun _ => .asks rfl (uses_library isOpen) rfl _).bind fun _ => ?_
  exact .pure _ winTun (fun winTun => .library winTun ::ₘ before) _

theorem setDefaultLogger_holds (wintunLog : Bool) {winTun : Nat}
    (isOpen : .library winTun ∈ before) :
    windowsLedger.Holds before (setDefaultLogger wintunLog winTun) (fun _ => before) failed := by
  cases wintunLog with
  | true => exact .does rfl (uses_library isOpen) rfl ()
  | false => exact .pure _ () (fun _ => before) failed

theorem withAdapter_holds (system : OpenSystem) (wintunPath : String) (ringCapacity : UInt32)
    (deleteDriver wintunLog : Bool) {request : Nat → OsCall (List OpenCall) Nat}
    (opens : ∀ winTun before, .library winTun ∈ before →
      windowsLedger.Holds before (request winTun) (fun handle => .adapter handle ::ₘ before)
        before) :
    windowsLedger.Holds 0
      (withAdapter system wintunPath ringCapacity deleteDriver wintunLog request)
      (·.winTunAdapter.handles) 0 := by
  refine (Holds.asked fun _ => .opensAs rfl uses_nothing rfl).bind fun event => ?_
  refine .orElseUndo (.closes uses_nothing rfl ()) ?_
  refine (wintunNew_holds system wintunPath).bind fun winTun => ?_
  refine .orElseUndo (.closes uses_nothing rfl ()) ?_
  have isOpen : .library winTun ∈ Handle.library winTun ::ₘ .event event ::ₘ 0 :=
    Multiset.mem_cons_self _ _
  refine (setDefaultLogger_holds wintunLog isOpen).bind fun _ => ?_
  refine (opens winTun _ isOpen).bind fun handle => ?_
  have both : ∀ other ∈ [Handle.library winTun, .adapter handle],
      other ∈ Handle.adapter handle ::ₘ .library winTun ::ₘ .event event ::ₘ 0 := by simp
  refine (Holds.observed (fun _ => rfl) (fun _ => both) fun _ => rfl).bind fun luid => ?_
  refine .orElseUndo (close_holds ⟨winTun, handle, event, ringCapacity, deleteDriver⟩ isOpen) ?_
  refine (Holds.asked fun _ => .asks rfl uses_nothing rfl _).bind fun index => ?_
  exact .pure _ (TunDevice.mk index luid ⟨winTun, handle, event, ringCapacity, deleteDriver⟩)
    (·.winTunAdapter.handles) _

variable {system : OpenSystem} {config : DeviceConfig}

theorem openNamed_holds (name : String) :
    windowsLedger.Holds 0 (openNamed system config name) (·.winTunAdapter.handles) 0 := by
  refine (Holds.ofResult _ 0 _).bind fun _ => ?_
  refine (Holds.ofResult _ 0 _).bind fun _ => ?_
  exact withAdapter_holds system _ _ _ _ fun winTun before isOpen =>
    .asked fun _ => .opensAs rfl (uses_library isOpen) rfl

theorem createNamed_holds (name : String) :
    windowsLedger.Holds 0 (createNamed system config name) (·.winTunAdapter.handles) 0 := by
  refine (Holds.ofResult _ 0 _).bind fun _ => ?_
  refine (Holds.ofResult _ 0 _).bind fun _ => ?_
  refine (Holds.ofResult _ 0 _).bind fun _ => ?_
  exact withAdapter_holds system _ _ _ _ fun winTun before isOpen =>
    .asked fun _ => .opensAs rfl (uses_library isOpen) rfl

def heldBy (device : Option TunDevice) : Multiset Handle :=
  device.elim 0 (·.winTunAdapter.handles)

theorem createOrRetry_holds {name : String} {attempts : Nat}
    {again : OsCall (List OpenCall) (Option TunDevice)}
    (later : windowsLedger.Holds 0 again heldBy 0) :
    windowsLedger.Holds 0 (createOrRetry system config name attempts again) heldBy 0 := by
  refine (createNamed_holds name).attempt.bind fun result => ?_
  cases result with
  | ok device => exact .pure _ (some device) heldBy 0
  | error e =>
    dsimp only
    split
    · exact .fails _ e heldBy 0
    · exact later

theorem newLoop_holds {searchTurns : List OpenCall → Nat} {interfaces : List String}
    {turns count attempts : Nat} :
    windowsLedger.Holds 0 (newLoop system config searchTurns interfaces turns count attempts) heldBy
      0 := by
  induction turns generalizing count attempts with
  | zero => exact .pure _ none heldBy 0
  | succ turns ih =>
    rw [newLoop]
    split
    case isFalse => exact createOrRetry_holds ih
    case isTrue =>
      split
      case isTrue => exact ih
      case isFalse =>
        refine (Holds.observed (fun _ => rfl) (fun _ => uses_nothing) fun _ => rfl).bind
          fun orphaned => ?_
        match orphaned with
        | none => exact .pure _ none heldBy 0
        | some true => exact createOrRetry_holds ih
        | some false =>
          exact (openNamed_holds _).bind fun device => .pure _ (some device) heldBy 0

/-- Whatever is configured, whatever the system answers and however many attempts fail: a device
holds one event, one library and one adapter, and gives them back when it is dropped; without a
device nothing is left open. No function of the library is called when the library is not loaded,
and no adapter is used or closed that is not open. -/
theorem new_holds (system : OpenSystem) (config : DeviceConfig) :
    (∀ searchTurns turns,
      windowsLedger.Holds 0 (DeviceImpl.new system config searchTurns turns) heldBy 0) ∧
    ∀ device : TunDevice,
      windowsLedger.Holds device.winTunAdapter.handles device.drop (fun _ => 0) 0 :=
  ⟨fun _ _ => (Holds.asked fun _ => .asks rfl uses_nothing rfl _).bind fun _ =>
    newLoop_holds, drop_holds⟩

end Holds

end QuincyTun.Windows
