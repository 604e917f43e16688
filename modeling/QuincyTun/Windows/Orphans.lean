import QuincyTun.Windows.Adapter

/-! When the searches for an orphaned adapter end, and what a positive answer means.

A `continue` that leaves the index alone makes a search go round for ever. The
search before Windows 8 takes an owner for dead when its process still has the
creation time that was recorded.
-/

set_option autoImplicit false

namespace QuincyTun.Windows

open QuincyTun.Foundation

variable {adapterName : String} {devices : Devices} {reported stuck : Device → Prop}
  {turnAt : Nat → Turn Bool} {i : Nat}

def Devices.PassedAt (devices : Devices) (reported stuck : Device → Prop) (i : Nat) : Prop :=
  ∃ device, devices.enumDeviceInfo i = some (.ok device) ∧ ¬ stuck device ∧ ¬ reported device

theorem TurnOf.advance_iff {turn : Turn Bool} (outcome : TurnOf devices i reported stuck turn) :
    turn = .advance ↔ devices.PassedAt reported stuck i := by
  unfold Devices.PassedAt
  cases outcome with
  | ended entry => simp [entry]
  | failed entry => simp [entry]
  | stuck entry here => simp [entry, here]
  | passed entry free other => simp [entry, free, other]
  | found entry free here => simp [entry, here]

theorem TurnOf.again_iff {turn : Turn Bool} (outcome : TurnOf devices i reported stuck turn) :
    turn = .again ↔ (∃ error, devices.enumDeviceInfo i = some (.error error)) ∨
      ∃ device, devices.enumDeviceInfo i = some (.ok device) ∧ stuck device := by
  cases outcome with
  | ended entry => simp [entry]
  | failed entry => simp [entry]
  | stuck entry here => simp [entry, here]
  | passed entry free other => simp [entry, free]
  | found entry free here => simp [entry, free]

/-! ## Ending -/

/-- The function returns; it has asked for no index twice and released the list once. -/
def Completes (check : Nat → Check) : Prop :=
  ∃ turns orphaned, (check turns).result = some orphaned ∧ (check turns).calls.Nodup ∧
    .destroyDeviceInfoList ∈ (check turns).calls

theorem nodup_calls (visited : List Nat) :
    (visited.map SetupCall.enumDeviceInfo ++ [SetupCall.destroyDeviceInfoList]).Nodup ↔ visited.Nodup := by
  rw [List.nodup_append]
  have distinct : (visited.map SetupCall.enumDeviceInfo).Nodup ↔ visited.Nodup :=
    List.nodup_map_iff fun a b same => SetupCall.enumDeviceInfo.inj same
  rw [distinct]
  simp

section Listed

variable {n : Nat} {orphaned : Bool} (listed : devices.listed = true)
include listed

theorem checkDevices_of_none (found : (Search.after turnAt n).verdict = none) :
    checkDevices devices turnAt n =
      ⟨(Search.after turnAt n).visited.map .enumDeviceInfo, none⟩ := by
  rw [checkDevices, if_neg (by simp [listed])]
  dsimp only
  rw [found]

theorem checkDevices_of_some (found : (Search.after turnAt n).verdict = some orphaned) :
    checkDevices devices turnAt n =
      ⟨(Search.after turnAt n).visited.map .enumDeviceInfo ++ [.destroyDeviceInfoList],
        some orphaned⟩ := by
  rw [checkDevices, if_neg (by simp [listed])]
  dsimp only
  rw [found]

theorem verdict_of_result (returned : (checkDevices devices turnAt n).result = some orphaned) :
    (Search.after turnAt n).verdict = some orphaned := by
  cases found : (Search.after turnAt n).verdict with
  | none =>
    rw [checkDevices_of_none listed found] at returned
    cases returned
  | some other =>
    rw [checkDevices_of_some listed found] at returned
    exact returned

theorem completes_iff_search :
    Completes (checkDevices devices turnAt) ↔
      ∃ n orphaned, (Search.after turnAt n).verdict = some orphaned ∧
        (Search.after turnAt n).visited.Nodup := by
  constructor
  · rintro ⟨n, orphaned, returned, distinct, -⟩
    have found := verdict_of_result listed returned
    rw [checkDevices_of_some listed found] at distinct
    exact ⟨n, orphaned, found, (nodup_calls _).mp distinct⟩
  · rintro ⟨n, orphaned, found, distinct⟩
    refine ⟨n, orphaned, ?_⟩
    rw [checkDevices_of_some listed found]
    exact ⟨rfl, (nodup_calls _).mpr distinct, by simp⟩

theorem completes_of_result (returned : (checkDevices devices turnAt n).result = some orphaned) :
    Completes (checkDevices devices turnAt) := by
  have found := verdict_of_result listed returned
  obtain ⟨i, -, -, here⟩ := Search.of_verdict found
  refine (completes_iff_search listed).mpr ⟨n, orphaned, found, ?_⟩
  rw [here]
  exact List.nodup_range

end Listed

theorem result_unique {m n : Nat} {first second : Bool}
    (returned : (checkDevices devices turnAt m).result = some first)
    (returned' : (checkDevices devices turnAt n).result = some second) : first = second := by
  cases listed : devices.listed with
  | false =>
    rw [checkDevices, if_pos listed] at returned returned'
    exact Option.some.inj (returned.symm.trans returned')
  | true =>
    obtain ⟨i, reached, stops, -⟩ := Search.of_verdict (verdict_of_result listed returned)
    obtain ⟨j, reached', stops', -⟩ := Search.of_verdict (verdict_of_result listed returned')
    rcases Nat.lt_trichotomy i j with below | rfl | above
    · cases stops.symm.trans (reached' i below)
    · exact Turn.stop.inj (stops.symm.trans stops')
    · cases stops'.symm.trans (reached j above)

theorem exists_turnAt (windowsSeven : Bool) (adapterName : String) (devices : Devices) :
    ∃ turnAt, checkAdapterIfOrphanedDevices windowsSeven adapterName devices =
      checkDevices devices turnAt := by
  cases windowsSeven with
  | true => exact ⟨checkDeviceWin7 adapterName devices, rfl⟩
  | false => exact ⟨checkDevice adapterName devices, rfl⟩

theorem reached_iff (turns : ∀ i, TurnOf devices i reported stuck (turnAt i)) :
    Search.Reached turnAt i ↔ ∀ j < i, devices.PassedAt reported stuck j :=
  forall_congr' fun j => forall_congr' fun _ => (turns j).advance_iff

/-- With an end in sight, a search completes exactly when it reaches no entry that fails and no
device that it gets stuck on. -/
theorem completes_iff (finite : devices.Finite) (listed : devices.listed = true)
    (turns : ∀ i, TurnOf devices i reported stuck (turnAt i)) :
    Completes (checkDevices devices turnAt) ↔
      ∀ i, (∀ j < i, devices.PassedAt reported stuck j) →
        ¬ ((∃ error, devices.enumDeviceInfo i = some (.error error)) ∨
          ∃ device, devices.enumDeviceInfo i = some (.ok device) ∧ stuck device) := by
  obtain ⟨count, -, noEntry⟩ := finite
  have ends : turnAt count ≠ .advance := by
    rw [Ne, (turns count).advance_iff]
    rintro ⟨device, entry, -⟩
    cases entry.symm.trans (noEntry count le_rfl)
  rw [completes_iff_search listed, Search.ends_iff ends]
  refine forall_congr' fun i => ?_
  rw [reached_iff turns, Ne, (turns i).again_iff]

theorem index_lt (finite : devices.Finite)
    (turns : ∀ i, TurnOf devices i reported stuck (turnAt i)) (n : Nat) :
    (Search.after turnAt n).index < 2 ^ 32 := by
  obtain ⟨count, small, noEntry⟩ := finite
  have ends : turnAt count ≠ .advance := by
    rw [Ne, (turns count).advance_iff]
    rintro ⟨device, entry, -⟩
    cases entry.symm.trans (noEntry count le_rfl)
  exact (Search.index_le ends n).trans_lt small

/-- Both functions complete exactly when no entry that they reach fails, and the one for
Windows 7 when no device that it reaches has an owner that is taken for alive. -/
theorem enumeration_completes_iff (adapterName : String) (devices : Devices)
    (finite : devices.Finite) (listed : devices.listed = true) :
    (Completes (checkAdapterIfOrphanedDevices false adapterName devices) ↔
      ∀ i, (∀ j < i, ∃ device, devices.enumDeviceInfo j = some (.ok device) ∧
          ¬ device.Reported adapterName) →
        ∀ error, devices.enumDeviceInfo i ≠ some (.error error)) ∧
    (Completes (checkAdapterIfOrphanedDevices true adapterName devices) ↔
      ∀ i, (∀ j < i, ∃ device, devices.enumDeviceInfo j = some (.ok device) ∧
          ¬ device.Blocks devices ∧ device.name ≠ .ok adapterName) →
        (∀ error, devices.enumDeviceInfo i ≠ some (.error error)) ∧
        ∀ device, devices.enumDeviceInfo i = some (.ok device) → ¬ device.Blocks devices) := by
  constructor
  · refine (completes_iff finite listed (checkDevice_turn adapterName devices)).trans ?_
    simp [Devices.PassedAt]
  · refine (completes_iff finite listed (checkDeviceWin7_turn adapterName devices)).trans ?_
    simp [Devices.PassedAt]

def listOf (entries : List (Result Device)) (processes : UInt32 → Option Process) : Devices where
  listed := true
  enumDeviceInfo i := entries[i]?
  openProcess := processes

theorem listOf_finite {entries : List (Result Device)} (processes : UInt32 → Option Process)
    (short : entries.length < 2 ^ 32) : (listOf entries processes).Finite :=
  ⟨entries.length, short, fun _ past => List.getElem?_eq_none past⟩

def tun0 (owner : Option OwningProcess) : Device := ⟨.ok dnHasProblem, .ok "tun0", owner⟩

/-- Devices that both searches pass, and the one that they look for behind them. -/
def crowd : Devices :=
  listOf [.ok ⟨errorOf (.os 13), .ok "eth0", none⟩, .ok ⟨.ok 0, .ok "tun1", some ⟨8, ⟨3, 4⟩⟩⟩,
    .ok ⟨.ok dnHasProblem, errorOf (.os 13), none⟩, .ok (tun0 (some ⟨7, ⟨1, 2⟩⟩))] fun _ => none

theorem enumeration_completes_iff_tun0 :
    Completes (checkAdapterIfOrphanedDevices false "tun0" crowd) ∧
      Completes (checkAdapterIfOrphanedDevices true "tun0" crowd) := by
  obtain ⟨completes, completesWin7⟩ :=
    enumeration_completes_iff "tun0" crowd (listOf_finite _ (by decide)) rfl
  have unfailing : ∀ i error, crowd.enumDeviceInfo i ≠ some (.error error) := by
    intro i error entry
    rcases i with _ | _ | _ | _ | i <;> cases entry
  refine ⟨completes.mpr fun i _ => unfailing i, completesWin7.mpr fun i _ => ⟨unfailing i, ?_⟩⟩
  rintro device - ⟨owner, -, alive⟩
  cases alive

/-- An entry that fails keeps both searches where they are. -/
theorem enumeration_does_not_complete :
    ¬ ∀ (windowsSeven : Bool) (adapterName : String) (devices : Devices), devices.Finite →
      devices.listed = true →
      Completes (checkAdapterIfOrphanedDevices windowsSeven adapterName devices) := by
  intro completes
  have ended := completes false "tun0" (listOf [errorOf (.os 13)] fun _ => none)
    (listOf_finite _ (by decide)) rfl
  have stuck : Search.Reached (checkDevice "tun0" (listOf [errorOf (.os 13)] fun _ => none)) 0 :=
    fun j below => absurd below (Nat.not_lt_zero j)
  rw [checkAdapterIfOrphanedDevices, if_neg (by decide), completes_iff_search rfl] at ended
  obtain ⟨n, orphaned, found, -⟩ := ended
  rw [← Nat.zero_add n, Search.after_again stuck rfl] at found
  cases found

/-! ## A positive answer -/

def Device.InUse (device : Device) (devices : Devices) : Prop :=
  ∃ owningProcess process, device.owner = some owningProcess ∧
    devices.openProcess owningProcess.processId = some process ∧
    process.creationTime = owningProcess.creationTime

/-- There is a recorded owner. It cannot be opened, or its number belongs to a process that was
started at another time. -/
def Device.Abandoned (device : Device) (devices : Devices) : Prop :=
  ∃ owningProcess, device.owner = some owningProcess ∧
    (devices.openProcess owningProcess.processId = none ∨
      ∃ process, devices.openProcess owningProcess.processId = some process ∧
        process.creationTime ≠ owningProcess.creationTime)

/-- What a positive answer of the search before Windows 8 stands for. -/
structure ReportsOrphans (adapterName : String) (devices : Devices) : Prop where
  abandoned : ∀ turns,
    (checkAdapterIfOrphanedDevicesWin7 adapterName devices turns).result = some true →
    ∃ i device, devices.enumDeviceInfo i = some (.ok device) ∧ device.name = .ok adapterName ∧
      device.Abandoned devices
  /-- The answer is about the last device that was asked for. -/
  idle : ∀ turns,
    (checkAdapterIfOrphanedDevicesWin7 adapterName devices turns).result = some true →
    ∃ i device, (checkAdapterIfOrphanedDevicesWin7 adapterName devices turns).calls =
        (List.range (i + 1)).map .enumDeviceInfo ++ [.destroyDeviceInfoList] ∧
      devices.enumDeviceInfo i = some (.ok device) ∧ device.name = .ok adapterName ∧
      ¬ device.InUse devices

/-- An owner that is running, readable, and as old as recorded. -/
def Device.OwnedBy (device : Device) (devices : Devices) (owningProcess : OwningProcess)
    (process : Process) : Prop :=
  device.owner = some owningProcess ∧
    devices.openProcess owningProcess.processId = some process ∧ process.readable = true ∧
    process.creationTime = owningProcess.creationTime

theorem processIsStale_of_running {owningProcess : OwningProcess} {process : Process}
    (running : devices.openProcess owningProcess.processId = some process)
    (same : process.creationTime = owningProcess.creationTime) :
    processIsStale devices owningProcess = process.readable := by
  rw [processIsStale, running]
  cases readable : process.readable <;> simp [readable, same]

/-- An owner that is called stale has gone, or it is the one that was recorded. -/
theorem abandoned_or_ownedBy {device : Device} {owningProcess : OwningProcess}
    (recorded : device.owner = some owningProcess)
    (stale : processIsStale devices owningProcess = true) :
    devices.openProcess owningProcess.processId = none ∨
      ∃ process, device.OwnedBy devices owningProcess process := by
  rw [processIsStale] at stale
  cases running : devices.openProcess owningProcess.processId with
  | none => exact .inl rfl
  | some process =>
    rw [running] at stale
    cases readable : process.readable with
    | false => simp [readable] at stale
    | true =>
      have same : process.creationTime.dwHighDateTime =
            owningProcess.creationTime.dwHighDateTime ∧
          process.creationTime.dwLowDateTime = owningProcess.creationTime.dwLowDateTime := by
        simpa [readable] using stale
      refine .inr ⟨process, recorded, running, readable, ?_⟩
      exact Filetime.ext same.1 same.2

theorem TurnOf.stop_iff {turn : Turn Bool} (outcome : TurnOf devices i reported stuck turn) :
    turn = .stop true ↔
      ∃ device, devices.enumDeviceInfo i = some (.ok device) ∧ ¬ stuck device ∧ reported device := by
  cases outcome with
  | ended entry => simp [entry]
  | failed entry => simp [entry]
  | stuck entry here => simp [entry, here]
  | passed entry free other => simp [entry, other]
  | found entry free here => simp [entry, free, here]

theorem of_result_true (turns : ∀ i, TurnOf devices i reported stuck (turnAt i)) {n : Nat}
    (returned : (checkDevices devices turnAt n).result = some true) :
    devices.listed = true ∧ ∃ i device, (∀ j < i, devices.PassedAt reported stuck j) ∧
      devices.enumDeviceInfo i = some (.ok device) ∧ ¬ stuck device ∧ reported device ∧
      (checkDevices devices turnAt n).calls =
        (List.range (i + 1)).map .enumDeviceInfo ++ [.destroyDeviceInfoList] := by
  cases listed : devices.listed with
  | false =>
    rw [checkDevices, if_pos listed] at returned
    cases returned
  | true =>
    have found := verdict_of_result listed returned
    obtain ⟨i, reached, stops, here⟩ := Search.of_verdict found
    obtain ⟨device, entry, free, same⟩ := (turns i).stop_iff.mp stops
    refine ⟨rfl, i, device, (reached_iff turns).mp reached, entry, free, same, ?_⟩
    rw [checkDevices_of_some listed found, here]

theorem result_true (turns : ∀ i, TurnOf devices i reported stuck (turnAt i))
    (listed : devices.listed = true) (passed : ∀ j < i, devices.PassedAt reported stuck j)
    {device : Device} (entry : devices.enumDeviceInfo i = some (.ok device))
    (free : ¬ stuck device) (here : reported device) :
    checkDevices devices turnAt (i + 1) =
      ⟨(List.range (i + 1)).map .enumDeviceInfo ++ [.destroyDeviceInfoList], some true⟩ := by
  have stops := (turns i).stop_iff.mpr ⟨device, entry, free, here⟩
  have search := Search.after_stop ((reached_iff turns).mpr passed) stops 0
  rw [Nat.add_zero] at search
  rw [checkDevices_of_some listed (by rw [search]), search]

theorem not_reportsOrphans (listed : devices.listed = true) {device : Device}
    (passed : ∀ j < i, devices.PassedAt (·.name = .ok adapterName) (·.Blocks devices) j)
    (entry : devices.enumDeviceInfo i = some (.ok device)) (name : device.name = .ok adapterName)
    {owner : OwningProcess} {process : Process} (owned : device.OwnedBy devices owner process) :
    ¬ ReportsOrphans adapterName devices := by
  obtain ⟨recorded, running, readable, same⟩ := owned
  intro reports
  have stale : processIsStale devices owner = true :=
    (processIsStale_of_running running same).trans readable
  have free : ¬ device.Blocks devices := by
    rintro ⟨other, alsoRecorded, alive⟩
    cases recorded.symm.trans alsoRecorded
    cases stale.symm.trans alive
  have answered := result_true (checkDeviceWin7_turn adapterName devices) listed passed entry free
    name
  obtain ⟨k, found, calls, there, -, idle⟩ := reports.idle (i + 1) (by
    rw [checkAdapterIfOrphanedDevicesWin7, answered])
  -- The device that the answer is about is the one reached here.
  rw [checkAdapterIfOrphanedDevicesWin7, answered] at calls
  have size := congrArg List.length calls
  simp only [List.length_append, List.length_map, List.length_range] at size
  obtain rfl : i = k := by omega
  cases entry.symm.trans there
  exact idle ⟨owner, process, recorded, running, same⟩

/-- No device that is reached under the name may have an owner that is running, readable, and as old
as recorded; one without a recorded owner needs a namesake in the list that was abandoned. -/
theorem reportsOrphans_iff (adapterName : String) (devices : Devices) :
    ReportsOrphans adapterName devices ↔ (devices.listed = true → ∀ i device,
      (∀ j < i, ∃ device, devices.enumDeviceInfo j = some (.ok device) ∧
        ¬ device.Blocks devices ∧ device.name ≠ .ok adapterName) →
      devices.enumDeviceInfo i = some (.ok device) → device.name = .ok adapterName →
      (∀ owningProcess process, ¬ device.OwnedBy devices owningProcess process) ∧
        (device.owner = none → ∃ k namesake, devices.enumDeviceInfo k = some (.ok namesake) ∧
          namesake.name = .ok adapterName ∧ namesake.Abandoned devices)) := by
  constructor
  · intro reports listed i device passed entry name
    refine ⟨fun owner process owned => ?_, fun ownerless => ?_⟩
    · exact not_reportsOrphans listed passed entry name owned reports
    · have free : ¬ device.Blocks devices := by
        rintro ⟨owner, recorded, -⟩
        cases ownerless.symm.trans recorded
      have answered := result_true (checkDeviceWin7_turn adapterName devices) listed passed entry
        free name
      exact reports.abandoned (i + 1) (by rw [checkAdapterIfOrphanedDevicesWin7, answered])
  · intro condition
    constructor
    case abandoned =>
      intro n returned
      obtain ⟨listed, i, device, passed, entry, free, name, -⟩ :=
        of_result_true (checkDeviceWin7_turn adapterName devices) returned
      obtain ⟨idle, namesakes⟩ := condition listed i device passed entry name
      cases recorded : device.owner with
      | none => exact namesakes recorded
      | some owner =>
        have stale : processIsStale devices owner = true := by
          by_contra alive
          exact free ⟨owner, recorded, Bool.eq_false_iff.mpr alive⟩
        refine ⟨i, device, entry, name, owner, recorded, ?_⟩
        rcases abandoned_or_ownedBy recorded stale with gone | ⟨process, owned⟩
        · exact .inl gone
        · exact absurd owned (idle owner process)
    case idle =>
      intro n returned
      obtain ⟨listed, i, device, passed, entry, free, name, calls⟩ :=
        of_result_true (checkDeviceWin7_turn adapterName devices) returned
      refine ⟨i, device, calls, entry, name, ?_⟩
      rintro ⟨owner, process, recorded, running, same⟩
      cases readable : process.readable with
      | true =>
        exact (condition listed i device passed entry name).1 owner process
          ⟨recorded, running, readable, same⟩
      | false =>
        exact free ⟨owner, recorded, (processIsStale_of_running running same).trans readable⟩

/-- The adapter of a process that runs since the recorded time is reported, although it is in use. -/
theorem reports_adapter_in_use :
    ¬ ∀ (adapterName : String) (devices : Devices), ReportsOrphans adapterName devices := by
  intro reports
  have owned : (tun0 (some ⟨7, ⟨1, 2⟩⟩)).OwnedBy (listOf [.ok (tun0 (some ⟨7, ⟨1, 2⟩⟩))]
      fun _ => some ⟨⟨1, 2⟩, true⟩) ⟨7, ⟨1, 2⟩⟩ ⟨⟨1, 2⟩, true⟩ := ⟨rfl, rfl, rfl, rfl⟩
  exact not_reportsOrphans rfl (fun j below => absurd below (Nat.not_lt_zero j)) rfl rfl owned
    (reports "tun0" _)

end QuincyTun.Windows
