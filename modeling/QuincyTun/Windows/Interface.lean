import QuincyTun.Config.Builder
import QuincyTun.Windows.Addresses
import QuincyTun.Windows.Session

/-! Windows interfaces as the builder configures them.

An interface is up while its adapter has a session. The addresses and the MTU are with the
system, whether there is a session or not.
-/

set_option autoImplicit false

namespace QuincyTun.Windows

open QuincyTun.Foundation QuincyTun.Config

variable {σ : Type} {result : Result Unit}

structure IpInterfaceRow where
  isV4 : Bool
  interfaceIndex : Nat
  nlMtu : Nat
  sitePrefixLength : Nat
  deriving DecidableEq, Repr

/-- The interface of an adapter, with the calls for its MTU and the calls of the driver. A handle
that is null is no handle. -/
structure Interface (σ : Type) extends Kernel σ where
  index : Nat
  tables : σ → Tables
  /-- `NlMtu` for IPv4 -/
  mtu : σ → Nat
  getIpInterfaceEntry : (isV4 : Bool) → (index : Nat) → StateM σ (Nat × IpInterfaceRow)
  setIpInterfaceEntry : IpInterfaceRow → StateM σ Nat
  wintunStartSession : StateM σ (Option Nat)
  wintunGetReadWaitEvent : Nat → StateM σ (Option Nat)
  wintunEndSession : Nat → StateM σ Unit
  getLastError : StateM σ Nat
  setEvent : OsCall σ Unit
  resetEvent : OsCall σ Unit

/-- What an adapter has stored between its calls. They hold its locks while the two differ. -/
structure Stored where
  /-- `State.state` -/
  enabled : Bool
  session : Option Nat
  agrees : enabled = session.isSome

def Stored.nothing : Stored := ⟨false, none, rfl⟩

def Stored.ofSession (handle : Nat) : Stored := ⟨true, some handle, rfl⟩

section Calls

variable (interface : Interface σ)

def lastOsError {α : Type} : OsCall σ α := do
  OsCall.ofResult (errorOf (.os (← interface.getLastError)))

def setInterfaceMtu (index mtu : Nat) (isV4 : Bool) : OsCall σ Unit := do
  let (code, row) ← interface.getIpInterfaceEntry isV4 index
  winResult code
  winResult (← interface.setIpInterfaceEntry { row with nlMtu := mtu, sitePrefixLength := 0 })

def setMtu (mtu : UInt16) : OsCall σ Unit := setInterfaceMtu interface interface.index mtu.toNat true

def startSession : OsCall σ Nat := do
  match ← interface.wintunStartSession with
  | none => lastOsError interface
  | some handle =>
    match ← interface.wintunGetReadWaitEvent handle with
    | none => do
      interface.wintunEndSession handle
      lastOsError interface
    | some _ => return handle

def enable : OsCall (σ × Stored) Unit := do
  let (_, stored) ← get
  if stored.enabled then return ()
  else do
    let handle ← OsCall.onFst (startSession interface)
    modify fun (s, _) => (s, .ofSession handle)

def disable : OsCall (σ × Stored) Unit := do
  let (_, stored) ← get
  if stored.enabled then do
    -- The flag is put back if this fails.
    OsCall.onFst interface.setEvent
    OsCall.onFst (stored.session.forM fun handle => interface.wintunEndSession handle)
    modify fun (s, _) => (s, .nothing)
    OsCall.onFst interface.resetEvent
  else return ()

def enabled (value : Bool) : OsCall (σ × Stored) Unit :=
  if value then enable interface else disable interface

def device : Config.Device (σ × Stored) where
  setMtu mtu := OsCall.onFst (setMtu interface mtu)
  setNetworkAddress addr len destination :=
    OsCall.onFst (setNetworkAddress interface.toKernel interface.index addr len destination)
  addAddressV6 addr len := OsCall.onFst (addAddressV6 interface.toKernel interface.index addr len)
  enabled := enabled interface

end Calls

/-! ## What the calls do -/

structure Kernel.Keeps {γ : Type} (kernel : Kernel σ) (view : σ → γ) : Prop where
  getAddresses : ∀ isV4 s, view ((kernel.getUnicastIpAddressTable isV4).run s).2 = view s
  createAddress : ∀ row s, view ((kernel.createUnicastIpAddressEntry row).run s).2 = view s
  deleteAddress : ∀ row s, view ((kernel.deleteUnicastIpAddressEntry row).run s).2 = view s
  getRoutes : ∀ isV4 s, view ((kernel.getIpForwardTable2 isV4).run s).2 = view s
  createRoute : ∀ row s, view ((kernel.createIpForwardEntry2 row).run s).2 = view s
  deleteRoute : ∀ row s, view ((kernel.deleteIpForwardEntry2 row).run s).2 = view s

structure Interface.KeepsIpv4 (interface : Interface σ) (s after : σ) : Prop where
  held : (interface.tables after).held interface.index true =
    (interface.tables s).held interface.index true
  gateways : (interface.tables after).gateways interface.index true =
    (interface.tables s).gateways interface.index true

/-- An interface that comes up keeps its MTU and its addresses, and may get IPv6 addresses. -/
structure Interface.ComesUp (interface : Interface σ) (s after : σ) : Prop
    extends interface.KeepsIpv4 s after where
  mtu : interface.mtu after = interface.mtu s
  ipv6 : (interface.tables s).held interface.index false ⊆
    (interface.tables after).held interface.index false

/-- The system and the driver as they are documented. An event that was set can be reset. -/
structure Interface.Lawful (interface : Interface σ) : Prop
    extends interface.toKernel.Lawful interface.tables where
  mtuStays : interface.toKernel.Keeps interface.mtu
  getRow : ∀ isV4 index s code row after,
    (interface.getIpInterfaceEntry isV4 index).run s = ((code, row), after) →
    interface.tables after = interface.tables s ∧
      (code = noError → row.isV4 = isV4 ∧ row.interfaceIndex = index)
  setRow : ∀ row s code after,
    (interface.setIpInterfaceEntry row).run s = (code, after) →
    interface.KeepsIpv4 s after ∧
      (code = noError → row.isV4 = true → row.interfaceIndex = interface.index →
        interface.mtu after = row.nlMtu)
  starts : ∀ s, interface.ComesUp s (interface.wintunStartSession.run s).2
  givesWaitEvent : ∀ handle s,
    interface.ComesUp s ((interface.wintunGetReadWaitEvent handle).run s).2
  resets : ∀ s, (interface.resetEvent.on s).1 = .ok ()

def Interface.link (interface : Interface σ) (state : σ × Stored) : Link where
  mtu := interface.mtu state.1
  ipv4 := {net | ⟨interface.index, .v4 net.1, net.2⟩ ∈ (interface.tables state.1).addresses}
  ipv6 := {net | ⟨interface.index, .v6 net.1, net.2⟩ ∈ (interface.tables state.1).addresses}
  up := state.2.enabled

theorem Interface.ComesUp.trans {interface : Interface σ} {s between after : σ}
    (first : interface.ComesUp s between) (second : interface.ComesUp between after) :
    interface.ComesUp s after where
  held := second.held.trans first.held
  gateways := second.gateways.trans first.gateways
  mtu := second.mtu.trans first.mtu
  ipv6 := first.ipv6.trans second.ipv6

namespace Kernel.Keeps

variable {γ : Type} {kernel : Kernel σ} {view : σ → γ}

theorem lift {α : Type} {answer : StateM σ α} (keeps : ∀ s, view (answer.run s).2 = view s) :
    (liftM answer : OsCall σ α).Keeps view := fun s => keeps s

theorem winResult (code : Nat) : (winResult code : OsCall σ Unit).Keeps view := .ofResult _

theorem winResultUnlessExists (code : Nat) :
    (winResultUnlessExists code : OsCall σ Unit).Keeps view := by
  unfold Windows.winResultUnlessExists
  split
  · exact winResult code
  · exact .pure ()

theorem addAddress (keeps : kernel.Keeps view) (index : Nat) (address : IpAddr) (len : Nat)
    (gateway : Option IpAddr) : (addAddress kernel index address len gateway).Keeps view := by
  refine .bind (lift (keeps.createAddress _)) fun code => .bind (winResultUnlessExists code) ?_
  intro _
  cases gateway with
  | none => exact .pure ()
  | some gateway => exact .bind (lift (keeps.createRoute _)) winResultUnlessExists

theorem clearAddresses (keeps : kernel.Keeps view) (index : Nat) (isV4 : Bool) :
    (clearAddresses kernel index isV4).Keeps view := by
  refine .bind (lift (keeps.getAddresses isV4)) fun _ => .bind (winResult _) fun _ => ?_
  refine .bind (.forM fun row => .bind (lift (keeps.deleteAddress row)) winResult) fun _ => ?_
  refine .bind (lift (keeps.getRoutes isV4)) fun _ => .bind (winResult _) fun _ => ?_
  exact .forM fun row => .bind (lift (keeps.deleteRoute row)) winResult

theorem setNetworkAddress (keeps : kernel.Keeps view) {α β : Type} [ToIpv4Address α]
    [ToIpv4Netmask β] (index : Nat) (address : α) (netmask : β) (destination : Option α) :
    (setNetworkAddress kernel index address netmask destination).Keeps view :=
  .bind (.ofResult _) fun _ => .bind (.ofResult _) fun _ => .bind (.ofResult _) fun _ =>
    .bind (keeps.clearAddresses index _) fun _ => keeps.addAddress index _ _ _

theorem addAddressV6 (keeps : kernel.Keeps view) {α β : Type} [ToIpv6Address α] [ToIpv6Netmask β]
    (index : Nat) (address : α) (netmask : β) :
    (addAddressV6 kernel index address netmask).Keeps view :=
  .bind (.ofResult _) fun _ => .bind (.ofResult _) fun _ => keeps.addAddress index _ _ _

end Kernel.Keeps

/-! ## The stored session -/

section Stored

variable {interface : Interface σ} {s : σ} {stored : Stored} {state : σ × Stored}

theorem enable_cases (ran : (enable interface).on (s, stored) = (result, state)) :
    (stored.enabled = true ∧ result = .ok () ∧ state = (s, stored)) ∨
    (stored.enabled = false ∧
      ((∃ error, result = .error error ∧ state.2 = stored) ∨
        ∃ handle, (startSession interface).on s = (.ok handle, state.1) ∧ result = .ok () ∧
          state.2 = .ofSession handle)) := by
  change (if stored.enabled then pure () else OsCall.onFst (startSession interface) >>= fun handle =>
    modify fun (s, _) => (s, Stored.ofSession handle) : OsCall (σ × Stored) Unit).on (s, stored) =
      _ at ran
  split at ran
  case isTrue already =>
    obtain ⟨rfl, rfl⟩ := Prod.mk.inj ran
    exact .inl ⟨already, rfl, rfl⟩
  case isFalse disabled =>
    refine .inr ⟨Bool.eq_false_of_not_eq_true disabled, ?_⟩
    rcases OsCall.on_bind_cases ran with ⟨error, failed, rfl⟩ | ⟨handle, between, started, ran⟩
    · exact .inl ⟨error, rfl, (OsCall.onFst_cases failed).2.symm⟩
    · obtain ⟨rfl, rfl⟩ := Prod.mk.inj ran
      exact .inr ⟨handle, (OsCall.onFst_cases started).1, rfl, rfl⟩

theorem disable_cases (ran : (disable interface).on (s, stored) = (result, state)) :
    (stored.enabled = false ∧ result = .ok () ∧ state = (s, stored)) ∨
    (stored.enabled = true ∧
      ((∃ error, result = .error error ∧ state.2 = stored) ∨
        ∃ between, interface.resetEvent.on between = (result, state.1) ∧ state.2 = .nothing)) := by
  change (if stored.enabled then OsCall.onFst interface.setEvent >>= fun _ =>
    OsCall.onFst (stored.session.forM fun handle => interface.wintunEndSession handle) >>= fun _ =>
    modify (fun (s, _) => (s, Stored.nothing)) >>= fun _ => OsCall.onFst interface.resetEvent
    else pure () : OsCall (σ × Stored) Unit).on (s, stored) = _ at ran
  split at ran
  case isFalse already =>
    obtain ⟨rfl, rfl⟩ := Prod.mk.inj ran
    exact .inl ⟨Bool.eq_false_of_not_eq_true already, rfl, rfl⟩
  case isTrue enabled =>
    refine .inr ⟨enabled, ?_⟩
    rcases OsCall.on_bind_cases ran with ⟨error, failed, rfl⟩ | ⟨_, signalled, set, ran⟩
    · exact .inl ⟨error, rfl, (OsCall.onFst_cases failed).2.symm⟩
    have same := (OsCall.onFst_cases set).2
    rcases OsCall.on_bind_cases ran with ⟨error, failed, rfl⟩ | ⟨_, ended, taken, ran⟩
    · exact .inl ⟨error, rfl, (same.trans (OsCall.onFst_cases failed).2).symm⟩
    replace ran : (OsCall.onFst interface.resetEvent).on (ended.1, Stored.nothing) =
      (result, state) := ran
    obtain ⟨reset, kept⟩ := OsCall.onFst_on.mp ran
    exact .inr ⟨ended.1, reset, kept.symm⟩

structure AtRest (adapter : AdapterState) (stored : Stored) : Prop where
  alive : adapter.life = .alive
  unused : adapter.unused
  enabled : adapter.enabled = stored.enabled
  session : adapter.session.isSome = stored.session.isSome

/-- A call that no other call interferes with is a run of the machine, which makes its steps one by
one. So the flag and the session agree whenever no call is under way. -/
theorem enabled_runs {value : Bool}
    (ran : (enabled interface value).on (s, stored) = (result, state)) {adapter : AdapterState}
    (atRest : AtRest adapter stored) (deleteDriver : Bool) :
    ∃ (answers : List OsAnswer) (adapter' : AdapterState),
      (adapterMachine deleteDriver).run (fun _ _ => True)
        ((if value then .enable else .disable) :: answers.map .advance) adapter = some adapter' ∧
      AtRest adapter' state.2 := by
  obtain ⟨enabled, session, eventSet, critical, readers, life, started, log⟩ := adapter
  obtain ⟨alive, ⟨idle, noReaders⟩, flag, slot⟩ := atRest
  obtain rfl : life = .alive := alive
  obtain rfl : critical = none := idle
  obtain rfl : readers = [] := noReaders
  cases value with
  | true =>
    rcases enable_cases ran with ⟨already, -, rfl⟩ | ⟨disabled, ⟨error, -, kept⟩ | ⟨_, -, -, kept⟩⟩
    · obtain rfl : enabled = true := flag.trans already
      exact ⟨[.success], _, rfl, rfl, ⟨rfl, rfl⟩, flag, slot⟩
    · obtain rfl : enabled = false := flag.trans disabled
      exact ⟨[.success, .success, .failure], _, rfl, rfl, ⟨rfl, rfl⟩, kept ▸ flag, kept ▸ slot⟩
    · obtain rfl : enabled = false := flag.trans disabled
      refine ⟨[.success, .success, .success, .success, .success, .success], _, rfl, rfl, ⟨rfl, rfl⟩,
        ?_, ?_⟩
      · rw [kept]
        rfl
      · rw [kept]
        rfl
  | false =>
    rcases disable_cases ran with ⟨already, -, rfl⟩ | ⟨wasEnabled, ⟨error, -, kept⟩ | ⟨_, -, kept⟩⟩
    · obtain rfl : enabled = false := flag.trans already
      exact ⟨[.success], _, rfl, rfl, ⟨rfl, rfl⟩, flag, slot⟩
    · obtain rfl : enabled = true := flag.trans wasEnabled
      exact ⟨[.success, .success, .failure, .success], _, rfl, rfl, ⟨rfl, rfl⟩, kept ▸ flag,
        kept ▸ slot⟩
    · obtain rfl : enabled = true := flag.trans wasEnabled
      refine ⟨[.success, .success, .success, .success, .success, .success], _, rfl, rfl, ⟨rfl, rfl⟩,
        ?_, ?_⟩
      · rw [kept]
        rfl
      · rw [kept]
        rfl

end Stored

namespace Interface.Lawful

variable {interface : Interface σ} {s after : σ} {stored : Stored}

theorem setMtu_on (lawful : interface.Lawful) {mtu : UInt16}
    (ran : (setMtu interface mtu).on s = (result, after)) :
    interface.KeepsIpv4 s after ∧ (result = .ok () → interface.mtu after = mtu.toNat) := by
  rw [setMtu, setInterfaceMtu, OsCall.on_lift_bind] at ran
  rcases got : (interface.getIpInterfaceEntry true interface.index).run s with ⟨⟨code, row⟩, read⟩
  obtain ⟨same, found⟩ := lawful.getRow true interface.index s code row read got
  rw [got] at ran
  have unread : interface.KeepsIpv4 s read := ⟨by rw [same], by rw [same]⟩
  by_cases ok : code = noError
  case neg =>
    obtain ⟨rfl, rfl⟩ := Prod.mk.inj ((winResult_bind_error ok).symm.trans ran)
    exact ⟨unread, nofun⟩
  case pos =>
    obtain rfl := ok
    obtain ⟨isV4, here⟩ := found rfl
    change (do winResult (← interface.setIpInterfaceEntry
      { row with nlMtu := mtu.toNat, sitePrefixLength := 0 }) : OsCall σ Unit).on read = _ at ran
    rw [on_checked] at ran
    rcases answered : (interface.setIpInterfaceEntry
      { row with nlMtu := mtu.toNat, sitePrefixLength := 0 }).run read with ⟨code, written⟩
    obtain ⟨kept, sets⟩ := lawful.setRow _ read code written answered
    rw [answered] at ran
    obtain ⟨rfl, rfl⟩ := Prod.mk.inj ran
    refine ⟨⟨kept.held.trans unread.held, kept.gateways.trans unread.gateways⟩, fun done => ?_⟩
    by_cases ok : code = noError
    · exact sets ok isV4 here
    · rw [if_neg ok] at done
      cases done

theorem startSession_on (lawful : interface.Lawful) {handle : Nat}
    (ran : (startSession interface).on s = (.ok handle, after)) : interface.ComesUp s after := by
  rw [startSession, OsCall.on_lift_bind] at ran
  have started := lawful.starts s
  split at ran
  case h_1 =>
    cases ran
  case h_2 opened _ =>
    rw [OsCall.on_lift_bind] at ran
    have waits := lawful.givesWaitEvent opened (interface.wintunStartSession.run s).2
    split at ran
    case h_1 => cases ran
    case h_2 =>
      obtain ⟨-, rfl⟩ := Prod.mk.inj ran
      exact started.trans waits

theorem enable_on (lawful : interface.Lawful) {state : σ × Stored}
    (ran : (enable interface).on (s, stored) = (result, state)) :
    (result = .ok () → state.2.enabled = true ∧ interface.ComesUp s state.1) ∧
      (∀ error, result = .error error → state.2.enabled = stored.enabled) := by
  rcases enable_cases ran with ⟨already, rfl, rfl⟩ | ⟨-, failed | ⟨handle, started, rfl, kept⟩⟩
  · exact ⟨fun _ => ⟨already, ⟨rfl, rfl⟩, rfl, .rfl⟩, nofun⟩
  · obtain ⟨error, rfl, kept⟩ := failed
    exact ⟨nofun, fun _ _ => by rw [kept]⟩
  · exact ⟨fun _ => ⟨by rw [kept]; rfl, lawful.startSession_on started⟩, nofun⟩

theorem disable_on (lawful : interface.Lawful) {state : σ × Stored}
    (ran : (disable interface).on (s, stored) = (result, state)) :
    (result = .ok () → state.2.enabled = false) ∧
      (∀ error, result = .error error → state.2.enabled = stored.enabled) := by
  rcases disable_cases ran with ⟨already, rfl, rfl⟩ | ⟨-, failed | ⟨between, reset, kept⟩⟩
  · exact ⟨fun _ => already, nofun⟩
  · obtain ⟨error, rfl, kept⟩ := failed
    exact ⟨nofun, fun _ _ => by rw [kept]⟩
  · have done := lawful.resets between
    rw [reset] at done
    refine ⟨fun _ => by rw [kept]; rfl, fun error failed => ?_⟩
    cases done.symm.trans failed

theorem enabled_on (lawful : interface.Lawful) {value : Bool} {state : σ × Stored}
    (ran : (enabled interface value).on (s, stored) = (result, state)) :
    (result = .ok () → state.2.enabled = value ∧ (value = true → interface.ComesUp s state.1)) ∧
      (∀ error, result = .error error → state.2.enabled = stored.enabled) := by
  cases value with
  | true =>
    obtain ⟨enables, fails⟩ := lawful.enable_on ran
    exact ⟨fun ok => ⟨(enables ok).1, fun _ => (enables ok).2⟩, fails⟩
  | false =>
    obtain ⟨disables, fails⟩ := lawful.disable_on ran
    exact ⟨fun ok => ⟨disables ok, nofun⟩, fails⟩

theorem addAddressV6_on (lawful : interface.Lawful) {addr : Ipv6Addr} {len : UInt8}
    (ran : (addAddressV6 interface.toKernel interface.index addr len).on s = (result, after)) :
    (interface.tables s).addresses ⊆ (interface.tables after).addresses ∧
      (result = .ok () →
        ∃ held, ⟨interface.index, .v6 addr, held⟩ ∈ (interface.tables after).addresses) := by
  have converted : ToIpv6Address.ipv6 addr = .ok addr := rfl
  rw [addAddressV6, OsCall.on_ofResult_bind_ok converted] at ran
  cases measured : ToIpv6Netmask.toPrefix len with
  | error error =>
    rw [OsCall.on_ofResult_bind_error measured] at ran
    obtain ⟨rfl, rfl⟩ := Prod.mk.inj ran
    exact ⟨.rfl, nofun⟩
  | ok len =>
    rw [OsCall.on_ofResult_bind_ok measured] at ran
    change ((do winResultUnlessExists (← interface.createUnicastIpAddressEntry
      ⟨interface.index, .v6 addr, len.toNat⟩) : OsCall σ Unit) >>= fun _ => pure ()).on s = _ at ran
    have created : (do winResultUnlessExists (← interface.createUnicastIpAddressEntry
        ⟨interface.index, .v6 addr, len.toNat⟩) : OsCall σ Unit).on s = (result, after) := by
      rw [bind_pure_unit] at ran
      exact ran
    obtain ⟨-, addresses, -⟩ | ⟨same, present⟩ := lawful.createAddress_on created
    · rw [addresses]
      exact ⟨Set.subset_insert _ _, fun _ => ⟨len.toNat, Set.mem_insert _ _⟩⟩
    · rw [same]
      refine ⟨.rfl, fun ok => ?_⟩
      obtain ⟨⟨_, _, held⟩, among, rfl, rfl⟩ := present ok
      exact ⟨held, among⟩

theorem link_ipv4 {state state' : σ × Stored}
    (same : (interface.tables state'.1).held interface.index true =
      (interface.tables state.1).held interface.index true) :
    (interface.link state').ipv4 = (interface.link state).ipv4 := by
  ext ⟨addr, len⟩
  have member := Set.ext_iff.mp same ⟨interface.index, .v4 addr, len⟩
  exact ⟨fun among => (member.mp ⟨among, rfl, rfl⟩).1,
    fun among => (member.mpr ⟨among, rfl, rfl⟩).1⟩

theorem setNetworkAddress_link (lawful : interface.Lawful) {addr : Ipv4Addr} {len : UInt8}
    {destination : Option Ipv4Addr} {state : σ × Stored}
    (ran : (setNetworkAddress interface.toKernel interface.index addr len destination).on s =
      (.ok (), state.1)) :
    (interface.link state).ipv4 = {(addr, len.toNat)} := by
  obtain ⟨-, ⟨_, kept, _, converted, measured, -, -, configured⟩ | ⟨⟨_, failed⟩, -⟩⟩ :=
    lawful.setNetworkAddress_on ran
  case inr => cases failed
  obtain rfl := Except.ok.inj converted
  have same : kept = len := by
    by_cases fits : len.toNat ≤ 32
    · exact Except.ok.inj (measured.symm.trans (ipv4Family_checked.ofLength_ok len fits))
    · obtain ⟨error, refused⟩ := ipv4Family_checked.ofLength_error len (by omega)
      exact nomatch measured.symm.trans refused
  obtain rfl := same
  ext ⟨other, held⟩
  have member := Set.ext_iff.mp configured.held ⟨interface.index, .v4 other, held⟩
  rw [Set.mem_singleton_iff, Prod.mk.injEq]
  constructor
  · intro among
    have same := member.mp ⟨among, rfl, rfl⟩
    cases same
    exact ⟨rfl, rfl⟩
  · rintro ⟨rfl, rfl⟩
    exact (member.mpr rfl).1

theorem device_lawful (lawful : interface.Lawful) : (device interface).Lawful interface.link where
  setMtu mtu s result after ran := by
    replace ran : (OsCall.onFst (setMtu interface mtu)).on s = (result, after) := ran
    obtain ⟨ran, same⟩ := OsCall.onFst_cases ran
    obtain ⟨kept, sets⟩ := lawful.setMtu_on ran
    exact ⟨link_ipv4 kept.held, by rw [link, link, same], sets⟩
  setNetworkAddress addr len destination s result after ran := by
    replace ran : (OsCall.onFst (setNetworkAddress interface.toKernel interface.index addr len
      destination)).on s = (result, after) := ran
    obtain ⟨ran, same⟩ := OsCall.onFst_cases ran
    have mtu := (lawful.mtuStays.setNetworkAddress interface.index addr len destination).of_on ran
    refine ⟨mtu, by rw [link, link, same], ?_⟩
    rintro rfl
    exact lawful.setNetworkAddress_link ran
  addAddressV6 addr len s result after ran := by
    replace ran : (OsCall.onFst (addAddressV6 interface.toKernel interface.index addr len)).on s =
      (result, after) := ran
    obtain ⟨ran, same⟩ := OsCall.onFst_cases ran
    have mtu := (lawful.mtuStays.addAddressV6 interface.index addr len).of_on ran
    have adds : AddsV6 interface.tables interface.index (interface.tables s.1) _ :=
      lawful.addAddressV6_adds addr len s.1
    rw [ran] at adds
    obtain ⟨grows, added⟩ := lawful.addAddressV6_on ran
    exact ⟨mtu, link_ipv4 (adds.2 _ true fun same => nomatch same.2).1, by rw [link, link, same],
      fun _ among => grows among, added⟩
  enabled value s result after ran := by
    obtain ⟨sets, fails⟩ := lawful.enabled_on ran
    refine ⟨fun ok => ⟨(sets ok).1, fun up => ?_⟩, fails⟩
    have comesUp := (sets ok).2 up
    exact ⟨comesUp.mtu, link_ipv4 comesUp.held,
      fun _ among => (comesUp.ipv6 ⟨among, rfl, rfl⟩).1⟩

end Interface.Lawful

/-! ## A system that refuses nothing -/

section onFst

variable {τ α : Type}

def onFst (call : StateM σ α) : StateM (σ × τ) α := fun (s, t) =>
  let (answer, after) := call.run s
  (answer, after, t)

def Kernel.onFst (kernel : Kernel σ) : Kernel (σ × τ) where
  getUnicastIpAddressTable isV4 := Windows.onFst (kernel.getUnicastIpAddressTable isV4)
  createUnicastIpAddressEntry row := Windows.onFst (kernel.createUnicastIpAddressEntry row)
  deleteUnicastIpAddressEntry row := Windows.onFst (kernel.deleteUnicastIpAddressEntry row)
  getIpForwardTable2 isV4 := Windows.onFst (kernel.getIpForwardTable2 isV4)
  createIpForwardEntry2 row := Windows.onFst (kernel.createIpForwardEntry2 row)
  deleteIpForwardEntry2 row := Windows.onFst (kernel.deleteIpForwardEntry2 row)

theorem onFst_run {call : StateM σ α} {answer : α} {s after : σ × τ}
    (ran : (onFst call).run s = (answer, after)) : call.run s.1 = (answer, after.1) := by
  obtain ⟨rfl, rfl⟩ := Prod.mk.inj ran
  rfl

theorem Kernel.Lawful.onFst {kernel : Kernel σ} {tables : σ → Tables}
    (lawful : kernel.Lawful tables) :
    (kernel.onFst : Kernel (σ × τ)).Lawful fun s => tables s.1 where
  viaGateway s := lawful.viaGateway s.1
  getAddresses isV4 s code table after ran :=
    lawful.getAddresses isV4 s.1 code table after.1 (onFst_run ran)
  getRoutes isV4 s code table after ran :=
    lawful.getRoutes isV4 s.1 code table after.1 (onFst_run ran)
  createAddress row s code after ran :=
    lawful.createAddress row s.1 code after.1 (onFst_run ran)
  deleteAddress row s code after ran :=
    lawful.deleteAddress row s.1 code after.1 (onFst_run ran)
  createRoute row s code after ran := lawful.createRoute row s.1 code after.1 (onFst_run ran)
  deleteRoute row s code after ran := lawful.deleteRoute row s.1 code after.1 (onFst_run ran)

end onFst

def plainInterface : Interface (RowLists × Nat) where
  toKernel := tableKernel.onFst
  index := 7
  tables s := tablesOf s.1
  mtu s := s.2
  getIpInterfaceEntry isV4 index := do return (noError, ⟨isV4, index, (← get).2, 64⟩)
  setIpInterfaceEntry row := do
    modify fun (lists, mtu) => (lists, if row.isV4 ∧ row.interfaceIndex = 7 then row.nlMtu else mtu)
    return noError
  wintunStartSession := return some 1
  wintunGetReadWaitEvent _ := return some 2
  wintunEndSession _ := return ()
  getLastError := return noError
  setEvent := return ()
  resetEvent := return ()

theorem plainInterface_lawful : plainInterface.Lawful where
  toLawful := tableKernel_lawful.onFst
  mtuStays := ⟨fun _ _ => rfl, fun _ _ => rfl, fun _ _ => rfl, fun _ _ => rfl, fun _ _ => rfl,
    fun _ _ => rfl⟩
  getRow isV4 index s code row after ran := by
    obtain ⟨answer, rfl⟩ := Prod.mk.inj ran
    obtain ⟨-, rfl⟩ := Prod.mk.inj answer
    exact ⟨rfl, fun _ => ⟨rfl, rfl⟩⟩
  setRow row s code after ran := by
    obtain ⟨-, rfl⟩ := Prod.mk.inj ran
    exact ⟨⟨rfl, rfl⟩, fun _ isV4 here => if_pos ⟨isV4, here⟩⟩
  starts _ := ⟨⟨rfl, rfl⟩, rfl, .rfl⟩
  givesWaitEvent _ _ := ⟨⟨rfl, rfl⟩, rfl, .rfl⟩
  resets _ := rfl

end QuincyTun.Windows
