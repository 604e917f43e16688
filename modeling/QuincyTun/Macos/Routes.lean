import QuincyTun.Foundation.Machine
import QuincyTun.Macos.Device
import Mathlib.Data.List.Pairwise

/-! Routes and addresses on macOS.

Each route that the device adds goes with one address. The netmask that is needed to
delete the route is known from the list of addresses only, so the address has to be
looked up before it is removed. `remove_address` looks it up afterwards.
-/

set_option autoImplicit false

namespace QuincyTun.Macos

open QuincyTun.Foundation QuincyTun.Config

variable {σ : Type} {index : Nat} {s after : σ} {entry other : IfAddr} {route : Route}
  {addr mask dest : Ipv4Addr}

/-! ## Entries and their routes -/

def IfAddr.ipv4 (entry : IfAddr) : Option Ipv4Addr :=
  match entry.ip with
  | some (.v4 addr) => some addr
  | _ => none

def IfAddr.associatedRoute (index : Nat) (entry : IfAddr) : Option Route :=
  match entry.ip, entry.netmask with
  | some (.v4 addr), some (.v4 mask) => (routeOf (.v4 addr) (.v4 mask) index).toOption
  | _, _ => none

theorem routeOf_gateway {addr netmask : IpAddr} (made : routeOf addr netmask index = .ok route) :
    route.gateway = addr := by
  unfold routeOf at made
  cases found : networkOf addr netmask with
  | error error =>
    rw [found] at made
    cases made
  | ok network =>
    rw [found] at made
    cases made
    rfl

theorem IfAddr.associatedRoute_eq_some (has : entry.associatedRoute index = some route) :
    ∃ addr mask, entry = ⟨some (.v4 addr), some (.v4 mask)⟩ ∧
      routeOf (.v4 addr) (.v4 mask) index = .ok route := by
  obtain ⟨ip, netmask⟩ := entry
  unfold IfAddr.associatedRoute at has
  split at has
  case h_1 addr mask sameIp sameMask =>
    cases made : routeOf (.v4 addr) (.v4 mask) index with
    | error error =>
      rw [made] at has
      cases has
    | ok value =>
      rw [made] at has
      exact ⟨addr, mask, by rw [← sameIp, ← sameMask], Option.some.inj has ▸ made⟩
  case h_2 => cases has

theorem IfAddr.associatedRoute_gateway (has : entry.associatedRoute index = some route) :
    ∃ addr, entry.ipv4 = some addr ∧ route.gateway = .v4 addr := by
  obtain ⟨addr, mask, rfl, made⟩ := associatedRoute_eq_some has
  exact ⟨addr, rfl, routeOf_gateway made⟩

/-! ## The interface -/

/-- An interface with a kernel that refuses no call that makes sense. Calls change the list of
addresses and the set of routes at once. -/
structure Interface (σ : Type) where
  kernel : Kernel σ
  name : String
  index : Nat
  /-- What `getifaddrs` reports. -/
  addresses : σ → List IfAddr
  /-- The routes that the device added and did not delete yet. -/
  routes : σ → Set Route
  name_on : ∀ s, kernel.name.on s = (.ok name, s)
  ifIndex_on : ∀ s, kernel.ifIndex.on s = (.ok index, s)
  getIfAddrsByName_on : ∀ s, (kernel.getIfAddrsByName name).on s = (.ok (addresses s), s)
  routeManager_on : ∀ s, kernel.routeManager.on s = (.ok (), s)
  siocaifaddr_on : ∀ s addr dest mask, (∀ entry ∈ addresses s, entry.ipv4 ≠ some addr) →
    ∃ after, (kernel.siocaifaddr name addr dest mask).on s = (.ok (), after) ∧
      (addresses after).Perm (⟨some (.v4 addr), some (.v4 mask)⟩ :: addresses s) ∧
      routes after = routes s
  siocdifaddr_on : ∀ s addr, (∃ entry ∈ addresses s, entry.ipv4 = some addr) →
    ∃ after, (kernel.siocdifaddr name addr).on s = (.ok (), after) ∧
      (addresses after).Perm ((addresses s).filter fun entry => entry.ipv4 ≠ some addr) ∧
      routes after = routes s
  siocdifaddr_absent : ∀ s addr, (∀ entry ∈ addresses s, entry.ipv4 ≠ some addr) →
    ∃ error, (kernel.siocdifaddr name addr).on s = (.error error, s)
  addRoute_on : ∀ s route, route ∉ routes s →
    ∃ after, (kernel.addRoute route).on s = (.ok (), after) ∧ addresses after = addresses s ∧
      routes after = insert route (routes s)
  deleteRoute_on : ∀ s route, route ∈ routes s →
    ∃ after, (kernel.deleteRoute route).on s = (.ok (), after) ∧ addresses after = addresses s ∧
      routes after = routes s \ {route}

namespace Interface

variable {interface : Interface σ}

def Apart (entry other : IfAddr) : Prop :=
  ∀ addr, entry.ipv4 = some addr → other.ipv4 ≠ some addr

instance : Std.Symm Apart where
  symm _ _ apart addr otherIs entryIs := apart addr entryIs otherIs

/-- There is exactly one route for each IPv4 address. -/
structure RoutesFollow (interface : Interface σ) (s : σ) : Prop where
  routes : ∀ route, route ∈ interface.routes s ↔
    ∃ entry ∈ interface.addresses s, entry.associatedRoute interface.index = some route
  routed : ∀ entry ∈ interface.addresses s, entry.ipv4 ≠ none →
    entry.associatedRoute interface.index ≠ none
  distinct : (interface.addresses s).Pairwise Apart

namespace RoutesFollow

theorem unique (follow : interface.RoutesFollow s) (among : entry ∈ interface.addresses s)
    (otherAmong : other ∈ interface.addresses s) (ipv4 : entry.ipv4 = some addr)
    (otherIpv4 : other.ipv4 = some addr) : entry = other := by
  by_contra different
  exact follow.distinct.forall among otherAmong different addr ipv4 otherIpv4

theorem add (follow : interface.RoutesFollow s)
    (fresh : ∀ entry ∈ interface.addresses s, entry.ipv4 ≠ some addr)
    (made : routeOf (.v4 addr) (.v4 mask) interface.index = .ok route)
    (addresses : (interface.addresses after).Perm
      (⟨some (.v4 addr), some (.v4 mask)⟩ :: interface.addresses s))
    (routes : interface.routes after = insert route (interface.routes s)) :
    interface.RoutesFollow after := by
  have has : IfAddr.associatedRoute interface.index ⟨some (.v4 addr), some (.v4 mask)⟩ =
      some route := by
    simp only [IfAddr.associatedRoute, made]
    rfl
  constructor
  case routes =>
    intro other
    simp only [routes, Set.mem_insert_iff, follow.routes, addresses.mem_iff, List.mem_cons,
      exists_eq_or_imp, has, Option.some.injEq, eq_comm]
  case routed =>
    intro entry among ipv4
    rcases List.mem_cons.mp (addresses.mem_iff.mp among) with rfl | before
    · rw [has]
      nofun
    · exact follow.routed entry before ipv4
  case distinct =>
    rw [addresses.pairwise_iff (Std.Symm.symm _ _), List.pairwise_cons]
    refine ⟨fun other before otherAddr same => ?_, follow.distinct⟩
    exact Option.some.inj same ▸ fresh other before

theorem remove (follow : interface.RoutesFollow s) (among : entry ∈ interface.addresses s)
    (ipv4 : entry.ipv4 = some addr) (has : entry.associatedRoute interface.index = some route)
    (addresses : (interface.addresses after).Perm
      ((interface.addresses s).filter fun entry => entry.ipv4 ≠ some addr))
    (routes : interface.routes after = interface.routes s \ {route}) :
    interface.RoutesFollow after := by
  have remains (other : IfAddr) : other ∈ interface.addresses after ↔
      other ∈ interface.addresses s ∧ other.ipv4 ≠ some addr := by
    rw [addresses.mem_iff, List.mem_filter, decide_eq_true_iff]
  constructor
  case routes =>
    intro other
    rw [routes, Set.mem_sdiff, Set.mem_singleton_iff, follow.routes]
    constructor
    · rintro ⟨⟨old, before, oldHas⟩, different⟩
      -- Another entry with the removed address would be the removed one.
      refine ⟨old, (remains old).mpr ⟨before, fun same => different ?_⟩, oldHas⟩
      rw [follow.unique before among same ipv4, has] at oldHas
      exact (Option.some.inj oldHas).symm
    · rintro ⟨old, later, oldHas⟩
      obtain ⟨before, different⟩ := (remains old).mp later
      refine ⟨⟨old, before, oldHas⟩, fun same => different ?_⟩
      -- A route names its address as its gateway.
      obtain ⟨oldAddr, oldIpv4, oldGateway⟩ := IfAddr.associatedRoute_gateway oldHas
      obtain ⟨entryAddr, entryIpv4, gateway⟩ := IfAddr.associatedRoute_gateway has
      rw [same, gateway] at oldGateway
      rw [oldIpv4, ← IpAddr.v4.inj oldGateway, ← entryIpv4, ipv4]
  case routed => exact fun other later => follow.routed other ((remains other).mp later).1
  case distinct =>
    rw [addresses.pairwise_iff (Std.Symm.symm _ _)]
    exact follow.distinct.filter _

end RoutesFollow

/-! ## What the calls of the device do -/

theorem addRoute_adds (interface : Interface σ)
    (made : routeOf (.v4 addr) (.v4 mask) interface.index = .ok route)
    (absent : route ∉ interface.routes s) :
    ∃ after, (addRoute interface.kernel (.v4 addr) (.v4 mask) true).on s = (.ok (), after) ∧
      interface.addresses after = interface.addresses s ∧
      interface.routes after = insert route (interface.routes s) := by
  rw [addRoute, if_pos rfl, OsCall.on_bind_ok (interface.ifIndex_on s),
    OsCall.on_bind_ok (interface.routeManager_on s), OsCall.on_ofResult_bind_ok made]
  exact interface.addRoute_on s route absent

theorem removeRoute_removes (interface : Interface σ)
    (made : routeOf (.v4 addr) (.v4 mask) interface.index = .ok route)
    (present : route ∈ interface.routes s) :
    ∃ after, (removeRoute interface.kernel (.v4 addr) (.v4 mask) true).on s = (.ok (), after) ∧
      interface.addresses after = interface.addresses s ∧
      interface.routes after = interface.routes s \ {route} := by
  rw [removeRoute, if_pos rfl, OsCall.on_bind_ok (interface.ifIndex_on s),
    OsCall.on_bind_ok (interface.routeManager_on s), OsCall.on_ofResult_bind_ok made]
  exact interface.deleteRoute_on s route present

theorem routeOf_of_calcDestAddr {dest : Ipv4Addr} (calculated : calcDestAddr addr mask = .ok dest)
    (index : Nat) : ∃ route, routeOf (.v4 addr) (.v4 mask) index = .ok route := by
  unfold calcDestAddr at calculated
  simp only [routeOf, networkOf]
  cases found : maskToPrefix mask with
  | error error =>
    rw [found] at calculated
    cases calculated
  | ok len => exact ⟨_, rfl⟩

theorem addAddress_follows (follow : interface.RoutesFollow s)
    (fresh : ∀ entry ∈ interface.addresses s, entry.ipv4 ≠ some addr)
    (made : routeOf (.v4 addr) (.v4 mask) interface.index = .ok route) :
    interface.RoutesFollow ((addAddress interface.kernel addr dest mask true).on s).2 := by
  obtain ⟨added, ran, addresses, routes⟩ := interface.siocaifaddr_on s addr dest mask fresh
  have absent : route ∉ interface.routes added := by
    rw [routes, follow.routes]
    rintro ⟨entry, among, has⟩
    obtain ⟨entryAddr, ipv4, gateway⟩ := IfAddr.associatedRoute_gateway has
    rw [routeOf_gateway made] at gateway
    exact fresh entry among (IpAddr.v4.inj gateway ▸ ipv4)
  obtain ⟨after, routed, sameAddresses, more⟩ := interface.addRoute_adds made absent
  rw [addAddress, OsCall.on_bind_ok (interface.name_on s), OsCall.on_bind_ok ran, OsCall.on_bind,
    OsCall.on_attempt, routed]
  exact follow.add fresh made (sameAddresses ▸ addresses) (more.trans (by rw [routes]))

theorem removeListed_follows (follow : interface.RoutesFollow s)
    (among : entry ∈ interface.addresses s) :
    ∃ after, (removeListed interface.kernel interface.name true entry).on s = (.ok (), after) ∧
      interface.RoutesFollow after ∧
      ∀ other, other ∈ interface.addresses after ↔
        other ∈ interface.addresses s ∧ Apart entry other := by
  cases ipv4 : entry.ipv4 with
  | none =>
    -- An entry that is not IPv4 is passed over.
    refine ⟨s, ?_, follow, fun other => (and_iff_left fun addr is => nomatch ipv4 ▸ is).symm⟩
    obtain ⟨ip, netmask⟩ := entry
    unfold removeListed
    split
    case h_1 addr mask sameIp sameMask =>
      rw [IfAddr.ipv4, sameIp] at ipv4
      cases ipv4
    case h_2 => rfl
  | some addr =>
    obtain ⟨route, has⟩ := Option.ne_none_iff_exists'.mp (follow.routed entry among (ipv4 ▸ nofun))
    obtain ⟨sameAddr, mask, rfl, made⟩ := IfAddr.associatedRoute_eq_some has
    obtain rfl := Option.some.inj ipv4
    obtain ⟨removed, ran, addresses, routes⟩ := interface.siocdifaddr_on s sameAddr ⟨_, among, rfl⟩
    have present : route ∈ interface.routes removed := by
      rw [routes, follow.routes]
      exact ⟨_, among, has⟩
    obtain ⟨after, unrouted, sameAddresses, fewer⟩ := interface.removeRoute_removes made present
    rw [← sameAddresses] at addresses
    refine ⟨after, ?_, follow.remove among rfl has addresses (fewer.trans (by rw [routes])), ?_⟩
    · rw [removeListed, OsCall.on_bind_ok ran, OsCall.on_bind, OsCall.on_attempt, unrouted]
      rfl
    · intro other
      rw [addresses.mem_iff, List.mem_filter, decide_eq_true_iff]
      exact and_congr_right fun _ => ⟨fun apart addr is => Option.some.inj is ▸ apart,
        fun apart => apart sameAddr rfl⟩

theorem removeListed_all {entries : List IfAddr} (follow : interface.RoutesFollow s)
    (among : ∀ entry ∈ entries, entry ∈ interface.addresses s)
    (distinct : entries.Pairwise Apart) :
    ∃ after, (entries.forM (removeListed interface.kernel interface.name true)).on s =
        (.ok (), after) ∧
      interface.RoutesFollow after ∧
      ∀ other ∈ interface.addresses after,
        other ∈ interface.addresses s ∧ ∀ entry ∈ entries, Apart entry other := by
  induction entries generalizing s with
  | nil => exact ⟨s, rfl, follow, fun other present => ⟨present, nofun⟩⟩
  | cons first rest ih =>
    obtain ⟨firstApart, restDistinct⟩ := List.pairwise_cons.mp distinct
    obtain ⟨between, ran, following, remains⟩ :=
      removeListed_follows follow (among first List.mem_cons_self)
    obtain ⟨after, restRan, finally_, gone⟩ := ih following
      (fun entry later => (remains entry).mpr
        ⟨among entry (List.mem_cons_of_mem _ later), firstApart entry later⟩) restDistinct
    refine ⟨after, ?_, finally_, fun other present => ?_⟩
    · rw [OsCall.on_forM_cons, ran]
      exact restRan
    · obtain ⟨before, apart⟩ := gone other present
      obtain ⟨start, firstOther⟩ := (remains other).mp before
      exact ⟨start, List.forall_mem_cons.mpr ⟨firstOther, apart⟩⟩

theorem removeAllAddressV4_follows (follow : interface.RoutesFollow s) :
    ∃ after, (removeAllAddressV4 interface.kernel true).on s = (.ok (), after) ∧
      interface.RoutesFollow after ∧ ∀ entry ∈ interface.addresses after, entry.ipv4 = none := by
  obtain ⟨after, ran, following, gone⟩ := removeListed_all follow (fun _ => id) follow.distinct
  refine ⟨after, ?_, following, fun entry present => ?_⟩
  · rw [removeAllAddressV4, OsCall.on_bind_ok (interface.name_on s),
      OsCall.on_bind_ok (interface.name_on s), OsCall.on_bind, OsCall.on_attempt,
      interface.getIfAddrsByName_on]
    exact ran
  · obtain ⟨before, apart⟩ := gone entry present
    by_contra some
    obtain ⟨addr, ipv4⟩ := Option.ne_none_iff_exists'.mp some
    exact apart entry before addr ipv4 ipv4

variable {α β : Type} [ToIpv4Address α] [ToIpv4Netmask β]

theorem setNetworkAddress_follows (follow : interface.RoutesFollow s) (address : α) (netmask : β)
    (destination : Option α) : interface.RoutesFollow
      ((setNetworkAddress interface.kernel true address netmask destination).on s).2 := by
  refine OsCall.ofResult_bind_keeps follow fun mask _ => ?_
  refine OsCall.ofResult_bind_keeps follow fun addr _ => ?_
  refine OsCall.ofResult_bind_keeps follow fun defaultDest calculated => ?_
  refine OsCall.ofResult_bind_keeps follow fun dest _ => ?_
  obtain ⟨cleared, ran, following, none⟩ := removeAllAddressV4_follows follow
  obtain ⟨route, made⟩ := routeOf_of_calcDestAddr calculated interface.index
  rw [OsCall.on_bind_ok ran]
  exact addAddress_follows following (fun entry among is => nomatch none entry among ▸ is) made

theorem addAddressV4_follows (follow : interface.RoutesFollow s) (address : α) (netmask : β)
    (fresh : ∀ addr, ToIpv4Address.ipv4 address = .ok addr →
      ∀ entry ∈ interface.addresses s, entry.ipv4 ≠ some addr) :
    interface.RoutesFollow ((addAddressV4 interface.kernel true address netmask).on s).2 := by
  refine OsCall.ofResult_bind_keeps follow fun mask _ => ?_
  refine OsCall.ofResult_bind_keeps follow fun addr converted => ?_
  refine OsCall.ofResult_bind_keeps follow fun dest calculated => ?_
  obtain ⟨route, made⟩ := routeOf_of_calcDestAddr calculated interface.index
  exact addAddress_follows follow (fresh addr converted) made

/-- When `remove_address` looks for the mask, the address is gone from the list. -/
theorem removeAddress_keepsRoutes (interface : Interface σ)
    (present : ∃ entry ∈ interface.addresses s, entry.ipv4 = some addr) :
    ∃ after, (removeAddress interface.kernel true addr).on s = (.ok (), after) ∧
      interface.routes after = interface.routes s ∧
      ∀ entry ∈ interface.addresses after, entry.ipv4 ≠ some addr := by
  obtain ⟨after, ran, addresses, routes⟩ := interface.siocdifaddr_on s addr present
  have gone : ∀ entry ∈ interface.addresses after, entry.ipv4 ≠ some addr := fun entry among =>
    of_decide_eq_true (List.mem_filter.mp (addresses.mem_iff.mp among)).2
  have unlisted : ((interface.addresses after).filter fun entry => entry.ip = some (.v4 addr)) =
      [] := by
    refine List.filter_eq_nil_iff.mpr fun entry among same => gone entry among ?_
    rw [IfAddr.ipv4, of_decide_eq_true same]
  refine ⟨after, ?_, routes, gone⟩
  rw [removeAddress, OsCall.on_bind_ok (interface.name_on s), OsCall.on_bind_ok ran,
    OsCall.on_bind_ok (interface.name_on after), OsCall.on_bind, OsCall.on_attempt,
    interface.getIfAddrsByName_on]
  change (((interface.addresses after).filter fun entry => entry.ip = some (.v4 addr)).forM
    (removeRouteOf interface.kernel (.v4 addr) true)).on after = _
  rw [unlisted]
  rfl

theorem removeAddress_leavesRoute (follow : interface.RoutesFollow s)
    (present : ∃ entry ∈ interface.addresses s, entry.ipv4 = some addr) :
    ¬ interface.RoutesFollow ((removeAddress interface.kernel true addr).on s).2 := by
  obtain ⟨after, ran, routes, gone⟩ := interface.removeAddress_keepsRoutes present
  obtain ⟨entry, among, ipv4⟩ := present
  obtain ⟨route, has⟩ := Option.ne_none_iff_exists'.mp (follow.routed entry among (ipv4 ▸ nofun))
  rw [ran]
  intro following
  have left : route ∈ interface.routes after := by
    rw [routes, follow.routes]
    exact ⟨entry, among, has⟩
  obtain ⟨other, later, otherHas⟩ := (following.routes route).mp left
  obtain ⟨entryAddr, entryIpv4, gateway⟩ := IfAddr.associatedRoute_gateway has
  obtain ⟨otherAddr, otherIpv4, otherGateway⟩ := IfAddr.associatedRoute_gateway otherHas
  refine gone other later ?_
  rw [otherIpv4, IpAddr.v4.inj (otherGateway.symm.trans gateway), ← entryIpv4, ipv4]

theorem removeAddress_absent (interface : Interface σ)
    (absent : ∀ entry ∈ interface.addresses s, entry.ipv4 ≠ some addr) :
    ((removeAddress interface.kernel true addr).on s).2 = s := by
  obtain ⟨error, ran⟩ := interface.siocdifaddr_absent s addr absent
  rw [removeAddress, OsCall.on_bind_ok (interface.name_on s), OsCall.on_bind_error ran]

/-! ## Runs -/

inductive AddressCall where
  | setNetworkAddress {α β : Type} [ToIpv4Address α] [ToIpv4Netmask β] (address : α) (netmask : β)
    (destination : Option α)
  | addAddressV4 {α β : Type} [ToIpv4Address α] [ToIpv4Netmask β] (address : α) (netmask : β)
  | removeAddress (addr : Ipv4Addr)

def configure (interface : Interface σ) : AddressCall → OsCall σ Unit
  | @AddressCall.setNetworkAddress _ _ _ _ address netmask destination =>
    Macos.setNetworkAddress interface.kernel true address netmask destination
  | @AddressCall.addAddressV4 _ _ _ _ address netmask =>
    Macos.addAddressV4 interface.kernel true address netmask
  | .removeAddress addr => Macos.removeAddress interface.kernel true addr

def addressMachine (interface : Interface σ) (start : σ) : Machine σ AddressCall where
  start := start
  step s call := some ((configure interface call).on s).2

/-- No address is added that is present. -/
def AddsAbsent (interface : Interface σ) (s : σ) : AddressCall → Prop
  | @AddressCall.addAddressV4 _ _ _ _ address _ => ∀ addr, ToIpv4Address.ipv4 address = .ok addr →
    ∀ entry ∈ interface.addresses s, entry.ipv4 ≠ some addr
  | _ => True

def RemovesAbsent (interface : Interface σ) (s : σ) : AddressCall → Prop
  | .removeAddress addr => ∀ entry ∈ interface.addresses s, entry.ipv4 ≠ some addr
  | _ => True

theorem configure_follows {call : AddressCall} (follow : interface.RoutesFollow s)
    (adds : interface.AddsAbsent s call) (removes : interface.RemovesAbsent s call) :
    interface.RoutesFollow ((configure interface call).on s).2 := by
  cases call with
  | setNetworkAddress address netmask destination =>
    exact setNetworkAddress_follows follow address netmask destination
  | addAddressV4 address netmask => exact addAddressV4_follows follow address netmask adds
  | removeAddress addr =>
    change interface.RoutesFollow ((Macos.removeAddress interface.kernel true addr).on s).2
    rw [interface.removeAddress_absent removes]
    exact follow

/-- Routes follow addresses as long as no address is removed by itself. Removing one leaves its
route behind. -/
theorem routes_follow {start : σ} (unconfigured : ∀ entry ∈ interface.addresses start,
      entry.ipv4 = none) (unrouted : interface.routes start = ∅)
    (reached : (interface.addressMachine start).Reaches
      (fun s call => interface.AddsAbsent s call ∧ interface.RemovesAbsent s call) s) :
    interface.RoutesFollow s ∧
      ∀ addr, (∃ entry ∈ interface.addresses s, entry.ipv4 = some addr) →
        ¬ interface.RoutesFollow ((configure interface (.removeAddress addr)).on s).2 := by
  have follow : interface.RoutesFollow s := by
    refine reached.invariant ?_ fun s call after follow met stepped => ?_
    · constructor
      case routes =>
        intro route
        rw [addressMachine, unrouted]
        refine iff_of_false (Set.notMem_empty route) ?_
        rintro ⟨entry, among, has⟩
        obtain ⟨addr, ipv4, -⟩ := IfAddr.associatedRoute_gateway has
        exact nomatch (unconfigured entry among).symm.trans ipv4
      case routed => exact fun entry among is => absurd (unconfigured entry among) is
      case distinct =>
        refine List.pairwise_of_forall_mem_list fun entry among other _ addr is => ?_
        exact nomatch (unconfigured entry among).symm.trans is
    · exact Option.some.inj stepped ▸ configure_follows follow met.1 met.2
  exact ⟨follow, fun addr present => removeAddress_leavesRoute follow present⟩

/-! ## An interface that is two tables -/

def eaddrnotavail : Nat := 49

def tableKernel : Kernel (List IfAddr × List Route) where
  name := pure "utun4"
  ifIndex := pure 7
  getIfAddrsByName _ := do return (← get).1
  siocaifaddr _ addr _ mask :=
    modify fun tables => (⟨some (.v4 addr), some (.v4 mask)⟩ :: tables.1, tables.2)
  siocdifaddr _ addr := do
    if (← get).1.any fun entry => entry.ipv4 = some addr then
      modify fun tables => (tables.1.filter fun entry => entry.ipv4 ≠ some addr, tables.2)
    else OsCall.ofResult (errorOf (.os eaddrnotavail))
  routeManager := pure ()
  addRoute route := modify fun tables => (tables.1, route :: tables.2)
  deleteRoute route := modify fun tables => (tables.1, tables.2.filter (· ≠ route))

theorem tableKernel_siocdifaddr (name : String) (addr : Ipv4Addr)
    (tables : List IfAddr × List Route) :
    (tableKernel.siocdifaddr name addr).on tables =
      if tables.1.any fun entry => entry.ipv4 = some addr then
        (.ok (), (tables.1.filter fun entry => entry.ipv4 ≠ some addr, tables.2))
      else (errorOf (.os eaddrnotavail), tables) := by
  change OsCall.on (if tables.1.any fun entry => entry.ipv4 = some addr then _ else _) tables = _
  split <;> rfl

def tableInterface : Interface (List IfAddr × List Route) where
  kernel := tableKernel
  name := "utun4"
  index := 7
  addresses tables := tables.1
  routes tables := {route | route ∈ tables.2}
  name_on _ := rfl
  ifIndex_on _ := rfl
  getIfAddrsByName_on _ := rfl
  routeManager_on _ := rfl
  siocaifaddr_on _ _ _ _ _ := ⟨_, rfl, .refl _, rfl⟩
  siocdifaddr_on tables addr present := by
    obtain ⟨entry, among, ipv4⟩ := present
    have found : tables.1.any (fun entry => entry.ipv4 = some addr) = true :=
      List.any_eq_true.mpr ⟨entry, among, decide_eq_true ipv4⟩
    rw [tableKernel_siocdifaddr, if_pos found]
    exact ⟨_, rfl, .refl _, rfl⟩
  siocdifaddr_absent tables addr absent := by
    have missing : ¬ tables.1.any (fun entry => entry.ipv4 = some addr) = true := by
      rw [List.any_eq_true]
      rintro ⟨entry, among, ipv4⟩
      exact absent entry among (of_decide_eq_true ipv4)
    rw [tableKernel_siocdifaddr, if_neg missing]
    exact ⟨_, rfl⟩
  addRoute_on tables route _ := by
    refine ⟨_, rfl, rfl, ?_⟩
    ext other
    exact List.mem_cons
  deleteRoute_on tables route _ := by
    refine ⟨_, rfl, rfl, ?_⟩
    ext other
    exact List.mem_filter.trans (and_congr_right fun _ => decide_eq_true_iff)

def oneAddress : List IfAddr × List Route :=
  ([⟨some (.v4 0x0a000001), some (.v4 0xffffff00)⟩], [⟨.v4 0x0a000000, 24, .v4 0x0a000001, 7⟩])

theorem addAddressV4_absent (addr : Ipv4Addr) (len : UInt8) :
    tableInterface.AddsAbsent ([], []) (.addAddressV4 addr len) :=
  fun _ _ _ among => absurd among List.not_mem_nil

theorem oneAddress_added : ((configure tableInterface
    (.addAddressV4 (0x0a000001 : Ipv4Addr) (24 : UInt8))).on ([], [])).2 = oneAddress := by
  rfl

theorem routes_follow_replaced : ∃ s, tableInterface.RoutesFollow s ∧
    tableInterface.routes s = {⟨.v4 0x0a010000, 16, .v4 0x0a010001, 7⟩} := by
  have replaced : ((configure tableInterface
      (.setNetworkAddress (0x0a010001 : Ipv4Addr) (16 : UInt8) none)).on oneAddress).2 =
      ([⟨some (.v4 0x0a010001), some (.v4 0xffff0000)⟩],
        [⟨.v4 0x0a010000, 16, .v4 0x0a010001, 7⟩]) := by
    rfl
  have reached : (tableInterface.addressMachine ([], [])).Reaches (fun s call =>
      tableInterface.AddsAbsent s call ∧ tableInterface.RemovesAbsent s call) _ :=
    .next (.next .start ⟨addAddressV4_absent 0x0a000001 24, trivial⟩
      (congrArg some oneAddress_added))
      (a := .setNetworkAddress (0x0a010001 : Ipv4Addr) (16 : UInt8) none) ⟨trivial, trivial⟩
      (congrArg some replaced)
  have unrouted : tableInterface.routes ([], []) = ∅ :=
    Set.eq_empty_of_forall_notMem fun _ => List.not_mem_nil
  refine ⟨_, (routes_follow (fun _ among => absurd among List.not_mem_nil) unrouted reached).1, ?_⟩
  ext route
  exact List.mem_singleton

/-- The route of `10.0.0.1` outlives its address. -/
theorem removeAddress_leaves_route : ∃ s,
    (tableInterface.addressMachine ([], [])).Reaches tableInterface.AddsAbsent s ∧
      ¬ tableInterface.RoutesFollow s := by
  have removed : ((configure tableInterface (.removeAddress 0x0a000001)).on oneAddress).2 =
      ([], [⟨.v4 0x0a000000, 24, .v4 0x0a000001, 7⟩]) := by
    rfl
  have reached : (tableInterface.addressMachine ([], [])).Reaches tableInterface.AddsAbsent _ :=
    .next (.next .start (addAddressV4_absent 0x0a000001 24) (congrArg some oneAddress_added))
      (a := .removeAddress 0x0a000001) trivial (congrArg some removed)
  refine ⟨_, reached, fun follow => ?_⟩
  obtain ⟨entry, among, -⟩ := (follow.routes _).mp List.mem_cons_self
  cases among

end Interface

end QuincyTun.Macos
