import QuincyTun.Foundation.Machine
import QuincyTun.Windows.Device

/-! The addresses and the gateways of Windows interfaces over whole runs.

A gateway is the next hop of a default route. It is given together with an address and
has to go with it, although the system keeps the two in different tables.
-/

set_option autoImplicit false

namespace QuincyTun.Windows

open QuincyTun.Foundation QuincyTun.Config

variable {σ : Type} {index : Nat} {isV4 : Bool} {s after : σ} {result : Result Unit}

/-! ## The tables of the system -/

/-- An interface has an address once, with one prefix length. -/
def UnicastAddressRow.Names (row other : UnicastAddressRow) : Prop :=
  row.interfaceIndex = other.interfaceIndex ∧ row.address = other.address

def ForwardRow.ViaGateway (row : ForwardRow) : Prop :=
  row.nextHop ≠ unspecified row.nextHop.isIpv4

/-- The addresses of all interfaces and the routes that go via a gateway. Routes on the link come
and go with the addresses. -/
@[ext] structure Tables where
  addresses : Set UnicastAddressRow
  routes : Set ForwardRow

namespace Tables

variable {before between tables : Tables}

def held (tables : Tables) (index : Nat) (isV4 : Bool) : Set UnicastAddressRow :=
  {row ∈ tables.addresses | row.interfaceIndex = index ∧ row.address.isIpv4 = isV4}

def gateways (tables : Tables) (index : Nat) (isV4 : Bool) : Set ForwardRow :=
  {row ∈ tables.routes |
    row.interfaceIndex = index ∧ row.destination.isIpv4 = isV4 ∧ row.prefixLength = 0}

/-- At most rows of one family on one interface are lost. -/
structure Shrinks (index : Nat) (isV4 : Bool) (before after : Tables) : Prop where
  addresses : after.addresses ⊆ before.addresses
  routes : after.routes ⊆ before.routes
  addressesElsewhere : ∀ row ∈ before.addresses,
    ¬ (row.interfaceIndex = index ∧ row.address.isIpv4 = isV4) → row ∈ after.addresses
  routesElsewhere : ∀ row ∈ before.routes,
    ¬ (row.interfaceIndex = index ∧ row.destination.isIpv4 = isV4) → row ∈ after.routes

theorem Shrinks.refl (index : Nat) (isV4 : Bool) (tables : Tables) :
    Shrinks index isV4 tables tables :=
  ⟨.rfl, .rfl, fun _ among _ => among, fun _ among _ => among⟩

theorem Shrinks.trans {last : Tables} (first : Shrinks index isV4 before between)
    (second : Shrinks index isV4 between last) : Shrinks index isV4 before last where
  addresses := second.addresses.trans first.addresses
  routes := second.routes.trans first.routes
  addressesElsewhere row among elsewhere :=
    second.addressesElsewhere row (first.addressesElsewhere row among elsewhere) elsewhere
  routesElsewhere row among elsewhere :=
    second.routesElsewhere row (first.routesElsewhere row among elsewhere) elsewhere

theorem Shrinks.held {last : Tables} (shrinks : Shrinks index isV4 before last) (other : Nat)
    (family : Bool) : last.held other family ⊆ before.held other family :=
  fun _ among => ⟨shrinks.addresses among.1, among.2⟩

theorem Shrinks.gateways {last : Tables} (shrinks : Shrinks index isV4 before last) (other : Nat)
    (family : Bool) : last.gateways other family ⊆ before.gateways other family :=
  fun _ among => ⟨shrinks.routes among.1, among.2⟩

def SameElsewhere (index : Nat) (isV4 : Bool) (before after : Tables) : Prop :=
  ∀ other family, ¬ (other = index ∧ family = isV4) →
    after.held other family = before.held other family ∧
      after.gateways other family = before.gateways other family

theorem Shrinks.sameElsewhere {last : Tables} (shrinks : Shrinks index isV4 before last) :
    SameElsewhere index isV4 before last := by
  intro other family elsewhere
  constructor
  · refine Set.Subset.antisymm (shrinks.held other family) fun row among => ⟨?_, among.2⟩
    exact shrinks.addressesElsewhere row among.1 (among.2.1 ▸ among.2.2 ▸ elsewhere)
  · refine Set.Subset.antisymm (shrinks.gateways other family) fun row among => ⟨?_, among.2⟩
    exact shrinks.routesElsewhere row among.1 (among.2.1 ▸ among.2.2.1 ▸ elsewhere)

theorem SameElsewhere.trans {last : Tables} (first : SameElsewhere index isV4 before between)
    (second : SameElsewhere index isV4 between last) : SameElsewhere index isV4 before last :=
  fun other family elsewhere =>
    ⟨(second other family elsewhere).1.trans (first other family elsewhere).1,
      (second other family elsewhere).2.trans (first other family elsewhere).2⟩

theorem held_insert {last : Tables} {row : UnicastAddressRow}
    (addresses : last.addresses = insert row before.addresses) (index : Nat) (isV4 : Bool) :
    last.held index isV4 = {new | new = row ∧ new.interfaceIndex = index ∧
      new.address.isIpv4 = isV4} ∪ before.held index isV4 := by
  ext new
  simp only [held, addresses, Set.mem_insert_iff, Set.mem_ofPred_eq, Set.mem_union]
  exact or_and_right

theorem gateways_union {last : Tables} {added : Set ForwardRow}
    (routes : last.routes = added ∪ before.routes) (index : Nat) (isV4 : Bool) :
    last.gateways index isV4 = {new ∈ added | new.interfaceIndex = index ∧
      new.destination.isIpv4 = isV4 ∧ new.prefixLength = 0} ∪ before.gateways index isV4 := by
  ext new
  simp only [gateways, routes, Set.mem_ofPred_eq, Set.mem_union]
  exact or_and_right

end Tables

def defaultRoutes (index : Nat) (gateway : Option IpAddr) : Set ForwardRow :=
  {route | ∃ hop ∈ gateway, route = ⟨index, unspecified hop.isIpv4, 0, hop⟩ ∧ route.ViaGateway}

/-- A family on an interface has exactly this address and this gateway. -/
structure Tables.Configured (tables : Tables) (index : Nat) (address : IpAddr) (len : Nat)
    (gateway : Option IpAddr) : Prop where
  held : tables.held index address.isIpv4 = {⟨index, address, len⟩}
  gateways : tables.gateways index address.isIpv4 = defaultRoutes index gateway

/-- What is left of a family on an interface when its address was not replaced. The old gateways
never go with the new address. -/
def Tables.Unconfigured (before after : Tables) (index : Nat) (address : IpAddr) (len : Nat) :
    Prop :=
  before.Shrinks index address.isIpv4 after ∨
    after.held index address.isIpv4 = {⟨index, address, len⟩} ∧
      after.gateways index address.isIpv4 = ∅

theorem defaultRoutes_here {gateway : Option IpAddr} (family : ∀ hop ∈ gateway, hop.isIpv4 = isV4)
    {route : ForwardRow} (asked : route ∈ defaultRoutes index gateway) :
    route.interfaceIndex = index ∧ route.destination.isIpv4 = isV4 ∧ route.prefixLength = 0 := by
  obtain ⟨hop, given, rfl, -⟩ := asked
  refine ⟨rfl, ?_, rfl⟩
  rw [← family hop given]
  cases hop <;> rfl

theorem Tables.SameElsewhere.of_added {before last : Tables} {row : UnicastAddressRow}
    {added : Set ForwardRow} (here : row.interfaceIndex = index ∧ row.address.isIpv4 = isV4)
    (addresses : last.addresses = before.addresses ∨
      last.addresses = insert row before.addresses)
    (addedHere : ∀ route ∈ added, route.interfaceIndex = index ∧
      route.destination.isIpv4 = isV4)
    (routes : last.routes = added ∪ before.routes) : SameElsewhere index isV4 before last := by
  intro other family elsewhere
  constructor
  · rcases addresses with same | more
    · rw [held, held, same]
    · rw [held_insert more, Set.union_eq_self_of_subset_left]
      rintro _ ⟨rfl, rfl, rfl⟩
      exact absurd here elsewhere
  · rw [gateways_union routes, Set.union_eq_self_of_subset_left]
    rintro route ⟨new, rfl, rfl, -⟩
    exact absurd (addedHere route new) elsewhere

def AddsV6 (tables : σ → Tables) (index : Nat) (before : Tables) (s : σ) : Prop :=
  (tables s).routes = before.routes ∧ before.SameElsewhere index false (tables s)

/-- The system as its documentation describes it, when nobody else changes the tables. -/
structure Kernel.Lawful (kernel : Kernel σ) (tables : σ → Tables) : Prop where
  viaGateway : ∀ s, ∀ row ∈ (tables s).routes, row.ViaGateway
  getAddresses : ∀ isV4 s code table after,
    (kernel.getUnicastIpAddressTable isV4).run s = ((code, table), after) →
    tables after = tables s ∧
      (code = noError → ∀ row, row ∈ table ↔ row ∈ (tables s).addresses ∧ row.address.isIpv4 = isV4)
  getRoutes : ∀ isV4 s code table after,
    (kernel.getIpForwardTable2 isV4).run s = ((code, table), after) →
    tables after = tables s ∧
      (code = noError → ∀ row, row.ViaGateway →
        (row ∈ table ↔ row ∈ (tables s).routes ∧ row.destination.isIpv4 = isV4))
  createAddress : ∀ row s code after,
    (kernel.createUnicastIpAddressEntry row).run s = (code, after) →
    (code = noError → (tables after).addresses = insert row (tables s).addresses ∧
      (tables after).routes = (tables s).routes) ∧
    (code ≠ noError → tables after = tables s) ∧
    (code = errorObjectAlreadyExists → ∃ held ∈ (tables s).addresses, held.Names row)
  deleteAddress : ∀ row s code after,
    (kernel.deleteUnicastIpAddressEntry row).run s = (code, after) →
    (code = noError →
      (tables after).addresses = {held ∈ (tables s).addresses | ¬ held.Names row} ∧
        (tables s).Shrinks row.interfaceIndex row.address.isIpv4 (tables after)) ∧
    (code ≠ noError → tables after = tables s)
  createRoute : ∀ row s code after,
    (kernel.createIpForwardEntry2 row).run s = (code, after) →
    (code = noError → (tables after).addresses = (tables s).addresses ∧
      (tables after).routes = {route | route = row ∧ row.ViaGateway} ∪ (tables s).routes) ∧
    (code ≠ noError → tables after = tables s) ∧
    (code = errorObjectAlreadyExists → row.ViaGateway → row ∈ (tables s).routes)
  deleteRoute : ∀ row s code after,
    (kernel.deleteIpForwardEntry2 row).run s = (code, after) →
    (code = noError → (tables after).addresses = (tables s).addresses ∧
      (tables after).routes = (tables s).routes \ {row}) ∧
    (code ≠ noError → tables after = tables s)

/-! ## Clearing -/

theorem on_checked (answer : StateM σ Nat) :
    (do winResult (← answer) : OsCall σ Unit).on s =
      (if (answer.run s).1 = noError then .ok () else errorOf (.os (answer.run s).1),
        (answer.run s).2) := by
  rw [OsCall.on_lift_bind, winResult, OsCall.on_ofResult]

theorem winResult_bind_error {α : Type} {code : Nat} {next : Unit → OsCall σ α}
    (failed : code ≠ noError) :
    (winResult code >>= next).on s = (errorOf (.os code), s) := by
  rw [winResult, if_neg failed]
  exact OsCall.on_ofResult_bind_error rfl

namespace Kernel.Lawful

variable {kernel : Kernel σ} {tables : σ → Tables}

theorem deleteAddress_shrinks (lawful : kernel.Lawful tables) (row : UnicastAddressRow)
    (here : row.interfaceIndex = index ∧ row.address.isIpv4 = isV4) (s : σ) :
    (tables s).Shrinks index isV4 (tables
      ((do winResult (← kernel.deleteUnicastIpAddressEntry row) : OsCall σ Unit).on s).2) := by
  rw [on_checked]
  rcases answered : (kernel.deleteUnicastIpAddressEntry row).run s with ⟨code, after⟩
  obtain ⟨removes, keeps⟩ := lawful.deleteAddress row s code after answered
  by_cases ok : code = noError
  · exact here.1 ▸ here.2 ▸ (removes ok).2
  · exact keeps ok ▸ .refl _ _ _

theorem deleteAddress_done (lawful : kernel.Lawful tables) {row : UnicastAddressRow}
    (ran : (do winResult (← kernel.deleteUnicastIpAddressEntry row) : OsCall σ Unit).on s =
      (.ok (), after)) : ∀ held ∈ (tables after).addresses, ¬ held.Names row := by
  rw [on_checked] at ran
  rcases answered : (kernel.deleteUnicastIpAddressEntry row).run s with ⟨code, between⟩
  obtain ⟨removes, -⟩ := lawful.deleteAddress row s code between answered
  rw [answered] at ran
  by_cases ok : code = noError
  · obtain ⟨-, rfl⟩ := Prod.mk.inj ran
    rw [(removes ok).1]
    exact fun held among => among.2
  · rw [if_neg ok] at ran
    cases ran

/-- Routes on the link are not among those that count. -/
theorem deleteRoute_shrinks (lawful : kernel.Lawful tables) (row : ForwardRow)
    (here : row.ViaGateway → row.interfaceIndex = index ∧ row.destination.isIpv4 = isV4) (s : σ) :
    (tables s).Shrinks index isV4 (tables
      ((do winResult (← kernel.deleteIpForwardEntry2 row) : OsCall σ Unit).on s).2) := by
  rw [on_checked]
  rcases answered : (kernel.deleteIpForwardEntry2 row).run s with ⟨code, after⟩
  obtain ⟨removes, keeps⟩ := lawful.deleteRoute row s code after answered
  by_cases ok : code = noError
  · obtain ⟨addresses, routes⟩ := removes ok
    constructor
    case addresses => exact addresses.subset
    case routes => exact routes ▸ Set.sdiff_subset
    case addressesElsewhere => exact fun held among _ => addresses ▸ among
    case routesElsewhere =>
      intro other among elsewhere
      change other ∈ (tables after).routes
      rw [routes]
      refine ⟨among, ?_⟩
      rintro rfl
      exact elsewhere (here (lawful.viaGateway s other among))
  · exact keeps ok ▸ .refl _ _ _

theorem deleteRoute_done (lawful : kernel.Lawful tables) {row : ForwardRow}
    (ran : (do winResult (← kernel.deleteIpForwardEntry2 row) : OsCall σ Unit).on s =
      (.ok (), after)) : row ∉ (tables after).routes := by
  rw [on_checked] at ran
  rcases answered : (kernel.deleteIpForwardEntry2 row).run s with ⟨code, between⟩
  obtain ⟨removes, -⟩ := lawful.deleteRoute row s code between answered
  rw [answered] at ran
  by_cases ok : code = noError
  · obtain ⟨-, rfl⟩ := Prod.mk.inj ran
    rw [(removes ok).2]
    exact fun remains => remains.2 rfl
  · rw [if_neg ok] at ran
    cases ran

theorem clearDefaultRoutes_on (lawful : kernel.Lawful tables)
    (ran : (clearDefaultRoutes kernel index isV4).on s = (result, after)) :
    (tables s).Shrinks index isV4 (tables after) ∧
      (result = .ok () → (tables after).gateways index isV4 = ∅) := by
  unfold clearDefaultRoutes at ran
  rw [OsCall.on_lift_bind] at ran
  rcases listed : (kernel.getIpForwardTable2 isV4).run s with ⟨⟨code, table⟩, between⟩
  obtain ⟨same, rows⟩ := lawful.getRoutes isV4 s code table between listed
  rw [listed] at ran
  rw [← same]
  by_cases ok : code = noError
  case neg =>
    obtain ⟨rfl, rfl⟩ := Prod.mk.inj ((winResult_bind_error ok).symm.trans ran)
    exact ⟨.refl _ _ _, nofun⟩
  case pos =>
    obtain rfl := ok
    change ((table.filter fun (row : ForwardRow) =>
      row.interfaceIndex = index ∧ row.prefixLength = 0).forM fun row =>
        (do winResult (← kernel.deleteIpForwardEntry2 row) : OsCall σ Unit)).on between = _ at ran
    have each : ∀ row ∈ table.filter fun row => row.interfaceIndex = index ∧ row.prefixLength = 0,
        ∀ s, (tables s).Shrinks index isV4 (tables
          ((do winResult (← kernel.deleteIpForwardEntry2 row) : OsCall σ Unit).on s).2) := by
      intro row chosen
      obtain ⟨listed, here⟩ := List.mem_filter.mp chosen
      exact lawful.deleteRoute_shrinks row fun via =>
        ⟨(of_decide_eq_true here).1, ((rows rfl row via).mp listed).2⟩
    have related := OsCall.on_forM_related (r := fun s after =>
      (tables s).Shrinks index isV4 (tables after)) (fun _ => .refl _ _ _)
      (fun _ _ _ => .trans) each between
    rw [ran] at related
    refine ⟨related, ?_⟩
    rintro rfl
    have gone := OsCall.on_forM_done (r := fun s after =>
      (tables s).Shrinks index isV4 (tables after)) (fun _ => .refl _ _ _)
      (fun _ _ _ => .trans) each (fun row _ s after => lawful.deleteRoute_done)
      (fun row s after shrinks absent remains => absent (shrinks.routes remains)) ran
    refine Set.eq_empty_of_forall_notMem fun row remains => ?_
    have before := related.routes remains.1
    rw [same] at before
    refine gone row (List.mem_filter.mpr ⟨?_, decide_eq_true ⟨remains.2.1, remains.2.2.2⟩⟩)
      remains.1
    exact (rows rfl row (lawful.viaGateway after row remains.1)).mpr ⟨before, remains.2.2.1⟩

theorem clearAddresses_on (lawful : kernel.Lawful tables)
    (ran : (clearAddresses kernel index isV4).on s = (result, after)) :
    (tables s).Shrinks index isV4 (tables after) ∧ (result = .ok () →
      (tables after).held index isV4 = ∅ ∧ (tables after).gateways index isV4 = ∅) := by
  unfold clearAddresses at ran
  rw [OsCall.on_lift_bind] at ran
  rcases listed : (kernel.getUnicastIpAddressTable isV4).run s with ⟨⟨code, table⟩, read⟩
  obtain ⟨same, rows⟩ := lawful.getAddresses isV4 s code table read listed
  rw [listed] at ran
  rw [← same]
  by_cases ok : code = noError
  case neg =>
    obtain ⟨rfl, rfl⟩ := Prod.mk.inj ((winResult_bind_error ok).symm.trans ran)
    exact ⟨.refl _ _ _, nofun⟩
  case pos =>
    obtain rfl := ok
    change ((table.filter fun (row : UnicastAddressRow) => row.interfaceIndex = index).forM
        (fun row => (do winResult (← kernel.deleteUnicastIpAddressEntry row) : OsCall σ Unit)) >>=
      fun _ => clearDefaultRoutes kernel index isV4).on read = _ at ran
    have each : ∀ row ∈ table.filter fun row => row.interfaceIndex = index,
        ∀ s, (tables s).Shrinks index isV4 (tables
          ((do winResult (← kernel.deleteUnicastIpAddressEntry row) : OsCall σ Unit).on s).2) := by
      intro row chosen
      obtain ⟨listed, here⟩ := List.mem_filter.mp chosen
      exact lawful.deleteAddress_shrinks row
        ⟨of_decide_eq_true here, ((rows rfl row).mp listed).2⟩
    have removed := OsCall.on_forM_related (r := fun s after =>
      (tables s).Shrinks index isV4 (tables after)) (fun _ => .refl _ _ _)
      (fun _ _ _ => .trans) each read
    rw [OsCall.on_bind] at ran
    split at ran
    case h_2 error between failed =>
      obtain ⟨rfl, rfl⟩ := Prod.mk.inj ran
      rw [failed] at removed
      exact ⟨removed, nofun⟩
    case h_1 between loop =>
      rw [loop] at removed
      obtain ⟨shrinks, cleared⟩ := lawful.clearDefaultRoutes_on ran
      refine ⟨removed.trans shrinks, fun succeeded => ⟨?_, cleared succeeded⟩⟩
      have gone := OsCall.on_forM_done (r := fun s after =>
        (tables s).Shrinks index isV4 (tables after)) (fun _ => .refl _ _ _)
        (fun _ _ _ => .trans) each (fun row _ s after => lawful.deleteAddress_done)
        (fun row s after shrinks absent held remains => absent held (shrinks.addresses remains))
        loop
      refine Set.eq_empty_of_forall_notMem fun row remains => ?_
      have before := (removed.trans shrinks).addresses remains.1
      rw [same] at before
      refine gone row (List.mem_filter.mpr ⟨?_, decide_eq_true remains.2.1⟩) row
        (shrinks.addresses remains.1) ⟨rfl, rfl⟩
      exact (rows rfl row).mpr ⟨before, remains.2.2⟩

/-! ## Adding -/

theorem createAddress_on (lawful : kernel.Lawful tables) {row : UnicastAddressRow}
    (ran : (do winResultUnlessExists (← kernel.createUnicastIpAddressEntry row) :
      OsCall σ Unit).on s = (result, after)) :
    (result = .ok () ∧ (tables after).addresses = insert row (tables s).addresses ∧
        (tables after).routes = (tables s).routes) ∨
      tables after = tables s ∧
        (result = .ok () → ∃ held ∈ (tables s).addresses, held.Names row) := by
  rw [OsCall.on_lift_bind] at ran
  rcases answered : (kernel.createUnicastIpAddressEntry row).run s with ⟨code, between⟩
  obtain ⟨creates, keeps, exists_⟩ := lawful.createAddress row s code between answered
  rw [answered, winResultUnlessExists, winResult] at ran
  by_cases already : code = errorObjectAlreadyExists
  · rw [if_neg (not_not.mpr already)] at ran
    obtain ⟨rfl, rfl⟩ := Prod.mk.inj ran
    exact .inr ⟨keeps (by rw [already]; decide), fun _ => exists_ already⟩
  rw [if_pos already, OsCall.on_ofResult] at ran
  obtain ⟨rfl, rfl⟩ := Prod.mk.inj ran
  by_cases ok : code = noError
  · rw [if_pos ok]
    exact .inl ⟨rfl, creates ok⟩
  · rw [if_neg ok]
    exact .inr ⟨keeps ok, nofun⟩

theorem createRoute_on (lawful : kernel.Lawful tables) {row : ForwardRow}
    (ran : (do winResultUnlessExists (← kernel.createIpForwardEntry2 row) : OsCall σ Unit).on s =
      (result, after)) :
    (result = .ok () ∧ (tables after).addresses = (tables s).addresses ∧
        (tables after).routes = {route | route = row ∧ row.ViaGateway} ∪ (tables s).routes) ∨
      (∃ error, result = .error error) ∧ tables after = tables s := by
  rw [OsCall.on_lift_bind] at ran
  rcases answered : (kernel.createIpForwardEntry2 row).run s with ⟨code, between⟩
  obtain ⟨creates, keeps, exists_⟩ := lawful.createRoute row s code between answered
  rw [answered, winResultUnlessExists, winResult] at ran
  by_cases already : code = errorObjectAlreadyExists
  · rw [if_neg (not_not.mpr already)] at ran
    obtain ⟨rfl, rfl⟩ := Prod.mk.inj ran
    have same := keeps (by rw [already]; decide)
    refine .inl ⟨rfl, by rw [same], ?_⟩
    rw [same, Set.union_eq_self_of_subset_left]
    rintro _ ⟨rfl, via⟩
    exact exists_ already via
  rw [if_pos already, OsCall.on_ofResult] at ran
  obtain ⟨rfl, rfl⟩ := Prod.mk.inj ran
  by_cases ok : code = noError
  · rw [if_pos ok]
    exact .inl ⟨rfl, creates ok⟩
  · rw [if_neg ok]
    exact .inr ⟨⟨_, rfl⟩, keeps ok⟩

theorem addAddress_on (lawful : kernel.Lawful tables) {address : IpAddr} {len : Nat}
    {gateway : Option IpAddr}
    (absent : ∀ row ∈ (tables s).addresses, ¬ row.Names ⟨index, address, len⟩)
    (ran : (addAddress kernel index address len gateway).on s = (result, after)) :
    (result = .ok () ∧
        (tables after).addresses = insert ⟨index, address, len⟩ (tables s).addresses ∧
        (tables after).routes = defaultRoutes index gateway ∪ (tables s).routes) ∨
      (∃ error, result = .error error) ∧ (tables after).routes = (tables s).routes ∧
        ((tables after).addresses = (tables s).addresses ∨
          (tables after).addresses = insert ⟨index, address, len⟩ (tables s).addresses) := by
  change ((do winResultUnlessExists (← kernel.createUnicastIpAddressEntry ⟨index, address, len⟩) :
    OsCall σ Unit) >>= fun _ => _).on s = _ at ran
  rw [OsCall.on_bind] at ran
  split at ran
  case h_2 error between failed =>
    obtain ⟨rfl, rfl⟩ := Prod.mk.inj ran
    obtain ⟨ok, -⟩ | ⟨same, -⟩ := lawful.createAddress_on failed
    · cases ok
    · exact .inr ⟨⟨error, rfl⟩, by rw [same], .inl (by rw [same])⟩
  case h_1 between created =>
    obtain ⟨-, addresses, routes⟩ | ⟨-, present⟩ := lawful.createAddress_on created
    case inr =>
      obtain ⟨row, among, names⟩ := present rfl
      exact absurd names (absent row among)
    cases gateway with
    | none =>
      obtain ⟨rfl, rfl⟩ := Prod.mk.inj ran
      refine .inl ⟨rfl, addresses, ?_⟩
      have none_ : defaultRoutes index none = ∅ :=
        Set.eq_empty_of_forall_notMem fun _ asked => nomatch asked
      rw [none_, Set.empty_union, routes]
    | some hop =>
      obtain ⟨rfl, sameAddresses, more⟩ | ⟨failed, same⟩ := lawful.createRoute_on ran
      · refine .inl ⟨rfl, sameAddresses.trans addresses, ?_⟩
        rw [more, routes]
        congr 1
        ext route
        simp only [defaultRoutes, Option.mem_def, Option.some.injEq, exists_eq_left',
          Set.mem_ofPred_eq]
        exact and_congr_right fun is => by rw [is]
      · exact .inr ⟨failed, by rw [same, routes], .inr (by rw [same, addresses])⟩

/-! ## Replacing -/

theorem setAddress_on (lawful : kernel.Lawful tables) {address : IpAddr} {len : Nat}
    {gateway : Option IpAddr} (family : ∀ hop ∈ gateway, hop.isIpv4 = address.isIpv4)
    (ran : (setAddress kernel index address len gateway).on s = (result, after)) :
    (tables s).SameElsewhere index address.isIpv4 (tables after) ∧
      (result = .ok () ∧ (tables after).Configured index address len gateway ∨
        (∃ error, result = .error error) ∧
          (tables s).Unconfigured (tables after) index address len) := by
  rw [setAddress, OsCall.on_bind] at ran
  split at ran
  case h_2 error between failed =>
    obtain ⟨rfl, rfl⟩ := Prod.mk.inj ran
    obtain ⟨shrinks, -⟩ := lawful.clearAddresses_on failed
    exact ⟨shrinks.sameElsewhere, .inr ⟨⟨error, rfl⟩, .inl shrinks⟩⟩
  case h_1 between cleared =>
    obtain ⟨shrinks, none_⟩ := lawful.clearAddresses_on cleared
    obtain ⟨noneHeld, noGateways⟩ := none_ rfl
    have absent : ∀ row ∈ (tables between).addresses, ¬ row.Names ⟨index, address, len⟩ := by
      intro row among names
      have held : row ∈ (tables between).held index address.isIpv4 :=
        ⟨among, names.1, by rw [names.2]⟩
      rw [noneHeld] at held
      exact held
    have inserted (addresses : (tables after).addresses =
        insert ⟨index, address, len⟩ (tables between).addresses) :
        (tables after).held index address.isIpv4 = {⟨index, address, len⟩} := by
      rw [Tables.held_insert addresses, noneHeld, Set.union_empty]
      refine Set.Subset.antisymm (fun new is => is.1) ?_
      rintro _ rfl
      exact ⟨rfl, rfl, rfl⟩
    obtain ⟨rfl, addresses, routes⟩ | ⟨failed, routes, addresses⟩ := lawful.addAddress_on absent ran
    · refine ⟨shrinks.sameElsewhere.trans (.of_added ⟨rfl, rfl⟩ (.inr addresses)
        (fun route asked => ?_) routes), .inl ⟨rfl, inserted addresses, ?_⟩⟩
      · exact ⟨(defaultRoutes_here family asked).1, (defaultRoutes_here family asked).2.1⟩
      · rw [Tables.gateways_union routes, noGateways, Set.union_empty]
        exact Set.Subset.antisymm (fun new among => among.1)
          fun new asked => ⟨asked, defaultRoutes_here family asked⟩
    · have sameGateways : (tables after).gateways index address.isIpv4 = ∅ := by
        rw [Tables.gateways, routes]
        exact noGateways
      refine ⟨shrinks.sameElsewhere.trans (.of_added ⟨rfl, rfl⟩ addresses
        (fun _ new => absurd new (Set.notMem_empty _))
        (routes.trans (Set.empty_union _).symm)), .inr ⟨failed, ?_⟩⟩
      rcases addresses with same | more
      · exact .inl ((Tables.ext same routes : tables after = tables between) ▸ shrinks)
      · exact .inr ⟨inserted more, sameGateways⟩

/-! ## What the calls of the device do -/

section calls

variable {α β : Type} {addr : IpAddr}

/-- When the call fails, the old gateways are not left behind with another address. -/
theorem setNetworkAddress_on [ToIpv4Address α] [ToIpv4Netmask β] (lawful : kernel.Lawful tables)
    {address : α} {netmask : β} {destination : Option α}
    (ran : (setNetworkAddress kernel index address netmask destination).on s = (result, after)) :
    (tables s).SameElsewhere index true (tables after) ∧
      ((∃ addr len gateway, ToIpv4Address.ipv4 address = .ok addr ∧
          ToIpv4Netmask.toPrefix netmask = .ok len ∧
          destination.mapM ToIpv4Address.ipv4 = .ok gateway ∧ result = .ok () ∧
          (tables after).Configured index (.v4 addr) len.toNat (gateway.map .v4)) ∨
        (∃ error, result = .error error) ∧
          (tables after).gateways index true ⊆ (tables s).gateways index true ∧
          ((tables after).held index true ⊆ (tables s).held index true ∨
            (tables after).gateways index true = ∅)) := by
  by_cases fails : ConversionFails address (ToIpv4Netmask.toPrefix netmask) destination
  · obtain ⟨error, refused⟩ := setNetworkAddress_fails kernel index s fails
    obtain ⟨rfl, rfl⟩ := Prod.mk.inj (refused.symm.trans ran)
    exact ⟨(Tables.Shrinks.refl _ _ _).sameElsewhere, .inr ⟨⟨error, rfl⟩, .rfl, .inl .rfl⟩⟩
  cases converted : ToIpv4Address.ipv4 address with
  | error error => exact absurd (.inl ⟨error, converted⟩) fails
  | ok addr =>
    cases measured : ToIpv4Netmask.toPrefix netmask with
    | error error => exact absurd (.inr (.inl ⟨error, measured⟩)) fails
    | ok len =>
      cases directed : destination.mapM ToIpv4Address.ipv4 with
      | error error => exact absurd (.inr (.inr ⟨error, directed⟩)) fails
      | ok gateway =>
        rw [setNetworkAddress, OsCall.on_ofResult_bind_ok converted,
          OsCall.on_ofResult_bind_ok measured, OsCall.on_ofResult_bind_ok directed] at ran
        have family : ∀ hop ∈ gateway.map IpAddr.v4, hop.isIpv4 = (IpAddr.v4 addr).isIpv4 := by
          rintro _ given
          obtain ⟨hop, -, rfl⟩ := Option.mem_map.mp given
          rfl
        obtain ⟨elsewhere, ⟨ok, configured⟩ | ⟨failed, left_⟩⟩ := lawful.setAddress_on family ran
        · exact ⟨elsewhere, .inl ⟨addr, len, gateway, rfl, rfl, rfl, ok, configured⟩⟩
        · refine ⟨elsewhere, .inr ⟨failed, ?_⟩⟩
          obtain shrinks | ⟨-, none_⟩ := left_
          · exact ⟨shrinks.gateways index true, .inl (shrinks.held index true)⟩
          · exact ⟨none_.trans_subset (Set.empty_subset _), .inr none_⟩

theorem addAddressV6_adds [ToIpv6Address α] [ToIpv6Netmask β] (lawful : kernel.Lawful tables)
    (address : α) (netmask : β) (s : σ) :
    AddsV6 tables index (tables s) ((addAddressV6 kernel index address netmask).on s).2 := by
  have same : AddsV6 tables index (tables s) s :=
    ⟨rfl, (Tables.Shrinks.refl _ _ _).sameElsewhere⟩
  refine OsCall.ofResult_bind_keeps same fun addr _ => ?_
  refine OsCall.ofResult_bind_keeps same fun len _ => ?_
  rcases created : (do winResultUnlessExists (← kernel.createUnicastIpAddressEntry
    ⟨index, .v6 addr, len.toNat⟩) : OsCall σ Unit).on s with ⟨result, after⟩
  have only : ((addAddress kernel index (.v6 addr) len.toNat none).on s).2 = after := by
    rw [OsCall.on_lift_bind] at created
    rw [addAddress, OsCall.on_lift_bind, OsCall.on_bind, created]
    cases result <;> rfl
  rw [only]
  obtain ⟨-, addresses, routes⟩ | ⟨unchanged, -⟩ := lawful.createAddress_on created
  · exact ⟨routes, .of_added ⟨rfl, rfl⟩ (.inr addresses)
      (fun _ new => absurd new (Set.notMem_empty _)) (routes.trans (Set.empty_union _).symm)⟩
  · rw [AddsV6, unchanged]
    exact same

end calls

end Kernel.Lawful

/-! ## Runs -/

inductive AddressCall where
  | setNetworkAddress {α β : Type} [ToIpv4Address α] [ToIpv4Netmask β] (address : α) (netmask : β)
    (destination : Option α)
  | addAddressV6 {α β : Type} [ToIpv6Address α] [ToIpv6Netmask β] (address : α) (netmask : β)
  | removeAddress (addr : IpAddr)

def configure (kernel : Kernel σ) (index : Nat) : AddressCall → OsCall σ Unit
  | @AddressCall.setNetworkAddress _ _ _ _ address netmask destination =>
    Windows.setNetworkAddress kernel index address netmask destination
  | @AddressCall.addAddressV6 _ _ _ _ address netmask =>
    Windows.addAddressV6 kernel index address netmask
  | .removeAddress addr => Windows.removeAddress kernel index addr

/-- Devices with any interfaces configure them one call at a time, as their locks and the system
order the calls. -/
def addressMachine (kernel : Kernel σ) (start : σ) : Machine σ (Nat × AddressCall) where
  start := start
  step s call := some ((configure kernel call.1 call.2).on s).2

namespace Kernel.Lawful

variable {kernel : Kernel σ} {tables : σ → Tables} {call : Nat × AddressCall}

variable {α β : Type} [ToIpv4Address α] [ToIpv4Netmask β]

end Kernel.Lawful

/-! ## A system that is two tables -/

instance (row : ForwardRow) : Decidable row.ViaGateway := inferInstanceAs (Decidable (_ ≠ _))

instance (row other : UnicastAddressRow) : Decidable (row.Names other) :=
  inferInstanceAs (Decidable (_ ∧ _))

def errorNotFound : Nat := 1168

def changeUnless (refused : σ → Bool) (code : Nat) (change : σ → σ) : StateM σ Nat :=
  fun s => if refused s then (code, s) else (noError, change s)

abbrev RowLists := List UnicastAddressRow × List ForwardRow

def tableKernel : Kernel RowLists where
  getUnicastIpAddressTable isV4 := do
    return (noError, (← get).1.filter fun row => row.address.isIpv4 = isV4)
  createUnicastIpAddressEntry row :=
    changeUnless (fun lists => lists.1.any fun held => held.Names row) errorObjectAlreadyExists
      fun lists => (row :: lists.1, lists.2)
  deleteUnicastIpAddressEntry row :=
    changeUnless (fun lists => lists.1.all fun held => ¬ held.Names row) errorNotFound
      fun lists => (lists.1.filter fun held => ¬ held.Names row, lists.2)
  getIpForwardTable2 isV4 := do
    return (noError, (← get).2.filter fun row => row.destination.isIpv4 = isV4)
  createIpForwardEntry2 row :=
    changeUnless (fun lists => row ∈ lists.2) errorObjectAlreadyExists
      fun lists => (lists.1, row :: lists.2)
  deleteIpForwardEntry2 row :=
    changeUnless (fun lists => row ∉ lists.2) errorNotFound
      fun lists => (lists.1, lists.2.filter (· ≠ row))

def tablesOf (lists : RowLists) : Tables where
  addresses := {row | row ∈ lists.1}
  routes := {row | row ∈ lists.2 ∧ row.ViaGateway}

theorem changeUnless_run {refused : σ → Bool} {code answer : Nat} {change : σ → σ}
    (fails : code ≠ noError)
    (answered : (changeUnless refused code change).run s = (answer, after)) :
    (answer = noError → refused s = false ∧ after = change s) ∧
      (answer ≠ noError → refused s = true ∧ answer = code ∧ after = s) := by
  change (if refused s then (code, s) else (noError, change s)) = _ at answered
  split at answered
  case isTrue refuses =>
    obtain ⟨rfl, rfl⟩ := Prod.mk.inj answered
    exact ⟨fun ok => absurd ok fails, fun _ => ⟨refuses, rfl, rfl⟩⟩
  case isFalse accepts =>
    obtain ⟨rfl, rfl⟩ := Prod.mk.inj answered
    exact ⟨fun _ => ⟨Bool.eq_false_of_not_eq_true accepts, rfl⟩, fun failed => absurd rfl failed⟩

theorem tableKernel_lawful : tableKernel.Lawful tablesOf where
  viaGateway s row among := among.2
  getAddresses isV4 s code table after answered := by
    obtain ⟨rfl, rfl⟩ := Prod.mk.inj (Prod.mk.inj answered).1
    obtain rfl := (Prod.mk.inj answered).2
    exact ⟨rfl, fun _ row => by simp [tablesOf]⟩
  getRoutes isV4 s code table after answered := by
    obtain ⟨rfl, rfl⟩ := Prod.mk.inj (Prod.mk.inj answered).1
    obtain rfl := (Prod.mk.inj answered).2
    exact ⟨rfl, fun _ row via => by simp [tablesOf, via]⟩
  createAddress row s code after answered := by
    obtain ⟨creates, refuses⟩ := changeUnless_run (by decide) answered
    refine ⟨fun ok => ?_, fun failed => (refuses failed).2.2 ▸ rfl, fun already => ?_⟩
    · rw [(creates ok).2]
      exact ⟨Set.ext fun held => List.mem_cons, rfl⟩
    · have refused := (refuses (by rw [already]; decide)).1
      obtain ⟨held, among, names⟩ := List.any_eq_true.mp refused
      exact ⟨held, among, of_decide_eq_true names⟩
  deleteAddress row s code after answered := by
    obtain ⟨removes, refuses⟩ := changeUnless_run (by decide) answered
    refine ⟨fun ok => ?_, fun failed => (refuses failed).2.2 ▸ rfl⟩
    rw [(removes ok).2]
    have remains (held : UnicastAddressRow) :
        held ∈ s.1.filter (fun held => ¬ held.Names row) ↔ held ∈ s.1 ∧ ¬ held.Names row := by
      rw [List.mem_filter, decide_eq_true_iff]
    refine ⟨Set.ext remains, fun held among => ((remains held).mp among).1, .rfl,
      fun held among elsewhere => (remains held).mpr ⟨among, ?_⟩, fun _ among _ => among⟩
    rintro ⟨sameIndex, sameAddress⟩
    exact elsewhere ⟨sameIndex, by rw [sameAddress]⟩
  createRoute row s code after answered := by
    obtain ⟨creates, refuses⟩ := changeUnless_run (by decide) answered
    refine ⟨fun ok => ?_, fun failed => (refuses failed).2.2 ▸ rfl, fun already via => ?_⟩
    · rw [(creates ok).2]
      refine ⟨rfl, Set.ext fun route => ?_⟩
      simp only [tablesOf, List.mem_cons, Set.mem_ofPred_eq, Set.mem_union, or_and_right]
      exact or_congr_left (and_congr_right fun is => by rw [is])
    · have refused := (refuses (by rw [already]; decide)).1
      exact ⟨of_decide_eq_true refused, via⟩
  deleteRoute row s code after answered := by
    obtain ⟨removes, refuses⟩ := changeUnless_run (by decide) answered
    refine ⟨fun ok => ?_, fun failed => (refuses failed).2.2 ▸ rfl⟩
    rw [(removes ok).2]
    refine ⟨rfl, Set.ext fun route => ?_⟩
    simp only [tablesOf, List.mem_filter, decide_eq_true_eq, Set.mem_ofPred_eq, Set.mem_sdiff,
      Set.mem_singleton_iff]
    exact and_right_comm

def otherGateway : RowLists :=
  ([⟨7, .v4 0x0a010001, 16⟩], [⟨7, .v4 0, 0, .v4 0x0a01fffe⟩])

end QuincyTun.Windows
