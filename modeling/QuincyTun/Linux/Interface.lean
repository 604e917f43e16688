import QuincyTun.Config.Builder
import QuincyTun.Linux.AddressChange

/-! Linux interfaces as the builder configures them.

Next to its addresses an interface has an MTU and flags. What the builder asks for is what
the interface has when nothing fails, and the interface is not enabled when something does.
-/

set_option autoImplicit false

namespace QuincyTun.Linux

open QuincyTun.Foundation QuincyTun.Config

variable {σ : Type} {s after : σ} {result : Result Unit}

def iffUp : BitVec 16 := 0x1

def iffRunning : BitVec 16 := 0x40

structure Interface (σ : Type) extends Kernel σ where
  mtu : σ → Nat
  flags : σ → BitVec 16
  siocsifmtu : Nat → OsCall σ Unit
  siocgifflags : OsCall σ (BitVec 16)
  siocsifflags : BitVec 16 → OsCall σ Unit
  siocsifaddrIn6 : Ipv6Addr → (prefixLen : Nat) → OsCall σ Unit

def setMtu (interface : Interface σ) (value : UInt16) : OsCall σ Unit :=
  interface.siocsifmtu value.toNat

def enabled (interface : Interface σ) (value : Bool) : OsCall σ Unit := do
  let flags ← interface.siocgifflags
  interface.siocsifflags
    (if value then flags ||| (iffUp ||| iffRunning) else flags &&& ~~~ iffUp)

def addAddressV6 {α β : Type} [ToIpv6Address α] [ToIpv6Netmask β] (interface : Interface σ)
    (addr : α) (netmask : β) : OsCall σ Unit := do
  let prefixLen ← OsCall.ofResult (ToIpv6Netmask.toPrefix netmask)
  let addr ← OsCall.ofResult (ToIpv6Address.ipv6 addr)
  interface.siocsifaddrIn6 addr prefixLen.toNat

def device (interface : Interface σ) : Device σ where
  setMtu := setMtu interface
  setNetworkAddress addr len destination :=
    setNetworkAddress interface.toKernel addr len destination
  addAddressV6 addr len := addAddressV6 interface addr len
  enabled := enabled interface

theorem raise_and (flags bit other : BitVec 16) : (flags ||| (bit ||| other)) &&& bit = bit := by
  ext i
  simp only [BitVec.getElem_and, BitVec.getElem_or]
  grind

theorem clear_and (flags bit : BitVec 16) : (flags &&& ~~~ bit) &&& bit = 0 := by
  ext i
  simp

/-! ## What the calls do -/

def ofFamily (isV4 : Bool) (nets : Set IpNet) : Set IpNet := {net ∈ nets | net.addr.isIpv4 = isV4}

/-- The kernel may add addresses to an interface that comes up, and take IPv6 addresses from one
that goes down or has a low MTU. -/
structure Interface.Lawful (interface : Interface σ) (assigned : Ipv4Addr → Option IpNet) : Prop
    extends interface.toKernel.Lawful assigned where
  addressesStays : interface.addresses.Keeps fun s => (interface.mtu s, interface.flags s)
  removeStays : ∀ net,
    (interface.removeAddress net).Keeps fun s => (interface.mtu s, interface.flags s)
  siocsifaddrStays : ∀ addr,
    (interface.siocsifaddr addr).Keeps fun s => (interface.mtu s, interface.flags s)
  siocsifnetmaskStays : ∀ mask,
    (interface.siocsifnetmask mask).Keeps fun s => (interface.mtu s, interface.flags s)
  siocsifdstaddrStays : ∀ addr, (interface.siocsifdstaddr addr).Keeps fun s =>
    (interface.mtu s, interface.flags s, interface.configured s)
  siocsifmtuStays : ∀ value, (interface.siocsifmtu value).Keeps fun s =>
    (interface.flags s, ofFamily true (interface.configured s))
  siocsifmtuSets : ∀ value s after, (interface.siocsifmtu value).on s = (.ok (), after) →
    interface.mtu after = value
  siocgifflagsStays : interface.siocgifflags.Keeps fun s =>
    (interface.mtu s, interface.flags s, interface.configured s)
  siocsifflagsStays : ∀ flags, (interface.siocsifflags flags).Keeps fun s =>
    (interface.mtu s, ofFamily true (interface.configured s))
  siocsifflagsFails : ∀ flags s error after,
    (interface.siocsifflags flags).on s = (.error error, after) →
    interface.flags after = interface.flags s
  siocsifflagsSets : ∀ flags s after, (interface.siocsifflags flags).on s = (.ok (), after) →
    interface.flags after &&& iffUp = flags &&& iffUp ∧ (flags &&& iffUp ≠ 0 →
      ofFamily false (interface.configured s) ⊆ ofFamily false (interface.configured after))
  siocsifaddrIn6Stays : ∀ addr len, (interface.siocsifaddrIn6 addr len).Keeps fun s =>
    (interface.mtu s, interface.flags s, ofFamily true (interface.configured s))
  siocsifaddrIn6Adds : ∀ addr len s result after,
    (interface.siocsifaddrIn6 addr len).on s = (result, after) →
    interface.configured s ⊆ interface.configured after ∧
      (result = .ok () → ⟨.v6 addr, len⟩ ∈ interface.configured after)

def Interface.link (interface : Interface σ) (s : σ) : Link where
  mtu := interface.mtu s
  ipv4 := {net | ⟨.v4 net.1, net.2⟩ ∈ interface.configured s}
  ipv6 := {net | ⟨.v6 net.1, net.2⟩ ∈ interface.configured s}
  up := interface.flags s &&& iffUp ≠ 0

/-! ## The IPv4 address -/

theorem leadingOnes_maskOf {len : UInt8} (fits : len.toNat ≤ 32) :
    leadingOnes (maskOf len) = len.toNat := by
  rw [maskOf_eq fits]
  exact leadingOnes_eq (isPrefixMask_shiftLeft fits)

theorem netmask_length {len : UInt8} {mask : Ipv4Addr}
    (converted : ToIpv4Netmask.netmask len = .ok mask) : leadingOnes mask = len.toNat := by
  by_cases fits : len.toNat ≤ 32
  · have accepted : ipv4Family.ofLength len = .ok len := ipv4Family_checked.ofLength_ok len fits
    change (ipv4Family.ofLength len >>= fun len => pure (maskOf len)) = _ at converted
    rw [accepted] at converted
    obtain rfl := Except.ok.inj converted
    exact leadingOnes_maskOf fits
  · obtain ⟨error, refused⟩ := ipv4Family_checked.ofLength_error len (by omega)
    change (ipv4Family.ofLength len >>= fun len => pure (maskOf len)) = _ at converted
    rw [refused] at converted
    cases converted

namespace Kernel.Lawful

variable {kernel : Kernel σ} {assigned : Ipv4Addr → Option IpNet}

theorem removeAllAddressV4_ok (lawful : kernel.Lawful assigned)
    (ran : (removeAllAddressV4 kernel).on s = (.ok (), after)) :
    ∀ net ∈ kernel.configured after, net.addr.isIpv4 = false := by
  unfold removeAllAddressV4 at ran
  rcases OsCall.on_bind_cases ran with ⟨error, -, failed⟩ | ⟨list, listed, listedRan, removed⟩
  · cases failed
  · obtain ⟨-, complete⟩ := lawful.addressesLists s list listed listedRan
    have ipv4 : ∀ net ∈ list.filter (fun net => net.addr.isIpv4), net.addr.isIpv4 = true :=
      fun net chosen => (List.mem_filter.mp chosen).2
    obtain ⟨gone, -⟩ := lawful.removed_all ipv4 removed
    have subset := lawful.removed_subset ipv4 listed
    rw [removed, lawful.addressesKeeps s list listed listedRan] at subset
    intro net among
    by_contra isIpv4
    have chosen : net ∈ list.filter fun net => net.addr.isIpv4 :=
      List.mem_filter.mpr ⟨(complete net).mpr (subset among), Bool.not_eq_false _ ▸ isIpv4⟩
    exact gone net chosen among

theorem masked_ok (lawful : kernel.Lawful assigned) {addr mask : Ipv4Addr} {between : σ}
    (noIpv4 : ∀ net ∈ kernel.configured s, net.addr.isIpv4 = false)
    (addrRan : (kernel.siocsifaddr addr).on s = (.ok (), between))
    (maskRan : (kernel.siocsifnetmask mask).on between = (.ok (), after)) :
    kernel.configured after = kernel.configured s ∪ {⟨.v4 addr, leadingOnes mask⟩} := by
  have set := lawful.siocsifaddrSets addr s between addrRan noIpv4
  cases entry : assigned addr with
  | none =>
    obtain ⟨error, _, refused⟩ := lawful.siocsifnetmaskNeeds mask between
      (by rw [set, entry]; simpa using noIpv4)
    rw [maskRan] at refused
    cases refused
  | some net =>
    obtain ⟨netAddr, len⟩ := net
    obtain rfl := lawful.assignedIpv4 addr _ entry
    exact lawful.siocsifnetmaskSets mask between after _ addr len maskRan noIpv4
      (by rw [set, entry]; simp)

end Kernel.Lawful

namespace Interface.Lawful

variable {interface : Interface σ} {assigned : Ipv4Addr → Option IpNet}

theorem setNetworkAddress_stays (lawful : interface.Lawful assigned) {α β : Type}
    [ToIpv4Address α] [ToIpv4Netmask β] (address : α) (netmask : β) (destination : Option α) :
    (setNetworkAddress interface.toKernel address netmask destination).Keeps fun s =>
      (interface.mtu s, interface.flags s) := by
  have stays (addr : Ipv4Addr) : (interface.siocsifdstaddr addr).Keeps fun s =>
      (interface.mtu s, interface.flags s) := fun s =>
    congrArg (fun view : _ × _ × _ => (view.1, view.2.1)) (lawful.siocsifdstaddrStays addr s)
  unfold setNetworkAddress removeAllAddressV4
  refine .bind (.bind lawful.addressesStays fun list => .forM lawful.removeStays) fun _ => ?_
  refine .bind (.ofResult _) fun addr => .bind (lawful.siocsifaddrStays addr) fun _ => ?_
  refine .bind (.ofResult _) fun mask => .bind (lawful.siocsifnetmaskStays mask) fun _ => ?_
  cases destination with
  | none => exact .pure ()
  | some destination => exact .bind (.ofResult _) stays

theorem setNetworkAddress_ok (lawful : interface.Lawful assigned) {addr : Ipv4Addr} {len : UInt8}
    {destination : Option Ipv4Addr}
    (ran : (setNetworkAddress interface.toKernel addr len destination).on s = (.ok (), after)) :
    ofFamily true (interface.configured after) = {⟨.v4 addr, len.toNat⟩} := by
  unfold setNetworkAddress at ran
  rcases OsCall.on_bind_cases ran with ⟨error, -, failed⟩ | ⟨_, cleared, clearedRan, ran⟩
  · cases failed
  have noIpv4 := lawful.removeAllAddressV4_ok clearedRan
  have addrOk : ToIpv4Address.ipv4 addr = .ok addr := rfl
  rw [OsCall.on_ofResult_bind_ok addrOk] at ran
  rcases OsCall.on_bind_cases ran with ⟨error, -, failed⟩ | ⟨_, addressed, addressedRan, ran⟩
  · cases failed
  cases converted : ToIpv4Netmask.netmask len with
  | error error =>
    rw [OsCall.on_ofResult_bind_error converted] at ran
    cases ran
  | ok mask =>
    rw [OsCall.on_ofResult_bind_ok converted] at ran
    rcases OsCall.on_bind_cases ran with ⟨error, -, failed⟩ | ⟨_, masked, maskedRan, ran⟩
    · cases failed
    have set := lawful.masked_ok noIpv4 addressedRan maskedRan
    have same : interface.configured after = interface.configured masked := by
      cases destination with
      | none =>
        obtain ⟨-, rfl⟩ := Prod.mk.inj ran
        rfl
      | some destination =>
        replace ran : (interface.siocsifdstaddr destination).on masked = (.ok (), after) := ran
        exact congrArg (fun view : _ × _ × _ => view.2.2)
          ((lawful.siocsifdstaddrStays destination).of_on ran)
    rw [same, set, netmask_length converted]
    ext net
    simp only [ofFamily, Set.mem_ofPred_eq, Set.mem_union, Set.mem_singleton_iff]
    constructor
    · rintro ⟨among | rfl, isIpv4⟩
      · exact absurd (isIpv4.symm.trans (noIpv4 net among)) nofun
      · rfl
    · rintro rfl
      exact ⟨.inr rfl, rfl⟩

theorem link_ipv4 {s after : σ} (same : ofFamily true (interface.configured after) =
    ofFamily true (interface.configured s)) :
    (interface.link after).ipv4 = (interface.link s).ipv4 := by
  ext ⟨addr, len⟩
  have member := Set.ext_iff.mp same ⟨.v4 addr, len⟩
  exact ⟨fun among => (member.mp ⟨among, rfl⟩).1, fun among => (member.mpr ⟨among, rfl⟩).1⟩

theorem setNetworkAddress_link (lawful : interface.Lawful assigned) {addr : Ipv4Addr} {len : UInt8}
    {destination : Option Ipv4Addr}
    (ran : (setNetworkAddress interface.toKernel addr len destination).on s = (.ok (), after)) :
    (interface.link after).ipv4 = {(addr, len.toNat)} := by
  ext ⟨other, held⟩
  have member := Set.ext_iff.mp (lawful.setNetworkAddress_ok ran) ⟨.v4 other, held⟩
  rw [Set.mem_singleton_iff, Prod.mk.injEq]
  constructor
  · intro among
    have same := member.mp ⟨among, rfl⟩
    rw [Set.mem_singleton_iff] at same
    cases same
    exact ⟨rfl, rfl⟩
  · rintro ⟨rfl, rfl⟩
    exact (member.mpr rfl).1

theorem enabled_on (lawful : interface.Lawful assigned) {value : Bool}
    (ran : (enabled interface value).on s = (result, after)) :
    (interface.mtu after, ofFamily true (interface.configured after)) =
        (interface.mtu s, ofFamily true (interface.configured s)) ∧
    (result = .ok () → (interface.link after).up = value ∧ (value = true →
      ofFamily false (interface.configured s) ⊆ ofFamily false (interface.configured after))) ∧
    (∀ error, result = .error error → (interface.link after).up = (interface.link s).up) := by
  unfold enabled at ran
  rcases OsCall.on_bind_cases ran with ⟨error, flagsRan, rfl⟩ | ⟨flags, between, flagsRan, setRan⟩
  · have same := lawful.siocgifflagsStays.of_on flagsRan
    rw [Prod.mk.injEq, Prod.mk.injEq] at same
    obtain ⟨mtu, flags, configured⟩ := same
    exact ⟨by rw [mtu, configured], nofun, fun _ _ => by rw [link, link, flags]⟩
  · have same := lawful.siocgifflagsStays.of_on flagsRan
    rw [Prod.mk.injEq, Prod.mk.injEq] at same
    obtain ⟨mtu, kept, configured⟩ := same
    have stays := (lawful.siocsifflagsStays _).of_on setRan
    rw [mtu, configured] at stays
    refine ⟨stays, ?_, ?_⟩
    · rintro rfl
      obtain ⟨bit, keeps⟩ := lawful.siocsifflagsSets _ between after setRan
      rw [configured] at keeps
      cases value with
      | true =>
        rw [if_pos rfl, raise_and] at bit keeps
        have up : iffUp ≠ 0 := by decide
        refine ⟨?_, fun _ => keeps up⟩
        rw [link, bit]
        exact decide_eq_true up
      | false =>
        rw [if_neg Bool.false_ne_true, clear_and] at bit
        refine ⟨?_, nofun⟩
        rw [link, bit]
        rfl
    · rintro error rfl
      have unchanged := lawful.siocsifflagsFails _ between error after setRan
      rw [link, link, unchanged, kept]

theorem addAddressV6_on (lawful : interface.Lawful assigned) {addr : Ipv6Addr} {len : UInt8}
    (ran : (addAddressV6 interface addr len).on s = (result, after)) :
    (interface.mtu after, interface.flags after, ofFamily true (interface.configured after)) =
        (interface.mtu s, interface.flags s, ofFamily true (interface.configured s)) ∧
    interface.configured s ⊆ interface.configured after ∧
    (result = .ok () → ⟨.v6 addr, len.toNat⟩ ∈ interface.configured after) := by
  unfold addAddressV6 at ran
  have addrOk : ToIpv6Address.ipv6 addr = .ok addr := rfl
  cases converted : ToIpv6Netmask.toPrefix len with
  | error error =>
    rw [OsCall.on_ofResult_bind_error converted] at ran
    obtain ⟨rfl, rfl⟩ := Prod.mk.inj ran
    exact ⟨rfl, .rfl, nofun⟩
  | ok kept =>
    rw [OsCall.on_ofResult_bind_ok converted, OsCall.on_ofResult_bind_ok addrOk] at ran
    have same : kept = len := by
      by_cases fits : len.toNat ≤ 128
      · exact Except.ok.inj (converted.symm.trans (ipv6Family_checked.ofLength_ok len fits))
      · obtain ⟨error, refused⟩ := ipv6Family_checked.ofLength_error len (by omega)
        exact nomatch converted.symm.trans refused
    rw [← same]
    exact ⟨(lawful.siocsifaddrIn6Stays addr kept.toNat).of_on ran,
      lawful.siocsifaddrIn6Adds addr kept.toNat s result after ran⟩

theorem device_lawful (lawful : interface.Lawful assigned) :
    (device interface).Lawful interface.link where
  setMtu mtu s result after ran := by
    have same := (lawful.siocsifmtuStays mtu.toNat).of_on ran
    rw [Prod.mk.injEq] at same
    refine ⟨link_ipv4 same.2, by rw [link, link, same.1], ?_⟩
    rintro rfl
    exact lawful.siocsifmtuSets mtu.toNat s after ran
  setNetworkAddress addr len destination s result after ran := by
    have same := (lawful.setNetworkAddress_stays addr len destination).of_on ran
    rw [Prod.mk.injEq] at same
    refine ⟨same.1, by rw [link, link, same.2], ?_⟩
    rintro rfl
    exact lawful.setNetworkAddress_link ran
  addAddressV6 addr len s result after ran := by
    obtain ⟨same, grows, adds⟩ := lawful.addAddressV6_on ran
    rw [Prod.mk.injEq, Prod.mk.injEq] at same
    exact ⟨same.1, link_ipv4 same.2.2, by rw [link, link, same.2.1], fun _ among => grows among,
      fun ok => ⟨len.toNat, adds ok⟩⟩
  enabled value s result after ran := by
    obtain ⟨same, sets, fails⟩ := lawful.enabled_on ran
    rw [Prod.mk.injEq] at same
    refine ⟨fun ok => ⟨(sets ok).1, fun up => ⟨same.1, link_ipv4 same.2, ?_⟩⟩, fails⟩
    exact fun _ among => ((sets ok).2 up ⟨among, rfl⟩).1

/-- Every sequence of settings on every interface. When the builder succeeds, the interface is as
up as it was last said, and if it is up it has all that was asked for: the last MTU, the last IPv4
address alone, and every IPv6 address. When the builder fails, the interface is as up as before. An
IPv4 address that does not convert costs it none of its IPv4 addresses. -/
theorem build_configures (lawful : interface.Lawful assigned) {settings : List Setting}
    (ran : ((DeviceBuilder.of settings).config (device interface)).on s = (result, after)) :
    (result = .ok () →
      (interface.link after).up = (Setting.last Setting.enable? settings).getD true ∧
      ((interface.link after).up = true →
        Asked settings (interface.link s) (interface.link after)) ∧
      (∀ request, Setting.last Setting.ipv4? settings = some request → request.Converts) ∧
      ∀ request ∈ settings.filterMap Setting.ipv6?, request.Converts) ∧
    (∀ error, result = .error error → (interface.link after).up = (interface.link s).up) ∧
    ((∃ request, Setting.last Setting.ipv4? settings = some request ∧ ¬ request.Converts) →
      (interface.link after).ipv4 = (interface.link s).ipv4) := lawful.device_lawful.config_on ran

end Interface.Lawful

/-! ## An interface of a kernel that refuses nothing -/

abbrev PlainState := List IpNet × Nat × BitVec 16

def plainInterface : Interface PlainState where
  configured s := plainKernel.configured s.1
  addresses := OsCall.onFst plainKernel.addresses
  removeAddress net := OsCall.onFst (plainKernel.removeAddress net)
  siocsifaddr addr := OsCall.onFst (plainKernel.siocsifaddr addr)
  siocsifnetmask mask := OsCall.onFst (plainKernel.siocsifnetmask mask)
  siocsifdstaddr addr := OsCall.onFst (plainKernel.siocsifdstaddr addr)
  mtu s := s.2.1
  flags s := s.2.2
  siocsifmtu value := modify fun (nets, _, flags) => (nets, value, flags)
  siocgifflags := do return (← get).2.2
  siocsifflags flags := modify fun (nets, mtu, _) => (nets, mtu, flags)
  siocsifaddrIn6 addr len := modify fun (nets, rest) => (nets ++ [⟨.v6 addr, len⟩], rest)

theorem plainInterface_lawful : plainInterface.Lawful pointToPoint where
  addressesFails s error after ran :=
    plainKernel_lawful.addressesFails s.1 error after.1 (OsCall.onFst_cases ran).1
  addressesKeeps s list after ran :=
    plainKernel_lawful.addressesKeeps s.1 list after.1 (OsCall.onFst_cases ran).1
  addressesLists s list after ran :=
    plainKernel_lawful.addressesLists s.1 list after.1 (OsCall.onFst_cases ran).1
  removeFails net s error after ran :=
    plainKernel_lawful.removeFails net s.1 error after.1 (OsCall.onFst_cases ran).1
  removeRemoves net s after ipv4 ran :=
    plainKernel_lawful.removeRemoves net s.1 after.1 ipv4 (OsCall.onFst_cases ran).1
  assignedIpv4 := plainKernel_lawful.assignedIpv4
  siocsifaddrFails addr s error after ran :=
    plainKernel_lawful.siocsifaddrFails addr s.1 error after.1 (OsCall.onFst_cases ran).1
  siocsifaddrSets addr s after ran :=
    plainKernel_lawful.siocsifaddrSets addr s.1 after.1 (OsCall.onFst_cases ran).1
  siocsifnetmaskFails mask s error after ran :=
    plainKernel_lawful.siocsifnetmaskFails mask s.1 error after.1 (OsCall.onFst_cases ran).1
  siocsifnetmaskNeeds mask s noIpv4 := by
    obtain ⟨error, after, ran⟩ := plainKernel_lawful.siocsifnetmaskNeeds mask s.1 noIpv4
    exact ⟨error, (after, s.2), OsCall.onFst_on.mpr ⟨ran, rfl⟩⟩
  siocsifnetmaskSets mask s after base addr len ran :=
    plainKernel_lawful.siocsifnetmaskSets mask s.1 after.1 base addr len (OsCall.onFst_cases ran).1
  addressesStays s := rfl
  removeStays net s := rfl
  siocsifaddrStays addr s := rfl
  siocsifnetmaskStays mask s := rfl
  siocsifdstaddrStays addr s := rfl
  siocsifmtuStays value s := rfl
  siocsifmtuSets value s after ran := by
    obtain ⟨-, rfl⟩ := Prod.mk.inj ran
    rfl
  siocgifflagsStays s := rfl
  siocsifflagsStays flags s := rfl
  siocsifflagsFails flags s error after ran := nomatch (Prod.mk.inj ran).1
  siocsifflagsSets flags s after ran := by
    obtain ⟨-, rfl⟩ := Prod.mk.inj ran
    exact ⟨rfl, fun _ => .rfl⟩
  siocsifaddrIn6Stays addr len s := by
    have same : ofFamily true {net | net ∈ s.1 ++ [⟨.v6 addr, len⟩]} =
        ofFamily true {net | net ∈ s.1} := by
      ext net
      simp only [ofFamily, List.mem_append, List.mem_singleton, Set.mem_ofPred_eq]
      constructor
      · rintro ⟨among | rfl, isIpv4⟩
        · exact ⟨among, isIpv4⟩
        · cases isIpv4
      · exact fun ⟨among, isIpv4⟩ => ⟨.inl among, isIpv4⟩
    exact congrArg (fun nets => (s.2.1, s.2.2, nets)) same
  siocsifaddrIn6Adds addr len s result after ran := by
    obtain ⟨-, rfl⟩ := Prod.mk.inj ran
    exact ⟨fun net among => List.mem_append_left _ among,
      fun _ => List.mem_append_right _ List.mem_cons_self⟩

def downInterface : PlainState := ([⟨.v4 0x0a010001, 32⟩], 1500, 0)

theorem build_configures_plain : ∃ after,
    ((DeviceBuilder.of [.mtu 1400, .ipv4 (0x0a000001 : Ipv4Addr) (24 : UInt8) none,
        .ipv6 (1 : Ipv6Addr) (64 : UInt8)]).config (device plainInterface)).on downInterface =
      (.ok (), after) ∧
    (plainInterface.link after).ipv4 = {(0x0a000001, 24)} ∧ (plainInterface.link after).up = true := by
  have ran : ((DeviceBuilder.of [.mtu 1400, .ipv4 (0x0a000001 : Ipv4Addr) (24 : UInt8) none,
      .ipv6 (1 : Ipv6Addr) (64 : UInt8)]).config (device plainInterface)).on downInterface =
      (.ok (), [⟨.v4 0x0a000001, 24⟩, ⟨.v6 1, 64⟩], 1400, 0x41) := by rfl
  obtain ⟨succeeds, -, -⟩ := plainInterface_lawful.build_configures ran
  obtain ⟨up, asked, -⟩ := succeeds rfl
  obtain ⟨addr, len, addrOk, lenOk, set⟩ := (asked up).ipv4 _ rfl
  obtain rfl := Except.ok.inj addrOk
  obtain rfl := Except.ok.inj lenOk
  exact ⟨_, ran, set, up⟩

end QuincyTun.Linux
