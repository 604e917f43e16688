import QuincyTun.Config.Address
import Mathlib.Data.List.Dedup

/-! The IPv4 addresses of a Linux interface. The kernel is a parameter; `Kernel.Lawful`
says what its calls do to the set of addresses.
-/

set_option autoImplicit false

namespace QuincyTun.Linux

open QuincyTun.Foundation QuincyTun.Config

/-- The calls that look up the name or the index of the device are part of the calls that need
them. -/
structure Kernel (σ : Type) where
  /-- The addresses that are configured. -/
  configured : σ → Set IpNet
  addresses : OsCall σ (List IpNet)
  removeAddress : IpNet → OsCall σ Unit
  siocsifaddr : Ipv4Addr → OsCall σ Unit
  siocsifnetmask : Ipv4Addr → OsCall σ Unit
  siocsifdstaddr : Ipv4Addr → OsCall σ Unit

variable {σ : Type}

def removeAllAddressV4 (kernel : Kernel σ) : OsCall σ Unit := do
  let list ← kernel.addresses
  (list.filter fun net => net.addr.isIpv4).forM kernel.removeAddress

def setNetworkAddress {α β : Type} [ToIpv4Address α] [ToIpv4Netmask β] (kernel : Kernel σ)
    (address : α) (netmask : β) (destination : Option α) : OsCall σ Unit := do
  removeAllAddressV4 kernel
  kernel.siocsifaddr (← OsCall.ofResult (ToIpv4Address.ipv4 address))
  kernel.siocsifnetmask (← OsCall.ofResult (ToIpv4Netmask.netmask netmask))
  match destination with
  | some destination =>
    kernel.siocsifdstaddr (← OsCall.ofResult (ToIpv4Address.ipv4 destination))
  | none => pure ()

/-! ## What the calls do -/

def Kernel.KeptOnFailure (kernel : Kernel σ) {γ : Type} (call : OsCall σ γ) : Prop :=
  ∀ s error after, call.on s = (.error error, after) → kernel.configured after = kernel.configured s

/-- `assigned` is what `SIOCSIFADDR` configures on an interface without an IPv4 address. The kernel
chooses the prefix length, and takes no address from `0.0.0.0`. -/
structure Kernel.Lawful (kernel : Kernel σ) (assigned : Ipv4Addr → Option IpNet) : Prop where
  addressesFails : kernel.KeptOnFailure kernel.addresses
  addressesKeeps : ∀ s list after, kernel.addresses.on s = (.ok list, after) →
    kernel.configured after = kernel.configured s
  addressesLists : ∀ s list after, kernel.addresses.on s = (.ok list, after) →
    list.Nodup ∧ ∀ net, net ∈ list ↔ net ∈ kernel.configured s
  removeFails : ∀ net, kernel.KeptOnFailure (kernel.removeAddress net)
  /-- Secondary addresses may go with their primary one. -/
  removeRemoves : ∀ net s after, net.addr.isIpv4 = true →
    (kernel.removeAddress net).on s = (.ok (), after) →
    net ∉ kernel.configured after ∧ kernel.configured after ⊆ kernel.configured s ∧
      ∀ other ∈ kernel.configured s, other.addr.isIpv4 = false → other ∈ kernel.configured after
  assignedIpv4 : ∀ addr net, assigned addr = some net → net.addr = .v4 addr
  siocsifaddrFails : ∀ addr, kernel.KeptOnFailure (kernel.siocsifaddr addr)
  siocsifaddrSets : ∀ addr s after, (kernel.siocsifaddr addr).on s = (.ok (), after) →
    (∀ net ∈ kernel.configured s, net.addr.isIpv4 = false) →
    kernel.configured after = kernel.configured s ∪ {net | assigned addr = some net}
  siocsifnetmaskFails : ∀ mask, kernel.KeptOnFailure (kernel.siocsifnetmask mask)
  siocsifnetmaskNeeds : ∀ mask s, (∀ net ∈ kernel.configured s, net.addr.isIpv4 = false) →
    ∃ error after, (kernel.siocsifnetmask mask).on s = (.error error, after)
  siocsifnetmaskSets : ∀ mask s after base addr len,
    (kernel.siocsifnetmask mask).on s = (.ok (), after) →
    (∀ net ∈ base, net.addr.isIpv4 = false) →
    kernel.configured s = base ∪ {⟨.v4 addr, len⟩} →
    kernel.configured after = base ∪ {⟨.v4 addr, leadingOnes mask⟩}

/-! ## A kernel that refuses nothing -/

def eaddrnotavail : Nat := 99

/-- On a point-to-point interface an address gets no network besides itself. -/
def pointToPoint (addr : Ipv4Addr) : Option IpNet := if addr = 0 then none else some ⟨.v4 addr, 32⟩

def withPrefix (len : Nat) (net : IpNet) : IpNet :=
  if net.addr.isIpv4 then { net with prefixLen := len } else net

def plainKernel : Kernel (List IpNet) where
  configured nets := {net | net ∈ nets}
  addresses := do return (← get).dedup
  removeAddress net := modify fun nets => nets.filter (· ≠ net)
  siocsifaddr addr := modify fun nets => nets ++ (pointToPoint addr).toList
  siocsifnetmask mask := do
    if (← get).any (fun net => net.addr.isIpv4) then
      modify fun nets => nets.map (withPrefix (leadingOnes mask))
    else OsCall.ofResult (errorOf (.os eaddrnotavail))
  siocsifdstaddr _ := pure ()

theorem plainKernel_siocsifnetmask (mask : Ipv4Addr) (nets : List IpNet) :
    (plainKernel.siocsifnetmask mask).on nets =
      if nets.any (fun net => net.addr.isIpv4) then
        (.ok (), nets.map (withPrefix (leadingOnes mask)))
      else (errorOf (.os eaddrnotavail), nets) := by
  change OsCall.on (if nets.any (fun net => net.addr.isIpv4) then _ else _) nets = _
  split <;> rfl

theorem plainKernel_lawful : plainKernel.Lawful pointToPoint where
  addressesFails s error after ran := nomatch (Prod.mk.inj ran).1
  addressesKeeps s list after ran := by
    obtain ⟨-, rfl⟩ := Prod.mk.inj ran
    rfl
  addressesLists s list after ran := by
    obtain ⟨same, -⟩ := Prod.mk.inj ran
    obtain rfl := Except.ok.inj same
    exact ⟨List.nodup_dedup s, fun net => List.mem_dedup⟩
  removeFails net s error after ran := nomatch (Prod.mk.inj ran).1
  removeRemoves net s after ipv4 ran := by
    obtain ⟨-, rfl⟩ := Prod.mk.inj ran
    refine ⟨fun remains => ?_, fun other among => List.mem_of_mem_filter among, ?_⟩
    · simpa using (List.mem_filter.mp remains).2
    · intro other among v6
      refine List.mem_filter.mpr ⟨among, decide_eq_true fun same => ?_⟩
      rw [same, ipv4] at v6
      cases v6
  assignedIpv4 addr net assigned := by
    obtain ⟨-, same⟩ := Option.ite_none_left_eq_some.mp assigned
    rw [← Option.some.inj same]
  siocsifaddrFails addr s error after ran := nomatch (Prod.mk.inj ran).1
  siocsifaddrSets addr s after ran _ := by
    obtain ⟨-, rfl⟩ := Prod.mk.inj ran
    ext net
    exact List.mem_append.trans (or_congr Iff.rfl Option.mem_toList)
  siocsifnetmaskFails mask s error after ran := by
    rw [plainKernel_siocsifnetmask] at ran
    split at ran
    · cases ran
    · rw [(Prod.mk.inj ran).2]
  siocsifnetmaskNeeds mask s noIpv4 := by
    have absent : s.any (fun net => net.addr.isIpv4) = false :=
      List.any_eq_false.mpr fun net among => Bool.not_eq_true _ ▸ noIpv4 net among
    rw [plainKernel_siocsifnetmask, if_neg (Bool.not_eq_true _ ▸ absent)]
    exact ⟨_, s, rfl⟩
  siocsifnetmaskSets mask s after base addr len ran noIpv4 only := by
    rw [plainKernel_siocsifnetmask] at ran
    split at ran
    · obtain ⟨-, rfl⟩ := Prod.mk.inj ran
      have listed (net : IpNet) : net ∈ s ↔ net ∈ base ∨ net = ⟨.v4 addr, len⟩ :=
        Set.ext_iff.mp only net
      -- The mask is that of the IPv4 address, and there was none among the others.
      have kept (net : IpNet) (among : net ∈ base) :
          withPrefix (leadingOnes mask) net = net :=
        if_neg (Bool.not_eq_true _ ▸ noIpv4 net among)
      ext net
      constructor
      · intro among
        obtain ⟨before, found, rfl⟩ := List.mem_map.mp among
        rcases (listed before).mp found with other | rfl
        · exact .inl ((kept before other).symm ▸ other)
        · exact .inr rfl
      · rintro (other | rfl)
        · exact List.mem_map.mpr ⟨net, (listed net).mpr (.inl other), kept net other⟩
        · exact List.mem_map.mpr ⟨_, (listed _).mpr (.inr rfl), rfl⟩
    · cases ran

end QuincyTun.Linux
