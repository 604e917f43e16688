import QuincyTun.Config.Address

/-! The IPv4 addresses of a FreeBSD interface. The kernel is a parameter. -/

set_option autoImplicit false

namespace QuincyTun.Freebsd

open QuincyTun.Foundation QuincyTun.Config

def eaddrnotavail : Nat := 49

structure Kernel (σ : Type) where
  name : OsCall σ String
  /-- Without an address in the request, the first one of the interface is removed. -/
  siocdifaddr : String → OsCall σ Unit
  /-- The address, its mask and its destination. -/
  siocaifaddr : String → Ipv4Addr → Ipv4Addr → Ipv4Addr → OsCall σ Unit
  /-- `/sbin/route add -net`; what it prints when it fails. -/
  runRoute : IpAddr × Nat → String → OsCall σ (Option String)
  addressCount : σ → Nat
  shrinks : ∀ name s after, (siocdifaddr name).on s = (.ok (), after) →
    addressCount after < addressCount s

variable {σ : Type}

def addRoute (kernel : Kernel σ) (addr netmask : Ipv4Addr) (associateRoute : Bool) :
    OsCall σ Unit :=
  if associateRoute then do
    let network ← OsCall.ofResult (networkOf (.v4 addr) (.v4 netmask))
    let interface ← kernel.name
    match ← kernel.runRoute network interface with
    | none => pure ()
    | some detail => OsCall.ofResult (otherError s!"route add failed: {detail}")
  else pure ()

def addAddress (kernel : Kernel σ) (addr mask dest : Ipv4Addr) (associateRoute : Bool) :
    OsCall σ Unit := do
  let name ← kernel.name
  kernel.siocaifaddr name addr mask dest
  let _ ← OsCall.attempt (addRoute kernel addr mask associateRoute)

/-- The loop of `remove_all_address_v4`. -/
def removeLoop (kernel : Kernel σ) (name : String) (s : σ) : Result Unit × σ :=
  match _ran : (kernel.siocdifaddr name).on s with
  | (.ok (), after) => removeLoop kernel name after
  | (.error error, after) =>
    if error.kind = .os eaddrnotavail then (.ok (), after) else (.error error, after)
termination_by kernel.addressCount s
decreasing_by exact kernel.shrinks name s after _ran

def removeAllAddressV4 (kernel : Kernel σ) : OsCall σ Unit := do
  let name ← kernel.name
  ExceptT.mk (StateT.mk fun s => removeLoop kernel name s)

variable {α β : Type} [ToIpv4Address α] [ToIpv4Netmask β]

def setNetworkAddress (kernel : Kernel σ) (associateRoute : Bool) (address : α) (netmask : β)
    (destination : Option α) : OsCall σ Unit := do
  let addr ← OsCall.ofResult (ToIpv4Address.ipv4 address)
  let netmask ← OsCall.ofResult (ToIpv4Netmask.netmask netmask)
  let defaultDest ← OsCall.ofResult (calcDestAddr addr netmask)
  let dest ← OsCall.ofResult (destination.mapM ToIpv4Address.ipv4)
  removeAllAddressV4 kernel
  addAddress kernel addr netmask (dest.getD defaultDest) associateRoute

/-- The arguments are converted before anything is changed. -/
theorem setNetworkAddress_fails (kernel : Kernel σ) (associateRoute : Bool) {address : α}
    {netmask : β} {destination : Option α} (s : σ)
    (fails : ConversionFails address (ToIpv4Netmask.netmask netmask) destination) :
    ∃ error, (setNetworkAddress kernel associateRoute address netmask destination).on s =
      (.error error, s) := by
  unfold setNetworkAddress
  apply OsCall.Refuses.ofResult_bind
  intro addr addressResult
  apply OsCall.Refuses.ofResult_bind
  intro mask maskResult
  apply OsCall.Refuses.ofResult_bind
  intro defaultDest _
  apply OsCall.Refuses.ofResult_bind
  intro dest destResult
  exact absurd fails (not_conversionFails addressResult maskResult destResult)

/-! ## A kernel that refuses nothing -/

section PlainKernel

variable {nets : List IpNet}

def isIpv4 (net : IpNet) : Bool := net.addr.isIpv4

theorem length_eraseP_isIpv4 (some_ : nets.any isIpv4 = true) :
    (nets.eraseP isIpv4).length < nets.length := by
  obtain ⟨net, among, ipv4⟩ := List.any_eq_true.mp some_
  have nonempty := List.length_pos_of_mem among
  rw [List.length_eraseP_of_mem among ipv4]
  omega

theorem filter_eraseP_isIpv4 (nets : List IpNet) :
    (nets.eraseP isIpv4).filter (fun net => !isIpv4 net) =
      nets.filter fun net => !isIpv4 net := by
  induction nets with
  | nil => rfl
  | cons net rest ih =>
    cases ipv4 : isIpv4 net with
    | true => simp [ipv4]
    | false => simp [ipv4, ih]

def plainKernel : Kernel (List IpNet) where
  name := pure "tun0"
  siocdifaddr _ := do
    if (← get).any isIpv4 then modify fun nets => nets.eraseP isIpv4
    else OsCall.ofResult (errorOf (.os eaddrnotavail))
  siocaifaddr _ addr mask _ := modify fun nets => nets ++ [⟨.v4 addr, leadingOnes mask⟩]
  runRoute _ _ := pure none
  addressCount nets := nets.length
  shrinks := by
    intro name nets after ran
    change OsCall.on (if nets.any isIpv4 then _ else _) nets = _ at ran
    split at ran
    · obtain ⟨-, rfl⟩ := Prod.mk.inj ran
      exact length_eraseP_isIpv4 ‹_›
    · cases (Prod.mk.inj ran).1

theorem plainKernel_siocdifaddr (name : String) (nets : List IpNet) :
    (plainKernel.siocdifaddr name).on nets =
      if nets.any isIpv4 then (.ok (), nets.eraseP isIpv4)
      else (errorOf (.os eaddrnotavail), nets) := by
  change OsCall.on (if nets.any isIpv4 then _ else _) nets = _
  split <;> rfl

theorem removeLoop_plainKernel (name : String) (nets : List IpNet) :
    removeLoop plainKernel name nets = (.ok (), nets.filter fun net => !isIpv4 net) := by
  unfold removeLoop
  by_cases some_ : nets.any isIpv4 = true
  · have ran : (plainKernel.siocdifaddr name).on nets = (.ok (), nets.eraseP isIpv4) := by
      rw [plainKernel_siocdifaddr, if_pos some_]
    split
    · obtain ⟨-, rfl⟩ := Prod.mk.inj (ran.symm.trans ‹_›)
      rw [removeLoop_plainKernel name (nets.eraseP isIpv4), filter_eraseP_isIpv4]
    · cases (Prod.mk.inj (ran.symm.trans ‹_›)).1
  · have ran : (plainKernel.siocdifaddr name).on nets =
        (errorOf (.os eaddrnotavail), nets) := by
      rw [plainKernel_siocdifaddr, if_neg some_]
    have others : ∀ net ∈ nets, (!isIpv4 net) = true := by simpa using some_
    split
    · cases (Prod.mk.inj (ran.symm.trans ‹_›)).1
    · obtain ⟨same, rfl⟩ := Prod.mk.inj (ran.symm.trans ‹_›)
      obtain rfl := Except.error.inj same
      rw [if_pos rfl, List.filter_eq_self.mpr others]
termination_by nets.length
decreasing_by exact length_eraseP_isIpv4 some_

theorem addRoute_plainKernel (addr mask : Ipv4Addr) (associateRoute : Bool)
    (nets : List IpNet) :
    ((addRoute plainKernel addr mask associateRoute).on nets).2 = nets := by
  cases associateRoute with
  | false => rfl
  | true =>
    unfold addRoute
    rw [if_pos rfl]
    cases networkOf (.v4 addr) (.v4 mask) with
    | ok => rfl
    | error => rfl

theorem addAddress_plainKernel (addr mask dest : Ipv4Addr) (associateRoute : Bool)
    (nets : List IpNet) :
    (addAddress plainKernel addr mask dest associateRoute).on nets =
      (.ok (), nets ++ [⟨.v4 addr, leadingOnes mask⟩]) := by
  have named : plainKernel.name.on nets = (.ok "tun0", nets) := rfl
  have added : (plainKernel.siocaifaddr "tun0" addr mask dest).on nets =
      (.ok (), nets ++ [⟨.v4 addr, leadingOnes mask⟩]) := rfl
  unfold addAddress
  rw [OsCall.on_bind_ok named, OsCall.on_bind_ok added, OsCall.on_bind_ok (OsCall.on_attempt _),
    addRoute_plainKernel, OsCall.on_pure]

theorem setNetworkAddress_plainKernel {associateRoute : Bool} {address : α} {netmask : β}
    {destination : Option α} {addr mask defaultDest : Ipv4Addr} {dest : Option Ipv4Addr}
    (addressResult : ToIpv4Address.ipv4 address = .ok addr)
    (maskResult : ToIpv4Netmask.netmask netmask = .ok mask)
    (defaultResult : calcDestAddr addr mask = .ok defaultDest)
    (destResult : destination.mapM ToIpv4Address.ipv4 = .ok dest) :
    (setNetworkAddress plainKernel associateRoute address netmask destination).on nets =
      (.ok (), (nets.filter fun net => !isIpv4 net) ++ [⟨.v4 addr, leadingOnes mask⟩]) := by
  have removed : (removeAllAddressV4 plainKernel).on nets =
      (.ok (), nets.filter fun net => !isIpv4 net) := removeLoop_plainKernel "tun0" nets
  unfold setNetworkAddress
  rw [OsCall.on_ofResult_bind_ok addressResult, OsCall.on_ofResult_bind_ok maskResult,
    OsCall.on_ofResult_bind_ok defaultResult, OsCall.on_ofResult_bind_ok destResult,
    OsCall.on_bind_ok removed, addAddress_plainKernel]

end PlainKernel

end QuincyTun.Freebsd
