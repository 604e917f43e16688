import QuincyTun.Config.Address

/-! The IPv4 addresses of a macOS interface and the routes that go with them. The
kernel is a parameter: it answers each call as it likes.
-/

set_option autoImplicit false

namespace QuincyTun.Macos

open QuincyTun.Foundation QuincyTun.Config

structure IfAddr where
  ip : Option IpAddr
  netmask : Option IpAddr
  deriving DecidableEq, Repr

structure Route where
  network : IpAddr
  prefixLen : Nat
  gateway : IpAddr
  ifIndex : Nat
  deriving DecidableEq, Repr

structure Kernel (σ : Type) where
  name : OsCall σ String
  ifIndex : OsCall σ Nat
  getIfAddrsByName : String → OsCall σ (List IfAddr)
  /-- The address, its destination and its mask. -/
  siocaifaddr : String → Ipv4Addr → Ipv4Addr → Ipv4Addr → OsCall σ Unit
  siocdifaddr : String → Ipv4Addr → OsCall σ Unit
  routeManager : OsCall σ Unit
  addRoute : Route → OsCall σ Unit
  deleteRoute : Route → OsCall σ Unit

variable {σ : Type}

def routeOf (addr netmask : IpAddr) (ifIndex : Nat) : Result Route := do
  let (network, prefixLen) ← networkOf addr netmask
  return ⟨network, prefixLen, addr, ifIndex⟩

def addRoute (kernel : Kernel σ) (addr netmask : IpAddr) (associateRoute : Bool) :
    OsCall σ Unit :=
  if associateRoute then do
    let ifIndex ← kernel.ifIndex
    kernel.routeManager
    let route ← OsCall.ofResult (routeOf addr netmask ifIndex)
    kernel.addRoute route
  else pure ()

def removeRoute (kernel : Kernel σ) (addr netmask : IpAddr) (associateRoute : Bool) :
    OsCall σ Unit :=
  if associateRoute then do
    let ifIndex ← kernel.ifIndex
    kernel.routeManager
    let route ← OsCall.ofResult (routeOf addr netmask ifIndex)
    kernel.deleteRoute route
  else pure ()

def addAddress (kernel : Kernel σ) (addr dest mask : Ipv4Addr) (associateRoute : Bool) :
    OsCall σ Unit := do
  let name ← kernel.name
  kernel.siocaifaddr name addr dest mask
  let _ ← OsCall.attempt (addRoute kernel (.v4 addr) (.v4 mask) associateRoute)

/-- Entries without an IPv4 address and mask are skipped. -/
def removeListed (kernel : Kernel σ) (name : String) (associateRoute : Bool) (entry : IfAddr) :
    OsCall σ Unit :=
  match entry.ip, entry.netmask with
  | some (.v4 addr), some (.v4 netmask) => do
    kernel.siocdifaddr name addr
    let _ ← OsCall.attempt (removeRoute kernel (.v4 addr) (.v4 netmask) associateRoute)
  | _, _ => pure ()

def removeAllAddressV4 (kernel : Kernel σ) (associateRoute : Bool) : OsCall σ Unit := do
  let name ← kernel.name
  let listed ← kernel.name
  match ← OsCall.attempt (kernel.getIfAddrsByName listed) with
  | .ok entries => entries.forM (removeListed kernel name associateRoute)
  | .error _ => pure ()

variable {α β : Type} [ToIpv4Address α] [ToIpv4Netmask β]

def setNetworkAddress (kernel : Kernel σ) (associateRoute : Bool) (address : α) (netmask : β)
    (destination : Option α) : OsCall σ Unit := do
  let netmask ← OsCall.ofResult (ToIpv4Netmask.netmask netmask)
  let address ← OsCall.ofResult (ToIpv4Address.ipv4 address)
  let defaultDest ← OsCall.ofResult (calcDestAddr address netmask)
  let dest ← OsCall.ofResult (destination.mapM ToIpv4Address.ipv4)
  removeAllAddressV4 kernel associateRoute
  addAddress kernel address (dest.getD defaultDest) netmask associateRoute

theorem setNetworkAddress_fails (kernel : Kernel σ) (associateRoute : Bool) {address : α}
    {netmask : β} {destination : Option α} (s : σ)
    (fails : ConversionFails address (ToIpv4Netmask.netmask netmask) destination) :
    ∃ error, (setNetworkAddress kernel associateRoute address netmask destination).on s =
      (.error error, s) := by
  unfold setNetworkAddress
  apply OsCall.Refuses.ofResult_bind
  intro mask maskResult
  apply OsCall.Refuses.ofResult_bind
  intro addr addressResult
  apply OsCall.Refuses.ofResult_bind
  intro defaultDest _
  apply OsCall.Refuses.ofResult_bind
  intro dest destResult
  exact absurd fails (not_conversionFails addressResult maskResult destResult)

def addAddressV4 (kernel : Kernel σ) (associateRoute : Bool) (address : α) (netmask : β) :
    OsCall σ Unit := do
  let netmask ← OsCall.ofResult (ToIpv4Netmask.netmask netmask)
  let address ← OsCall.ofResult (ToIpv4Address.ipv4 address)
  let defaultDest ← OsCall.ofResult (calcDestAddr address netmask)
  addAddress kernel address defaultDest netmask associateRoute

/-- The route of an entry of the list, if the entry has the address that was removed. -/
def removeRouteOf (kernel : Kernel σ) (addr : IpAddr) (associateRoute : Bool) (entry : IfAddr) :
    OsCall σ Unit :=
  match entry.netmask with
  | some netmask => do
    let _ ← OsCall.attempt (removeRoute kernel addr netmask associateRoute)
  | none => pure ()

/-- `remove_address` of an IPv4 address: the list of addresses is read after the address is gone
from it. -/
def removeAddress (kernel : Kernel σ) (associateRoute : Bool) (addr : Ipv4Addr) :
    OsCall σ Unit := do
  let name ← kernel.name
  kernel.siocdifaddr name addr
  let listed ← kernel.name
  match ← OsCall.attempt (kernel.getIfAddrsByName listed) with
  | .ok entries =>
    (entries.filter fun entry => entry.ip = some (.v4 addr)).forM
      (removeRouteOf kernel (.v4 addr) associateRoute)
  | .error _ => pure ()

end QuincyTun.Macos
