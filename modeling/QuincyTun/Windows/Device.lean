import QuincyTun.Config.Netmask

/-! The IPv4 addresses of a Windows interface. The calls of the system answer with a
code, and are a parameter.
-/

set_option autoImplicit false

namespace QuincyTun.Windows

open QuincyTun.Foundation QuincyTun.Config

def noError : Nat := 0

def errorObjectAlreadyExists : Nat := 5010

structure UnicastAddressRow where
  interfaceIndex : Nat
  address : IpAddr
  onLinkPrefixLength : Nat
  deriving DecidableEq, Repr

structure ForwardRow where
  interfaceIndex : Nat
  destination : IpAddr
  prefixLength : Nat
  nextHop : IpAddr
  deriving DecidableEq, Repr

structure Kernel (σ : Type) where
  getUnicastIpAddressTable : (isV4 : Bool) → StateM σ (Nat × List UnicastAddressRow)
  createUnicastIpAddressEntry : UnicastAddressRow → StateM σ Nat
  deleteUnicastIpAddressEntry : UnicastAddressRow → StateM σ Nat
  getIpForwardTable2 : (isV4 : Bool) → StateM σ (Nat × List ForwardRow)
  createIpForwardEntry2 : ForwardRow → StateM σ Nat
  deleteIpForwardEntry2 : ForwardRow → StateM σ Nat

variable {σ : Type}

def winResult (code : Nat) : OsCall σ Unit :=
  OsCall.ofResult (if code = noError then .ok () else errorOf (.os code))

/-- A code that says that the object exists already is no error. -/
def winResultUnlessExists (code : Nat) : OsCall σ Unit :=
  if code ≠ errorObjectAlreadyExists then winResult code else pure ()

def unspecified (isV4 : Bool) : IpAddr := if isV4 then .v4 0 else .v6 0

def addAddress (kernel : Kernel σ) (index : Nat) (address : IpAddr) (prefixLen : Nat)
    (gateway : Option IpAddr) : OsCall σ Unit := do
  winResultUnlessExists (← kernel.createUnicastIpAddressEntry ⟨index, address, prefixLen⟩)
  match gateway with
  | some gateway =>
    winResultUnlessExists
      (← kernel.createIpForwardEntry2 ⟨index, unspecified gateway.isIpv4, 0, gateway⟩)
  | none => pure ()

def clearDefaultRoutes (kernel : Kernel σ) (index : Nat) (isV4 : Bool) : OsCall σ Unit := do
  let (code, table) ← kernel.getIpForwardTable2 isV4
  winResult code
  let rows := table.filter fun row => row.interfaceIndex = index ∧ row.prefixLength = 0
  rows.forM fun row => do winResult (← kernel.deleteIpForwardEntry2 row)

def clearAddresses (kernel : Kernel σ) (index : Nat) (isV4 : Bool) : OsCall σ Unit := do
  let (code, table) ← kernel.getUnicastIpAddressTable isV4
  winResult code
  let rows := table.filter fun row => row.interfaceIndex = index
  rows.forM fun row => do winResult (← kernel.deleteUnicastIpAddressEntry row)
  clearDefaultRoutes kernel index isV4

def setAddress (kernel : Kernel σ) (index : Nat) (address : IpAddr) (prefixLen : Nat)
    (gateway : Option IpAddr) : OsCall σ Unit := do
  clearAddresses kernel index address.isIpv4
  addAddress kernel index address prefixLen gateway

/-- The prefix length of a row that `InitializeUnicastIpAddressEntry` has filled. -/
def initialPrefixLength : Nat := 255

def removeAddress (kernel : Kernel σ) (index : Nat) (address : IpAddr) : OsCall σ Unit := do
  winResult (← kernel.deleteUnicastIpAddressEntry ⟨index, address, initialPrefixLength⟩)

variable {α β : Type} [ToIpv4Address α] [ToIpv4Netmask β]

def setNetworkAddress (kernel : Kernel σ) (index : Nat) (address : α) (netmask : β)
    (destination : Option α) : OsCall σ Unit := do
  let address ← OsCall.ofResult (ToIpv4Address.ipv4 address)
  let prefixLen ← OsCall.ofResult (ToIpv4Netmask.toPrefix netmask)
  let gateway ← OsCall.ofResult (destination.mapM ToIpv4Address.ipv4)
  setAddress kernel index (.v4 address) prefixLen.toNat (gateway.map .v4)

def addAddressV6 {γ δ : Type} [ToIpv6Address γ] [ToIpv6Netmask δ] (kernel : Kernel σ)
    (index : Nat) (addr : γ) (netmask : δ) : OsCall σ Unit := do
  let address ← OsCall.ofResult (ToIpv6Address.ipv6 addr)
  let prefixLen ← OsCall.ofResult (ToIpv6Netmask.toPrefix netmask)
  addAddress kernel index (.v6 address) prefixLen.toNat none

theorem setNetworkAddress_fails (kernel : Kernel σ) (index : Nat) {address : α}
    {netmask : β} {destination : Option α} (s : σ)
    (fails : ConversionFails address (ToIpv4Netmask.toPrefix netmask) destination) :
    ∃ error, (setNetworkAddress kernel index address netmask destination).on s =
      (.error error, s) := by
  unfold setNetworkAddress
  apply OsCall.Refuses.ofResult_bind
  intro addr addressResult
  apply OsCall.Refuses.ofResult_bind
  intro len prefixResult
  apply OsCall.Refuses.ofResult_bind
  intro dest destResult
  exact absurd fails (not_conversionFails addressResult prefixResult destResult)

end QuincyTun.Windows
