import QuincyTun.Foundation.OsCall
import Mathlib.Data.Set.Basic

/-! Addresses, netmasks, and the values that callers may give for them. -/

set_option autoImplicit false

namespace QuincyTun.Config

open QuincyTun.Foundation

abbrev Ipv4Addr := BitVec 32

abbrev Ipv6Addr := BitVec 128

inductive IpAddr where
  | v4 (addr : Ipv4Addr)
  | v6 (addr : Ipv6Addr)
  deriving DecidableEq, Repr

def IpAddr.isIpv4 : IpAddr → Bool
  | .v4 _ => true
  | .v6 _ => false

/-- An address of an interface, with the length of its network's mask. -/
structure IpNet where
  addr : IpAddr
  prefixLen : Nat
  deriving DecidableEq, Repr

/-! ## Masks -/

def leadingOnes {w : Nat} (bits : BitVec w) : Nat :=
  ((List.range w).takeWhile bits.getMsbD).length

def countOnes {w : Nat} (bits : BitVec w) : Nat := (List.range w).countP bits.getMsbD

/-- `u32::MAX.checked_shl(32 - len).unwrap_or(0)` -/
def maskOf (len : UInt8) : Ipv4Addr :=
  -- Above 32 the subtraction wraps around, and every bit is shifted out.
  if 0 < len ∧ len ≤ 32 then BitVec.allOnes 32 <<< (32 - len.toNat) else 0

/-- `ipnet::ip_mask_to_prefix` -/
def maskToPrefix {w : Nat} (mask : BitVec w) : Result Nat :=
  if mask <<< leadingOnes mask = 0 then .ok (leadingOnes mask)
  else invalidInput "invalid IP prefix length"

/-- `ipnet::IpNet::with_netmask`: the address of the network and the length of its mask. -/
def networkOf (addr netmask : IpAddr) : Result (IpAddr × Nat) :=
  match addr, netmask with
  | .v4 addr, .v4 mask => return (.v4 (addr &&& mask), ← maskToPrefix mask)
  | .v6 addr, .v6 mask => return (.v6 (addr &&& mask), ← maskToPrefix mask)
  | _, _ => invalidInput "invalid IP prefix length"

def calcDestAddr (addr netmask : Ipv4Addr) : Result Ipv4Addr := do
  let prefixLen ← maskToPrefix netmask
  return addr ||| ~~~ maskOf (UInt8.ofNat prefixLen)

/-! ## Conversions -/

/-- `Ipv4Addr::from_str` reads one decimal number without leading zeros. -/
def parseOctet (digits : List Char) : Option Nat :=
  let value := digits.foldl (fun value digit => 10 * value + (digit.toNat - '0'.toNat)) 0
  if digits ≠ [] ∧ digits.length ≤ 3 ∧ digits.all Char.isDigit ∧
      (digits.head? = some '0' → digits.length = 1) ∧ value ≤ 255 then
    some value
  else none

def parseIpv4 (text : String) : Option Ipv4Addr :=
  match (text.toList.splitOn '.').map parseOctet with
  | [some a, some b, some c, some d] =>
    some (BitVec.ofNat 32 (((a * 256 + b) * 256 + c) * 256 + d))
  | _ => none

class ToIpv4Address (α : Type) where
  ipv4 : α → Result Ipv4Addr

instance : ToIpv4Address Ipv4Addr where
  ipv4 := .ok

instance : ToIpv4Address IpAddr where
  ipv4
    | .v4 addr => .ok addr
    | .v6 _ => invalidData "invalid address"

instance : ToIpv4Address String where
  ipv4 text :=
    match parseIpv4 text with
    | some addr => .ok addr
    | none => invalidData "invalid IPv4 str"

class ToIpv6Address (α : Type) where
  ipv6 : α → Result Ipv6Addr

instance : ToIpv6Address Ipv6Addr where
  ipv6 := .ok

instance : ToIpv6Address IpAddr where
  ipv6
    | .v4 _ => invalidData "invalid address"
    | .v6 addr => .ok addr

/-- An implementation may give its own `netmask`. -/
class ToIpv4Netmask (α : Type) where
  toPrefix : α → Result UInt8
  netmask : α → Result Ipv4Addr := fun value => return maskOf (← toPrefix value)

instance : ToIpv4Netmask UInt8 where
  toPrefix len := if len > 32 then invalidData "invalid IP prefix length" else .ok len

/-- The prefix length of a mask whose ones all come first. -/
def prefixOfMask (mask : Ipv4Addr) : Result UInt8 :=
  if leadingOnes mask ≠ countOnes mask then invalidData "invalid netmask"
  else .ok (UInt8.ofNat (leadingOnes mask))

instance : ToIpv4Netmask Ipv4Addr where
  toPrefix := prefixOfMask

instance : ToIpv4Netmask String where
  toPrefix text :=
    match parseIpv4 text with
    | some mask => prefixOfMask mask
    | none => invalidData "invalid netmask str"

def ConversionFails {α β : Type} [ToIpv4Address α] (address : α) (mask : Result β)
    (destination : Option α) : Prop :=
  (∃ error, ToIpv4Address.ipv4 address = .error error) ∨ (∃ error, mask = .error error) ∨
    ∃ error, destination.mapM ToIpv4Address.ipv4 = .error error

theorem not_conversionFails {α β : Type} [ToIpv4Address α] {address : α} {mask : Result β}
    {destination : Option α} {addr : Ipv4Addr} {maskValue : β} {dest : Option Ipv4Addr}
    (addressOk : ToIpv4Address.ipv4 address = .ok addr) (maskOk : mask = .ok maskValue)
    (destinationOk : destination.mapM ToIpv4Address.ipv4 = .ok dest) :
    ¬ ConversionFails address mask destination := by
  rintro (⟨_, failed⟩ | ⟨_, failed⟩ | ⟨_, failed⟩)
  · exact nomatch addressOk.symm.trans failed
  · exact nomatch maskOk.symm.trans failed
  · exact nomatch destinationOk.symm.trans failed

/-- If an argument does not convert, the call fails and the addresses stay what they were. -/
def KeepsAddresses {σ : Type} (configured : σ → Set IpNet) (call : OsCall σ Unit) (fails : Prop)
    (s : σ) : Prop :=
  fails → (∃ error, (call.on s).1 = .error error) ∧ configured (call.on s).2 = configured s

example : (ToIpv4Netmask.netmask (24 : UInt8)).toOption = some (0xffffff00 : Ipv4Addr) := by decide

end QuincyTun.Config
