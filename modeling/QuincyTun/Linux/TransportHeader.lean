import QuincyTun.Linux.Eligible

/-! Where the transport header of an unfragmented packet is, behind options and extension headers.

Receive offload itself asks for a transport header directly behind an IP header without options.
-/

set_option autoImplicit false

namespace QuincyTun.Linux

open QuincyTun.Foundation

/-- The length of an extension header that another header can follow in the clear. A fragment
header is one if the packet is its only fragment. -/
def extensionHLen (isV6 : Bool) (pkt : List UInt8) (next : UInt8) (start : Nat) : Option Nat :=
  let units := (byteAt pkt (start + 1)).toNat
  -- Authentication counts words of four bytes, and IPv4 has no other extension header.
  if next = 51 then some (4 * (units + 2))
  else if isV6 = false then none
  else if next = 44 then if u16At pkt (start + 2) &&& 0xFFF9 = 0 then some 8 else none
  -- Hop-by-hop, routing, destination, mobility, host identity, shim
  else if next ∈ [0, 43, 60, 135, 139, 140] then some (8 * (units + 1))
  else none

def headerBehind (isV6 : Bool) (protocol : UInt8) (pkt : List UInt8) :
    (fuel : Nat) → UInt8 → Nat → Option Nat
  | 0, _, _ => none
  | fuel + 1, next, start =>
    if next = protocol then some start
    else (extensionHLen isV6 pkt next start).bind fun length =>
      headerBehind isV6 protocol pkt fuel (byteAt pkt start) (start + length)

def transportHeader (protocol : UInt8) (pkt : List UInt8) : Option Nat :=
  if ipVersion pkt = 6 then
    headerBehind true protocol pkt pkt.length (ipProtocol true pkt) (ipHLen true)
  else if ipVersion pkt = 4 ∧ ¬ Ipv4Fragment pkt ∧ 5 ≤ (byteAt pkt 0 &&& 0x0F).toNat then
    headerBehind false protocol pkt pkt.length (ipProtocol false pkt)
      ((byteAt pkt 0 &&& 0x0F).toNat * 4)
  else none

section Eligible

variable {isV6 : Bool} {protocol other : UInt8} {transportHLen : Nat} {pkt : List UInt8}

theorem Eligible.transportHeader_eq (eligible : Eligible isV6 protocol transportHLen pkt) :
    transportHeader other pkt =
      headerBehind isV6 other pkt pkt.length protocol (ipHLen isV6) := by
  have version := eligible.candidate.version
  rw [← eligible.candidate.ofProtocol]
  cases isV6 with
  | true =>
    have six : ipVersion pkt = 6 := version
    rw [transportHeader, if_pos six]
  | false =>
    have words := eligible.candidate.noOptions rfl
    have notSix : ipVersion pkt ≠ 6 := by
      rw [version]
      decide
    have fixed : (byteAt pkt 0 &&& 0x0F).toNat = 5 := by
      rw [words]
      rfl
    rw [transportHeader, if_neg notSix, if_pos ⟨version, eligible.unfragmented rfl, fixed.ge⟩,
      fixed]
    rfl

theorem Eligible.transportHeader_self (eligible : Eligible isV6 protocol transportHLen pkt) :
    transportHeader protocol pkt = some (ipHLen isV6) := by
  obtain ⟨fuel, size⟩ := Nat.exists_eq_succ_of_ne_zero (Nat.ne_zero_of_lt eligible.payload)
  rw [eligible.transportHeader_eq, size, headerBehind, if_pos rfl]

theorem Eligible.transportHeader_other (eligible : Eligible isV6 protocol transportHLen pkt)
    (apart : protocol ≠ other) (last : protocol = ipProtoTcp ∨ protocol = ipProtoUdp) :
    transportHeader other pkt = none := by
  obtain ⟨fuel, size⟩ := Nat.exists_eq_succ_of_ne_zero (Nat.ne_zero_of_lt eligible.payload)
  have noExtension : extensionHLen isV6 pkt protocol (ipHLen isV6) = none := by
    rcases last with rfl | rfl <;> cases isV6 <;> rfl
  rw [eligible.transportHeader_eq, size, headerBehind, if_neg apart, noExtension]
  rfl

end Eligible

end QuincyTun.Linux
