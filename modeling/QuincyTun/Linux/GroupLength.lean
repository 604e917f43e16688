import QuincyTun.Linux.Conservation
import QuincyTun.Linux.Metadata
import QuincyTun.Linux.Reached

/-! What the packets of a group add up to. -/

set_option autoImplicit false

namespace QuincyTun.Linux

open QuincyTun.Foundation

def payloadOf (pkt : List UInt8) : List UInt8 :=
  match (packetIsGroCandidate pkt true).kind with
  | some (isV6, protocol) => transportPayload isV6 protocol pkt
  | none => []

/-- What the packets of a group add up to: one set of headers and all payloads. -/
def groupLength (offset : Nat) (input : List ExpandBuffer) (head : Nat) (parts : List Nat) : Nat :=
  (packetAt offset input head).length - (payloadOf (packetAt offset input head)).length +
    (parts.map fun k => (payloadOf (packetAt offset input k)).length).sum

section Lengths

variable {input : List ExpandBuffer} {offset n : Nat} {canUdpGro isV6 : Bool} {s : GroState}
  {groups : Grouping} {pkt : List UInt8}

theorem TcpEligible.payloadOf (eligible : TcpEligible isV6 pkt) :
    payloadOf pkt = tcpPayload isV6 pkt := by
  rw [Linux.payloadOf, (packetIsGroCandidate_kind pkt true isV6 ipProtoTcp).mpr
    ⟨eligible.candidate, .inl rfl⟩]
  rfl

theorem UdpEligible.payloadOf (eligible : UdpEligible isV6 pkt) :
    Linux.payloadOf pkt = udpPayload isV6 pkt := by
  rw [Linux.payloadOf, (packetIsGroCandidate_kind pkt true isV6 ipProtoUdp).mpr
    ⟨eligible.candidate, .inr ⟨rfl, rfl⟩⟩]
  rfl

theorem length_payloadOf_le (pkt : List UInt8) : (payloadOf pkt).length ≤ pkt.length := by
  unfold payloadOf
  split
  · rw [transportPayload]
    split <;> exact (List.length_drop ..).le.trans (Nat.sub_le ..)
  · exact Nat.zero_le _

theorem groupLength_single (offset : Nat) (input : List ExpandBuffer) (head : Nat) :
    groupLength offset input head [head] = (packetAt offset input head).length := by
  have small := length_payloadOf_le (packetAt offset input head)
  simp only [groupLength, List.map_cons, List.map_nil, List.sum_cons, List.sum_nil]
  omega

theorem groupLength_perm {head : Nat} {parts parts' : List Nat}
    (grows : parts'.Perm (n :: parts)) :
    groupLength offset input head parts' =
      groupLength offset input head parts + (payloadOf (packetAt offset input n)).length := by
  simp only [groupLength, (grows.map _).sum_eq, List.map_cons, List.sum_cons]
  omega

theorem TcpHolds.payloadOf_part {item : TcpGROItem} {parts : List Nat} {buf : ExpandBuffer} {k : Nat}
    (holds : TcpHolds input offset item parts buf) (part : k ∈ parts) :
    payloadOf (packetAt offset input k) = tcpPayload item.key.isV6 (packetAt offset input k) :=
  (holds.group.eligible _ (List.mem_map_of_mem part)).payloadOf

theorem UdpHolds.payloadOf_part {item : UdpGROItem} {parts : List Nat} {buf : ExpandBuffer} {k : Nat}
    (holds : UdpHolds input offset item parts buf) (part : k ∈ parts) :
    payloadOf (packetAt offset input k) = udpPayload item.key.isV6 (packetAt offset input k) :=
  UdpEligible.payloadOf (holds.group.eligible _ (List.mem_map_of_mem part))

theorem TcpHolds.payload_parts {item : TcpGROItem} {parts : List Nat} {buf : ExpandBuffer}
    (holds : TcpHolds input offset item parts buf) :
    tcpPayload item.key.isV6 (buf.bytes.drop offset) =
      parts.flatMap fun k => payloadOf (packetAt offset input k) := by
  have payload := holds.group.payload_eq
  rw [holds.group.iphLen, holds.group.tcphLen, List.flatMap_map] at payload
  rw [tcpPayload, payload]
  exact List.flatMap_congr fun k part => (holds.payloadOf_part part).symm

theorem UdpHolds.payload_parts {item : UdpGROItem} {parts : List Nat} {buf : ExpandBuffer}
    (holds : UdpHolds input offset item parts buf) :
    udpPayload item.key.isV6 (buf.bytes.drop offset) =
      parts.flatMap fun k => payloadOf (packetAt offset input k) := by
  have payload := holds.group.payload_eq
  rw [holds.group.iphLen, List.flatMap_map] at payload
  rw [udpPayload, payload]
  exact List.flatMap_congr fun k part => (holds.payloadOf_part part).symm

theorem TcpHolds.length_payload {item : TcpGROItem} {parts : List Nat} {buf : ExpandBuffer}
    (holds : TcpHolds input offset item parts buf) :
    (tcpPayload item.key.isV6 (buf.bytes.drop offset)).length =
      (parts.map fun k => (payloadOf (packetAt offset input k)).length).sum := by
  rw [holds.payload_parts, List.length_flatMap]

theorem UdpHolds.length_payload {item : UdpGROItem} {parts : List Nat} {buf : ExpandBuffer}
    (holds : UdpHolds input offset item parts buf) :
    (udpPayload item.key.isV6 (buf.bytes.drop offset)).length =
      (parts.map fun k => (payloadOf (packetAt offset input k)).length).sum := by
  rw [holds.payload_parts, List.length_flatMap]

theorem TcpHolds.length_eq {item : TcpGROItem} {parts : List Nat} {buf : ExpandBuffer} {head : Nat}
    (holds : TcpHolds input offset item parts buf) (member : head ∈ parts) :
    (buf.bytes.drop offset).length = groupLength offset input head parts := by
  have own := (holds.group.sameHeader _ (List.mem_map_of_mem member)).headerLen
  have long := (holds.group.eligible _ (List.mem_map_of_mem member)).payload
  have size : (tcpPayload item.key.isV6 (packetAt offset input head)).length =
      (packetAt offset input head).length -
        (ipHLen item.key.isV6 + tcpHLen item.key.isV6 (packetAt offset input head)) :=
    List.length_drop ..
  have whole : (tcpPayload item.key.isV6 (buf.bytes.drop offset)).length =
      (buf.bytes.drop offset).length -
        (ipHLen item.key.isV6 + tcpHLen item.key.isV6 (buf.bytes.drop offset)) :=
    List.length_drop ..
  have cur := holds.group.headers_lt
  rw [groupLength, holds.payloadOf_part member, ← holds.length_payload]
  omega

theorem UdpHolds.length_eq {item : UdpGROItem} {parts : List Nat} {buf : ExpandBuffer} {head : Nat}
    (holds : UdpHolds input offset item parts buf) (member : head ∈ parts) :
    (buf.bytes.drop offset).length = groupLength offset input head parts := by
  have long := (holds.group.eligible _ (List.mem_map_of_mem member)).payload
  have size : (udpPayload item.key.isV6 (packetAt offset input head)).length =
      (packetAt offset input head).length - (ipHLen item.key.isV6 + udpHLen) :=
    List.length_drop ..
  have whole : (udpPayload item.key.isV6 (buf.bytes.drop offset)).length =
      (buf.bytes.drop offset).length - (ipHLen item.key.isV6 + udpHLen) := List.length_drop ..
  have cur := holds.group.headers_lt
  rw [groupLength, holds.payloadOf_part member, ← holds.length_payload]
  omega

theorem TcpHolds.length_first {item : TcpGROItem} {first : Nat} {parts : List Nat}
    {buf : ExpandBuffer} (holds : TcpHolds input offset item parts buf)
    (opens : parts.head? = some first) (several : 2 ≤ parts.length) :
    (payloadOf (packetAt offset input first)).length = item.gsoSize.toNat := by
  obtain ⟨rest, rfl⟩ := List.head?_eq_some_iff.mp opens
  have member : packetAt offset input first ∈ (first :: rest).map (packetAt offset input) :=
    List.mem_map_of_mem List.mem_cons_self
  have full := holds.group.joined.segmented.length_getElem 0 (by
    rw [List.length_cons] at several
    simp only [List.map_cons, List.length_cons, List.length_map]
    omega)
  rw [holds.payloadOf_part List.mem_cons_self, tcpPayload,
    (holds.group.sameHeader _ member).headerLen]
  exact full

theorem UdpHolds.length_first {item : UdpGROItem} {first : Nat} {parts : List Nat}
    {buf : ExpandBuffer} (holds : UdpHolds input offset item parts buf)
    (opens : parts.head? = some first) (several : 2 ≤ parts.length) :
    (payloadOf (packetAt offset input first)).length = item.gsoSize.toNat := by
  obtain ⟨rest, rfl⟩ := List.head?_eq_some_iff.mp opens
  rw [holds.payloadOf_part List.mem_cons_self]
  exact holds.group.joined.segmented.length_getElem 0 (by
    rw [List.length_cons] at several
    simp only [List.map_cons, List.length_cons, List.length_map]
    omega)

theorem GroInv.known (inv : GroInv input offset canUdpGro n s groups) {k : Nat}
    (live : k ∈ liveIndices s) : k ∈ groups.heads := by
  rw [← map_index_groSlots input offset] at live
  obtain ⟨slot, member, rfl⟩ := List.mem_map.mp live
  exact inv.batch.known slot member

theorem GroInv.length_packet (inv : GroInv input offset canUdpGro n s groups)
    (valid : ValidBatch input offset n) {head : Nat} (member : head ∈ groups.heads) :
    (packetAt offset s.bufs head).length =
      groupLength offset input head (groups.parts head) := by
  have emitted : head ∈ s.toWrite := inv.toWrite ▸ member
  have opening := inv.batch.partition.opening head member
  by_cases merged : MergedAt s head
  · rcases merged with ⟨item, live, rfl, -⟩ | ⟨item, live, rfl, -⟩
    · obtain ⟨-, buf, here, holds⟩ := inv.tcpHolds live
      rw [packetAt_of_getElem? here, holds.length_eq opening]
    · obtain ⟨-, buf, here, holds⟩ := inv.udpHolds live
      rw [packetAt_of_getElem? here, holds.length_eq opening]
  · rw [(inv.alone emitted merged).1, groupLength_single, inv.packet_alone valid emitted merged]

end Lengths

end QuincyTun.Linux
