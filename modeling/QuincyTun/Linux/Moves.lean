import QuincyTun.Linux.Batch

/-! Which group a packet joins, read off the state before its step.

The loop keeps no record of its history. `groMove` asks the program's own tests
what the next packet will do, and `groGroups` collects the moves of a run.
-/

set_option autoImplicit false

namespace QuincyTun.Linux

open QuincyTun.Foundation

def capacityAt (bufs : List ExpandBuffer) (i : Nat) : Nat :=
  match bufs[i]? with
  | some buf => buf.bufCapacity
  | none => 0

theorem capacityAt_of_getElem? {bufs : List ExpandBuffer} {i : Nat} {buf : ExpandBuffer}
    (found : bufs[i]? = some buf) : capacityAt bufs i = buf.capacity := by
  rw [capacityAt, found]
  rfl

/-- The buffer that would grow holds the joined packet without reallocation. -/
def RoomFor (offset : Nat) (bufs : List ExpandBuffer) (growing target : Nat) (pkt : List UInt8)
    (headersLen : Nat) : Prop :=
  2 * offset + ((packetAt offset bufs target).length + pkt.length - headersLen) ≤
    capacityAt bufs growing

instance (offset : Nat) (bufs : List ExpandBuffer) (growing target : Nat) (pkt : List UInt8)
    (headersLen : Nat) : Decidable (RoomFor offset bufs growing target pkt headersLen) :=
  inferInstanceAs (Decidable (_ ≤ _))

/-- The checksum of the packet verifies, and so does that of an item without merges. -/
def ChecksumsAllow (numMerged : UInt16) (knownInvalid : Bool) (bufs : List ExpandBuffer)
    (bufsIndex : UInt16) (offset : Nat) (iphLen protocol : UInt8) (isV6 : Bool)
    (pkt : List UInt8) : Prop :=
  itemChecksumInvalid numMerged knownInvalid bufs bufsIndex offset iphLen protocol isV6 =
      .ok false ∧
    checksumValid pkt iphLen protocol isV6 = .ok true

instance (numMerged : UInt16) (knownInvalid : Bool) (bufs : List ExpandBuffer)
    (bufsIndex : UInt16) (offset : Nat) (iphLen protocol : UInt8) (isV6 : Bool)
    (pkt : List UInt8) : Decidable (ChecksumsAllow numMerged knownInvalid bufs bufsIndex offset
      iphLen protocol isV6 pkt) :=
  inferInstanceAs (Decidable (_ ∧ _))

/-- The move that joins the packet to this item, if the item takes it. -/
def tcpTakes (offset : Nat) (bufs : List ExpandBuffer) (pkt : List UInt8) (pktI : Nat)
    (segment : TcpSegment) (isV6 : Bool) (item : TcpGROItem) : Option Move :=
  let head := item.bufsIndex.toNat
  let headersLen := segment.iphLen + segment.tcphLen
  let allowed := ChecksumsAllow item.numMerged false bufs item.bufsIndex offset item.iphLen
    ipProtoTcp isV6 pkt
  match tcpPacketsCanCoalesce pkt (UInt8.ofNat segment.iphLen) (UInt8.ofNat segment.tcphLen)
      segment.seq segment.pshSet segment.gsoSize item bufs offset with
  | .ok .append =>
    if RoomFor offset bufs head head pkt headersLen ∧ allowed then some (.append head) else none
  | .ok .prepend =>
    if RoomFor offset bufs pktI head pkt headersLen ∧ allowed then some (.prepend head) else none
  | _ => none

/-- The items of the flow are asked from the last to the first. -/
def tcpMove (offset : Nat) (bufs : List ExpandBuffer) (pkt : List UInt8) (pktI : Nat)
    (table : TcpGROTable) (isV6 : Bool) : Move :=
  match parseTcp pkt isV6, table.itemsByFlow.lookup (tcpKeyOf isV6 pkt) with
  | .ok (some segment), some items =>
    (items.reverse.findSome? (tcpTakes offset bufs pkt pktI segment isV6)).getD .stand
  | _, _ => .stand

def udpTakes (offset : Nat) (bufs : List ExpandBuffer) (pkt : List UInt8) (datagram : UdpDatagram)
    (isV6 : Bool) (item : UdpGROItem) : Option Move :=
  let head := item.bufsIndex.toNat
  match udpPacketsCanCoalesce pkt (UInt8.ofNat datagram.iphLen) datagram.gsoSize item bufs
      offset with
  | .ok .append =>
    if RoomFor offset bufs head head pkt (datagram.iphLen + udpHLen) ∧
        ChecksumsAllow item.numMerged item.cSumKnownInvalid bufs item.bufsIndex offset item.iphLen
          ipProtoUdp isV6 pkt then
      some (.append head)
    else none
  | _ => none

/-- Only the last item of the flow is asked. -/
def udpMove (offset : Nat) (bufs : List ExpandBuffer) (pkt : List UInt8) (table : UdpGROTable)
    (isV6 : Bool) : Move :=
  match parseUdp pkt isV6, table.itemsByFlow.lookup (udpKeyOf isV6 pkt) with
  | .ok (some datagram), some items =>
    (items.getLast?.bind (udpTakes offset bufs pkt datagram isV6)).getD .stand
  | _, _ => .stand

/-- The move of packet `i` in the state before its iteration. -/
def groMove (offset : Nat) (canUdpGro : Bool) (i : Nat) (s : GroState) : Move :=
  let pkt := packetAt offset s.bufs i
  match packetIsGroCandidate pkt canUdpGro with
  | .tcp4GRO => tcpMove offset s.bufs pkt i s.tcpTable false
  | .tcp6GRO => tcpMove offset s.bufs pkt i s.tcpTable true
  | .udp4GRO => udpMove offset s.bufs pkt s.udpTable false
  | .udp6GRO => udpMove offset s.bufs pkt s.udpTable true
  | .notGRO => .stand

/-- The state before iteration `n`; a run that ended early stays where it ended. -/
def groStateAt (host : Host) (offset : Nat) (canUdpGro : Bool) (n : Nat) (s : GroState) : GroState :=
  match groLoop host offset canUdpGro n s with
  | .ok (s, _) => s
  | .error _ => s

def groGroups (host : Host) (offset : Nat) (canUdpGro : Bool) (s : GroState) : Nat → Grouping
  | 0 => Grouping.empty
  | n + 1 => (groGroups host offset canUdpGro s n).step n
      (groMove offset canUdpGro n (groStateAt host offset canUdpGro n s))

end QuincyTun.Linux
