import QuincyTun.Foundation.StreamOrder
import QuincyTun.Linux.RoundTrip
import QuincyTun.Linux.UdpOrder

/-! The order of the segments of one TCP connection.

A segment joins a group wherever it is adjacent to it, in front or behind, and not only
the last group is asked. Still no segment overtakes another when they arrive in order.
-/

set_option autoImplicit false

namespace QuincyTun.Linux

open QuincyTun.Foundation

/-! ## Connections -/

structure TcpFlow where
  srcAddr : List UInt8
  dstAddr : List UInt8
  srcPort : UInt16
  dstPort : UInt16
  deriving DecidableEq, Repr

/-- What a segment takes of the sequence numbers of its connection. -/
structure TcpRange where
  flow : TcpFlow
  seq : UInt32
  length : Nat
  deriving DecidableEq, Repr

def tcpFlagSyn : UInt8 := 0x02

/-- SYN and FIN take one sequence number each, like a byte of payload. -/
def flagLength (flags : UInt8) : Nat :=
  (if flags &&& tcpFlagSyn = 0 then 0 else 1) + if flags &&& tcpFlagFin = 0 then 0 else 1

def tcpRangeAt (isV6 : Bool) (pkt : List UInt8) (tcph : Nat) : Option TcpRange :=
  if tcph + 20 ≤ pkt.length then
    some {
      flow := {
        srcAddr := srcAddress isV6 pkt
        dstAddr := dstAddress isV6 pkt
        srcPort := u16At pkt tcph
        dstPort := u16At pkt (tcph + 2) }
      seq := u32At pkt (tcph + 4)
      length := ipLength isV6 pkt - (tcph + (byteAt pkt (tcph + 12) >>> 4).toNat * 4) +
        flagLength (byteAt pkt (tcph + tcpFlagsOffset)) }
  else none

def tcpRange (pkt : List UInt8) : Option TcpRange :=
  (transportHeader ipProtoTcp pkt).bind (tcpRangeAt (ipVersion pkt == 6) pkt)

section Range

variable {isV6 other : Bool} {pkt a b : List UInt8}

theorem flagLength_ack (flags : flagLength (tcpFlags isV6 pkt) ≠ 0) :
    ¬ (tcpFlags isV6 pkt = tcpFlagAck ∨ tcpFlags isV6 pkt = tcpFlagAck ||| tcpFlagPsh) := by
  rintro (same | same) <;> exact flags (by rw [same]; rfl)

theorem TcpEligible.tcpRange (eligible : TcpEligible isV6 pkt) :
    tcpRange pkt = some {
      flow := ⟨srcAddress isV6 pkt, dstAddress isV6 pkt, srcPort isV6 pkt, dstPort isV6 pkt⟩
      seq := tcpSeq isV6 pkt
      length := (tcpPayload isV6 pkt).length } := by
  have payload := eligible.payload
  have headerLen := eligible.headerLen
  have plain : flagLength (tcpFlags isV6 pkt) = 0 := by
    by_contra flagged
    exact flagLength_ack flagged eligible.flags
  have found : tcpRangeAt isV6 pkt (ipHLen isV6) = some {
      flow := ⟨srcAddress isV6 pkt, dstAddress isV6 pkt, srcPort isV6 pkt, dstPort isV6 pkt⟩
      seq := tcpSeq isV6 pkt
      length := (tcpPayload isV6 pkt).length } := by
    have size : ipLength isV6 pkt - (ipHLen isV6 + tcpHLen isV6 pkt) +
        flagLength (tcpFlags isV6 pkt) = (tcpPayload isV6 pkt).length := by
      rw [plain, eligible.ipLength, Nat.add_zero, tcpPayload, List.length_drop]
    rw [tcpRangeAt, if_pos (by omega), ← size]
    rfl
  rw [Linux.tcpRange, eligible.transportHeader_self, Option.bind_some, eligible.candidate.isV6_eq]
  exact found

theorem UdpEligible.tcpRange (eligible : UdpEligible isV6 pkt) : tcpRange pkt = none := by
  rw [Linux.tcpRange, eligible.transportHeader_other (by decide) (.inr rfl)]
  rfl

end Range

/-! ## Order -/

def tcpLength (offset : Nat) (input : List ExpandBuffer) (k : Nat) : Nat :=
  ((tcpRange (packetAt offset input k)).map TcpRange.length).getD 0

/-- The packet carries data, a SYN or a FIN of the connection. -/
def inTcpFlow (offset : Nat) (input : List ExpandBuffer) (flow : TcpFlow) (k : Nat) : Bool :=
  (tcpRange (packetAt offset input k)).any fun range => range.flow = flow ∧ 0 < range.length

/-- The segments of a connection stand in the batch in the order of its stream, each behind the
one before it or further. Positions count from the initial sequence number and do not wrap
around. -/
structure TcpInOrder (offset : Nat) (input : List ExpandBuffer) (flow : TcpFlow) (isn : UInt32)
    (position : Nat → Nat) : Prop where
  seq : ∀ k < input.length, ∀ range, tcpRange (packetAt offset input k) = some range →
    range.flow = flow → range.seq = isn + UInt32.ofNat (position k)
  ascending : ∀ j k, j < k → k < input.length → inTcpFlow offset input flow j = true →
    inTcpFlow offset input flow k = true → position j + tcpLength offset input j ≤ position k
  within : ∀ k < input.length, inTcpFlow offset input flow k = true → position k ≤ 2 ^ 31

section Order

variable {host : Host} {offset k : Nat} {canUdpGro : Bool} {s final s' : GroState}
  {input : List ExpandBuffer} {flow : TcpFlow} {item : TcpGROItem} {isn : UInt32}
  {position : Nat → Nat}

theorem inTcpFlow_iff : inTcpFlow offset input flow k = true ↔
    ∃ range, tcpRange (packetAt offset input k) = some range ∧ range.flow = flow ∧
      0 < range.length := by
  simp only [inTcpFlow, Option.any_eq_true, decide_eq_true_eq]

theorem TcpInOrder.inStreamOrder (inOrder : TcpInOrder offset input flow isn position) :
    InStreamOrder position (tcpLength offset input) (inTcpFlow offset input flow)
      input.length where
  ascending := inOrder.ascending
  positive := by
    intro k _ ofFlow
    obtain ⟨range, found, -, positive⟩ := inTcpFlow_iff.mp ofFlow
    rw [tcpLength, found]
    exact positive

/-- A group that holds a segment besides its first packet is the group of a TCP item. -/
theorem GroInv.tcpItem_of_part {n : Nat} {groups : Grouping}
    (inv : GroInv input offset canUdpGro n s groups) {head : Nat} (known : head ∈ groups.heads)
    (part : k ∈ groups.parts head) (ofFlow : inTcpFlow offset input flow k = true)
    (apart : k ≠ head) : ∃ item ∈ s.tcpTable.liveItems, item.bufsIndex.toNat = head := by
  have merged : MergedAt s head := by
    by_contra alone
    rw [(inv.alone (inv.toWrite ▸ known) alone).1, List.mem_singleton] at part
    exact apart part
  rcases merged with ⟨item, live, here, -⟩ | ⟨item, live, rfl, -⟩
  · exact ⟨item, live, here⟩
  · obtain ⟨-, buf, -, holds⟩ := inv.udpHolds live
    have eligible := holds.group.eligible _ (List.mem_map_of_mem part)
    obtain ⟨range, found, -⟩ := inTcpFlow_iff.mp ofFlow
    cases (UdpEligible.tcpRange eligible).symm.trans found

section Group

variable {parts : List Nat} {buf : ExpandBuffer}

theorem TcpHolds.inTcpFlow (holds : TcpHolds input offset item parts buf) (part : k ∈ parts)
    (ofFlow : inTcpFlow offset input flow k = true) {j : Nat} (other : j ∈ parts) :
    inTcpFlow offset input flow j = true := by
  have memberK := List.mem_map_of_mem (f := packetAt offset input) part
  have memberJ := List.mem_map_of_mem (f := packetAt offset input) other
  have eligibleK := holds.group.eligible _ memberK
  have eligibleJ := holds.group.eligible _ memberJ
  have same := (holds.group.sameHeader _ memberK).trans (holds.group.sameHeader _ memberJ).symm
  have payload := eligibleJ.payload
  obtain ⟨range, found, flowK, -⟩ := inTcpFlow_iff.mp ofFlow
  obtain rfl := Option.some.inj (eligibleK.tcpRange.symm.trans found)
  refine inTcpFlow_iff.mpr ⟨_, eligibleJ.tcpRange, ?_, ?_⟩
  · rw [← flowK, same.src, same.dst, same.srcPort, same.dstPort]
  · change 0 < (tcpPayload item.key.isV6 (packetAt offset input j)).length
    rw [tcpPayload, List.length_drop]
    omega

theorem TcpHolds.gapless (holds : TcpHolds input offset item parts buf)
    (inOrder : TcpInOrder offset input flow isn position)
    (seen : ∀ k ∈ parts, k < input.length)
    (ofFlow : ∀ k ∈ parts, Linux.inTcpFlow offset input flow k = true) :
    Gapless position (tcpLength offset input) parts := by
  have chain : (parts.map (packetAt offset input)).IsChain _ := holds.group.inSequence
  rw [List.isChain_map] at chain
  refine chain.imp_of_mem_imp fun a b inA inB adjacent => ?_
  have eligibleA := holds.group.eligible _ (List.mem_map_of_mem inA)
  have eligibleB := holds.group.eligible _ (List.mem_map_of_mem inB)
  obtain ⟨rangeA, foundA, flowA, -⟩ := inTcpFlow_iff.mp (ofFlow a inA)
  obtain ⟨rangeB, foundB, flowB, -⟩ := inTcpFlow_iff.mp (ofFlow b inB)
  have seqA := inOrder.seq a (seen a inA) rangeA foundA flowA
  have seqB := inOrder.seq b (seen b inB) rangeB foundB flowB
  obtain rfl := Option.some.inj (eligibleA.tcpRange.symm.trans foundA)
  obtain rfl := Option.some.inj (eligibleB.tcpRange.symm.trans foundB)
  have sizeA : tcpLength offset input a =
      (tcpPayload item.key.isV6 (packetAt offset input a)).length := by
    rw [tcpLength, foundA]
    rfl
  have short := eligibleA.length_le
  have small : (tcpPayload item.key.isV6 (packetAt offset input a)).length ≤ 65535 := by
    rw [tcpPayload, List.length_drop]
    omega
  have lowA := inOrder.within a (seen a inA) (ofFlow a inA)
  have lowB := inOrder.within b (seen b inB) (ofFlow b inB)
  -- Sequence numbers determine positions, as none is past half of their range.
  have same : UInt32.ofNat (position b) = UInt32.ofNat (position a + tcpLength offset input a) := by
    refine (UInt32.add_right_inj isn).mp ?_
    rw [UInt32.ofNat_add, ← UInt32.add_assoc, ← seqB, ← seqA, sizeA]
    exact adjacent
  have value := congrArg UInt32.toNat same
  rw [UInt32.toNat_ofNat', UInt32.toNat_ofNat'] at value
  rw [← sizeA] at small
  omega

end Group

/-- Receive offload keeps the order of every connection whose segments arrive in order. What was
joined is expanded into its parts, which are the packets of the batch. -/
theorem keepsTcpOrder (host : Host) (offset : Nat) (canUdpGro : Bool) (fresh : FreshState s)
    (ran : handleGro host offset canUdpGro s = .ok (s', .ok ())) :
    Conserved s.bufs offset s.bufs.length s'
        (groGroups host offset canUdpGro s s.bufs.length).parts ∧
      ∀ flow isn position, TcpInOrder offset s.bufs flow isn position →
        (emissionOrder host offset canUdpGro s s').filter (inTcpFlow offset s.bufs flow) =
          (List.range s.bufs.length).filter (inTcpFlow offset s.bufs flow) := by
  obtain ⟨final, -, ret⟩ := handleGro_returns fresh ran
  refine ⟨ret.conserved, fun flow isn position inOrder => ?_⟩
  have partition := ret.inv.batch.partition
  rw [emissionOrder, ret.completed.toWrite, ret.inv.toWrite]
  refine partition.filter_inOrder_of_gapless inOrder.inStreamOrder (fun head known k part => ?_)
    fun head known k part ofFlow apart => ?_
  · rw [groGroups_eq_run] at known part
    exact Grouping.run_head_le (groGroups_partition host canUdpGro fresh ret.valid) known part
  · obtain ⟨item, live, rfl⟩ := ret.inv.tcpItem_of_part known part ofFlow apart
    obtain ⟨-, buf, -, holds⟩ := ret.inv.tcpHolds live
    have all := fun j other => holds.inTcpFlow part ofFlow other (j := j)
    exact ⟨all, holds.gapless inOrder (fun j other => partition.part_lt known other) all⟩

def orderedSegments : List (List UInt8) :=
  [sentTcp false 1 tcpFlagAck 4096 [1, 2, 3, 4], sentTcp false 5 tcpFlagAck 4096 [],
    sentTcp false 5 tcpFlagAck 4096 [5, 6, 7, 8]]

def orderedFlow : TcpFlow :=
  ⟨srcAddress false (sentTcp false 1 0 0 []), dstAddress false (sentTcp false 1 0 0 []),
    srcPort false (sentTcp false 1 0 0 []), dstPort false (sentTcp false 1 0 0 [])⟩

theorem orderedSegments_inOrder :
    TcpInOrder 10 (batchOf 200 orderedSegments).bufs orderedFlow 0 ([1, 5, 5].getD · 0) := by
  have size : (batchOf 200 orderedSegments).bufs.length = 3 := rfl
  constructor
  case seq =>
    have all : ∀ k < 3, (tcpRange (packetAt 10 (batchOf 200 orderedSegments).bufs k)).all
        (fun range => range.seq = 0 + UInt32.ofNat ([1, 5, 5].getD k 0)) = true := by
      decide +kernel
    intro k inside range found _
    have here := all k inside
    rw [found] at here
    exact of_decide_eq_true here
  case ascending =>
    have all : ∀ j < 3, ∀ k < 3, j < k →
        inTcpFlow 10 (batchOf 200 orderedSegments).bufs orderedFlow j = true →
        inTcpFlow 10 (batchOf 200 orderedSegments).bufs orderedFlow k = true →
        [1, 5, 5].getD j 0 + tcpLength 10 (batchOf 200 orderedSegments).bufs j ≤
          [1, 5, 5].getD k 0 := by
      decide +kernel
    exact fun j k before inside => all j (before.trans inside) k inside before
  case within =>
    have all : ∀ k < 3, [1, 5, 5].getD k 0 ≤ 2 ^ 31 := by decide
    exact fun k inside _ => all k inside

theorem keepsTcpOrder_ordered : ∃ s',
    handleGro plainHost 10 true (batchOf 200 orderedSegments) = .ok (s', .ok ()) ∧
      mergedCount s' = 1 ∧
      (emissionOrder plainHost 10 true (batchOf 200 orderedSegments) s').filter
        (inTcpFlow 10 (batchOf 200 orderedSegments).bufs orderedFlow) = [0, 2] := by
  have run : (finalState (handleGro plainHost 10 true (batchOf 200 orderedSegments))).map
      mergedCount = some 1 := by decide +kernel
  obtain ⟨s', _, ran, merged⟩ := of_finalState_map run
  have ordered := (keepsTcpOrder plainHost 10 true (batchOf_fresh 200 orderedSegments) ran).2 _ _ _
    orderedSegments_inOrder
  exact ⟨s', ran, merged, ordered.trans (by decide +kernel)⟩

end Order

end QuincyTun.Linux
