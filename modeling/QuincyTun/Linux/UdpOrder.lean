import QuincyTun.Linux.TransportHeader
import QuincyTun.Linux.UdpJoins

/-! The order of the datagrams of one flow.

Only the last item of a flow is asked, so a datagram never overtakes one that is in
the table. A datagram that receive offload leaves alone is in no table, and later
datagrams of its flow can still join the item before it.
-/

set_option autoImplicit false

namespace QuincyTun.Linux

open QuincyTun.Foundation

/-! ## Flows -/

structure UdpFlow where
  srcAddr : List UInt8
  dstAddr : List UInt8
  srcPort : UInt16
  dstPort : UInt16
  deriving DecidableEq, Repr

def udpFlowAt (isV6 : Bool) (pkt : List UInt8) (udph : Nat) : Option UdpFlow :=
  if udph + udpHLen ≤ pkt.length then
    some {
      srcAddr := srcAddress isV6 pkt
      dstAddr := dstAddress isV6 pkt
      srcPort := u16At pkt udph
      dstPort := u16At pkt (udph + 2) }
  else none

def udpFlow (pkt : List UInt8) : Option UdpFlow :=
  (transportHeader ipProtoUdp pkt).bind (udpFlowAt (ipVersion pkt == 6) pkt)

/-- A way to tell the flows of datagrams apart. Where receive offload looks for a header, it agrees
with what is there. -/
structure UdpReading where
  flow : List UInt8 → Option UdpFlow
  datagram : ∀ isV6 pkt, UdpEligible isV6 pkt →
    flow pkt = some ⟨srcAddress isV6 pkt, dstAddress isV6 pkt, srcPort isV6 pkt, dstPort isV6 pkt⟩
  segment : ∀ isV6 pkt, TcpEligible isV6 pkt → flow pkt = none

section Flow

variable {isV6 other : Bool} {a b pkt : List UInt8} (reading : UdpReading)

theorem UdpEligible.udpFlow (eligible : UdpEligible isV6 pkt) :
    udpFlow pkt = some ⟨srcAddress isV6 pkt, dstAddress isV6 pkt, srcPort isV6 pkt,
      dstPort isV6 pkt⟩ := by
  have found : udpFlowAt isV6 pkt (ipHLen isV6) = some ⟨srcAddress isV6 pkt, dstAddress isV6 pkt,
      srcPort isV6 pkt, dstPort isV6 pkt⟩ := if_pos eligible.payload.le
  rw [Linux.udpFlow, eligible.transportHeader_self, Option.bind_some, eligible.candidate.isV6_eq]
  exact found

theorem TcpEligible.udpFlow (eligible : TcpEligible isV6 pkt) : udpFlow pkt = none := by
  rw [Linux.udpFlow, eligible.transportHeader_other (by decide) (.inl rfl)]
  rfl

def behindExtensions : UdpReading where
  flow := udpFlow
  datagram _ _ := UdpEligible.udpFlow
  segment _ _ := TcpEligible.udpFlow

/-- An IPv6 datagram with an authentication header of 24 bytes -/
def authenticated (pkt : List UInt8) : List UInt8 :=
  overwrite (pkt.take 40 ++ [ipProtoUdp, 4] ++ List.replicate 22 0 ++ pkt.drop 40) 4
    (be16 (UInt16.ofNat (pkt.length - 16)) ++ [51])

example : udpFlow (authenticated (sentUdp true [1, 2])) = udpFlow (sentUdp true [1, 2]) ∧
    (udpFlow (sentUdp true [1, 2])).isSome := by decide +kernel

/-- Eligible datagrams have one key exactly when they are of one flow. -/
theorem udpKeyOf_eq_iff (eligibleA : UdpEligible isV6 a) (eligibleB : UdpEligible other b) :
    udpKeyOf isV6 a = udpKeyOf other b ↔ reading.flow a = reading.flow b := by
  have longA : ipHLen isV6 ≤ a.length := (Nat.le_add_right ..).trans eligibleA.payload.le
  have longB : ipHLen other ≤ b.length := (Nat.le_add_right ..).trans eligibleB.payload.le
  rw [reading.datagram _ _ eligibleA, reading.datagram _ _ eligibleB]
  constructor
  · intro same
    obtain rfl : isV6 = other := congrArg UdpFlowKey.isV6 same
    have flow := udpKeyOf_eq longA longB same
    rw [flow.src, flow.dst, flow.srcPort, flow.dstPort]
  · intro same
    simp only [Option.some.injEq, UdpFlow.mk.injEq] at same
    obtain ⟨src, dst, sport, dport⟩ := same
    have family : addrLen isV6 = addrLen other := by
      rw [← length_srcAddress longA, ← length_srcAddress longB, src]
    obtain rfl : isV6 = other := by
      cases isV6 <;> cases other <;> first | rfl | cases family
    simp only [udpKeyOf, src, dst, sport, dport]

end Flow

/-! ## Order -/

/-- The packets of a batch as they leave, each coalesced packet expanded into its parts. -/
def emissionOrder (host : Host) (offset : Nat) (canUdpGro : Bool) (s s' : GroState) : List Nat :=
  s'.toWrite.flatMap (groGroups host offset canUdpGro s s.bufs.length).parts

def inFlow (reading : UdpReading) (offset : Nat) (input : List ExpandBuffer) (flow : UdpFlow)
    (k : Nat) : Bool :=
  reading.flow (packetAt offset input k) = some flow

/-- The datagrams of each flow leave in the order in which they stood in the batch. -/
def KeepsUdpOrder (reading : UdpReading) (host : Host) (offset : Nat) (s s' : GroState) : Prop :=
  ∀ flow, (emissionOrder host offset true s s').filter (inFlow reading offset s.bufs flow) =
    (List.range s.bufs.length).filter (inFlow reading offset s.bufs flow)

/-- The next datagram joins a packet behind which stands an ineligible datagram of the flow. -/
def Overtakes (reading : UdpReading) (offset : Nat) (input : List ExpandBuffer) (n : Nat)
    (s : GroState) : Prop :=
  ∃ head, JoinsDatagram offset true n s head ∧ ∃ j, head < j ∧ j < n ∧
    reading.flow (packetAt offset input j) = reading.flow (packetAt offset input n) ∧
    ∀ isV6, ¬ UdpEligible isV6 (packetAt offset input j)

section Order

variable {host : Host} {offset n k j : Nat} {s final s' state : GroState} {flow : UdpFlow}
  {item : UdpGROItem} {reading : UdpReading}

theorem inFlow_iff {input : List ExpandBuffer} :
    inFlow reading offset input flow k = true ↔ reading.flow (packetAt offset input k) = some flow :=
  decide_eq_true_iff

theorem GroInv.udpItem_of_part {input : List ExpandBuffer} {canUdpGro : Bool} {groups : Grouping}
    (inv : GroInv input offset canUdpGro n s groups) {head : Nat} (known : head ∈ groups.heads)
    (part : k ∈ groups.parts head) (ofFlow : reading.flow (packetAt offset input k) = some flow)
    (apart : k ≠ head) : ∃ item ∈ s.udpTable.liveItems, item.bufsIndex.toNat = head := by
  have merged : MergedAt s head := by
    by_contra alone
    rw [(inv.alone (inv.toWrite ▸ known) alone).1, List.mem_singleton] at part
    exact apart part
  rcases merged with ⟨item, live, rfl, -⟩ | ⟨item, live, here, -⟩
  · obtain ⟨-, buf, -, holds⟩ := inv.tcpHolds live
    have eligible := holds.group.eligible _ (List.mem_map_of_mem part)
    cases (reading.segment _ _ eligible).symm.trans ofFlow
  · exact ⟨item, live, here⟩

theorem GroInv.parts_inOrder {input : List ExpandBuffer} {canUdpGro : Bool} {groups : Grouping}
    (inv : GroInv input offset canUdpGro n s groups) {head : Nat} (known : head ∈ groups.heads) :
    ((groups.parts head).filter (inFlow reading offset input flow)).Pairwise (· < ·) := by
  by_cases merged : MergedAt s head
  · rcases merged with ⟨item, live, rfl, -⟩ | ⟨item, live, rfl, -⟩
    · obtain ⟨-, buf, -, holds⟩ := inv.tcpHolds live
      have none : (groups.parts item.bufsIndex.toNat).filter (inFlow reading offset input flow) = [] := by
        refine List.filter_eq_nil_iff.mpr fun k part ofFlow => ?_
        have eligible := holds.group.eligible _ (List.mem_map_of_mem part)
        cases (reading.segment _ _ eligible).symm.trans (inFlow_iff.mp ofFlow)
      rw [none]
      exact .nil
    · obtain ⟨-, buf, -, holds⟩ := inv.udpHolds live
      exact holds.inOrder.filter _
  · rw [(inv.alone (inv.toWrite ▸ known) merged).1]
    exact (List.pairwise_singleton ..).filter _

theorem UdpKeyed.le_last {key : UdpFlowKey} {items : List UdpGROItem} {last : UdpGROItem}
    (flow : UdpKeyed key items) (isLast : items.getLast? = some last) (member : item ∈ items) :
    item.bufsIndex.toNat ≤ last.bufsIndex.toNat := by
  obtain ⟨front, rfl⟩ := List.getLast?_eq_some_iff.mp isLast
  have inOrder := flow.inOrder
  rw [List.map_append, List.map_singleton, List.pairwise_append] at inOrder
  rcases List.mem_append.mp member with before | same
  · exact (inOrder.2.2 _ (List.mem_map_of_mem before) _ (List.mem_singleton_self _)).le
  · rw [List.mem_singleton.mp same]

theorem UdpHolds.key_part {input : List ExpandBuffer} {parts : List Nat} {buf : ExpandBuffer}
    (holds : UdpHolds input offset item parts buf) (part : k ∈ parts) :
    udpKeyOf item.key.isV6 (packetAt offset input k) = item.key :=
  (udpKeyOf_congr (holds.group.sameHeader _ (List.mem_map_of_mem part))).trans holds.group.key

/-- An eligible datagram of the flow is in no group behind the last item of the flow. -/
theorem GroInv.head_le_last {input : List ExpandBuffer} {groups : Grouping} {pkt : List UInt8}
    {isV6 other : Bool} {items : List UdpGROItem} (inv : GroInv input offset true n s groups)
    {head : Nat} (known : head ∈ groups.heads) (part : k ∈ groups.parts head)
    (eligible : UdpEligible isV6 (packetAt offset input k)) (eligiblePkt : UdpEligible other pkt)
    (sameFlow : reading.flow (packetAt offset input k) = reading.flow pkt)
    (stored : s.udpTable.itemsByFlow.lookup (udpKeyOf other pkt) = some items)
    (isLast : items.getLast? = some item) : head ≤ item.bufsIndex.toNat := by
  have tabled : head ∈ udpIndices s.udpTable := by
    by_cases apart : k = head
    · subst apart
      exact inv.tabled rfl k known isV6 eligible
    · obtain ⟨found, live, here⟩ :=
        inv.udpItem_of_part known part (reading.datagram _ _ eligible) apart
      exact List.mem_map.mpr ⟨found, live, here⟩
  obtain ⟨found, live, rfl⟩ := List.mem_map.mp tabled
  obtain ⟨-, buf, -, holds⟩ := inv.udpHolds live
  obtain ⟨key, among, storedFound, member⟩ := FlowMap.mem_items.mp live
  have sameKey : key = udpKeyOf other pkt := by
    rw [← (inv.udp.stored _ _ storedFound).keys found member, ← holds.key_part part]
    exact (udpKeyOf_eq_iff reading (holds.group.eligible _ (List.mem_map_of_mem part)) eligiblePkt).mpr
      sameFlow
  rw [sameKey, stored] at storedFound
  obtain rfl := Option.some.inj storedFound
  exact (inv.udp.stored _ _ stored).le_last isLast member

theorem UdpHolds.head_le {input : List ExpandBuffer} {parts : List Nat} {buf : ExpandBuffer}
    (holds : UdpHolds input offset item parts buf) (part : k ∈ parts) :
    item.bufsIndex.toNat ≤ k := by
  obtain ⟨rest, rfl⟩ := List.head?_eq_some_iff.mp holds.opened
  rcases List.mem_cons.mp part with rfl | later
  · exact le_rfl
  · exact (List.rel_of_pairwise_cons holds.inOrder later).le

/-- A joined datagram passes no group that holds an eligible datagram of its flow. -/
theorem Returns.head_le_joined (ret : Returns host offset true s final s') (fresh : FreshState s)
    {head other : Nat} {isV6 : Bool} (inside : n ≤ s.bufs.length)
    (joins : JoinsDatagram offset true n (groStateAt host offset true n s) head)
    (known : other ∈ (groGroups host offset true s s.bufs.length).heads)
    (part : j ∈ (groGroups host offset true s s.bufs.length).parts other) (before : j < n)
    (eligible : UdpEligible isV6 (packetAt offset s.bufs j))
    (sameFlow : reading.flow (packetAt offset s.bufs j) = reading.flow (packetAt offset s.bufs n)) :
    other ≤ head := by
  have inv := (ret.reaches inside fresh).inv fresh
  obtain ⟨_, items, last, eligibleN, stored, isLast, rfl⟩ := joins.last
  rw [packetAt_congr (inv.batch.pending n le_rfl)] at eligibleN stored
  obtain ⟨whole, knownThen, partThen⟩ := inv.batch.partition.exists_head before
  have same : whole = other := by
    rw [groGroups_eq_run] at known part knownThen partThen
    have partition := groGroups_partition host true fresh ret.valid
    obtain ⟨still, members⟩ := Grouping.run_kept partition inside knownThen
    exact (partition _ le_rfl).head_unique still known (members partThen) part
  subst same
  exact inv.head_le_last knownThen partThen eligible eligibleN sameFlow stored isLast

/-- The datagrams of every flow keep their order exactly when none is joined past an ineligible
one. -/
theorem keepsUdpOrder_iff (reading : UdpReading) (host : Host) (offset : Nat) (fresh : FreshState s)
    (ran : handleGro host offset true s = .ok (s', .ok ())) :
    Conserved s.bufs offset s.bufs.length s'
        (groGroups host offset true s s.bufs.length).parts ∧
      (KeepsUdpOrder reading host offset s s' ↔
        ∀ n state, LoopReaches host offset true s n state →
          ¬ Overtakes reading offset s.bufs n state) := by
  obtain ⟨final, ranLoop, ret⟩ := handleGro_returns fresh ran
  refine ⟨ret.conserved, ?_⟩
  have partition := ret.inv.batch.partition
  have inOrder : KeepsUdpOrder reading host offset s s' ↔ ∀ flow,
      ∀ first ∈ (groGroups host offset true s s.bufs.length).heads,
        ∀ second ∈ (groGroups host offset true s s.bufs.length).heads, first < second →
          ∀ k ∈ (groGroups host offset true s s.bufs.length).parts first,
            ∀ j ∈ (groGroups host offset true s s.bufs.length).parts second,
              inFlow reading offset s.bufs flow k = true → inFlow reading offset s.bufs flow j = true → k < j := by
    refine forall_congr' fun flow => ?_
    rw [emissionOrder, ret.completed.toWrite, ret.inv.toWrite, partition.filter_inOrder_iff]
    exact and_iff_right fun head known => ret.inv.parts_inOrder known
  rw [inOrder]
  constructor
  · rintro ordered n state reaches ⟨head, joins, j, behind, before, sameFlow, ineligible⟩
    obtain ⟨-, inside, item, live, rfl, -, opening, part⟩ := ret.joins fresh reaches joins
    obtain ⟨known, buf, -, holds⟩ := ret.inv.udpHolds live
    have eligible : ∀ k ∈ (groGroups host offset true s s.bufs.length).parts
        item.bufsIndex.toNat, UdpEligible item.key.isV6 (packetAt offset s.bufs k) :=
      fun k member => holds.group.eligible _ (List.mem_map_of_mem member)
    have flowN := reading.datagram _ _ (eligible n part)
    have flowHead : reading.flow (packetAt offset s.bufs item.bufsIndex.toNat) =
        reading.flow (packetAt offset s.bufs n) :=
      (udpKeyOf_eq_iff reading (eligible _ opening) (eligible _ part)).mp
        ((holds.key_part opening).trans (holds.key_part part).symm)
    obtain ⟨other, knownOther, partOther⟩ := partition.exists_head (before.trans inside)
    have apart : other ≠ item.bufsIndex.toNat := by
      rintro rfl
      exact ineligible _ (eligible j partOther)
    -- The ineligible datagram leaves either before the first or after the last of the group.
    rcases Nat.lt_or_gt_of_ne apart with earlier | later
    · have wrong := ordered _ other knownOther _ known earlier j partOther _ opening
        (inFlow_iff.mpr (sameFlow.trans flowN)) (inFlow_iff.mpr (flowHead.trans flowN))
      omega
    · have wrong := ordered _ _ known other knownOther later n part j partOther
        (inFlow_iff.mpr flowN) (inFlow_iff.mpr (sameFlow.trans flowN))
      omega
  · intro none flow first known second known' less k part j part' ofFlow ofFlow'
    -- Otherwise `k` was joined to the group of `first` past `j`. Were `j` eligible, its own group
    -- would have been opened no later than that one.
    by_contra notBefore
    have flowK := inFlow_iff.mp ofFlow
    have flowJ := inFlow_iff.mp ofFlow'
    have behind : second ≤ j := by
      by_cases opens : j = second
      · exact opens.ge
      · obtain ⟨item, live, rfl⟩ := ret.inv.udpItem_of_part known' part' flowJ opens
        obtain ⟨-, buf, -, holds⟩ := ret.inv.udpHolds live
        exact holds.head_le part'
    have apart : j ≠ k := by
      rintro rfl
      exact Nat.ne_of_lt less (partition.head_unique known known' part part')
    obtain ⟨item, live, rfl⟩ := ret.inv.udpItem_of_part known part flowK (by omega)
    obtain ⟨inside, joins⟩ := ret.joined fresh nofun live part (by omega)
    refine none k _ (ret.reaches inside.le fresh)
      ⟨_, joins, j, by omega, by omega, flowJ.trans flowK.symm, fun isV6 eligible => ?_⟩
    have passed := ret.head_le_joined fresh inside.le joins known' part' (by omega) eligible
      (flowJ.trans flowK.symm)
    omega

theorem keepsUdpOrder_iff_datagrams : ∃ s',
    handleGro plainHost 10 true (batchOf 200 twoDatagrams) = .ok (s', .ok ()) ∧
      mergedCount s' = 1 ∧ KeepsUdpOrder behindExtensions plainHost 10 (batchOf 200 twoDatagrams) s' := by
  have run : (finalState (handleGro plainHost 10 true (batchOf 200 twoDatagrams))).map
      mergedCount = some 1 := by decide +kernel
  obtain ⟨s', _, ran, merged⟩ := of_finalState_map run
  have fresh := batchOf_fresh 200 twoDatagrams
  refine ⟨s', ran, merged, (keepsUdpOrder_iff behindExtensions plainHost 10 fresh ran).2.mpr ?_⟩
  rintro n state reaches ⟨head, joins, j, behind, before, -⟩
  have inside := (reaches.after fresh (by rw [joins.2]; nofun) (by omega)).1
  have size : (batchOf 200 twoDatagrams).bufs.length = 2 := rfl
  omega

def overtakingDatagrams : List (List UInt8) :=
  [sentUdp true [1, 2], sentUdp true [], sentUdp true [3, 4]]

theorem keepsUdpOrder_overtaken : ∃ s',
    handleGro plainHost 10 true (batchOf 200 overtakingDatagrams) = .ok (s', .ok ()) ∧
      ¬ KeepsUdpOrder behindExtensions plainHost 10 (batchOf 200 overtakingDatagrams) s' := by
  have run : (finalState (handleGro plainHost 10 true (batchOf 200 overtakingDatagrams))).map
      (emissionOrder plainHost 10 true (batchOf 200 overtakingDatagrams)) = some [0, 2, 1] := by
    decide +kernel
  obtain ⟨s', _, ran, order⟩ := of_finalState_map run
  have oneFlow : ∃ flow, ∀ k < 3,
      inFlow behindExtensions 10 (batchOf 200 overtakingDatagrams).bufs flow k = true := by
    refine ⟨⟨srcAddress true (sentUdp true []), dstAddress true (sentUdp true []), 4000, 4001⟩, ?_⟩
    decide +kernel
  obtain ⟨flow, all⟩ := oneFlow
  refine ⟨s', ran, fun ordered => ?_⟩
  have kept := ordered flow
  have size : (batchOf 200 overtakingDatagrams).bufs.length = 3 := rfl
  have written : ∀ k ∈ [0, 2, 1],
      inFlow behindExtensions 10 (batchOf 200 overtakingDatagrams).bufs flow k = true := by
    simpa using ⟨all 0 (by omega), all 2 (by omega), all 1 (by omega)⟩
  rw [order, size, List.filter_eq_self.mpr written,
    List.filter_eq_self.mpr fun k member => all k (List.mem_range.mp member)] at kept
  cases kept

end Order

end QuincyTun.Linux
