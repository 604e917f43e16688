import QuincyTun.Linux.GroupLength
import QuincyTun.Linux.Push

/-! Batches that carry one transport stream.

When the packets of a batch are the segments of one stream, in order, with sound
checksums and room for all of them, the first packet takes the payload of all others.
-/

set_option autoImplicit false

namespace QuincyTun.Linux

open QuincyTun.Foundation

/-- Packets with sound checksums: full ones, and at most one shorter packet behind them. -/
structure Stream (input : List ExpandBuffer) (offset : Nat) (isV6 : Bool) (protocol : UInt8)
    (size : Nat) : Prop where
  several : 2 ≤ input.length
  room : 2 * offset + groupLength offset input 0 (List.range input.length) ≤ capacityAt input 0
  verifies : ∀ k < input.length, TransportVerifies isV6 protocol (packetAt offset input k)
  full : ∀ k, k + 1 < input.length → (payloadOf (packetAt offset input k)).length = size
  small : ∀ k < input.length, (payloadOf (packetAt offset input k)).length ≤ size

structure TcpStream (input : List ExpandBuffer) (offset : Nat) (isV6 : Bool) (size : Nat) : Prop
    extends Stream input offset isV6 ipProtoTcp size where
  eligible : ∀ k < input.length, TcpEligible isV6 (packetAt offset input k)
  sameHeader : ∀ k < input.length,
    SameTcpHeader isV6 (packetAt offset input k) (packetAt offset input 0)
  seq : ∀ k < input.length, tcpSeq isV6 (packetAt offset input k) =
    tcpSeq isV6 (packetAt offset input 0) + UInt32.ofNat (k * size)
  noPsh : ∀ k, k + 1 < input.length → tcpFlags isV6 (packetAt offset input k) = tcpFlagAck

structure UdpStream (input : List ExpandBuffer) (offset : Nat) (isV6 : Bool) (size : Nat) : Prop
    extends Stream input offset isV6 ipProtoUdp size where
  eligible : ∀ k < input.length, UdpEligible isV6 (packetAt offset input k)
  sameHeader : ∀ k < input.length,
    SameUdpHeader isV6 (packetAt offset input k) (packetAt offset input 0)

/-! ## Lengths -/

section Lengths

variable {input : List ExpandBuffer} {offset m : Nat} {isV6 : Bool} {protocol : UInt8}
  {size : Nat}

theorem groupLength_range_succ (offset : Nat) (input : List ExpandBuffer) (head m : Nat) :
    groupLength offset input head (List.range (m + 1)) =
      groupLength offset input head (List.range m) + (payloadOf (packetAt offset input m)).length :=
  groupLength_perm (List.range_succ ▸ List.perm_append_singleton m (List.range m))

theorem groupLength_range_mono (offset : Nat) (input : List ExpandBuffer) (head : Nat) {m n : Nat}
    (fewer : m ≤ n) :
    groupLength offset input head (List.range m) ≤ groupLength offset input head (List.range n) := by
  induction n, fewer using Nat.le_induction with
  | base => exact le_rfl
  | succ n _ ih =>
    rw [groupLength_range_succ]
    exact ih.trans (Nat.le_add_right ..)

theorem Stream.room_next (stream : Stream input offset isV6 protocol size)
    (inside : m < input.length) :
    2 * offset + (groupLength offset input 0 (List.range m) +
      (payloadOf (packetAt offset input m)).length) ≤ capacityAt input 0 := by
  have more := groupLength_range_mono offset input 0 (Nat.succ_le_of_lt inside)
  rw [groupLength_range_succ] at more
  have room := stream.room
  omega

theorem Stream.length_payloads (stream : Stream input offset isV6 protocol size)
    (inside : m < input.length) :
    ((List.range m).map fun k => (payloadOf (packetAt offset input k)).length).sum = m * size := by
  have same : ((List.range m).map fun k => (payloadOf (packetAt offset input k)).length) =
      (List.range m).map fun _ => size :=
    List.map_congr_left fun k before => stream.full k (by have := List.mem_range.mp before; omega)
  rw [same]
  simp

end Lengths

/-! ## The first packet -/

section Opening

variable {host : Host} {offset : Nat} {canUdpGro isV6 : Bool} {s : GroState} {own : ExpandBuffer}

theorem groStateAt_one_tcp (host : Host) (canUdpGro : Bool) (fresh : FreshState s)
    (here : s.bufs[0]? = some own) (room : virtioNetHdrLen ≤ offset)
    (long : offset < own.bytes.length) (eligible : TcpEligible isV6 (own.bytes.drop offset)) :
    groStateAt host offset canUdpGro 1 s = { s with
      tcpTable := s.tcpTable.push (tcpKeyOf isV6 (own.bytes.drop offset))
        (tcpItemOf isV6 (own.bytes.drop offset) 0)
      toWrite := s.toWrite ++ [0] } := by
  have kind := (packetIsGroCandidate_kind _ canUdpGro isV6 ipProtoTcp).mpr
    ⟨eligible.candidate, .inl rfl⟩
  have absent : s.tcpTable.itemsByFlow.lookup (tcpKeyOf isV6 (own.bytes.drop offset)) = none := by
    rw [fresh.tcp.noFlow]
    rfl
  have step : groStep host offset canUdpGro 0 s = .ok ({ s with
      tcpTable := s.tcpTable.push (tcpKeyOf isV6 (own.bytes.drop offset))
        (tcpItemOf isV6 (own.bytes.drop offset) 0)
      toWrite := s.toWrite ++ [0] }, .ok ()) := by
    unfold groStep
    rw [index_ok here, Run.ok_bind, if_neg (by omega), sliceFrom_ok long.le, Run.ok_bind,
      groDispatch_tcp kind, tcpGro_new here long.le eligible (by decide) absent]
    rfl
  rw [groStateAt, groLoop, groLoop]
  simp only [Run.pure_eq_ok, Run.ok_bind, step]

theorem groStateAt_one_udp (host : Host) (fresh : FreshState s) (here : s.bufs[0]? = some own)
    (room : virtioNetHdrLen ≤ offset) (long : offset < own.bytes.length)
    (eligible : UdpEligible isV6 (own.bytes.drop offset)) :
    groStateAt host offset true 1 s = { s with
      udpTable := s.udpTable.push (udpKeyOf isV6 (own.bytes.drop offset))
        (udpItemOf isV6 (own.bytes.drop offset) 0 false)
      toWrite := s.toWrite ++ [0] } := by
  have kind := (packetIsGroCandidate_kind _ true isV6 ipProtoUdp).mpr
    ⟨eligible.candidate, .inr ⟨rfl, rfl⟩⟩
  have absent : s.udpTable.itemsByFlow.lookup (udpKeyOf isV6 (own.bytes.drop offset)) = none := by
    rw [fresh.udp.noFlow]
    rfl
  have step : groStep host offset true 0 s = .ok ({ s with
      udpTable := s.udpTable.push (udpKeyOf isV6 (own.bytes.drop offset))
        (udpItemOf isV6 (own.bytes.drop offset) 0 false)
      toWrite := s.toWrite ++ [0] }, .ok ()) := by
    unfold groStep
    rw [index_ok here, Run.ok_bind, if_neg (by omega), sliceFrom_ok long.le, Run.ok_bind,
      groDispatch_udp kind, udpGro_new here long.le eligible (by decide) absent]
    rfl
  rw [groStateAt, groLoop, groLoop]
  simp only [Run.pure_eq_ok, Run.ok_bind, step]

end Opening

/-! ## One group -/

section Group

variable {host : Host} {input : List ExpandBuffer} {offset m size : Nat} {canUdpGro isV6 : Bool}
  {s state : GroState} {groups : Grouping}

theorem GroInv.live_le_one (inv : GroInv input offset canUdpGro m state groups)
    (one : groups.OneGroup m) : (liveIndices state).length ≤ 1 := by
  have known : liveIndices state ⊆ groups.heads := fun k live => inv.known live
  have bound := (List.subperm_of_subset inv.distinct known).length_le
  rwa [one.heads] at bound

/-- The only TCP item of a table is alone in its flow. -/
theorem GroInv.tcp_only (inv : GroInv input offset canUdpGro m state groups)
    (one : groups.OneGroup m) {item : TcpGROItem} (live : item ∈ state.tcpTable.liveItems) :
    state.tcpTable.itemsByFlow.lookup item.key = some [item] ∧ item.bufsIndex.toNat = 0 := by
  have few := inv.live_le_one one
  rw [liveIndices, List.length_append, List.length_map] at few
  obtain ⟨key, found⟩ := FlowMap.lookup_of_single live (by
    change state.tcpTable.liveItems.length ≤ 1
    omega)
  have known := (inv.tcpHolds live).1
  rw [one.heads] at known
  rw [inv.tcp.stored key [item] found item List.mem_cons_self]
  exact ⟨found, List.mem_singleton.mp known⟩

theorem GroInv.udp_only (inv : GroInv input offset canUdpGro m state groups)
    (one : groups.OneGroup m) {item : UdpGROItem} (live : item ∈ state.udpTable.liveItems) :
    state.udpTable.itemsByFlow.lookup item.key = some [item] ∧ item.bufsIndex.toNat = 0 := by
  have few := inv.live_le_one one
  rw [liveIndices, List.length_append, List.length_map, List.length_map] at few
  obtain ⟨key, found⟩ := FlowMap.lookup_of_single live (by
    change state.udpTable.liveItems.length ≤ 1
    omega)
  have known := (inv.udpHolds live).1
  rw [one.heads] at known
  rw [(inv.udp.stored key [item] found).keys item List.mem_cons_self]
  exact ⟨found, List.mem_singleton.mp known⟩

theorem GroInv.mergedAt_zero (inv : GroInv input offset canUdpGro m state groups)
    (one : groups.OneGroup m) (several : 2 ≤ m) : MergedAt state 0 ∧ 0 ∈ groups.parts 0 := by
  refine ⟨(inv.mergedAt_iff 0).mpr ⟨?_, ?_⟩, ?_⟩
  · rw [one.heads]
    exact List.mem_singleton_self 0
  · rw [one.parts, List.length_range]
    exact several
  · rw [one.parts]
    exact List.mem_range.mpr (by omega)

theorem GroInv.merged_tcp (inv : GroInv input offset canUdpGro m state groups)
    (one : groups.OneGroup m) (several : 2 ≤ m)
    (eligible : TcpEligible isV6 (packetAt offset input 0)) :
    ∃ item ∈ state.tcpTable.liveItems, item.numMerged > 0 := by
  obtain ⟨⟨item, live, -, merged⟩ | ⟨item, live, here, -⟩, opening⟩ := inv.mergedAt_zero one several
  · exact ⟨item, live, merged⟩
  · obtain ⟨-, buf, -, holds⟩ := inv.udpHolds live
    rw [here] at holds
    exact absurd eligible
      (UdpEligible.not_tcp (holds.group.eligible _ (List.mem_map_of_mem opening)))

theorem GroInv.merged_udp (inv : GroInv input offset canUdpGro m state groups)
    (one : groups.OneGroup m) (several : 2 ≤ m)
    (eligible : UdpEligible isV6 (packetAt offset input 0)) :
    ∃ item ∈ state.udpTable.liveItems, item.numMerged > 0 := by
  obtain ⟨⟨item, live, here, -⟩ | ⟨item, live, -, merged⟩, opening⟩ := inv.mergedAt_zero one several
  · obtain ⟨-, buf, -, holds⟩ := inv.tcpHolds live
    rw [here] at holds
    exact absurd (holds.group.eligible _ (List.mem_map_of_mem opening))
      (UdpEligible.not_tcp eligible)
  · exact ⟨item, live, merged⟩

end Group

/-! ## Every packet joins the first -/

theorem capacityAt_eq {bufs : List ExpandBuffer} {i capacity : Nat}
    (found : bufs[i]?.map ExpandBuffer.capacity = some capacity) : capacityAt bufs i = capacity := by
  obtain ⟨buf, here, rfl⟩ := Option.map_eq_some_iff.mp found
  exact capacityAt_of_getElem? here

theorem head?_range_pos {m : Nat} (positive : 0 < m) : (List.range m).head? = some 0 := by
  rw [List.head?_range, if_neg (by omega)]

theorem mem_packets_zero {input : List ExpandBuffer} {offset m : Nat} (positive : 0 < m) :
    packetAt offset input 0 ∈ (List.range m).map (packetAt offset input) :=
  List.mem_map_of_mem (List.mem_range.mpr positive)

section Held

variable {input : List ExpandBuffer} {offset m size : Nat} {isV6 : Bool} {buf : ExpandBuffer}

theorem Stream.verifies_held {protocol : UInt8} (stream : Stream input offset isV6 protocol size)
    (positive : 0 < m)
    (untouched : (List.range m).map (packetAt offset input) = [buf.bytes.drop offset]) :
    TransportVerifies isV6 protocol (buf.bytes.drop offset) := by
  have several := stream.several
  have opening : packetAt offset input 0 ∈ (List.range m).map (packetAt offset input) :=
    mem_packets_zero positive
  rw [untouched, List.mem_singleton] at opening
  exact opening ▸ stream.verifies 0 (by omega)

theorem TcpStream.isV6_held {item : TcpGROItem} (stream : TcpStream input offset isV6 size)
    (holds : TcpHolds input offset item (List.range m) buf) (positive : 0 < m) :
    item.key.isV6 = isV6 := by
  have several := stream.several
  exact isV6_unique (holds.group.eligible _ (mem_packets_zero positive)).candidate.version
    (stream.eligible 0 (by omega)).candidate.version

theorem TcpStream.sameHeader_held {item : TcpGROItem} (stream : TcpStream input offset isV6 size)
    (holds : TcpHolds input offset item (List.range m) buf) (positive : 0 < m)
    (inside : m < input.length) :
    SameTcpHeader isV6 (packetAt offset input m) (buf.bytes.drop offset) := by
  obtain rfl := stream.isV6_held holds positive
  exact (stream.sameHeader m inside).trans (holds.group.sameHeader _ (mem_packets_zero positive))

theorem UdpStream.isV6_held {item : UdpGROItem} (stream : UdpStream input offset isV6 size)
    (holds : UdpHolds input offset item (List.range m) buf) (positive : 0 < m) :
    item.key.isV6 = isV6 := by
  have several := stream.several
  exact isV6_unique (holds.group.eligible _ (mem_packets_zero positive)).candidate.version
    (stream.eligible 0 (by omega)).candidate.version

theorem UdpStream.sameHeader_held {item : UdpGROItem} (stream : UdpStream input offset isV6 size)
    (holds : UdpHolds input offset item (List.range m) buf) (positive : 0 < m)
    (inside : m < input.length) :
    SameUdpHeader isV6 (packetAt offset input m) (buf.bytes.drop offset) := by
  obtain rfl := stream.isV6_held holds positive
  exact (stream.sameHeader m inside).trans (holds.group.sameHeader _ (mem_packets_zero positive))

theorem TcpStream.appends {item : TcpGROItem} (stream : TcpStream input offset isV6 item.gsoSize.toNat)
    (holds : TcpHolds input offset item (List.range m) buf) (positive : 0 < m)
    (inside : m < input.length) :
    TcpAppends isV6 (packetAt offset input m) item (buf.bytes.drop offset) := by
  obtain rfl := stream.isV6_held holds positive
  have header := stream.sameHeader_held holds positive inside
  have eligible := stream.eligible m inside
  have merged : item.numMerged.toNat + 1 = m := by
    rw [← holds.length_parts, List.length_range]
  refine ⟨header.headerLen, header.options, ?_, ?_, ?_, ?_, ?_⟩
  · have := holds.group.headers_lt
    have := eligible.payload
    have := twenty_le_ipHLen item.key.isV6
    exact ipHeadersCanCoalesce_complete header.toSameIpHeader eligible.candidate.version
      (by omega) (by omega)
  · have first : ((List.range m).map (packetAt offset input))[0]? =
        some (packetAt offset input 0) := by
      rw [List.getElem?_map, List.getElem?_range positive, Option.map_some]
    have start : tcpSeq item.key.isV6 (packetAt offset input 0) = item.sentSeq := by
      simpa using holds.group.seq 0 _ first
    rw [stream.seq m inside, start, ← merged, Nat.add_one_mul, Nat.add_comm]
  · have last : (List.range m).getLast? = some (m - 1) := by
      rw [List.getLast?_range, if_neg (by omega)]
    rw [← holds.tcpPsh_last last]
    exact tcpPsh_of_ack (stream.noPsh (m - 1) (by omega))
  · rw [holds.length_payload, stream.length_payloads inside, Nat.mul_mod_left]
  · rw [← eligible.payloadOf]
    exact stream.small m inside

theorem UdpStream.appends {item : UdpGROItem} (stream : UdpStream input offset isV6 item.gsoSize.toNat)
    (holds : UdpHolds input offset item (List.range m) buf) (positive : 0 < m)
    (inside : m < input.length) :
    UdpAppends isV6 (packetAt offset input m) item (buf.bytes.drop offset) := by
  obtain rfl := stream.isV6_held holds positive
  have header := stream.sameHeader_held holds positive inside
  have eligible := stream.eligible m inside
  refine ⟨?_, ?_, ?_⟩
  · have := holds.group.headers_lt
    have := eligible.payload
    have := twenty_le_ipHLen item.key.isV6
    exact ipHeadersCanCoalesce_complete header.toSameIpHeader eligible.candidate.version
      (by omega) (by omega)
  · rw [holds.length_payload, stream.length_payloads inside, Nat.mul_mod_left]
  · rw [← eligible.payloadOf]
    exact stream.small m inside

theorem TcpStream.room_held {item : TcpGROItem} (stream : TcpStream input offset isV6 size)
    (holds : TcpHolds input offset item (List.range m) buf) (positive : 0 < m)
    (inside : m < input.length) :
    2 * offset + tcpJoinedLen isV6 (buf.bytes.drop offset) (packetAt offset input m) ≤
      buf.capacity := by
  obtain rfl := stream.isV6_held holds positive
  have header := stream.sameHeader_held holds positive inside
  have eligible := stream.eligible m inside
  have payload : (payloadOf (packetAt offset input m)).length = (packetAt offset input m).length -
      (ipHLen item.key.isV6 + tcpHLen item.key.isV6 (buf.bytes.drop offset)) := by
    rw [eligible.payloadOf, tcpPayload, List.length_drop, header.headerLen]
  have nonempty := header.headerLen ▸ eligible.payload
  have next := stream.room_next inside
  rw [← holds.length_eq (List.mem_range.mpr positive), payload,
    capacityAt_eq (holds.storage 0 (head?_range_pos positive))] at next
  rw [tcpJoinedLen]
  omega

theorem UdpStream.room_held {item : UdpGROItem} (stream : UdpStream input offset isV6 size)
    (holds : UdpHolds input offset item (List.range m) buf) (zero : item.bufsIndex.toNat = 0)
    (positive : 0 < m) (inside : m < input.length) :
    offset * 2 + udpJoinedLen isV6 (buf.bytes.drop offset) (packetAt offset input m) ≤
      buf.capacity := by
  obtain rfl := stream.isV6_held holds positive
  have header := stream.sameHeader_held holds positive inside
  have eligible := stream.eligible m inside
  have payload : (payloadOf (packetAt offset input m)).length =
      (packetAt offset input m).length - (ipHLen item.key.isV6 + udpHLen) := by
    rw [eligible.payloadOf, udpPayload, List.length_drop]
  have nonempty := eligible.payload
  have next := stream.room_next inside
  rw [← holds.length_eq (List.mem_range.mpr positive), payload,
    capacityAt_eq (zero ▸ holds.storage)] at next
  rw [udpJoinedLen]
  omega

end Held

section Joins

variable {host : Host} {offset m size : Nat} {canUdpGro isV6 : Bool} {s : GroState}

/-- The segments so far are in one item, whose segment size is that of the stream. -/
theorem TcpStream.item (stream : TcpStream s.bufs offset isV6 size) (fresh : FreshState s)
    (valid : ValidBatch s.bufs offset s.bufs.length) (positive : 0 < m) (inside : m ≤ s.bufs.length)
    (one : (groGroups host offset canUdpGro s m).OneGroup m) :
    ∃ item ∈ (groStateAt host offset canUdpGro m s).tcpTable.liveItems,
      item.gsoSize.toNat = size := by
  have several := stream.several
  have inv := groStateAt_inv host canUdpGro fresh valid inside
  have opening := stream.eligible 0 (by omega)
  have full := stream.full 0 (by omega)
  by_cases first : m = 1
  · -- The item was just made from the first packet.
    subst first
    have here : s.bufs[0]? = some s.bufs[0] := List.getElem?_eq_getElem (by omega)
    obtain ⟨room, long⟩ := valid.room 0 _ (by omega) here
    rw [packetAt_of_getElem? here] at opening full
    have tidy : s.tcpTable.Tidy TcpKeyed := fresh.tcp.tidy
    rw [groStateAt_one_tcp host canUdpGro fresh here room long opening]
    refine ⟨_, (tidy.liveItems_push _ _).mem_iff.mpr List.mem_cons_self, ?_⟩
    rw [← full, opening.payloadOf]
    exact opening.toNat_gsoSize
  · obtain ⟨item, live, -⟩ := inv.merged_tcp one (by omega) opening
    obtain ⟨-, zero⟩ := inv.tcp_only one live
    obtain ⟨-, buf, -, holds⟩ := inv.tcpHolds live
    rw [zero, one.parts] at holds
    refine ⟨item, live, ?_⟩
    rw [← holds.length_first (head?_range_pos positive) (by rw [List.length_range]; omega), full]

theorem UdpStream.item (stream : UdpStream s.bufs offset isV6 size) (fresh : FreshState s)
    (valid : ValidBatch s.bufs offset s.bufs.length) (positive : 0 < m) (inside : m ≤ s.bufs.length)
    (one : (groGroups host offset true s m).OneGroup m) :
    ∃ item ∈ (groStateAt host offset true m s).udpTable.liveItems,
      item.gsoSize.toNat = size ∧ (item.numMerged = 0 → item.cSumKnownInvalid = false) := by
  have several := stream.several
  have inv := groStateAt_inv host true fresh valid inside
  have opening := stream.eligible 0 (by omega)
  have full := stream.full 0 (by omega)
  by_cases first : m = 1
  · subst first
    have here : s.bufs[0]? = some s.bufs[0] := List.getElem?_eq_getElem (by omega)
    obtain ⟨room, long⟩ := valid.room 0 _ (by omega) here
    rw [packetAt_of_getElem? here] at opening full
    have tidy : s.udpTable.Tidy UdpKeyed := fresh.udp.tidy
    rw [groStateAt_one_udp host fresh here room long opening]
    refine ⟨_, (tidy.liveItems_push _ _).mem_iff.mpr List.mem_cons_self, ?_, fun _ => rfl⟩
    rw [← full, opening.payloadOf]
    exact opening.toNat_gsoSize
  · obtain ⟨item, live, merged⟩ := inv.merged_udp one (by omega) opening
    obtain ⟨-, zero⟩ := inv.udp_only one live
    obtain ⟨-, buf, -, holds⟩ := inv.udpHolds live
    rw [zero, one.parts] at holds
    refine ⟨item, live, ?_, fun single => absurd single (UInt16.pos_iff_ne_zero.mp merged)⟩
    rw [← holds.length_first (head?_range_pos positive) (by rw [List.length_range]; omega), full]

theorem TcpStream.joins (stream : TcpStream s.bufs offset isV6 size) (fresh : FreshState s)
    (valid : ValidBatch s.bufs offset s.bufs.length) (positive : 0 < m) (inside : m < s.bufs.length)
    (one : (groGroups host offset canUdpGro s m).OneGroup m) :
    groMove offset canUdpGro m (groStateAt host offset canUdpGro m s) = .append 0 := by
  have inv := groStateAt_inv host canUdpGro fresh valid inside.le
  obtain ⟨item, live, rfl⟩ := stream.item fresh valid positive inside.le one
  obtain ⟨stored, zero⟩ := inv.tcp_only one live
  obtain ⟨-, buf, found, holds⟩ := inv.tcpHolds live
  rw [zero, one.parts] at holds
  have eligible := stream.eligible m inside
  have verifies := stream.verifies m inside
  have appends := stream.appends holds positive inside
  have room := stream.room_held holds positive inside
  obtain rfl := stream.isV6_held holds positive
  have header := stream.sameHeader_held holds positive inside
  have key : tcpKeyOf item.key.isV6 (packetAt offset s.bufs m) = item.key :=
    (tcpKeyOf_congr header).trans holds.group.key
  have opened : item.numMerged = 0 →
      TransportVerifies item.key.isV6 ipProtoTcp (buf.bytes.drop offset) :=
    fun single => stream.verifies_held positive (holds.group.untouched single)
  have answer := tcpTakes_of_appends holds.group found holds.offset_le eligible appends m
  rw [if_pos ⟨room, fun bad => bad.2 (opened bad.1), verifies⟩, zero] at answer
  -- The packet is still as it arrived, and its flow has that one item.
  have same : packetAt offset (groStateAt host offset canUdpGro m s).bufs m =
      packetAt offset s.bufs m := packetAt_congr (inv.batch.pending m le_rfl)
  have kind := (packetIsGroCandidate_kind (packetAt offset s.bufs m) canUdpGro item.key.isV6
    ipProtoTcp).mpr ⟨eligible.candidate, .inl rfl⟩
  obtain ⟨segment, parsed, ⟨-, rfl⟩ | ⟨missing, -⟩⟩ := parseTcp_spec eligible.candidate
  · rw [groMove_tcp (same.symm ▸ kind), same, tcpMove, parsed, key, stored]
    simp [answer]
  · exact absurd eligible missing

theorem UdpStream.joins (stream : UdpStream s.bufs offset isV6 size) (fresh : FreshState s)
    (valid : ValidBatch s.bufs offset s.bufs.length) (positive : 0 < m) (inside : m < s.bufs.length)
    (one : (groGroups host offset true s m).OneGroup m) :
    groMove offset true m (groStateAt host offset true m s) = .append 0 := by
  have inv := groStateAt_inv host true fresh valid inside.le
  obtain ⟨item, live, rfl, known⟩ := stream.item fresh valid positive inside.le one
  obtain ⟨stored, zero⟩ := inv.udp_only one live
  obtain ⟨-, buf, found, holds⟩ := inv.udpHolds live
  rw [zero, one.parts] at holds
  have eligible := stream.eligible m inside
  have verifies := stream.verifies m inside
  have appends := stream.appends holds positive inside
  have room := stream.room_held holds zero positive inside
  obtain rfl := stream.isV6_held holds positive
  have header := stream.sameHeader_held holds positive inside
  have key : udpKeyOf item.key.isV6 (packetAt offset s.bufs m) = item.key :=
    (udpKeyOf_congr header).trans holds.group.key
  -- The source checks the head itself when the first packet is joined to it.
  have opened : item.numMerged = 0 →
      TransportVerifies item.key.isV6 ipProtoUdp (buf.bytes.drop offset) :=
    fun single => stream.verifies_held positive (holds.group.untouched single)
  have answer := udpTakes_of_appends holds.group found holds.offset_le eligible appends
  have sound : ¬ (item.numMerged = 0 ∧ (item.cSumKnownInvalid = true ∨
      ¬ TransportVerifies item.key.isV6 ipProtoUdp (buf.bytes.drop offset))) := by
    rintro ⟨single, wrong | wrong⟩
    · rw [known single] at wrong
      cases wrong
    · exact wrong (opened single)
  rw [if_pos ⟨room, sound, verifies⟩, zero] at answer
  have same : packetAt offset (groStateAt host offset true m s).bufs m =
      packetAt offset s.bufs m := packetAt_congr (inv.batch.pending m le_rfl)
  have kind := (packetIsGroCandidate_kind (packetAt offset s.bufs m) true item.key.isV6
    ipProtoUdp).mpr ⟨eligible.candidate, .inr ⟨rfl, rfl⟩⟩
  obtain ⟨datagram, parsed, ⟨-, rfl⟩ | ⟨missing, -⟩⟩ := parseUdp_spec eligible.candidate
  · rw [groMove_udp (same.symm ▸ kind), same, udpMove, parsed, key, stored]
    simp [answer]
  · exact absurd eligible missing

theorem TcpStream.oneGroup (host : Host) (canUdpGro : Bool)
    (stream : TcpStream s.bufs offset isV6 size) (fresh : FreshState s)
    (valid : ValidBatch s.bufs offset s.bufs.length) :
    (groGroups host offset canUdpGro s s.bufs.length).OneGroup s.bufs.length := by
  have several := stream.several
  exact groGroups_oneGroup host canUdpGro fresh valid (by omega)
    fun _ positive inside one => stream.joins fresh valid positive inside one

theorem UdpStream.oneGroup (host : Host) (stream : UdpStream s.bufs offset isV6 size)
    (fresh : FreshState s) (valid : ValidBatch s.bufs offset s.bufs.length) :
    (groGroups host offset true s s.bufs.length).OneGroup s.bufs.length := by
  have several := stream.several
  exact groGroups_oneGroup host true fresh valid (by omega)
    fun _ positive inside one => stream.joins fresh valid positive inside one

end Joins

/-! ## A datagram that is sent again and again -/

section Sent

variable {isV6 : Bool} {payload : List UInt8} {capacity n k : Nat}

theorem packetAt_sentUdp (inside : k < n) : packetAt virtioNetHdrLen
    (batchOf capacity (List.replicate n (sentUdp isV6 payload))).bufs k = sentUdp isV6 payload :=
  packetAt_batchOf (List.getElem?_replicate_of_lt inside)

theorem length_payloadOf_sentUdp (nonempty : payload ≠ [])
    (short : ipHLen isV6 + udpHLen + payload.length ≤ 65535) :
    (payloadOf (sentUdp isV6 payload)).length = payload.length := by
  rw [(sentUdp_eligible nonempty short).payloadOf, udpPayload, List.length_drop, length_sentUdp,
    Nat.add_sub_cancel_left]

theorem groupLength_sentUdp (several : 2 ≤ n) (nonempty : payload ≠ [])
    (short : ipHLen isV6 + udpHLen + payload.length ≤ 65535) :
    groupLength virtioNetHdrLen
        (batchOf capacity (List.replicate n (sentUdp isV6 payload))).bufs 0 (List.range n) =
      ipHLen isV6 + udpHLen + n * payload.length := by
  have len := length_payloadOf_sentUdp nonempty short
  have same : ((List.range n).map fun k => (payloadOf (packetAt virtioNetHdrLen
      (batchOf capacity (List.replicate n (sentUdp isV6 payload))).bufs k)).length) =
        (List.range n).map fun _ => payload.length :=
    List.map_congr_left fun k before => by
      rw [packetAt_sentUdp (List.mem_range.mp before), len]
  rw [groupLength, same, packetAt_sentUdp (by omega), len, length_sentUdp, Nat.add_sub_cancel]
  simp

theorem sentUdp_stream (several : 2 ≤ n) (nonempty : payload ≠ [])
    (short : ipHLen isV6 + udpHLen + payload.length ≤ 65535)
    (room : 2 * virtioNetHdrLen + (ipHLen isV6 + udpHLen + n * payload.length) ≤ capacity) :
    UdpStream (batchOf capacity (List.replicate n (sentUdp isV6 payload))).bufs virtioNetHdrLen isV6
      payload.length := by
  have count : (batchOf capacity (List.replicate n (sentUdp isV6 payload))).bufs.length = n := by
    rw [batchOf, List.length_map, List.length_replicate]
  have len := length_payloadOf_sentUdp nonempty short
  have total := @groupLength_sentUdp _ _ capacity _ several nonempty short
  have packet := fun k (inside : k < n) => @packetAt_sentUdp isV6 payload capacity n k inside
  have enough : capacity ≤
      capacityAt (batchOf capacity (List.replicate n (sentUdp isV6 payload))).bufs 0 := by
    have here : (batchOf capacity (List.replicate n (sentUdp isV6 payload))).bufs[0]? =
        some (bufferOf capacity (sentUdp isV6 payload)) := by
      rw [batchOf, List.getElem?_map, List.getElem?_replicate_of_lt (by omega), Option.map_some]
    rw [capacityAt_of_getElem? here]
    exact Nat.le_max_left ..
  generalize (batchOf capacity (List.replicate n (sentUdp isV6 payload))).bufs = input at *
  subst count
  refine ⟨⟨several, ?_, ?_, ?_, ?_⟩, ?_, ?_⟩
  · omega
  · intro k inside
    rw [packet k inside]
    exact (sentUdp_wellFormed short).transport
  · intro k inside
    rw [packet k (by omega), len]
  · intro k inside
    rw [packet k inside, len]
  · intro k inside
    rw [packet k inside]
    exact sentUdp_eligible nonempty short
  · intro k inside
    rw [packet k inside, packet 0 (by omega)]
    exact .refl isV6 _

end Sent

end QuincyTun.Linux
