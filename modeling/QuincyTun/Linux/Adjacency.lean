import QuincyTun.Linux.CallStates
import QuincyTun.Linux.RoundTrip

/-! Coalescing decisions are made on true adjacency.

The code estimates the length of a stored payload by whole segments. The estimate is
too long once the last segment was a shorter one, but then nothing may be appended.
-/

set_option autoImplicit false

namespace QuincyTun.Linux

open QuincyTun.Foundation

/-- What an item knows about the packet in its buffer. -/
structure Measures (item : TcpGROItem) (cur : List UInt8) : Prop where
  sentSeq : item.sentSeq = tcpSeq item.key.isV6 cur
  gsoSize : 1 ≤ item.gsoSize.toNat
  lower : item.numMerged.toNat * item.gsoSize.toNat < (tcpPayload item.key.isV6 cur).length
  upper : (tcpPayload item.key.isV6 cur).length ≤
    (item.numMerged.toNat + 1) * item.gsoSize.toNat

/-- The packet really follows the payload in the buffer, or really ends where it begins. -/
structure TrulyAdjacent (item : TcpGROItem) (cur pkt : List UInt8) (can : CanCoalesce) :
    Prop where
  append : can = .append → tcpSeq item.key.isV6 pkt =
      item.sentSeq + UInt32.ofNat (tcpPayload item.key.isV6 cur).length ∧
    item.gsoSize.toNat ∣ (tcpPayload item.key.isV6 cur).length
  prepend : can = .prepend →
    tcpSeq item.key.isV6 pkt + UInt32.ofNat (tcpPayload item.key.isV6 pkt).length = item.sentSeq

/-- The payload of a packet is the one of a stretch of the stream, without gaps or overlaps. -/
structure Contiguous (isV6 : Bool) (packets : List (List UInt8)) (cur : List UInt8) : Prop where
  first : ∀ pkt, packets.head? = some pkt → tcpSeq isV6 pkt = tcpSeq isV6 cur
  inSequence : InSequence isV6 packets
  payload : tcpPayload isV6 cur = packets.flatMap (tcpPayload isV6)

section Group

variable {parts : List (List UInt8)} {item : TcpGROItem} {cur pkt : List UInt8}

theorem TcpGroup.measures (group : TcpGroup parts item cur) : Measures item cur := by
  have bounds := group.joined.length_bounds
  rw [group.merged, Nat.add_sub_cancel] at bounds
  exact ⟨group.curSeq.symm, group.gsoSize_pos, bounds.1, bounds.2⟩

theorem Measures.length_of_full (measures : Measures item cur)
    (full : item.gsoSize.toNat ∣ (tcpPayload item.key.isV6 cur).length) :
    (tcpPayload item.key.isV6 cur).length =
      (item.numMerged.toNat + 1) * item.gsoSize.toNat := by
  obtain ⟨count, same⟩ := full
  have lower := measures.lower
  have upper := measures.upper
  rw [same, Nat.mul_comm item.gsoSize.toNat count] at lower upper ⊢
  have more := Nat.lt_of_mul_lt_mul_right lower
  have most := Nat.le_of_mul_le_mul_right upper measures.gsoSize
  rw [Nat.le_antisymm most more]

theorem TcpAppends.follows (measures : Measures item cur)
    (appends : TcpAppends item.key.isV6 pkt item cur) :
    tcpSeq item.key.isV6 pkt = item.sentSeq +
        UInt32.ofNat (tcpPayload item.key.isV6 cur).length ∧
      item.gsoSize.toNat ∣ (tcpPayload item.key.isV6 cur).length := by
  have full := Nat.dvd_of_mod_eq_zero appends.full
  refine ⟨?_, full⟩
  rw [appends.seq, measures.length_of_full full, Nat.succ_mul, Nat.add_comm]

theorem TcpGroup.contiguous (group : TcpGroup parts item cur) :
    Contiguous item.key.isV6 parts cur where
  first := by
    intro pkt front
    have sentSeq := group.seq 0 pkt (by rw [← List.head?_eq_getElem?, front])
    rw [sentSeq, group.curSeq, Nat.zero_mul]
    exact UInt32.add_zero _
  inSequence := group.inSequence
  payload := by
    rw [tcpPayload, group.joined.payload, ← List.flatMap_def]
    refine List.flatMap_congr fun pkt member => ?_
    rw [tcpPayload, (group.sameHeader pkt member).headerLen]

end Group

section Call

variable {host : Host} {offset : Nat} {canUdpGro isV6 : Bool} {s state : GroState}
  {pkt : List UInt8} {segment : TcpSegment} {item : TcpGROItem} {bufs : List ExpandBuffer}

theorem canCoalesce_adjacent {parts : List (List UInt8)} {buf : ExpandBuffer}
    (group : TcpGroup parts item (buf.bytes.drop offset))
    (found : bufs[item.bufsIndex.toNat]? = some buf) (fits : offset ≤ buf.bytes.length)
    (candidate : TcpCandidate canUdpGro item.key.isV6 pkt segment) :
    ∃ can, canCoalesce pkt segment item bufs offset = .ok can ∧
      TrulyAdjacent item (buf.bytes.drop offset) pkt can := by
  obtain ⟨eligible, rfl⟩ := candidate.eligible
  obtain ⟨can, answer, appends, prepends⟩ :=
    tcpPacketsCanCoalesce_spec group (packetFrom_ok found fits) eligible
  exact ⟨can, answer, fun behind => (appends.mp behind).follows group.measures,
    fun front => (prepends.mp front).seq⟩

theorem Grouped.compared {input : List ExpandBuffer} {pktI : Nat} {key : TcpFlowKey}
    {items : List TcpGROItem} {table : TcpGROTable} (grouped : Grouped input offset state)
    (candidate : TcpCandidate canUdpGro isV6 pkt segment)
    (looked : state.tcpTable.lookupOrInsert pkt (srcAddrOffset isV6)
      (srcAddrOffset isV6 + addrLen isV6) segment.iphLen segment.tcphLen pktI =
        .ok (some (key, items), table)) :
    ∀ item ∈ items, item ∈ state.tcpTable.liveItems ∧ item.key.isV6 = isV6 := by
  obtain ⟨eligible, rfl⟩ := candidate.eligible
  have payload := eligible.payload
  have headerLen := eligible.headerLen
  obtain ⟨own, keyed, rest⟩ := Run.bind_eq_ok.mp looked
  have known : TcpFlowKey.new pkt (srcAddrOffset isV6) (srcAddrOffset isV6 + addrLen isV6)
      (ipHLen isV6) = .ok (tcpKeyOf isV6 pkt) := TcpFlowKey.new_eq (by omega)
  obtain rfl := Except.ok.inj (known.symm.trans keyed)
  cases flow : state.tcpTable.itemsByFlow.lookup (tcpKeyOf isV6 pkt) with
  | none =>
    rw [flow] at rest
    obtain ⟨inserted, -, rest⟩ := Run.bind_eq_ok.mp rest
    cases rest
  | some found =>
    rw [flow] at rest
    cases rest
    intro item member
    refine ⟨FlowMap.mem_items.mpr ⟨_, _, flow, member⟩, ?_⟩
    rw [grouped.keyed _ _ flow item member]
    rfl

/-- In every state of a call: items measure their packets, every decision about a candidate rests
on true adjacency, and so no merge has left a gap or an overlap. -/
theorem groReaches_adjacent (host : Host) (offset : Nat) (canUdpGro : Bool)
    (fresh : FreshState s) (reached : GroReaches host offset canUdpGro s state) :
    (∀ isV6 pkt segment pktI key items table, TcpCandidate canUdpGro isV6 pkt segment →
      state.tcpTable.lookupOrInsert pkt (srcAddrOffset isV6) (srcAddrOffset isV6 + addrLen isV6)
        segment.iphLen segment.tcphLen pktI = .ok (some (key, items), table) →
      ∀ item ∈ items, item ∈ state.tcpTable.liveItems ∧ item.key.isV6 = isV6) ∧
    ∀ item ∈ state.tcpTable.liveItems, ∃ buf,
      state.bufs[item.bufsIndex.toNat]? = some buf ∧
      Measures item (buf.bytes.drop offset) ∧
      (∀ pkt segment, TcpCandidate canUdpGro item.key.isV6 pkt segment →
        ∃ can, canCoalesce pkt segment item state.bufs offset = .ok can ∧
          TrulyAdjacent item (buf.bytes.drop offset) pkt can) ∧
      ∃ parts : List Nat, parts.Nodup ∧
        Contiguous item.key.isV6 (parts.map (packetAt offset s.bufs)) (buf.bytes.drop offset) := by
  have grouped := reached.grouped fresh
  constructor
  · intro isV6 pkt segment pktI key items table candidate looked
    exact grouped.compared candidate looked
  · intro item live
    obtain ⟨buf, parts, found, fits, nodup, group⟩ := grouped.carries item live
    exact ⟨buf, found, group.measures,
      fun pkt segment candidate => canCoalesce_adjacent group found fits candidate,
      parts, nodup, group.contiguous⟩

/-- The second segment arrives first: it is put behind the other one. -/
theorem groReaches_adjacent_swapped : ∃ s' item buf,
    GroReaches plainHost 10 true (batchOf 200 swappedSegments) s' ∧
      item ∈ s'.tcpTable.liveItems ∧ item.numMerged = 1 ∧
      s'.bufs[item.bufsIndex.toNat]? = some buf ∧ Measures item (buf.bytes.drop 10) := by
  have run : (finalState (handleGro plainHost 10 true (batchOf 200 swappedSegments))).map
      (fun s => s.tcpTable.liveItems.map TcpGROItem.numMerged) = some [1] := by decide +kernel
  obtain ⟨s', _, ran, counts⟩ := of_finalState_map run
  obtain ⟨item, live, merged⟩ := List.mem_map.mp (counts ▸ List.mem_singleton.mpr rfl)
  have reached := handleGro_reaches ran
  obtain ⟨-, measured⟩ :=
    groReaches_adjacent plainHost 10 true (batchOf_fresh 200 swappedSegments) reached
  obtain ⟨buf, here, measures, -⟩ := measured item live
  exact ⟨s', item, buf, reached, live, merged, here, measures⟩

end Call

end QuincyTun.Linux
