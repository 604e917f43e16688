import QuincyTun.Linux.Conservation
import QuincyTun.Linux.Reached

/-! The datagrams that are joined in a call.

A datagram joins the last item of its flow. Its group is still there when the loop
ends, and every member of a UDP group but the first came there in this way.
-/

set_option autoImplicit false

namespace QuincyTun.Linux

open QuincyTun.Foundation

/-- The next packet is a datagram, and it joins the packet at `head`. -/
def JoinsDatagram (offset : Nat) (canUdpGro : Bool) (n : Nat) (s : GroState) (head : Nat) : Prop :=
  (∃ isV6, (packetIsGroCandidate (packetAt offset s.bufs n) canUdpGro).kind =
      some (isV6, ipProtoUdp)) ∧
    groMove offset canUdpGro n s = .append head

instance (offset : Nat) (canUdpGro : Bool) (n : Nat) (s : GroState) (head : Nat) :
    Decidable (JoinsDatagram offset canUdpGro n s head) := inferInstanceAs (Decidable (_ ∧ _))

section Move

variable {bufs : List ExpandBuffer} {offset n head : Nat} {canUdpGro isV6 : Bool} {s : GroState}
  {pkt : List UInt8}

theorem udpMove_append {table : UdpGROTable}
    (move : udpMove offset bufs pkt table isV6 = .append head) :
    ∃ datagram items item, parseUdp pkt isV6 = .ok (some datagram) ∧
      table.itemsByFlow.lookup (udpKeyOf isV6 pkt) = some items ∧ items.getLast? = some item ∧
      item.bufsIndex.toNat = head := by
  unfold udpMove at move
  split at move
  case h_1 datagram items parsed stored =>
    cases last : items.getLast? with
    | none =>
      rw [last] at move
      cases move
    | some item =>
      refine ⟨datagram, items, item, parsed, stored, last, ?_⟩
      rw [last] at move
      simp only [Option.bind_some, udpTakes] at move
      split at move
      · split at move
        · cases move
          rfl
        · cases move
      · cases move
  case h_2 => cases move

theorem JoinsDatagram.last (joins : JoinsDatagram offset canUdpGro n s head) :
    ∃ isV6 items item, UdpEligible isV6 (packetAt offset s.bufs n) ∧
      s.udpTable.itemsByFlow.lookup (udpKeyOf isV6 (packetAt offset s.bufs n)) = some items ∧
      items.getLast? = some item ∧ item.bufsIndex.toNat = head := by
  obtain ⟨⟨isV6, kind⟩, move⟩ := joins
  rw [groMove_udp kind] at move
  obtain ⟨datagram, items, item, parsed, stored, last, here⟩ := udpMove_append move
  have candidate := ((packetIsGroCandidate_kind ..).mp kind).1
  obtain ⟨found, ran, ⟨eligible, -⟩ | ⟨-, rfl⟩⟩ := parseUdp_spec candidate
  · exact ⟨isV6, items, item, eligible, stored, last, here⟩
  · cases parsed.symm.trans ran

end Move

section Call

variable {host : Host} {offset n k head : Nat} {canUdpGro : Bool} {s final s' state : GroState}
  {item : UdpGROItem}

theorem Returns.reaches (ret : Returns host offset canUdpGro s final s')
    (inside : n ≤ s.bufs.length) (fresh : FreshState s) :
    LoopReaches host offset canUdpGro s n (groStateAt host offset canUdpGro n s) := by
  obtain ⟨state, ran, -⟩ := groLoop_spec host canUdpGro fresh n inside (ret.valid.mono inside)
  refine ⟨ret.valid.few, ?_⟩
  rw [groStateAt, ran]

theorem Returns.joined (ret : Returns host offset canUdpGro s final s') (fresh : FreshState s)
    (udpOnly : canUdpGro = false → final.udpTable.liveItems = [])
    (live : item ∈ final.udpTable.liveItems)
    (part : k ∈ (groGroups host offset canUdpGro s s.bufs.length).parts item.bufsIndex.toNat)
    (apart : k ≠ item.bufsIndex.toNat) :
    k < s.bufs.length ∧ JoinsDatagram offset canUdpGro k (groStateAt host offset canUdpGro k s)
      item.bufsIndex.toNat := by
  obtain ⟨known, buf, -, holds⟩ := ret.inv.udpHolds live
  have inside := ret.inv.batch.partition.part_lt known part
  have eligible : UdpEligible item.key.isV6 (packetAt offset s.bufs k) :=
    holds.group.eligible _ (List.mem_map_of_mem part)
  have can : canUdpGro = true := by
    by_contra cannot
    rw [udpOnly (Bool.not_eq_true _ ▸ cannot)] at live
    cases live
  have before := (ret.reaches inside.le fresh).inv fresh
  have same : packetAt offset (groStateAt host offset canUdpGro k s).bufs k =
      packetAt offset s.bufs k := packetAt_congr (before.batch.pending k le_rfl)
  have kind := (packetIsGroCandidate_kind _ canUdpGro item.key.isV6 ipProtoUdp).mpr
    ⟨eligible.candidate, .inr ⟨rfl, can⟩⟩
  rw [← same] at kind
  rw [groGroups_eq_run] at known part
  rcases Grouping.run_joined (groGroups_partition host canUdpGro fresh ret.valid) known part apart
    with append | prepend
  · exact ⟨inside, ⟨_, kind⟩, append⟩
  · exact absurd (groMove_udp kind ▸ prepend) udpMove_ne_prepend

/-- A datagram that is joined is in the group of a UDP item when the call returns. -/
theorem Returns.joins (ret : Returns host offset canUdpGro s final s') (fresh : FreshState s)
    (reaches : LoopReaches host offset canUdpGro s n state)
    (joins : JoinsDatagram offset canUdpGro n state head) :
    head < n ∧ n < s.bufs.length ∧ ∃ item ∈ final.udpTable.liveItems,
      item.bufsIndex.toNat = head ∧ item.numMerged > 0 ∧
      head ∈ (groGroups host offset canUdpGro s s.bufs.length).parts head ∧
      n ∈ (groGroups host offset canUdpGro s s.bufs.length).parts head := by
  have inv := reaches.inv fresh
  obtain ⟨isV6, items, item, eligible, stored, last, here⟩ := joins.last
  have live : item ∈ state.udpTable.liveItems :=
    FlowMap.mem_items.mpr ⟨_, items, stored, List.mem_of_getLast? last⟩
  have earlier := inv.batch.partition.bound _ (inv.udpHolds live).1
  rw [here] at earlier
  obtain ⟨inside, -⟩ := reaches.after fresh (by rw [joins.2]; nofun) (Nat.zero_lt_of_lt earlier)
  have move : groMove offset canUdpGro n (groStateAt host offset canUdpGro n s) = .append head :=
    reaches.stateAt.symm ▸ joins.2
  have partition := groGroups_partition host canUdpGro fresh ret.valid
  obtain ⟨known, opening, part⟩ := Grouping.run_joins partition inside (.inl move)
  rw [← groGroups_eq_run] at known opening part
  refine ⟨earlier, inside, ?_⟩
  -- A group of two or more is emitted by a merged item, and its packets are datagrams.
  have two : [head, n] ⊆ (groGroups host offset canUdpGro s s.bufs.length).parts head := by
    intro j member
    rcases List.mem_pair.mp member with rfl | rfl
    · exact opening
    · exact part
  have several := (List.subperm_of_subset (by simpa using Nat.ne_of_lt earlier) two).length_le
  have merged : MergedAt final head := (ret.inv.mergedAt_iff head).mpr ⟨known, several⟩
  rw [packetAt_congr (inv.batch.pending n le_rfl)] at eligible
  rcases merged with ⟨item', live', rfl, -⟩ | ⟨item', live', rfl, merged⟩
  · obtain ⟨-, buf, -, holds⟩ := ret.inv.tcpHolds live'
    exact absurd (holds.group.eligible _ (List.mem_map_of_mem part)) (UdpEligible.not_tcp eligible)
  · exact ⟨item', live', rfl, merged, opening, part⟩

end Call

end QuincyTun.Linux
