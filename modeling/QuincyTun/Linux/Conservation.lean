import QuincyTun.Linux.GroResult
import QuincyTun.Linux.Sender

/-! No packet is lost, sent twice or changed without need.

`Conserved` holds after every iteration of the loop, and still when the call
returns: the emitted packets partition the processed ones.
-/

set_option autoImplicit false

namespace QuincyTun.Linux

open QuincyTun.Foundation

def mergedCount (s : GroState) : Nat :=
  (s.tcpTable.liveItems.map fun item => item.numMerged.toNat).sum +
    (s.udpTable.liveItems.map fun item => item.numMerged.toNat).sum

/-- The first `n` packets of `input` are in the emitted packets; `parts` says which are where. -/
structure Conserved (input : List ExpandBuffer) (offset n : Nat) (s : GroState)
    (parts : Nat → List Nat) : Prop where
  increasing : s.toWrite.Pairwise (· < ·)
  emitted : ∀ k ∈ liveIndices s, k ∈ s.toWrite
  distinct : (liveIndices s).Nodup
  counted : s.toWrite.length + mergedCount s = n
  exactlyOnce : (s.toWrite.flatMap parts).Perm (List.range n)
  stands : ∀ k ∈ s.toWrite, ¬ MergedAt s k →
    parts k = [k] ∧ packetAt offset s.bufs k = packetAt offset input k
  tcpAbsorbed : ∀ item ∈ s.tcpTable.liveItems, item.numMerged > 0 →
    (parts item.bufsIndex.toNat).length = item.numMerged.toNat + 1 ∧
      (packetAt offset s.bufs item.bufsIndex.toNat).drop
          (item.iphLen.toNat + item.tcphLen.toNat) =
        (parts item.bufsIndex.toNat).flatMap fun k =>
          tcpPayload item.key.isV6 (packetAt offset input k)
  udpAbsorbed : ∀ item ∈ s.udpTable.liveItems, item.numMerged > 0 →
    (parts item.bufsIndex.toNat).length = item.numMerged.toNat + 1 ∧
      (packetAt offset s.bufs item.bufsIndex.toNat).drop (item.iphLen.toNat + udpHLen) =
        (parts item.bufsIndex.toNat).flatMap fun k =>
          udpPayload item.key.isV6 (packetAt offset input k)
  /-- A processed packet stands at its own index, or exactly one live item absorbed it. -/
  placed : ∀ k < n,
    (k ∈ s.toWrite ∧ packetAt offset s.bufs k = packetAt offset input k ∧
      ∀ head, MergedAt s head → k ∉ parts head) ∨
    ∃! head, MergedAt s head ∧ k ∈ parts head

section Loop

variable {input : List ExpandBuffer} {offset n : Nat} {canUdpGro : Bool} {s : GroState}
  {groups : Grouping}

theorem TcpGroup.payload_eq {packets : List (List UInt8)} {item : TcpGROItem} {cur : List UInt8}
    (group : TcpGroup packets item cur) :
    cur.drop (item.iphLen.toNat + item.tcphLen.toNat) =
      packets.flatMap (tcpPayload item.key.isV6) := by
  rw [group.iphLen, group.tcphLen, group.joined.payload, ← List.flatMap_def]
  refine List.flatMap_congr fun pkt member => ?_
  rw [tcpPayload, (group.sameHeader pkt member).headerLen]

theorem UdpGroup.payload_eq {packets : List (List UInt8)} {item : UdpGROItem} {cur : List UInt8}
    (group : UdpGroup packets item cur) :
    cur.drop (item.iphLen.toNat + udpHLen) = packets.flatMap (udpPayload item.key.isV6) := by
  rw [group.iphLen, group.joined.payload, ← List.flatMap_def]
  rfl

theorem GroInv.mergedAt_mem (inv : GroInv input offset canUdpGro n s groups) {k : Nat}
    (merged : MergedAt s k) : k ∈ groups.heads := by
  rcases merged with ⟨item, live, rfl, -⟩ | ⟨item, live, rfl, -⟩
  · exact (inv.tcpHolds live).1
  · exact (inv.udpHolds live).1

theorem GroInv.mergedAt_iff (inv : GroInv input offset canUdpGro n s groups) (k : Nat) :
    MergedAt s k ↔ k ∈ groups.heads ∧ 2 ≤ (groups.parts k).length := by
  constructor
  · intro merged
    refine ⟨inv.mergedAt_mem merged, ?_⟩
    rcases merged with ⟨item, live, rfl, merged⟩ | ⟨item, live, rfl, merged⟩
    · obtain ⟨-, buf, -, holds⟩ := inv.tcpHolds live
      have positive : 0 < item.numMerged.toNat := merged
      rw [holds.length_parts]
      omega
    · obtain ⟨-, buf, -, holds⟩ := inv.udpHolds live
      have positive : 0 < item.numMerged.toNat := merged
      rw [holds.length_parts]
      omega
  · rintro ⟨member, several⟩
    by_contra apart
    rw [(inv.alone (inv.toWrite ▸ member) apart).1] at several
    simp at several

theorem mergedAt_live {k : Nat} (merged : MergedAt s k) : k ∈ liveIndices s := by
  rcases merged with ⟨item, live, rfl, -⟩ | ⟨item, live, rfl, -⟩
  · exact List.mem_append_left _ (List.mem_map_of_mem live)
  · exact List.mem_append_right _ (List.mem_map_of_mem live)

theorem GroInv.counted (inv : GroInv input offset canUdpGro n s groups) :
    s.toWrite.length + mergedCount s = n := by
  have known : ∀ k ∈ liveIndices s, k ∈ groups.heads := by
    intro k live
    rcases List.mem_append.mp live with tcp | udp
    · obtain ⟨item, member, rfl⟩ := List.mem_map.mp tcp
      exact (inv.tcpHolds member).1
    · obtain ⟨item, member, rfl⟩ := List.mem_map.mp udp
      exact (inv.udpHolds member).1
  have alone : ∀ k ∈ groups.heads, k ∉ liveIndices s → (groups.parts k).length = 1 := by
    intro k member free
    rw [(inv.alone (inv.toWrite ▸ member) (mt mergedAt_live free)).1]
    rfl
  have total := inv.batch.partition.count_live inv.distinct known alone
  rw [inv.toWrite, ← total, mergedCount, liveIndices, List.map_append, List.sum_append,
    List.map_map, List.map_map]
  congr 3
  · refine List.map_congr_left fun item member => ?_
    obtain ⟨-, buf, -, holds⟩ := inv.tcpHolds member
    rw [Function.comp_apply, holds.length_parts, Nat.add_sub_cancel]
  · refine List.map_congr_left fun item member => ?_
    obtain ⟨-, buf, -, holds⟩ := inv.udpHolds member
    rw [Function.comp_apply, holds.length_parts, Nat.add_sub_cancel]

theorem GroInv.packet_alone (inv : GroInv input offset canUdpGro n s groups)
    (valid : ValidBatch input offset n) {k : Nat} (emitted : k ∈ s.toWrite)
    (apart : ¬ MergedAt s k) : packetAt offset s.bufs k = packetAt offset input k := by
  have small := inv.batch.partition.bound k (inv.toWrite ▸ emitted)
  obtain ⟨-, ⟨-, same⟩ | ⟨-, same⟩⟩ := inv.alone emitted apart
  · exact packetAt_congr same
  · cases found : input[k]? with
    | none =>
      rw [found] at same
      exact packetAt_congr (same.trans found.symm)
    | some own =>
      rw [found] at same
      rw [packetAt_of_getElem? same, packetAt_of_getElem? found,
        drop_cleared (valid.room k own small found).1]

theorem GroInv.conserved (inv : GroInv input offset canUdpGro n s groups)
    (valid : ValidBatch input offset n) : Conserved input offset n s groups.parts where
  increasing := inv.toWrite ▸ inv.batch.partition.sorted
  emitted := by
    intro k live
    rw [inv.toWrite]
    rw [← map_index_groSlots input offset] at live
    obtain ⟨slot, member, rfl⟩ := List.mem_map.mp live
    exact inv.batch.known slot member
  distinct := inv.distinct
  counted := inv.counted
  exactlyOnce := inv.toWrite ▸ inv.batch.partition.cover
  stands := fun k emitted apart => ⟨(inv.alone emitted apart).1, inv.packet_alone valid emitted apart⟩
  tcpAbsorbed := by
    intro item live merged
    obtain ⟨-, buf, here, holds⟩ := inv.tcpHolds live
    refine ⟨holds.length_parts, ?_⟩
    rw [packetAt_of_getElem? here, holds.group.payload_eq, List.flatMap_map]
  udpAbsorbed := by
    intro item live merged
    obtain ⟨-, buf, here, holds⟩ := inv.udpHolds live
    refine ⟨holds.length_parts, ?_⟩
    rw [packetAt_of_getElem? here, holds.group.payload_eq, List.flatMap_map]
  placed := by
    intro k seen
    obtain ⟨head, member, part⟩ := inv.batch.partition.exists_head seen
    -- A packet is in the group of exactly one head, which is joined to others or stands alone.
    by_cases merged : MergedAt s head
    · refine .inr ⟨head, ⟨merged, part⟩, fun other ⟨mergedOther, partOther⟩ => ?_⟩
      exact inv.batch.partition.head_unique (inv.mergedAt_mem mergedOther) member partOther part
    · have emitted : head ∈ s.toWrite := inv.toWrite ▸ member
      rw [(inv.alone emitted merged).1, List.mem_singleton] at part
      subst part
      refine .inl ⟨emitted, inv.packet_alone valid emitted merged, fun other mergedOther partOther => ?_⟩
      have same := inv.batch.partition.head_unique (inv.mergedAt_mem mergedOther) member partOther
        (inv.batch.partition.opening k member)
      exact merged (same ▸ mergedOther)

end Loop

section Call

variable {host : Host} {offset : Nat} {canUdpGro : Bool} {s final s' : GroState}

theorem Completed.liveIndices (completed : Completed host offset final s') :
    liveIndices s' = Linux.liveIndices final := by
  rw [Linux.liveIndices, Linux.liveIndices, completed.tcpTable, completed.udpTable]

theorem Returns.conserved (ret : Returns host offset canUdpGro s final s') :
    Conserved s.bufs offset s.bufs.length s'
      (groGroups host offset canUdpGro s s.bufs.length).parts := by
  -- Accounting moves nothing: the indices are those after the loop, and payloads stay.
  have loop := ret.inv.conserved ret.valid
  have packet : ∀ k ∈ s'.toWrite, ¬ MergedAt s' k →
      packetAt offset s'.bufs k = packetAt offset s.bufs k := by
    intro k emitted apart
    obtain ⟨own, found, here⟩ := ret.alone emitted apart
    have small := (List.getElem?_eq_some_iff.mp found).1
    rw [packetAt_of_getElem? here, packetAt_of_getElem? found,
      drop_cleared (ret.valid.offset_room small)]
  constructor
  case increasing => exact ret.completed.toWrite ▸ loop.increasing
  case emitted =>
    rw [ret.completed.toWrite, ret.completed.liveIndices]
    exact loop.emitted
  case distinct =>
    rw [ret.completed.liveIndices]
    exact loop.distinct
  case counted =>
    rw [ret.completed.toWrite, mergedCount, ret.completed.tcpTable, ret.completed.udpTable]
    exact loop.counted
  case exactlyOnce => exact ret.completed.toWrite ▸ loop.exactlyOnce
  case stands =>
    intro k emitted apart
    refine ⟨?_, packet k emitted apart⟩
    rw [ret.completed.mergedAt] at apart
    exact (loop.stands k (ret.completed.toWrite ▸ emitted) apart).1
  case tcpAbsorbed =>
    intro item live merged
    rw [ret.completed.tcpTable] at live
    obtain ⟨size, payload⟩ := loop.tcpAbsorbed item live merged
    obtain ⟨buf, buf', here, is, framed⟩ := ret.tcp_framed live (UInt16.pos_iff_ne_zero.mp merged)
    obtain ⟨-, was, found, holds⟩ := ret.inv.tcpHolds live
    obtain rfl := Option.some.inj (here.symm.trans found)
    refine ⟨size, ?_⟩
    rw [← payload, packetAt_of_getElem? is, packetAt_of_getElem? here, List.drop_drop,
      List.drop_drop, holds.group.iphLen, holds.group.tcphLen]
    exact framed.behind
  case udpAbsorbed =>
    intro item live merged
    rw [ret.completed.udpTable] at live
    obtain ⟨size, payload⟩ := loop.udpAbsorbed item live merged
    obtain ⟨buf, buf', here, is, framed⟩ := ret.udp_framed live (UInt16.pos_iff_ne_zero.mp merged)
    obtain ⟨-, was, found, holds⟩ := ret.inv.udpHolds live
    obtain rfl := Option.some.inj (here.symm.trans found)
    refine ⟨size, ?_⟩
    rw [← payload, packetAt_of_getElem? is, packetAt_of_getElem? here, List.drop_drop,
      List.drop_drop, holds.group.iphLen]
    exact framed.behind
  case placed =>
    intro k seen
    simp only [ret.completed.mergedAt]
    refine (loop.placed k seen).imp (fun ⟨emitted, _, outside⟩ => ?_) id
    have apart : ¬ MergedAt s' k := by
      rw [ret.completed.mergedAt]
      intro merged
      exact outside k merged (ret.inv.batch.partition.opening k (ret.inv.mergedAt_mem merged))
    have emitted' : k ∈ s'.toWrite := ret.completed.toWrite ▸ emitted
    exact ⟨emitted', packet k emitted' apart, outside⟩

/-- No packet is lost or sent twice, after every iteration and when the call returns. -/
theorem gro_conserves (host : Host) (offset : Nat) (canUdpGro : Bool) {s : GroState}
    (fresh : FreshState s) :
    (s.bufs.length ≤ 65535 → ∀ n s', groLoop host offset canUdpGro n s = .ok (s', .ok ()) →
      ∃ parts, Conserved s.bufs offset n s' parts) ∧
    ∀ s', handleGro host offset canUdpGro s = .ok (s', .ok ()) →
      ∃ parts, Conserved s.bufs offset s.bufs.length s' parts := by
  constructor
  · intro few n s' ran
    obtain ⟨inside, valid⟩ := groLoop_valid fresh few n ran
    obtain ⟨reached, ranAgain, inv⟩ := groLoop_spec host canUdpGro fresh n inside valid
    obtain rfl := congrArg Prod.fst (Except.ok.inj (ran.symm.trans ranAgain))
    exact ⟨_, inv.conserved valid⟩
  · intro s' ran
    obtain ⟨final, -, ret⟩ := handleGro_returns fresh ran
    exact ⟨_, ret.conserved⟩

theorem gro_conserves_swapped : ∃ s' parts,
    handleGro plainHost 10 true (batchOf 200 swappedSegments) = .ok (s', .ok ()) ∧
      mergedCount s' = 1 ∧ Conserved (batchOf 200 swappedSegments).bufs 10 2 s' parts := by
  have run : (finalState (handleGro plainHost 10 true (batchOf 200 swappedSegments))).map
      mergedCount = some 1 := by decide +kernel
  obtain ⟨s', _, ran, merged⟩ := of_finalState_map run
  obtain ⟨parts, conserved⟩ :=
    (gro_conserves plainHost 10 true (batchOf_fresh 200 swappedSegments)).2 s' ran
  exact ⟨s', parts, ran, merged, conserved⟩

end Call

/-! ## Packets that are never merged -/

/-- The reasons for which receive offload leaves a packet as it is. -/
inductive Excluded (canUdpGro : Bool) (pkt : List UInt8) : Prop
  | notCandidate (kind : packetIsGroCandidate pkt canUdpGro = .notGRO)
  | fragment (version : ipVersion pkt = 4) (fragmented : Ipv4Fragment pkt)
  | length (isV6 : Bool) (version : ipVersion pkt = if isV6 then 6 else 4)
      (wrong : ipLength isV6 pkt ≠ pkt.length)
  | flags (isV6 : Bool) (candidate : Candidate isV6 ipProtoTcp pkt)
      (notAck : tcpFlags isV6 pkt ≠ tcpFlagAck)
      (notPush : tcpFlags isV6 pkt ≠ tcpFlagAck ||| tcpFlagPsh)
  | emptyTcp (isV6 : Bool) (candidate : Candidate isV6 ipProtoTcp pkt)
      (empty : tcpPayload isV6 pkt = [])
  | emptyUdp (isV6 : Bool) (candidate : Candidate isV6 ipProtoUdp pkt)
      (empty : udpPayload isV6 pkt = [])
  | checksum (isV6 : Bool) (protocol : UInt8) (candidate : Candidate isV6 protocol pkt)
      (corrupt : ¬ TransportVerifies isV6 protocol pkt)

section Excluded

variable {host : Host} {offset n : Nat} {canUdpGro isV6 : Bool} {pkt : List UInt8}
  {input : List ExpandBuffer} {s final s' : GroState} {groups : Grouping}

/-- An eligible packet with a checksum that verifies can only be excluded by its flags or by
an empty payload. -/
theorem Excluded.remaining {protocol : UInt8} {headerLen : Nat}
    (excluded : Excluded canUdpGro pkt) (eligible : Eligible isV6 protocol headerLen pkt)
    (offered : protocol = ipProtoTcp ∨ protocol = ipProtoUdp ∧ canUdpGro = true)
    (verifies : TransportVerifies isV6 protocol pkt) :
    protocol = ipProtoTcp ∧ tcpFlags isV6 pkt ≠ tcpFlagAck ∧
        tcpFlags isV6 pkt ≠ tcpFlagAck ||| tcpFlagPsh ∨
      protocol = ipProtoTcp ∧ tcpPayload isV6 pkt = [] ∨
      protocol = ipProtoUdp ∧ udpPayload isV6 pkt = [] := by
  have version := eligible.candidate.version
  have ofProtocol := eligible.candidate.ofProtocol
  cases excluded with
  | notCandidate kind =>
    have found := (packetIsGroCandidate_kind pkt canUdpGro isV6 protocol).mpr
      ⟨eligible.candidate, offered⟩
    rw [kind] at found
    cases found
  | fragment four fragmented =>
    have ipv4 : isV6 = false := isV6_unique version four
    exact absurd fragmented (eligible.unfragmented ipv4)
  | length other same wrong =>
    obtain rfl := isV6_unique version same
    exact absurd eligible.ipLength wrong
  | flags other candidate notAck notPush =>
    obtain rfl := isV6_unique version candidate.version
    exact .inl ⟨ofProtocol.symm.trans candidate.ofProtocol, notAck, notPush⟩
  | emptyTcp other candidate empty =>
    obtain rfl := isV6_unique version candidate.version
    exact .inr (.inl ⟨ofProtocol.symm.trans candidate.ofProtocol, empty⟩)
  | emptyUdp other candidate empty =>
    obtain rfl := isV6_unique version candidate.version
    exact .inr (.inr ⟨ofProtocol.symm.trans candidate.ofProtocol, empty⟩)
  | checksum other otherProtocol candidate corrupt =>
    obtain rfl := isV6_unique version candidate.version
    obtain rfl := ofProtocol.symm.trans candidate.ofProtocol
    exact absurd verifies corrupt

theorem Excluded.not_tcp (excluded : Excluded canUdpGro pkt) (eligible : TcpEligible isV6 pkt) :
    ¬ TransportVerifies isV6 ipProtoTcp pkt := by
  intro verifies
  have tcpIsNotUdp : ipProtoTcp ≠ ipProtoUdp := by decide
  have payload := eligible.payload
  rcases excluded.remaining eligible.toEligible (.inl rfl) verifies with
    ⟨-, notAck, notPush⟩ | ⟨-, empty⟩ | ⟨same, -⟩
  · exact eligible.flags.elim notAck notPush
  · have none := List.drop_eq_nil_iff.mp empty
    omega
  · exact tcpIsNotUdp same

theorem Excluded.not_udp (excluded : Excluded canUdpGro pkt) (can : canUdpGro = true)
    (eligible : UdpEligible isV6 pkt) : ¬ TransportVerifies isV6 ipProtoUdp pkt := by
  intro verifies
  have tcpIsNotUdp : ipProtoTcp ≠ ipProtoUdp := by decide
  have payload := eligible.payload
  rcases excluded.remaining eligible (.inr ⟨rfl, can⟩) verifies with
    ⟨same, -⟩ | ⟨same, -⟩ | ⟨-, empty⟩
  · exact tcpIsNotUdp same.symm
  · exact tcpIsNotUdp same.symm
  · have none := List.drop_eq_nil_iff.mp empty
    omega

theorem GroInv.excluded_alone (inv : GroInv input offset canUdpGro n s groups)
    (noUdp : canUdpGro = false → s.udpTable.liveItems = []) {k : Nat} (seen : k < n)
    (excluded : Excluded canUdpGro (packetAt offset input k)) :
    k ∈ s.toWrite ∧ ¬ MergedAt s k := by
  obtain ⟨head, member, part⟩ := inv.batch.partition.exists_head seen
  have packet : packetAt offset input k ∈ (groups.parts head).map (packetAt offset input) :=
    List.mem_map_of_mem part
  have apart : ¬ MergedAt s head := by
    rintro (⟨item, live, rfl, merged⟩ | ⟨item, live, rfl, merged⟩)
    · obtain ⟨-, buf, -, holds⟩ := inv.tcpHolds live
      exact excluded.not_tcp (holds.group.eligible _ packet)
        (holds.group.verified (UInt16.pos_iff_ne_zero.mp merged) _ packet)
    · obtain ⟨-, buf, -, holds⟩ := inv.udpHolds live
      have can : canUdpGro = true := by
        by_contra cannot
        rw [noUdp (Bool.not_eq_true _ ▸ cannot)] at live
        cases live
      exact excluded.not_udp can (holds.group.eligible _ packet)
        (holds.group.verified (UInt16.pos_iff_ne_zero.mp merged) _ packet)
  have emitted : head ∈ s.toWrite := inv.toWrite ▸ member
  rw [(inv.alone emitted apart).1, List.mem_singleton] at part
  exact part ▸ ⟨emitted, apart⟩

/-- What is not merged is untouched, and excluded packets are never merged. -/
theorem gro_leaves_untouched (host : Host) (offset : Nat) (canUdpGro : Bool) {s s' : GroState}
    (fresh : FreshState s) (ran : handleGro host offset canUdpGro s = .ok (s', .ok ())) :
    (∀ k ∈ s'.toWrite, ¬ MergedAt s' k → ∃ own buf, s.bufs[k]? = some own ∧
      s'.bufs[k]? = some buf ∧ buf.bytes.drop offset = own.bytes.drop offset ∧
      buf.virtioHeader offset = List.replicate virtioNetHdrLen 0) ∧
    ∀ k own, s.bufs[k]? = some own → Excluded canUdpGro (own.bytes.drop offset) →
      k ∈ s'.toWrite ∧ ¬ MergedAt s' k := by
  obtain ⟨final, ranLoop, ret⟩ := handleGro_returns fresh ran
  constructor
  · intro k emitted apart
    obtain ⟨own, found, here⟩ := ret.alone emitted apart
    obtain ⟨room, long⟩ := ret.valid.room k own (List.getElem?_eq_some_iff.mp found).1 found
    exact ⟨own, _, found, here, drop_cleared room own, virtioHeader_cleared room long.le⟩
  · intro k own found excluded
    have small := (List.getElem?_eq_some_iff.mp found).1
    have noUdp : canUdpGro = false → final.udpTable.liveItems = [] := by
      rintro rfl
      rw [groLoop_udpTable ranLoop, fresh.udp.liveItems]
    rw [← packetAt_of_getElem? found] at excluded
    rw [ret.completed.toWrite, ret.completed.mergedAt]
    exact ret.inv.excluded_alone noUdp small excluded

theorem gro_leaves_untouched_empty : ∃ s' : GroState,
    handleGro plainHost 10 true (batchOf 200 (sentTcp false 9 tcpFlagAck 4096 [] :: swappedSegments)) =
        .ok (s', .ok ()) ∧
      mergedCount s' = 1 ∧ 0 ∈ s'.toWrite ∧ ¬ MergedAt s' 0 := by
  have run : (finalState (handleGro plainHost 10 true
      (batchOf 200 (sentTcp false 9 tcpFlagAck 4096 [] :: swappedSegments)))).map
        mergedCount = some 1 := by decide +kernel
  obtain ⟨s', _, ran, merged⟩ := of_finalState_map run
  obtain ⟨-, excluded⟩ := gro_leaves_untouched plainHost 10 true
    (batchOf_fresh 200 (sentTcp false 9 tcpFlagAck 4096 [] :: swappedSegments)) ran
  have candidate : Candidate false ipProtoTcp (sentTcp false 9 tcpFlagAck 4096 []) :=
    ⟨by decide +kernel, fun _ => by decide +kernel, by decide +kernel, by decide +kernel⟩
  exact ⟨s', ran, merged, excluded 0 _ rfl (.emptyTcp false candidate (by decide +kernel))⟩

end Excluded

end QuincyTun.Linux
