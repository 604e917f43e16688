import QuincyTun.Linux.Conservation
import QuincyTun.Linux.Metadata
import QuincyTun.Linux.Offload

/-! Joining packets and cutting the result gives the packets back.

A receiver reads an emitted packet behind its offload header. What it gets are
the packets that were joined, in the order of the stream or of their arrival.
-/

set_option autoImplicit false

namespace QuincyTun.Linux

open QuincyTun.Foundation

structure OutputsFor (out : GsoState) (outOffset : Nat) (packets : List (List UInt8)) : Prop where
  sizes : out.outBufs.length ≤ out.sizes.length
  few : out.outBufs.length ≤ 65535
  offsets : ∀ buf ∈ out.outBufs, outOffset ≤ buf.length
  room : ∀ (i : Nat) (pkt : List UInt8), packets[i]? = some pkt →
    ∃ buf : List UInt8, out.outBufs[i]? = some buf ∧ outOffset + pkt.length ≤ buf.length

def blankOutputs (input : List UInt8) (outOffset : Nat) (packets : List (List UInt8)) : GsoState where
  input := input
  outBufs := packets.map fun pkt => List.replicate (outOffset + pkt.length) 0
  sizes := packets.map fun _ => 0

theorem blankOutputs_for (input : List UInt8) (outOffset : Nat) {packets : List (List UInt8)}
    (few : packets.length ≤ 65535) :
    OutputsFor (blankOutputs input outOffset packets) outOffset packets where
  sizes := by simp [blankOutputs]
  few := by simpa [blankOutputs] using few
  offsets := by simp [blankOutputs]
  room i pkt found := ⟨_, by rw [blankOutputs, List.getElem?_map, found]; rfl, by simp⟩

def mtuOutputs (input : List UInt8) : GsoState where
  input := input
  outBufs := List.replicate 2 (List.replicate 1500 0)
  sizes := [0, 0]

theorem mtuOutputs_for (input : List UInt8) {offset : Nat} {bufs : List ExpandBuffer}
    {parts : List Nat} (few : parts.length ≤ 2) (short : ∀ buf ∈ bufs, buf.bytes.length ≤ 1500) :
    OutputsFor (mtuOutputs input) 0 (parts.map (packetAt offset bufs)) where
  sizes := List.length_replicate.le
  few := List.length_replicate.trans_le (by decide)
  offsets := fun _ _ => Nat.zero_le _
  room := by
    intro i pkt found
    obtain ⟨k, part, rfl⟩ := Option.map_eq_some_iff.mp (List.getElem?_map ▸ found)
    have inside : i < 2 := (List.getElem?_eq_some_iff.mp part).1.trans_le few
    refine ⟨_, List.getElem?_replicate_of_lt inside, ?_⟩
    rw [List.length_replicate, Nat.zero_add]
    exact length_packetAt_le short k

/-- Each packet starts in the stream where the one before it ends. -/
def InSequence (isV6 : Bool) (packets : List (List UInt8)) : Prop :=
  packets.IsChain fun before after =>
    tcpSeq isV6 after = tcpSeq isV6 before + UInt32.ofNat (tcpPayload isV6 before).length

section Group

variable {packets : List (List UInt8)} {cur : List UInt8} {out : GsoState} {outOffset : Nat}

theorem Joined.readBack {isV6 : Bool} {protocol : UInt8} {hdr : VirtioNetHdr} {n : Nat}
    (joined : Joined hdr.hdrLen.toNat hdr.gsoSize.toNat packets out.input)
    (offloaded : Offloaded isV6 protocol hdr out.input)
    (version : ipVersion out.input = if isV6 then 6 else 4)
    (gsoType : hdr.gsoType = virtioNetHdrGsoUdpL4 ∨
      hdr.gsoType = if isV6 then virtioNetHdrGsoTcpv6 else virtioNetHdrGsoTcpv4)
    (parsed : parsedHdrLen hdr out.input = .ok (.ok hdr.hdrLen))
    (merged : packets.length = n + 1) (long : ∀ pkt ∈ packets, hdr.hdrLen.toNat ≤ pkt.length)
    (room : OutputsFor out outOffset packets) :
    ∃ out', handleVirtioRead hdr out outOffset = .ok (out', .ok (n + 1)) ∧
      ∀ i pkt, packets[i]? = some pkt →
        SegmentOf isV6 protocol hdr.csumStart.toNat hdr.hdrLen.toNat hdr.gsoSize.toNat out.input i
            (out'.packet outOffset i) ∧
          (out'.packet outOffset i).drop hdr.hdrLen.toNat = pkt.drop hdr.hdrLen.toNat := by
  have bounds := joined.length_bounds
  rw [List.length_drop, merged, Nat.add_sub_cancel] at bounds
  have count : segmentCount hdr out.input = n + 1 := segmentCount_eq bounds.1 bounds.2
  have each : ∀ i < segmentCount hdr out.input, HasRoom hdr.hdrLen.toNat hdr.gsoSize.toNat
      outOffset out.input out.outBufs i := by
    intro i below
    rw [count, ← merged] at below
    have found : packets[i]? = some packets[i] := List.getElem?_eq_getElem below
    have inside := long _ (List.mem_of_getElem? found)
    obtain ⟨buf, here, enough⟩ := room.room i _ found
    refine ⟨buf, here, ?_⟩
    rw [← joined.part found, List.length_drop]
    omega
  -- Each output has room for its packet, so the split succeeds.
  obtain ⟨out', ran, segments⟩ := offloaded.split room.sizes room.few outOffset each
  refine ⟨out', ?_, fun i pkt found => ?_⟩
  · rw [handleVirtioRead_split offloaded room.sizes room.few room.offsets version gsoType parsed,
      ← count]
    exact ran
  · have below := (List.getElem?_eq_some_iff.mp found).1
    have segment := (segments i (by rw [count, ← merged]; exact below)).2
    exact ⟨segment, segment.payload.trans (joined.part found).symm⟩

theorem TcpGroup.inSequence {item : TcpGROItem} (group : TcpGroup packets item cur) :
    InSequence item.key.isV6 packets := by
  refine List.isChain_iff_getElem.mpr fun i bound => ?_
  have first := group.seq i _ (List.getElem?_eq_getElem (by omega))
  have second := group.seq (i + 1) _ (List.getElem?_eq_getElem bound)
  have headerLen := (group.sameHeader _ (List.getElem_mem (by omega : i < packets.length))).headerLen
  have full := group.joined.segmented.length_getElem i (by simpa using bound)
  rw [List.getElem_map] at full
  rw [first, second, tcpPayload, headerLen, full, Nat.succ_mul, UInt32.ofNat_add, UInt32.add_assoc]

theorem TcpGroup.offloaded {item : TcpGROItem} (group : TcpGroup packets item cur)
    (short : cur.length ≤ 65535) :
    Offloaded item.key.isV6 ipProtoTcp item.offload
      (accountedPacket item.key.isV6 ipProtoTcp cur) := by
  have long := group.headers_lt
  have minimal := group.headerLen
  have size := length_accountedPacket item.key.isV6 ipProtoTcp cur
  have headers := group.hdrLen
  constructor
  case ip => exact group.csumStart.ge
  case stop => rfl
  case ofProtocol =>
    rw [TcpGROItem.offload]
    cases item.key.isV6 <;> rfl
  case transport =>
    rw [headers, group.csumStart, minTransportHLen, if_pos rfl]
    omega
  case gsoSize => exact UInt16.pos_iff_ne_zero.mp group.gsoSize_pos
  case headers => omega
  case short => omega

/-- Each datagram that was joined is short, and so is each segment. -/
theorem UdpGroup.offloaded {item : UdpGROItem} (group : UdpGroup packets item cur)
    {pkt : List UInt8} (size : pkt.length = cur.length) :
    Offloaded item.key.isV6 ipProtoUdp item.offload pkt := by
  have long := group.headers_lt
  have headers := group.hdrLen
  obtain ⟨first, member, length⟩ := group.joined.first_length fun pkt member =>
    (group.eligible pkt member).payload.le
  have short := (group.eligible first member).length_le
  constructor
  case ip => exact group.csumStart.ge
  case stop => rfl
  case ofProtocol => rfl
  case transport => rw [headers, group.csumStart]; rfl
  case gsoSize => exact UInt16.pos_iff_ne_zero.mp group.gsoSize_pos
  case headers => omega
  case short =>
    rw [headers, size]
    exact length.ge.trans short

theorem TcpGroup.readBack {item : TcpGROItem} (group : TcpGroup packets item cur)
    (short : cur.length ≤ 65535)
    (input : out.input = accountedPacket item.key.isV6 ipProtoTcp cur)
    (room : OutputsFor out outOffset packets) :
    ∃ out', handleVirtioRead item.offload out outOffset = .ok (out', .ok (item.numMerged.toNat + 1)) ∧
      ∀ i pkt, packets[i]? = some pkt →
        SameTcpSegment item.key.isV6 (out'.packet outOffset i) pkt ∧
          WellFormed item.key.isV6 ipProtoTcp (out'.packet outOffset i) := by
  have long := group.headers_lt
  have minimal := group.headerLen
  have offloaded : Offloaded item.key.isV6 ipProtoTcp item.offload out.input :=
    input ▸ group.offloaded short
  -- What accounting rewrites is rewritten again when the packet is cut.
  have same : SameTcpSegment item.key.isV6 out.input cur :=
    input ▸ sameTcpSegment_accountedPacket minimal
  have size : out.input.length = cur.length := input ▸ length_accountedPacket ..
  have headers : item.offload.hdrLen.toNat = ipHLen item.key.isV6 + tcpHLen item.key.isV6 out.input := by
    rw [group.hdrLen, same.headerLen]
  have joined : Joined item.offload.hdrLen.toNat item.offload.gsoSize.toNat packets out.input := by
    have payload : out.input.drop _ = cur.drop _ := same.payload
    rw [group.hdrLen]
    exact ⟨group.joined.segmented, (same.headerLen ▸ payload).trans group.joined.payload⟩
  have parsed : parsedHdrLen item.offload out.input = .ok (.ok item.offload.hdrLen) := by
    refine parsedHdrLen_tcp ?_ group.csumStart (by omega) (by rw [same.headerLen]; omega) headers
    change (if item.key.isV6 then virtioNetHdrGsoTcpv6 else virtioNetHdrGsoTcpv4) ≠ _
    cases item.key.isV6 <;> decide
  obtain ⟨out', ran, segments⟩ := joined.readBack offloaded (same.version.trans group.version)
    (.inr rfl) parsed group.merged (fun pkt member => by
      have inside := (group.eligible pkt member).payload
      rw [(group.sameHeader pkt member).headerLen] at inside
      rw [group.hdrLen]
      exact inside.le) room
  refine ⟨out', ran, fun i pkt found => ?_⟩
  obtain ⟨segment, cut⟩ := segments i pkt found
  have header := group.sameHeader _ (List.mem_of_getElem? found)
  rw [group.csumStart, headers] at segment
  have sameHeader := segment.sameTcpHeader (by rw [same.headerLen]; omega)
  refine ⟨⟨sameHeader.trans (same.toSameTcpHeader.trans header.symm), ?_, ?_⟩, segment.wellFormed⟩
  · have seq : tcpSeq item.key.isV6 (out'.packet outOffset i) =
        tcpSeq item.key.isV6 out.input + UInt32.ofNat (i * item.offload.gsoSize.toNat) :=
      segment.seq rfl
    rw [seq, same.seq, group.curSeq]
    exact (group.seq i pkt found).symm
  · rw [tcpPayload, tcpPayload, sameHeader.headerLen, header.headerLen, same.headerLen,
      ← group.hdrLen]
    exact cut

theorem UdpGroup.readBack {item : UdpGROItem} (group : UdpGroup packets item cur)
    (same : SameUdpDatagram item.key.isV6 out.input cur) (room : OutputsFor out outOffset packets) :
    ∃ out', handleVirtioRead item.offload out outOffset = .ok (out', .ok (item.numMerged.toNat + 1)) ∧
      ∀ i pkt, packets[i]? = some pkt →
        SameUdpDatagram item.key.isV6 (out'.packet outOffset i) pkt ∧
          WellFormed item.key.isV6 ipProtoUdp (out'.packet outOffset i) ∧
          (udpLength item.key.isV6 (out'.packet outOffset i)).toNat =
            (out'.packet outOffset i).length - ipHLen item.key.isV6 := by
  have size : out.input.length = cur.length := by
    have long := group.headers_lt
    have payload := congrArg List.length same.payload
    rw [udpPayload, udpPayload, List.length_drop, List.length_drop] at payload
    omega
  have offloaded := group.offloaded size
  have joined : Joined item.offload.hdrLen.toNat item.offload.gsoSize.toNat packets out.input := by
    have payload : out.input.drop _ = cur.drop _ := same.payload
    rw [group.hdrLen]
    exact ⟨group.joined.segmented, payload.trans group.joined.payload⟩
  have parsed : parsedHdrLen item.offload out.input = .ok (.ok item.offload.hdrLen) :=
    parsedHdrLen_udp rfl (by rw [group.hdrLen, group.csumStart]; rfl) out.input
  obtain ⟨out', ran, segments⟩ := joined.readBack offloaded (same.version.trans group.version)
    (.inl rfl) parsed group.merged (fun pkt member => by
      rw [group.hdrLen]
      exact (group.eligible pkt member).payload.le) room
  refine ⟨out', ran, fun i pkt found => ?_⟩
  obtain ⟨segment, cut⟩ := segments i pkt found
  have header := group.sameHeader _ (List.mem_of_getElem? found)
  rw [group.hdrLen] at segment cut
  rw [group.csumStart] at segment
  exact ⟨⟨segment.sameUdpHeader.trans (same.toSameUdpHeader.trans header.symm), cut⟩,
    segment.wellFormed, segment.udpLength rfl⟩

end Group

section Call

variable {s s' : GroState}

/-- Joined TCP packets are read back as the segments that were joined, in stream order. -/
theorem gro_gso_tcp (host : Host) (offset : Nat) (canUdpGro : Bool) (fresh : FreshState s)
    (ran : handleGro host offset canUdpGro s = .ok (s', .ok ())) :
    ∃ parts, Conserved s.bufs offset s.bufs.length s' parts ∧
      ∀ item ∈ s'.tcpTable.liveItems, item.numMerged > 0 →
        (packetAt offset s'.bufs item.bufsIndex.toNat).length ≤ 65535 →
        InSequence item.key.isV6 ((parts item.bufsIndex.toNat).map (packetAt offset s.bufs)) ∧
        ∃ buf hdr, s'.bufs[item.bufsIndex.toNat]? = some buf ∧
          VirtioNetHdr.decode host.bigEndian (buf.virtioHeader offset) = .ok hdr ∧
          ∀ out outOffset, out.input = buf.bytes.drop offset →
            OutputsFor out outOffset ((parts item.bufsIndex.toNat).map (packetAt offset s.bufs)) →
            ∃ out', handleVirtioRead hdr out outOffset =
                .ok (out', .ok (item.numMerged.toNat + 1)) ∧
              ∀ i k, (parts item.bufsIndex.toNat)[i]? = some k →
                SameTcpSegment item.key.isV6 (out'.packet outOffset i) (packetAt offset s.bufs k) ∧
                  WellFormed item.key.isV6 ipProtoTcp (out'.packet outOffset i) := by
  obtain ⟨final, -, ret⟩ := handleGro_returns fresh ran
  refine ⟨_, ret.conserved, ?_⟩
  rw [ret.completed.tcpTable]
  intro item live merged short
  obtain ⟨was, buf, found, is, emits⟩ :=
    ret.tcp_emits live (UInt16.pos_iff_ne_zero.mp merged) short
  obtain ⟨-, held, here, holds⟩ := ret.inv.tcpHolds live
  obtain rfl := Option.some.inj (found.symm.trans here)
  rw [packetAt_of_getElem? is, emits.packet, length_accountedPacket] at short
  refine ⟨holds.group.inSequence, buf, _, is, emits.decode, fun out outOffset input outputs => ?_⟩
  obtain ⟨out', read, same⟩ := holds.group.readBack short (input.trans emits.packet) outputs
  exact ⟨out', read, fun i k part => same i _ (by rw [List.getElem?_map, part]; rfl)⟩

theorem gro_gso_tcp_swapped : ∃ s', ∃ parts : Nat → List Nat,
    handleGro plainHost 10 true (batchOf 200 swappedSegments) = .ok (s', .ok ()) ∧
      ∃ item ∈ s'.tcpTable.liveItems, InSequence item.key.isV6
        ((parts item.bufsIndex.toNat).map (packetAt 10 (batchOf 200 swappedSegments).bufs)) ∧
      ∃ buf hdr out', s'.bufs[item.bufsIndex.toNat]? = some buf ∧
        VirtioNetHdr.decode false (buf.virtioHeader 10) = .ok hdr ∧
        handleVirtioRead hdr (mtuOutputs (buf.bytes.drop 10)) 0 = .ok (out', .ok 2) ∧
        ∀ i k, (parts item.bufsIndex.toNat)[i]? = some k →
          SameTcpSegment item.key.isV6 (out'.packet 0 i)
              (packetAt 10 (batchOf 200 swappedSegments).bufs k) ∧
            WellFormed item.key.isV6 ipProtoTcp (out'.packet 0 i) := by
  have run : (finalState (handleGro plainHost 10 true (batchOf 200 swappedSegments))).map
      (fun s' => s'.tcpTable.liveItems.map fun item => (item.numMerged,
        decide ((packetAt 10 s'.bufs item.bufsIndex.toNat).length ≤ 65535))) = some [(1, true)] := by
    decide +kernel
  obtain ⟨s', _, ran, merged⟩ := of_finalState_map run
  obtain ⟨item, items, answer⟩ := List.map_eq_singleton_iff.mp merged
  obtain ⟨one, short⟩ := Prod.mk.inj answer
  have member : item ∈ s'.tcpTable.liveItems := by rw [items]; exact List.mem_singleton_self item
  have several : item.numMerged > 0 := by
    rw [one]
    decide
  obtain ⟨parts, conserved, back⟩ :=
    gro_gso_tcp plainHost 10 true (batchOf_fresh 200 swappedSegments) ran
  obtain ⟨inSequence, buf, hdr, is, decoded, reads⟩ :=
    back item member several (of_decide_eq_true short)
  have two : (parts item.bufsIndex.toNat).length = 2 := by
    rw [(conserved.tcpAbsorbed item member several).1, one]
    rfl
  obtain ⟨out', read, same⟩ := reads _ 0 rfl (mtuOutputs_for _ two.le (by decide))
  rw [one] at read
  exact ⟨s', parts, ran, item, member, inSequence, buf, hdr, out', is, decoded, read, same⟩

theorem Returns.udp_read {host : Host} {offset : Nat} {canUdpGro : Bool} {final : GroState}
    (ret : Returns host offset canUdpGro s final s') {item : UdpGROItem}
    (live : item ∈ final.udpTable.liveItems) (merged : item.numMerged > 0) :
    ∃ buf, s'.bufs[item.bufsIndex.toNat]? = some buf ∧
      VirtioNetHdr.decode host.bigEndian (buf.virtioHeader offset) = .ok item.offload ∧
      ∀ out outOffset, out.input = buf.bytes.drop offset →
        OutputsFor out outOffset (((groGroups host offset canUdpGro s s.bufs.length).parts
          item.bufsIndex.toNat).map (packetAt offset s.bufs)) →
        ∃ out', handleVirtioRead item.offload out outOffset =
            .ok (out', .ok (item.numMerged.toNat + 1)) ∧
          ∀ i k, ((groGroups host offset canUdpGro s s.bufs.length).parts
              item.bufsIndex.toNat)[i]? = some k →
            SameUdpDatagram item.key.isV6 (out'.packet outOffset i) (packetAt offset s.bufs k) ∧
              WellFormed item.key.isV6 ipProtoUdp (out'.packet outOffset i) ∧
              (udpLength item.key.isV6 (out'.packet outOffset i)).toNat =
                (out'.packet outOffset i).length - ipHLen item.key.isV6 := by
  obtain ⟨was, buf, found, is, accounts⟩ :=
    ret.udp_accounts live (UInt16.pos_iff_ne_zero.mp merged)
  obtain ⟨-, held, here, holds⟩ := ret.inv.udpHolds live
  obtain rfl := Option.some.inj (found.symm.trans here)
  refine ⟨buf, is, accounts.decode, fun out outOffset input outputs => ?_⟩
  have same : SameUdpDatagram item.key.isV6 out.input (was.bytes.drop offset) := by
    rw [input]
    exact sameUdpDatagram_of_keeps accounts.agree
  obtain ⟨out', read, back⟩ := holds.group.readBack same outputs
  exact ⟨out', read, fun i k part => back i _ (by rw [List.getElem?_map, part]; rfl)⟩

/-- Joined UDP packets are read back as the datagrams that were joined, in order of arrival. -/
theorem gro_gso_udp (host : Host) (offset : Nat) (canUdpGro : Bool) (fresh : FreshState s)
    (ran : handleGro host offset canUdpGro s = .ok (s', .ok ())) :
    ∃ parts, Conserved s.bufs offset s.bufs.length s' parts ∧
      ∀ item ∈ s'.udpTable.liveItems, item.numMerged > 0 →
        (packetAt offset s'.bufs item.bufsIndex.toNat).length ≤ 65535 →
        (parts item.bufsIndex.toNat).Pairwise (· < ·) ∧
        ∃ buf hdr, s'.bufs[item.bufsIndex.toNat]? = some buf ∧
          VirtioNetHdr.decode host.bigEndian (buf.virtioHeader offset) = .ok hdr ∧
          ∀ out outOffset, out.input = buf.bytes.drop offset →
            OutputsFor out outOffset ((parts item.bufsIndex.toNat).map (packetAt offset s.bufs)) →
            ∃ out', handleVirtioRead hdr out outOffset =
                .ok (out', .ok (item.numMerged.toNat + 1)) ∧
              ∀ i k, (parts item.bufsIndex.toNat)[i]? = some k →
                SameUdpDatagram item.key.isV6 (out'.packet outOffset i) (packetAt offset s.bufs k) ∧
                  WellFormed item.key.isV6 ipProtoUdp (out'.packet outOffset i) ∧
                  (udpLength item.key.isV6 (out'.packet outOffset i)).toNat =
                    (out'.packet outOffset i).length - ipHLen item.key.isV6 := by
  obtain ⟨final, -, ret⟩ := handleGro_returns fresh ran
  refine ⟨_, ret.conserved, ?_⟩
  rw [ret.completed.udpTable]
  intro item live merged _
  obtain ⟨-, held, here, holds⟩ := ret.inv.udpHolds live
  obtain ⟨buf, is, decoded, reads⟩ := ret.udp_read live merged
  exact ⟨holds.inOrder, buf, _, is, decoded, reads⟩

theorem gro_gso_udp_datagrams : ∃ s', ∃ parts : Nat → List Nat,
    handleGro plainHost 10 true (batchOf 200 twoDatagrams) = .ok (s', .ok ()) ∧
      ∃ item ∈ s'.udpTable.liveItems, (parts item.bufsIndex.toNat).Pairwise (· < ·) ∧
      ∃ buf hdr out', s'.bufs[item.bufsIndex.toNat]? = some buf ∧
        VirtioNetHdr.decode false (buf.virtioHeader 10) = .ok hdr ∧
        handleVirtioRead hdr (mtuOutputs (buf.bytes.drop 10)) 0 = .ok (out', .ok 2) ∧
        ∀ i k, (parts item.bufsIndex.toNat)[i]? = some k →
          SameUdpDatagram item.key.isV6 (out'.packet 0 i)
              (packetAt 10 (batchOf 200 twoDatagrams).bufs k) ∧
            WellFormed item.key.isV6 ipProtoUdp (out'.packet 0 i) ∧
            (udpLength item.key.isV6 (out'.packet 0 i)).toNat =
              (out'.packet 0 i).length - ipHLen item.key.isV6 := by
  have run : (finalState (handleGro plainHost 10 true (batchOf 200 twoDatagrams))).map
      (fun s' => s'.udpTable.liveItems.map fun item => (item.numMerged,
        decide ((packetAt 10 s'.bufs item.bufsIndex.toNat).length ≤ 65535))) = some [(1, true)] := by
    decide +kernel
  obtain ⟨s', _, ran, merged⟩ := of_finalState_map run
  obtain ⟨item, items, answer⟩ := List.map_eq_singleton_iff.mp merged
  obtain ⟨one, short⟩ := Prod.mk.inj answer
  have member : item ∈ s'.udpTable.liveItems := by rw [items]; exact List.mem_singleton_self item
  have several : item.numMerged > 0 := by
    rw [one]
    decide
  obtain ⟨parts, conserved, back⟩ :=
    gro_gso_udp plainHost 10 true (batchOf_fresh 200 twoDatagrams) ran
  obtain ⟨inOrder, buf, hdr, is, decoded, reads⟩ :=
    back item member several (of_decide_eq_true short)
  have two : (parts item.bufsIndex.toNat).length = 2 := by
    rw [(conserved.udpAbsorbed item member several).1, one]
    rfl
  obtain ⟨out', read, same⟩ := reads _ 0 rfl (mtuOutputs_for _ two.le (by decide))
  rw [one] at read
  exact ⟨s', parts, ran, item, member, inOrder, buf, hdr, out', is, decoded, read, same⟩

end Call

end QuincyTun.Linux
