import QuincyTun.Linux.GroResult
import QuincyTun.Linux.Sender

/-! The offload header of a joined packet describes that packet, and a consumer
that completes the partial checksum gets a packet that verifies.
-/

set_option autoImplicit false

namespace QuincyTun.Linux

open QuincyTun.Foundation

def transportPayload (isV6 : Bool) (protocol : UInt8) (pkt : List UInt8) : List UInt8 :=
  if protocol = ipProtoTcp then tcpPayload isV6 pkt else udpPayload isV6 pkt

/-- The offload header and the packet behind it fit together. -/
structure SelfConsistent (isV6 : Bool) (protocol : UInt8) (hdr : VirtioNetHdr) (numMerged : Nat)
    (pkt : List UInt8) : Prop where
  ipLength : ipLength isV6 pkt = pkt.length
  udpLength : protocol = ipProtoUdp → (udpLength isV6 pkt).toNat = pkt.length - ipHLen isV6
  ipHeader : IpHeaderVerifies isV6 pkt
  hdrLen : hdr.hdrLen.toNat ≤ pkt.length
  csumEnd : hdr.csumStart.toNat + hdr.csumOffset.toNat + 2 ≤ hdr.hdrLen.toNat
  gsoSize : 1 ≤ hdr.gsoSize.toNat
  lower : numMerged * hdr.gsoSize.toNat < (transportPayload isV6 protocol pkt).length
  upper : (transportPayload isV6 protocol pkt).length ≤ (numMerged + 1) * hdr.gsoSize.toNat
  completes : ∃ pkt', gsoNoneChecksum pkt hdr.csumStart hdr.csumOffset = .ok (pkt', .ok ()) ∧
    pkt'.length = pkt.length ∧
    AgreeOn (fun i => i < hdr.csumStart.toNat + hdr.csumOffset.toNat ∨
      hdr.csumStart.toNat + hdr.csumOffset.toNat + 2 ≤ i) pkt' pkt ∧
    TransportVerifies isV6 protocol pkt'

section

variable {isV6 : Bool} {protocol : UInt8} {hdr : VirtioNetHdr} {cur : List UInt8}

theorem completes_accountedPacket (start : hdr.csumStart.toNat = ipHLen isV6)
    (stop : hdr.csumOffset.toNat = transportCsumOffset protocol)
    (long : ipHLen isV6 + transportCsumOffset protocol + 2 ≤ cur.length)
    (short : cur.length ≤ 65535) :
    ∃ pkt', gsoNoneChecksum (accountedPacket isV6 protocol cur) hdr.csumStart hdr.csumOffset =
        .ok (pkt', .ok ()) ∧
      pkt'.length = (accountedPacket isV6 protocol cur).length ∧
      AgreeOn (fun i => i < hdr.csumStart.toNat + hdr.csumOffset.toNat ∨
        hdr.csumStart.toNat + hdr.csumOffset.toNat + 2 ≤ i) pkt' (accountedPacket isV6 protocol cur) ∧
      TransportVerifies isV6 protocol pkt' := by
  have size := length_accountedPacket isV6 protocol cur
  refine ⟨_, gsoNoneChecksum_ok (by omega) (by omega), length_completed .., ?_, ?_⟩
  · rw [start, stop]
    exact completedPacket_agree isV6 protocol cur
  · rw [start, stop]
    exact completedPacket_verifies long

end

section Call

variable {host : Host} {offset : Nat} {canUdpGro : Bool} {s final s' : GroState}

theorem TcpGroup.csumStart {packets : List (List UInt8)} {item : TcpGROItem} {cur : List UInt8}
    (group : TcpGroup packets item cur) :
    item.offload.csumStart.toNat = ipHLen item.key.isV6 := by
  rw [TcpGROItem.offload, UInt8.toNat_toUInt16, group.iphLen]

theorem UdpGroup.csumStart {packets : List (List UInt8)} {item : UdpGROItem} {cur : List UInt8}
    (group : UdpGroup packets item cur) :
    item.offload.csumStart.toNat = ipHLen item.key.isV6 := by
  rw [UdpGROItem.offload, UInt8.toNat_toUInt16, group.iphLen]

theorem TcpGroup.hdrLen {packets : List (List UInt8)} {item : TcpGROItem} {cur : List UInt8}
    (group : TcpGroup packets item cur) :
    item.offload.hdrLen.toNat = ipHLen item.key.isV6 + tcpHLen item.key.isV6 cur := by
  have small := group.headers_le
  have sum : (item.iphLen + item.tcphLen).toNat = item.iphLen.toNat + item.tcphLen.toNat := by
    rw [UInt8.toNat_add]
    omega
  rw [TcpGROItem.offload, UInt8.toNat_toUInt16, sum, group.iphLen, group.tcphLen]

theorem UdpGroup.hdrLen {packets : List (List UInt8)} {item : UdpGROItem} {cur : List UInt8}
    (group : UdpGroup packets item cur) :
    item.offload.hdrLen.toNat = ipHLen item.key.isV6 + udpHLen := by
  have low := ipHLen_le item.key.isV6
  have width : (UInt16.ofNat udpHLen).toNat = udpHLen := rfl
  have bound : udpHLen = 8 := rfl
  rw [UdpGROItem.offload, UInt16.toNat_add, UInt8.toNat_toUInt16, group.iphLen, width]
  omega

theorem TcpGroup.selfConsistent {packets : List (List UInt8)} {item : TcpGROItem}
    {cur : List UInt8} (group : TcpGroup packets item cur) (short : cur.length ≤ 65535) :
    SelfConsistent item.key.isV6 ipProtoTcp item.offload item.numMerged.toNat
      (accountedPacket item.key.isV6 ipProtoTcp cur) := by
  have start := group.csumStart
  have stop : item.offload.csumOffset.toNat = transportCsumOffset ipProtoTcp := rfl
  have position : transportCsumOffset ipProtoTcp = 16 := rfl
  have headers := group.hdrLen
  have minimal := group.headerLen
  have long := group.headers_lt
  have size := length_accountedPacket item.key.isV6 ipProtoTcp cur
  have payload : transportPayload item.key.isV6 ipProtoTcp
      (accountedPacket item.key.isV6 ipProtoTcp cur) = tcpPayload item.key.isV6 cur := by
    rw [transportPayload, if_pos rfl, (sameTcpSegment_accountedPacket minimal).payload]
  have bounds := group.joined.length_bounds
  rw [group.merged, Nat.add_sub_cancel] at bounds
  constructor
  case ipLength => rw [ipLength_accountedPacket (by omega) short, size]
  case udpLength => exact fun udp => absurd udp (by decide)
  case ipHeader => exact ipHeaderVerifies_accountedPacket (by omega)
  case hdrLen => omega
  case csumEnd => omega
  case gsoSize => exact group.gsoSize_pos
  case lower => rw [payload]; exact bounds.1
  case upper => rw [payload]; exact bounds.2
  case completes => exact completes_accountedPacket start stop (by omega) short

theorem UdpGroup.selfConsistent {packets : List (List UInt8)} {item : UdpGROItem}
    {cur : List UInt8} (group : UdpGroup packets item cur) (short : cur.length ≤ 65535) :
    SelfConsistent item.key.isV6 ipProtoUdp item.offload item.numMerged.toNat
      (accountedPacket item.key.isV6 ipProtoUdp cur) := by
  have start := group.csumStart
  have stop : item.offload.csumOffset.toNat = transportCsumOffset ipProtoUdp := rfl
  have position : transportCsumOffset ipProtoUdp = 6 := rfl
  have width : udpHLen = 8 := rfl
  have headers := group.hdrLen
  have long := group.headers_lt
  have size := length_accountedPacket item.key.isV6 ipProtoUdp cur
  have payload : transportPayload item.key.isV6 ipProtoUdp
      (accountedPacket item.key.isV6 ipProtoUdp cur) = udpPayload item.key.isV6 cur := by
    rw [transportPayload, if_neg (by decide),
      (sameUdpDatagram_accountedPacket item.key.isV6 cur).payload]
  have bounds := group.joined.length_bounds
  rw [group.merged, Nat.add_sub_cancel] at bounds
  constructor
  case ipLength => rw [ipLength_accountedPacket (by omega) short, size]
  case udpLength => exact fun _ => by rw [udpLength_accountedPacket (by omega) short, size]
  case ipHeader => exact ipHeaderVerifies_accountedPacket (by omega)
  case hdrLen => omega
  case csumEnd => omega
  case gsoSize => exact group.gsoSize_pos
  case lower => rw [payload]; exact bounds.1
  case upper => rw [payload]; exact bounds.2
  case completes => exact completes_accountedPacket start stop (by omega) short

theorem Emits.decode {hdr : VirtioNetHdr} {pkt : List UInt8} {buf : ExpandBuffer}
    (emits : Emits host offset hdr pkt buf) :
    VirtioNetHdr.decode host.bigEndian (buf.virtioHeader offset) = .ok hdr := by
  rw [emits.header, VirtioNetHdr.decode_layout]

/-- The metadata of every joined packet of at most 65535 bytes. -/
theorem merged_selfConsistent (host : Host) (offset : Nat) (canUdpGro : Bool) {s s' : GroState}
    (fresh : FreshState s) (ran : handleGro host offset canUdpGro s = .ok (s', .ok ())) :
    (∀ item ∈ s'.tcpTable.liveItems, item.numMerged > 0 →
      (packetAt offset s'.bufs item.bufsIndex.toNat).length ≤ 65535 →
      ∃ buf hdr, s'.bufs[item.bufsIndex.toNat]? = some buf ∧
        VirtioNetHdr.decode host.bigEndian (buf.virtioHeader offset) = .ok hdr ∧
        SelfConsistent item.key.isV6 ipProtoTcp hdr item.numMerged.toNat
          (buf.bytes.drop offset)) ∧
    ∀ item ∈ s'.udpTable.liveItems, item.numMerged > 0 →
      (packetAt offset s'.bufs item.bufsIndex.toNat).length ≤ 65535 →
      ∃ buf hdr, s'.bufs[item.bufsIndex.toNat]? = some buf ∧
        VirtioNetHdr.decode host.bigEndian (buf.virtioHeader offset) = .ok hdr ∧
        SelfConsistent item.key.isV6 ipProtoUdp hdr item.numMerged.toNat
          (buf.bytes.drop offset) := by
  obtain ⟨final, -, ret⟩ := handleGro_returns fresh ran
  rw [ret.completed.tcpTable, ret.completed.udpTable]
  constructor
  · intro item live merged short
    obtain ⟨was, buf, found, is, emits⟩ := ret.tcp_emits live (UInt16.pos_iff_ne_zero.mp merged) short
    obtain ⟨-, held, here, holds⟩ := ret.inv.tcpHolds live
    obtain rfl := Option.some.inj (found.symm.trans here)
    rw [packetAt_of_getElem? is, emits.packet, length_accountedPacket] at short
    exact ⟨buf, _, is, emits.decode, emits.packet ▸ holds.group.selfConsistent short⟩
  · intro item live merged short
    obtain ⟨was, buf, found, is, emits⟩ := ret.udp_emits live (UInt16.pos_iff_ne_zero.mp merged) short
    obtain ⟨-, held, here, holds⟩ := ret.inv.udpHolds live
    obtain rfl := Option.some.inj (found.symm.trans here)
    rw [packetAt_of_getElem? is, emits.packet, length_accountedPacket] at short
    exact ⟨buf, _, is, emits.decode, emits.packet ▸ holds.group.selfConsistent short⟩

theorem merged_selfConsistent_datagrams : ∃ s' item buf hdr,
    handleGro plainHost 10 true (batchOf 200 twoDatagrams) = .ok (s', .ok ()) ∧
      item ∈ s'.udpTable.liveItems ∧ s'.bufs[item.bufsIndex.toNat]? = some buf ∧
      VirtioNetHdr.decode false (buf.virtioHeader 10) = .ok hdr ∧
      SelfConsistent item.key.isV6 ipProtoUdp hdr 1 (buf.bytes.drop 10) := by
  have run : (finalState (handleGro plainHost 10 true (batchOf 200 twoDatagrams))).map
      (fun s' => s'.udpTable.liveItems.map fun item => (item.numMerged,
        decide ((packetAt 10 s'.bufs item.bufsIndex.toNat).length ≤ 65535))) = some [(1, true)] := by
    decide +kernel
  obtain ⟨s', _, ran, merged⟩ := of_finalState_map run
  obtain ⟨item, live⟩ := List.map_eq_singleton_iff.mp merged
  obtain ⟨one, short⟩ := Prod.mk.inj live.2
  have member : item ∈ s'.udpTable.liveItems := by rw [live.1]; exact List.mem_singleton_self item
  obtain ⟨buf, hdr, is, decoded, consistent⟩ := (merged_selfConsistent plainHost 10 true
    (batchOf_fresh 200 twoDatagrams) ran).2 item member (by rw [one]; decide)
      (of_decide_eq_true short)
  rw [one] at consistent
  exact ⟨s', item, buf, hdr, ran, member, is, decoded, consistent⟩

end Call

end QuincyTun.Linux
