import QuincyTun.Linux.LengthBound
import QuincyTun.Linux.Segmenter

/-! Cutting a packet and joining its segments gives the packet back.

The segments are a stream in the sense of the joining side, so they end up in one
item, whose offload header is the one that the packet came with.
-/

set_option autoImplicit false

namespace QuincyTun.Linux

open QuincyTun.Foundation

def transportHLen (isV6 : Bool) (protocol : UInt8) (pkt : List UInt8) : Nat :=
  if protocol = ipProtoTcp then tcpHLen isV6 pkt else udpHLen

/-- A packet without IP options or extension headers that may be cut. -/
structure SuperPacket (isV6 : Bool) (protocol : UInt8) (pkt : List UInt8) : Prop where
  version : ipVersion pkt = if isV6 then 6 else 4
  noOptions : isV6 = false → byteAt pkt 0 &&& 0x0F = 5
  unfragmented : isV6 = false → ¬ Ipv4Fragment pkt
  kind : protocol = ipProtoTcp ∨ protocol = ipProtoUdp
  ofProtocol : ipProtocol isV6 pkt = protocol
  headerLen : protocol = ipProtoTcp → 20 ≤ tcpHLen isV6 pkt
  flags : protocol = ipProtoTcp →
    tcpFlags isV6 pkt = tcpFlagAck ∨ tcpFlags isV6 pkt = tcpFlagAck ||| tcpFlagPsh
  short : pkt.length ≤ 65535

/-- The offload header that describes such a packet, with a segment size below its payload. -/
structure Describes (isV6 : Bool) (protocol : UInt8) (pkt : List UInt8) (hdr : VirtioNetHdr) :
    Prop where
  gsoType : hdr.gsoType =
    if protocol = ipProtoTcp then if isV6 then virtioNetHdrGsoTcpv6 else virtioNetHdrGsoTcpv4
    else virtioNetHdrGsoUdpL4
  csumStart : hdr.csumStart.toNat = ipHLen isV6
  csumOffset : hdr.csumOffset.toNat = if protocol = ipProtoTcp then 16 else 6
  hdrLen : hdr.hdrLen.toNat = ipHLen isV6 + transportHLen isV6 protocol pkt
  gsoSize : 1 ≤ hdr.gsoSize.toNat
  smaller : hdr.gsoSize.toNat < (pkt.drop hdr.hdrLen.toNat).length

/-- The outputs of a call to `gsoSplit`, one in each buffer, with room for the whole packet. -/
structure Placed (bufs : List ExpandBuffer) (offset : Nat) (out : GsoState) (outOffset n inputLen : Nat) :
    Prop where
  count : bufs.length = n
  room : virtioNetHdrLen ≤ offset
  packet : ∀ k < n, packetAt offset bufs k = out.packet outOffset k
  capacity : ∀ buf ∈ bufs, 2 * offset + inputLen ≤ buf.capacity

section Segments

variable {isV6 : Bool} {protocol : UInt8} {hdr : VirtioNetHdr} {pkt seg : List UInt8}

theorem minTransportHLen_le (packet : SuperPacket isV6 protocol pkt) :
    minTransportHLen protocol ≤ transportHLen isV6 protocol pkt := by
  rcases packet.kind with rfl | rfl
  · exact packet.headerLen rfl
  · exact le_rfl

theorem Describes.offloaded (describes : Describes isV6 protocol pkt hdr)
    (packet : SuperPacket isV6 protocol pkt) : Offloaded isV6 protocol hdr pkt := by
  have minimal := minTransportHLen_le packet
  have start := describes.csumStart
  have headers := describes.hdrLen
  have smaller := describes.smaller
  have size := describes.gsoSize
  rw [List.length_drop] at smaller
  constructor
  case ip => exact start.ge
  case stop => exact describes.csumOffset
  case ofProtocol =>
    rw [describes.gsoType]
    rcases packet.kind with rfl | rfl <;> cases isV6 <;> rfl
  case transport => omega
  case gsoSize => exact UInt16.pos_iff_ne_zero.mp size
  case headers => omega
  case short =>
    have short := packet.short
    omega

theorem SegmentOf.eligible {size i : Nat} (packet : SuperPacket isV6 protocol pkt)
    (segment : SegmentOf isV6 protocol (ipHLen isV6) (ipHLen isV6 + transportHLen isV6 protocol pkt)
      size pkt i seg) :
    Eligible isV6 protocol (transportHLen isV6 protocol pkt) seg := by
  have minimal := minTransportHLen_le packet
  have twenty := twenty_le_ipHLen isV6
  have long := segment.header_lt
  have byte : ∀ k < 10, (k < 2 ∨ 5 < k) → byteAt seg k = byteAt pkt k := by
    intro k small apart
    refine segment.headers.byteAt ⟨⟨by omega, ?_, fun _ => by omega, fun _ => by omega⟩, by omega⟩
    cases isV6 <;> simp only [ipKept, Bool.false_eq_true, if_true, if_false] <;> omega
  have shorter : seg.length ≤ pkt.length := by
    have cut := congrArg List.length segment.payload
    rw [List.length_drop, List.length_take, List.length_drop, List.length_drop] at cut
    omega
  refine ⟨⟨?_, ?_, ?_, by omega⟩, shorter.trans packet.short, segment.ipLength, ?_, long⟩
  · rw [ipVersion, byte 0 (by decide) (by decide)]
    exact packet.version
  · intro ipv4
    rw [byte 0 (by decide) (by decide)]
    exact packet.noOptions ipv4
  · rw [← packet.ofProtocol, ipProtocol, ipProtocol]
    cases isV6
    · exact byte 9 (by decide) (by decide)
    · exact byte 6 (by decide) (by decide)
  · intro ipv4
    rw [Ipv4Fragment, byte 6 (by decide) (by decide), byte 7 (by decide) (by decide)]
    exact packet.unfragmented ipv4

/-- A segment keeps ACK, and only the last one may keep PSH. -/
theorem SegmentOf.tcpEligible {size i : Nat} (packet : SuperPacket isV6 ipProtoTcp pkt)
    (segment : SegmentOf isV6 ipProtoTcp (ipHLen isV6)
      (ipHLen isV6 + transportHLen isV6 ipProtoTcp pkt) size pkt i seg) : TcpEligible isV6 seg := by
  have eligible := segment.eligible packet
  have flags := segment.flags rfl
  have same := segment.sameTcpHeader (packet.headerLen rfl)
  have headerLen : transportHLen isV6 ipProtoTcp pkt = tcpHLen isV6 seg := same.headerLen.symm
  refine ⟨headerLen ▸ eligible, headerLen ▸ packet.headerLen rfl, ?_⟩
  change tcpFlags isV6 seg = if _ then tcpFlags isV6 pkt else tcpFlags isV6 pkt &&& _ at flags
  rw [flags]
  split
  · exact packet.flags rfl
  · rcases packet.flags rfl with ack | push
    · rw [ack]
      decide
    · rw [push]
      decide

theorem SegmentOf.payloadOf {size i : Nat} (packet : SuperPacket isV6 protocol pkt)
    (segment : SegmentOf isV6 protocol (ipHLen isV6) (ipHLen isV6 + transportHLen isV6 protocol pkt)
      size pkt i seg) :
    payloadOf seg = seg.drop (ipHLen isV6 + transportHLen isV6 protocol pkt) := by
  rcases packet.kind with rfl | rfl
  · rw [(segment.tcpEligible packet).payloadOf, tcpPayload,
      (segment.sameTcpHeader (packet.headerLen rfl)).headerLen]
    rfl
  · have eligible : UdpEligible isV6 seg := segment.eligible packet
    rw [eligible.payloadOf]
    rfl

end Segments

/-! ## The segments are a stream -/

section Streams

variable {isV6 : Bool} {protocol : UInt8} {hdr : VirtioNetHdr} {out out' : GsoState}
  {bufs : List ExpandBuffer} {offset outOffset n : Nat}

theorem Describes.segmentation (describes : Describes isV6 protocol out.input hdr)
    (packet : SuperPacket isV6 protocol out.input)
    (accepted : gsoSplit out hdr outOffset isV6 = .ok (out', .ok n)) :
    Segmentation isV6 hdr out.input outOffset n out' := by
  have offloaded := describes.offloaded packet
  obtain ⟨rfl, outputs⟩ := offloaded.accepted accepted
  obtain rfl := offloaded.ofProtocol
  exact offloaded.segmentation outputs

theorem Segmentation.count_bounds {input : List UInt8}
    (segmentation : Segmentation isV6 hdr input outOffset n out')
    (describes : Describes isV6 protocol input hdr) (short : input.length ≤ 65535) :
    2 ≤ n ∧ n ≤ 65535 := by
  obtain ⟨enough, inside⟩ := segmentCount_bounds input describes.gsoSize
  have smaller := describes.smaller
  have positive := describes.gsoSize
  rw [List.length_drop] at smaller
  rw [← segmentation.count] at enough inside
  have several : 2 ≤ n := by
    by_contra few
    have bound := Nat.mul_le_mul_right hdr.gsoSize.toNat (show n ≤ 1 by omega)
    omega
  have last := inside (n - 1) (by omega)
  have bound := Nat.mul_le_mul_left (n - 1) positive
  omega

variable (packet : SuperPacket isV6 protocol out.input)
  (describes : Describes isV6 protocol out.input hdr)
  (segmentation : Segmentation isV6 hdr out.input outOffset n out')
  (placed : Placed bufs offset out' outOffset n out.input.length)

include packet describes segmentation placed

theorem Placed.segment {k : Nat} (inside : k < n) :
    SegmentOf isV6 protocol (ipHLen isV6) (ipHLen isV6 + transportHLen isV6 protocol out.input)
      hdr.gsoSize.toNat out.input k (packetAt offset bufs k) := by
  have segment := segmentation.segment k inside
  rwa [(describes.offloaded packet).ofProtocol, describes.csumStart, describes.hdrLen,
    ← placed.packet k inside] at segment

theorem Placed.payloadOf {k : Nat} (inside : k < n) :
    payloadOf (packetAt offset bufs k) = out'.payload hdr.hdrLen.toNat outOffset k := by
  rw [(placed.segment packet describes segmentation inside).payloadOf packet, GsoState.payload,
    placed.packet k inside, describes.hdrLen]

theorem Placed.payloads : ((List.range n).flatMap fun k => Linux.payloadOf (packetAt offset bufs k)) =
    out.input.drop (ipHLen isV6 + transportHLen isV6 protocol out.input) := by
  rw [← describes.hdrLen, ← segmentation.payloads]
  exact List.flatMap_congr fun k member =>
    placed.payloadOf packet describes segmentation (List.mem_range.mp member)

theorem Placed.groupLength : groupLength offset bufs 0 (List.range n) = out.input.length := by
  obtain ⟨several, -⟩ := segmentation.count_bounds describes packet.short
  have first := placed.segment packet describes segmentation (show 0 < n by omega)
  have long := first.header_lt
  have headers := (describes.offloaded packet).headers
  have total := congrArg List.length (placed.payloads packet describes segmentation)
  rw [List.length_flatMap, List.length_drop] at total
  rw [Linux.groupLength, total, first.payloadOf packet, List.length_drop]
  rw [describes.hdrLen] at headers
  omega

theorem Placed.stream : Stream bufs offset isV6 protocol hdr.gsoSize.toNat := by
  obtain ⟨several, -⟩ := segmentation.count_bounds describes packet.short
  have total := placed.groupLength packet describes segmentation
  have segments := fun k inside => placed.segment packet describes segmentation (k := k) inside
  have payloads := fun k inside => placed.payloadOf packet describes segmentation (k := k) inside
  have capacity := placed.capacity
  obtain rfl := placed.count
  constructor
  case several => exact several
  case room =>
    have here : bufs[0]? = some bufs[0] := List.getElem?_eq_getElem (by omega)
    rw [total, capacityAt_of_getElem? here]
    exact capacity _ (List.getElem_mem _)
  case verifies => exact fun k inside => (segments k inside).wellFormed.transport
  case full =>
    intro k inside
    rw [payloads k (by omega)]
    exact segmentation.full k inside
  case small =>
    intro k inside
    rw [payloads k inside]
    by_cases last : k + 1 = bufs.length
    · exact (segmentation.last k last).2
    · exact (segmentation.full k (by omega)).le

theorem Placed.valid : ValidBatch bufs offset bufs.length := by
  obtain ⟨-, few⟩ := segmentation.count_bounds describes packet.short
  have segments := fun k inside => placed.segment packet describes segmentation (k := k) inside
  have room := placed.room
  obtain rfl := placed.count
  refine ⟨few, fun k buf inside found => ⟨room, ?_⟩⟩
  have long := (segments k inside).header_lt
  rw [packetAt_of_getElem? found, List.length_drop] at long
  omega

end Streams

section Protocols

variable {isV6 : Bool} {hdr : VirtioNetHdr} {out out' : GsoState} {bufs : List ExpandBuffer}
  {offset outOffset n : Nat}

theorem Placed.tcpStream (packet : SuperPacket isV6 ipProtoTcp out.input)
    (describes : Describes isV6 ipProtoTcp out.input hdr)
    (segmentation : Segmentation isV6 hdr out.input outOffset n out')
    (placed : Placed bufs offset out' outOffset n out.input.length) :
    TcpStream bufs offset isV6 hdr.gsoSize.toNat := by
  obtain ⟨several, -⟩ := segmentation.count_bounds describes packet.short
  have stream := placed.stream packet describes segmentation
  have segments := fun k inside => placed.segment packet describes segmentation (k := k) inside
  have flags := segmentation.flags (describes.offloaded packet).ofProtocol
  rw [describes.csumStart] at flags
  have packets := placed.packet
  obtain rfl := placed.count
  have same : ∀ k < bufs.length, SameTcpHeader isV6 (packetAt offset bufs k) out.input :=
    fun k inside => (segments k inside).sameTcpHeader (packet.headerLen rfl)
  have seq : ∀ k < bufs.length, tcpSeq isV6 (packetAt offset bufs k) =
      tcpSeq isV6 out.input + UInt32.ofNat (k * hdr.gsoSize.toNat) :=
    fun k inside => (segments k inside).seq rfl
  refine { stream with eligible := ?_, sameHeader := ?_, seq := ?_, noPsh := ?_ }
  · exact fun k inside => (segments k inside).tcpEligible packet
  · exact fun k inside => (same k inside).trans (same 0 (by omega)).symm
  · intro k inside
    rw [seq k inside, seq 0 (by omega), Nat.zero_mul]
    exact congrArg (· + _) (UInt32.add_zero _).symm
  · intro k inside
    rw [packets k (by omega), tcpFlags, flags k (by omega), if_neg (by omega)]
    rcases packet.flags rfl with ack | push
    · change tcpFlags isV6 out.input &&& _ = _
      rw [ack]
      decide
    · change tcpFlags isV6 out.input &&& _ = _
      rw [push]
      decide

theorem Placed.udpStream (packet : SuperPacket isV6 ipProtoUdp out.input)
    (describes : Describes isV6 ipProtoUdp out.input hdr)
    (segmentation : Segmentation isV6 hdr out.input outOffset n out')
    (placed : Placed bufs offset out' outOffset n out.input.length) :
    UdpStream bufs offset isV6 hdr.gsoSize.toNat := by
  obtain ⟨several, -⟩ := segmentation.count_bounds describes packet.short
  have stream := placed.stream packet describes segmentation
  have segments := fun k inside => placed.segment packet describes segmentation (k := k) inside
  obtain rfl := placed.count
  have same : ∀ k < bufs.length, SameUdpHeader isV6 (packetAt offset bufs k) out.input :=
    fun k inside => (segments k inside).sameUdpHeader
  refine { stream with eligible := ?_, sameHeader := ?_ }
  · exact fun k inside => (segments k inside).eligible packet
  · exact fun k inside => (same k inside).trans (same 0 (by omega)).symm

end Protocols

/-! ## Joining the segments -/

/-- The first buffer holds the packet again, behind its own offload header. -/
structure Restored (host : Host) (offset : Nat) (isV6 : Bool) (protocol : UInt8) (hdr : VirtioNetHdr)
    (pkt : List UInt8) (s : GroState) : Prop where
  toWrite : s.toWrite = [0]
  header : ∃ buf, s.bufs[0]? = some buf ∧
    VirtioNetHdr.decode host.bigEndian (buf.virtioHeader offset) =
      .ok { hdr with flags := virtioNetHdrFNeedsCsum }
  tcp : protocol = ipProtoTcp → SameTcpSegment isV6 (packetAt offset s.bufs 0) pkt ∧
    tcpFlags isV6 (packetAt offset s.bufs 0) = tcpFlags isV6 pkt
  udp : protocol = ipProtoUdp → SameUdpDatagram isV6 (packetAt offset s.bufs 0) pkt

section Join

variable {host : Host} {isV6 canUdpGro : Bool} {hdr : VirtioNetHdr} {out out' : GsoState}
  {s final : GroState} {offset outOffset n : Nat}

/-- A call whose packets end in one group returns when that group is not too long. -/
theorem returns_oneGroup (fresh : FreshState s) (valid : ValidBatch s.bufs offset s.bufs.length)
    (one : (groGroups host offset canUdpGro s s.bufs.length).OneGroup s.bufs.length)
    (short : groupLength offset s.bufs 0 (List.range s.bufs.length) ≤ 65535) :
    ∃ s' final, handleGro host offset canUdpGro s = .ok (s', .ok ()) ∧ s'.toWrite = [0] ∧
      Returns host offset canUdpGro s final s' ∧
      ∀ k, MergedAt final k → (packetAt offset s'.bufs k).length ≤ 65535 := by
  obtain ⟨s', final, ran, ret, bounded⟩ := returns_of_short host canUdpGro fresh valid
    fun reached inv k merged => by
      have member := ((inv.mergedAt_iff k).mp merged).1
      obtain rfl : k = 0 := List.mem_singleton.mp (one.heads ▸ member)
      rwa [inv.length_packet valid member, one.parts]
  refine ⟨s', final, ran, ?_, ret, bounded⟩
  rw [ret.completed.toWrite, ret.inv.toWrite, one.heads]

variable {item : TcpGROItem} {buf : ExpandBuffer}

theorem VirtioNetHdr.eq_of_fields {a b : VirtioNetHdr} (flags : a.flags = b.flags)
    (gsoType : a.gsoType = b.gsoType) (hdrLen : a.hdrLen.toNat = b.hdrLen.toNat)
    (gsoSize : a.gsoSize.toNat = b.gsoSize.toNat) (csumStart : a.csumStart.toNat = b.csumStart.toNat)
    (csumOffset : a.csumOffset.toNat = b.csumOffset.toNat) : a = b := by
  cases a
  cases b
  simp only [VirtioNetHdr.mk.injEq]
  exact ⟨flags, gsoType, UInt16.toNat_inj.mp hdrLen, UInt16.toNat_inj.mp gsoSize,
    UInt16.toNat_inj.mp csumStart, UInt16.toNat_inj.mp csumOffset⟩

theorem Placed.tcp_offload (packet : SuperPacket item.key.isV6 ipProtoTcp out.input)
    (describes : Describes item.key.isV6 ipProtoTcp out.input hdr)
    (segmentation : Segmentation item.key.isV6 hdr out.input outOffset n out')
    (placed : Placed s.bufs offset out' outOffset n out.input.length)
    (holds : TcpHolds s.bufs offset item (List.range n) buf) :
    item.offload = { hdr with flags := virtioNetHdrFNeedsCsum } := by
  obtain ⟨several, -⟩ := segmentation.count_bounds describes packet.short
  have segment := placed.segment packet describes segmentation (show 0 < n by omega)
  have headerLen := (holds.group.sameHeader _ (mem_packets_zero (by omega))).headerLen
  have original := (segment.sameTcpHeader (packet.headerLen rfl)).headerLen
  apply VirtioNetHdr.eq_of_fields
  case flags => rfl
  case gsoType => exact describes.gsoType.symm
  case hdrLen => rw [holds.group.hdrLen, ← headerLen, original]; exact describes.hdrLen.symm
  case gsoSize =>
    change item.gsoSize.toNat = hdr.gsoSize.toNat
    rw [← holds.length_first (head?_range_pos (by omega)) (by rwa [List.length_range]),
      placed.payloadOf packet describes segmentation (by omega)]
    exact segmentation.full 0 (by omega)
  case csumStart => rw [holds.group.csumStart]; exact describes.csumStart.symm
  case csumOffset => exact describes.csumOffset.symm

theorem Placed.tcp_same (packet : SuperPacket item.key.isV6 ipProtoTcp out.input)
    (describes : Describes item.key.isV6 ipProtoTcp out.input hdr)
    (segmentation : Segmentation item.key.isV6 hdr out.input outOffset n out')
    (placed : Placed s.bufs offset out' outOffset n out.input.length)
    (holds : TcpHolds s.bufs offset item (List.range n) buf) :
    SameTcpSegment item.key.isV6 (buf.bytes.drop offset) out.input ∧
      tcpFlags item.key.isV6 (buf.bytes.drop offset) = tcpFlags item.key.isV6 out.input := by
  obtain ⟨several, -⟩ := segmentation.count_bounds describes packet.short
  have segment := placed.segment packet describes segmentation (show 0 < n by omega)
  have first : ((List.range n).map (packetAt offset s.bufs))[0]? =
      some (packetAt offset s.bufs 0) := by
    rw [List.getElem?_map, List.getElem?_range (by omega), Option.map_some]
  have header := (holds.group.sameHeader _ (List.mem_of_getElem? first)).symm.trans
    (segment.sameTcpHeader (packet.headerLen rfl))
  refine ⟨⟨header, ?_, ?_⟩, ?_⟩
  · -- The stream starts where the first segment starts.
    have start := holds.group.seq 0 _ first
    have own : tcpSeq item.key.isV6 (packetAt offset s.bufs 0) =
        tcpSeq item.key.isV6 out.input + UInt32.ofNat (0 * hdr.gsoSize.toNat) := segment.seq rfl
    rw [own, Nat.zero_mul, Nat.zero_mul] at start
    rw [holds.group.curSeq]
    exact ((UInt32.add_left_inj _).mp start).symm
  · rw [holds.payload_parts, placed.payloads packet describes segmentation]
    rfl
  · -- Only the last segment can have PSH, and it came behind the others.
    have last : (List.range n).getLast? = some (n - 1) := by
      rw [List.getLast?_range, if_neg (by omega)]
    have inOrder : FrontFirst (List.range n) := by
      obtain ⟨m, rfl⟩ : ∃ m, n = m + 1 := ⟨n - 1, by omega⟩
      rw [List.range_succ]
      exact frontFirst_concat fun k member => List.mem_range.mp member
    have flags := segmentation.flags (describes.offloaded packet).ofProtocol (n - 1) (by omega)
    rw [if_pos (by omega), ← placed.packet _ (by omega), describes.csumStart] at flags
    have own : tcpFlags item.key.isV6 (packetAt offset s.bufs (n - 1)) =
        tcpFlags item.key.isV6 out.input := flags
    have pushed := holds.tcpPsh_last last
    rw [tcpPsh, own] at pushed
    rw [holds.flags, ← pushed]
    rcases packet.flags rfl with ack | push
    · rw [ack, if_neg fun both => absurd both.1 (by decide)]
    · rw [push, if_pos ⟨by decide, inOrder⟩]

theorem Placed.udp_offload {item : UdpGROItem} (packet : SuperPacket item.key.isV6 ipProtoUdp out.input)
    (describes : Describes item.key.isV6 ipProtoUdp out.input hdr)
    (segmentation : Segmentation item.key.isV6 hdr out.input outOffset n out')
    (placed : Placed s.bufs offset out' outOffset n out.input.length)
    (holds : UdpHolds s.bufs offset item (List.range n) buf) :
    item.offload = { hdr with flags := virtioNetHdrFNeedsCsum } := by
  obtain ⟨several, -⟩ := segmentation.count_bounds describes packet.short
  apply VirtioNetHdr.eq_of_fields
  case flags => rfl
  case gsoType => exact describes.gsoType.symm
  case hdrLen => rw [holds.group.hdrLen]; exact describes.hdrLen.symm
  case gsoSize =>
    change item.gsoSize.toNat = hdr.gsoSize.toNat
    rw [← holds.length_first (head?_range_pos (by omega)) (by rwa [List.length_range]),
      placed.payloadOf packet describes segmentation (by omega)]
    exact segmentation.full 0 (by omega)
  case csumStart => rw [holds.group.csumStart]; exact describes.csumStart.symm
  case csumOffset => exact describes.csumOffset.symm

theorem Placed.udp_same {item : UdpGROItem} (packet : SuperPacket item.key.isV6 ipProtoUdp out.input)
    (describes : Describes item.key.isV6 ipProtoUdp out.input hdr)
    (segmentation : Segmentation item.key.isV6 hdr out.input outOffset n out')
    (placed : Placed s.bufs offset out' outOffset n out.input.length)
    (holds : UdpHolds s.bufs offset item (List.range n) buf) :
    SameUdpDatagram item.key.isV6 (buf.bytes.drop offset) out.input := by
  obtain ⟨several, -⟩ := segmentation.count_bounds describes packet.short
  have segment := placed.segment packet describes segmentation (show 0 < n by omega)
  refine ⟨(holds.group.sameHeader _ (mem_packets_zero (by omega))).symm.trans
    segment.sameUdpHeader, ?_⟩
  rw [holds.payload_parts, placed.payloads packet describes segmentation]
  rfl

theorem Placed.tcp_restored (host : Host) (canUdpGro : Bool)
    (packet : SuperPacket isV6 ipProtoTcp out.input)
    (describes : Describes isV6 ipProtoTcp out.input hdr)
    (segmentation : Segmentation isV6 hdr out.input outOffset n out')
    (placed : Placed s.bufs offset out' outOffset n out.input.length) (fresh : FreshState s) :
    ∃ s', handleGro host offset canUdpGro s = .ok (s', .ok ()) ∧
      Restored host offset isV6 ipProtoTcp hdr out.input s' := by
  have valid := placed.valid packet describes segmentation
  have stream := placed.tcpStream packet describes segmentation
  have total := placed.groupLength packet describes segmentation
  have count := placed.count
  obtain ⟨several, -⟩ := segmentation.count_bounds describes packet.short
  have one := stream.oneGroup host canUdpGro fresh valid
  obtain ⟨s', final, ran, toWrite, ret, short⟩ := returns_oneGroup fresh valid one
    (by rw [count, total]; exact packet.short)
  -- All segments are in one group, so a single item is left and its packet is the one written.
  obtain ⟨item, live, merged⟩ := ret.inv.merged_tcp one (by omega) (stream.eligible 0 (by omega))
  obtain ⟨-, zero⟩ := ret.inv.tcp_only one live
  obtain ⟨-, buf, here, holds⟩ := ret.inv.tcpHolds live
  obtain ⟨held, buf', found, found', emits⟩ := ret.tcp_emits live (UInt16.pos_iff_ne_zero.mp merged)
    (short _ (.inl ⟨item, live, rfl, merged⟩))
  obtain rfl := Option.some.inj (here.symm.trans found)
  rw [zero] at found' holds
  rw [one.parts, count] at holds
  obtain rfl := stream.isV6_held holds (by omega)
  obtain ⟨same, flags⟩ := placed.tcp_same packet describes segmentation holds
  have accounted := sameTcpSegment_accountedPacket holds.group.headerLen
  refine ⟨s', ran, toWrite, ⟨buf', found', ?_⟩, fun _ => ?_, fun udp => absurd udp (by decide)⟩
  · rw [← placed.tcp_offload packet describes segmentation holds]
    exact emits.decode
  · rw [packetAt_of_getElem? found', emits.packet, tcpFlags_accountedPacket]
    exact ⟨⟨accounted.toSameTcpHeader.trans same.toSameTcpHeader, accounted.seq.trans same.seq,
      accounted.payload.trans same.payload⟩, flags⟩

theorem Placed.udp_restored (host : Host) (packet : SuperPacket isV6 ipProtoUdp out.input)
    (describes : Describes isV6 ipProtoUdp out.input hdr)
    (segmentation : Segmentation isV6 hdr out.input outOffset n out')
    (placed : Placed s.bufs offset out' outOffset n out.input.length) (fresh : FreshState s) :
    ∃ s', handleGro host offset true s = .ok (s', .ok ()) ∧
      Restored host offset isV6 ipProtoUdp hdr out.input s' := by
  have valid := placed.valid packet describes segmentation
  have stream := placed.udpStream packet describes segmentation
  have total := placed.groupLength packet describes segmentation
  have count := placed.count
  obtain ⟨several, -⟩ := segmentation.count_bounds describes packet.short
  have one := stream.oneGroup host fresh valid
  obtain ⟨s', final, ran, toWrite, ret, short⟩ := returns_oneGroup fresh valid one
    (by rw [count, total]; exact packet.short)
  obtain ⟨item, live, merged⟩ := ret.inv.merged_udp one (by omega) (stream.eligible 0 (by omega))
  obtain ⟨-, zero⟩ := ret.inv.udp_only one live
  obtain ⟨-, buf, here, holds⟩ := ret.inv.udpHolds live
  obtain ⟨held, buf', found, found', emits⟩ := ret.udp_emits live (UInt16.pos_iff_ne_zero.mp merged)
    (short _ (.inr ⟨item, live, rfl, merged⟩))
  obtain rfl := Option.some.inj (here.symm.trans found)
  rw [zero] at found' holds
  rw [one.parts, count] at holds
  obtain rfl := stream.isV6_held holds (by omega)
  have same := placed.udp_same packet describes segmentation holds
  have accounted := sameUdpDatagram_accountedPacket item.key.isV6 (buf.bytes.drop offset)
  refine ⟨s', ran, toWrite, ⟨buf', found', ?_⟩, fun tcp => absurd tcp (by decide), fun _ => ?_⟩
  · rw [← placed.udp_offload packet describes segmentation holds]
    exact emits.decode
  · rw [packetAt_of_getElem? found', emits.packet]
    exact ⟨accounted.toSameUdpHeader.trans same.toSameUdpHeader,
      accounted.payload.trans same.payload⟩

/-- Joining what was cut out of a packet restores it. -/
theorem gso_gro_restores {protocol : UInt8} (host : Host) (canUdpGro : Bool)
    (packet : SuperPacket isV6 protocol out.input) (describes : Describes isV6 protocol out.input hdr)
    (accepted : gsoSplit out hdr outOffset isV6 = .ok (out', .ok n))
    (placed : Placed s.bufs offset out' outOffset n out.input.length) (fresh : FreshState s)
    (enabled : protocol = ipProtoUdp → canUdpGro = true) :
    ∃ s', handleGro host offset canUdpGro s = .ok (s', .ok ()) ∧
      Restored host offset isV6 protocol hdr out.input s' := by
  have segmentation := describes.segmentation packet accepted
  rcases packet.kind with rfl | rfl
  · exact placed.tcp_restored host canUdpGro packet describes segmentation fresh
  · obtain rfl := enabled rfl
    exact placed.udp_restored host packet describes segmentation fresh

theorem batchOf_placed (out : GsoState) (outOffset n : Nat) {inputLen capacity : Nat}
    (enough : 2 * virtioNetHdrLen + inputLen ≤ capacity) :
    Placed (batchOf capacity ((List.range n).map (out.packet outOffset))).bufs virtioNetHdrLen out
      outOffset n inputLen where
  count := by rw [batchOf, List.length_map, List.length_map, List.length_range]
  room := le_rfl
  packet k inside := packetAt_batchOf (by
    rw [List.getElem?_map, List.getElem?_range inside, Option.map_some])
  capacity buf member := by
    obtain ⟨pkt, -, rfl⟩ := List.mem_map.mp member
    exact enough.trans (Nat.le_max_left ..)

theorem gso_gro_restores_large : ∃ out' s',
    gsoSplit largeSegment largeSegmentHdr 0 false = .ok (out', .ok 3) ∧
      handleGro plainHost 10 true (batchOf 200 ((List.range 3).map (out'.packet 0))) =
        .ok (s', .ok ()) ∧
      Restored plainHost 10 false ipProtoTcp largeSegmentHdr largeSegment.input s' := by
  have packet : SuperPacket false ipProtoTcp largeSegment.input := by
    constructor <;> decide +kernel
  have describes : Describes false ipProtoTcp largeSegment.input largeSegmentHdr := by
    constructor <;> decide +kernel
  have run : (finalState (gsoSplit largeSegment largeSegmentHdr 0 false)).isSome = true := by
    decide +kernel
  obtain ⟨out', found⟩ := Option.isSome_iff_exists.mp run
  obtain ⟨n, accepted⟩ := finalState_eq_some found
  obtain rfl : n = 3 := (describes.segmentation packet accepted).count.trans (by decide +kernel)
  have size : largeSegment.input.length = 50 := by decide +kernel
  obtain ⟨s', ran, restored⟩ := gso_gro_restores plainHost true packet describes accepted
    (batchOf_placed out' 0 3 (by rw [size]; decide))
    (batchOf_fresh 200 ((List.range 3).map (out'.packet 0))) (fun _ => rfl)
  exact ⟨out', s', accepted, ran, restored⟩

end Join

end QuincyTun.Linux
