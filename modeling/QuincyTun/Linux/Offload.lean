import QuincyTun.Linux.ReadChecks

/-! Packets whose offload header is the one that their own headers call for.

Such a packet is cut into segments that repeat its headers, and reading it from
the device does nothing else.
-/

set_option autoImplicit false

namespace QuincyTun.Linux

open QuincyTun.Foundation

/-- The offload header matches a packet with an IP header of any length. -/
structure Offloaded (isV6 : Bool) (protocol : UInt8) (hdr : VirtioNetHdr) (pkt : List UInt8) :
    Prop where
  ip : minIphLen isV6 ≤ hdr.csumStart.toNat
  stop : hdr.csumOffset.toNat = transportCsumOffset protocol
  ofProtocol : gsoProtocol hdr.gsoType = protocol
  transport : hdr.csumStart.toNat + minTransportHLen protocol ≤ hdr.hdrLen.toNat
  gsoSize : hdr.gsoSize ≠ 0
  headers : hdr.hdrLen.toNat ≤ pkt.length
  short : hdr.hdrLen.toNat + min hdr.gsoSize.toNat (pkt.length - hdr.hdrLen.toNat) ≤ 65535

/-- Segment `i` of a packet whose headers end at `iphLen` and at `hdrLen`. -/
structure SegmentOf (isV6 : Bool) (protocol : UInt8) (iphLen hdrLen gsoSize : Nat)
    (pkt : List UInt8) (i : Nat) (seg : List UInt8) : Prop where
  header_lt : hdrLen < seg.length
  headers : AgreeOn (segmentCopies isV6 protocol iphLen hdrLen) seg pkt
  payload : seg.drop hdrLen = ((pkt.drop hdrLen).drop (i * gsoSize)).take gsoSize
  ipLength : ipLength isV6 seg = seg.length
  ipId : isV6 = false → u16At seg 4 = u16At pkt 4 + UInt16.ofNat i
  ipHeader : isV6 = false → fold (wordSum (seg.take iphLen)) = 65535
  seq : protocol = ipProtoTcp →
    u32At seg (iphLen + 4) = u32At pkt (iphLen + 4) + UInt32.ofNat (i * gsoSize)
  flags : protocol = ipProtoTcp → byteAt seg (iphLen + tcpFlagsOffset) =
    if hdrLen + (i + 1) * gsoSize ≥ pkt.length then byteAt pkt (iphLen + tcpFlagsOffset)
    else byteAt pkt (iphLen + tcpFlagsOffset) &&& ~~~(tcpFlagFin ||| tcpFlagPsh)
  udpLength : protocol = ipProtoUdp → (u16At seg (iphLen + 4)).toNat = seg.length - iphLen
  transport : TransportVerifiesFrom iphLen isV6 protocol seg

/-! ## Cutting -/

section Split

variable {isV6 : Bool} {protocol : UInt8} {hdr : VirtioNetHdr} {pkt : List UInt8} {s : GsoState}

theorem transportCsumOffset_bounds (protocol : UInt8) :
    6 ≤ transportCsumOffset protocol ∧
      transportCsumOffset protocol + 2 ≤ minTransportHLen protocol ∧
      (protocol = ipProtoTcp → transportCsumOffset protocol = 16) := by
  unfold transportCsumOffset minTransportHLen
  split
  · exact ⟨by omega, by omega, fun _ => rfl⟩
  · rename_i notTcp
    exact ⟨by omega, by decide, fun tcp => absurd tcp notTcp⟩

theorem Offloaded.ready (offloaded : Offloaded isV6 protocol hdr s.input)
    (sizes : s.outBufs.length ≤ s.sizes.length) (few : s.outBufs.length ≤ 65535) :
    GsoReady s hdr isV6 := by
  have stop := offloaded.stop
  have transport := offloaded.transport
  have headers := offloaded.headers
  have bounds := transportCsumOffset_bounds protocol
  constructor
  case sizes => exact sizes
  case few => exact few
  case gsoSize => exact offloaded.gsoSize
  case ip => exact offloaded.ip
  case transport => exact offloaded.ofProtocol ▸ transport
  case headers => exact headers
  case checksum => omega

theorem IsSegment.segmentOf {outOffset i : Nat} {seg : List UInt8}
    (offloaded : Offloaded isV6 protocol hdr pkt)
    (inside : hdr.hdrLen.toNat + i * hdr.gsoSize.toNat < pkt.length)
    (segment : IsSegment (gsoPlan hdr outOffset isV6
        (unsummed isV6 (hdr.csumStart.toNat + hdr.csumOffset.toNat) pkt))
      (unsummed isV6 (hdr.csumStart.toNat + hdr.csumOffset.toNat) pkt) i
      (hdr.hdrLen.toNat + i * hdr.gsoSize.toNat) seg) :
    SegmentOf isV6 protocol hdr.csumStart.toNat hdr.hdrLen.toNat hdr.gsoSize.toNat pkt i seg := by
  obtain ⟨ip, stop, rfl, transport, gsoSize, headers, short⟩ := offloaded
  obtain ⟨csumBehind, csumWithin, csumTcp⟩ :=
    transportCsumOffset_bounds (gsoProtocol hdr.gsoType)
  have positive : 0 < hdr.gsoSize.toNat := UInt16.pos_iff_ne_zero.mpr gsoSize
  have minimal := minIphLen_le isV6
  rw [stop] at segment
  generalize bytes : unsummed isV6
    (hdr.csumStart.toNat + transportCsumOffset (gsoProtocol hdr.gsoType)) pkt = input at segment
  have agree : AgreeOn (fun j => (isV6 = false → j ≠ 10 ∧ j ≠ 11) ∧
      ¬ (hdr.csumStart.toNat + transportCsumOffset (gsoProtocol hdr.gsoType) ≤ j ∧
        j < hdr.csumStart.toNat + transportCsumOffset (gsoProtocol hdr.gsoType) + 2)) input pkt :=
    bytes ▸ unsummed_agree isV6 _ pkt
  have size : input.length = pkt.length := bytes ▸ length_unsummed ..
  have length : seg.length = hdr.hdrLen.toNat + min hdr.gsoSize.toNat
      (pkt.length - (hdr.hdrLen.toNat + i * hdr.gsoSize.toNat)) := size ▸ segment.length
  -- Behind the IP header only the transport checksum was blanked.
  have behindIp : ∀ j, hdr.csumStart.toNat ≤ j → (isV6 = false → j ≠ 10 ∧ j ≠ 11) := by
    rintro j behind ipv4
    omega
  constructor
  case header_lt => omega
  case headers =>
    refine segment.header.trans (agree.mono fun j kept => ⟨fun ipv4 => ?_, kept.2⟩)
    have apart : ipKept isV6 j := kept.1.2.1
    rw [ipv4] at apart
    exact apart.2
  case payload =>
    have cut : seg.drop hdr.hdrLen.toNat = window input
        (hdr.hdrLen.toNat + i * hdr.gsoSize.toNat)
        (min hdr.gsoSize.toNat (pkt.length - (hdr.hdrLen.toNat + i * hdr.gsoSize.toNat))) :=
      size ▸ segment.payload
    rw [cut, agree.window fun j lower upper => ⟨behindIp j (by omega), by omega⟩, window,
      List.drop_drop, ← List.length_drop, ← List.take_eq_take_min]
  case ipLength => exact segment.ipLength
  case ipId =>
    intro ipv4
    rw [segment.ipId ipv4, agree.u16At ⟨fun _ => by omega, by omega⟩ ⟨fun _ => by omega, by omega⟩]
  case ipHeader => exact segment.ipHeader
  case seq =>
    intro tcp
    have position := csumTcp tcp
    have isTcp : isTcpGso hdr.gsoType = true := by
      by_contra notTcp
      rw [gsoProtocol, if_neg notTcp] at tcp
      exact absurd tcp (by decide)
    have first : (gsoPlan hdr outOffset isV6 input).firstTcpSeqNum =
        u32At pkt (hdr.csumStart.toNat + 4) := by
      rw [gsoPlan, if_pos isTcp]
      exact agree.u32At fun k small => ⟨behindIp _ (by omega), by omega⟩
    rw [← first, Nat.mul_comm]
    exact segment.seq tcp
  case flags =>
    intro tcp
    have position := csumTcp tcp
    have flagsAt : tcpFlagsOffset = 13 := rfl
    have own : byteAt input (hdr.csumStart.toNat + tcpFlagsOffset) =
        byteAt pkt (hdr.csumStart.toNat + tcpFlagsOffset) :=
      agree.byteAt ⟨behindIp _ (by omega), by omega⟩
    have found := segment.flags tcp
    rw [size] at found
    rw [Nat.succ_mul, ← Nat.add_assoc, ← own]
    exact found
  case udpLength => exact segment.udpLength
  case transport => exact segment.transport

def HasRoom (hdrLen gsoSize outOffset : Nat) (pkt : List UInt8) (outBufs : List (List UInt8))
    (i : Nat) : Prop :=
  ∃ buf, outBufs[i]? = some buf ∧
    outOffset + (hdrLen + (((pkt.drop hdrLen).drop (i * gsoSize)).take gsoSize).length) ≤ buf.length

def segmentCount (hdr : VirtioNetHdr) (pkt : List UInt8) : Nat :=
  (pkt.length - hdr.hdrLen.toNat + hdr.gsoSize.toNat - 1) / hdr.gsoSize.toNat

theorem segmentCount_eq {m : Nat} (lower : m * hdr.gsoSize.toNat < pkt.length - hdr.hdrLen.toNat)
    (upper : pkt.length - hdr.hdrLen.toNat ≤ (m + 1) * hdr.gsoSize.toNat) :
    segmentCount hdr pkt = m + 1 := by
  rw [Nat.succ_mul] at upper
  refine Nat.div_eq_of_lt_le ?_ ?_
  · rw [Nat.succ_mul]
    omega
  · rw [Nat.succ_mul, Nat.succ_mul]
    omega

theorem lt_segmentCount {j : Nat} (inside : hdr.hdrLen.toNat + j * hdr.gsoSize.toNat < pkt.length)
    (positive : 0 < hdr.gsoSize.toNat) : j < segmentCount hdr pkt := by
  rw [segmentCount, ← Nat.succ_le_iff, Nat.le_div_iff_mul_le positive, Nat.succ_mul]
  omega

theorem Offloaded.accepted {outOffset n : Nat} {s' : GsoState}
    (offloaded : Offloaded isV6 protocol hdr s.input)
    (ran : gsoSplit s hdr outOffset isV6 = .ok (s', .ok n)) :
    n = segmentCount hdr s.input ∧ ∀ i < n,
      s'.sizes[i]? = some (s'.packet outOffset i).length ∧
      SegmentOf isV6 protocol hdr.csumStart.toNat hdr.hdrLen.toNat hdr.gsoSize.toNat s.input i
        (s'.packet outOffset i) := by
  have ready : GsoReady s hdr isV6 := by
    by_contra unready
    obtain ⟨other, error, rejected⟩ := gsoSplit_rejects outOffset unready
    rw [ran] at rejected
    cases rejected
  have size : (s.unsummed hdr isV6).input.length = s.input.length := length_unsummed ..
  have stop : hdr.csumOffset.toNat = transportCsumOffset (gsoProtocol hdr.gsoType) :=
    offloaded.ofProtocol ▸ offloaded.stop
  have standard := gsoPlan_standard outOffset ready stop offloaded.short
  have loop := gsoPlan_ready outOffset ready
  have outcome := gsoSplit_outcome outOffset ready
  rw [ran] at outcome
  cases outcome with
  | done written =>
    refine ⟨?_, fun i below => ?_⟩
    · rw [segmentCount, ← size]
      exact written.count ready.positive
    · have inside := written.inside i (Nat.zero_le _) below
      rw [size] at inside
      have segment := written.isSegment standard loop below
      refine ⟨?_, segment.segmentOf offloaded inside⟩
      rw [written.length_packet loop below]
      exact congrArg some segment.length.symm

theorem Offloaded.split (offloaded : Offloaded isV6 protocol hdr s.input)
    (sizes : s.outBufs.length ≤ s.sizes.length) (few : s.outBufs.length ≤ 65535)
    (outOffset : Nat)
    (room : ∀ i < segmentCount hdr s.input,
      HasRoom hdr.hdrLen.toNat hdr.gsoSize.toNat outOffset s.input s.outBufs i) :
    ∃ s', gsoSplit s hdr outOffset isV6 = .ok (s', .ok (segmentCount hdr s.input)) ∧
      ∀ i < segmentCount hdr s.input,
        s'.sizes[i]? = some (s'.packet outOffset i).length ∧
        SegmentOf isV6 protocol hdr.csumStart.toNat hdr.hdrLen.toNat hdr.gsoSize.toNat s.input i
          (s'.packet outOffset i) := by
  have ready := offloaded.ready sizes few
  have fits : ∀ j, hdr.hdrLen.toNat + j * hdr.gsoSize.toNat < s.input.length →
      ∃ buf, s.outBufs[j]? = some buf ∧ outOffset + (hdr.hdrLen.toNat + min hdr.gsoSize.toNat
        (s.input.length - (hdr.hdrLen.toNat + j * hdr.gsoSize.toNat))) ≤ buf.length := by
    intro j inside
    obtain ⟨buf, found, enough⟩ := room j (lt_segmentCount inside ready.positive)
    rw [List.length_take, List.drop_drop, List.length_drop] at enough
    exact ⟨buf, found, enough⟩
  have stop : hdr.csumOffset.toNat = transportCsumOffset (gsoProtocol hdr.gsoType) :=
    offloaded.ofProtocol ▸ offloaded.stop
  obtain ⟨s', n, ran, -⟩ := gsoSplit_segments outOffset ready stop offloaded.short fits
  obtain ⟨rfl, outputs⟩ := offloaded.accepted ran
  exact ⟨s', ran, outputs⟩

/-- Behind an IP header without options, a segment is a packet that a receiver accepts. -/
theorem SegmentOf.wellFormed {hdrLen gsoSize i : Nat} {seg : List UInt8}
    (segment : SegmentOf isV6 protocol (ipHLen isV6) hdrLen gsoSize pkt i seg) :
    WellFormed isV6 protocol seg := by
  refine ⟨segment.ipLength, fun ipv4 => ?_, segment.transport⟩
  have header := segment.ipHeader ipv4
  rwa [ipv4] at header

theorem SegmentOf.sameTcpHeader {gsoSize i : Nat} {seg : List UInt8}
    (segment : SegmentOf isV6 ipProtoTcp (ipHLen isV6) (ipHLen isV6 + tcpHLen isV6 pkt) gsoSize
      pkt i seg) (minimal : 20 ≤ tcpHLen isV6 pkt) : SameTcpHeader isV6 seg pkt := by
  have position : transportCsumOffset ipProtoTcp = 16 := rfl
  have flagsAt : tcpFlagsOffset = 13 := rfl
  have front := minIphLen_le isV6
  refine SameTcpHeader.of_agree (ipHLen isV6 + tcpHLen isV6 pkt) (by omega) le_rfl
    (segment.headers.mono fun j stable => ?_)
  rcases stable with ⟨inside, kept⟩ | ⟨lower, upper, seq, rest⟩
  · exact ⟨⟨by omega, kept, fun _ => by omega, fun _ => by omega⟩, by omega⟩
  · have behind : 20 ≤ ipHLen isV6 := front
    exact ⟨⟨upper, ipKept_behind (by omega), fun _ => by omega, fun notTcp => absurd rfl notTcp⟩,
      by omega⟩

theorem SegmentOf.sameUdpHeader {gsoSize i : Nat} {seg : List UInt8}
    (segment : SegmentOf isV6 ipProtoUdp (ipHLen isV6) (ipHLen isV6 + udpHLen) gsoSize pkt i seg) :
    SameUdpHeader isV6 seg pkt := by
  have position : transportCsumOffset ipProtoUdp = 6 := rfl
  have width : udpHLen = 8 := rfl
  have behind : 20 ≤ ipHLen isV6 := minIphLen_le isV6
  refine SameUdpHeader.of_agree (segment.headers.mono fun j stable => ?_)
  rcases stable with ⟨inside, kept⟩ | ⟨lower, upper⟩
  · exact ⟨⟨by omega, kept, fun _ => by omega, fun _ => by omega⟩, by omega⟩
  · exact ⟨⟨by omega, ipKept_behind (by omega), fun tcp => absurd tcp (by decide),
      fun _ => by omega⟩, by omega⟩

end Split

/-! ## Reading from the device -/

section Read

variable {isV6 : Bool} {protocol : UInt8} {hdr : VirtioNetHdr} {s : GsoState} {offset : Nat}

theorem parsedHdrLen_self {input : List UInt8} (found : headersLen hdr input = some hdr.hdrLen.toNat) :
    parsedHdrLen hdr input = .ok (.ok hdr.hdrLen) := by
  have small := hdr.hdrLen.toNat_lt
  rw [parsedHdrLen_eq found, if_pos (by omega), UInt16.ofNat_toNat]

theorem parsedHdrLen_udp (udp : hdr.gsoType = virtioNetHdrGsoUdpL4)
    (hdrLen : hdr.hdrLen.toNat = hdr.csumStart.toNat + 8) (input : List UInt8) :
    parsedHdrLen hdr input = .ok (.ok hdr.hdrLen) :=
  parsedHdrLen_self (by rw [headersLen, if_pos udp, hdrLen])

theorem parsedHdrLen_tcp {input : List UInt8} (tcp : hdr.gsoType ≠ virtioNetHdrGsoUdpL4)
    (start : hdr.csumStart.toNat = ipHLen isV6) (long : ipHLen isV6 + 12 < input.length)
    (minimal : 20 ≤ tcpHLen isV6 input)
    (hdrLen : hdr.hdrLen.toNat = ipHLen isV6 + tcpHLen isV6 input) :
    parsedHdrLen hdr input = .ok (.ok hdr.hdrLen) := by
  refine parsedHdrLen_self ?_
  unfold headersLen
  rw [if_neg tcp, start, if_neg (by omega), hdrLen]
  exact if_neg (Nat.not_lt.mpr minimal)

theorem handleVirtioRead_split (offloaded : Offloaded isV6 protocol hdr s.input)
    (sizes : s.outBufs.length ≤ s.sizes.length) (few : s.outBufs.length ≤ 65535)
    (offsets : ∀ buf ∈ s.outBufs, offset ≤ buf.length)
    (version : ipVersion s.input = if isV6 then 6 else 4)
    (gsoType : hdr.gsoType = virtioNetHdrGsoUdpL4 ∨
      hdr.gsoType = if isV6 then virtioNetHdrGsoTcpv6 else virtioNetHdrGsoTcpv4)
    (parsed : parsedHdrLen hdr s.input = .ok (.ok hdr.hdrLen)) :
    handleVirtioRead hdr s offset = gsoSplit s hdr offset isV6 := by
  have ready := offloaded.ready sizes few
  have headers := ready.headers
  have checksum := ready.checksum
  have order : ¬ hdr.hdrLen < hdr.csumStart := by
    rw [UInt16.lt_iff_toNat_lt]
    exact Nat.not_lt.mpr ((Nat.le_add_right ..).trans ready.transport)
  have admits : Admits (s.outBufs.map List.length) s.sizes offset := by
    refine ⟨by rwa [List.length_map], by rwa [List.length_map], fun length member => ?_⟩
    obtain ⟨buf, stored, rfl⟩ := List.mem_map.mp member
    exact offsets buf stored
  rw [handleVirtioRead_segmenting admits ⟨ready.gsoSize, version, gsoType⟩, parsed, Run.ok_bind]
  unfold splitParsed
  dsimp only
  rw [if_neg (by omega), if_neg order, if_neg (by omega)]

end Read

end QuincyTun.Linux
