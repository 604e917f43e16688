import QuincyTun.Linux.Push

/-! Which header fields the packets of one group have in common.

Segments get their lengths, checksums, sequence numbers and PSH anew. Every other field
of a segment is that of the head of its group. The tests before a merge compare most of
these fields, but not all.
-/

set_option autoImplicit false

namespace QuincyTun.Linux

open QuincyTun.Foundation

/-! ## Fields as bits of the header -/

def ipRecomputed (isV6 : Bool) (i : Nat) : UInt8 :=
  if isV6 then if i = 4 ∨ i = 5 then 0xFF else 0
  else if 2 ≤ i ∧ i < 6 ∨ i = 10 ∨ i = 11 then 0xFF else 0

/-- Sequence number, checksum and PSH of TCP, length and checksum of UDP. -/
def transportRecomputed (protocol : UInt8) (j : Nat) : UInt8 :=
  if protocol = ipProtoTcp then
    if 4 ≤ j ∧ j < 8 ∨ j = 16 ∨ j = 17 then 0xFF else if j = 13 then tcpFlagPsh else 0
  else if 4 ≤ j then 0xFF else 0

def ipUncompared (isV6 : Bool) (i : Nat) : UInt8 :=
  if isV6 then if i = 1 then 0x0F else if i = 2 ∨ i = 3 then 0xFF else 0 else 0

/-- The reserved bits, the window and the urgent pointer of TCP. -/
def transportUncompared (protocol : UInt8) (j : Nat) : UInt8 :=
  if protocol = ipProtoTcp then
    if j = 12 then 0x0F else if j = 14 ∨ j = 15 ∨ j = 18 ∨ j = 19 then 0xFF else 0
  else 0

def ipUnchecked (isV6 : Bool) (i : Nat) : UInt8 := ipRecomputed isV6 i ||| ipUncompared isV6 i

def transportUnchecked (protocol : UInt8) (j : Nat) : UInt8 :=
  transportRecomputed protocol j ||| transportUncompared protocol j

/-- The headers of two packets are the same but for the given bits. -/
structure DifferIn (ip transport : Nat → UInt8) (isV6 : Bool) (transportHLen : Nat)
    (a b : List UInt8) : Prop where
  ip : ∀ i < ipHLen isV6, byteAt a i ||| ip i = byteAt b i ||| ip i
  transport : ∀ j < transportHLen, byteAt a (ipHLen isV6 + j) ||| transport j =
    byteAt b (ipHLen isV6 + j) ||| transport j

/-- The packets of each merged packet differ in the given header bits at most. -/
structure MergesAlike (ip : Bool → Nat → UInt8) (transport : UInt8 → Nat → UInt8) (offset : Nat)
    (input : List ExpandBuffer) (groups : Grouping) (s : GroState) : Prop where
  tcp : ∀ item ∈ s.tcpTable.liveItems, item.numMerged > 0 →
    ∀ j ∈ groups.parts item.bufsIndex.toNat, ∀ k ∈ groups.parts item.bufsIndex.toNat,
      DifferIn (ip item.key.isV6) (transport ipProtoTcp) item.key.isV6
        (tcpHLen item.key.isV6 (packetAt offset input j)) (packetAt offset input j)
        (packetAt offset input k)
  udp : ∀ item ∈ s.udpTable.liveItems, item.numMerged > 0 →
    ∀ j ∈ groups.parts item.bufsIndex.toNat, ∀ k ∈ groups.parts item.bufsIndex.toNat,
      DifferIn (ip item.key.isV6) (transport ipProtoUdp) item.key.isV6 udpHLen
        (packetAt offset input j) (packetAt offset input k)

/-! ## What the tests compare -/

section Compared

variable {isV6 : Bool} {protocol : UInt8} {a b : List UInt8}

theorem byteAt_address (same : SameIpHeader isV6 a b) {i : Nat} (lower : srcAddrOffset isV6 ≤ i)
    (upper : i < srcAddrOffset isV6 + 2 * addrLen isV6) : byteAt a i = byteAt b i := by
  by_cases first : i < srcAddrOffset isV6 + addrLen isV6
  · exact byteAt_of_window same.src lower first
  · exact byteAt_of_window same.dst (by omega) (by omega)

theorem byteAt_ipv4 (same : SameIpHeader false a b) (candidateA : Candidate false protocol a)
    (candidateB : Candidate false protocol b) (wholeA : ¬ Ipv4Fragment a)
    (wholeB : ¬ Ipv4Fragment b) {i : Nat} (inside : i < 20) (gap : ¬ (2 ≤ i ∧ i < 6))
    (checksum : ¬ (i = 10 ∨ i = 11)) : byteAt a i = byteAt b i := by
  obtain ⟨-, offsetA⟩ := not_or.mp wholeA
  obtain ⟨-, offsetB⟩ := not_or.mp wholeB
  obtain ⟨highA, lowA⟩ := not_or.mp offsetA
  obtain ⟨highB, lowB⟩ := not_or.mp offsetB
  by_cases address : 12 ≤ i
  · exact byteAt_address same address inside
  rcases (by omega : i = 0 ∨ i = 1 ∨ i = 6 ∨ i = 7 ∨ i = 8 ∨ i = 9) with
    rfl | rfl | rfl | rfl | rfl | rfl
  · have version : byteAt a 0 >>> 4 = byteAt b 0 >>> 4 := same.version
    rw [eq_nibbles (byteAt a 0), eq_nibbles (byteAt b 0), version, candidateA.noOptions rfl,
      candidateB.noOptions rfl]
  · exact same.trafficClass
  · have flags : byteAt a 6 >>> 5 = byteAt b 6 >>> 5 := same.fragmentFlags
    rw [eq_high_bits _ (not_not.mp highA), flags, ← eq_high_bits _ (not_not.mp highB)]
  · rw [not_not.mp lowA, not_not.mp lowB]
  · exact same.hopLimit
  · exact candidateA.ofProtocol.trans candidateB.ofProtocol.symm

theorem ipv6_unchecked (same : SameIpHeader true a b) (candidateA : Candidate true protocol a)
    (candidateB : Candidate true protocol b) {i : Nat} (inside : i < 40) :
    byteAt a i ||| ipUnchecked true i = byteAt b i ||| ipUnchecked true i := by
  by_cases address : 8 ≤ i
  · rw [byteAt_address same address inside]
  obtain ⟨first, second⟩ := trafficClass_nibbles same.version same.trafficClass
  have all : ∀ x y : UInt8, x ||| (0xFF : UInt8) = y ||| (0xFF : UInt8) := fun x y =>
    (or_all x).trans (or_all y).symm
  rcases (by omega : i = 0 ∨ i = 1 ∨ i = 2 ∨ i = 3 ∨ i = 4 ∨ i = 5 ∨ i = 6 ∨ i = 7) with
    rfl | rfl | rfl | rfl | rfl | rfl | rfl | rfl
  · rw [first]
  · exact second
  · exact all _ _
  · exact all _ _
  · exact all _ _
  · exact all _ _
  · exact congrArg (· ||| _) (candidateA.ofProtocol.trans candidateB.ofProtocol.symm)
  · exact congrArg (· ||| _) same.hopLimit

theorem ip_unchecked (same : SameIpHeader isV6 a b) (candidateA : Candidate isV6 protocol a)
    (candidateB : Candidate isV6 protocol b) (wholeA : isV6 = false → ¬ Ipv4Fragment a)
    (wholeB : isV6 = false → ¬ Ipv4Fragment b) {i : Nat} (inside : i < ipHLen isV6) :
    byteAt a i ||| ipUnchecked isV6 i = byteAt b i ||| ipUnchecked isV6 i := by
  cases isV6 with
  | true => exact ipv6_unchecked same candidateA candidateB inside
  | false =>
    by_cases recomputed : 2 ≤ i ∧ i < 6 ∨ i = 10 ∨ i = 11
    · have bits : ipUnchecked false i = 0xFF := by
        simp only [ipUnchecked, ipRecomputed, ipUncompared, Bool.false_eq_true, if_false,
          if_pos recomputed, UInt8.or_zero]
      rw [bits, or_all, or_all]
    · obtain ⟨gap, checksum⟩ := not_or.mp recomputed
      rw [byteAt_ipv4 same candidateA candidateB (wholeA rfl) (wholeB rfl) inside gap checksum]

theorem tcp_unchecked (same : SameTcpHeader isV6 a b) (eligibleA : TcpEligible isV6 a)
    (eligibleB : TcpEligible isV6 b) {j : Nat} (inside : j < tcpHLen isV6 a) :
    byteAt a (ipHLen isV6 + j) ||| transportUnchecked ipProtoTcp j =
      byteAt b (ipHLen isV6 + j) ||| transportUnchecked ipProtoTcp j := by
  have all : ∀ x y : UInt8, x ||| (0xFF : UInt8) = y ||| (0xFF : UInt8) := fun x y =>
    (or_all x).trans (or_all y).symm
  obtain ⟨src₀, src₁⟩ := u16At_inj same.srcPort
  obtain ⟨dst₀, dst₁⟩ := u16At_inj same.dstPort
  by_cases option : 20 ≤ j
  · have options := same.options
    rw [tcpOptions, tcpOptions, ← same.headerLen] at options
    rw [byteAt_of_window options (i := ipHLen isV6 + j) (by omega) (by omega)]
  by_cases ack : 8 ≤ j ∧ j < 12
  · have entry := u32At_inj (k := j - 8) same.ack (by omega)
    rw [Nat.add_assoc, Nat.add_sub_cancel' ack.1] at entry
    rw [entry]
  -- What remains are the ports, which agree, and fields of which no bit or some bits are compared.
  rcases (by omega : j = 0 ∨ j = 1 ∨ j = 2 ∨ j = 3 ∨ j = 4 ∨ j = 5 ∨ j = 6 ∨ j = 7 ∨ j = 12 ∨
      j = 13 ∨ j = 14 ∨ j = 15 ∨ j = 16 ∨ j = 17 ∨ j = 18 ∨ j = 19) with
    rfl | rfl | rfl | rfl | rfl | rfl | rfl | rfl | rfl | rfl | rfl | rfl | rfl | rfl | rfl | rfl
  · exact congrArg (· ||| _) src₀
  · exact congrArg (· ||| _) src₁
  · exact congrArg (· ||| _) dst₀
  · exact congrArg (· ||| _) dst₁
  · exact all _ _
  · exact all _ _
  · exact all _ _
  · exact all _ _
  · have header : byteAt a (ipHLen isV6 + 12) >>> 4 = byteAt b (ipHLen isV6 + 12) >>> 4 :=
      UInt8.toNat_inj.mp (Nat.eq_of_mul_eq_mul_right (by decide) same.headerLen)
    have bits : transportUnchecked ipProtoTcp 12 = (0x0F : UInt8) := rfl
    rw [bits, or_low_nibble, header, ← or_low_nibble]
  · have flags : ∀ pkt, TcpEligible isV6 pkt →
        tcpFlags isV6 pkt ||| transportUnchecked ipProtoTcp 13 = tcpFlagAck ||| tcpFlagPsh := by
      intro pkt eligible
      rcases eligible.flags with flags | flags <;> rw [flags] <;> rfl
    exact (flags a eligibleA).trans (flags b eligibleB).symm
  · exact all _ _
  · exact all _ _
  · exact all _ _
  · exact all _ _
  · exact all _ _
  · exact all _ _

theorem udp_unchecked (same : SameUdpHeader isV6 a b) {j : Nat} (inside : j < udpHLen) :
    byteAt a (ipHLen isV6 + j) ||| transportUnchecked ipProtoUdp j =
      byteAt b (ipHLen isV6 + j) ||| transportUnchecked ipProtoUdp j := by
  have width : udpHLen = 8 := rfl
  obtain ⟨src₀, src₁⟩ := u16At_inj same.srcPort
  obtain ⟨dst₀, dst₁⟩ := u16At_inj same.dstPort
  by_cases recomputed : 4 ≤ j
  · have tcpIsNotUdp : ¬ ipProtoUdp = ipProtoTcp := by decide
    have bits : transportUnchecked ipProtoUdp j = 0xFF := by
      simp only [transportUnchecked, transportRecomputed, transportUncompared, tcpIsNotUdp, if_false,
        if_pos recomputed, UInt8.or_zero]
    rw [bits, or_all, or_all]
  rcases (by omega : j = 0 ∨ j = 1 ∨ j = 2 ∨ j = 3) with rfl | rfl | rfl | rfl
  · exact congrArg (· ||| _) src₀
  · exact congrArg (· ||| _) src₁
  · exact congrArg (· ||| _) dst₀
  · exact congrArg (· ||| _) dst₁

end Compared

/-! ## Merged packets -/

/-- The packets of a merged packet have the same headers, but for the fields that are recomputed
and those that no test compares. -/
theorem merged_alike {host : Host} {offset : Nat} {canUdpGro : Bool} {s s' : GroState}
    (fresh : FreshState s) (ran : handleGro host offset canUdpGro s = .ok (s', .ok ())) :
    MergesAlike ipUnchecked transportUnchecked offset s.bufs
      (groGroups host offset canUdpGro s s.bufs.length) s' := by
  obtain ⟨final, -, ret⟩ := handleGro_returns fresh ran
  constructor
  case tcp =>
    intro item live _ j first k second
    rw [ret.completed.tcpTable] at live
    obtain ⟨-, buf, -, holds⟩ := ret.inv.tcpHolds live
    have eligible := fun i member => holds.group.eligible _ (List.mem_map_of_mem (a := i) member)
    have header := fun i member => holds.group.sameHeader _ (List.mem_map_of_mem (a := i) member)
    have same := (header j first).trans (header k second).symm
    exact ⟨fun i => ip_unchecked same.toSameIpHeader (eligible j first).candidate
        (eligible k second).candidate (eligible j first).unfragmented
        (eligible k second).unfragmented,
      fun i => tcp_unchecked same (eligible j first) (eligible k second)⟩
  case udp =>
    intro item live _ j first k second
    rw [ret.completed.udpTable] at live
    obtain ⟨-, buf, -, holds⟩ := ret.inv.udpHolds live
    have eligible := fun i member => holds.group.eligible _ (List.mem_map_of_mem (a := i) member)
    have header := fun i member => holds.group.sameHeader _ (List.mem_map_of_mem (a := i) member)
    have same := (header j first).trans (header k second).symm
    exact ⟨fun i => ip_unchecked same.toSameIpHeader (eligible j first).candidate
        (eligible k second).candidate (eligible j first).unfragmented
        (eligible k second).unfragmented,
      fun i => udp_unchecked same⟩

theorem merged_alike_swapped : ∃ s',
    handleGro plainHost 10 true (batchOf 200 swappedSegments) = .ok (s', .ok ()) ∧
      mergedCount s' = 1 ∧ MergesAlike ipUnchecked transportUnchecked 10
        (batchOf 200 swappedSegments).bufs (groGroups plainHost 10 true (batchOf 200 swappedSegments) 2)
        s' := by
  have run : (finalState (handleGro plainHost 10 true (batchOf 200 swappedSegments))).map
      mergedCount = some 1 := by decide +kernel
  obtain ⟨s', _, ran, merged⟩ := of_finalState_map run
  exact ⟨s', ran, merged, merged_alike (batchOf_fresh 200 swappedSegments) ran⟩

def tcpWindow (isV6 : Bool) (pkt : List UInt8) : UInt16 := u16At pkt (ipHLen isV6 + 14)

def tcpUrgent (isV6 : Bool) (pkt : List UInt8) : UInt16 := u16At pkt (ipHLen isV6 + 18)

def tcpReserved (isV6 : Bool) (pkt : List UInt8) : UInt8 := byteAt pkt (ipHLen isV6 + 12) &&& 0x0F

def ipv6FlowLabel (pkt : List UInt8) : UInt32 := u32At pkt 0 &&& 0xFFFFF

/-- Two segments of one stream that differ in every field that no test compares. -/
def differingSegments : List (List UInt8) :=
  let second := blankIpHeader true ipProtoTcp ++ (blankTcpHeader 5 tcpFlagAck 1024 ++ [5, 6, 7, 8])
  let relabelled := overwrite second 1 [0x01, 0x02, 0x03]
  let reserved := overwrite relabelled 52 [0x5E]
  [sentTcp true 1 tcpFlagAck 4096 [1, 2, 3, 4],
    completedPacket true ipProtoTcp (overwrite reserved 58 [0, 9])]

theorem merged_differ : ∃ s',
    handleGro plainHost 10 true (batchOf 200 differingSegments) = .ok (s', .ok ()) ∧
      ¬ MergesAlike ipRecomputed transportRecomputed 10 (batchOf 200 differingSegments).bufs
        (groGroups plainHost 10 true (batchOf 200 differingSegments) 2) s' ∧
      (∃ item ∈ s'.tcpTable.liveItems, item.numMerged > 0 ∧
        (groGroups plainHost 10 true (batchOf 200 differingSegments) 2).parts
          item.bufsIndex.toNat = [0, 1]) ∧
      differingSegments.map (tcpWindow true) = [4096, 1024] ∧
      differingSegments.map ipv6FlowLabel = [0, 0x10203] ∧
      differingSegments.map (tcpReserved true) = [0, 14] ∧
      differingSegments.map (tcpUrgent true) = [0, 9] := by
  have run : (finalState (handleGro plainHost 10 true (batchOf 200 differingSegments))).map (fun s' =>
      s'.tcpTable.liveItems.map fun item => (item.bufsIndex.toNat, item.key.isV6, item.numMerged)) =
      some [(0, true, 1)] := by decide +kernel
  have parts : (groGroups plainHost 10 true (batchOf 200 differingSegments) 2).parts 0 = [0, 1] := by
    decide +kernel
  obtain ⟨s', _, ran, items⟩ := of_finalState_map run
  obtain ⟨item, live, shape⟩ := List.mem_map.mp (items ▸ List.mem_singleton_self _)
  simp only [Prod.mk.injEq] at shape
  obtain ⟨head, family, merged⟩ := shape
  have positive : item.numMerged > 0 := by
    rw [merged]
    decide
  refine ⟨s', ran, fun alike => ?_, ⟨item, live, positive, by rw [head, parts]⟩, ?_⟩
  · have same := (alike.tcp item live positive 0 (by rw [head, parts]; decide) 1
      (by rw [head, parts]; decide)).transport 14 (by rw [family]; decide +kernel)
    rw [family] at same
    revert same
    decide +kernel
  · decide +kernel

end QuincyTun.Linux
