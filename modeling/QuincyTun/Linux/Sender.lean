import QuincyTun.Linux.GroRun
import QuincyTun.Linux.PartialChecksum

/-! Packets as a sender makes them: lengths and checksums are filled in last.

The packets carry fixed addresses and ports. They are what the statements about
batches are tried out on, so each is shown to be one that a receiver accepts.
-/

set_option autoImplicit false

namespace QuincyTun.Linux

open QuincyTun.Foundation

section Complete

variable {isV6 : Bool} {protocol : UInt8} {pkt : List UInt8}

def completedPacket (isV6 : Bool) (protocol : UInt8) (pkt : List UInt8) : List UInt8 :=
  completed (accountedPacket isV6 protocol pkt) (ipHLen isV6) (transportCsumOffset protocol)

@[simp] theorem length_completedPacket (isV6 : Bool) (protocol : UInt8) (pkt : List UInt8) :
    (completedPacket isV6 protocol pkt).length = pkt.length := by
  rw [completedPacket, length_completed, length_accountedPacket]

theorem completedPacket_agree (isV6 : Bool) (protocol : UInt8) (pkt : List UInt8) :
    AgreeOn (fun i => i < ipHLen isV6 + transportCsumOffset protocol ∨
      ipHLen isV6 + transportCsumOffset protocol + 2 ≤ i) (completedPacket isV6 protocol pkt)
      (accountedPacket isV6 protocol pkt) := completed_agree _ _ _

theorem sameIpHeader_completedPacket (isV6 : Bool) (protocol : UInt8) (pkt : List UInt8) :
    SameIpHeader isV6 (completedPacket isV6 protocol pkt) pkt :=
  (SameIpHeader.of_agree ((completedPacket_agree isV6 protocol pkt).mono fun i stable =>
    .inl (by have := stable.1; omega))).trans (sameIpHeader_accountedPacket isV6 protocol pkt)

theorem completedPacket_verifies
    (long : ipHLen isV6 + transportCsumOffset protocol + 2 ≤ pkt.length) :
    TransportVerifies isV6 protocol (completedPacket isV6 protocol pkt) := by
  have even : transportCsumOffset protocol % 2 = 0 := by
    unfold transportCsumOffset
    split <;> rfl
  have size := length_accountedPacket isV6 protocol pkt
  rw [TransportVerifies, wordSum_checksumCoverage _ (by rw [length_completedPacket]; omega),
    pseudoSum_congr (sameIpHeader_completedPacket isV6 protocol pkt) (by simp)]
  exact completed_verifies _ even (by omega)
    (by rw [partialChecksum_accountedPacket long, toNat_ofNat_fold])

theorem completedPacket_wellFormed
    (long : ipHLen isV6 + transportCsumOffset protocol + 2 ≤ pkt.length)
    (short : pkt.length ≤ 65535) :
    WellFormed isV6 protocol (completedPacket isV6 protocol pkt) := by
  have front : ∀ k ≤ ipHLen isV6, (completedPacket isV6 protocol pkt).take k =
      (accountedPacket isV6 protocol pkt).take k := fun k inside =>
    AgreeOn.take_eq ((completedPacket_agree isV6 protocol pkt).mono fun i small =>
      .inl (by omega))
  constructor
  case length =>
    rw [ipLength_congr (front _ le_rfl), ipLength_accountedPacket (by omega) short,
      length_completedPacket]
  case header =>
    rintro rfl
    rw [front 20 (by decide)]
    exact ipHeaderVerifies_accountedPacket (by omega) rfl
  case transport => exact completedPacket_verifies long

theorem completedPacket_kept (isV6 : Bool) (protocol : UInt8) (pkt : List UInt8) :
    AgreeOn (accountingKeeps isV6 protocol) (completedPacket isV6 protocol pkt) pkt :=
  ((completedPacket_agree isV6 protocol pkt).mono fun _ kept => kept.2.1).trans
    (accountedPacket_agree isV6 protocol pkt)

end Complete

/-! ## Packets -/

def blankIpHeader (isV6 : Bool) (protocol : UInt8) : List UInt8 :=
  if isV6 then
    [0x60, 0, 0, 0, 0, 0, protocol, 64] ++ [0xFD, 0, 0, 0, 0, 0, 0, 0, 0, 0, 0, 0, 0, 0, 0, 1] ++
      [0xFD, 0, 0, 0, 0, 0, 0, 0, 0, 0, 0, 0, 0, 0, 0, 2]
  else [0x45, 0, 0, 0, 0, 0, 0x40, 0, 64, protocol, 0, 0, 10, 0, 0, 1, 10, 0, 0, 2]

def blankTcpHeader (seq : UInt32) (flags : UInt8) (window : UInt16) : List UInt8 :=
  be16 4000 ++ be16 4001 ++ be32 seq ++ be32 1 ++ [0x50, flags] ++ be16 window ++ [0, 0, 0, 0]

def blankUdpHeader : List UInt8 := be16 4000 ++ be16 4001 ++ [0, 0, 0, 0]

def sentTcp (isV6 : Bool) (seq : UInt32) (flags : UInt8) (window : UInt16)
    (payload : List UInt8) : List UInt8 :=
  completedPacket isV6 ipProtoTcp
    (blankIpHeader isV6 ipProtoTcp ++ (blankTcpHeader seq flags window ++ payload))

def sentUdp (isV6 : Bool) (payload : List UInt8) : List UInt8 :=
  completedPacket isV6 ipProtoUdp (blankIpHeader isV6 ipProtoUdp ++ (blankUdpHeader ++ payload))

section Udp

variable {isV6 : Bool} {payload : List UInt8}

theorem length_sentUdp (isV6 : Bool) (payload : List UInt8) :
    (sentUdp isV6 payload).length = ipHLen isV6 + udpHLen + payload.length := by
  rw [sentUdp, length_completedPacket, List.length_append, List.length_append]
  cases isV6
  · exact (Nat.add_assoc 20 8 payload.length).symm
  · exact (Nat.add_assoc 40 8 payload.length).symm

theorem sentUdp_wellFormed (short : ipHLen isV6 + udpHLen + payload.length ≤ 65535) :
    WellFormed isV6 ipProtoUdp (sentUdp isV6 payload) := by
  have len := length_sentUdp isV6 payload
  rw [sentUdp, length_completedPacket] at len
  exact completedPacket_wellFormed (len ▸ Nat.le_add_right ..) (len ▸ short)

theorem sentUdp_eligible (nonempty : payload ≠ [])
    (short : ipHLen isV6 + udpHLen + payload.length ≤ 65535) :
    UdpEligible isV6 (sentUdp isV6 payload) := by
  have positive := List.length_pos_iff.mpr nonempty
  have len := length_sentUdp isV6 payload
  have kept : AgreeOn (accountingKeeps isV6 ipProtoUdp) (sentUdp isV6 payload)
      (blankIpHeader isV6 ipProtoUdp ++ (blankUdpHeader ++ payload)) := completedPacket_kept _ _ _
  -- The bytes that say what kind of packet it is are those of the blank header.
  have byte : ∀ i < 10, (i < 2 ∨ 5 < i) →
      byteAt (sentUdp isV6 payload) i = byteAt (blankIpHeader isV6 ipProtoUdp) i := by
    intro i small apart
    have header : i < (blankIpHeader isV6 ipProtoUdp).length := by
      refine Nat.lt_of_lt_of_le small ?_
      cases isV6 <;> decide
    rw [kept.byteAt ?_, byteAt_append_left _ _ header]
    have := twenty_le_ipHLen isV6
    cases isV6 <;> simp only [accountingKeeps, Bool.false_eq_true, if_true, if_false] <;> omega
  refine ⟨⟨?_, ?_, ?_, ?_⟩, ?_, (sentUdp_wellFormed short).length, ?_, ?_⟩
  · rw [ipVersion, byte 0 (by decide) (by decide)]
    cases isV6 <;> decide
  · rintro rfl
    rw [byte 0 (by decide) (by decide)]
    decide
  · rw [ipProtocol, byte _ (by cases isV6 <;> decide) (by cases isV6 <;> decide)]
    cases isV6 <;> decide
  · rw [len]
    exact Nat.le_add_right ..
  · rwa [len]
  · rintro rfl
    rw [Ipv4Fragment, byte 6 (by decide) (by decide), byte 7 (by decide) (by decide)]
    decide
  · omega

end Udp

/-! ## Batches -/

/-- A packet behind ten bytes in which an earlier header was left. -/
def bufferOf (capacity : Nat) (pkt : List UInt8) : ExpandBuffer where
  bytes := List.replicate virtioNetHdrLen 7 ++ pkt
  capacity := max capacity (virtioNetHdrLen + pkt.length)
  fits := by simp

/-- The packets in buffers of one capacity, before the first call with new tables. -/
def batchOf (capacity : Nat) (packets : List (List UInt8)) : GroState where
  bufs := packets.map (bufferOf capacity)
  tcpTable := FlowTable.new
  udpTable := FlowTable.new
  toWrite := []

theorem batchOf_fresh (capacity : Nat) (packets : List (List UInt8)) :
    FreshState (batchOf capacity packets) :=
  ⟨FlowTable.new_fresh, FlowTable.new_fresh, rfl⟩

theorem packetAt_batchOf {capacity k : Nat} {packets : List (List UInt8)} {pkt : List UInt8}
    (found : packets[k]? = some pkt) :
    packetAt virtioNetHdrLen (batchOf capacity packets).bufs k = pkt := by
  have here : (batchOf capacity packets).bufs[k]? = some (bufferOf capacity pkt) := by
    rw [batchOf, List.getElem?_map, found, Option.map_some]
  rw [packetAt_of_getElem? here]
  exact List.drop_left' (List.length_replicate ..)

theorem batchOf_valid (capacity : Nat) {packets : List (List UInt8)} (few : packets.length ≤ 65535)
    (nonempty : ∀ pkt ∈ packets, pkt ≠ []) (n : Nat) :
    ValidBatch (batchOf capacity packets).bufs virtioNetHdrLen n := by
  refine ⟨by rwa [batchOf, List.length_map], fun k buf _ found => ⟨le_rfl, ?_⟩⟩
  rw [batchOf, List.getElem?_map, Option.map_eq_some_iff] at found
  obtain ⟨pkt, here, rfl⟩ := found
  have positive := List.length_pos_iff.mpr (nonempty pkt (List.mem_of_getElem? here))
  simp only [bufferOf, List.length_append, List.length_replicate]
  omega

def swappedSegments : List (List UInt8) :=
  [sentTcp false 5 tcpFlagAck 4096 [5, 6, 7, 8], sentTcp false 1 tcpFlagAck 4096 [1, 2, 3, 4]]

def twoDatagrams : List (List UInt8) := [sentUdp true [1, 2, 3, 4], sentUdp true [5, 6]]

/-- A little-endian machine whose hash maps keep the order of insertion. -/
def plainHost : Host where
  bigEndian := false
  tcpOrder := ⟨id, fun _ => .refl _⟩
  udpOrder := ⟨id, fun _ => .refl _⟩

end QuincyTun.Linux
