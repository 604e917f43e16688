import QuincyTun.Linux.PacketFields

/-! The packet that accounting leaves behind, as a function of the joined packet.

Only the length fields, the IPv4 header checksum and the transport checksum are
written. The transport checksum is left partial: it holds the folded sum of the
pseudo-header, to which the consumer adds the rest of the packet.
-/

set_option autoImplicit false

namespace QuincyTun.Linux

open QuincyTun.Foundation

def transportCsumOffset (protocol : UInt8) : Nat := if protocol = ipProtoTcp then 16 else 6

/-- The packet with the length field and the header checksum of its length. -/
def ipAccounted (isV6 : Bool) (pkt : List UInt8) : List UInt8 :=
  if isV6 then overwrite pkt 4 (be16 (UInt16.ofNat (pkt.length - 40)))
  else
    let blank := overwrite (overwrite pkt 10 [0, 0]) 2 (be16 (UInt16.ofNat pkt.length))
    overwrite blank 10 (be16 (~~~ UInt16.ofNat (fold (wordSum (blank.take 20)))))

def udpAccounted (isV6 : Bool) (protocol : UInt8) (pkt : List UInt8) : List UInt8 :=
  if protocol = ipProtoUdp then
    overwrite pkt (ipHLen isV6 + 4) (be16 (UInt16.ofNat (pkt.length - ipHLen isV6)))
  else pkt

def pseudoSum (isV6 : Bool) (protocol : UInt8) (pkt : List UInt8) : Nat :=
  wordSum (pseudoHeader protocol (srcAddress isV6 pkt) (dstAddress isV6 pkt)
    (UInt16.ofNat (pkt.length - ipHLen isV6)))

def accountedPacket (isV6 : Bool) (protocol : UInt8) (pkt : List UInt8) : List UInt8 :=
  overwrite (udpAccounted isV6 protocol (ipAccounted isV6 pkt))
    (ipHLen isV6 + transportCsumOffset protocol)
    (be16 (UInt16.ofNat (fold (pseudoSum isV6 protocol pkt))))

/-- The positions that accounting leaves alone. -/
def accountingKeeps (isV6 : Bool) (protocol : UInt8) (i : Nat) : Prop :=
  (if isV6 then i ≠ 4 ∧ i ≠ 5 else i ≠ 2 ∧ i ≠ 3 ∧ i ≠ 10 ∧ i ≠ 11) ∧
    (i < ipHLen isV6 + transportCsumOffset protocol ∨
      ipHLen isV6 + transportCsumOffset protocol + 2 ≤ i) ∧
    (protocol = ipProtoUdp → i < ipHLen isV6 + 4 ∨ ipHLen isV6 + 6 ≤ i)

section Facts

variable {isV6 : Bool} {protocol : UInt8} {pkt : List UInt8}

@[simp] theorem length_ipAccounted (isV6 : Bool) (pkt : List UInt8) :
    (ipAccounted isV6 pkt).length = pkt.length := by
  cases isV6 <;> simp [ipAccounted]

@[simp] theorem length_udpAccounted (isV6 : Bool) (protocol : UInt8) (pkt : List UInt8) :
    (udpAccounted isV6 protocol pkt).length = pkt.length := by
  unfold udpAccounted
  split <;> simp

@[simp] theorem length_accountedPacket (isV6 : Bool) (protocol : UInt8) (pkt : List UInt8) :
    (accountedPacket isV6 protocol pkt).length = pkt.length := by
  simp [accountedPacket]

theorem ipAccounted_agree (isV6 : Bool) (pkt : List UInt8) :
    AgreeOn (fun i => if isV6 then i ≠ 4 ∧ i ≠ 5 else i ≠ 2 ∧ i ≠ 3 ∧ i ≠ 10 ∧ i ≠ 11)
      (ipAccounted isV6 pkt) pkt := by
  cases isV6 with
  | true =>
    exact (AgreeOn.refl _ pkt).overwrite _ _ fun i away => by
      simp only [if_true] at away
      simp only [length_be16]
      omega
  | false =>
    refine (((AgreeOn.refl _ pkt).overwrite _ _ ?_).overwrite _ _ ?_).overwrite _ _ ?_ <;>
    · intro i away
      simp only [Bool.false_eq_true, if_false] at away
      simp only [length_be16, List.length_cons, List.length_nil]
      omega

theorem accountedPacket_agree (isV6 : Bool) (protocol : UInt8) (pkt : List UInt8) :
    AgreeOn (accountingKeeps isV6 protocol) (accountedPacket isV6 protocol pkt) pkt := by
  have ip : AgreeOn (accountingKeeps isV6 protocol) (ipAccounted isV6 pkt) pkt :=
    (ipAccounted_agree isV6 pkt).mono fun i kept => kept.1
  have udp : AgreeOn (accountingKeeps isV6 protocol)
      (udpAccounted isV6 protocol (ipAccounted isV6 pkt)) pkt := by
    unfold udpAccounted
    split
    case isTrue datagram =>
      exact ip.overwrite _ _ fun i kept => by
        have away := kept.2.2 datagram
        simp only [length_be16]
        omega
    case isFalse => exact ip
  exact udp.overwrite _ _ fun i kept => by
    have away := kept.2.1
    simp only [length_be16]
    omega

theorem transportCsumOffset_le (protocol : UInt8) : transportCsumOffset protocol ≤ 16 := by
  unfold transportCsumOffset
  split <;> omega

theorem take_accountedPacket (isV6 : Bool) (protocol : UInt8) (pkt : List UInt8) {k : Nat}
    (inside : k ≤ ipHLen isV6) :
    (accountedPacket isV6 protocol pkt).take k = (ipAccounted isV6 pkt).take k := by
  rw [accountedPacket, take_overwrite_of_le _ _ _ (by omega), udpAccounted]
  split
  · rw [take_overwrite_of_le _ _ _ (by omega)]
  · rfl

theorem ipLength_congr {a b : List UInt8} (same : a.take (ipHLen isV6) = b.take (ipHLen isV6)) :
    ipLength isV6 a = ipLength isV6 b := by
  have word : ∀ i, i + 2 ≤ ipHLen isV6 → u16At a i = u16At b i := by
    intro i inside
    rw [← u16At_take a inside, ← u16At_take b inside, same]
  cases isV6 with
  | true => simp only [ipLength, if_true, word 4 (by decide)]
  | false => simp only [ipLength, Bool.false_eq_true, if_false, word 2 (by decide)]

theorem ipLength_accountedPacket (long : ipHLen isV6 ≤ pkt.length) (short : pkt.length ≤ 65535) :
    ipLength isV6 (accountedPacket isV6 protocol pkt) = pkt.length := by
  rw [ipLength_congr (take_accountedPacket isV6 protocol pkt le_rfl)]
  cases isV6 with
  | true =>
    have long : 40 ≤ pkt.length := long
    simp only [ipLength, if_true, ipAccounted]
    rw [u16At_overwrite_self _ _ _ (by omega), UInt16.toNat_ofNat']
    omega
  | false =>
    have long : 20 ≤ pkt.length := long
    simp only [ipLength, Bool.false_eq_true, if_false, ipAccounted]
    rw [u16At_overwrite_disjoint _ _ _ (by simp; omega) (by simp),
      u16At_overwrite_self _ _ _ (by simp; omega), UInt16.toNat_ofNat']
    omega

theorem ipHeaderVerifies_accountedPacket (long : ipHLen isV6 ≤ pkt.length) :
    IpHeaderVerifies isV6 (accountedPacket isV6 protocol pkt) := by
  rintro rfl
  have long : 20 ≤ pkt.length := long
  have header : (accountedPacket false protocol pkt).take 20 = (ipAccounted false pkt).take 20 :=
    take_accountedPacket false protocol pkt le_rfl
  rw [header]
  simp only [ipAccounted, Bool.false_eq_true, if_false]
  refine fold_header_complete (by omega) (by simp; omega) ?_
  rw [u16At_overwrite_disjoint _ _ _ (by simp; omega) (by simp)]
  exact u16At_overwrite_self pkt 10 0 (by omega)

theorem udpLength_accountedPacket (long : ipHLen isV6 + 8 ≤ pkt.length)
    (short : pkt.length ≤ 65535) :
    (udpLength isV6 (accountedPacket isV6 ipProtoUdp pkt)).toNat = pkt.length - ipHLen isV6 := by
  have away : transportCsumOffset ipProtoUdp = 6 := rfl
  rw [udpLength, accountedPacket, away, u16At_overwrite_disjoint _ _ _ (by simp; omega)
    (.inl (by omega)), udpAccounted, if_pos rfl, u16At_overwrite_self _ _ _ (by simp; omega),
    length_ipAccounted, UInt16.toNat_ofNat']
  omega

theorem partialChecksum_accountedPacket
    (long : ipHLen isV6 + transportCsumOffset protocol + 2 ≤ pkt.length) :
    u16At (accountedPacket isV6 protocol pkt) (ipHLen isV6 + transportCsumOffset protocol) =
      UInt16.ofNat (fold (pseudoSum isV6 protocol pkt)) :=
  u16At_overwrite_self _ _ _ (by simpa using long)

/-! ## What stays the same -/

theorem ipStable.kept {i : Nat} (stable : ipStable isV6 i) (protocol : UInt8) :
    accountingKeeps isV6 protocol i := by
  obtain ⟨inside, stable⟩ := stable
  refine ⟨?_, .inl (by omega), fun _ => .inl (by omega)⟩
  cases isV6 with
  | true => exact stable
  | false =>
    obtain ⟨apart, ten, eleven⟩ := stable
    simp only [Bool.false_eq_true, if_false]
    omega

theorem sameIpHeader_accountedPacket (isV6 : Bool) (protocol : UInt8) (pkt : List UInt8) :
    SameIpHeader isV6 (accountedPacket isV6 protocol pkt) pkt :=
  SameIpHeader.of_agree ((accountedPacket_agree isV6 protocol pkt).mono fun _ stable =>
    stable.kept protocol)

theorem accountingKeeps_tcp {i : Nat} (behind : ipHLen isV6 ≤ i)
    (apart : i < ipHLen isV6 + 16 ∨ ipHLen isV6 + 18 ≤ i) : accountingKeeps isV6 ipProtoTcp i := by
  have position : transportCsumOffset ipProtoTcp = 16 := rfl
  refine ⟨?_, ?_, fun udp => absurd udp (by decide)⟩
  · cases isV6 <;> simp only [ipHLen, Bool.false_eq_true, if_false, if_true] at behind ⊢ <;> omega
  · rw [position]
    exact apart

theorem accountingKeeps_udp {i : Nat} (behind : ipHLen isV6 ≤ i)
    (apart : i < ipHLen isV6 + 4 ∨ ipHLen isV6 + 8 ≤ i) : accountingKeeps isV6 ipProtoUdp i := by
  have position : transportCsumOffset ipProtoUdp = 6 := rfl
  refine ⟨?_, ?_, fun _ => ?_⟩
  · cases isV6 <;> simp only [ipHLen, Bool.false_eq_true, if_false, if_true] at behind ⊢ <;> omega
  · omega
  · omega

section Kept

variable {kept : List UInt8}

theorem sameTcpHeader_of_keeps (minimal : 20 ≤ tcpHLen isV6 pkt)
    (agree : AgreeOn (accountingKeeps isV6 ipProtoTcp) kept pkt) :
    SameTcpHeader isV6 kept pkt := by
  refine SameTcpHeader.of_agree (ipHLen isV6 + tcpHLen isV6 pkt) (by omega) le_rfl
    (agree.mono fun i stable => ?_)
  rcases stable with ip | ⟨behind, -, -, apart⟩
  · exact ip.kept ipProtoTcp
  · exact accountingKeeps_tcp behind (by omega)

theorem sameTcpSegment_of_keeps (minimal : 20 ≤ tcpHLen isV6 pkt)
    (agree : AgreeOn (accountingKeeps isV6 ipProtoTcp) kept pkt) :
    SameTcpSegment isV6 kept pkt where
  toSameTcpHeader := sameTcpHeader_of_keeps minimal agree
  seq := agree.u32At fun k small => accountingKeeps_tcp (by omega) (by omega)
  payload := by
    have same := sameTcpHeader_of_keeps minimal agree
    rw [tcpPayload, tcpPayload, same.headerLen]
    apply List.ext_getElem?
    intro i
    rw [List.getElem?_drop, List.getElem?_drop]
    exact agree _ (accountingKeeps_tcp (by omega) (by omega))

theorem tcpFlags_of_keeps (agree : AgreeOn (accountingKeeps isV6 ipProtoTcp) kept pkt) :
    tcpFlags isV6 kept = tcpFlags isV6 pkt :=
  agree.byteAt (accountingKeeps_tcp (Nat.le_add_right ..) (.inl (by rw [tcpFlagsOffset]; omega)))

theorem sameUdpDatagram_of_keeps (agree : AgreeOn (accountingKeeps isV6 ipProtoUdp) kept pkt) :
    SameUdpDatagram isV6 kept pkt where
  toSameUdpHeader := by
    refine SameUdpHeader.of_agree (agree.mono fun i stable => ?_)
    rcases stable with ip | ⟨behind, inside⟩
    · exact ip.kept ipProtoUdp
    · exact accountingKeeps_udp behind (by omega)
  payload := by
    apply List.ext_getElem?
    intro i
    rw [udpPayload, udpPayload, List.getElem?_drop, List.getElem?_drop]
    exact agree _ (accountingKeeps_udp (by omega) (.inr (by rw [udpHLen]; omega)))

end Kept

theorem sameTcpSegment_accountedPacket (minimal : 20 ≤ tcpHLen isV6 pkt) :
    SameTcpSegment isV6 (accountedPacket isV6 ipProtoTcp pkt) pkt :=
  sameTcpSegment_of_keeps minimal (accountedPacket_agree isV6 ipProtoTcp pkt)

theorem tcpFlags_accountedPacket (isV6 : Bool) (pkt : List UInt8) :
    tcpFlags isV6 (accountedPacket isV6 ipProtoTcp pkt) = tcpFlags isV6 pkt :=
  tcpFlags_of_keeps (accountedPacket_agree isV6 ipProtoTcp pkt)

theorem sameUdpDatagram_accountedPacket (isV6 : Bool) (pkt : List UInt8) :
    SameUdpDatagram isV6 (accountedPacket isV6 ipProtoUdp pkt) pkt :=
  sameUdpDatagram_of_keeps (accountedPacket_agree isV6 ipProtoUdp pkt)

theorem pseudoSum_congr {a b : List UInt8} (same : SameIpHeader isV6 a b)
    (size : a.length = b.length) : pseudoSum isV6 protocol a = pseudoSum isV6 protocol b := by
  rw [pseudoSum, pseudoSum, same.src, same.dst, size]

end Facts

end QuincyTun.Linux
