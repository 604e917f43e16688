import QuincyTun.Linux.PacketFields

/-! Which packets take part in receive offload, and under which key.

`Eligible` states the conditions that the code tests one after the other. On a
candidate the parsers succeed exactly for eligible packets and never panic.
-/

set_option autoImplicit false

namespace QuincyTun.Linux

open QuincyTun.Foundation

def minTransportHLen (protocol : UInt8) : Nat := if protocol = ipProtoTcp then 20 else udpHLen

/-- A packet that is handed to the table of its protocol. -/
structure Candidate (isV6 : Bool) (protocol : UInt8) (pkt : List UInt8) : Prop where
  version : ipVersion pkt = if isV6 then 6 else 4
  noOptions : isV6 = false → byteAt pkt 0 &&& 0x0F = 5
  ofProtocol : ipProtocol isV6 pkt = protocol
  long : ipHLen isV6 + minTransportHLen protocol ≤ pkt.length

theorem isV6_unique {isV6 other : Bool} {pkt : List UInt8}
    (first : ipVersion pkt = if isV6 then 6 else 4)
    (second : ipVersion pkt = if other then 6 else 4) : isV6 = other := by
  have sixIsNotFour : (6 : UInt8) ≠ 4 := by decide
  rw [first] at second
  cases isV6 <;> cases other
  · rfl
  · exact absurd second.symm sixIsNotFour
  · exact absurd second sixIsNotFour
  · rfl

theorem Candidate.isV6_eq {isV6 : Bool} {protocol : UInt8} {pkt : List UInt8}
    (candidate : Candidate isV6 protocol pkt) : (ipVersion pkt == 6) = isV6 := by
  rw [candidate.version]
  cases isV6 <;> rfl

def GroCandidateType.kind : GroCandidateType → Option (Bool × UInt8)
  | .notGRO => none
  | .tcp4GRO => some (false, ipProtoTcp)
  | .tcp6GRO => some (true, ipProtoTcp)
  | .udp4GRO => some (false, ipProtoUdp)
  | .udp6GRO => some (true, ipProtoUdp)

theorem packetIsGroCandidate_kind (pkt : List UInt8) (canUdpGro isV6 : Bool) (protocol : UInt8) :
    (packetIsGroCandidate pkt canUdpGro).kind = some (isV6, protocol) ↔
      Candidate isV6 protocol pkt ∧
        (protocol = ipProtoTcp ∨ protocol = ipProtoUdp ∧ canUdpGro = true) := by
  constructor
  · intro found
    unfold packetIsGroCandidate at found
    split_ifs at found with short four words tcp udp six tcp udp <;>
      simp only [GroCandidateType.kind, Option.some.injEq, Prod.mk.injEq, reduceCtorEq] at found <;>
      obtain ⟨rfl, rfl⟩ := found
    · exact ⟨⟨four, fun _ => not_not.mp words, tcp.1, tcp.2⟩, .inl rfl⟩
    · exact ⟨⟨four, fun _ => not_not.mp words, udp.1, not_lt.mp short⟩, .inr ⟨rfl, udp.2⟩⟩
    · exact ⟨⟨six, nofun, tcp.1, tcp.2⟩, .inl rfl⟩
    · exact ⟨⟨six, nofun, udp.1, udp.2.1⟩, .inr ⟨rfl, udp.2.2⟩⟩
  · rintro ⟨⟨version, noOptions, ofProtocol, long⟩, enabled⟩
    have tcpIsNotUdp : ipProtoUdp ≠ ipProtoTcp := by decide
    have sixIsNotFour : (6 : UInt8) ≠ 4 := by decide
    simp only [ipVersion, ipProtocol] at version ofProtocol
    unfold packetIsGroCandidate
    rcases enabled with rfl | ⟨rfl, can⟩ <;> cases isV6 <;>
      simp only [ipHLen, minTransportHLen, udpHLen, if_true, if_false, Bool.false_eq_true,
        tcpIsNotUdp] at version ofProtocol long
    · rw [if_neg (by omega), if_pos version, if_neg (not_not.mpr (noOptions rfl)),
        if_pos ⟨ofProtocol, long⟩]
      rfl
    · rw [if_neg (by omega), if_neg (version ▸ sixIsNotFour), if_pos version,
        if_pos ⟨ofProtocol, long⟩]
      rfl
    · rw [if_neg (by omega), if_pos version, if_neg (not_not.mpr (noOptions rfl)),
        if_neg (fun h => tcpIsNotUdp (ofProtocol.symm.trans h.1)), if_pos ⟨ofProtocol, can⟩]
      rfl
    · rw [if_neg (by omega), if_neg (version ▸ sixIsNotFour), if_pos version,
        if_neg (fun h => tcpIsNotUdp (ofProtocol.symm.trans h.1)), if_pos ⟨ofProtocol, long, can⟩]
      rfl

theorem Candidate.ihl {protocol : UInt8} {pkt : List UInt8}
    (candidate : Candidate false protocol pkt) : ((byteAt pkt 0 &&& 0x0F) * 4).toNat = 20 := by
  rw [candidate.noOptions rfl]
  rfl

/-! ## Eligible packets -/

/-- The conditions that both protocols share. -/
structure Eligible (isV6 : Bool) (protocol : UInt8) (transportHLen : Nat) (pkt : List UInt8) :
    Prop where
  candidate : Candidate isV6 protocol pkt
  length_le : pkt.length ≤ 65535
  ipLength : ipLength isV6 pkt = pkt.length
  unfragmented : isV6 = false → ¬ Ipv4Fragment pkt
  payload : ipHLen isV6 + transportHLen < pkt.length

structure TcpEligible (isV6 : Bool) (pkt : List UInt8) : Prop extends
    Eligible isV6 ipProtoTcp (tcpHLen isV6 pkt) pkt where
  headerLen : 20 ≤ tcpHLen isV6 pkt
  flags : tcpFlags isV6 pkt = tcpFlagAck ∨ tcpFlags isV6 pkt = tcpFlagAck ||| tcpFlagPsh

abbrev UdpEligible (isV6 : Bool) (pkt : List UInt8) : Prop := Eligible isV6 ipProtoUdp udpHLen pkt

theorem UdpEligible.not_tcp {isV6 other : Bool} {pkt : List UInt8}
    (eligible : UdpEligible isV6 pkt) : ¬ TcpEligible other pkt := by
  intro tcp
  have tcpIsNotUdp : ipProtoTcp ≠ ipProtoUdp := by decide
  obtain rfl := isV6_unique eligible.candidate.version tcp.candidate.version
  exact tcpIsNotUdp (tcp.candidate.ofProtocol.symm.trans eligible.candidate.ofProtocol)

theorem tcpHLen_le (isV6 : Bool) (pkt : List UInt8) : tcpHLen isV6 pkt ≤ 60 := by
  have bound := (byteAt pkt (ipHLen isV6 + 12)).toNat_lt
  have shift : (4 : UInt8).toNat % 8 = 4 := rfl
  simp only [tcpHLen, UInt8.toNat_shiftRight, Nat.shiftRight_eq_div_pow, shift]
  omega

def tcpSegmentOf (isV6 : Bool) (pkt : List UInt8) : TcpSegment where
  iphLen := ipHLen isV6
  tcphLen := tcpHLen isV6 pkt
  pshSet := tcpFlags isV6 pkt != tcpFlagAck
  gsoSize := UInt16.ofNat (tcpPayload isV6 pkt).length
  seq := tcpSeq isV6 pkt

def udpDatagramOf (isV6 : Bool) (pkt : List UInt8) : UdpDatagram where
  iphLen := ipHLen isV6
  gsoSize := UInt16.ofNat (udpPayload isV6 pkt).length

theorem ipHeaderLen_candidate {isV6 : Bool} {protocol : UInt8} {pkt : List UInt8}
    (candidate : Candidate isV6 protocol pkt) :
    ipHeaderLen pkt isV6 =
      .ok (if ipLength isV6 pkt = pkt.length then some (ipHLen isV6) else none) := by
  have long := candidate.long
  unfold ipHeaderLen ipLength
  cases isV6 with
  | false =>
    simp only [ipHLen, Bool.false_eq_true, if_false] at long ⊢
    rw [getByte_ok (by omega), Run.ok_bind, readU16_ok (by omega), Run.ok_bind, candidate.ihl]
    simp
  | true =>
    simp only [ipHLen, if_true] at long ⊢
    rw [getByte_ok (by omega), Run.ok_bind, readU16_ok (by omega), Run.ok_bind,
      subLen_ok (by omega), Run.ok_bind]
    by_cases same : (u16At pkt 4).toNat = pkt.length - 40
    · rw [if_neg (not_not.mpr same), if_pos (by omega)]
      rfl
    · rw [if_pos same, if_neg (by omega)]
      rfl

theorem isFragment_eq {isV6 : Bool} {pkt : List UInt8} (long : 8 ≤ pkt.length) :
    isFragment pkt isV6 = .ok (decide (isV6 = false ∧ Ipv4Fragment pkt)) := by
  unfold isFragment
  cases isV6 with
  | true => simp
  | false =>
    simp only [Bool.false_eq_true, if_false, true_and]
    rw [getByte_ok (by omega), Run.ok_bind, getByte_ok (by omega), Run.ok_bind, Run.pure_eq_ok]
    congr 1
    rw [Bool.eq_iff_iff, decide_eq_true_iff]
    simp only [Bool.or_eq_true, bne_iff_ne, or_assoc, Ipv4Fragment]

theorem toNat_ofNat_of_le {n : Nat} (small : n ≤ 65535) : (UInt16.ofNat n).toNat = n := by
  rw [UInt16.toNat_ofNat']
  omega

theorem TcpEligible.toNat_gsoSize {isV6 : Bool} {pkt : List UInt8}
    (eligible : TcpEligible isV6 pkt) :
    (UInt16.ofNat (tcpPayload isV6 pkt).length).toNat = (tcpPayload isV6 pkt).length := by
  have length := eligible.length_le
  exact toNat_ofNat_of_le (by simp only [tcpPayload, List.length_drop]; omega)

theorem UdpEligible.toNat_gsoSize {isV6 : Bool} {pkt : List UInt8}
    (eligible : UdpEligible isV6 pkt) :
    (UInt16.ofNat (udpPayload isV6 pkt).length).toNat = (udpPayload isV6 pkt).length := by
  have length := eligible.length_le
  exact toNat_ofNat_of_le (by simp only [udpPayload, List.length_drop]; omega)

/-- The test for an empty payload, made on the narrowed length. -/
theorem ofNat_lt_one {n : Nat} (small : n ≤ 65535) : UInt16.ofNat n < 1 ↔ n = 0 := by
  rw [UInt16.lt_iff_toNat_lt, toNat_ofNat_of_le small]
  exact Nat.lt_one_iff

/-- On a candidate `parseTcp` returns what the packet holds when it is eligible, else nothing. -/
theorem parseTcp_spec {isV6 : Bool} {pkt : List UInt8} (candidate : Candidate isV6 ipProtoTcp pkt) :
    ∃ found, parseTcp pkt isV6 = .ok found ∧
      (TcpEligible isV6 pkt ∧ found = some (tcpSegmentOf isV6 pkt) ∨
        ¬ TcpEligible isV6 pkt ∧ found = none) := by
  have long : ipHLen isV6 + 20 ≤ pkt.length := candidate.long
  have small := tcpHLen_le isV6 pkt
  -- Every early return misses one condition of eligibility.
  unfold parseTcp
  by_cases large : pkt.length > 65535
  · rw [if_pos large]
    exact ⟨none, rfl, .inr ⟨fun e => by have := e.length_le; omega, rfl⟩⟩
  rw [if_neg large, ipHeaderLen_candidate candidate, Run.ok_bind]
  by_cases length : ipLength isV6 pkt = pkt.length
  case neg =>
    rw [if_neg length]
    exact ⟨none, rfl, .inr ⟨fun e => length e.ipLength, rfl⟩⟩
  rw [if_pos length]
  simp only []
  rw [if_neg (by omega), if_neg (by simp only [tcpFlagsOffset]; omega), getByte_ok (by omega),
    Run.ok_bind, ← tcpHLen]
  by_cases headerLen : 20 ≤ tcpHLen isV6 pkt
  case neg =>
    rw [if_pos (by omega)]
    exact ⟨none, rfl, .inr ⟨fun e => headerLen e.headerLen, rfl⟩⟩
  rw [if_neg (by omega)]
  by_cases room : ipHLen isV6 + tcpHLen isV6 pkt ≤ pkt.length
  case neg =>
    rw [if_pos (by omega)]
    exact ⟨none, rfl, .inr ⟨fun e => room e.payload.le, rfl⟩⟩
  rw [if_neg (by omega), isFragment_eq (by omega), Run.ok_bind]
  by_cases fragment : isV6 = false ∧ Ipv4Fragment pkt
  · rw [if_pos (decide_eq_true fragment)]
    exact ⟨none, rfl, .inr ⟨fun e => e.unfragmented fragment.1 fragment.2, rfl⟩⟩
  rw [if_neg (by simpa using fragment), getByte_ok (by simp only [tcpFlagsOffset]; omega),
    Run.ok_bind, ← tcpFlags]
  by_cases flags : tcpFlags isV6 pkt = tcpFlagAck ∨ tcpFlags isV6 pkt = tcpFlagAck ||| tcpFlagPsh
  case neg =>
    rw [if_pos (not_or.mp flags)]
    exact ⟨none, rfl, .inr ⟨fun e => flags e.flags, rfl⟩⟩
  rw [if_neg (by rwa [← not_or, not_not]), subLen_ok (by omega), Run.ok_bind,
    subLen_ok (by omega), Run.ok_bind]
  have behind : pkt.length - tcpHLen isV6 pkt - ipHLen isV6 = (tcpPayload isV6 pkt).length := by
    simp only [tcpPayload, List.length_drop]
    omega
  have payloadLen : (tcpPayload isV6 pkt).length =
      pkt.length - (ipHLen isV6 + tcpHLen isV6 pkt) := List.length_drop ..
  rw [behind]
  by_cases payload : ipHLen isV6 + tcpHLen isV6 pkt < pkt.length
  case neg =>
    rw [if_pos ((ofNat_lt_one (by omega)).mpr (by omega))]
    exact ⟨none, rfl, .inr ⟨fun e => payload e.payload, rfl⟩⟩
  rw [if_neg (mt (ofNat_lt_one (by omega)).mp (by omega)), readU32_ok (by omega), Run.ok_bind]
  exact ⟨_, rfl, .inl ⟨⟨⟨candidate, by omega, length, fun v4 f => fragment ⟨v4, f⟩, payload⟩,
    headerLen, flags⟩, rfl⟩⟩

theorem parseUdp_spec {isV6 : Bool} {pkt : List UInt8} (candidate : Candidate isV6 ipProtoUdp pkt) :
    ∃ found, parseUdp pkt isV6 = .ok found ∧
      (UdpEligible isV6 pkt ∧ found = some (udpDatagramOf isV6 pkt) ∨
        ¬ UdpEligible isV6 pkt ∧ found = none) := by
  have long : ipHLen isV6 + udpHLen ≤ pkt.length := candidate.long
  have header : udpHLen = 8 := rfl
  unfold parseUdp
  -- Each early return is one condition of eligibility that fails.
  by_cases large : pkt.length > 65535
  · rw [if_pos large]
    exact ⟨none, rfl, .inr ⟨fun e => by have := e.length_le; omega, rfl⟩⟩
  rw [if_neg large, ipHeaderLen_candidate candidate, Run.ok_bind]
  by_cases length : ipLength isV6 pkt = pkt.length
  case neg =>
    rw [if_neg length]
    exact ⟨none, rfl, .inr ⟨fun e => length e.ipLength, rfl⟩⟩
  rw [if_pos length]
  simp only []
  rw [if_neg (by omega), isFragment_eq (by omega), Run.ok_bind]
  by_cases fragment : isV6 = false ∧ Ipv4Fragment pkt
  · rw [if_pos (decide_eq_true fragment)]
    exact ⟨none, rfl, .inr ⟨fun e => e.unfragmented fragment.1 fragment.2, rfl⟩⟩
  rw [if_neg (by simpa using fragment), subLen_ok (by omega), Run.ok_bind, subLen_ok (by omega),
    Run.ok_bind]
  have behind : pkt.length - udpHLen - ipHLen isV6 = (udpPayload isV6 pkt).length := by
    simp only [udpPayload, List.length_drop]
    omega
  have payloadLen : (udpPayload isV6 pkt).length = pkt.length - (ipHLen isV6 + udpHLen) :=
    List.length_drop ..
  rw [behind]
  by_cases payload : ipHLen isV6 + udpHLen < pkt.length
  case neg =>
    rw [if_pos ((ofNat_lt_one (by omega)).mpr (by omega))]
    exact ⟨none, rfl, .inr ⟨fun e => payload e.payload, rfl⟩⟩
  rw [if_neg (mt (ofNat_lt_one (by omega)).mp (by omega))]
  exact ⟨_, rfl, .inl ⟨⟨candidate, by omega, length, fun v4 f => fragment ⟨v4, f⟩, payload⟩, rfl⟩⟩

end QuincyTun.Linux
