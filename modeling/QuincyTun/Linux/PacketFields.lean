import QuincyTun.Linux.Gro

/-! The fields of IP, TCP and UDP packets, and what it means that two packets agree.

These definitions state what packets are; no code computes them. Transport fields
are those behind an IP header without options or extension headers.
-/

set_option autoImplicit false

namespace QuincyTun.Linux

open QuincyTun.Foundation

/-! ## Fields of the IP header -/

def ipHLen (isV6 : Bool) : Nat := if isV6 then 40 else 20

theorem ipHLen_le (isV6 : Bool) : ipHLen isV6 ≤ 40 := by cases isV6 <;> decide

theorem twenty_le_ipHLen (isV6 : Bool) : 20 ≤ ipHLen isV6 := by cases isV6 <;> decide

def ipVersion (pkt : List UInt8) : UInt8 := byteAt pkt 0 >>> 4

def srcAddress (isV6 : Bool) (pkt : List UInt8) : List UInt8 :=
  window pkt (srcAddrOffset isV6) (addrLen isV6)

def dstAddress (isV6 : Bool) (pkt : List UInt8) : List UInt8 :=
  window pkt (srcAddrOffset isV6 + addrLen isV6) (addrLen isV6)

theorem addresses_le (isV6 : Bool) : srcAddrOffset isV6 + 2 * addrLen isV6 ≤ ipHLen isV6 := by
  cases isV6 <;> decide

theorem length_srcAddress {isV6 : Bool} {pkt : List UInt8} (long : ipHLen isV6 ≤ pkt.length) :
    (srcAddress isV6 pkt).length = addrLen isV6 :=
  length_window _ _ _ (by have := addresses_le isV6; omega)

theorem length_dstAddress {isV6 : Bool} {pkt : List UInt8} (long : ipHLen isV6 ≤ pkt.length) :
    (dstAddress isV6 pkt).length = addrLen isV6 :=
  length_window _ _ _ (by have := addresses_le isV6; omega)

theorem addrLen_le (isV6 : Bool) : addrLen isV6 ≤ 16 := by cases isV6 <;> decide

theorem addrLen_even (isV6 : Bool) : addrLen isV6 % 2 = 0 := by cases isV6 <;> rfl

section Addresses

variable {isV6 : Bool} {pkt : List UInt8}

theorem slice_srcAddress (long : ipHLen isV6 ≤ pkt.length) :
    slice pkt (srcAddrOffset isV6) (srcAddrOffset isV6 + addrLen isV6) =
      .ok (srcAddress isV6 pkt) := by
  have inside := addresses_le isV6
  rw [slice_ok (by omega) (by omega), Nat.add_sub_cancel_left]
  rfl

theorem slice_dstAddress (long : ipHLen isV6 ≤ pkt.length) :
    slice pkt (srcAddrOffset isV6 + addrLen isV6) (srcAddrOffset isV6 + addrLen isV6 * 2) =
      .ok (dstAddress isV6 pkt) := by
  have inside := addresses_le isV6
  have width : srcAddrOffset isV6 + addrLen isV6 * 2 - (srcAddrOffset isV6 + addrLen isV6) =
      addrLen isV6 := by omega
  rw [slice_ok (by omega) (by omega), width]
  rfl

theorem packetPseudoHeader_checksum (protocol : UInt8) (totalLen : UInt16)
    (transport : List UInt8) (long : ipHLen isV6 ≤ pkt.length) (short : transport.length < 2 ^ 31) :
    ∃ psum, pseudoHeaderChecksumNoFold protocol (srcAddress isV6 pkt) (dstAddress isV6 pkt)
        totalLen = .ok psum ∧
      checksum transport psum = .ok (UInt16.ofNat (fold (wordSum (pseudoHeader protocol
        (srcAddress isV6 pkt) (dstAddress isV6 pkt) totalLen ++ transport)))) := by
  have size := addrLen_le isV6
  have even := addrLen_even isV6
  have src := length_srcAddress long
  have dst := length_dstAddress long
  exact Run.bind_eq_ok.mp (pseudoHeader_checksum protocol (srcAddress isV6 pkt)
    (dstAddress isV6 pkt) totalLen transport (src ▸ size) (dst ▸ size) (src ▸ even) (dst ▸ even)
    short)

end Addresses

/-- The type of service of IPv4, the traffic class of IPv6. -/
def trafficClass (isV6 : Bool) (pkt : List UInt8) : UInt8 :=
  if isV6 then byteAt pkt 0 <<< 4 ||| byteAt pkt 1 >>> 4 else byteAt pkt 1

def hopLimit (isV6 : Bool) (pkt : List UInt8) : UInt8 := byteAt pkt (if isV6 then 7 else 8)

def fragmentFlags (isV6 : Bool) (pkt : List UInt8) : UInt8 :=
  if isV6 then 0 else byteAt pkt 6 >>> 5

def ipProtocol (isV6 : Bool) (pkt : List UInt8) : UInt8 := byteAt pkt (if isV6 then 6 else 9)

def ipLength (isV6 : Bool) (pkt : List UInt8) : Nat :=
  if isV6 then 40 + (u16At pkt 4).toNat else (u16At pkt 2).toNat

/-- MF is set or the fragment offset is not zero. -/
def Ipv4Fragment (pkt : List UInt8) : Prop :=
  byteAt pkt 6 &&& ipv4FlagMoreFragments ≠ 0 ∨ byteAt pkt 6 <<< 3 ≠ 0 ∨ byteAt pkt 7 ≠ 0

instance (pkt : List UInt8) : Decidable (Ipv4Fragment pkt) :=
  inferInstanceAs (Decidable (_ ∨ _ ∨ _))

/-- An IPv4 header without options sums to all ones; IPv6 has no header checksum. -/
def IpHeaderVerifies (isV6 : Bool) (pkt : List UInt8) : Prop :=
  isV6 = false → fold (wordSum (pkt.take 20)) = 65535

theorem fold_header_complete {header : List UInt8} {n : Nat} (minimal : 12 ≤ n)
    (long : n ≤ header.length) (blank : u16At header 10 = 0) :
    fold (wordSum ((overwrite header 10
      (be16 (~~~ UInt16.ofNat (fold (wordSum (header.take n)))))).take n)) = 65535 := by
  have complete := fold_complete 0 (n := 10) (by decide)
    (by rw [List.length_take]; omega) (by rwa [u16At_take _ (by omega)] : u16At (header.take n) 10 = 0)
  rw [take_overwrite_full _ _ _ _ (by rw [length_be16]; omega)]
  simpa only [Nat.zero_add] using complete

structure SameIpHeader (isV6 : Bool) (a b : List UInt8) : Prop where
  version : ipVersion a = ipVersion b
  src : srcAddress isV6 a = srcAddress isV6 b
  dst : dstAddress isV6 a = dstAddress isV6 b
  trafficClass : trafficClass isV6 a = trafficClass isV6 b
  hopLimit : hopLimit isV6 a = hopLimit isV6 b
  fragmentFlags : fragmentFlags isV6 a = fragmentFlags isV6 b

theorem SameIpHeader.refl (isV6 : Bool) (a : List UInt8) : SameIpHeader isV6 a a :=
  ⟨rfl, rfl, rfl, rfl, rfl, rfl⟩

theorem SameIpHeader.symm {isV6 : Bool} {a b : List UInt8} (h : SameIpHeader isV6 a b) :
    SameIpHeader isV6 b a :=
  ⟨h.version.symm, h.src.symm, h.dst.symm, h.trafficClass.symm, h.hopLimit.symm,
    h.fragmentFlags.symm⟩

theorem SameIpHeader.trans {isV6 : Bool} {a b c : List UInt8} (first : SameIpHeader isV6 a b)
    (second : SameIpHeader isV6 b c) : SameIpHeader isV6 a c :=
  ⟨first.version.trans second.version, first.src.trans second.src, first.dst.trans second.dst,
    first.trafficClass.trans second.trafficClass, first.hopLimit.trans second.hopLimit,
    first.fragmentFlags.trans second.fragmentFlags⟩

/-! ## Fields of the transport headers -/

def srcPort (isV6 : Bool) (pkt : List UInt8) : UInt16 := u16At pkt (ipHLen isV6)

def dstPort (isV6 : Bool) (pkt : List UInt8) : UInt16 := u16At pkt (ipHLen isV6 + 2)

def tcpSeq (isV6 : Bool) (pkt : List UInt8) : UInt32 := u32At pkt (ipHLen isV6 + 4)

def tcpAck (isV6 : Bool) (pkt : List UInt8) : UInt32 := u32At pkt (ipHLen isV6 + 8)

def tcpHLen (isV6 : Bool) (pkt : List UInt8) : Nat :=
  (byteAt pkt (ipHLen isV6 + 12) >>> 4).toNat * 4

def tcpFlags (isV6 : Bool) (pkt : List UInt8) : UInt8 := byteAt pkt (ipHLen isV6 + tcpFlagsOffset)

def tcpOptions (isV6 : Bool) (pkt : List UInt8) : List UInt8 :=
  window pkt (ipHLen isV6 + 20) (tcpHLen isV6 pkt - 20)

def tcpPayload (isV6 : Bool) (pkt : List UInt8) : List UInt8 :=
  pkt.drop (ipHLen isV6 + tcpHLen isV6 pkt)

def udpLength (isV6 : Bool) (pkt : List UInt8) : UInt16 := u16At pkt (ipHLen isV6 + 4)

def udpPayload (isV6 : Bool) (pkt : List UInt8) : List UInt8 := pkt.drop (ipHLen isV6 + udpHLen)

/-- The bytes that the transport checksum covers. -/
def checksumCoverage (isV6 : Bool) (protocol : UInt8) (pkt : List UInt8) : List UInt8 :=
  pseudoHeader protocol (srcAddress isV6 pkt) (dstAddress isV6 pkt)
      (UInt16.ofNat (pkt.length - ipHLen isV6)) ++ pkt.drop (ipHLen isV6)

/-- The transport checksum verifies as a one's-complement sum over the packet and its
pseudo-header. -/
def TransportVerifies (isV6 : Bool) (protocol : UInt8) (pkt : List UInt8) : Prop :=
  fold (wordSum (checksumCoverage isV6 protocol pkt)) = 65535

def TransportVerifiesFrom (iphLen : Nat) (isV6 : Bool) (protocol : UInt8) (pkt : List UInt8) :
    Prop :=
  fold (wordSum (pseudoHeader protocol (srcAddress isV6 pkt) (dstAddress isV6 pkt)
    (UInt16.ofNat (pkt.length - iphLen)) ++ pkt.drop iphLen)) = 65535

instance (isV6 : Bool) (protocol : UInt8) (pkt : List UInt8) :
    Decidable (TransportVerifies isV6 protocol pkt) :=
  inferInstanceAs (Decidable (_ = _))

/-- Headers of two segments of one TCP stream, apart from the position in the stream. -/
structure SameTcpHeader (isV6 : Bool) (a b : List UInt8) : Prop extends SameIpHeader isV6 a b where
  srcPort : srcPort isV6 a = srcPort isV6 b
  dstPort : dstPort isV6 a = dstPort isV6 b
  ack : tcpAck isV6 a = tcpAck isV6 b
  headerLen : tcpHLen isV6 a = tcpHLen isV6 b
  options : tcpOptions isV6 a = tcpOptions isV6 b

/-- One TCP segment seen twice: only fields that may change on the way differ. -/
structure SameTcpSegment (isV6 : Bool) (a b : List UInt8) : Prop extends
    SameTcpHeader isV6 a b where
  seq : tcpSeq isV6 a = tcpSeq isV6 b
  payload : tcpPayload isV6 a = tcpPayload isV6 b

structure SameUdpHeader (isV6 : Bool) (a b : List UInt8) : Prop extends SameIpHeader isV6 a b where
  srcPort : srcPort isV6 a = srcPort isV6 b
  dstPort : dstPort isV6 a = dstPort isV6 b

structure SameUdpDatagram (isV6 : Bool) (a b : List UInt8) : Prop extends
    SameUdpHeader isV6 a b where
  payload : udpPayload isV6 a = udpPayload isV6 b

theorem SameTcpHeader.refl (isV6 : Bool) (a : List UInt8) : SameTcpHeader isV6 a a :=
  ⟨.refl isV6 a, rfl, rfl, rfl, rfl, rfl⟩

theorem SameTcpHeader.symm {isV6 : Bool} {a b : List UInt8} (h : SameTcpHeader isV6 a b) :
    SameTcpHeader isV6 b a :=
  ⟨h.toSameIpHeader.symm, h.srcPort.symm, h.dstPort.symm, h.ack.symm, h.headerLen.symm,
    h.options.symm⟩

theorem SameTcpHeader.trans {isV6 : Bool} {a b c : List UInt8} (first : SameTcpHeader isV6 a b)
    (second : SameTcpHeader isV6 b c) : SameTcpHeader isV6 a c :=
  ⟨first.toSameIpHeader.trans second.toSameIpHeader, first.srcPort.trans second.srcPort,
    first.dstPort.trans second.dstPort, first.ack.trans second.ack,
    first.headerLen.trans second.headerLen, first.options.trans second.options⟩

theorem SameUdpHeader.refl (isV6 : Bool) (a : List UInt8) : SameUdpHeader isV6 a a :=
  ⟨.refl isV6 a, rfl, rfl⟩

theorem SameUdpHeader.symm {isV6 : Bool} {a b : List UInt8} (h : SameUdpHeader isV6 a b) :
    SameUdpHeader isV6 b a :=
  ⟨h.toSameIpHeader.symm, h.srcPort.symm, h.dstPort.symm⟩

theorem SameUdpHeader.trans {isV6 : Bool} {a b c : List UInt8} (first : SameUdpHeader isV6 a b)
    (second : SameUdpHeader isV6 b c) : SameUdpHeader isV6 a c :=
  ⟨first.toSameIpHeader.trans second.toSameIpHeader, first.srcPort.trans second.srcPort,
    first.dstPort.trans second.dstPort⟩

/-- A packet that a receiver accepts: lengths and checksums are right. -/
structure WellFormed (isV6 : Bool) (protocol : UInt8) (pkt : List UInt8) : Prop where
  length : ipLength isV6 pkt = pkt.length
  header : IpHeaderVerifies isV6 pkt
  transport : TransportVerifies isV6 protocol pkt

/-! ## Agreement on positions -/

def AgreeOn (positions : Nat → Prop) (a b : List UInt8) : Prop :=
  ∀ i, positions i → a[i]? = b[i]?

namespace AgreeOn

variable {positions : Nat → Prop} {a b c : List UInt8}

theorem refl (positions : Nat → Prop) (a : List UInt8) : AgreeOn positions a a := fun _ _ => rfl

theorem symm (h : AgreeOn positions a b) : AgreeOn positions b a := fun i at_i => (h i at_i).symm

theorem trans (first : AgreeOn positions a b) (second : AgreeOn positions b c) :
    AgreeOn positions a c := fun i at_i => (first i at_i).trans (second i at_i)

theorem mono {fewer : Nat → Prop} (h : AgreeOn positions a b)
    (sub : ∀ i, fewer i → positions i) : AgreeOn fewer a b := fun i at_i => h i (sub i at_i)

theorem byteAt (h : AgreeOn positions a b) {i : Nat} (at_i : positions i) :
    byteAt a i = byteAt b i := byteAt_eq_of_getElem? (h i at_i)

theorem u16At (h : AgreeOn positions a b) {i : Nat} (first : positions i)
    (second : positions (i + 1)) : u16At a i = u16At b i :=
  u16At_congr (h.byteAt first) (h.byteAt second)

theorem u32At (h : AgreeOn positions a b) {i : Nat}
    (at_i : ∀ k < 4, positions (i + k)) : u32At a i = u32At b i :=
  u32At_congr fun k hk => h.byteAt (at_i k hk)

theorem window (h : AgreeOn positions a b) {start length : Nat}
    (inside : ∀ i, start ≤ i → i < start + length → positions i) :
    window a start length = window b start length :=
  window_eq_of_getElem? fun i lower upper => h i (inside i lower upper)

theorem overwrite (h : AgreeOn positions a b) (n : Nat) (source : List UInt8)
    (apart : ∀ i, positions i → i < n ∨ n + source.length ≤ i) :
    AgreeOn positions (overwrite a n source) b := by
  intro i at_i
  have away := apart i at_i
  rw [getElem?_overwrite, if_neg (by omega)]
  exact h i at_i

theorem copy (h : AgreeOn positions a b) (n length : Nat) (fitsA : n + length ≤ a.length)
    (fitsB : n + length ≤ b.length) :
    AgreeOn (fun i => positions i ∨ n ≤ i ∧ i < n + length)
      (Foundation.overwrite a n (Foundation.window b n length)) b := by
  intro i at_i
  have size := length_window b n length fitsB
  rw [getElem?_overwrite, size, getElem?_window]
  by_cases inside : n ≤ i ∧ i < n + length
  · rw [if_pos (by omega), if_pos (by omega)]
    congr 1
    omega
  · rw [if_neg (by omega)]
    exact h i (at_i.resolve_right inside)

theorem copied (a : List UInt8) {b : List UInt8} {n length : Nat} (fitsA : n + length ≤ a.length)
    (fitsB : n + length ≤ b.length) : AgreeOn (fun i => n ≤ i ∧ i < n + length)
      (Foundation.overwrite a n (Foundation.window b n length)) b := by
  have nothing : AgreeOn (fun _ => False) a b := fun _ impossible => impossible.elim
  exact (nothing.copy n length fitsA fitsB).mono fun _ inside => .inr inside

theorem take (h : AgreeOn positions a b) {n : Nat} (inside : ∀ i, positions i → i < n) :
    AgreeOn positions (a.take n) b := by
  intro i at_i
  rw [List.getElem?_take_of_lt (inside i at_i)]
  exact h i at_i

theorem take_eq {n : Nat} (h : AgreeOn (· < n) a b) : a.take n = b.take n := by
  apply List.ext_getElem?
  intro i
  rw [List.getElem?_take, List.getElem?_take]
  split
  · exact h i (by assumption)
  · rfl

end AgreeOn

/-- Not the length, the identification or the checksum of an IP header. -/
def ipKept (isV6 : Bool) (i : Nat) : Prop :=
  if isV6 then i ≠ 4 ∧ i ≠ 5 else ¬ (2 ≤ i ∧ i < 6) ∧ i ≠ 10 ∧ i ≠ 11

def ipStable (isV6 : Bool) (i : Nat) : Prop := i < ipHLen isV6 ∧ ipKept isV6 i

theorem ipKept_behind {isV6 : Bool} {i : Nat} (behind : 12 ≤ i) : ipKept isV6 i := by
  cases isV6 with
  | true => exact ⟨by omega, by omega⟩
  | false => exact ⟨by omega, by omega, by omega⟩

theorem SameIpHeader.of_agree {isV6 : Bool} {a b : List UInt8} (h : AgreeOn (ipStable isV6) a b) :
    SameIpHeader isV6 a b := by
  cases isV6 with
  | false =>
    have stable : ∀ i, i < 20 → ¬ (2 ≤ i ∧ i < 6) → i ≠ 10 → i ≠ 11 → ipStable false i :=
      fun i bound gap ten eleven => ⟨bound, gap, ten, eleven⟩
    constructor
    · simp only [ipVersion, h.byteAt (stable 0 (by omega) (by omega) (by omega) (by omega))]
    · exact h.window fun i lower upper => by
        simp only [srcAddrOffset, addrLen, ipv4SrcAddrOffset] at lower upper
        exact stable i (by simp at upper; omega) (by simp at lower; omega)
          (by simp at lower; omega) (by simp at lower; omega)
    · exact h.window fun i lower upper => by
        simp only [srcAddrOffset, addrLen, ipv4SrcAddrOffset] at lower upper
        exact stable i (by simp at upper; omega) (by simp at lower; omega)
          (by simp at lower; omega) (by simp at lower; omega)
    · exact h.byteAt (stable 1 (by omega) (by omega) (by omega) (by omega))
    · exact h.byteAt (stable 8 (by omega) (by omega) (by omega) (by omega))
    · simp only [Linux.fragmentFlags, Bool.false_eq_true, if_false,
        h.byteAt (stable 6 (by omega) (by omega) (by omega) (by omega))]
  | true =>
    have stable : ∀ i, i < 40 → i ≠ 4 → i ≠ 5 → ipStable true i :=
      fun i bound four five => ⟨bound, four, five⟩
    have first := h.byteAt (stable 0 (by omega) (by omega) (by omega))
    constructor
    · simp only [ipVersion, first]
    · exact h.window fun i lower upper => by
        simp only [srcAddrOffset, addrLen, ipv6SrcAddrOffset, if_true] at lower upper
        exact stable i (by omega) (by omega) (by omega)
    · exact h.window fun i lower upper => by
        simp only [srcAddrOffset, addrLen, ipv6SrcAddrOffset, if_true] at lower upper
        exact stable i (by omega) (by omega) (by omega)
    · simp only [Linux.trafficClass, if_true, first,
        h.byteAt (stable 1 (by omega) (by omega) (by omega))]
    · exact h.byteAt (stable 7 (by omega) (by omega) (by omega))
    · rfl

def tcpStable (isV6 : Bool) (headersLen i : Nat) : Prop :=
  ipStable isV6 i ∨ ipHLen isV6 ≤ i ∧ i < headersLen ∧
    ¬ (ipHLen isV6 + 4 ≤ i ∧ i < ipHLen isV6 + 8) ∧
    ¬ (ipHLen isV6 + 13 ≤ i ∧ i < ipHLen isV6 + 20)

def udpStable (isV6 : Bool) (i : Nat) : Prop :=
  ipStable isV6 i ∨ ipHLen isV6 ≤ i ∧ i < ipHLen isV6 + 4

theorem SameTcpHeader.of_agree {isV6 : Bool} (headersLen : Nat) {a b : List UInt8}
    (minimal : ipHLen isV6 + 20 ≤ headersLen) (size : ipHLen isV6 + tcpHLen isV6 b ≤ headersLen)
    (h : AgreeOn (tcpStable isV6 headersLen) a b) : SameTcpHeader isV6 a b := by
  have stable : ∀ i, ipHLen isV6 ≤ i → i < headersLen →
      ¬ (ipHLen isV6 + 4 ≤ i ∧ i < ipHLen isV6 + 8) →
      ¬ (ipHLen isV6 + 13 ≤ i ∧ i < ipHLen isV6 + 20) → tcpStable isV6 headersLen i :=
    fun i lower upper seq rest => .inr ⟨lower, upper, seq, rest⟩
  have headerLen : tcpHLen isV6 a = tcpHLen isV6 b := by
    have word := h.byteAt (stable (ipHLen isV6 + 12) (by omega) (by omega) (by omega) (by omega))
    simp only [tcpHLen, word]
  refine ⟨SameIpHeader.of_agree (h.mono fun i => .inl), ?_, ?_, ?_, headerLen, ?_⟩
  · exact h.u16At (stable _ (by omega) (by omega) (by omega) (by omega))
      (stable _ (by omega) (by omega) (by omega) (by omega))
  · exact h.u16At (stable _ (by omega) (by omega) (by omega) (by omega))
      (stable _ (by omega) (by omega) (by omega) (by omega))
  · exact h.u32At fun k small => stable _ (by omega) (by omega) (by omega) (by omega)
  · rw [tcpOptions, tcpOptions, headerLen]
    exact h.window fun i lower upper =>
      stable i (by omega) (by omega) (by omega) (by omega)

theorem SameUdpHeader.of_agree {isV6 : Bool} {a b : List UInt8}
    (h : AgreeOn (udpStable isV6) a b) : SameUdpHeader isV6 a b := by
  have stable : ∀ i, ipHLen isV6 ≤ i → i < ipHLen isV6 + 4 → udpStable isV6 i :=
    fun i lower upper => .inr ⟨lower, upper⟩
  refine ⟨SameIpHeader.of_agree (h.mono fun i => .inl), ?_, ?_⟩
  · exact h.u16At (stable _ (by omega) (by omega)) (stable _ (by omega) (by omega))
  · exact h.u16At (stable _ (by omega) (by omega)) (stable _ (by omega) (by omega))

end QuincyTun.Linux
