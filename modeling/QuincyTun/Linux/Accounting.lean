import QuincyTun.Linux.Accounted
import QuincyTun.Linux.GroRun

/-! The accounting passes: each item is visited once, in an order that the hash
maps choose, and only its own buffer changes.

A joined packet gets its length fields, its IPv4 header checksum and the sum of
its pseudo-header; all other bytes of the packet stay.
-/

set_option autoImplicit false

namespace QuincyTun.Linux

open QuincyTun.Foundation

/-! ## One visit for each item -/

theorem accountItem_ok_iff {bufs bufs' : List ExpandBuffer} {i : UInt16} {prepare : Run Visit}
    {outcome : Result Unit} :
    accountItem bufs i prepare = .ok (bufs', outcome) ↔
      ∃ visit buf buf', prepare = .ok visit ∧ bufs[i.toNat]? = some buf ∧
        visit buf = .ok (buf', outcome) ∧ bufs' = bufs.set i.toNat buf' := by
  constructor
  · intro ran
    obtain ⟨visit, prepared, rest⟩ := Run.bind_eq_ok.mp ran
    obtain ⟨buf, found, rest⟩ := Run.bind_eq_ok.mp rest
    obtain ⟨⟨buf', result⟩, visited, same⟩ := Run.bind_eq_ok.mp rest
    obtain ⟨rfl, rfl⟩ := Prod.mk.inj (Except.ok.inj same)
    exact ⟨visit, buf, buf', prepared, index_eq_ok.mp found, visited, rfl⟩
  · rintro ⟨visit, buf, buf', rfl, found, visited, rfl⟩
    rw [accountItem, Run.ok_bind, index_ok found, Run.ok_bind, visited]
    rfl

section Items

variable {ι : Type} {bufsIndex : ι → UInt16} {prepare : ι → Run Visit}

/-- The visit of an item takes one buffer to another. -/
def Visited (bufsIndex : ι → UInt16) (prepare : ι → Run Visit) (bufs bufs' : List ExpandBuffer)
    (item : ι) : Prop :=
  ∃ visit buf buf', prepare item = .ok visit ∧ bufs[(bufsIndex item).toNat]? = some buf ∧
    bufs'[(bufsIndex item).toNat]? = some buf' ∧ visit buf = .ok (buf', .ok ())

/-- Over items with different buffers, a pass that succeeds made every visit. -/
theorem accountItems_ok {items : List ι}
    (distinct : (items.map fun item => (bufsIndex item).toNat).Nodup)
    {bufs bufs' : List ExpandBuffer}
    (ran : accountItems bufsIndex prepare items bufs = .ok (bufs', .ok ())) :
    bufs'.length = bufs.length ∧
      (∀ k, (∀ item ∈ items, (bufsIndex item).toNat ≠ k) → bufs'[k]? = bufs[k]?) ∧
      ∀ item ∈ items, Visited bufsIndex prepare bufs bufs' item := by
  induction items generalizing bufs with
  | nil =>
    obtain ⟨rfl, -⟩ := Prod.mk.inj (Except.ok.inj ran)
    exact ⟨rfl, fun _ _ => rfl, by simp⟩
  | cons item rest ih =>
    obtain ⟨apart, distinct⟩ := List.nodup_cons.mp distinct
    have elsewhere : ∀ other ∈ rest, (bufsIndex other).toNat ≠ (bufsIndex item).toNat :=
      fun other member same => apart (List.mem_map.mpr ⟨other, member, same⟩)
    obtain ⟨⟨between, outcome⟩, first, later⟩ := Run.bind_eq_ok.mp ran
    cases outcome with
    | error error => cases later
    | ok _ =>
      obtain ⟨visit, buf, buf', prepared, found, changed, rfl⟩ := accountItem_ok_iff.mp first
      obtain ⟨size, kept, visited⟩ := ih distinct later
      have inside := (List.getElem?_eq_some_iff.mp found).1
      refine ⟨size.trans (List.length_set ..), fun k away => ?_, fun other member => ?_⟩
      · obtain ⟨notHere, notLater⟩ := List.forall_mem_cons.mp away
        rw [kept k notLater, List.getElem?_set_ne notHere]
      · rcases List.mem_cons.mp member with rfl | member
        · refine ⟨visit, buf, buf', prepared, found, ?_, changed⟩
          rw [kept _ elsewhere, List.getElem?_set_self inside]
        · obtain ⟨visit, before, after, prepared, was, is, step⟩ := visited other member
          rw [List.getElem?_set_ne (Ne.symm (elsewhere other member))] at was
          exact ⟨visit, before, after, prepared, was, is, step⟩

def Visitable (bufsIndex : ι → UInt16) (prepare : ι → Run Visit) (bufs : List ExpandBuffer)
    (item : ι) : Prop :=
  ∃ visit buf buf', prepare item = .ok visit ∧ bufs[(bufsIndex item).toNat]? = some buf ∧
    visit buf = .ok (buf', .ok ())

theorem accountItems_total {items : List ι} (bufs : List ExpandBuffer)
    (distinct : (items.map fun item => (bufsIndex item).toNat).Nodup)
    (visitable : ∀ item ∈ items, Visitable bufsIndex prepare bufs item) :
    ∃ bufs', accountItems bufsIndex prepare items bufs = .ok (bufs', .ok ()) := by
  induction items generalizing bufs with
  | nil => exact ⟨bufs, rfl⟩
  | cons item rest ih =>
    obtain ⟨apart, distinct⟩ := List.nodup_cons.mp distinct
    obtain ⟨visit, buf, buf', prepared, found, changed⟩ := visitable item List.mem_cons_self
    have first := accountItem_ok_iff.mpr ⟨visit, buf, buf', prepared, found, changed, rfl⟩
    rw [accountItems, first, Run.ok_bind]
    refine ih _ distinct fun other member => ?_
    obtain ⟨visit, before, after, prepared, was, step⟩ :=
      visitable other (List.mem_cons_of_mem _ member)
    refine ⟨visit, before, after, prepared, ?_, step⟩
    rw [List.getElem?_set_ne, was]
    exact fun same => apart (List.mem_map.mpr ⟨other, member, same.symm⟩)

end Items

/-! ## One visit -/

/-- The bytes in front of the packet. -/
def ExpandBuffer.virtioHeader (buf : ExpandBuffer) (offset : Nat) : List UInt8 :=
  window buf.bytes (offset - virtioNetHdrLen) virtioNetHdrLen

theorem virtioHeader_overwritten {offset : Nat} {buf : ExpandBuffer} {source : List UInt8}
    (room : virtioNetHdrLen ≤ offset) (fits : offset ≤ buf.bytes.length)
    (size : source.length = virtioNetHdrLen) :
    (buf.overwritten (offset - virtioNetHdrLen) source).virtioHeader offset = source := by
  apply List.ext_getElem?
  intro i
  rw [ExpandBuffer.virtioHeader, getElem?_window, ExpandBuffer.bytes_overwritten,
    getElem?_overwrite]
  by_cases inside : i < virtioNetHdrLen
  · rw [if_pos inside, if_pos (by omega), Nat.add_sub_cancel_left]
  · rw [if_neg inside, List.getElem?_eq_none (by omega)]

theorem virtioHeader_cleared {offset : Nat} {buf : ExpandBuffer} (room : virtioNetHdrLen ≤ offset)
    (fits : offset ≤ buf.bytes.length) :
    (cleared offset buf).virtioHeader offset = List.replicate virtioNetHdrLen 0 :=
  virtioHeader_overwritten room fits List.length_replicate

theorem accountSingle_ok (host : Host) {offset : Nat} {buf : ExpandBuffer}
    (room : virtioNetHdrLen ≤ offset) (fits : offset ≤ buf.bytes.length) :
    accountSingle host offset buf = .ok (cleared offset buf, .ok ()) := by
  rw [accountSingle, subLen_ok room, Run.ok_bind, encodeAt_default room fits le_rfl, Run.ok_bind]
  rfl

section Merged

variable {host : Host} {offset : Nat} {isV6 : Bool} {iphLen protocol : UInt8} {hdr : VirtioNetHdr}
  {buf : ExpandBuffer}

theorem write_packet (buf : ExpandBuffer) (offset n : Nat) (source : List UInt8)
    (fits : offset + n + source.length ≤ buf.bytes.length) :
    ∃ buf', buf.write (offset + n) source = .ok buf' ∧
      buf'.bytes.drop offset = overwrite (buf.bytes.drop offset) n source ∧
      buf'.bytes.take offset = buf.bytes.take offset ∧ buf'.bytes.length = buf.bytes.length :=
  ⟨_, ExpandBuffer.write_ok fits, drop_overwrite_add _ _ _ _,
    take_overwrite_of_le _ _ _ (Nat.le_add_right ..), length_overwrite ..⟩

theorem toNat_subU16_ipHLen {n : Nat} (iph : iphLen.toNat = ipHLen isV6) (long : ipHLen isV6 ≤ n)
    (short : n ≤ 65535) :
    subU16 (UInt16.ofNat n) iphLen.toUInt16 = .ok (UInt16.ofNat (n - ipHLen isV6)) := by
  have whole := toNat_ofNat_of_le short
  have header : iphLen.toUInt16.toNat = ipHLen isV6 := by rw [UInt8.toNat_toUInt16, iph]
  rw [subU16_ok (by omega)]
  congr 1
  apply UInt16.toNat_inj.mp
  rw [UInt16.toNat_sub, whole, header, UInt16.toNat_ofNat']
  omega

theorem encodeAt_packet (host : Host) (hdr : VirtioNetHdr) (buf : ExpandBuffer)
    (room : virtioNetHdrLen ≤ offset) (fits : offset ≤ buf.bytes.length) :
    ∃ buf', encodeAt host hdr buf (offset - virtioNetHdrLen) buf.bytes.length = .ok (.ok buf') ∧
      buf'.virtioHeader offset = hdr.layout host.bigEndian ∧
      buf'.bytes.drop offset = buf.bytes.drop offset ∧
      buf'.bytes.length = buf.bytes.length := by
  have size := VirtioNetHdr.length_layout host.bigEndian hdr
  exact ⟨_, encodeAt_ok (by omega) le_rfl, virtioHeader_overwritten room fits size,
    drop_overwrite_of_le _ _ _ (by omega), length_overwrite ..⟩

theorem accountIpHeader_ok (iph : iphLen.toNat = ipHLen isV6)
    (long : offset + ipHLen isV6 ≤ buf.bytes.length)
    (short : (buf.bytes.drop offset).length ≤ 65535) :
    ∃ buf', accountIpHeader buf offset isV6 iphLen
        (UInt16.ofNat (buf.bytes.drop offset).length) = .ok buf' ∧
      buf'.bytes.drop offset = ipAccounted isV6 (buf.bytes.drop offset) ∧
      buf'.bytes.length = buf.bytes.length := by
  have size : (buf.bytes.drop offset).length = buf.bytes.length - offset := List.length_drop
  cases isV6 with
  | true =>
    have long : offset + 40 ≤ buf.bytes.length := long
    have payloadLen := toNat_subU16_ipHLen (n := (buf.bytes.drop offset).length) iph
      (by simp only [ipHLen, if_true]; omega) short
    obtain ⟨buf', wrote, packet, -, same⟩ := write_packet buf offset 4
      (be16 (UInt16.ofNat ((buf.bytes.drop offset).length - 40))) (by simp; omega)
    refine ⟨buf', ?_, packet, same⟩
    rw [accountIpHeader, if_pos rfl, payloadLen, Run.ok_bind]
    exact wrote
  | false =>
    -- IPv4 has a checksum of its own: it is cleared, and computed after the length is written.
    have long : offset + 20 ≤ buf.bytes.length := long
    have iph : iphLen.toNat = 20 := iph
    obtain ⟨first, wroteFirst, packetFirst, -, sameFirst⟩ :=
      write_packet buf offset 10 [0, 0] (by simp; omega)
    obtain ⟨second, wroteSecond, packetSecond, -, sameSecond⟩ :=
      write_packet first offset 2
        (be16 (UInt16.ofNat (buf.bytes.drop offset).length)) (by simp; omega)
    have header : slice second.bytes offset (offset + iphLen.toNat) =
        .ok ((second.bytes.drop offset).take 20) := by
      rw [iph, slice_ok (by omega) (by omega), Nat.add_sub_cancel_left]
      rfl
    have sum : checksum ((second.bytes.drop offset).take 20) 0 =
        .ok (UInt16.ofNat (fold (wordSum ((second.bytes.drop offset).take 20)))) := by
      rw [checksum_ok _ _ (by rw [List.length_take]; omega), Nat.zero_add]
    obtain ⟨buf', wrote, packet, -, same⟩ := write_packet second offset 10
      (be16 (~~~ UInt16.ofNat (fold (wordSum ((second.bytes.drop offset).take 20)))))
      (by simp; omega)
    refine ⟨buf', ?_, ?_, by omega⟩
    · rw [accountIpHeader, if_neg Bool.false_ne_true, wroteFirst, Run.ok_bind, wroteSecond,
        Run.ok_bind, header, Run.ok_bind, sum, Run.ok_bind]
      exact wrote
    · rw [packet, packetSecond, packetFirst]
      rfl

theorem accountUdpLength_ok (buf : ExpandBuffer) (offset : Nat) (protocol : UInt8)
    {pkt : List UInt8} (iph : iphLen.toNat = ipHLen isV6)
    (size : (buf.bytes.drop offset).length = pkt.length) (long : ipHLen isV6 + 8 ≤ pkt.length)
    (short : pkt.length ≤ 65535) :
    ∃ buf', accountUdpLength buf offset iphLen protocol (UInt16.ofNat pkt.length) = .ok buf' ∧
      buf'.bytes.drop offset = udpAccounted isV6 protocol (buf.bytes.drop offset) ∧
      buf'.bytes.take offset = buf.bytes.take offset ∧ buf'.bytes.length = buf.bytes.length := by
  rw [List.length_drop] at size
  unfold accountUdpLength udpAccounted
  split
  · obtain ⟨buf', wrote, packet, front, same⟩ := write_packet buf offset
      (ipHLen isV6 + 4) (be16 (UInt16.ofNat (pkt.length - ipHLen isV6)))
      (by simp only [length_be16]; omega)
    refine ⟨buf', ?_, ?_, front, same⟩
    · rw [toNat_subU16_ipHLen iph (by omega) short, Run.ok_bind, iph, Nat.add_assoc]
      exact wrote
    · rw [packet, List.length_drop, size]
  · exact ⟨buf, rfl, rfl, rfl, rfl⟩

theorem accountMerged_ok (host : Host) (buf : ExpandBuffer) (hdr : VirtioNetHdr) (protocol : UInt8)
    (room : virtioNetHdrLen ≤ offset)
    (iph : iphLen.toNat = ipHLen isV6) (start : hdr.csumStart = iphLen.toUInt16)
    (stop : hdr.csumOffset.toNat = transportCsumOffset protocol)
    (long : ipHLen isV6 + transportCsumOffset protocol + 2 ≤ (buf.bytes.drop offset).length)
    (short : (buf.bytes.drop offset).length ≤ 65535) :
    ∃ buf', accountMerged host offset isV6 iphLen protocol hdr buf = .ok (buf', .ok ()) ∧
      buf'.virtioHeader offset = hdr.layout host.bigEndian ∧
      buf'.bytes.drop offset = accountedPacket isV6 protocol (buf.bytes.drop offset) := by
  have size : (buf.bytes.drop offset).length = buf.bytes.length - offset := List.length_drop
  have minimal : 6 ≤ transportCsumOffset protocol := by
    unfold transportCsumOffset
    split <;> omega
  have low := ipHLen_le isV6
  have high := transportCsumOffset_le protocol
  -- The headers are written first, then the transport fields behind them.
  obtain ⟨ip, ranIp, packetIp, sameIp⟩ := accountIpHeader_ok iph (by omega) short
  obtain ⟨encoded, ranHeader, headerEncoded, packetEncoded, sameEncoded⟩ :=
    encodeAt_packet host hdr ip room (by omega)
  obtain ⟨udp, ranUdp, packetUdp, frontUdp, sameUdp⟩ :=
    accountUdpLength_ok encoded offset protocol iph (by rw [packetEncoded, packetIp, length_ipAccounted])
      (by omega) short
  have whole : ipHLen isV6 ≤ (buf.bytes.drop offset).length := by omega
  obtain ⟨psum, ranPseudo, ranSum⟩ := packetPseudoHeader_checksum protocol
    (UInt16.ofNat ((buf.bytes.drop offset).length - ipHLen isV6)) [] whole (by simp)
  rw [List.append_nil] at ranSum
  obtain ⟨buf', wrote, packet, front, same⟩ := write_packet udp offset
    (ipHLen isV6 + transportCsumOffset protocol)
    (be16 (UInt16.ofNat (fold (pseudoSum isV6 protocol (buf.bytes.drop offset)))))
    (by simp only [length_be16]; omega)
  have startIs : hdr.csumStart.toNat = ipHLen isV6 := by rw [start, UInt8.toNat_toUInt16, iph]
  have csumAt : (hdr.csumStart + hdr.csumOffset).toNat =
      ipHLen isV6 + transportCsumOffset protocol := by
    rw [UInt16.toNat_add, startIs, stop]
    omega
  refine ⟨buf', ?_, ?_, ?_⟩
  · rw [accountMerged, sliceFrom_ok (by omega), Run.ok_bind]
    simp only []
    rw [slice_srcAddress whole, Run.ok_bind, slice_dstAddress whole, Run.ok_bind, ranIp, Run.ok_bind,
      subLen_ok room, Run.ok_bind, ranHeader, Run.ok_bind]
    simp only []
    rw [ranUdp, Run.ok_bind, toNat_subU16_ipHLen iph (by omega) short, Run.ok_bind, ranPseudo,
      Run.ok_bind, ranSum, Run.ok_bind, addU16_ok (by omega), Run.ok_bind, csumAt]
    rw [pseudoSum] at wrote
    rw [wrote]
    rfl
  · rw [← headerEncoded, ExpandBuffer.virtioHeader, ExpandBuffer.virtioHeader,
      ← window_take buf'.bytes (k := offset) (by omega),
      ← window_take encoded.bytes (k := offset) (by omega), front, frontUdp]
  · rw [packet, packetUdp, packetEncoded, packetIp]
    rfl

structure Framed (k : Nat) (buf buf' : ExpandBuffer) : Prop where
  size : buf'.bytes.length = buf.bytes.length
  behind : buf'.bytes.drop k = buf.bytes.drop k

theorem Framed.refl (k : Nat) (buf : ExpandBuffer) : Framed k buf buf := ⟨rfl, rfl⟩

theorem Framed.trans {k : Nat} {a b c : ExpandBuffer} (first : Framed k a b)
    (second : Framed k b c) : Framed k a c :=
  ⟨second.size.trans first.size, second.behind.trans first.behind⟩

theorem write_framed {buf buf' : ExpandBuffer} {start k : Nat} {source : List UInt8}
    (ran : buf.write start source = .ok buf') (front : start + source.length ≤ k) :
    Framed k buf buf' := by
  unfold ExpandBuffer.write at ran
  split at ran
  · rw [← Except.ok.inj ran]
    exact ⟨length_overwrite .., drop_overwrite_of_le _ _ _ front⟩
  · cases ran

theorem accountIpHeader_framed {pktLen : UInt16} {buf' : ExpandBuffer} {k : Nat}
    (ran : accountIpHeader buf offset isV6 iphLen pktLen = .ok buf') (front : offset + 12 ≤ k) :
    Framed k buf buf' := by
  unfold accountIpHeader at ran
  split at ran
  · obtain ⟨payloadLen, -, wrote⟩ := Run.bind_eq_ok.mp ran
    exact write_framed wrote (by simp only [length_be16]; omega)
  · obtain ⟨blank, wroteBlank, ran⟩ := Run.bind_eq_ok.mp ran
    obtain ⟨sized, wroteLength, ran⟩ := Run.bind_eq_ok.mp ran
    obtain ⟨header, -, ran⟩ := Run.bind_eq_ok.mp ran
    obtain ⟨csum, -, wrote⟩ := Run.bind_eq_ok.mp ran
    have first : Framed k buf blank :=
      write_framed wroteBlank (by simp only [List.length_cons, List.length_nil]; omega)
    have second : Framed k blank sized :=
      write_framed wroteLength (by simp only [length_be16]; omega)
    have third : Framed k sized buf' := write_framed wrote (by simp only [length_be16]; omega)
    exact (first.trans second).trans third

theorem accountUdpLength_framed {pktLen : UInt16} {buf' : ExpandBuffer} {k : Nat}
    (ran : accountUdpLength buf offset iphLen protocol pktLen = .ok buf')
    (front : offset + iphLen.toNat + 6 ≤ k) : Framed k buf buf' := by
  unfold accountUdpLength at ran
  split at ran
  · obtain ⟨udpLen, -, wrote⟩ := Run.bind_eq_ok.mp ran
    exact write_framed wrote (by simp only [length_be16]; omega)
  · rw [← Except.ok.inj ran]
    exact Framed.refl k buf

/-- Whatever the length: what a visit that succeeds wrote, one after the other. -/
theorem accountMerged_steps {buf' : ExpandBuffer} (room : virtioNetHdrLen ≤ offset)
    (fits : offset ≤ buf.bytes.length) (start : hdr.csumStart = iphLen.toUInt16)
    (ran : accountMerged host offset isV6 iphLen protocol hdr buf = .ok (buf', .ok ())) :
    ∃ pktLen csum ip encoded udp, accountIpHeader buf offset isV6 iphLen pktLen = .ok ip ∧
      encoded.virtioHeader offset = hdr.layout host.bigEndian ∧
      encoded.bytes.drop offset = ip.bytes.drop offset ∧
      encoded.bytes.length = ip.bytes.length ∧
      accountUdpLength encoded offset iphLen protocol pktLen = .ok udp ∧
      udp.write (offset + (iphLen.toNat + hdr.csumOffset.toNat)) (be16 csum) = .ok buf' := by
  obtain ⟨pkt, -, ran⟩ := Run.bind_eq_ok.mp ran
  obtain ⟨src, -, ran⟩ := Run.bind_eq_ok.mp ran
  obtain ⟨dst, -, ran⟩ := Run.bind_eq_ok.mp ran
  obtain ⟨ip, ranIp, ran⟩ := Run.bind_eq_ok.mp ran
  have sizeIp := (accountIpHeader_framed ranIp (Nat.le_refl (offset + 12))).size
  obtain ⟨encoded, ranHeader, header, packetEncoded, sameEncoded⟩ :=
    encodeAt_packet host hdr ip room (by omega)
  rw [subLen_ok room, Run.ok_bind, ranHeader, Run.ok_bind] at ran
  obtain ⟨udp, ranUdp, ran⟩ := Run.bind_eq_ok.mp ran
  obtain ⟨transportLen, -, ran⟩ := Run.bind_eq_ok.mp ran
  obtain ⟨psum, -, ran⟩ := Run.bind_eq_ok.mp ran
  obtain ⟨csum, -, ran⟩ := Run.bind_eq_ok.mp ran
  obtain ⟨csumAt, sum, ran⟩ := Run.bind_eq_ok.mp ran
  obtain ⟨last, wrote, same⟩ := Run.bind_eq_ok.mp ran
  obtain ⟨rfl, -⟩ := Prod.mk.inj (Except.ok.inj same)
  have position : csumAt.toNat = iphLen.toNat + hdr.csumOffset.toNat := by
    unfold addU16 at sum
    split at sum
    case isTrue small =>
      rw [start, UInt8.toNat_toUInt16] at small
      rw [← Except.ok.inj sum, UInt16.toNat_add, start, UInt8.toNat_toUInt16]
      exact Nat.mod_eq_of_lt small
    case isFalse => cases sum
  rw [position] at wrote
  exact ⟨_, csum, ip, encoded, udp, ranIp, header, packetEncoded, sameEncoded, ranUdp, wrote⟩

theorem accountMerged_framed {buf' : ExpandBuffer} {k : Nat} (room : virtioNetHdrLen ≤ offset)
    (fits : offset ≤ buf.bytes.length) (start : hdr.csumStart = iphLen.toUInt16)
    (front : offset + iphLen.toNat + hdr.csumOffset.toNat + 2 ≤ k) (headers : offset + 12 ≤ k)
    (minimal : 4 ≤ hdr.csumOffset.toNat)
    (ran : accountMerged host offset isV6 iphLen protocol hdr buf = .ok (buf', .ok ())) :
    Framed k buf buf' := by
  obtain ⟨pktLen, csum, ip, encoded, udp, ranIp, -, packetEncoded, sameEncoded, ranUdp, wrote⟩ :=
    accountMerged_steps room fits start ran
  have framedIp := accountIpHeader_framed ranIp headers
  have framedEncoded : Framed k ip encoded := by
    refine ⟨sameEncoded, ?_⟩
    have split : k = offset + (k - offset) := by omega
    rw [split, ← List.drop_drop, packetEncoded, List.drop_drop]
  have framedUdp := accountUdpLength_framed (k := k) ranUdp (by omega)
  have framedSum := write_framed (k := k) wrote (by simp only [length_be16]; omega)
  exact ((framedIp.trans framedEncoded).trans framedUdp).trans framedSum

theorem write_front {buf buf' : ExpandBuffer} {n : Nat} {source : List UInt8}
    (ran : buf.write (offset + n) source = .ok buf') :
    buf'.bytes.take offset = buf.bytes.take offset := by
  unfold ExpandBuffer.write at ran
  split at ran
  · rw [← Except.ok.inj ran]
    exact take_overwrite_of_le _ _ _ (Nat.le_add_right ..)
  · cases ran

theorem accountUdpLength_front {pktLen : UInt16} {buf' : ExpandBuffer}
    (ran : accountUdpLength buf offset iphLen protocol pktLen = .ok buf') :
    buf'.bytes.take offset = buf.bytes.take offset := by
  unfold accountUdpLength at ran
  split at ran
  · obtain ⟨udpLen, -, wrote⟩ := Run.bind_eq_ok.mp ran
    rw [Nat.add_assoc] at wrote
    exact write_front wrote
  · rw [← Except.ok.inj ran]

theorem accountMerged_header {buf' : ExpandBuffer} (room : virtioNetHdrLen ≤ offset)
    (fits : offset ≤ buf.bytes.length) (start : hdr.csumStart = iphLen.toUInt16)
    (ran : accountMerged host offset isV6 iphLen protocol hdr buf = .ok (buf', .ok ())) :
    buf'.virtioHeader offset = hdr.layout host.bigEndian := by
  obtain ⟨pktLen, csum, ip, encoded, udp, -, header, -, -, ranUdp, wrote⟩ :=
    accountMerged_steps room fits start ran
  rw [← header, ExpandBuffer.virtioHeader, ExpandBuffer.virtioHeader,
    ← window_take buf'.bytes (k := offset) (by omega),
    ← window_take encoded.bytes (k := offset) (by omega), write_front wrote,
    accountUdpLength_front ranUdp]

/-! ## The fields that accounting leaves alone -/

theorem write_agree {positions : Nat → Prop} {buf buf' : ExpandBuffer} {n : Nat}
    {source : List UInt8} (ran : buf.write (offset + n) source = .ok buf')
    (apart : ∀ i, positions i → i < n ∨ n + source.length ≤ i) :
    AgreeOn positions (buf'.bytes.drop offset) (buf.bytes.drop offset) := by
  unfold ExpandBuffer.write at ran
  split at ran
  · rw [← Except.ok.inj ran, ExpandBuffer.bytes_overwritten, drop_overwrite_add]
    exact (AgreeOn.refl positions _).overwrite n source apart
  · cases ran

theorem accountIpHeader_agree {pktLen : UInt16} {buf' : ExpandBuffer} (protocol : UInt8)
    (ran : accountIpHeader buf offset isV6 iphLen pktLen = .ok buf') :
    AgreeOn (accountingKeeps isV6 protocol) (buf'.bytes.drop offset) (buf.bytes.drop offset) := by
  cases isV6 with
  | true =>
    obtain ⟨payloadLen, -, wrote⟩ := Run.bind_eq_ok.mp ran
    refine write_agree wrote fun i kept => ?_
    have away : i ≠ 4 ∧ i ≠ 5 := kept.1
    simp only [length_be16]
    omega
  | false =>
    have away : ∀ i, accountingKeeps false protocol i → i ≠ 2 ∧ i ≠ 3 ∧ i ≠ 10 ∧ i ≠ 11 :=
      fun i kept => kept.1
    obtain ⟨blank, wroteBlank, ran⟩ := Run.bind_eq_ok.mp ran
    obtain ⟨sized, wroteLength, ran⟩ := Run.bind_eq_ok.mp ran
    obtain ⟨header, -, ran⟩ := Run.bind_eq_ok.mp ran
    obtain ⟨csum, -, wrote⟩ := Run.bind_eq_ok.mp ran
    have first := write_agree wroteBlank fun i kept => by
      have apart := away i kept
      simp only [List.length_cons, List.length_nil]
      omega
    have second := write_agree wroteLength fun i kept => by
      have apart := away i kept
      simp only [length_be16]
      omega
    have third := write_agree wrote fun i kept => by
      have apart := away i kept
      simp only [length_be16]
      omega
    exact third.trans (second.trans first)

theorem accountUdpLength_agree {pktLen : UInt16} {buf' : ExpandBuffer}
    (iph : iphLen.toNat = ipHLen isV6)
    (ran : accountUdpLength buf offset iphLen protocol pktLen = .ok buf') :
    AgreeOn (accountingKeeps isV6 protocol) (buf'.bytes.drop offset) (buf.bytes.drop offset) := by
  unfold accountUdpLength at ran
  split at ran
  case isTrue datagram =>
    obtain ⟨udpLen, -, wrote⟩ := Run.bind_eq_ok.mp ran
    rw [iph, Nat.add_assoc] at wrote
    refine write_agree wrote fun i kept => ?_
    have away := kept.2.2 datagram
    simp only [length_be16]
    omega
  case isFalse =>
    rw [← Except.ok.inj ran]
    exact .refl _ _

/-- Whatever the length, accounting writes to the fields of `accountedPacket` only. -/
theorem accountMerged_agree {buf' : ExpandBuffer} (room : virtioNetHdrLen ≤ offset)
    (fits : offset ≤ buf.bytes.length) (iph : iphLen.toNat = ipHLen isV6)
    (start : hdr.csumStart = iphLen.toUInt16)
    (stop : hdr.csumOffset.toNat = transportCsumOffset protocol)
    (ran : accountMerged host offset isV6 iphLen protocol hdr buf = .ok (buf', .ok ())) :
    AgreeOn (accountingKeeps isV6 protocol) (buf'.bytes.drop offset) (buf.bytes.drop offset) := by
  obtain ⟨pktLen, csum, ip, encoded, udp, ranIp, -, packetEncoded, -, ranUdp, wrote⟩ :=
    accountMerged_steps room fits start ran
  rw [iph, stop] at wrote
  have header := accountIpHeader_agree protocol ranIp
  have length := accountUdpLength_agree iph ranUdp
  rw [packetEncoded] at length
  have csumField := write_agree wrote fun i (kept : accountingKeeps isV6 protocol i) => by
    have away := kept.2.1
    simp only [length_be16]
    omega
  exact csumField.trans (length.trans header)

end Merged

end QuincyTun.Linux
