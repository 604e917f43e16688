import QuincyTun.Linux.SuperPacket

/-! The coalescing functions on packets of one flow: when each outcome occurs, and
what the buffers are afterwards. None of them panics.
-/

set_option autoImplicit false

namespace QuincyTun.Linux

open QuincyTun.Foundation

/-! ## Checksums -/

theorem checksumValid_eq {isV6 : Bool} {pkt : List UInt8} {iphLen : UInt8} (protocol : UInt8)
    (iph : iphLen.toNat = ipHLen isV6) (long : ipHLen isV6 ≤ pkt.length)
    (small : pkt.length ≤ 65535) :
    checksumValid pkt iphLen protocol isV6 = .ok (decide (TransportVerifies isV6 protocol pkt)) := by
  obtain ⟨psum, pseudo, total⟩ := packetPseudoHeader_checksum protocol
    (UInt16.ofNat (pkt.length - ipHLen isV6)) (pkt.drop (ipHLen isV6)) long
    (by rw [List.length_drop]; omega)
  have family : (if isV6 = true then (ipv6SrcAddrOffset, 16) else (ipv4SrcAddrOffset, 4)) =
      (srcAddrOffset isV6, addrLen isV6) := by cases isV6 <;> rfl
  have lenForPseudo : pkt.length % 65536 - iphLen.toNat = pkt.length - ipHLen isV6 := by
    rw [iph]
    omega
  unfold checksumValid
  rw [family]
  simp only [lenForPseudo]
  rw [slice_srcAddress long, Run.ok_bind, slice_dstAddress long, Run.ok_bind, pseudo, Run.ok_bind,
    sliceFrom_ok (by omega), Run.ok_bind, iph, total, Run.ok_bind, Run.pure_eq_ok]
  congr 1
  rw [Bool.eq_iff_iff, beq_iff_eq, decide_eq_true_iff, TransportVerifies, checksumCoverage,
    ← UInt16.toNat_inj, toNat_complement_fold]
  have bound := fold_le (wordSum (pseudoHeader protocol (srcAddress isV6 pkt)
    (dstAddress isV6 pkt) (UInt16.ofNat (pkt.length - ipHLen isV6)) ++ pkt.drop (ipHLen isV6)))
  change _ - _ = 0 ↔ _
  omega

/-! ## TCP -/

theorem toNat_ipHLen (isV6 : Bool) : (UInt8.ofNat (ipHLen isV6)).toNat = ipHLen isV6 := by
  cases isV6 <;> rfl

theorem toNat_tcpHLen (isV6 : Bool) (pkt : List UInt8) :
    (UInt8.ofNat (tcpHLen isV6 pkt)).toNat = tcpHLen isV6 pkt := by
  have bound := tcpHLen_le isV6 pkt
  rw [UInt8.toNat_ofNat']
  omega

section TcpItem

variable {parts : List (List UInt8)} {item : TcpGROItem} {cur pkt : List UInt8}

theorem tcpOptionsMatch_eq (group : TcpGroup parts item cur)
    (eligible : TcpEligible item.key.isV6 pkt)
    (headerLen : tcpHLen item.key.isV6 pkt = tcpHLen item.key.isV6 cur) :
    tcpOptionsMatch pkt cur (UInt8.ofNat (ipHLen item.key.isV6))
        (UInt8.ofNat (tcpHLen item.key.isV6 pkt)) item =
      .ok (decide (tcpOptions item.key.isV6 pkt = tcpOptions item.key.isV6 cur)) := by
  have long := group.headers_lt
  have payload := eligible.payload
  have minimal := eligible.headerLen
  have size : ∀ start : Nat, start + tcpHLen item.key.isV6 pkt - (start + 20) =
      tcpHLen item.key.isV6 pkt - 20 := by intro start; omega
  unfold tcpOptionsMatch
  simp only [toNat_ipHLen, toNat_tcpHLen, group.iphLen]
  by_cases options : UInt8.ofNat (tcpHLen item.key.isV6 pkt) > 20
  · rw [if_pos options, slice_ok (by omega) (by omega), Run.ok_bind,
      slice_ok (by omega) (by omega), Run.ok_bind, Run.pure_eq_ok, size, tcpOptions, tcpOptions,
      headerLen, beq_eq_decide]
  · have none : tcpHLen item.key.isV6 pkt ≤ 20 := by
      rw [gt_iff_lt, UInt8.lt_iff_toNat_lt, toNat_tcpHLen] at options
      exact Nat.le_of_not_lt options
    have empty : tcpHLen item.key.isV6 pkt - 20 = 0 := by omega
    rw [if_neg options, Run.pure_eq_ok, tcpOptions, tcpOptions, ← headerLen, empty]
    simp [window]

theorem tcpAdjacency_spec (group : TcpGroup parts item cur)
    (eligible : TcpEligible item.key.isV6 pkt)
    (headerLen : tcpHLen item.key.isV6 pkt = tcpHLen item.key.isV6 cur)
    (options : tcpOptions item.key.isV6 pkt = tcpOptions item.key.isV6 cur)
    (ip : ipHeadersCanCoalesce pkt cur = true) :
    ∃ can, tcpAdjacency (UInt8.ofNat (ipHLen item.key.isV6))
        (UInt8.ofNat (tcpHLen item.key.isV6 pkt)) (tcpSeq item.key.isV6 pkt)
        (tcpFlags item.key.isV6 pkt != tcpFlagAck)
        (UInt16.ofNat (tcpPayload item.key.isV6 pkt).length) item cur = .ok can ∧
      (can = .append ↔ TcpAppends item.key.isV6 pkt item cur) ∧
      (can = .prepend ↔ TcpPrepends item.key.isV6 pkt item cur) := by
  have long := group.headers_lt
  have positive := group.gsoSize_pos
  have size := eligible.toNat_gsoSize
  have larger : UInt16.ofNat (tcpPayload item.key.isV6 pkt).length > item.gsoSize ↔
      item.gsoSize.toNat < (tcpPayload item.key.isV6 pkt).length := by
    rw [gt_iff_lt, UInt16.lt_iff_toNat_lt, size]
  have smaller : UInt16.ofNat (tcpPayload item.key.isV6 pkt).length < item.gsoSize ↔
      (tcpPayload item.key.isV6 pkt).length < item.gsoSize.toNat := by
    rw [UInt16.lt_iff_toNat_lt, size]
  unfold tcpAdjacency
  simp only [toNat_ipHLen, toNat_tcpHLen, size]
  by_cases behind : tcpSeq item.key.isV6 pkt = item.sentSeq +
      UInt32.ofNat (item.gsoSize.toNat + item.numMerged.toNat * item.gsoSize.toNat)
  -- The place behind the item is tried first; a packet that would fit there goes nowhere else.
  · have notFront : ¬ TcpPrepends item.key.isV6 pkt item cur := fun h => h.notBehind behind
    rw [if_pos behind]
    by_cases psh : item.pshSet = true
    · rw [if_pos psh]
      refine ⟨_, rfl, ?_, by simpa using notFront⟩
      simpa using fun h : TcpAppends _ _ _ _ => by simp [h.noPsh] at psh
    rw [if_neg psh, sliceFrom_ok (by omega), Run.ok_bind, remLen_ok (by omega), Run.ok_bind,
      headerLen, ← tcpPayload]
    by_cases full : (tcpPayload item.key.isV6 cur).length % item.gsoSize.toNat = 0
    case neg =>
      rw [if_pos full]
      exact ⟨_, rfl, by simpa using fun h => full h.full, by simpa using notFront⟩
    rw [if_neg (not_not.mpr full)]
    by_cases small : (tcpPayload item.key.isV6 pkt).length ≤ item.gsoSize.toNat
    · rw [if_neg (mt larger.mp (Nat.not_lt.mpr small))]
      exact ⟨_, rfl, by simpa using ⟨headerLen, options, ip, behind, by simpa using psh, full, small⟩,
        by simpa using notFront⟩
    · rw [if_pos (larger.mpr (Nat.lt_of_not_le small))]
      exact ⟨_, rfl, by simpa using fun h => small h.small, by simpa using notFront⟩
  · have notBack : ¬ TcpAppends item.key.isV6 pkt item cur := fun h => behind h.seq
    rw [if_neg behind]
    by_cases front : tcpSeq item.key.isV6 pkt +
        UInt32.ofNat (tcpPayload item.key.isV6 pkt).length = item.sentSeq
    case neg =>
      rw [if_neg front]
      exact ⟨_, rfl, by simpa using notBack, by simpa using fun h => front h.seq⟩
    rw [if_pos front]
    by_cases psh : tcpFlags item.key.isV6 pkt = tcpFlagAck
    case neg =>
      rw [if_pos (by simpa using psh)]
      exact ⟨_, rfl, by simpa using notBack, by simpa using fun h => psh h.noPsh⟩
    rw [if_neg (by simpa using psh)]
    by_cases large : item.gsoSize.toNat ≤ (tcpPayload item.key.isV6 pkt).length
    case neg =>
      rw [if_pos (smaller.mpr (Nat.lt_of_not_le large))]
      exact ⟨_, rfl, by simpa using notBack, by simpa using fun h => large h.large⟩
    rw [if_neg (mt smaller.mp (Nat.not_lt.mpr large))]
    by_cases alone : item.gsoSize.toNat < (tcpPayload item.key.isV6 pkt).length →
        item.numMerged = 0
    · rw [if_neg (by
        rintro ⟨bigger, several⟩
        rw [alone (larger.mp bigger)] at several
        exact absurd several (by decide))]
      exact ⟨_, rfl, by simpa using notBack,
        by simpa using ⟨headerLen, options, ip, behind, front, psh, large, alone⟩⟩
    · rw [if_pos (by
        obtain ⟨bigger, several⟩ := Classical.not_imp.mp alone
        exact ⟨larger.mpr bigger, UInt16.pos_iff_ne_zero.mpr several⟩)]
      exact ⟨_, rfl, by simpa using notBack, by simpa using fun h => alone h.alone⟩

theorem tcpPacketsCanCoalesce_spec {bufs : List ExpandBuffer} {offset : Nat}
    (group : TcpGroup parts item cur)
    (target : packetFrom bufs item.bufsIndex.toNat offset = .ok cur)
    (eligible : TcpEligible item.key.isV6 pkt) :
    ∃ can, tcpPacketsCanCoalesce pkt (UInt8.ofNat (ipHLen item.key.isV6))
        (UInt8.ofNat (tcpHLen item.key.isV6 pkt)) (tcpSeq item.key.isV6 pkt)
        (tcpFlags item.key.isV6 pkt != tcpFlagAck)
        (UInt16.ofNat (tcpPayload item.key.isV6 pkt).length) item bufs offset = .ok can ∧
      (can = .append ↔ TcpAppends item.key.isV6 pkt item cur) ∧
      (can = .prepend ↔ TcpPrepends item.key.isV6 pkt item cur) := by
  have sameHeaderLen : UInt8.ofNat (tcpHLen item.key.isV6 pkt) = item.tcphLen ↔
      tcpHLen item.key.isV6 pkt = tcpHLen item.key.isV6 cur := by
    rw [← UInt8.toNat_inj, toNat_tcpHLen, group.tcphLen]
  unfold tcpPacketsCanCoalesce
  rw [target, Run.ok_bind]
  -- Each check that fails refuses both sides; the rest is decided by the sequence numbers.
  by_cases headerLen : tcpHLen item.key.isV6 pkt = tcpHLen item.key.isV6 cur
  case neg =>
    rw [if_pos (mt sameHeaderLen.mp headerLen)]
    exact ⟨_, rfl, by simpa using fun h => headerLen h.headerLen,
      by simpa using fun h => headerLen h.headerLen⟩
  rw [if_neg (not_not.mpr (sameHeaderLen.mpr headerLen)),
    tcpOptionsMatch_eq group eligible headerLen, Run.ok_bind]
  by_cases options : tcpOptions item.key.isV6 pkt = tcpOptions item.key.isV6 cur
  case neg =>
    rw [if_pos (decide_eq_false options)]
    exact ⟨_, rfl, by simpa using fun h => options h.options,
      by simpa using fun h => options h.options⟩
  rw [if_neg (by simpa using options)]
  cases ip : ipHeadersCanCoalesce pkt cur with
  | false => exact ⟨_, rfl, by simpa using fun h => by simp [h.ip] at ip,
      by simpa using fun h => by simp [h.ip] at ip⟩
  | true => exact tcpAdjacency_spec group eligible headerLen options ip

/-- The buffer of the item after a segment was joined to its end. -/
def tcpGrown (isV6 : Bool) (offset : Nat) (buf : ExpandBuffer) (pkt : List UInt8) : ExpandBuffer :=
  let flagsAt := offset + ipHLen isV6 + tcpFlagsOffset
  let marked :=
    if tcpFlags isV6 pkt != tcpFlagAck then
      buf.overwritten flagsAt [byteAt buf.bytes flagsAt ||| tcpFlagPsh]
    else buf
  marked.bufExtendFromSlice (tcpPayload isV6 pkt)

theorem drop_tcpGrown {isV6 : Bool} {offset : Nat} {buf : ExpandBuffer}
    (fits : offset ≤ buf.bytes.length) :
    (tcpGrown isV6 offset buf pkt).bytes.drop offset =
      tcpAppended isV6 (buf.bytes.drop offset) pkt := by
  simp only [tcpGrown, ExpandBuffer.bytes_bufExtendFromSlice, tcpAppended]
  split
  · rw [List.drop_append_of_le_length (by simpa using fits), ExpandBuffer.bytes_overwritten,
      Nat.add_assoc, drop_overwrite_add, tcpFlags, byteAt_drop]
  · rw [List.drop_append_of_le_length fits]

theorem joinPacket_append {bufs : List ExpandBuffer} {offset : Nat} {buf : ExpandBuffer}
    (group : TcpGroup parts item (buf.bytes.drop offset))
    (eligible : TcpEligible item.key.isV6 pkt)
    (headerLen : tcpHLen item.key.isV6 pkt = tcpHLen item.key.isV6 (buf.bytes.drop offset))
    (found : bufs[item.bufsIndex.toNat]? = some buf) (noPsh : item.pshSet = false)
    (k : Nat) (seq : UInt32) (coalescedLen : Nat) :
    joinPacket .append pkt k seq (tcpFlags item.key.isV6 pkt != tcpFlagAck) item bufs offset
        (ipHLen item.key.isV6 + tcpHLen item.key.isV6 (buf.bytes.drop offset)) coalescedLen =
      .ok ({ item with pshSet := tcpFlags item.key.isV6 pkt != tcpFlagAck },
        bufs.set item.bufsIndex.toNat (tcpGrown item.key.isV6 offset buf pkt)) := by
  have long := group.headers_lt
  have minimal := group.headerLen
  have payload := eligible.payload
  have flagsAt : tcpFlagsOffset = 13 := rfl
  have length : (buf.bytes.drop offset).length = buf.bytes.length - offset := List.length_drop ..
  have inside : item.bufsIndex.toNat < bufs.length := (List.getElem?_eq_some_iff.mp found).1
  unfold joinPacket appendPacket
  rw [if_neg (by decide), sliceFrom_ok (by omega)]
  cases psh : tcpFlags item.key.isV6 pkt != tcpFlagAck with
  | true =>
    have marked : markPsh bufs item offset = .ok (bufs.set item.bufsIndex.toNat
        (buf.overwritten (offset + ipHLen item.key.isV6 + tcpFlagsOffset)
          [byteAt buf.bytes (offset + ipHLen item.key.isV6 + tcpFlagsOffset) ||| tcpFlagPsh])) := by
      refine updateBuffer_ok found ?_
      rw [group.iphLen, getByte_ok (by omega), Run.ok_bind,
        ExpandBuffer.write_ok (by simp only [List.length_singleton]; omega)]
    rw [if_pos rfl, marked, Run.ok_bind, Run.ok_bind,
      updateBuffer_pure (List.getElem?_set_self inside), Run.ok_bind, List.set_set]
    simp only [tcpGrown, psh, if_true, tcpPayload, headerLen, Run.pure_eq_ok]
  | false =>
    have unchanged : { item with pshSet := false } = item := by rw [← noPsh]
    rw [if_neg Bool.false_ne_true, Run.ok_bind, updateBuffer_pure found, Run.ok_bind, unchanged]
    simp only [tcpGrown, psh, if_false, Bool.false_eq_true, tcpPayload, headerLen, Run.pure_eq_ok]

theorem prependPacket_eq {bufs : List ExpandBuffer} {offset k : Nat} {buf own : ExpandBuffer}
    (group : TcpGroup parts item (buf.bytes.drop offset))
    (found : bufs[item.bufsIndex.toNat]? = some buf) (foundOwn : bufs[k]? = some own)
    (fits : offset ≤ own.bytes.length) (apart : item.bufsIndex.toNat ≠ k)
    (eligible : TcpEligible item.key.isV6 (own.bytes.drop offset)) :
    prependPacket (own.bytes.drop offset) k item bufs offset
        (ipHLen item.key.isV6 + tcpHLen item.key.isV6 (buf.bytes.drop offset))
        ((buf.bytes.drop offset).length + (own.bytes.drop offset).length -
          (ipHLen item.key.isV6 + tcpHLen item.key.isV6 (buf.bytes.drop offset))) =
      .ok ((bufs.set item.bufsIndex.toNat
        (own.bufExtendFromSlice (tcpPayload item.key.isV6 (buf.bytes.drop offset)))).set k buf) := by
  have long := group.headers_lt
  have payload := eligible.payload
  have length : (buf.bytes.drop offset).length = buf.bytes.length - offset := List.length_drop ..
  have ownLength : (own.bytes.drop offset).length = own.bytes.length - offset :=
    List.length_drop ..
  have payloadLength : (tcpPayload item.key.isV6 (buf.bytes.drop offset)).length =
      (buf.bytes.drop offset).length -
        (ipHLen item.key.isV6 + tcpHLen item.key.isV6 (buf.bytes.drop offset)) :=
    List.length_drop ..
  -- The packet's own buffer takes the payload, and then the two buffers change places.
  have insideItem : item.bufsIndex.toNat < bufs.length := (List.getElem?_eq_some_iff.mp found).1
  have insideOwn : k < bufs.length := (List.getElem?_eq_some_iff.mp foundOwn).1
  have extendBy : (buf.bytes.drop offset).length + (own.bytes.drop offset).length -
      (ipHLen item.key.isV6 + tcpHLen item.key.isV6 (buf.bytes.drop offset)) -
      (own.bytes.drop offset).length =
        (tcpPayload item.key.isV6 (buf.bytes.drop offset)).length := by omega
  have source : window buf.bytes
      (offset + (ipHLen item.key.isV6 + tcpHLen item.key.isV6 (buf.bytes.drop offset)))
      (tcpPayload item.key.isV6 (buf.bytes.drop offset)).length =
        tcpPayload item.key.isV6 (buf.bytes.drop offset) := by
    rw [window, tcpPayload, List.drop_drop]
    exact List.take_of_length_le le_rfl
  have place : offset + (own.bytes.drop offset).length = own.bytes.length := by omega
  have written : (own.bufResize (own.bytes.length +
      (tcpPayload item.key.isV6 (buf.bytes.drop offset)).length) 0).write
        (offset + (own.bytes.drop offset).length)
        (tcpPayload item.key.isV6 (buf.bytes.drop offset)) =
      .ok (own.bufExtendFromSlice (tcpPayload item.key.isV6 (buf.bytes.drop offset))) := by
    rw [place, ExpandBuffer.write_ok (by
      simp only [ExpandBuffer.bufResize, List.length_append, List.length_take,
        List.length_replicate]
      omega), ExpandBuffer.overwritten_bufResize]
  unfold prependPacket
  rw [subLen_ok (by omega), Run.ok_bind, extendBy, updateBuffer_pure foundOwn, Run.ok_bind,
    index_ok (x := buf) (by rw [List.getElem?_set_ne (Ne.symm apart)]; exact found), Run.ok_bind,
    slice_ok (by omega) (by omega), Run.ok_bind, Nat.add_sub_cancel_left, source,
    updateBuffer_ok (List.getElem?_set_self insideOwn) written, Run.ok_bind, List.set_set, swapBuffers,
    index_ok (by rw [List.getElem?_set_ne (Ne.symm apart)]; exact found), Run.ok_bind,
    index_ok (List.getElem?_set_self insideOwn), Run.ok_bind, Run.pure_eq_ok,
    List.set_comm _ _ apart, List.set_set]
  exact congrArg _ (List.set_comm _ _ (Ne.symm apart))

def tcpJoinedLen (isV6 : Bool) (cur pkt : List UInt8) : Nat :=
  cur.length + pkt.length - (ipHLen isV6 + tcpHLen isV6 cur)

theorem itemChecksumInvalid_eq {isV6 : Bool} {numMerged bufsIndex : UInt16} {iphLen : UInt8}
    {bufs : List ExpandBuffer} {offset : Nat} {cur : List UInt8} (knownInvalid : Bool)
    (protocol : UInt8) (target : packetFrom bufs bufsIndex.toNat offset = .ok cur)
    (iph : iphLen.toNat = ipHLen isV6) (long : ipHLen isV6 ≤ cur.length)
    (small : numMerged = 0 → cur.length ≤ 65535) :
    itemChecksumInvalid numMerged knownInvalid bufs bufsIndex offset iphLen protocol isV6 =
      .ok (decide (numMerged = 0 ∧ (knownInvalid ∨ ¬ TransportVerifies isV6 protocol cur))) := by
  unfold itemChecksumInvalid
  by_cases first : numMerged = 0
  · cases knownInvalid with
    | true => simp [first]
    | false =>
      rw [if_pos first, if_neg Bool.false_ne_true, target, Run.ok_bind,
        checksumValid_eq protocol iph long (small first), Run.ok_bind, Run.pure_eq_ok]
      simp [first]
  · simp [first]

theorem TcpGroup.length_le (group : TcpGroup parts item cur) (single : item.numMerged = 0) :
    cur.length ≤ 65535 :=
  (group.eligible cur (by rw [group.untouched single]; exact List.mem_singleton_self _)).length_le

/-- Every outcome of coalescing, in the order in which the code finds them. -/
theorem coalesceTcpPackets_eq (mode : CanCoalesce) {bufs bufs' : List ExpandBuffer}
    {offset k : Nat} {buf growing : ExpandBuffer} {seq : UInt32} {item' : TcpGROItem}
    (group : TcpGroup parts item (buf.bytes.drop offset))
    (found : bufs[item.bufsIndex.toNat]? = some buf)
    (foundGrowing : bufs[if mode = .prepend then k else item.bufsIndex.toNat]? = some growing)
    (eligible : TcpEligible item.key.isV6 pkt)
    (noPsh : mode = .prepend → tcpFlags item.key.isV6 pkt = tcpFlagAck)
    (few : item.numMerged.toNat + 1 < 65536) (sameCount : item'.numMerged = item.numMerged)
    (joins : joinPacket mode pkt k seq (tcpFlags item.key.isV6 pkt != tcpFlagAck) item bufs offset
      (ipHLen item.key.isV6 + tcpHLen item.key.isV6 (buf.bytes.drop offset))
      (tcpJoinedLen item.key.isV6 (buf.bytes.drop offset) pkt) = .ok (item', bufs'))
    (gsoSize : UInt16) :
    coalesceTcpPackets mode pkt k gsoSize seq (tcpFlags item.key.isV6 pkt != tcpFlagAck) item bufs
        offset item.key.isV6 =
      .ok (if growing.capacity <
            2 * offset + tcpJoinedLen item.key.isV6 (buf.bytes.drop offset) pkt then
          (.insufficientCap, item, bufs)
        else if item.numMerged = 0 ∧
            ¬ TransportVerifies item.key.isV6 ipProtoTcp (buf.bytes.drop offset) then
          (.itemInvalidCSum, item, bufs)
        else if ¬ TransportVerifies item.key.isV6 ipProtoTcp pkt then
          (.pktInvalidCSum, item, bufs)
        else
          (.success, { (if gsoSize > item'.gsoSize then { item' with gsoSize } else item') with
            numMerged := item.numMerged + 1 }, bufs')) := by
  have long := group.headers_lt
  have length := eligible.length_le
  have payload := eligible.payload
  have ipBound := ipHLen_le item.key.isV6
  have tcpBound := tcpHLen_le item.key.isV6 (buf.bytes.drop offset)
  have dropped : (buf.bytes.drop offset).length = buf.bytes.length - offset := List.length_drop ..
  have target : packetFrom bufs item.bufsIndex.toNat offset = .ok (buf.bytes.drop offset) :=
    packetFrom_ok found (by omega)
  have headers : (item.iphLen + item.tcphLen).toNat =
      ipHLen item.key.isV6 + tcpHLen item.key.isV6 (buf.bytes.drop offset) := by
    rw [UInt8.toNat_add, group.iphLen, group.tcphLen]
    exact Nat.mod_eq_of_lt (by omega)
  unfold coalesceTcpPackets
  rw [addU8_ok (by rw [group.iphLen, group.tcphLen]; omega), Run.ok_bind, target, Run.ok_bind,
    headers, subLen_ok (by omega), Run.ok_bind, ← tcpJoinedLen, capacityFrom_ok foundGrowing,
    Run.ok_bind]
  -- The refusals stand in the order of the source. The one for a packet with PSH in front of the
  -- item is never taken: such a packet is no candidate for a prepend.
  by_cases room : growing.capacity <
      2 * offset + tcpJoinedLen item.key.isV6 (buf.bytes.drop offset) pkt
  · rw [if_pos room, if_pos room]
    rfl
  rw [if_neg room, if_neg room, if_neg (by
    rintro ⟨prepend, psh⟩
    simp [noPsh prepend] at psh),
    itemChecksumInvalid_eq false ipProtoTcp target group.iphLen (by omega) group.length_le,
    Run.ok_bind]
  simp only [Bool.false_eq_true, false_or, decide_eq_true_eq]
  by_cases invalid : item.numMerged = 0 ∧
      ¬ TransportVerifies item.key.isV6 ipProtoTcp (buf.bytes.drop offset)
  · rw [if_pos invalid, if_pos invalid]
    rfl
  rw [if_neg invalid, if_neg invalid,
    checksumValid_eq ipProtoTcp group.iphLen (by omega) length, Run.ok_bind]
  by_cases verifies : TransportVerifies item.key.isV6 ipProtoTcp pkt
  case neg =>
    rw [if_pos (by simpa using verifies), if_pos verifies]
    rfl
  rw [if_neg (by simpa using verifies), if_neg (not_not.mpr verifies), joins, Run.ok_bind]
  simp only []
  have count : addU16 (if gsoSize > item'.gsoSize then { item' with gsoSize } else item').numMerged
      1 = .ok (item.numMerged + 1) := by
    rw [apply_ite TcpGROItem.numMerged, sameCount, ite_self]
    exact addU16_ok few
  rw [count, Run.ok_bind]
  rfl

theorem coalesceTcpPackets_append {bufs : List ExpandBuffer} {offset : Nat} {buf : ExpandBuffer}
    (group : TcpGroup parts item (buf.bytes.drop offset))
    (found : bufs[item.bufsIndex.toNat]? = some buf) (eligible : TcpEligible item.key.isV6 pkt)
    (appends : TcpAppends item.key.isV6 pkt item (buf.bytes.drop offset))
    (few : item.numMerged.toNat + 1 < 65536) (k : Nat) (seq : UInt32) :
    coalesceTcpPackets .append pkt k (UInt16.ofNat (tcpPayload item.key.isV6 pkt).length) seq
        (tcpFlags item.key.isV6 pkt != tcpFlagAck) item bufs offset item.key.isV6 =
      .ok (if buf.capacity <
            2 * offset + tcpJoinedLen item.key.isV6 (buf.bytes.drop offset) pkt then
          (.insufficientCap, item, bufs)
        else if item.numMerged = 0 ∧
            ¬ TransportVerifies item.key.isV6 ipProtoTcp (buf.bytes.drop offset) then
          (.itemInvalidCSum, item, bufs)
        else if ¬ TransportVerifies item.key.isV6 ipProtoTcp pkt then
          (.pktInvalidCSum, item, bufs)
        else
          (.success, item.appended (tcpFlags item.key.isV6 pkt != tcpFlagAck),
            bufs.set item.bufsIndex.toNat (tcpGrown item.key.isV6 offset buf pkt))) := by
  have joins := joinPacket_append group eligible appends.headerLen found appends.noPsh k seq
    (tcpJoinedLen item.key.isV6 (buf.bytes.drop offset) pkt)
  have notLarger : ¬ UInt16.ofNat (tcpPayload item.key.isV6 pkt).length > item.gsoSize := by
    rw [gt_iff_lt, UInt16.lt_iff_toNat_lt, eligible.toNat_gsoSize]
    exact Nat.not_lt.mpr appends.small
  rw [coalesceTcpPackets_eq .append group found (by rw [if_neg (by decide)]; exact found) eligible
    nofun few (by rfl) joins, if_neg notLarger]
  simp only [TcpGROItem.appended, appends.noPsh, Bool.false_or]

theorem coalesceTcpPackets_prepend {bufs : List ExpandBuffer} {offset k : Nat}
    {buf own : ExpandBuffer} (group : TcpGroup parts item (buf.bytes.drop offset))
    (found : bufs[item.bufsIndex.toNat]? = some buf) (foundOwn : bufs[k]? = some own)
    (fits : offset ≤ own.bytes.length) (apart : item.bufsIndex.toNat ≠ k)
    (eligible : TcpEligible item.key.isV6 (own.bytes.drop offset))
    (prepends : TcpPrepends item.key.isV6 (own.bytes.drop offset) item (buf.bytes.drop offset))
    (few : item.numMerged.toNat + 1 < 65536) (seq : UInt32) :
    coalesceTcpPackets .prepend (own.bytes.drop offset) k
        (UInt16.ofNat (tcpPayload item.key.isV6 (own.bytes.drop offset)).length) seq
        (tcpFlags item.key.isV6 (own.bytes.drop offset) != tcpFlagAck) item bufs offset
        item.key.isV6 =
      .ok (if own.capacity < 2 * offset +
            tcpJoinedLen item.key.isV6 (buf.bytes.drop offset) (own.bytes.drop offset) then
          (.insufficientCap, item, bufs)
        else if item.numMerged = 0 ∧
            ¬ TransportVerifies item.key.isV6 ipProtoTcp (buf.bytes.drop offset) then
          (.itemInvalidCSum, item, bufs)
        else if ¬ TransportVerifies item.key.isV6 ipProtoTcp (own.bytes.drop offset) then
          (.pktInvalidCSum, item, bufs)
        else
          (.success, item.prepended seq
              (UInt16.ofNat (tcpPayload item.key.isV6 (own.bytes.drop offset)).length),
            (bufs.set item.bufsIndex.toNat
              (own.bufExtendFromSlice (tcpPayload item.key.isV6 (buf.bytes.drop offset)))).set k
              buf)) := by
  have joins : joinPacket .prepend (own.bytes.drop offset) k seq
      (tcpFlags item.key.isV6 (own.bytes.drop offset) != tcpFlagAck) item bufs offset
      (ipHLen item.key.isV6 + tcpHLen item.key.isV6 (buf.bytes.drop offset))
      (tcpJoinedLen item.key.isV6 (buf.bytes.drop offset) (own.bytes.drop offset)) =
        .ok ({ item with sentSeq := seq }, (bufs.set item.bufsIndex.toNat (own.bufExtendFromSlice
          (tcpPayload item.key.isV6 (buf.bytes.drop offset)))).set k buf) := by
    rw [joinPacket, if_pos rfl, tcpJoinedLen,
      prependPacket_eq group found foundOwn fits apart eligible, Run.ok_bind, Run.pure_eq_ok]
  rw [coalesceTcpPackets_eq .prepend group found (by rw [if_pos rfl]; exact foundOwn) eligible
    (fun _ => prepends.noPsh) few (by rfl) joins]
  -- The source raises `gso_size` to a larger payload only; the payload is never smaller.
  congr 5
  split
  · rfl
  · rename_i notLarger
    rw [gt_iff_lt, UInt16.lt_iff_toNat_lt, eligible.toNat_gsoSize] at notLarger
    have same : item.gsoSize =
        UInt16.ofNat (tcpPayload item.key.isV6 (own.bytes.drop offset)).length := by
      rw [← UInt16.toNat_inj, eligible.toNat_gsoSize]
      exact Nat.le_antisymm prepends.large (Nat.not_lt.mp notLarger)
    simp only [TcpGROItem.prepended, ← same]

end TcpItem

/-! ## UDP -/

section UdpItem

variable {parts : List (List UInt8)} {item : UdpGROItem} {cur pkt : List UInt8}

theorem udpPacketsCanCoalesce_spec {bufs : List ExpandBuffer} {offset : Nat}
    (group : UdpGroup parts item cur)
    (target : packetFrom bufs item.bufsIndex.toNat offset = .ok cur)
    (eligible : UdpEligible item.key.isV6 pkt) :
    ∃ can, udpPacketsCanCoalesce pkt (UInt8.ofNat (ipHLen item.key.isV6))
        (UInt16.ofNat (udpPayload item.key.isV6 pkt).length) item bufs offset = .ok can ∧
      (can = .append ↔ UdpAppends item.key.isV6 pkt item cur) := by
  have long := group.headers_lt
  have positive := group.gsoSize_pos
  have larger : UInt16.ofNat (udpPayload item.key.isV6 pkt).length > item.gsoSize ↔
      item.gsoSize.toNat < (udpPayload item.key.isV6 pkt).length := by
    rw [gt_iff_lt, UInt16.lt_iff_toNat_lt, UdpEligible.toNat_gsoSize eligible]
  unfold udpPacketsCanCoalesce
  rw [target, Run.ok_bind, toNat_ipHLen]
  cases ip : ipHeadersCanCoalesce pkt cur with
  | false => exact ⟨_, rfl, by simpa using fun h => by simp [h.ip] at ip⟩
  | true =>
    rw [if_neg (by decide), sliceFrom_ok (by omega), Run.ok_bind, remLen_ok (by omega),
      Run.ok_bind, ← udpPayload]
    by_cases full : (udpPayload item.key.isV6 cur).length % item.gsoSize.toNat = 0
    case neg =>
      rw [if_pos full]
      exact ⟨_, rfl, by simpa using fun h => full h.full⟩
    rw [if_neg (not_not.mpr full)]
    by_cases small : (udpPayload item.key.isV6 pkt).length ≤ item.gsoSize.toNat
    · rw [if_neg (mt larger.mp (Nat.not_lt.mpr small))]
      exact ⟨_, rfl, by simpa using ⟨ip, full, small⟩⟩
    · rw [if_pos (larger.mpr (Nat.lt_of_not_le small))]
      exact ⟨_, rfl, by simpa using fun h => small h.small⟩

def udpJoinedLen (isV6 : Bool) (cur pkt : List UInt8) : Nat :=
  cur.length + pkt.length - (ipHLen isV6 + udpHLen)

theorem UdpGroup.length_le (group : UdpGroup parts item cur) (single : item.numMerged = 0) :
    cur.length ≤ 65535 :=
  (group.eligible cur (by rw [group.untouched single]; exact List.mem_singleton_self _)).length_le

theorem coalesceUdpPackets_eq {bufs : List ExpandBuffer} {offset : Nat} {buf : ExpandBuffer}
    (group : UdpGroup parts item (buf.bytes.drop offset))
    (found : bufs[item.bufsIndex.toNat]? = some buf) (eligible : UdpEligible item.key.isV6 pkt)
    (few : item.numMerged.toNat + 1 < 65536) :
    coalesceUdpPackets pkt item bufs offset item.key.isV6 =
      .ok (if buf.capacity <
            offset * 2 + udpJoinedLen item.key.isV6 (buf.bytes.drop offset) pkt then
          (.insufficientCap, item, bufs)
        else if item.numMerged = 0 ∧ (item.cSumKnownInvalid = true ∨
            ¬ TransportVerifies item.key.isV6 ipProtoUdp (buf.bytes.drop offset)) then
          (.itemInvalidCSum, item, bufs)
        else if ¬ TransportVerifies item.key.isV6 ipProtoUdp pkt then
          (.pktInvalidCSum, item, bufs)
        else
          (.success, item.appended, bufs.set item.bufsIndex.toNat
            (buf.bufExtendFromSlice (udpPayload item.key.isV6 pkt)))) := by
  have long := group.headers_lt
  have length := eligible.length_le
  have payload := eligible.payload
  have dropped : (buf.bytes.drop offset).length = buf.bytes.length - offset := List.length_drop ..
  have target : packetFrom bufs item.bufsIndex.toNat offset = .ok (buf.bytes.drop offset) :=
    packetFrom_ok found (by omega)
  unfold coalesceUdpPackets
  rw [target, Run.ok_bind, group.iphLen]
  simp only []
  rw [subLen_ok (by omega), Run.ok_bind, ← udpJoinedLen, capacityFrom_ok found, Run.ok_bind]
  -- The refusals stand in the order of the source.
  by_cases room : buf.capacity <
      offset * 2 + udpJoinedLen item.key.isV6 (buf.bytes.drop offset) pkt
  · rw [if_pos room, if_pos room]
    rfl
  rw [if_neg room, if_neg room, itemChecksumInvalid_eq item.cSumKnownInvalid ipProtoUdp target
    group.iphLen (by omega) group.length_le, Run.ok_bind]
  simp only [decide_eq_true_eq]
  by_cases invalid : item.numMerged = 0 ∧ (item.cSumKnownInvalid = true ∨
      ¬ TransportVerifies item.key.isV6 ipProtoUdp (buf.bytes.drop offset))
  · rw [if_pos invalid, if_pos invalid]
    rfl
  rw [if_neg invalid, if_neg invalid,
    checksumValid_eq ipProtoUdp group.iphLen (by omega) length, Run.ok_bind]
  by_cases verifies : TransportVerifies item.key.isV6 ipProtoUdp pkt
  case neg =>
    rw [if_pos (by simpa using verifies), if_pos verifies]
    rfl
  rw [if_neg (by simpa using verifies), if_neg (not_not.mpr verifies), sliceFrom_ok (by omega),
    Run.ok_bind, updateBuffer_pure found, Run.ok_bind, addU16_ok few, Run.ok_bind]
  rfl

end UdpItem

end QuincyTun.Linux
