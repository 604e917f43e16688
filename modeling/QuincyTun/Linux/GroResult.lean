import QuincyTun.Linux.Accounting

/-! What `handle_gro` leaves behind when it returns without an error: the tables
and the index list of its loop, and in the buffer of every live item what the
visit of that item made of it.
-/

set_option autoImplicit false

namespace QuincyTun.Linux

open QuincyTun.Foundation

/-! ## The visit of an item -/

def TcpGROItem.offload (item : TcpGROItem) : VirtioNetHdr where
  flags := virtioNetHdrFNeedsCsum
  gsoType := if item.key.isV6 then virtioNetHdrGsoTcpv6 else virtioNetHdrGsoTcpv4
  hdrLen := (item.iphLen + item.tcphLen).toUInt16
  gsoSize := item.gsoSize
  csumStart := item.iphLen.toUInt16
  csumOffset := 16

def UdpGROItem.offload (item : UdpGROItem) : VirtioNetHdr where
  flags := virtioNetHdrFNeedsCsum
  gsoType := virtioNetHdrGsoUdpL4
  hdrLen := item.iphLen.toUInt16 + UInt16.ofNat udpHLen
  gsoSize := item.gsoSize
  csumStart := item.iphLen.toUInt16
  csumOffset := 6

/-- The header and the packet that an emitted buffer holds. -/
structure Emits (host : Host) (offset : Nat) (hdr : VirtioNetHdr) (pkt : List UInt8)
    (buf : ExpandBuffer) : Prop where
  header : buf.virtioHeader offset = hdr.layout host.bigEndian
  packet : buf.bytes.drop offset = pkt

section Visit

variable {host : Host} {offset : Nat} {input bufs bufs' : List ExpandBuffer} {parts : List Nat}
  {buf : ExpandBuffer}

theorem TcpGroup.headers_le {packets : List (List UInt8)} {item : TcpGROItem} {cur : List UInt8}
    (group : TcpGroup packets item cur) :
    item.iphLen.toNat + item.tcphLen.toNat ≤ 100 := by
  rw [group.iphLen, group.tcphLen]
  have low := ipHLen_le item.key.isV6
  have high := tcpHLen_le item.key.isV6 cur
  omega

theorem TcpGROItem.visit_merged {packets : List (List UInt8)} {item : TcpGROItem}
    {cur : List UInt8} (host : Host) (offset : Nat) (group : TcpGroup packets item cur)
    (merged : item.numMerged ≠ 0) :
    item.visit host offset =
      .ok (accountMerged host offset item.key.isV6 item.iphLen ipProtoTcp item.offload) := by
  have small := group.headers_le
  rw [TcpGROItem.visit, if_pos (UInt16.pos_iff_ne_zero.mpr merged), addU8_ok (by omega)]
  rfl

theorem UdpGROItem.visit_merged {packets : List (List UInt8)} {item : UdpGROItem}
    {cur : List UInt8} (host : Host) (offset : Nat) (group : UdpGroup packets item cur)
    (merged : item.numMerged ≠ 0) :
    item.visit host offset =
      .ok (accountMerged host offset item.key.isV6 item.iphLen ipProtoUdp item.offload) := by
  have low := ipHLen_le item.key.isV6
  have start : item.iphLen.toUInt16.toNat = ipHLen item.key.isV6 := by
    rw [UInt8.toNat_toUInt16, group.iphLen]
  have width : (UInt16.ofNat udpHLen).toNat = 8 := rfl
  rw [UdpGROItem.visit, if_pos (UInt16.pos_iff_ne_zero.mpr merged), addU16_ok (by omega)]
  rfl

theorem TcpGROItem.visit_single {item : TcpGROItem} (host : Host) (offset : Nat)
    (single : item.numMerged = 0) : item.visit host offset = .ok (accountSingle host offset) := by
  rw [TcpGROItem.visit, single]
  rfl

theorem UdpGROItem.visit_single {item : UdpGROItem} (host : Host) (offset : Nat)
    (single : item.numMerged = 0) : item.visit host offset = .ok (accountSingle host offset) := by
  rw [UdpGROItem.visit, single]
  rfl

end Visit

/-! ## The passes -/

theorem FlowTable.values_perm {κ ι : Type} (order : HashOrder ι) (table : FlowTable κ ι) :
    (table.values order).Perm table.liveItems := by
  rw [FlowTable.liveItems, FlowMap.items, List.flatMap_def]
  exact (order.perm _).flatten

/-- The state after accounting, in terms of the state that the loop left. -/
structure Completed (host : Host) (offset : Nat) (final s : GroState) : Prop where
  toWrite : s.toWrite = final.toWrite
  tcpTable : s.tcpTable = final.tcpTable
  udpTable : s.udpTable = final.udpTable
  size : s.bufs.length = final.bufs.length
  others : ∀ k, (∀ item ∈ final.tcpTable.liveItems, item.bufsIndex.toNat ≠ k) →
    (∀ item ∈ final.udpTable.liveItems, item.bufsIndex.toNat ≠ k) → s.bufs[k]? = final.bufs[k]?
  tcp : ∀ item ∈ final.tcpTable.liveItems,
    Visited TcpGROItem.bufsIndex (TcpGROItem.visit host offset) final.bufs s.bufs item
  udp : ∀ item ∈ final.udpTable.liveItems,
    Visited UdpGROItem.bufsIndex (UdpGROItem.visit host offset) final.bufs s.bufs item

section Accounting

variable {host : Host} {offset : Nat} {final s : GroState}

def liveIndices (s : GroState) : List Nat :=
  s.tcpTable.liveItems.map (fun item => item.bufsIndex.toNat) ++
    s.udpTable.liveItems.map (fun item => item.bufsIndex.toNat)

/-- In whatever order a table yields its items, their buffers are different. -/
theorem nodup_values (host : Host) (distinct : (liveIndices s).Nodup) :
    ((s.tcpTable.values host.tcpOrder).map fun item => item.bufsIndex.toNat).Nodup ∧
      ((s.udpTable.values host.udpOrder).map fun item => item.bufsIndex.toNat).Nodup := by
  obtain ⟨tcp, udp, -⟩ := List.nodup_append.mp distinct
  exact ⟨((FlowTable.values_perm host.tcpOrder s.tcpTable).map _).nodup_iff.mpr tcp,
    ((FlowTable.values_perm host.udpOrder s.udpTable).map _).nodup_iff.mpr udp⟩

theorem groAccounting_ok (distinct : (liveIndices final).Nodup)
    (ran : groAccounting host offset final = .ok (s, .ok ())) : Completed host offset final s := by
  obtain ⟨distinctTcp, distinctUdp⟩ := nodup_values host distinct
  obtain ⟨-, -, apart⟩ := List.nodup_append.mp distinct
  have tcpPerm := FlowTable.values_perm host.tcpOrder final.tcpTable
  have udpPerm := FlowTable.values_perm host.udpOrder final.udpTable
  obtain ⟨⟨between, errTcp⟩, ranTcp, rest⟩ := Run.bind_eq_ok.mp ran
  obtain ⟨⟨bufs, errUdp⟩, ranUdp, result⟩ := Run.bind_eq_ok.mp rest
  obtain ⟨rfl, outcome⟩ := Prod.mk.inj (Except.ok.inj result)
  cases errTcp with
  | error error => cases outcome
  | ok _ =>
    have okUdp : errUdp = .ok () := outcome
    subst okUdp
    obtain ⟨sizeTcp, othersTcp, tcp⟩ := accountItems_ok distinctTcp ranTcp
    obtain ⟨sizeUdp, othersUdp, udp⟩ := accountItems_ok distinctUdp ranUdp
    -- The two passes visit different buffers, so neither undoes what the other has done.
    refine ⟨rfl, rfl, rfl, sizeUdp.trans sizeTcp, fun k awayTcp awayUdp => ?_,
      fun item member => ?_, fun item member => ?_⟩
    · rw [othersUdp k fun item found => awayUdp item (udpPerm.mem_iff.mp found),
        othersTcp k fun item found => awayTcp item (tcpPerm.mem_iff.mp found)]
    · obtain ⟨visit, buf, buf', prepared, was, is, visited⟩ := tcp item (tcpPerm.mem_iff.mpr member)
      refine ⟨visit, buf, buf', prepared, was, ?_, visited⟩
      rw [← is]
      exact othersUdp _ fun other found same =>
        apart _ (List.mem_map_of_mem member) _
          (List.mem_map_of_mem (udpPerm.mem_iff.mp found)) same.symm
    · obtain ⟨visit, buf, buf', prepared, was, is, visited⟩ := udp item (udpPerm.mem_iff.mpr member)
      refine ⟨visit, buf, buf', prepared, ?_, is, visited⟩
      rw [← was]
      exact (othersTcp _ fun other found same =>
        apart _ (List.mem_map_of_mem (tcpPerm.mem_iff.mp found)) _
          (List.mem_map_of_mem member) same).symm

theorem groAccounting_total (distinct : (liveIndices final).Nodup)
    (tcp : ∀ item ∈ final.tcpTable.liveItems,
      Visitable TcpGROItem.bufsIndex (TcpGROItem.visit host offset) final.bufs item)
    (udp : ∀ item ∈ final.udpTable.liveItems,
      Visitable UdpGROItem.bufsIndex (UdpGROItem.visit host offset) final.bufs item) :
    ∃ s, groAccounting host offset final = .ok (s, .ok ()) := by
  obtain ⟨distinctTcp, distinctUdp⟩ := nodup_values host distinct
  obtain ⟨-, -, apart⟩ := List.nodup_append.mp distinct
  have tcpPerm := FlowTable.values_perm host.tcpOrder final.tcpTable
  have udpPerm := FlowTable.values_perm host.udpOrder final.udpTable
  obtain ⟨between, ranTcp⟩ := accountItems_total final.bufs distinctTcp
    fun item found => tcp item (tcpPerm.mem_iff.mp found)
  obtain ⟨-, others, -⟩ := accountItems_ok distinctTcp ranTcp
  obtain ⟨bufs, ranUdp⟩ := accountItems_total between distinctUdp fun item found => by
      obtain ⟨visit, buf, buf', prepared, was, visited⟩ := udp item (udpPerm.mem_iff.mp found)
      refine ⟨visit, buf, buf', prepared, ?_, visited⟩
      rw [← was]
      exact others _ fun other member same =>
        apart _ (List.mem_map_of_mem (tcpPerm.mem_iff.mp member)) _
          (List.mem_map_of_mem (udpPerm.mem_iff.mp found)) same
  refine ⟨{ final with bufs }, ?_⟩
  rw [groAccounting, applyTcpCoalesceAccounting, ranTcp, Run.ok_bind]
  simp only []
  rw [applyUdpCoalesceAccounting, ranUdp]
  rfl

end Accounting

/-! ## Whole calls -/

section Call

variable {host : Host} {offset : Nat} {canUdpGro : Bool} {s s' : GroState}

theorem map_index_groSlots (input : List ExpandBuffer) (offset : Nat) (s : GroState) :
    (groSlots input offset s).map Slot.index = liveIndices s := by
  simp only [groSlots, liveIndices, List.map_append, List.map_map]
  rfl

theorem GroInv.distinct {input : List ExpandBuffer} {n : Nat} {groups : Grouping}
    (inv : GroInv input offset canUdpGro n s groups) : (liveIndices s).Nodup := by
  rw [← map_index_groSlots input offset]
  exact inv.batch.distinct

/-- The state that the loop of a call leaves, and what accounting makes of it. -/
structure Returns (host : Host) (offset : Nat) (canUdpGro : Bool) (s final s' : GroState) :
    Prop where
  valid : ValidBatch s.bufs offset s.bufs.length
  inv : GroInv s.bufs offset canUdpGro s.bufs.length final
    (groGroups host offset canUdpGro s s.bufs.length)
  completed : Completed host offset final s'

theorem handleGro_returns (fresh : FreshState s)
    (ran : handleGro host offset canUdpGro s = .ok (s', .ok ())) :
    ∃ final, groLoop host offset canUdpGro s.bufs.length s = .ok (final, .ok ()) ∧
      Returns host offset canUdpGro s final s' := by
  unfold handleGro at ran
  split at ran
  · cases ran
  · rename_i few
    obtain ⟨⟨final, outcome⟩, ranLoop, rest⟩ := Run.bind_eq_ok.mp ran
    cases outcome with
    | error error => cases rest
    | ok _ =>
      obtain ⟨-, valid⟩ := groLoop_valid fresh (by omega) _ ranLoop
      obtain ⟨reached, ranAgain, inv⟩ :=
        groLoop_spec host canUdpGro fresh _ le_rfl valid
      have same : final = reached := congrArg Prod.fst (Except.ok.inj (ranLoop.symm.trans ranAgain))
      subst same
      exact ⟨final, ranLoop, valid, inv, groAccounting_ok inv.distinct rest⟩

theorem handleGro_total (host : Host) (canUdpGro : Bool) (fresh : FreshState s)
    (valid : ValidBatch s.bufs offset s.bufs.length)
    (visitable : ∀ final, GroInv s.bufs offset canUdpGro s.bufs.length final
        (groGroups host offset canUdpGro s s.bufs.length) →
      (∀ item ∈ final.tcpTable.liveItems,
        Visitable TcpGROItem.bufsIndex (TcpGROItem.visit host offset) final.bufs item) ∧
      ∀ item ∈ final.udpTable.liveItems,
        Visitable UdpGROItem.bufsIndex (UdpGROItem.visit host offset) final.bufs item) :
    ∃ s', handleGro host offset canUdpGro s = .ok (s', .ok ()) := by
  obtain ⟨final, ranLoop, inv⟩ := groLoop_spec host canUdpGro fresh _ le_rfl valid
  obtain ⟨tcp, udp⟩ := visitable final inv
  obtain ⟨s', ran⟩ := groAccounting_total inv.distinct tcp udp
  refine ⟨s', ?_⟩
  have few := valid.few
  rw [handleGro, if_neg (by omega), ranLoop, Run.ok_bind]
  exact ran

end Call

theorem ValidBatch.offset_room {input : List ExpandBuffer} {offset k : Nat}
    (valid : ValidBatch input offset input.length) (inside : k < input.length) :
    virtioNetHdrLen ≤ offset :=
  (valid.room k _ inside (List.getElem?_eq_getElem inside)).1

/-! ## What is in the buffers -/

section Buffers

variable {host : Host} {offset n : Nat} {canUdpGro : Bool} {input : List ExpandBuffer}
  {s final s' : GroState} {groups : Grouping}

theorem GroInv.tcpHolds (inv : GroInv input offset canUdpGro n s groups) {item : TcpGROItem}
    (live : item ∈ s.tcpTable.liveItems) :
    item.bufsIndex.toNat ∈ groups.heads ∧ ∃ buf, s.bufs[item.bufsIndex.toNat]? = some buf ∧
      TcpHolds input offset item (groups.parts item.bufsIndex.toNat) buf := by
  have member : tcpSlot input offset item ∈ groSlots input offset s :=
    List.mem_append_left _ (List.mem_map_of_mem live)
  exact ⟨inv.batch.known _ member, inv.batch.holds _ member⟩

theorem GroInv.udpHolds (inv : GroInv input offset canUdpGro n s groups) {item : UdpGROItem}
    (live : item ∈ s.udpTable.liveItems) :
    item.bufsIndex.toNat ∈ groups.heads ∧ ∃ buf, s.bufs[item.bufsIndex.toNat]? = some buf ∧
      UdpHolds input offset item (groups.parts item.bufsIndex.toNat) buf := by
  have member : udpSlot input offset item ∈ groSlots input offset s :=
    List.mem_append_right _ (List.mem_map_of_mem live)
  exact ⟨inv.batch.known _ member, inv.batch.holds _ member⟩

/-- The index is that of a live item which took at least one other packet. -/
def MergedAt (s : GroState) (k : Nat) : Prop :=
  (∃ item ∈ s.tcpTable.liveItems, item.bufsIndex.toNat = k ∧ item.numMerged > 0) ∨
    ∃ item ∈ s.udpTable.liveItems, item.bufsIndex.toNat = k ∧ item.numMerged > 0

theorem numMerged_eq_zero_tcp {item : TcpGROItem} (live : item ∈ s.tcpTable.liveItems)
    (apart : ¬ MergedAt s item.bufsIndex.toNat) : item.numMerged = 0 := by
  by_contra merged
  exact apart (.inl ⟨item, live, rfl, UInt16.pos_iff_ne_zero.mpr merged⟩)

theorem numMerged_eq_zero_udp {item : UdpGROItem} (live : item ∈ s.udpTable.liveItems)
    (apart : ¬ MergedAt s item.bufsIndex.toNat) : item.numMerged = 0 := by
  by_contra merged
  exact apart (.inr ⟨item, live, rfl, UInt16.pos_iff_ne_zero.mpr merged⟩)

/-- An emitted packet that is not a merged one stands alone, in its own buffer or cleared. -/
theorem GroInv.alone (inv : GroInv input offset canUdpGro n s groups) {k : Nat}
    (emitted : k ∈ s.toWrite) (apart : ¬ MergedAt s k) :
    groups.parts k = [k] ∧
      (k ∈ liveIndices s ∧ s.bufs[k]? = input[k]? ∨
        k ∉ liveIndices s ∧ s.bufs[k]? = input[k]?.map (cleared offset)) := by
  rw [inv.toWrite] at emitted
  by_cases live : k ∈ liveIndices s
  · rcases List.mem_append.mp live with tcp | udp
    · obtain ⟨item, member, rfl⟩ := List.mem_map.mp tcp
      have single := numMerged_eq_zero_tcp member apart
      obtain ⟨-, buf, here, holds⟩ := inv.tcpHolds member
      have size := holds.length_parts
      rw [single] at size
      exact ⟨inv.batch.partition.eq_single emitted size,
        .inl ⟨live, by rw [here, holds.original single]⟩⟩
    · obtain ⟨item, member, rfl⟩ := List.mem_map.mp udp
      have single := numMerged_eq_zero_udp member apart
      obtain ⟨-, buf, here, holds⟩ := inv.udpHolds member
      have size := holds.length_parts
      rw [single] at size
      exact ⟨inv.batch.partition.eq_single emitted size,
        .inl ⟨live, by rw [here, holds.original single]⟩⟩
  · obtain ⟨alone, here⟩ := inv.batch.idle k emitted
      (by rw [map_index_groSlots]; exact live)
    exact ⟨alone, .inr ⟨live, here⟩⟩

theorem Visited.cleared {ι : Type} {bufsIndex : ι → UInt16} {prepare : ι → Run Visit}
    {bufs bufs' : List ExpandBuffer} {item : ι} {own : ExpandBuffer}
    (visited : Visited bufsIndex prepare bufs bufs' item)
    (single : prepare item = .ok (accountSingle host offset))
    (here : bufs[(bufsIndex item).toNat]? = some own) (room : virtioNetHdrLen ≤ offset)
    (fits : offset ≤ own.bytes.length) :
    bufs'[(bufsIndex item).toNat]? = some (cleared offset own) := by
  obtain ⟨visit, buf, buf', prepared, was, is, ran⟩ := visited
  obtain rfl := Except.ok.inj (single.symm.trans prepared)
  obtain rfl := Option.some.inj (was.symm.trans here)
  rw [accountSingle_ok host room fits] at ran
  rw [is, ← (Prod.mk.inj (Except.ok.inj ran)).1]

theorem Completed.mergedAt (completed : Completed host offset final s') (k : Nat) :
    MergedAt s' k ↔ MergedAt final k := by
  rw [MergedAt, MergedAt, completed.tcpTable, completed.udpTable]

theorem Returns.alone (ret : Returns host offset canUdpGro s final s') {k : Nat}
    (emitted : k ∈ s'.toWrite) (apart : ¬ MergedAt s' k) :
    ∃ own, s.bufs[k]? = some own ∧ s'.bufs[k]? = some (cleared offset own) := by
  rw [ret.completed.toWrite] at emitted
  rw [ret.completed.mergedAt] at apart
  have small : k < s.bufs.length := ret.inv.batch.partition.bound k (ret.inv.toWrite ▸ emitted)
  have found : s.bufs[k]? = some s.bufs[k] := List.getElem?_eq_getElem small
  obtain ⟨room, long⟩ := ret.valid.room k _ small found
  refine ⟨_, found, ?_⟩
  obtain ⟨-, ⟨live, here⟩ | ⟨idle, here⟩⟩ := ret.inv.alone emitted apart
  · rcases List.mem_append.mp live with tcp | udp
    · obtain ⟨item, member, rfl⟩ := List.mem_map.mp tcp
      exact (ret.completed.tcp item member).cleared
        (item.visit_single host offset (numMerged_eq_zero_tcp member apart))
        (here.trans found) room long.le
    · obtain ⟨item, member, rfl⟩ := List.mem_map.mp udp
      exact (ret.completed.udp item member).cleared
        (item.visit_single host offset (numMerged_eq_zero_udp member apart))
        (here.trans found) room long.le
  · obtain ⟨notTcp, notUdp⟩ := not_or.mp (mt List.mem_append.mpr idle)
    rw [ret.completed.others k (fun item member same => notTcp (List.mem_map.mpr ⟨item, member, same⟩))
      (fun item member same => notUdp (List.mem_map.mpr ⟨item, member, same⟩)), here, found]
    rfl

/-- What the visit of a joined packet started from and what it made of the buffer. -/
structure Accounts (host : Host) (offset : Nat) (isV6 : Bool) (protocol iphLen : UInt8)
    (hdr : VirtioNetHdr) (buf buf' : ExpandBuffer) : Prop where
  room : virtioNetHdrLen ≤ offset
  iph : iphLen.toNat = ipHLen isV6
  start : hdr.csumStart = iphLen.toUInt16
  stop : hdr.csumOffset.toNat = transportCsumOffset protocol
  long : ipHLen isV6 + transportCsumOffset protocol + 2 ≤ (buf.bytes.drop offset).length
  visited : accountMerged host offset isV6 iphLen protocol hdr buf = .ok (buf', .ok ())

namespace Accounts

variable {isV6 : Bool} {protocol iphLen : UInt8} {hdr : VirtioNetHdr} {buf buf' : ExpandBuffer}

theorem fits (accounts : Accounts host offset isV6 protocol iphLen hdr buf buf') :
    offset ≤ buf.bytes.length := by
  have long := accounts.long
  rw [List.length_drop] at long
  omega

theorem framed (accounts : Accounts host offset isV6 protocol iphLen hdr buf buf') {k : Nat}
    (headers : offset + (ipHLen isV6 + transportCsumOffset protocol + 2) ≤ k) :
    Framed k buf buf' := by
  have minimal : 20 ≤ ipHLen isV6 := by
    unfold ipHLen
    split <;> omega
  have behind : 6 ≤ transportCsumOffset protocol := by
    unfold transportCsumOffset
    split <;> omega
  have iph := accounts.iph
  have stop := accounts.stop
  exact accountMerged_framed accounts.room accounts.fits accounts.start (by omega) (by omega)
    (by omega) accounts.visited

theorem agree (accounts : Accounts host offset isV6 protocol iphLen hdr buf buf') :
    AgreeOn (accountingKeeps isV6 protocol) (buf'.bytes.drop offset) (buf.bytes.drop offset) :=
  accountMerged_agree accounts.room accounts.fits accounts.iph accounts.start accounts.stop
    accounts.visited

theorem decode (accounts : Accounts host offset isV6 protocol iphLen hdr buf buf') :
    VirtioNetHdr.decode host.bigEndian (buf'.virtioHeader offset) = .ok hdr := by
  rw [accountMerged_header accounts.room accounts.fits accounts.start accounts.visited]
  exact VirtioNetHdr.decode_layout host.bigEndian hdr

theorem emits (accounts : Accounts host offset isV6 protocol iphLen hdr buf buf')
    (short : (buf'.bytes.drop offset).length ≤ 65535) :
    Emits host offset hdr (accountedPacket isV6 protocol (buf.bytes.drop offset)) buf' := by
  have size := (accounts.framed le_rfl).size
  rw [List.length_drop, size, ← List.length_drop] at short
  obtain ⟨result, ran, header, packet⟩ := accountMerged_ok host buf hdr protocol accounts.room
    accounts.iph accounts.start accounts.stop accounts.long short
  obtain rfl := (Prod.mk.inj (Except.ok.inj (ran.symm.trans accounts.visited))).1
  exact ⟨header, packet⟩

end Accounts

theorem TcpGroup.accounts {packets : List (List UInt8)} {item : TcpGROItem} {buf buf' : ExpandBuffer}
    (group : TcpGroup packets item (buf.bytes.drop offset)) (room : virtioNetHdrLen ≤ offset)
    (visited : accountMerged host offset item.key.isV6 item.iphLen ipProtoTcp item.offload buf =
      .ok (buf', .ok ())) :
    Accounts host offset item.key.isV6 ipProtoTcp item.iphLen item.offload buf buf' := by
  have long := group.headers_lt
  have minimal := group.headerLen
  refine ⟨room, group.iphLen, rfl, rfl, ?_, visited⟩
  rw [transportCsumOffset, if_pos rfl]
  omega

theorem Returns.tcp_accounts (ret : Returns host offset canUdpGro s final s') {item : TcpGROItem}
    (live : item ∈ final.tcpTable.liveItems) (merged : item.numMerged ≠ 0) :
    ∃ buf buf', final.bufs[item.bufsIndex.toNat]? = some buf ∧
      s'.bufs[item.bufsIndex.toNat]? = some buf' ∧
      Accounts host offset item.key.isV6 ipProtoTcp item.iphLen item.offload buf buf' := by
  obtain ⟨known, buf, here, holds⟩ := ret.inv.tcpHolds live
  obtain ⟨visit, was, buf', prepared, found, is, visited⟩ := ret.completed.tcp item live
  obtain rfl : was = buf := Option.some.inj (found.symm.trans here)
  rw [item.visit_merged host offset holds.group merged] at prepared
  rw [← Except.ok.inj prepared] at visited
  have room := ret.valid.offset_room (ret.inv.batch.partition.bound _ known)
  exact ⟨was, buf', found, is, holds.group.accounts room visited⟩

theorem Returns.udp_accounts (ret : Returns host offset canUdpGro s final s') {item : UdpGROItem}
    (live : item ∈ final.udpTable.liveItems) (merged : item.numMerged ≠ 0) :
    ∃ buf buf', final.bufs[item.bufsIndex.toNat]? = some buf ∧
      s'.bufs[item.bufsIndex.toNat]? = some buf' ∧
      Accounts host offset item.key.isV6 ipProtoUdp item.iphLen item.offload buf buf' := by
  obtain ⟨known, buf, here, holds⟩ := ret.inv.udpHolds live
  obtain ⟨visit, was, buf', prepared, found, is, visited⟩ := ret.completed.udp item live
  obtain rfl : was = buf := Option.some.inj (found.symm.trans here)
  rw [item.visit_merged host offset holds.group merged] at prepared
  rw [← Except.ok.inj prepared] at visited
  have room := ret.valid.offset_room (ret.inv.batch.partition.bound _ known)
  have long := holds.group.headers_lt
  have width : udpHLen = 8 := rfl
  have csumAt : transportCsumOffset ipProtoUdp = 6 := rfl
  exact ⟨was, buf', found, is, room, holds.group.iphLen, rfl, rfl, by omega, visited⟩

theorem Returns.tcp_framed (ret : Returns host offset canUdpGro s final s') {item : TcpGROItem}
    (live : item ∈ final.tcpTable.liveItems) (merged : item.numMerged ≠ 0) :
    ∃ buf buf', final.bufs[item.bufsIndex.toNat]? = some buf ∧
      s'.bufs[item.bufsIndex.toNat]? = some buf' ∧
      Framed (offset + (ipHLen item.key.isV6 + tcpHLen item.key.isV6 (buf.bytes.drop offset)))
        buf buf' := by
  obtain ⟨-, buf, here, holds⟩ := ret.inv.tcpHolds live
  obtain ⟨was, buf', found, is, accounts⟩ := ret.tcp_accounts live merged
  obtain rfl : was = buf := Option.some.inj (found.symm.trans here)
  have minimal := holds.group.headerLen
  refine ⟨was, buf', found, is, accounts.framed ?_⟩
  rw [transportCsumOffset, if_pos rfl]
  omega

theorem Returns.udp_framed (ret : Returns host offset canUdpGro s final s') {item : UdpGROItem}
    (live : item ∈ final.udpTable.liveItems) (merged : item.numMerged ≠ 0) :
    ∃ buf buf', final.bufs[item.bufsIndex.toNat]? = some buf ∧
      s'.bufs[item.bufsIndex.toNat]? = some buf' ∧
      Framed (offset + (ipHLen item.key.isV6 + udpHLen)) buf buf' := by
  obtain ⟨buf, buf', found, is, accounts⟩ := ret.udp_accounts live merged
  exact ⟨buf, buf', found, is, accounts.framed le_rfl⟩

theorem Returns.tcp_emits (ret : Returns host offset canUdpGro s final s') {item : TcpGROItem}
    (live : item ∈ final.tcpTable.liveItems) (merged : item.numMerged ≠ 0)
    (short : (packetAt offset s'.bufs item.bufsIndex.toNat).length ≤ 65535) :
    ∃ buf buf', final.bufs[item.bufsIndex.toNat]? = some buf ∧
      s'.bufs[item.bufsIndex.toNat]? = some buf' ∧
      Emits host offset item.offload
        (accountedPacket item.key.isV6 ipProtoTcp (buf.bytes.drop offset)) buf' := by
  obtain ⟨buf, buf', found, is, accounts⟩ := ret.tcp_accounts live merged
  rw [packetAt_of_getElem? is] at short
  exact ⟨buf, buf', found, is, accounts.emits short⟩

theorem Returns.udp_emits (ret : Returns host offset canUdpGro s final s') {item : UdpGROItem}
    (live : item ∈ final.udpTable.liveItems) (merged : item.numMerged ≠ 0)
    (short : (packetAt offset s'.bufs item.bufsIndex.toNat).length ≤ 65535) :
    ∃ buf buf', final.bufs[item.bufsIndex.toNat]? = some buf ∧
      s'.bufs[item.bufsIndex.toNat]? = some buf' ∧
      Emits host offset item.offload
        (accountedPacket item.key.isV6 ipProtoUdp (buf.bytes.drop offset)) buf' := by
  obtain ⟨buf, buf', found, is, accounts⟩ := ret.udp_accounts live merged
  rw [packetAt_of_getElem? is] at short
  exact ⟨buf, buf', found, is, accounts.emits short⟩

theorem Returns.tcp_agree (ret : Returns host offset canUdpGro s final s') {item : TcpGROItem}
    (live : item ∈ final.tcpTable.liveItems) (merged : item.numMerged ≠ 0) :
    AgreeOn (accountingKeeps item.key.isV6 ipProtoTcp)
      (packetAt offset s'.bufs item.bufsIndex.toNat)
      (packetAt offset final.bufs item.bufsIndex.toNat) := by
  obtain ⟨buf, buf', found, is, accounts⟩ := ret.tcp_accounts live merged
  rw [packetAt_of_getElem? is, packetAt_of_getElem? found]
  exact accounts.agree

end Buffers

end QuincyTun.Linux
