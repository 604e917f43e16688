import QuincyTun.Linux.Eligible

/-! Flow keys and items of eligible packets, and what the table operations do with them. -/

set_option autoImplicit false

namespace QuincyTun.Linux

open QuincyTun.Foundation

/-! ## Table operations -/

namespace FlowTable

variable {κ ι : Type} [DecidableEq κ]

/-- A table between two packets: pooled vectors are empty and each stored vector has `property`. -/
structure Tidy (property : κ → List ι → Prop) (table : FlowTable κ ι) : Prop where
  stored : FlowMap.Forall property table.itemsByFlow
  poolEmpty : ∀ items ∈ table.itemsPool, items = []

variable {property : κ → List ι → Prop} {table : FlowTable κ ι}

theorem Fresh.tidy (fresh : Fresh table) : Tidy property table where
  stored := by
    rw [fresh.noFlow]
    exact FlowMap.forall_empty property
  poolEmpty := fresh.poolEmpty

omit [DecidableEq κ] in
theorem Fresh.liveItems (fresh : Fresh table) : table.liveItems = [] := by
  rw [FlowTable.liveItems, fresh.noFlow, FlowMap.items_empty]

theorem Tidy.store (tidy : Tidy property table) {key : κ} {items : List ι}
    (holds : property key items) : Tidy property (table.store key items) :=
  ⟨tidy.stored.insert holds, tidy.poolEmpty⟩

def others (table : FlowTable κ ι) (key : κ) : List ι := table.itemsByFlow.others key

theorem liveItems_store (table : FlowTable κ ι) (key : κ) (items : List ι) :
    (table.store key items).liveItems = items ++ table.others key := rfl

theorem liveItems_perm {key : κ} {items : List ι}
    (found : table.itemsByFlow.lookup key = some items) :
    table.liveItems.Perm (items ++ table.others key) := FlowMap.items_perm found

theorem push_of_lookup {key : κ} {items : List ι} (item : ι)
    (found : table.itemsByFlow.lookup key = some items) :
    table.push key item = table.store key (items ++ [item]) := by
  simp only [push, found, store]

/-- A reused vector is empty, so a new flow starts with the pushed item alone. -/
theorem Tidy.push_new (tidy : Tidy property table) {key : κ} (item : ι)
    (absent : table.itemsByFlow.lookup key = none) :
    table.push key item =
      { (table.store key [item]) with itemsPool := table.itemsPool.dropLast } := by
  have empty : table.itemsPool.getLast?.getD [] = [] := by
    cases last : table.itemsPool.getLast? with
    | none => rfl
    | some items => exact tidy.poolEmpty items (List.mem_of_getLast? last)
  simp only [push, absent, empty, List.nil_append]
  rfl

theorem Tidy.push (tidy : Tidy property table) {key : κ} {item : ι}
    (extended : ∀ items, table.itemsByFlow.lookup key = some items → property key (items ++ [item]))
    (single : property key [item]) : Tidy property (table.push key item) := by
  cases found : table.itemsByFlow.lookup key with
  | some items =>
    rw [push_of_lookup item found]
    exact tidy.store (extended items found)
  | none =>
    rw [tidy.push_new item found]
    exact ⟨tidy.stored.insert single, fun items member =>
      tidy.poolEmpty items (List.dropLast_subset _ member)⟩

theorem Tidy.liveItems_push (tidy : Tidy property table) (key : κ) (item : ι) :
    (table.push key item).liveItems.Perm (item :: table.liveItems) := by
  cases found : table.itemsByFlow.lookup key with
  | some items =>
    rw [push_of_lookup item found, liveItems_store, List.append_assoc]
    exact List.perm_middle.trans ((liveItems_perm found).symm.cons item)
  | none =>
    have same : table.others key = table.liveItems := FlowMap.others_of_lookup_none found
    rw [tidy.push_new item found, ← same]
    exact List.Perm.refl _

end FlowTable

/-! ## Keys -/

def paddedAddress (address : List UInt8) : List UInt8 := overwrite (List.replicate 16 0) 0 address

theorem paddedAddress_inj {a b : List UInt8} (sameLength : a.length = b.length)
    (small : a.length ≤ 16) (same : paddedAddress a = paddedAddress b) : a = b := by
  have front : ∀ address : List UInt8, address.length ≤ 16 →
      (paddedAddress address).take address.length = address := by
    intro address bound
    rw [paddedAddress, overwrite_eq_append _ _ _ (by simpa using bound)]
    simp
  calc a = (paddedAddress a).take a.length := (front a small).symm
    _ = (paddedAddress b).take b.length := by rw [same, sameLength]
    _ = b := front b (sameLength ▸ small)

theorem keyAddress_ok {pkt : List UInt8} {start size : Nat} (small : size ≤ 16)
    (fits : start + size ≤ pkt.length) :
    keyAddress pkt start size = .ok (paddedAddress (window pkt start size)) := by
  have length := length_window pkt start size fits
  unfold keyAddress
  rw [slice_ok (by omega) fits, Run.ok_bind, Nat.add_sub_cancel_left,
    copyInto_ok (by omega) (by simpa using small) (by omega)]
  rfl

def tcpKeyOf (isV6 : Bool) (pkt : List UInt8) : TcpFlowKey where
  srcAddr := paddedAddress (srcAddress isV6 pkt)
  dstAddr := paddedAddress (dstAddress isV6 pkt)
  srcPort := srcPort isV6 pkt
  dstPort := dstPort isV6 pkt
  rxAck := tcpAck isV6 pkt
  isV6

def udpKeyOf (isV6 : Bool) (pkt : List UInt8) : UdpFlowKey where
  srcAddr := paddedAddress (srcAddress isV6 pkt)
  dstAddr := paddedAddress (dstAddress isV6 pkt)
  srcPort := srcPort isV6 pkt
  dstPort := dstPort isV6 pkt
  isV6


theorem TcpFlowKey.new_eq {isV6 : Bool} {pkt : List UInt8} (long : ipHLen isV6 + 20 ≤ pkt.length) :
    TcpFlowKey.new pkt (srcAddrOffset isV6) (srcAddrOffset isV6 + addrLen isV6) (ipHLen isV6) =
      .ok (tcpKeyOf isV6 pkt) := by
  have inside := addresses_le isV6
  have small := addrLen_le isV6
  have family : (addrLen isV6 == 16) = isV6 := by cases isV6 <;> rfl
  unfold TcpFlowKey.new
  rw [subLen_ok (by omega), Run.ok_bind, Nat.add_sub_cancel_left, keyAddress_ok small (by omega),
    Run.ok_bind, keyAddress_ok small (by omega), Run.ok_bind, readU16_ok (by omega), Run.ok_bind,
    readU16_ok (by omega), Run.ok_bind, readU32_ok (by omega), Run.ok_bind, family]
  rfl

theorem UdpFlowKey.new_eq {isV6 : Bool} {pkt : List UInt8}
    (long : ipHLen isV6 + udpHLen ≤ pkt.length) :
    UdpFlowKey.new pkt (srcAddrOffset isV6) (srcAddrOffset isV6 + addrLen isV6) (ipHLen isV6) =
      .ok (udpKeyOf isV6 pkt) := by
  have inside := addresses_le isV6
  have small := addrLen_le isV6
  have header : udpHLen = 8 := rfl
  have family : (addrLen isV6 == 16) = isV6 := by cases isV6 <;> rfl
  unfold UdpFlowKey.new
  rw [subLen_ok (by omega), Run.ok_bind, Nat.add_sub_cancel_left, keyAddress_ok small (by omega),
    Run.ok_bind, keyAddress_ok small (by omega), Run.ok_bind, readU16_ok (by omega), Run.ok_bind,
    readU16_ok (by omega), Run.ok_bind, family]
  rfl

/-- Packets under one key agree on what identifies their flow. -/
structure SameFlow (isV6 : Bool) (a b : List UInt8) : Prop where
  src : srcAddress isV6 a = srcAddress isV6 b
  dst : dstAddress isV6 a = dstAddress isV6 b
  srcPort : srcPort isV6 a = srcPort isV6 b
  dstPort : dstPort isV6 a = dstPort isV6 b

theorem sameFlow_of_addresses {isV6 : Bool} {a b : List UInt8} (longA : ipHLen isV6 ≤ a.length)
    (longB : ipHLen isV6 ≤ b.length)
    (src : paddedAddress (srcAddress isV6 a) = paddedAddress (srcAddress isV6 b))
    (dst : paddedAddress (dstAddress isV6 a) = paddedAddress (dstAddress isV6 b))
    (sport : srcPort isV6 a = srcPort isV6 b) (dport : dstPort isV6 a = dstPort isV6 b) :
    SameFlow isV6 a b where
  src := paddedAddress_inj (by rw [length_srcAddress longA, length_srcAddress longB])
    (by rw [length_srcAddress longA]; exact addrLen_le isV6) src
  dst := paddedAddress_inj (by rw [length_dstAddress longA, length_dstAddress longB])
    (by rw [length_dstAddress longA]; exact addrLen_le isV6) dst
  srcPort := sport
  dstPort := dport

theorem tcpKeyOf_eq {isV6 : Bool} {a b : List UInt8} (longA : ipHLen isV6 ≤ a.length)
    (longB : ipHLen isV6 ≤ b.length) (same : tcpKeyOf isV6 a = tcpKeyOf isV6 b) :
    SameFlow isV6 a b ∧ tcpAck isV6 a = tcpAck isV6 b := by
  simp only [tcpKeyOf, TcpFlowKey.mk.injEq] at same
  obtain ⟨src, dst, sport, dport, ack, -⟩ := same
  exact ⟨sameFlow_of_addresses longA longB src dst sport dport, ack⟩

theorem udpKeyOf_eq {isV6 : Bool} {a b : List UInt8} (longA : ipHLen isV6 ≤ a.length)
    (longB : ipHLen isV6 ≤ b.length) (same : udpKeyOf isV6 a = udpKeyOf isV6 b) :
    SameFlow isV6 a b := by
  simp only [udpKeyOf, UdpFlowKey.mk.injEq] at same
  obtain ⟨src, dst, sport, dport, -⟩ := same
  exact sameFlow_of_addresses longA longB src dst sport dport

/-! ## Items -/

def tcpItemOf (isV6 : Bool) (pkt : List UInt8) (bufsIndex : Nat) : TcpGROItem where
  key := tcpKeyOf isV6 pkt
  sentSeq := tcpSeq isV6 pkt
  bufsIndex := UInt16.ofNat bufsIndex
  numMerged := 0
  gsoSize := UInt16.ofNat (tcpPayload isV6 pkt).length
  iphLen := UInt8.ofNat (ipHLen isV6)
  tcphLen := UInt8.ofNat (tcpHLen isV6 pkt)
  pshSet := tcpFlags isV6 pkt &&& tcpFlagPsh != 0

def udpItemOf (isV6 : Bool) (pkt : List UInt8) (bufsIndex : Nat) (cSumKnownInvalid : Bool) :
    UdpGROItem where
  key := udpKeyOf isV6 pkt
  bufsIndex := UInt16.ofNat bufsIndex
  numMerged := 0
  gsoSize := UInt16.ofNat (udpPayload isV6 pkt).length
  iphLen := UInt8.ofNat (ipHLen isV6)
  cSumKnownInvalid

theorem TcpGROTable.insert_eq {isV6 : Bool} {pkt : List UInt8} (table : TcpGROTable) {k : Nat}
    (eligible : TcpEligible isV6 pkt) (small : k < 65536) :
    TcpGROTable.insert table pkt (srcAddrOffset isV6) (srcAddrOffset isV6 + addrLen isV6)
        (ipHLen isV6) (tcpHLen isV6 pkt) k =
      .ok (table.push (tcpKeyOf isV6 pkt) (tcpItemOf isV6 pkt k)) := by
  have payload := eligible.payload
  have headerLen := eligible.headerLen
  have headerBound := tcpHLen_le isV6 pkt
  have ipBound := ipHLen_le isV6
  have length := eligible.length_le
  have flagsAt : tcpFlagsOffset = 13 := rfl
  unfold TcpGROTable.insert
  rw [TcpFlowKey.new_eq (by omega), Run.ok_bind, expectU16_ok small, Run.ok_bind,
    sliceFrom_ok (by omega), Run.ok_bind,
    expectU16_ok (by simp only [List.length_drop]; omega), Run.ok_bind, expectU8_ok (by omega),
    Run.ok_bind, expectU8_ok (by omega), Run.ok_bind, readU32_ok (by omega), Run.ok_bind,
    getByte_ok (by omega), Run.ok_bind]
  rfl

theorem UdpGROTable.insert_eq {isV6 : Bool} {pkt : List UInt8} (table : UdpGROTable) {k : Nat}
    (eligible : UdpEligible isV6 pkt) (small : k < 65536) (cSumKnownInvalid : Bool) :
    UdpGROTable.insert table pkt (srcAddrOffset isV6) (srcAddrOffset isV6 + addrLen isV6)
        (ipHLen isV6) k cSumKnownInvalid =
      .ok (table.push (udpKeyOf isV6 pkt) (udpItemOf isV6 pkt k cSumKnownInvalid)) := by
  have payload := eligible.payload
  have ipBound := ipHLen_le isV6
  have length := eligible.length_le
  unfold UdpGROTable.insert
  rw [UdpFlowKey.new_eq (by omega), Run.ok_bind, expectU16_ok small, Run.ok_bind,
    subLen_ok (by omega), Run.ok_bind, expectU16_ok (by omega), Run.ok_bind,
    expectU8_ok (by omega), Run.ok_bind]
  simp only [Run.pure_eq_ok, udpItemOf, udpPayload, List.length_drop]

theorem TcpGROTable.lookupOrInsert_eq {isV6 : Bool} {pkt : List UInt8} (table : TcpGROTable)
    {k : Nat} (eligible : TcpEligible isV6 pkt) (small : k < 65536) :
    TcpGROTable.lookupOrInsert table pkt (srcAddrOffset isV6) (srcAddrOffset isV6 + addrLen isV6)
        (ipHLen isV6) (tcpHLen isV6 pkt) k =
      .ok (match table.itemsByFlow.lookup (tcpKeyOf isV6 pkt) with
        | some items => (some (tcpKeyOf isV6 pkt, items), table)
        | none => (none, table.push (tcpKeyOf isV6 pkt) (tcpItemOf isV6 pkt k))) := by
  have payload := eligible.payload
  have headerLen := eligible.headerLen
  unfold TcpGROTable.lookupOrInsert
  rw [TcpFlowKey.new_eq (by omega), Run.ok_bind]
  cases table.itemsByFlow.lookup (tcpKeyOf isV6 pkt) with
  | some items => rfl
  | none => simp only [TcpGROTable.insert_eq table eligible small, Run.ok_bind, Run.pure_eq_ok]

theorem UdpGROTable.lookupOrInsert_eq {isV6 : Bool} {pkt : List UInt8} (table : UdpGROTable)
    {k : Nat} (eligible : UdpEligible isV6 pkt) (small : k < 65536) :
    UdpGROTable.lookupOrInsert table pkt (srcAddrOffset isV6) (srcAddrOffset isV6 + addrLen isV6)
        (ipHLen isV6) k =
      .ok (match table.itemsByFlow.lookup (udpKeyOf isV6 pkt) with
        | some items => (some (udpKeyOf isV6 pkt, items), table)
        | none => (none, table.push (udpKeyOf isV6 pkt) (udpItemOf isV6 pkt k false))) := by
  have payload := eligible.payload
  unfold UdpGROTable.lookupOrInsert
  rw [UdpFlowKey.new_eq (by omega), Run.ok_bind]
  cases table.itemsByFlow.lookup (udpKeyOf isV6 pkt) with
  | some items => rfl
  | none => simp only [UdpGROTable.insert_eq table eligible small, Run.ok_bind, Run.pure_eq_ok]

end QuincyTun.Linux
