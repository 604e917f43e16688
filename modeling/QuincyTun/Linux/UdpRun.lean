import QuincyTun.Linux.TcpRun

/-! One UDP packet in any state of a batch. Datagrams are joined to the last item
of their flow only, so groups and flows stay in the order of arrival.
-/

set_option autoImplicit false

namespace QuincyTun.Linux

open QuincyTun.Foundation

structure UdpHolds (input : List ExpandBuffer) (offset : Nat) (item : UdpGROItem)
    (parts : List Nat) (buf : ExpandBuffer) : Prop where
  group : UdpGroup (parts.map (packetAt offset input)) item (buf.bytes.drop offset)
  original : item.numMerged = 0 → input[item.bufsIndex.toNat]? = some buf
  storage : input[item.bufsIndex.toNat]?.map ExpandBuffer.capacity = some buf.capacity
  opened : parts.head? = some item.bufsIndex.toNat
  inOrder : parts.Pairwise (· < ·)

def udpSlot (input : List ExpandBuffer) (offset : Nat) (item : UdpGROItem) : Slot where
  index := item.bufsIndex.toNat
  Holds := UdpHolds input offset item

namespace UdpHolds

variable {input : List ExpandBuffer} {offset : Nat} {item : UdpGROItem} {parts : List Nat}
  {buf own : ExpandBuffer} {n : Nat}

theorem offset_le (holds : UdpHolds input offset item parts buf) : offset ≤ buf.bytes.length := by
  have long := holds.group.headers_lt
  rw [List.length_drop] at long
  omega

theorem length_parts (holds : UdpHolds input offset item parts buf) :
    parts.length = item.numMerged.toNat + 1 := by
  have merged := holds.group.merged
  rwa [List.length_map] at merged

theorem single {isV6 : Bool} (small : n < 65536) (found : input[n]? = some own)
    (eligible : UdpEligible isV6 (own.bytes.drop offset)) (cSumKnownInvalid : Bool) :
    UdpHolds input offset (udpItemOf isV6 (own.bytes.drop offset) n cSumKnownInvalid) [n] own := by
  have here : (udpItemOf isV6 (own.bytes.drop offset) n cSumKnownInvalid).bufsIndex.toNat = n :=
    UInt16.toNat_ofNat_of_lt' small
  constructor
  case group =>
    rw [List.map_singleton, packetAt_of_getElem? found]
    exact .single n cSumKnownInvalid eligible
  case original => exact fun _ => by rw [here, found]
  case storage => rw [here, found]; rfl
  case opened => rw [here]; rfl
  case inOrder => exact List.pairwise_singleton ..

theorem append (holds : UdpHolds input offset item parts buf) (found : input[n]? = some own)
    (later : ∀ k ∈ parts, k < n)
    (eligible : UdpEligible item.key.isV6 (own.bytes.drop offset))
    (key : udpKeyOf item.key.isV6 (own.bytes.drop offset) = item.key)
    (appends : UdpAppends item.key.isV6 (own.bytes.drop offset) item (buf.bytes.drop offset))
    (verifies : TransportVerifies item.key.isV6 ipProtoUdp (own.bytes.drop offset))
    (opened : item.numMerged = 0 →
      TransportVerifies item.key.isV6 ipProtoUdp (buf.bytes.drop offset))
    (few : item.numMerged.toNat + 1 < 65536)
    (room : offset * 2 + udpJoinedLen item.key.isV6 (buf.bytes.drop offset)
      (own.bytes.drop offset) ≤ buf.capacity) :
    UdpHolds input offset item.appended (parts ++ [n])
      (buf.bufExtendFromSlice (udpPayload item.key.isV6 (own.bytes.drop offset))) := by
  have long := holds.group.headers_lt
  constructor
  case group =>
    rw [List.map_append, List.map_singleton, packetAt_of_getElem? found,
      ExpandBuffer.bytes_bufExtendFromSlice, List.drop_append_of_le_length holds.offset_le]
    exact holds.group.append eligible key appends verifies opened few
  case original => exact fun zero => absurd zero (succ_merged_ne_zero few)
  case storage =>
    have dropped : (buf.bytes.drop offset).length = buf.bytes.length - offset :=
      List.length_drop ..
    have payload := eligible.payload
    have grows : (udpPayload item.key.isV6 (own.bytes.drop offset)).length =
        (own.bytes.drop offset).length - (ipHLen item.key.isV6 + udpHLen) := List.length_drop ..
    rw [udpJoinedLen] at room
    rw [UdpGROItem.appended_bufsIndex, holds.storage,
      ExpandBuffer.capacity_bufExtendFromSlice _ _ (by omega)]
  case opened =>
    rw [UdpGROItem.appended_bufsIndex, List.head?_append, holds.opened]
    rfl
  case inOrder =>
    refine List.pairwise_append.mpr ⟨holds.inOrder, List.pairwise_singleton .., ?_⟩
    intro k before last isLast
    rw [List.mem_singleton.mp isLast]
    exact later k before

end UdpHolds

/-- The items of a flow stand in the order of arrival, and a stored flow is never empty. -/
structure UdpKeyed (key : UdpFlowKey) (items : List UdpGROItem) : Prop where
  nonempty : items ≠ []
  keys : ∀ item ∈ items, item.key = key
  inOrder : (items.map fun item => item.bufsIndex.toNat).Pairwise (· < ·)

section Step

variable {input bufs : List ExpandBuffer} {offset n : Nat} {groups : Grouping} {slots : List Slot}
  {item : UdpGROItem} {buf own : ExpandBuffer}

theorem BatchInv.udpItem (inv : BatchInv input offset n bufs groups slots)
    (member : udpSlot input offset item ∈ slots) :
    ∃ buf, bufs[item.bufsIndex.toNat]? = some buf ∧
      UdpHolds input offset item (groups.parts item.bufsIndex.toNat) buf := inv.holds _ member

/-- What the last item of the flow answers, and what the code does with the answer. -/
inductive LastOutcome (input : List ExpandBuffer) (offset n : Nat) (bufs : List ExpandBuffer)
    (groups : Grouping) (slots : List Slot) (pkt : List UInt8) (datagram : UdpDatagram)
    (isV6 : Bool) (item : UdpGROItem) : CanCoalesce → Prop
  | unavailable {can : CanCoalesce} (unavailable : can ≠ .append)
      (none : udpTakes offset bufs pkt datagram isV6 item = none) :
      LastOutcome input offset n bufs groups slots pkt datagram isV6 item can
  | refused {result : CoalesceResult} (failed : result ≠ .success)
      (none : udpTakes offset bufs pkt datagram isV6 item = none)
      (ran : coalesceUdpPackets pkt item bufs offset isV6 = .ok (result, item, bufs)) :
      LastOutcome input offset n bufs groups slots pkt datagram isV6 item .append
  | joined {item' : UdpGROItem} {bufs' : List ExpandBuffer}
      (taken : udpTakes offset bufs pkt datagram isV6 item = some (.append item.bufsIndex.toNat))
      (ran : coalesceUdpPackets pkt item bufs offset isV6 = .ok (.success, item', bufs'))
      (sameKey : item'.key = item.key) (sameIndex : item'.bufsIndex = item.bufsIndex)
      (inv : BatchInv input offset (n + 1) bufs' (groups.step n (.append item.bufsIndex.toNat))
        (udpSlot input offset item' :: slots)) :
      LastOutcome input offset n bufs groups slots pkt datagram isV6 item .append

theorem udpTakes_of_appends {parts : List (List UInt8)} {pkt : List UInt8}
    (group : UdpGroup parts item (buf.bytes.drop offset))
    (found : bufs[item.bufsIndex.toNat]? = some buf) (fits : offset ≤ buf.bytes.length)
    (eligible : UdpEligible item.key.isV6 pkt)
    (appends : UdpAppends item.key.isV6 pkt item (buf.bytes.drop offset)) :
    udpTakes offset bufs pkt (udpDatagramOf item.key.isV6 pkt) item.key.isV6 item =
      if offset * 2 + udpJoinedLen item.key.isV6 (buf.bytes.drop offset) pkt ≤ buf.capacity ∧
        ¬ (item.numMerged = 0 ∧ (item.cSumKnownInvalid = true ∨
          ¬ TransportVerifies item.key.isV6 ipProtoUdp (buf.bytes.drop offset))) ∧
        TransportVerifies item.key.isV6 ipProtoUdp pkt then some (.append item.bufsIndex.toNat)
      else none := by
  have target := packetFrom_ok found fits
  have long := group.headers_lt
  have payload := eligible.payload
  obtain ⟨can, canEq, append_iff⟩ := udpPacketsCanCoalesce_spec group target eligible
  obtain rfl := append_iff.mpr appends
  have allowed := checksumsAllow_iff item.cSumKnownInvalid ipProtoUdp target group.iphLen
    (by omega) group.length_le (by omega : ipHLen item.key.isV6 ≤ pkt.length) eligible.length_le
  have roomFor : RoomFor offset bufs item.bufsIndex.toNat item.bufsIndex.toNat pkt
      (ipHLen item.key.isV6 + udpHLen) ↔
        offset * 2 + udpJoinedLen item.key.isV6 (buf.bytes.drop offset) pkt ≤ buf.capacity := by
    rw [RoomFor, packetAt_of_getElem? found, capacityAt_of_getElem? found, udpJoinedLen,
      Nat.mul_comm]
  simp only [udpTakes, udpDatagramOf, canEq, roomFor, allowed]

theorem lastOutcome {pkt : List UInt8} {datagram : UdpDatagram} (valid : ValidBatch input offset (n + 1))
    (foundOwn : input[n]? = some own) (samePkt : own.bytes.drop offset = pkt)
    (sameDatagram : udpDatagramOf item.key.isV6 pkt = datagram)
    (eligible : UdpEligible item.key.isV6 pkt) (key : udpKeyOf item.key.isV6 pkt = item.key)
    (inv : BatchInv input offset n bufs groups (udpSlot input offset item :: slots)) :
    ∃ can, udpPacketsCanCoalesce pkt (UInt8.ofNat datagram.iphLen) datagram.gsoSize item bufs
        offset = .ok can ∧
      LastOutcome input offset n bufs groups slots pkt datagram item.key.isV6 item can := by
  subst samePkt sameDatagram
  obtain ⟨buf, found, holds⟩ := inv.udpItem List.mem_cons_self
  have earlier : item.bufsIndex.toNat < n := inv.index_lt List.mem_cons_self
  have known : item.bufsIndex.toNat ∈ groups.heads := inv.known _ List.mem_cons_self
  have inside : n < input.length := (List.getElem?_eq_some_iff.mp foundOwn).1
  have few : item.numMerged.toNat + 1 < 65536 := by
    have parts := inv.partition.length_parts_le known
    have length := holds.length_parts
    have input := valid.few
    omega
  have target := packetFrom_ok found holds.offset_le
  obtain ⟨can, canEq, append_iff⟩ := udpPacketsCanCoalesce_spec holds.group target eligible
  refine ⟨can, canEq, ?_⟩
  by_cases append : can = .append
  case neg =>
    refine .unavailable append ?_
    simp only [udpTakes, udpDatagramOf, canEq]
    cases can with
    | append => exact absurd rfl append
    | prepend => rfl
    | unavailable => rfl
  subst append
  have appends := append_iff.mp rfl
  have ran := coalesceUdpPackets_eq holds.group found eligible few
  have answer := udpTakes_of_appends holds.group found holds.offset_le eligible appends
  by_cases room : offset * 2 + udpJoinedLen item.key.isV6 (buf.bytes.drop offset)
      (own.bytes.drop offset) ≤ buf.capacity
  case neg =>
    rw [if_pos (Nat.lt_of_not_le room)] at ran
    exact .refused (by decide) (by rw [answer, if_neg fun h => room h.1]) ran
  rw [if_neg (Nat.not_lt.mpr room)] at ran
  by_cases invalid : item.numMerged = 0 ∧ (item.cSumKnownInvalid = true ∨
      ¬ TransportVerifies item.key.isV6 ipProtoUdp (buf.bytes.drop offset))
  · rw [if_pos invalid] at ran
    exact .refused (by decide) (by rw [answer, if_neg fun h => h.2.1 invalid]) ran
  rw [if_neg invalid] at ran
  by_cases verifies : TransportVerifies item.key.isV6 ipProtoUdp (own.bytes.drop offset)
  case neg =>
    rw [if_pos verifies] at ran
    exact .refused (by decide) (by rw [answer, if_neg fun h => verifies h.2.2]) ran
  rw [if_neg (not_not.mpr verifies)] at ran
  refine .joined (by rw [answer, if_pos ⟨room, invalid, verifies⟩]) ran
    rfl rfl ?_
  have insideItem : item.bufsIndex.toNat < bufs.length := (List.getElem?_eq_some_iff.mp found).1
  have allows : groups.Allows (.append item.bufsIndex.toNat) := known
  refine inv.join (inv.partition.step allows) List.length_set (List.getElem?_set_self insideItem)
    (fun k apart _ => List.getElem?_set_ne (Ne.symm apart)) rfl ?_
  exact holds.append foundOwn (fun k member => inv.partition.part_lt known member) eligible key
    appends verifies (fun zero => not_not.mp fun h => invalid ⟨zero, .inr h⟩) few room

theorem BatchInv.insertUdp {isV6 : Bool} {table : UdpGROTable} {rest : List Slot}
    (valid : ValidBatch input offset (n + 1)) (foundOwn : input[n]? = some own)
    (eligible : UdpEligible isV6 (own.bytes.drop offset)) (tidy : table.Tidy UdpKeyed)
    (inv : BatchInv input offset n bufs groups (table.liveItems.map (udpSlot input offset) ++ rest))
    (cSumKnownInvalid : Bool) :
    (table.push (udpKeyOf isV6 (own.bytes.drop offset))
        (udpItemOf isV6 (own.bytes.drop offset) n cSumKnownInvalid)).Tidy UdpKeyed ∧
      BatchInv input offset (n + 1) bufs (groups.step n .stand)
        ((table.push (udpKeyOf isV6 (own.bytes.drop offset))
          (udpItemOf isV6 (own.bytes.drop offset) n cSumKnownInvalid)).liveItems.map
            (udpSlot input offset) ++ rest) := by
  have small := valid.index_small foundOwn
  have here : (udpItemOf isV6 (own.bytes.drop offset) n cSumKnownInvalid).bufsIndex.toNat = n :=
    UInt16.toNat_ofNat_of_lt' small
  constructor
  · refine tidy.push ?_ ?_
    · intro items found
      have flow := tidy.stored _ _ found
      refine ⟨by simp, ?_, ?_⟩
      · intro item member
        rcases List.mem_append.mp member with old | new
        · exact flow.keys item old
        · rw [List.mem_singleton.mp new]
          rfl
      · rw [List.map_append, List.map_singleton, List.pairwise_append]
        refine ⟨flow.inOrder, List.pairwise_singleton .., ?_⟩
        intro k earlier last isLast
        rw [List.mem_singleton.mp isLast, here]
        obtain ⟨item, member, rfl⟩ := List.mem_map.mp earlier
        have live : item ∈ table.liveItems :=
          (FlowTable.liveItems_perm found).mem_iff.mpr (List.mem_append_left _ member)
        exact inv.index_lt (List.mem_append_left _ (List.mem_map_of_mem live))
    · refine ⟨by simp, ?_, by simp⟩
      intro item member
      rw [List.mem_singleton.mp member]
      rfl
  · have held : (udpSlot input offset (udpItemOf isV6 (own.bytes.drop offset) n
        cSumKnownInvalid)).Holds [n] own :=
      UdpHolds.single small foundOwn eligible cSumKnownInvalid
    refine (inv.openSlot foundOwn here held).perm ?_
    exact ((tidy.liveItems_push _ _).map (udpSlot input offset)).symm.append_right rest

theorem insertUdpPacket_ok {isV6 : Bool} {table : UdpGROTable} (here : bufs[n]? = some own)
    (fits : offset ≤ own.bytes.length) (eligible : UdpEligible isV6 (own.bytes.drop offset))
    (small : n < 65536) (cSumKnownInvalid : Bool) :
    insertUdpPacket bufs offset n table (ipHLen isV6) isV6 cSumKnownInvalid =
      .ok (.tableInsert, bufs, table.push (udpKeyOf isV6 (own.bytes.drop offset))
        (udpItemOf isV6 (own.bytes.drop offset) n cSumKnownInvalid)) := by
  unfold insertUdpPacket
  simp only []
  rw [packetFrom_ok here fits, Run.ok_bind, UdpGROTable.insert_eq table eligible small, Run.ok_bind]
  rfl

theorem UdpKeyed.replaceLast {key : UdpFlowKey} {front : List UdpGROItem} {last last' : UdpGROItem}
    (flow : UdpKeyed key (front ++ [last])) (sameKey : last'.key = last.key)
    (sameIndex : last'.bufsIndex = last.bufsIndex) : UdpKeyed key (front ++ [last']) where
  nonempty := by simp
  keys := by
    intro item member
    rcases List.mem_append.mp member with before | isLast
    · exact flow.keys item (List.mem_append_left _ before)
    · rw [List.mem_singleton.mp isLast, sameKey]
      exact flow.keys last (List.mem_append_right _ (List.mem_singleton_self last))
  inOrder := by
    have inOrder := flow.inOrder
    simp only [List.map_append, List.map_singleton] at inOrder ⊢
    rwa [sameIndex]

def udpIndices (table : UdpGROTable) : List Nat :=
  table.liveItems.map fun item => item.bufsIndex.toNat

/-- Items stay in the table, and an eligible packet that is not joined gets one. -/
structure UdpTabled (n : Nat) (eligible : Prop) (before after : UdpGROTable) (result : GroResult) :
    Prop where
  kept : ∀ k ∈ udpIndices before, k ∈ udpIndices after
  added : result ≠ .coalesced → eligible → n ∈ udpIndices after

theorem UdpTabled.push {isV6 : Bool} {pkt : List UInt8} {before table : UdpGROTable}
    (tidy : table.Tidy UdpKeyed) (kept : ∀ k ∈ udpIndices before, k ∈ udpIndices table)
    (small : n < 65536) (key : UdpFlowKey) (cSumKnownInvalid : Bool) (eligible : Prop) :
    UdpTabled n eligible before (table.push key (udpItemOf isV6 pkt n cSumKnownInvalid))
      .tableInsert := by
  have here : (udpItemOf isV6 pkt n cSumKnownInvalid).bufsIndex.toNat = n :=
    UInt16.toNat_ofNat_of_lt' small
  have indices := (tidy.liveItems_push key (udpItemOf isV6 pkt n cSumKnownInvalid)).map
    fun item => item.bufsIndex.toNat
  rw [List.map_cons, here] at indices
  exact ⟨fun k member => indices.mem_iff.mpr (List.mem_cons_of_mem _ (kept k member)),
    fun _ _ => indices.mem_iff.mpr List.mem_cons_self⟩

theorem udpGro_new {isV6 : Bool} {table : UdpGROTable} (here : bufs[n]? = some own)
    (fits : offset ≤ own.bytes.length) (eligible : UdpEligible isV6 (own.bytes.drop offset))
    (small : n < 65536)
    (absent : table.itemsByFlow.lookup (udpKeyOf isV6 (own.bytes.drop offset)) = none) :
    udpGro bufs offset n table isV6 =
      .ok (.tableInsert, bufs, table.push (udpKeyOf isV6 (own.bytes.drop offset))
        (udpItemOf isV6 (own.bytes.drop offset) n false)) := by
  obtain ⟨found, parsed, ⟨-, rfl⟩ | ⟨notEligible, -⟩⟩ := parseUdp_spec eligible.candidate
  · unfold udpGro
    rw [packetFrom_ok here fits, Run.ok_bind, parsed, Run.ok_bind]
    change (UdpGROTable.lookupOrInsert table (own.bytes.drop offset) (srcAddrOffset isV6)
      (srcAddrOffset isV6 + addrLen isV6) (ipHLen isV6) n >>= _) = _
    rw [UdpGROTable.lookupOrInsert_eq table eligible small, absent]
    rfl
  · exact absurd eligible notEligible

theorem udpGro_spec {isV6 : Bool} {table : UdpGROTable} {rest : List Slot}
    (valid : ValidBatch input offset (n + 1)) (foundOwn : input[n]? = some own)
    (candidate : Candidate isV6 ipProtoUdp (own.bytes.drop offset)) (tidy : table.Tidy UdpKeyed)
    (inv : BatchInv input offset n bufs groups (table.liveItems.map (udpSlot input offset) ++ rest)) :
    ∃ result bufs' table', udpGro bufs offset n table isV6 = .ok (result, bufs', table') ∧
      table'.Tidy UdpKeyed ∧
      StepPost input offset n groups (udpMove offset bufs (own.bytes.drop offset) table isV6)
        (table'.liveItems.map (udpSlot input offset) ++ rest) bufs' result ∧
      UdpTabled n (UdpEligible isV6 (own.bytes.drop offset)) table table' result := by
  have small := valid.index_small foundOwn
  have here : bufs[n]? = some own := (inv.pending n le_rfl).trans foundOwn
  have fits := (valid.room n own n.lt_succ_self foundOwn).2.le
  obtain ⟨found, parsed, ⟨eligible, rfl⟩ | ⟨notEligible, rfl⟩⟩ := parseUdp_spec candidate
  case inr =>
    refine ⟨.noop, bufs, table, ?_, tidy, ⟨?_, inv⟩, ⟨fun _ => id, fun _ h => (notEligible h).elim⟩⟩
    · rw [udpGro, packetFrom_ok here fits, Run.ok_bind, parsed, Run.ok_bind]
      rfl
    · simp only [udpMove, parsed]
  cases stored : table.itemsByFlow.lookup (udpKeyOf isV6 (own.bytes.drop offset)) with
  | none =>
    obtain ⟨tidy', inv'⟩ := inv.insertUdp valid foundOwn eligible tidy false
    refine ⟨.tableInsert, bufs, _, udpGro_new here fits eligible small stored, tidy', ⟨?_, inv'⟩,
      .push tidy (fun _ => id) small _ _ _⟩
    simp only [udpMove, parsed, stored]
  | some items =>
    unfold udpGro
    rw [packetFrom_ok here fits, Run.ok_bind, parsed, Run.ok_bind]
    change ∃ result bufs' table', (UdpGROTable.lookupOrInsert table (own.bytes.drop offset)
      (srcAddrOffset isV6) (srcAddrOffset isV6 + addrLen isV6) (ipHLen isV6) n >>= _) = _ ∧ _
    rw [UdpGROTable.lookupOrInsert_eq table eligible small, Run.ok_bind, stored]
    have flow := tidy.stored _ _ stored
    obtain ⟨front, last, rfl⟩ : ∃ front last, items = front ++ [last] :=
      ⟨_, _, (List.dropLast_append_getLast flow.nonempty).symm⟩
    have position : (front ++ [last]).length - 1 = front.length := by simp
    have foundLast : (front ++ [last])[front.length]? = some last := by simp
    have replaced : ∀ item : UdpGROItem, (front ++ [last]).set front.length item =
        front ++ [item] := by intro item; simp
    have key : last.key = udpKeyOf isV6 (own.bytes.drop offset) :=
      flow.keys last (List.mem_append_right _ (List.mem_singleton_self last))
    have family : last.key.isV6 = isV6 := by rw [key]; rfl
    have move : udpMove offset bufs (own.bytes.drop offset) table isV6 =
        (udpTakes offset bufs (own.bytes.drop offset)
          (udpDatagramOf isV6 (own.bytes.drop offset)) isV6 last).getD .stand := by
      simp only [udpMove, parsed, stored, List.getLast?_concat, Option.bind_some]
    obtain ⟨can, canEq, outcome⟩ := lastOutcome valid foundOwn rfl rfl (family.symm ▸ eligible)
      (by rw [family, key]) (inv.perm (lastSlot_perm _ rest stored))
    rw [family] at canEq outcome
    simp only []
    rw [subLen_ok (by simp), Run.ok_bind, position, index_ok foundLast, Run.ok_bind, canEq,
      Run.ok_bind]
    cases outcome with
    | unavailable unavailable none =>
      obtain ⟨tidy', inv'⟩ := inv.insertUdp valid foundOwn eligible tidy false
      rw [if_neg unavailable]
      exact ⟨.tableInsert, bufs, _, insertUdpPacket_ok here fits eligible small false, tidy',
        ⟨by rw [move, none]; rfl, inv'⟩, .push tidy (fun _ => id) small _ _ _⟩
    | @refused result failed none ran =>
      rw [if_pos rfl, ran, Run.ok_bind, replaced]
      simp only []
      rw [if_neg failed]
      -- The flow is written back as it was before the datagram is entered as an item of its own.
      have tidy' : (table.store (udpKeyOf isV6 (own.bytes.drop offset)) (front ++ [last])).Tidy
          UdpKeyed := tidy.store flow
      have same : ((table.store (udpKeyOf isV6 (own.bytes.drop offset))
          (front ++ [last])).liveItems).Perm table.liveItems :=
        (FlowTable.liveItems_perm stored).symm
      have inv' := inv.perm ((same.symm.map (udpSlot input offset)).append_right rest)
      obtain ⟨tidy'', inv''⟩ := inv'.insertUdp valid foundOwn eligible tidy'
        (result == .pktInvalidCSum)
      have kept : ∀ k ∈ udpIndices table, k ∈ udpIndices (table.store _ (front ++ [last])) :=
        fun k member => (same.map fun item => item.bufsIndex.toNat).mem_iff.mpr member
      exact ⟨.tableInsert, bufs, _, insertUdpPacket_ok here fits eligible small _, tidy'',
        ⟨by rw [move, none]; rfl, inv''⟩, .push tidy' kept small _ _ _⟩
    | @joined item' bufs' taken ran sameKey sameIndex inv' =>
      rw [if_pos rfl, ran, Run.ok_bind, replaced]
      refine ⟨.coalesced, bufs', _, rfl, tidy.store (flow.replaceLast sameKey sameIndex),
        ⟨?_, ?_⟩, ⟨?_, fun h => absurd rfl h⟩⟩
      · rw [move, taken]
        exact Move.noConfusion
      · rw [move, taken]
        exact inv'.perm (concatSlots_perm _ front _ item' rest).symm
      · intro k member
        have before := ((FlowTable.liveItems_perm stored).map
          fun item => item.bufsIndex.toNat).mem_iff.mp member
        simpa only [udpIndices, FlowTable.liveItems_store, List.map_append, List.map_singleton,
          sameIndex] using before

end Step

end QuincyTun.Linux
