import QuincyTun.Linux.GroSafety
import QuincyTun.Linux.Reuse

/-! Every state that one call goes through: between and within the iterations of its
loop, and within the accounting passes.

In each of them a live item still stands for packets of the batch, and the packet in
its buffer carries their payloads.
-/

set_option autoImplicit false

namespace QuincyTun.Linux

open QuincyTun.Foundation

/-- A packet that is compared with the items of its flow. -/
structure TcpCandidate (canUdpGro isV6 : Bool) (pkt : List UInt8) (segment : TcpSegment) :
    Prop where
  kind : (packetIsGroCandidate pkt canUdpGro).kind = some (isV6, ipProtoTcp)
  parsed : parseTcp pkt isV6 = .ok (some segment)

def canCoalesce (pkt : List UInt8) (segment : TcpSegment) (item : TcpGROItem)
    (bufs : List ExpandBuffer) (offset : Nat) : Run CanCoalesce :=
  tcpPacketsCanCoalesce pkt (UInt8.ofNat segment.iphLen) (UInt8.ofNat segment.tcphLen) segment.seq
    segment.pshSet segment.gsoSize item bufs offset

/-! ## Within the loop over a flow -/

/-- Before the loop looks at the item in front of position `left`. -/
structure ScanPosition where
  left : Nat
  items : List TcpGROItem
  bufs : List ExpandBuffer

/-- One round of the loop that is followed by another. -/
inductive ScanStep (pkt : List UInt8) (pktI : Nat) (segment : TcpSegment) (offset : Nat)
    (isV6 : Bool) : ScanPosition → ScanPosition → Prop
  | unavailable {i : Nat} {items : List TcpGROItem} {bufs : List ExpandBuffer} {item : TcpGROItem}
      (found : items[i]? = some item)
      (answer : canCoalesce pkt segment item bufs offset = .ok .unavailable) :
      ScanStep pkt pktI segment offset isV6 ⟨i + 1, items, bufs⟩ ⟨i, items, bufs⟩
  | passed {i : Nat} {items : List TcpGROItem} {bufs bufs' : List ExpandBuffer}
      {item item' : TcpGROItem} {can : CanCoalesce} {result : CoalesceResult}
      (found : items[i]? = some item)
      (answer : canCoalesce pkt segment item bufs offset = .ok can)
      (available : can ≠ .unavailable)
      (ran : coalesceTcpPackets can pkt pktI segment.gsoSize segment.seq segment.pshSet item bufs
        offset isV6 = .ok (result, item', bufs'))
      (passes : result = .insufficientCap ∨ result = .pshEnding) :
      ScanStep pkt pktI segment offset isV6 ⟨i + 1, items, bufs⟩ ⟨i, items.set i item', bufs'⟩
  | removed {i : Nat} {items : List TcpGROItem} {bufs bufs' zeroed : List ExpandBuffer}
      {item item' : TcpGROItem} {can : CanCoalesce} (found : items[i]? = some item)
      (answer : canCoalesce pkt segment item bufs offset = .ok can)
      (available : can ≠ .unavailable)
      (ran : coalesceTcpPackets can pkt pktI segment.gsoSize segment.seq segment.pshSet item bufs
        offset isV6 = .ok (.itemInvalidCSum, item', bufs'))
      (clears : zeroVirtioHeader bufs' item'.bufsIndex.toNat offset = .ok zeroed) :
      ScanStep pkt pktI segment offset isV6 ⟨i + 1, items, bufs⟩
        ⟨i, (items.set i item').eraseIdx i, zeroed⟩

section Scan

variable {pkt : List UInt8} {pktI offset : Nat} {segment : TcpSegment} {isV6 : Bool}
  {here there : ScanPosition}

theorem ScanStep.scanItems_eq (step : ScanStep pkt pktI segment offset isV6 here there) :
    scanItems pkt pktI segment offset isV6 here.left here.items here.bufs =
      scanItems pkt pktI segment offset isV6 there.left there.items there.bufs := by
  cases step with
  | unavailable found answer =>
    rw [canCoalesce] at answer
    simp only []
    rw [scanItems, index_ok found, Run.ok_bind, answer, Run.ok_bind, if_pos rfl]
  | passed found answer available ran passes =>
    rw [canCoalesce] at answer
    simp only []
    rw [scanItems, index_ok found, Run.ok_bind, answer, Run.ok_bind, if_neg available, ran,
      Run.ok_bind]
    rcases passes with rfl | rfl <;> rfl
  | removed found answer available ran clears =>
    rw [canCoalesce] at answer
    simp only []
    rw [scanItems, index_ok found, Run.ok_bind, answer, Run.ok_bind, if_neg available, ran,
      Run.ok_bind]
    simp only []
    rw [clears, Run.ok_bind]

/-- What the loop over a flow keeps, with the other items of the batch in `rest`. -/
structure ScanInv (input : List ExpandBuffer) (offset n : Nat) (groups : Grouping)
    (key : TcpFlowKey) (rest : List Slot) (position : ScanPosition) : Prop where
  bound : position.left ≤ position.items.length
  keys : TcpKeyed key position.items
  batch : BatchInv input offset n position.bufs groups
    (position.items.map (tcpSlot input offset) ++ rest)

variable {input : List ExpandBuffer} {n : Nat} {groups : Grouping} {rest : List Slot}
  {own : ExpandBuffer}

/-- A packet that was not joined has changed nothing yet, and only an item that stands alone can
be blamed for a checksum. -/
theorem ItemOutcome.unless_joined {bufs bufs' : List ExpandBuffer} {slots : List Slot}
    {item item' : TcpGROItem} {can : CanCoalesce} {result : CoalesceResult}
    (outcome : ItemOutcome input offset n bufs groups slots pkt segment isV6 item can)
    (available : can ≠ .unavailable)
    (ran : coalesceTcpPackets can pkt n segment.gsoSize segment.seq segment.pshSet item bufs offset
      isV6 = .ok (result, item', bufs')) (unjoined : result ≠ .success) :
    item' = item ∧ bufs' = bufs ∧ (result = .itemInvalidCSum → item.numMerged = 0) := by
  cases outcome with
  | unavailable none => exact absurd rfl available
  | skipped _ none ran' =>
    cases ran'.symm.trans ran
    exact ⟨rfl, rfl, nofun⟩
  | removed _ none single ran' =>
    cases ran'.symm.trans ran
    exact ⟨rfl, rfl, fun _ => single⟩
  | rejected _ invalid ran' =>
    cases ran'.symm.trans ran
    exact ⟨rfl, rfl, nofun⟩
  | joined _ taken ran' sameKey inv =>
    cases ran'.symm.trans ran
    exact absurd rfl unjoined

theorem ScanInv.step (inv : ScanInv input offset n groups (tcpKeyOf isV6 pkt) rest here)
    (valid : ValidBatch input offset (n + 1)) (foundOwn : input[n]? = some own)
    (samePkt : own.bytes.drop offset = pkt) (eligible : TcpEligible isV6 pkt)
    (step : ScanStep pkt n (tcpSegmentOf isV6 pkt) offset isV6 here there) :
    ScanInv input offset n groups (tcpKeyOf isV6 pkt) rest there := by
  cases step with
  | unavailable found answer => exact ⟨(Nat.le_succ _).trans inv.bound, inv.keys, inv.batch⟩
  | @passed i items bufs bufs' item item' can result found answer available ran passes =>
    obtain ⟨can', answer', outcome⟩ := flowItem_outcome valid foundOwn samePkt rfl eligible inv.keys
      found inv.batch
    obtain rfl := Except.ok.inj (answer'.symm.trans answer)
    have unjoined : result ≠ .success := by rcases passes with rfl | rfl <;> nofun
    obtain ⟨rfl, rfl, -⟩ := outcome.unless_joined available ran unjoined
    obtain ⟨inside, rfl⟩ := List.getElem?_eq_some_iff.mp found
    rw [List.set_getElem_self]
    exact ⟨(Nat.le_succ _).trans inv.bound, inv.keys, inv.batch⟩
  | @removed i items bufs bufs' zeroed item item' can found answer available ran clears =>
    obtain ⟨can', answer', outcome⟩ := flowItem_outcome valid foundOwn samePkt rfl eligible inv.keys
      found inv.batch
    obtain rfl := Except.ok.inj (answer'.symm.trans answer)
    obtain ⟨rfl, rfl, single⟩ := outcome.unless_joined available ran nofun
    have apart := inv.batch.perm (flowSlots_perm rest found)
    obtain ⟨buf, here, holds⟩ := apart.tcpItem List.mem_cons_self
    have room := (valid.room n own n.lt_succ_self foundOwn).1
    rw [zeroVirtioHeader_ok room here holds.offset_le] at clears
    obtain rfl := Except.ok.inj clears
    obtain ⟨inside, rfl⟩ := List.getElem?_eq_some_iff.mp found
    rw [List.set_getElem_self]
    refine ⟨?_, fun other among => inv.keys other (List.mem_of_mem_eraseIdx among),
      apart.giveUp holds (single rfl)⟩
    rw [List.length_eraseIdx_of_lt inside]
    exact Nat.le_sub_one_of_lt inside

theorem ScanInv.steps (inv : ScanInv input offset n groups (tcpKeyOf isV6 pkt) rest here)
    (valid : ValidBatch input offset (n + 1)) (foundOwn : input[n]? = some own)
    (samePkt : own.bytes.drop offset = pkt) (eligible : TcpEligible isV6 pkt)
    (steps : Relation.ReflTransGen (ScanStep pkt n (tcpSegmentOf isV6 pkt) offset isV6)
      here there) : ScanInv input offset n groups (tcpKeyOf isV6 pkt) rest there := by
  induction steps with
  | refl => exact inv
  | tail _ step ih => exact ih.step valid foundOwn samePkt eligible step

end Scan

/-! ## The states of a call -/

/-- The states that one call goes through. -/
inductive GroReaches (host : Host) (offset : Nat) (canUdpGro : Bool) (s : GroState) :
    GroState → Prop
  | entered : GroReaches host offset canUdpGro s s
  /-- After some iterations, the last of which may have failed. -/
  | iterated {n : Nat} {state : GroState} {outcome : Result Unit} (few : s.bufs.length ≤ 65535)
      (inside : n ≤ s.bufs.length)
      (ran : groLoop host offset canUdpGro n s = .ok (state, outcome)) :
      GroReaches host offset canUdpGro s state
  /-- While a packet is compared with the items of its flow. -/
  | compared {n : Nat} {state : GroState} {own : ExpandBuffer} {isV6 : Bool} {segment : TcpSegment}
      {key : TcpFlowKey} {items : List TcpGROItem} {table : TcpGROTable} {position : ScanPosition}
      (reaches : LoopReaches host offset canUdpGro s n state) (found : state.bufs[n]? = some own)
      (room : virtioNetHdrLen ≤ offset ∧ offset < own.bytes.length)
      (candidate : TcpCandidate canUdpGro isV6 (own.bytes.drop offset) segment)
      (stored : state.tcpTable.lookupOrInsert (own.bytes.drop offset) (srcAddrOffset isV6)
        (srcAddrOffset isV6 + addrLen isV6) segment.iphLen segment.tcphLen n =
          .ok (some (key, items), table))
      (steps : Relation.ReflTransGen (ScanStep (own.bytes.drop offset) n segment offset isV6)
        ⟨items.length, items, state.bufs⟩ position) :
      GroReaches host offset canUdpGro s
        { state with bufs := position.bufs, tcpTable := table.store key position.items }
  /-- When a packet was handed to its table. -/
  | dispatched {n : Nat} {state after : GroState} {own : ExpandBuffer} {result : GroResult}
      (reaches : LoopReaches host offset canUdpGro s n state) (found : state.bufs[n]? = some own)
      (room : virtioNetHdrLen ≤ offset ∧ offset < own.bytes.length)
      (ran : groDispatch offset n state (packetIsGroCandidate (own.bytes.drop offset) canUdpGro) =
        .ok (result, after)) : GroReaches host offset canUdpGro s after
  /-- After the visits of some TCP items. -/
  | tcpAccounted {state : GroState} {front later : List TcpGROItem} {bufs : List ExpandBuffer}
      {outcome : Result Unit} (reaches : LoopReaches host offset canUdpGro s s.bufs.length state)
      (order : state.tcpTable.values host.tcpOrder = front ++ later)
      (ran : accountItems TcpGROItem.bufsIndex (TcpGROItem.visit host offset) front state.bufs =
        .ok (bufs, outcome)) : GroReaches host offset canUdpGro s { state with bufs }
  /-- After the visits of all TCP items and some UDP items. -/
  | udpAccounted {state : GroState} {front later : List UdpGROItem}
      {between bufs : List ExpandBuffer} {errTcp outcome : Result Unit}
      (reaches : LoopReaches host offset canUdpGro s s.bufs.length state)
      (first : applyTcpCoalesceAccounting host state.bufs offset state.tcpTable =
        .ok (between, errTcp))
      (order : state.udpTable.values host.udpOrder = front ++ later)
      (ran : accountItems UdpGROItem.bufsIndex (UdpGROItem.visit host offset) front between =
        .ok (bufs, outcome)) : GroReaches host offset canUdpGro s { state with bufs }

/-- The packet in the buffer of an item carries the payloads of different packets of the batch. -/
def CarriesGroup (input : List ExpandBuffer) (offset : Nat) (bufs : List ExpandBuffer)
    (item : TcpGROItem) : Prop :=
  ∃ (buf : ExpandBuffer) (parts : List Nat), bufs[item.bufsIndex.toNat]? = some buf ∧
    offset ≤ buf.bytes.length ∧ parts.Nodup ∧
    TcpGroup (parts.map (packetAt offset input)) item (buf.bytes.drop offset)

structure Grouped (input : List ExpandBuffer) (offset : Nat) (state : GroState) : Prop where
  keyed : FlowMap.Forall TcpKeyed state.tcpTable.itemsByFlow
  carries : ∀ item ∈ state.tcpTable.liveItems, CarriesGroup input offset state.bufs item

section Call

variable {host : Host} {offset n : Nat} {canUdpGro isV6 : Bool} {s s' state : GroState}
  {outcome : Result Unit} {input bufs : List ExpandBuffer} {groups : Grouping} {slots : List Slot}
  {item : TcpGROItem} {pkt : List UInt8} {segment : TcpSegment}

theorem handleGro_reaches (ran : handleGro host offset canUdpGro s = .ok (s', outcome)) :
    GroReaches host offset canUdpGro s s' := by
  unfold handleGro at ran
  split at ran
  · obtain ⟨rfl, -⟩ := Prod.mk.inj (Except.ok.inj ran)
    exact .entered
  · obtain ⟨⟨state, ended⟩, ranLoop, rest⟩ := Run.bind_eq_ok.mp ran
    have few : s.bufs.length ≤ 65535 := by omega
    cases ended with
    | error error =>
      obtain ⟨rfl, -⟩ := Prod.mk.inj (Except.ok.inj rest)
      exact .iterated few le_rfl ranLoop
    | ok _ =>
      obtain ⟨⟨between, errTcp⟩, first, rest⟩ := Run.bind_eq_ok.mp rest
      obtain ⟨⟨last, errUdp⟩, second, rest⟩ := Run.bind_eq_ok.mp rest
      obtain ⟨rfl, -⟩ := Prod.mk.inj (Except.ok.inj rest)
      exact .udpAccounted ⟨few, ranLoop⟩ first (List.append_nil _).symm second

theorem TcpCandidate.eligible (candidate : TcpCandidate canUdpGro isV6 pkt segment) :
    TcpEligible isV6 pkt ∧ segment = tcpSegmentOf isV6 pkt := by
  have shape := ((packetIsGroCandidate_kind ..).mp candidate.kind).1
  obtain ⟨found, parsed, ⟨eligible, same⟩ | ⟨-, same⟩⟩ := parseTcp_spec shape
  · have both := Except.ok.inj (parsed.symm.trans candidate.parsed)
    exact ⟨eligible, Option.some.inj (both.symm.trans same)⟩
  · have both := Except.ok.inj (parsed.symm.trans candidate.parsed)
    cases both.symm.trans same

theorem BatchInv.carries (inv : BatchInv input offset n bufs groups slots)
    (member : tcpSlot input offset item ∈ slots) : CarriesGroup input offset bufs item := by
  obtain ⟨buf, found, holds⟩ := inv.tcpItem member
  exact ⟨buf, groups.parts item.bufsIndex.toNat, found, holds.offset_le,
    inv.partition.parts_nodup (inv.known _ member), holds.group⟩

theorem BatchInv.grouped (inv : BatchInv input offset n state.bufs groups
      (groSlots input offset state)) (tidy : state.tcpTable.Tidy TcpKeyed) :
    Grouped input offset state where
  keyed := tidy.stored
  carries := fun _ live =>
    inv.carries (List.mem_append_left _ (List.mem_map_of_mem live))

theorem GroInv.grouped (inv : GroInv input offset canUdpGro n state groups) :
    Grouped input offset state := inv.batch.grouped inv.tcp

theorem TcpGroup.accounted {parts : List (List UInt8)} {cur cur' : List UInt8}
    (group : TcpGroup parts item cur)
    (agree : AgreeOn (accountingKeeps item.key.isV6 ipProtoTcp) cur' cur)
    (single : item.numMerged = 0 → cur' = cur) : TcpGroup parts item cur' := by
  have same := sameTcpSegment_of_keeps group.headerLen agree
  have headers := same.toSameTcpHeader
  refine {
    iphLen := group.iphLen
    tcphLen := group.tcphLen.trans headers.headerLen.symm
    joined := ?_
    merged := group.merged
    eligible := group.eligible
    sameHeader := fun pkt member => (group.sameHeader pkt member).trans headers.symm
    key := (tcpKeyOf_congr headers).trans group.key
    curSeq := same.seq.trans group.curSeq
    seq := group.seq
    untouched := fun alone => (group.untouched alone).trans (by rw [single alone])
    verified := group.verified
    pshLast := group.pshLast
    flags := ?_ }
  · rw [headers.headerLen]
    exact ⟨group.joined.segmented, by
      have payload := same.payload
      rw [tcpPayload, tcpPayload, headers.headerLen] at payload
      exact payload.trans group.joined.payload⟩
  · rw [tcpFlags_of_keeps agree]
    exact group.flags

theorem CarriesGroup.visited {bufs' : List ExpandBuffer}
    (carries : CarriesGroup input offset bufs item) (room : virtioNetHdrLen ≤ offset)
    (visited : Visited TcpGROItem.bufsIndex (TcpGROItem.visit host offset) bufs bufs' item) :
    CarriesGroup input offset bufs' item := by
  obtain ⟨buf, parts, found, fits, nodup, group⟩ := carries
  by_cases single : item.numMerged = 0
  · have is := visited.cleared (item.visit_single host offset single) found room fits
    refine ⟨_, parts, is, ?_, nodup, ?_⟩
    · rw [cleared, ExpandBuffer.bytes_overwritten, length_overwrite]
      exact fits
    · rw [drop_cleared room]
      exact group
  · obtain ⟨visit, was, buf', prepared, here, is, ran⟩ := visited
    obtain rfl := Option.some.inj (found.symm.trans here)
    rw [item.visit_merged host offset group single] at prepared
    rw [← Except.ok.inj prepared] at ran
    have accounts := group.accounts room ran
    have same := (accounts.framed le_rfl).size
    exact ⟨buf', parts, is, same ▸ fits, nodup,
      group.accounted accounts.agree fun alone => absurd alone single⟩

theorem CarriesGroup.congr {bufs' : List ExpandBuffer}
    (carries : CarriesGroup input offset bufs item)
    (same : bufs'[item.bufsIndex.toNat]? = bufs[item.bufsIndex.toNat]?) :
    CarriesGroup input offset bufs' item := by
  obtain ⟨buf, parts, found, rest⟩ := carries
  exact ⟨buf, parts, same.trans found, rest⟩

theorem Grouped.tcpAccounted {front later : List TcpGROItem}
    (grouped : Grouped input offset state) (quiet : QuietItems host offset state)
    (room : ∀ item ∈ state.tcpTable.liveItems, virtioNetHdrLen ≤ offset)
    (order : state.tcpTable.values host.tcpOrder = front ++ later)
    (ran : accountItems TcpGROItem.bufsIndex (TcpGROItem.visit host offset) front state.bufs =
      .ok (bufs, outcome)) : Grouped input offset { state with bufs } where
  keyed := grouped.keyed
  carries := by
    intro item live
    have perm := FlowTable.values_perm host.tcpOrder state.tcpTable
    have distinct := (nodup_values host quiet.distinct).1
    rw [order] at perm distinct
    obtain ⟨others, visited⟩ := accountItems_front distinct (order ▸ quiet.tcp_values) ran
    have carries := grouped.carries item live
    by_cases member : item ∈ front
    · exact carries.visited (room item live) (visited item member)
    · refine carries.congr (others _ fun other among same => member ?_)
      have identical := List.inj_on_of_nodup_map distinct (List.mem_append_left later among)
        (perm.mem_iff.mpr live) same
      exact identical ▸ among

theorem Grouped.udpAccounted {front later : List UdpGROItem} {between : List ExpandBuffer}
    (grouped : Grouped input offset { state with bufs := between })
    (quiet : QuietItems host offset state) {errTcp : Result Unit}
    (first : applyTcpCoalesceAccounting host state.bufs offset state.tcpTable =
      .ok (between, errTcp)) (order : state.udpTable.values host.udpOrder = front ++ later)
    (ran : accountItems UdpGROItem.bufsIndex (UdpGROItem.visit host offset) front between =
      .ok (bufs, outcome)) : Grouped input offset { state with bufs } where
  keyed := grouped.keyed
  carries := by
    intro item live
    have perm := FlowTable.values_perm host.udpOrder state.udpTable
    have distinct := (nodup_values host quiet.distinct).2
    rw [order] at perm distinct
    obtain ⟨others, -⟩ := accountItems_front distinct (order ▸ quiet.udp_values first) ran
    obtain ⟨-, -, apart⟩ := List.nodup_append.mp quiet.distinct
    refine (grouped.carries item live).congr (others _ fun other among same => ?_)
    have otherLive := perm.mem_iff.mp (List.mem_append_left later among)
    exact apart _ (List.mem_map_of_mem live) _ (List.mem_map_of_mem otherLive) same.symm

theorem LoopReaches.validNext {own : ExpandBuffer}
    (reaches : LoopReaches host offset canUdpGro s n state) (fresh : FreshState s)
    (found : state.bufs[n]? = some own)
    (room : virtioNetHdrLen ≤ offset ∧ offset < own.bytes.length) :
    s.bufs[n]? = some own ∧ ValidBatch s.bufs offset (n + 1) := by
  have foundOwn := ((reaches.inv fresh).batch.pending n le_rfl).symm.trans found
  exact ⟨foundOwn, (reaches.valid fresh).succ foundOwn room⟩

theorem StepPost.batch {move : Move} {result : GroResult}
    (post : StepPost input offset n groups move slots bufs result) :
    ∃ m later, BatchInv input offset m bufs later slots := by
  cases result with
  | noop => exact ⟨_, _, post.2⟩
  | tableInsert => exact ⟨_, _, post.2⟩
  | coalesced => exact ⟨_, _, post.2⟩

theorem LoopReaches.room (reaches : LoopReaches host offset canUdpGro s s.bufs.length state)
    (fresh : FreshState s) : ∀ item ∈ state.tcpTable.liveItems, virtioNetHdrLen ≤ offset := by
  intro item live
  have inv := reaches.inv fresh
  exact (reaches.valid fresh).offset_room (inv.batch.partition.bound _ (inv.tcpHolds live).1)

theorem LoopReaches.quiet (reaches : LoopReaches host offset canUdpGro s s.bufs.length state)
    (fresh : FreshState s) : QuietItems host offset state :=
  (reaches.inv fresh).quiet host (reaches.valid fresh) le_rfl

theorem GroReaches.grouped (fresh : FreshState s)
    (reached : GroReaches host offset canUdpGro s state) : Grouped s.bufs offset state := by
  cases reached with
  | entered => exact (fresh.inv offset canUdpGro).grouped
  | @iterated n state outcome few inside ran =>
    have ending := groLoop_ending host offset canUdpGro fresh few inside
    rw [ran] at ending
    cases ending with
    | completed valid inv => exact inv.grouped
    | stopped inv => exact inv.grouped
  | @compared n state own isV6 segment key items table position reaches found room candidate stored
      steps =>
    obtain ⟨foundOwn, valid⟩ := reaches.validNext fresh found room
    obtain ⟨eligible, rfl⟩ := candidate.eligible
    have inv := reaches.inv fresh
    have looked := TcpGROTable.lookupOrInsert_eq state.tcpTable eligible
      (valid.index_small foundOwn)
    cases flow : state.tcpTable.itemsByFlow.lookup (tcpKeyOf isV6 (own.bytes.drop offset)) with
    | none =>
      rw [flow] at looked
      cases looked.symm.trans stored
    | some found =>
      rw [flow] at looked
      cases looked.symm.trans stored
      -- Between two rounds the items left are those that would be stored if the scan ended here.
      have start : ScanInv s.bufs offset n (groGroups host offset canUdpGro s n) _ _
          ⟨items.length, items, state.bufs⟩ :=
        ⟨le_rfl, inv.tcp.stored _ _ flow, inv.batch.perm (liveSlots_perm _ _ flow)⟩
      have scanned := start.steps valid foundOwn rfl eligible steps
      have batch := scanned.batch
      rw [← List.append_assoc, ← List.map_append, ← FlowTable.liveItems_store] at batch
      exact BatchInv.grouped batch (inv.tcp.store scanned.keys)
  | @dispatched n state after own result reaches found room ran =>
    obtain ⟨foundOwn, valid⟩ := reaches.validNext fresh found room
    obtain ⟨result', after', ran', post⟩ := groDispatch_spec valid foundOwn (reaches.inv fresh)
    cases ran'.symm.trans ran
    obtain ⟨m, later, batch⟩ := post.step.batch
    exact batch.grouped post.tcp
  | @tcpAccounted state front later bufs outcome reaches order ran =>
    exact (reaches.inv fresh).grouped.tcpAccounted (reaches.quiet fresh) (reaches.room fresh)
      order ran
  | @udpAccounted state front later between bufs errTcp outcome reaches first order ran =>
    have grouped := (reaches.inv fresh).grouped.tcpAccounted (reaches.quiet fresh)
      (reaches.room fresh) (List.append_nil _).symm first
    exact grouped.udpAccounted (reaches.quiet fresh) first order ran

end Call

end QuincyTun.Linux
