import QuincyTun.Foundation.Related
import QuincyTun.Linux.GroSafety

/-! A table that was used before works like a new one.

Between two calls every pooled vector is empty, so the pool does not show. The hash
maps yield their items in an order of their own, which does not show either: no two
items share a buffer.
-/

set_option autoImplicit false

namespace QuincyTun.Linux

open QuincyTun.Foundation

/-! ## The pool does not show -/

namespace FlowTable

variable {κ ι : Type} [DecidableEq κ]

/-- Tables that differ in the number of pooled vectors at most, and these are empty. -/
structure Alike (table table' : FlowTable κ ι) : Prop where
  sameFlows : table.itemsByFlow = table'.itemsByFlow
  tidy : Tidy (fun _ _ => True) table
  tidy' : Tidy (fun _ _ => True) table'

variable {table table' : FlowTable κ ι}

theorem Fresh.alike (fresh : Fresh table) (fresh' : Fresh table') : Alike table table' where
  sameFlows := fresh.noFlow.trans fresh'.noFlow.symm
  tidy := fresh.tidy
  tidy' := fresh'.tidy

theorem Alike.store (alike : Alike table table') (key : κ) (items : List ι) :
    Alike (table.store key items) (table'.store key items) where
  sameFlows := congrArg (fun flows => flows.insert key items) alike.sameFlows
  tidy := alike.tidy.store trivial
  tidy' := alike.tidy'.store trivial

theorem Alike.push (alike : Alike table table') (key : κ) (item : ι) :
    Alike (table.push key item) (table'.push key item) where
  sameFlows := by
    cases found : table.itemsByFlow.lookup key with
    | some items =>
      rw [push_of_lookup item found, push_of_lookup item (alike.sameFlows ▸ found)]
      exact (alike.store key _).sameFlows
    | none =>
      rw [alike.tidy.push_new item found, alike.tidy'.push_new item (alike.sameFlows ▸ found)]
      exact (alike.store key _).sameFlows
  tidy := alike.tidy.push (fun _ _ => trivial) trivial
  tidy' := alike.tidy'.push (fun _ _ => trivial) trivial

theorem Alike.liveItems (alike : Alike table table') : table.liveItems = table'.liveItems := by
  rw [FlowTable.liveItems, FlowTable.liveItems, alike.sameFlows]

end FlowTable

def SameAnswer {κ ι α : Type} [DecidableEq κ] (answer answer' : α × FlowTable κ ι) : Prop :=
  answer.1 = answer'.1 ∧ FlowTable.Alike answer.2 answer'.2

theorem TcpGROTable.insert_alike {table table' : TcpGROTable} (alike : table.Alike table')
    (pkt : List UInt8) (src dst tcph tcphLen i : Nat) :
    Related FlowTable.Alike (table.insert pkt src dst tcph tcphLen i)
      (table'.insert pkt src dst tcph tcphLen i) := by
  unfold TcpGROTable.insert
  refine .bind_same fun key _ => .bind_same fun bufsIndex _ => .bind_same fun payload _ => ?_
  refine .bind_same fun gsoSize _ => .bind_same fun iphLen _ => .bind_same fun tcphLen _ => ?_
  exact .bind_same fun sentSeq _ => .bind_same fun flags _ => .ok (alike.push _ _)

theorem TcpGROTable.lookupOrInsert_alike {table table' : TcpGROTable} (alike : table.Alike table')
    (pkt : List UInt8) (src dst tcph tcphLen i : Nat) :
    Related SameAnswer (table.lookupOrInsert pkt src dst tcph tcphLen i)
      (table'.lookupOrInsert pkt src dst tcph tcphLen i) := by
  unfold TcpGROTable.lookupOrInsert
  refine .bind_same fun key _ => ?_
  rw [← alike.sameFlows]
  split
  · exact .ok ⟨rfl, alike⟩
  · exact .bind (insert_alike alike ..) fun _ _ inserted => .ok ⟨rfl, inserted⟩

theorem UdpGROTable.insert_alike {table table' : UdpGROTable} (alike : table.Alike table')
    (pkt : List UInt8) (src dst udph i : Nat) (cSumKnownInvalid : Bool) :
    Related FlowTable.Alike (table.insert pkt src dst udph i cSumKnownInvalid)
      (table'.insert pkt src dst udph i cSumKnownInvalid) := by
  unfold UdpGROTable.insert
  refine .bind_same fun key _ => .bind_same fun bufsIndex _ => .bind_same fun payloadLen _ => ?_
  exact .bind_same fun gsoSize _ => .bind_same fun iphLen _ => .ok (alike.push _ _)

theorem UdpGROTable.lookupOrInsert_alike {table table' : UdpGROTable} (alike : table.Alike table')
    (pkt : List UInt8) (src dst udph i : Nat) :
    Related SameAnswer (table.lookupOrInsert pkt src dst udph i)
      (table'.lookupOrInsert pkt src dst udph i) := by
  unfold UdpGROTable.lookupOrInsert
  refine .bind_same fun key _ => ?_
  rw [← alike.sameFlows]
  split
  · exact .ok ⟨rfl, alike⟩
  · exact .bind (insert_alike alike ..) fun _ _ inserted => .ok ⟨rfl, inserted⟩

def SameGro {κ ι : Type} [DecidableEq κ]
    (answer answer' : GroResult × List ExpandBuffer × FlowTable κ ι) : Prop :=
  answer.1 = answer'.1 ∧ SameAnswer answer.2 answer'.2

theorem tcpGro_alike {table table' : TcpGROTable} (alike : table.Alike table')
    (bufs : List ExpandBuffer) (offset i : Nat) (isV6 : Bool) :
    Related SameGro (tcpGro bufs offset i table isV6) (tcpGro bufs offset i table' isV6) := by
  unfold tcpGro
  refine .bind_same fun pkt _ => .bind_same fun segment _ => ?_
  cases segment with
  | none => exact .ok ⟨rfl, rfl, alike⟩
  | some segment =>
    refine .bind (TcpGROTable.lookupOrInsert_alike alike ..) ?_
    rintro ⟨found, after⟩ ⟨_, after'⟩ ⟨rfl, following⟩
    cases found with
    | none => exact .ok ⟨rfl, rfl, following⟩
    | some flow =>
      refine .bind_same fun scan _ => ?_
      cases scan with
      | coalesced items bufs => exact .ok ⟨rfl, rfl, following.store _ _⟩
      | rejected items bufs => exact .ok ⟨rfl, rfl, following.store _ _⟩
      | exhausted items bufs =>
        exact .bind (TcpGROTable.insert_alike (following.store _ _) ..)
          fun _ _ inserted => .ok ⟨rfl, rfl, inserted⟩

theorem insertUdpPacket_alike {table table' : UdpGROTable} (alike : table.Alike table')
    (bufs : List ExpandBuffer) (offset i iphLen : Nat) (isV6 cSumKnownInvalid : Bool) :
    Related SameGro (insertUdpPacket bufs offset i table iphLen isV6 cSumKnownInvalid)
      (insertUdpPacket bufs offset i table' iphLen isV6 cSumKnownInvalid) := by
  unfold insertUdpPacket
  refine .bind_same fun pkt _ => ?_
  exact .bind (UdpGROTable.insert_alike alike ..) fun _ _ inserted => .ok ⟨rfl, rfl, inserted⟩

theorem udpGro_alike {table table' : UdpGROTable} (alike : table.Alike table')
    (bufs : List ExpandBuffer) (offset i : Nat) (isV6 : Bool) :
    Related SameGro (udpGro bufs offset i table isV6) (udpGro bufs offset i table' isV6) := by
  unfold udpGro
  refine .bind_same fun pkt _ => .bind_same fun datagram _ => ?_
  cases datagram with
  | none => exact .ok ⟨rfl, rfl, alike⟩
  | some datagram =>
    refine .bind (UdpGROTable.lookupOrInsert_alike alike ..) ?_
    rintro ⟨found, after⟩ ⟨_, after'⟩ ⟨rfl, following⟩
    cases found with
    | none => exact .ok ⟨rfl, rfl, following⟩
    | some flow =>
      refine .bind_same fun last _ => .bind_same fun item _ => .bind_same fun can _ => ?_
      split
      · refine .bind_same fun joined _ => ?_
        obtain ⟨result, item, bufs⟩ := joined
        simp only []
        split
        · exact .ok ⟨rfl, rfl, following.store _ _⟩
        · exact insertUdpPacket_alike (following.store _ _) ..
      · exact insertUdpPacket_alike following ..

/-! ## The loop -/

structure GroState.Alike (s s' : GroState) : Prop where
  bufs : s.bufs = s'.bufs
  toWrite : s.toWrite = s'.toWrite
  tcp : s.tcpTable.Alike s'.tcpTable
  udp : s.udpTable.Alike s'.udpTable

def SameOutcome {α : Type} (outcome outcome' : α × GroState) : Prop :=
  outcome.1 = outcome'.1 ∧ outcome.2.Alike outcome'.2

def SameResult {α : Type} (outcome outcome' : GroState × α) : Prop :=
  outcome.1.Alike outcome'.1 ∧ outcome.2 = outcome'.2

section Loop

variable {s s' : GroState} {host host' : Host}

theorem groDispatch_alike (alike : s.Alike s') (offset i : Nat) (candidate : GroCandidateType) :
    Related SameOutcome (groDispatch offset i s candidate) (groDispatch offset i s' candidate) := by
  obtain ⟨bufs, tcpTable, udpTable, toWrite⟩ := s
  obtain ⟨_, tcpTable', udpTable', _⟩ := s'
  obtain ⟨rfl, rfl, tcp, udp⟩ := alike
  have viaTcp (isV6 : Bool) := tcpGro_alike tcp bufs offset i isV6
  have viaUdp (isV6 : Bool) := udpGro_alike udp bufs offset i isV6
  cases candidate with
  | notGRO => exact .ok ⟨rfl, rfl, rfl, tcp, udp⟩
  | tcp4GRO | tcp6GRO =>
    refine .bind (viaTcp _) ?_
    rintro ⟨result, after, table⟩ ⟨_, _, table'⟩ ⟨rfl, rfl, following⟩
    exact .ok ⟨rfl, rfl, rfl, following, udp⟩
  | udp4GRO | udp6GRO =>
    refine .bind (viaUdp _) ?_
    rintro ⟨result, after, table⟩ ⟨_, _, table'⟩ ⟨rfl, rfl, following⟩
    exact .ok ⟨rfl, rfl, rfl, tcp, following⟩

theorem encodeAt_congr (sameOrder : host.bigEndian = host'.bigEndian) :
    encodeAt host = encodeAt host' := by
  funext hdr buf start stop
  rw [encodeAt, encodeAt, sameOrder]

theorem groStep_alike (alike : s.Alike s') (sameOrder : host.bigEndian = host'.bigEndian)
    (offset : Nat) (canUdpGro : Bool) (i : Nat) :
    Related SameResult (groStep host offset canUdpGro i s) (groStep host' offset canUdpGro i s') := by
  unfold groStep
  rw [encodeAt_congr sameOrder, alike.bufs]
  refine .bind_same fun buf _ => ?_
  split
  · exact .ok ⟨alike, rfl⟩
  · refine .bind_same fun pkt _ => .bind (groDispatch_alike alike ..) ?_
    rintro ⟨result, after⟩ ⟨_, after'⟩ ⟨rfl, bufs, toWrite, tcp, udp⟩
    cases result with
    | coalesced => exact .ok ⟨⟨bufs, toWrite, tcp, udp⟩, rfl⟩
    | tableInsert =>
      exact .ok ⟨⟨bufs, congrArg (· ++ [i]) toWrite, tcp, udp⟩, rfl⟩
    | noop =>
      replace bufs : after.bufs = after'.bufs := bufs
      simp only [bufs]
      refine .bind_same fun own _ => .bind_same fun start _ => .bind_same fun encoded _ => ?_
      cases encoded with
      | error error => exact .ok ⟨⟨bufs, toWrite, tcp, udp⟩, rfl⟩
      | ok written => exact .ok ⟨⟨rfl, congrArg (· ++ [i]) toWrite, tcp, udp⟩, rfl⟩

theorem groLoop_alike (alike : s.Alike s') (sameOrder : host.bigEndian = host'.bigEndian)
    (offset : Nat) (canUdpGro : Bool) (n : Nat) :
    Related SameResult (groLoop host offset canUdpGro n s) (groLoop host' offset canUdpGro n s') := by
  induction n with
  | zero => exact .ok ⟨alike, rfl⟩
  | succ n ih =>
    refine .bind ih ?_
    rintro ⟨before, outcome⟩ ⟨before', _⟩ ⟨following, rfl⟩
    cases outcome with
    | error error => exact .ok ⟨following, rfl⟩
    | ok => exact groStep_alike following sameOrder offset canUdpGro n

end Loop

/-! ## The order of the accounting does not show -/

section Passes

variable {ι : Type} {bufsIndex : ι → UInt16} {prepare : ι → Run Visit} {items items' : List ι}
  {bufs bufs' : List ExpandBuffer} {outcome : Result Unit}

/-- A visit of the item may panic, but it does not return an error. -/
def Quiet (bufsIndex : ι → UInt16) (prepare : ι → Run Visit) (bufs : List ExpandBuffer)
    (item : ι) : Prop :=
  ∀ visit buf buf' error, prepare item = .ok visit → bufs[(bufsIndex item).toNat]? = some buf →
    visit buf ≠ .ok (buf', .error error)

theorem Quiet.congr {item : ι} (quiet : Quiet bufsIndex prepare bufs item)
    (same : bufs'[(bufsIndex item).toNat]? = bufs[(bufsIndex item).toNat]?) :
    Quiet bufsIndex prepare bufs' item := fun visit buf buf' error prepared found =>
  quiet visit buf buf' error prepared (same ▸ found)

theorem accountItems_quiet (distinct : (items.map fun item => (bufsIndex item).toNat).Nodup)
    (quiet : ∀ item ∈ items, Quiet bufsIndex prepare bufs item)
    (ran : accountItems bufsIndex prepare items bufs = .ok (bufs', outcome)) :
    outcome = .ok () := by
  induction items generalizing bufs with
  | nil => exact (Prod.mk.inj (Except.ok.inj ran)).2.symm
  | cons item rest ih =>
    obtain ⟨apart, distinct⟩ := List.nodup_cons.mp distinct
    obtain ⟨here, later⟩ := List.forall_mem_cons.mp quiet
    obtain ⟨⟨between, ended⟩, first, ran⟩ := Run.bind_eq_ok.mp ran
    obtain ⟨visit, buf, buf', prepared, found, visited, rfl⟩ := accountItem_ok_iff.mp first
    cases ended with
    | error error => exact absurd visited (here visit buf buf' error prepared found)
    | ok _ =>
      refine ih distinct (fun other member => (later other member).congr ?_) ran
      exact List.getElem?_set_ne fun same => apart (List.mem_map.mpr ⟨other, member, same.symm⟩)

/-- A pass that was not finished yet has visited its front, and nothing else. -/
theorem accountItems_front {front later : List ι}
    (distinct : ((front ++ later).map fun item => (bufsIndex item).toNat).Nodup)
    (quiet : ∀ item ∈ front ++ later, Quiet bufsIndex prepare bufs item)
    (ran : accountItems bufsIndex prepare front bufs = .ok (bufs', outcome)) :
    (∀ k, (∀ item ∈ front, (bufsIndex item).toNat ≠ k) → bufs'[k]? = bufs[k]?) ∧
      ∀ item ∈ front, Visited bufsIndex prepare bufs bufs' item := by
  rw [List.map_append] at distinct
  have few := (List.nodup_append.mp distinct).1
  obtain rfl := accountItems_quiet few
    (fun item member => quiet item (List.mem_append_left later member)) ran
  exact (accountItems_ok few ran).2

/-- Over items with different buffers, a pass that succeeds does so in every order. -/
theorem accountItems_reorder (perm : items.Perm items')
    (distinct : (items.map fun item => (bufsIndex item).toNat).Nodup)
    (ran : accountItems bufsIndex prepare items bufs = .ok (bufs', .ok ())) :
    accountItems bufsIndex prepare items' bufs = .ok (bufs', .ok ()) := by
  have distinct' := (perm.map _).nodup_iff.mp distinct
  obtain ⟨-, others, visited⟩ := accountItems_ok distinct ran
  obtain ⟨after, ran'⟩ := accountItems_total bufs distinct' fun item member => by
    obtain ⟨visit, buf, buf', prepared, was, -, step⟩ := visited item (perm.mem_iff.mpr member)
    exact ⟨visit, buf, buf', prepared, was, step⟩
  obtain ⟨-, others', visited'⟩ := accountItems_ok distinct' ran'
  have same : after = bufs' := by
    apply List.ext_getElem?
    intro k
    by_cases hit : ∃ item ∈ items, (bufsIndex item).toNat = k
    · obtain ⟨item, member, rfl⟩ := hit
      obtain ⟨visit, buf, buf', prepared, was, is, step⟩ := visited item member
      obtain ⟨again, old, new, preparedAgain, old_eq, new_eq, stepAgain⟩ :=
        visited' item (perm.mem_iff.mp member)
      obtain rfl := Except.ok.inj (prepared.symm.trans preparedAgain)
      obtain rfl := Option.some.inj (was.symm.trans old_eq)
      rw [new_eq, is, (Prod.mk.inj (Except.ok.inj (step.symm.trans stepAgain))).1]
    · push Not at hit
      rw [others k hit, others' k fun item member => hit item (perm.mem_iff.mpr member)]
  rw [ran', same]

theorem accountItems_perm (perm : items.Perm items')
    (distinct : (items.map fun item => (bufsIndex item).toNat).Nodup)
    (quiet : ∀ item ∈ items, Quiet bufsIndex prepare bufs item) :
    (accountItems bufsIndex prepare items bufs).toOption =
      (accountItems bufsIndex prepare items' bufs).toOption := by
  have distinct' := (perm.map _).nodup_iff.mp distinct
  have quiet' : ∀ item ∈ items', Quiet bufsIndex prepare bufs item :=
    fun item member => quiet item (perm.mem_iff.mpr member)
  ext ⟨after, outcome⟩
  rw [Run.toOption_eq_some, Run.toOption_eq_some]
  constructor
  · intro ran
    obtain rfl := accountItems_quiet distinct quiet ran
    exact accountItems_reorder perm distinct ran
  · intro ran
    obtain rfl := accountItems_quiet distinct' quiet' ran
    exact accountItems_reorder perm.symm distinct' ran

end Passes

section Visits

variable {host : Host} {offset : Nat} {buf buf' : ExpandBuffer} {error : IoError}

theorem accountSingle_quiet (host : Host) (room : virtioNetHdrLen ≤ offset)
    (fits : offset ≤ buf.bytes.length) :
    accountSingle host offset buf ≠ .ok (buf', .error error) := by
  rw [accountSingle_ok host room fits]
  intro same
  cases (Prod.mk.inj (Except.ok.inj same)).2

theorem accountMerged_quiet {isV6 : Bool} {iphLen protocol : UInt8} {hdr : VirtioNetHdr}
    (room : virtioNetHdrLen ≤ offset) (fits : offset ≤ buf.bytes.length) :
    accountMerged host offset isV6 iphLen protocol hdr buf ≠ .ok (buf', .error error) := by
  intro ran
  obtain ⟨pkt, -, ran⟩ := Run.bind_eq_ok.mp ran
  obtain ⟨src, -, ran⟩ := Run.bind_eq_ok.mp ran
  obtain ⟨dst, -, ran⟩ := Run.bind_eq_ok.mp ran
  obtain ⟨ip, ranIp, ran⟩ := Run.bind_eq_ok.mp ran
  have size := (accountIpHeader_framed ranIp (Nat.le_refl (offset + 12))).size
  obtain ⟨encoded, ranHeader, -⟩ := encodeAt_packet host hdr ip room (by omega)
  rw [subLen_ok room, Run.ok_bind, ranHeader, Run.ok_bind] at ran
  obtain ⟨udp, -, ran⟩ := Run.bind_eq_ok.mp ran
  obtain ⟨transportLen, -, ran⟩ := Run.bind_eq_ok.mp ran
  obtain ⟨psum, -, ran⟩ := Run.bind_eq_ok.mp ran
  obtain ⟨csum, -, ran⟩ := Run.bind_eq_ok.mp ran
  obtain ⟨csumAt, -, ran⟩ := Run.bind_eq_ok.mp ran
  obtain ⟨last, -, same⟩ := Run.bind_eq_ok.mp ran
  cases (Prod.mk.inj (Except.ok.inj same)).2

theorem TcpGROItem.visit_quiet {item : TcpGROItem} {visit : Visit}
    (prepared : item.visit host offset = .ok visit) (room : virtioNetHdrLen ≤ offset)
    (fits : offset ≤ buf.bytes.length) : visit buf ≠ .ok (buf', .error error) := by
  unfold TcpGROItem.visit at prepared
  split at prepared
  · obtain ⟨hdrLen, -, same⟩ := Run.bind_eq_ok.mp prepared
    rw [← Except.ok.inj same]
    exact accountMerged_quiet room fits
  · rw [← Except.ok.inj prepared]
    exact accountSingle_quiet host room fits

theorem UdpGROItem.visit_quiet {item : UdpGROItem} {visit : Visit}
    (prepared : item.visit host offset = .ok visit) (room : virtioNetHdrLen ≤ offset)
    (fits : offset ≤ buf.bytes.length) : visit buf ≠ .ok (buf', .error error) := by
  unfold UdpGROItem.visit at prepared
  split at prepared
  · obtain ⟨hdrLen, -, same⟩ := Run.bind_eq_ok.mp prepared
    rw [← Except.ok.inj same]
    exact accountMerged_quiet room fits
  · rw [← Except.ok.inj prepared]
    exact accountSingle_quiet host room fits

end Visits

/-! ## Whole calls -/

/-- What the caller gets back: the buffers, the index list and the result. -/
def observed (run : Run (GroState × Result Unit)) :
    Option (List ExpandBuffer × List Nat × Result Unit) :=
  run.toOption.map fun (s, outcome) => (s.bufs, s.toWrite, outcome)

section Call

variable {host host' : Host} {offset n : Nat} {canUdpGro : Bool} {s s' : GroState}

theorem FlowTable.Alike.values_perm {κ ι : Type} [DecidableEq κ] {table table' : FlowTable κ ι}
    (alike : table.Alike table') (order order' : HashOrder ι) :
    (table.values order).Perm (table'.values order') := by
  have first := FlowTable.values_perm order table
  rw [alike.liveItems] at first
  exact first.trans (FlowTable.values_perm order' table').symm

theorem accountMerged_congr (sameOrder : host.bigEndian = host'.bigEndian) :
    accountMerged host = accountMerged host' := by
  funext offset isV6 iphLen protocol hdr buf
  simp only [accountMerged, encodeAt_congr sameOrder]

theorem accountSingle_congr (sameOrder : host.bigEndian = host'.bigEndian) :
    accountSingle host = accountSingle host' := by
  funext offset buf
  simp only [accountSingle, encodeAt_congr sameOrder]

theorem TcpGROItem.visit_congr (sameOrder : host.bigEndian = host'.bigEndian) :
    TcpGROItem.visit host = TcpGROItem.visit host' := by
  funext offset item
  simp only [TcpGROItem.visit, accountMerged_congr sameOrder, accountSingle_congr sameOrder]

theorem UdpGROItem.visit_congr (sameOrder : host.bigEndian = host'.bigEndian) :
    UdpGROItem.visit host = UdpGROItem.visit host' := by
  funext offset item
  simp only [UdpGROItem.visit, accountMerged_congr sameOrder, accountSingle_congr sameOrder]

structure QuietItems (host : Host) (offset : Nat) (s : GroState) : Prop where
  distinct : (liveIndices s).Nodup
  tcp : ∀ item ∈ s.tcpTable.liveItems,
    Quiet TcpGROItem.bufsIndex (TcpGROItem.visit host offset) s.bufs item
  udp : ∀ item ∈ s.udpTable.liveItems,
    Quiet UdpGROItem.bufsIndex (UdpGROItem.visit host offset) s.bufs item

namespace QuietItems

variable {between : List ExpandBuffer} {outcome : Result Unit}

theorem tcp_values (quiet : QuietItems host offset s) :
    ∀ item ∈ s.tcpTable.values host.tcpOrder,
      Quiet TcpGROItem.bufsIndex (TcpGROItem.visit host offset) s.bufs item := fun item member =>
  quiet.tcp item ((FlowTable.values_perm host.tcpOrder s.tcpTable).mem_iff.mp member)

theorem tcp_outcome (quiet : QuietItems host offset s)
    (ran : applyTcpCoalesceAccounting host s.bufs offset s.tcpTable = .ok (between, outcome)) :
    outcome = .ok () :=
  accountItems_quiet (nodup_values host quiet.distinct).1 quiet.tcp_values ran

theorem udp_values (quiet : QuietItems host offset s)
    (ran : applyTcpCoalesceAccounting host s.bufs offset s.tcpTable = .ok (between, outcome)) :
    ∀ item ∈ s.udpTable.values host.udpOrder,
      Quiet UdpGROItem.bufsIndex (UdpGROItem.visit host offset) between item := by
  intro item member
  obtain rfl := quiet.tcp_outcome ran
  obtain ⟨-, -, apart⟩ := List.nodup_append.mp quiet.distinct
  obtain ⟨-, others, -⟩ := accountItems_ok (nodup_values host quiet.distinct).1 ran
  have live := (FlowTable.values_perm host.udpOrder s.udpTable).mem_iff.mp member
  refine (quiet.udp item live).congr (others _ fun other found same => ?_)
  have earlier := (FlowTable.values_perm host.tcpOrder s.tcpTable).mem_iff.mp found
  exact apart _ (List.mem_map_of_mem earlier) _ (List.mem_map_of_mem live) same

end QuietItems

theorem GroInv.quiet {input : List ExpandBuffer} {groups : Grouping} (host : Host)
    (inv : GroInv input offset canUdpGro n s groups) (valid : ValidBatch input offset n)
    (inside : n ≤ input.length) : QuietItems host offset s := by
  have room : ∀ k ∈ groups.heads, virtioNetHdrLen ≤ offset := fun k member => by
    have small := inv.batch.partition.bound k member
    exact (valid.room k _ small (List.getElem?_eq_getElem (by omega))).1
  constructor
  case distinct => exact inv.distinct
  case tcp =>
    intro item live visit buf buf' error prepared found
    obtain ⟨known, _, here, holds⟩ := inv.tcpHolds live
    obtain rfl := Option.some.inj (found.symm.trans here)
    exact TcpGROItem.visit_quiet prepared (room _ known) holds.offset_le
  case udp =>
    intro item live visit buf buf' error prepared found
    obtain ⟨known, _, here, holds⟩ := inv.udpHolds live
    obtain rfl := Option.some.inj (found.symm.trans here)
    exact UdpGROItem.visit_quiet prepared (room _ known) holds.offset_le

theorem GroInv.accounting_outcome {input : List ExpandBuffer} {groups : Grouping}
    {outcome : Result Unit} {after : GroState}
    (inv : GroInv input offset canUdpGro n s groups) (valid : ValidBatch input offset n)
    (inside : n ≤ input.length) (ran : groAccounting host offset s = .ok (after, outcome)) :
    outcome = .ok () := by
  have quiet := inv.quiet host valid inside
  obtain ⟨⟨between, errTcp⟩, ranTcp, ran⟩ := Run.bind_eq_ok.mp ran
  obtain ⟨⟨last, errUdp⟩, ranUdp, ran⟩ := Run.bind_eq_ok.mp ran
  obtain ⟨-, rfl⟩ := Prod.mk.inj (Except.ok.inj ran)
  obtain rfl := quiet.tcp_outcome ranTcp
  obtain rfl := accountItems_quiet (nodup_values host quiet.distinct).2 (quiet.udp_values ranTcp)
    ranUdp
  rfl

theorem groAccounting_observed (alike : s.Alike s') (sameOrder : host.bigEndian = host'.bigEndian)
    (quiet : QuietItems host offset s) :
    observed (groAccounting host offset s) = observed (groAccounting host' offset s') := by
  obtain ⟨nodupTcp, nodupUdp⟩ := nodup_values host quiet.distinct
  have passTcp : (applyTcpCoalesceAccounting host s.bufs offset s.tcpTable).toOption =
      (applyTcpCoalesceAccounting host' s'.bufs offset s'.tcpTable).toOption := by
    rw [applyTcpCoalesceAccounting, applyTcpCoalesceAccounting, ← alike.bufs,
      ← TcpGROItem.visit_congr sameOrder]
    exact accountItems_perm (alike.tcp.values_perm ..) nodupTcp quiet.tcp_values
  rw [observed, observed, groAccounting, groAccounting, Run.toOption_bind, Run.toOption_bind,
    ← passTcp]
  cases ranTcp : applyTcpCoalesceAccounting host s.bufs offset s.tcpTable with
  | error panic => simp only [Run.toOption_error, Option.bind_none]
  | ok first =>
    obtain ⟨between, errTcp⟩ := first
    obtain rfl := quiet.tcp_outcome ranTcp
    have passUdp : (applyUdpCoalesceAccounting host between offset s.udpTable).toOption =
        (applyUdpCoalesceAccounting host' between offset s'.udpTable).toOption := by
      rw [applyUdpCoalesceAccounting, applyUdpCoalesceAccounting,
        ← UdpGROItem.visit_congr sameOrder]
      exact accountItems_perm (alike.udp.values_perm ..) nodupUdp (quiet.udp_values ranTcp)
    simp only [Run.toOption_ok, Option.bind_some]
    rw [Run.toOption_bind, Run.toOption_bind, ← passUdp]
    cases applyUdpCoalesceAccounting host between offset s.udpTable with
    | error panic => simp only [Run.toOption_error, Option.bind_none]
    | ok second =>
      simp only [Run.toOption_ok, Option.bind_some, Run.pure_eq_ok, Option.map_some,
        alike.toWrite]

theorem handleGro_observed (fresh : FreshState s) (alike : s.Alike s')
    (sameOrder : host.bigEndian = host'.bigEndian) (offset : Nat) (canUdpGro : Bool) :
    observed (handleGro host offset canUdpGro s) =
      observed (handleGro host' offset canUdpGro s') := by
  rw [handleGro, handleGro, ← alike.bufs]
  by_cases many : s.bufs.length > 65535
  · rw [if_pos many, if_pos many]
    simp only [observed, Run.pure_eq_ok, Run.toOption_ok, Option.map_some, alike.bufs,
      alike.toWrite]
  · rw [if_neg many, if_neg many]
    have loops := groLoop_alike alike sameOrder offset canUdpGro s.bufs.length
    have ending := groLoop_ending host offset canUdpGro fresh (by omega) le_rfl
    revert loops ending
    rcases groLoop host offset canUdpGro s.bufs.length s with panic | ⟨final, outcome⟩
    · intro loops ending
      cases ending
    · intro loops ending
      obtain ⟨⟨final', _⟩, ran', following, rfl⟩ := loops.ok_left rfl
      rw [ran']
      cases ending with
      | stopped inv =>
        replace following : final.Alike final' := following
        simp only [Run.ok_bind, invalidInput, observed, Run.pure_eq_ok, Run.toOption_ok,
          Option.map_some, following.bufs, following.toWrite]
      | completed valid inv =>
        exact groAccounting_observed following sameOrder (inv.quiet host valid le_rfl)

theorem FreshState.alike (fresh : FreshState s) (fresh' : FreshState s')
    (same : s.bufs = s'.bufs) : s.Alike s' where
  bufs := same
  toWrite := fresh.toWrite.trans fresh'.toWrite.symm
  tcp := fresh.tcp.alike fresh'.tcp
  udp := fresh.udp.alike fresh'.udp

/-- Earlier calls do not show, nor do the orders in which the hash maps yield their items. -/
theorem applyGro_reused {table table' : GROTable} (reached : groTableMachine.Reachable table)
    (reached' : groTableMachine.Reachable table') (host host' : Host)
    (sameOrder : host.bigEndian = host'.bigEndian) (bufs : List ExpandBuffer) (offset : Nat) (canUdpGro : Bool) :
    observed (table.applyGro host bufs offset canUdpGro) =
        observed (table'.applyGro host' bufs offset canUdpGro) ∧
      observed (table.applyGro host bufs offset canUdpGro) =
        observed (GROTable.new.applyGro host' bufs offset canUdpGro) ∧
      table.PoolsEmpty := by
  have pools := reachable_poolsEmpty reached
  have fresh := pools.fresh bufs
  have likeNew : ∀ {other : GROTable}, other.PoolsEmpty →
      observed (table.applyGro host bufs offset canUdpGro) =
        observed (other.applyGro host' bufs offset canUdpGro) := fun otherPools =>
    handleGro_observed fresh (fresh.alike (otherPools.fresh bufs) rfl) sameOrder offset canUdpGro
  exact ⟨likeNew (reachable_poolsEmpty reached'), likeNew GROTable.new_poolsEmpty, pools⟩

end Call

def backwardHost : Host where
  bigEndian := false
  tcpOrder := ⟨List.reverse, List.reverse_perm⟩
  udpOrder := ⟨List.reverse, List.reverse_perm⟩

theorem applyGro_reused_datagrams : ∃ used,
    groTableMachine.step GROTable.new
        (.applyGro plainHost (batchOf 200 twoDatagrams).bufs 10 true) = some used ∧
      observed (used.applyGro plainHost (batchOf 200 swappedSegments).bufs 10 true) =
        observed (GROTable.new.applyGro backwardHost (batchOf 200 swappedSegments).bufs 10 true) ∧
      used.PoolsEmpty := by
  have stepped : (groTableMachine.step GROTable.new
      (.applyGro plainHost (batchOf 200 twoDatagrams).bufs 10 true)).isSome = true := by
    decide +kernel
  obtain ⟨used, found⟩ := Option.isSome_iff_exists.mp stepped
  obtain ⟨-, likeNew, pools⟩ := applyGro_reused (.next .start trivial found) .start plainHost
    backwardHost rfl (batchOf 200 swappedSegments).bufs 10 true
  exact ⟨used, found, likeNew, pools⟩

end QuincyTun.Linux
