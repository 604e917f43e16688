import QuincyTun.Foundation.Touched
import QuincyTun.Linux.GroRun

/-! The buffers whose offload headers an iteration of the loop empties.

Apart from joins this is all that an iteration does to the buffers: a packet that
is passed on gets an empty header, and so does the packet of an item that is given up.
-/

set_option autoImplicit false

namespace QuincyTun.Linux

open QuincyTun.Foundation

/-! ## Predictions -/

/-- The packet continues the item and there is room for both; the checksums are not looked at. -/
def tcpFits (offset : Nat) (bufs : List ExpandBuffer) (pkt : List UInt8) (pktI : Nat)
    (segment : TcpSegment) (item : TcpGROItem) : Bool :=
  let head := item.bufsIndex.toNat
  let headersLen := item.iphLen.toNat + item.tcphLen.toNat
  match tcpPacketsCanCoalesce pkt (UInt8.ofNat segment.iphLen) (UInt8.ofNat segment.tcphLen)
      segment.seq segment.pshSet segment.gsoSize item bufs offset with
  | .ok .append => decide (RoomFor offset bufs head head pkt headersLen)
  | .ok .prepend => decide (RoomFor offset bufs pktI head pkt headersLen)
  | _ => false

/-- The loop over the items of a flow, asked in the order given, when none takes the packet. -/
def flowClears (offset : Nat) (bufs : List ExpandBuffer) (pkt : List UInt8) (pktI : Nat)
    (segment : TcpSegment) (isV6 : Bool) : List TcpGROItem → List Nat
  | [] => []
  | item :: rest =>
    if tcpFits offset bufs pkt pktI segment item = false then
      flowClears offset bufs pkt pktI segment isV6 rest
    else if itemChecksumInvalid item.numMerged false bufs item.bufsIndex offset item.iphLen
        ipProtoTcp isV6 = .ok true then
      item.bufsIndex.toNat :: flowClears offset bufs pkt pktI segment isV6 rest
    else [pktI]

def tcpClears (offset : Nat) (bufs : List ExpandBuffer) (pkt : List UInt8) (pktI : Nat)
    (table : TcpGROTable) (isV6 : Bool) : List Nat :=
  match parseTcp pkt isV6, table.itemsByFlow.lookup (tcpKeyOf isV6 pkt) with
  | .ok (some segment), some items => flowClears offset bufs pkt pktI segment isV6 items.reverse
  | .ok (some _), none => []
  | _, _ => [pktI]

/-- A datagram is passed on only when it is none for the table. -/
def udpClears (pkt : List UInt8) (pktI : Nat) (isV6 : Bool) : List Nat :=
  match parseUdp pkt isV6 with
  | .ok (some _) => []
  | _ => [pktI]

/-- The buffers whose headers iteration `i` empties, when its packet joins no group. -/
def groClears (offset : Nat) (canUdpGro : Bool) (i : Nat) (s : GroState) : List Nat :=
  let pkt := packetAt offset s.bufs i
  match packetIsGroCandidate pkt canUdpGro with
  | .tcp4GRO => tcpClears offset s.bufs pkt i s.tcpTable false
  | .tcp6GRO => tcpClears offset s.bufs pkt i s.tcpTable true
  | .udp4GRO => udpClears pkt i false
  | .udp6GRO => udpClears pkt i true
  | .notGRO => [i]

/-! ## Items -/

section Item

variable {bufs bufs' : List ExpandBuffer} {offset n : Nat} {pkt target : List UInt8}
  {segment : TcpSegment} {isV6 pshSet : Bool} {item item' : TcpGROItem} {can : CanCoalesce}

theorem packetFrom_eq_ok {i : Nat} (read : packetFrom bufs i offset = .ok target) :
    packetAt offset bufs i = target := by
  obtain ⟨buf, here, behind⟩ := Run.bind_eq_ok.mp read
  rw [packetAt_of_getElem? (index_eq_ok.mp here)]
  unfold sliceFrom at behind
  split at behind
  · exact Except.ok.inj behind
  · cases behind

theorem capacityFrom_eq_ok {i capacity : Nat} (read : capacityFrom bufs i = .ok capacity) :
    capacityAt bufs i = capacity := by
  obtain ⟨buf, here, same⟩ := Run.bind_eq_ok.mp read
  rw [capacityAt_of_getElem? (index_eq_ok.mp here)]
  exact Except.ok.inj same

theorem tcpAdjacency_prepend {iphLen tcphLen : UInt8} {seq : UInt32} {gsoSize : UInt16}
    (ran : tcpAdjacency iphLen tcphLen seq pshSet gsoSize item target = .ok .prepend) :
    pshSet = false := by
  unfold tcpAdjacency at ran
  dsimp only at ran
  split at ran
  case isTrue behind =>
    split at ran
    · cases ran
    · obtain ⟨payload, -, ran⟩ := Run.bind_eq_ok.mp ran
      obtain ⟨tail, -, ran⟩ := Run.bind_eq_ok.mp ran
      split at ran
      · cases ran
      · split at ran <;> cases ran
  case isFalse =>
    split at ran
    case isTrue inFront =>
      split at ran
      case isTrue => cases ran
      case isFalse noPsh => exact Bool.eq_false_iff.mpr noPsh
    case isFalse => cases ran

theorem tcpPacketsCanCoalesce_prepend {iphLen tcphLen : UInt8} {seq : UInt32} {gsoSize : UInt16}
    (ran : tcpPacketsCanCoalesce pkt iphLen tcphLen seq pshSet gsoSize item bufs offset =
      .ok .prepend) : pshSet = false := by
  obtain ⟨target, -, ran⟩ := Run.bind_eq_ok.mp ran
  split at ran
  · cases ran
  · obtain ⟨sameOptions, -, ran⟩ := Run.bind_eq_ok.mp ran
    split at ran
    · cases ran
    · split at ran
      · cases ran
      · exact tcpAdjacency_prepend ran

/-- What `coalesceTcpPackets` answers without joining, and that it then changes nothing. -/
inductive TcpAnswer (offset n : Nat) (bufs : List ExpandBuffer) (pkt : List UInt8)
    (segment : TcpSegment) (isV6 : Bool) (item : TcpGROItem) :
    CoalesceResult × TcpGROItem × List ExpandBuffer → Prop
  | insufficientCap (fits : tcpFits offset bufs pkt n segment item = false) :
      TcpAnswer offset n bufs pkt segment isV6 item (.insufficientCap, item, bufs)
  | itemInvalidCSum (fits : tcpFits offset bufs pkt n segment item = true)
      (invalid : itemChecksumInvalid item.numMerged false bufs item.bufsIndex offset item.iphLen
        ipProtoTcp isV6 = .ok true) :
      TcpAnswer offset n bufs pkt segment isV6 item (.itemInvalidCSum, item, bufs)
  | pktInvalidCSum (fits : tcpFits offset bufs pkt n segment item = true)
      (sound : itemChecksumInvalid item.numMerged false bufs item.bufsIndex offset item.iphLen
        ipProtoTcp isV6 = .ok false) :
      TcpAnswer offset n bufs pkt segment isV6 item (.pktInvalidCSum, item, bufs)
  | success (item' : TcpGROItem) (bufs' : List ExpandBuffer) :
      TcpAnswer offset n bufs pkt segment isV6 item (.success, item', bufs')

theorem coalesceTcpPackets_answer {answer : CoalesceResult × TcpGROItem × List ExpandBuffer}
    (available : can ≠ .unavailable)
    (canEq : tcpPacketsCanCoalesce pkt (UInt8.ofNat segment.iphLen) (UInt8.ofNat segment.tcphLen)
      segment.seq segment.pshSet segment.gsoSize item bufs offset = .ok can)
    (ran : coalesceTcpPackets can pkt n segment.gsoSize segment.seq segment.pshSet item bufs offset
      isV6 = .ok answer) :
    TcpAnswer offset n bufs pkt segment isV6 item answer := by
  obtain ⟨headersLen, sum, ran⟩ := Run.bind_eq_ok.mp ran
  obtain ⟨target, read, ran⟩ := Run.bind_eq_ok.mp ran
  obtain ⟨coalescedLen, difference, ran⟩ := Run.bind_eq_ok.mp ran
  obtain ⟨capacity, stored, ran⟩ := Run.bind_eq_ok.mp ran
  have headers : headersLen.toNat = item.iphLen.toNat + item.tcphLen.toNat := by
    unfold addU8 at sum
    split at sum
    case isTrue small =>
      rw [← Except.ok.inj sum, UInt8.toNat_add]
      exact Nat.mod_eq_of_lt small
    case isFalse => cases sum
  have joined := (subLen_eq_ok.mp difference).2
  -- Room is the first thing that is tested, and it is that of the buffer which would grow.
  have fitsIff : tcpFits offset bufs pkt n segment item = true ↔
      2 * offset + coalescedLen ≤ capacity := by
    rw [joined, headers, ← packetFrom_eq_ok read, ← capacityFrom_eq_ok stored]
    cases can with
    | unavailable => exact absurd rfl available
    | append => simp only [tcpFits, canEq, decide_eq_true_eq]; rfl
    | prepend => simp only [tcpFits, canEq, decide_eq_true_eq]; rfl
  split at ran
  case isTrue small =>
    rw [← Except.ok.inj ran]
    exact .insufficientCap (Bool.eq_false_iff.mpr fun fits => by have := fitsIff.mp fits; omega)
  case isFalse large =>
  have fits := fitsIff.mpr (Nat.not_lt.mp large)
  split at ran
  case isTrue ending =>
    obtain ⟨rfl, psh⟩ := ending
    rw [tcpPacketsCanCoalesce_prepend canEq] at psh
    cases psh
  case isFalse =>
  obtain ⟨invalid, tested, ran⟩ := Run.bind_eq_ok.mp ran
  cases invalid with
  | true =>
    rw [← Except.ok.inj ran]
    exact .itemInvalidCSum fits tested
  | false =>
    obtain ⟨valid, -, ran⟩ := Run.bind_eq_ok.mp ran
    cases valid with
    | false =>
      rw [← Except.ok.inj ran]
      exact .pktInvalidCSum fits tested
    | true =>
      obtain ⟨⟨joinedItem, joinedBufs⟩, -, ran⟩ := Run.bind_eq_ok.mp ran
      obtain ⟨numMerged, -, ran⟩ := Run.bind_eq_ok.mp ran
      rw [← Except.ok.inj ran]
      exact .success _ _

end Item

/-! ## Emptying headers does not show in the packets -/

section Clear

variable {bufs bufs' : List ExpandBuffer} {offset n : Nat} {pkt : List UInt8}
  {segment : TcpSegment} {isV6 : Bool}

theorem cleared_cleared (offset : Nat) (buf : ExpandBuffer) :
    cleared offset (cleared offset buf) = cleared offset buf := by
  ext1
  · simp only [cleared, ExpandBuffer.bytes_overwritten]
    exact overwrite_overwrite_self ..
  · rfl

/-- Two batches whose buffers differ in front of the packets at most. -/
structure SamePackets (offset : Nat) (bufs bufs' : List ExpandBuffer) : Prop where
  reads : ∀ i, packetFrom bufs' i offset = packetFrom bufs i offset
  packets : ∀ i, packetAt offset bufs' i = packetAt offset bufs i
  capacities : ∀ i, capacityAt bufs' i = capacityAt bufs i

theorem samePackets_modify (room : virtioNetHdrLen ≤ offset) (bufs : List ExpandBuffer) (i : Nat) :
    SamePackets offset bufs (bufs.modify i (cleared offset)) := by
  have here : ∀ j : Nat, (bufs.modify i (cleared offset))[j]? = bufs[j]? ∨
      ∃ buf, bufs[j]? = some buf ∧
        (bufs.modify i (cleared offset))[j]? = some (cleared offset buf) := by
    intro j
    rw [List.getElem?_modify]
    by_cases same : i = j
    · cases found : bufs[j]? with
      | none => exact .inl rfl
      | some buf => exact .inr ⟨buf, rfl, by simp [same]⟩
    · left
      simp [same]
  constructor
  · intro j
    rcases here j with same | ⟨buf, was, is⟩
    · exact packetFrom_congr same
    · rw [packetFrom, packetFrom, index_ok was, index_ok is, Run.ok_bind, Run.ok_bind, sliceFrom,
        sliceFrom, drop_cleared room, cleared, ExpandBuffer.bytes_overwritten, length_overwrite]
  · intro j
    rcases here j with same | ⟨buf, was, is⟩
    · exact packetAt_congr same
    · rw [packetAt_of_getElem? was, packetAt_of_getElem? is, drop_cleared room]
  · intro j
    rcases here j with same | ⟨buf, was, is⟩
    · rw [capacityAt, capacityAt, same]
    · rw [capacityAt_of_getElem? was, capacityAt_of_getElem? is]
      rfl

theorem tcpFits_congr (same : SamePackets offset bufs bufs') (item : TcpGROItem) :
    tcpFits offset bufs' pkt n segment item = tcpFits offset bufs pkt n segment item := by
  have can : ∀ iphLen tcphLen seq pshSet gsoSize,
      tcpPacketsCanCoalesce pkt iphLen tcphLen seq pshSet gsoSize item bufs' offset =
        tcpPacketsCanCoalesce pkt iphLen tcphLen seq pshSet gsoSize item bufs offset := by
    intro iphLen tcphLen seq pshSet gsoSize
    simp only [tcpPacketsCanCoalesce, same.reads]
  have room : ∀ growing headersLen,
      RoomFor offset bufs' growing item.bufsIndex.toNat pkt headersLen =
        RoomFor offset bufs growing item.bufsIndex.toNat pkt headersLen := by
    intro growing headersLen
    simp only [RoomFor, same.packets, same.capacities]
  simp only [tcpFits, can, room]

theorem flowClears_congr (same : SamePackets offset bufs bufs') (items : List TcpGROItem) :
    flowClears offset bufs' pkt n segment isV6 items =
      flowClears offset bufs pkt n segment isV6 items := by
  induction items with
  | nil => rfl
  | cons item rest ih =>
    have invalid : itemChecksumInvalid item.numMerged false bufs' item.bufsIndex offset item.iphLen
        ipProtoTcp isV6 = itemChecksumInvalid item.numMerged false bufs item.bufsIndex offset
          item.iphLen ipProtoTcp isV6 := by
      simp only [itemChecksumInvalid, same.reads]
    simp only [flowClears, tcpFits_congr same, invalid, ih]

theorem zeroVirtioHeader_eq_ok {i : Nat} (ran : zeroVirtioHeader bufs i offset = .ok bufs') :
    bufs' = bufs.modify i (cleared offset) := by
  obtain ⟨start, front, ran⟩ := Run.bind_eq_ok.mp ran
  obtain ⟨buf, here, ran⟩ := Run.bind_eq_ok.mp ran
  obtain ⟨written, wrote, ran⟩ := Run.bind_eq_ok.mp ran
  have found := index_eq_ok.mp here
  have emptied : written = cleared offset buf := by
    rw [ExpandBuffer.write_eq_ok wrote, (subLen_eq_ok.mp front).2]
    rfl
  rw [← Except.ok.inj ran, emptied, List.modify_eq_set_getElem?, found]
  rfl

def ScanClears (offset n : Nat) (bufs : List ExpandBuffer) (positions : List Nat) : TcpScan → Prop
  | .coalesced _ _ => True
  | .exhausted _ bufs' => bufs' = touch (cleared offset) positions bufs
  | .rejected _ bufs' => bufs'.modify n (cleared offset) = touch (cleared offset) positions bufs

theorem scanItems_clears (room : virtioNetHdrLen ≤ offset) (i : Nat) (items : List TcpGROItem)
    (bufs : List ExpandBuffer) {scan : TcpScan}
    (ran : scanItems pkt n segment offset isV6 i items bufs = .ok scan) :
    ScanClears offset n bufs
      (flowClears offset bufs pkt n segment isV6 (items.take i).reverse) scan := by
  induction i generalizing items bufs with
  | zero =>
    obtain rfl := Except.ok.inj ran
    rfl
  | succ i ih =>
    unfold scanItems at ran
    obtain ⟨item, read, ran⟩ := Run.bind_eq_ok.mp ran
    obtain ⟨can, canEq, ran⟩ := Run.bind_eq_ok.mp ran
    obtain ⟨inside, rfl⟩ := List.getElem?_eq_some_iff.mp (index_eq_ok.mp read)
    have order : (items.take (i + 1)).reverse = items[i] :: (items.take i).reverse := by
      rw [List.take_add_one, List.getElem?_eq_getElem inside, Option.toList_some,
        List.reverse_append, List.reverse_singleton, List.singleton_append]
    rw [order, flowClears]
    split at ran
    case isTrue unavailable =>
      subst unavailable
      have fits : tcpFits offset bufs pkt n segment items[i] = false := by
        simp only [tcpFits, canEq]
      rw [if_pos fits]
      exact ih items bufs ran
    case isFalse available =>
    obtain ⟨answer, called, ran⟩ := Run.bind_eq_ok.mp ran
    cases coalesceTcpPackets_answer available canEq called with
    | insufficientCap fits =>
      rw [if_pos fits]
      simp only [List.set_getElem_self] at ran
      exact ih items bufs ran
    | itemInvalidCSum fits invalid =>
      obtain ⟨emptied, zeroed, ran⟩ := Run.bind_eq_ok.mp ran
      -- The items that are still to be asked stay where they are, and so do their answers.
      have front : (items.eraseIdx i).take i = items.take i := by
        rw [List.eraseIdx_eq_take_drop_succ,
          List.take_append_of_le_length (by rw [List.length_take]; omega), List.take_take,
          Nat.min_self]
      rw [zeroVirtioHeader_eq_ok zeroed, List.set_getElem_self] at ran
      have onward := ih _ _ ran
      rw [front, flowClears_congr (samePackets_modify room bufs _)] at onward
      rw [if_neg (by rw [fits]; decide), if_pos invalid]
      cases scan with
      | coalesced => trivial
      | exhausted => exact onward
      | rejected => exact onward
    | pktInvalidCSum fits sound =>
      obtain rfl := Except.ok.inj ran
      rw [if_neg (by rw [fits]; decide), sound, if_neg (by simp)]
      rfl
    | success =>
      obtain rfl := Except.ok.inj ran
      trivial

end Clear

/-! ## Iterations -/

section Step

variable {bufs bufs' : List ExpandBuffer} {offset n : Nat} {own : ExpandBuffer} {isV6 : Bool}
  {result : GroResult}

/-- The dispatched packet that joined nothing emptied the predicted headers; the header of a
packet that is passed on is emptied by the caller. -/
def DispatchClears (offset n : Nat) (positions : List Nat) (bufs bufs' : List ExpandBuffer) :
    GroResult → Prop
  | .coalesced => True
  | .tableInsert => bufs' = touch (cleared offset) positions bufs
  | .noop => bufs'.modify n (cleared offset) = touch (cleared offset) positions bufs

theorem tcpGro_clears {table table' : TcpGROTable} (room : virtioNetHdrLen ≤ offset)
    (here : bufs[n]? = some own) (fits : offset ≤ own.bytes.length)
    (candidate : Candidate isV6 ipProtoTcp (own.bytes.drop offset)) (small : n < 65536)
    (ran : tcpGro bufs offset n table isV6 = .ok (result, bufs', table')) :
    DispatchClears offset n (tcpClears offset bufs (own.bytes.drop offset) n table isV6) bufs bufs'
      result := by
  obtain ⟨found, parsed, ⟨eligible, rfl⟩ | ⟨notEligible, rfl⟩⟩ := parseTcp_spec candidate
  case inr =>
    rw [tcpGro, packetFrom_ok here fits, Run.ok_bind, parsed, Run.ok_bind] at ran
    obtain ⟨rfl, same⟩ := Prod.mk.inj (Except.ok.inj ran)
    obtain ⟨rfl, -⟩ := Prod.mk.inj same
    simp only [tcpClears, parsed]
    rfl
  cases stored : table.itemsByFlow.lookup (tcpKeyOf isV6 (own.bytes.drop offset)) with
  | none =>
    rw [tcpGro_new here fits eligible small stored] at ran
    obtain ⟨rfl, same⟩ := Prod.mk.inj (Except.ok.inj ran)
    obtain ⟨rfl, -⟩ := Prod.mk.inj same
    simp only [tcpClears, parsed, stored]
    rfl
  | some items =>
    unfold tcpGro at ran
    rw [packetFrom_ok here fits, Run.ok_bind, parsed, Run.ok_bind] at ran
    change (TcpGROTable.lookupOrInsert table (own.bytes.drop offset) (srcAddrOffset isV6)
      (srcAddrOffset isV6 + addrLen isV6) (ipHLen isV6)
      (tcpHLen isV6 (own.bytes.drop offset)) n >>= _) = _ at ran
    rw [TcpGROTable.lookupOrInsert_eq table eligible small, Run.ok_bind, stored] at ran
    dsimp only at ran
    obtain ⟨scan, scanned, ran⟩ := Run.bind_eq_ok.mp ran
    have clears := scanItems_clears room items.length items bufs scanned
    rw [List.take_length] at clears
    simp only [tcpClears, parsed, stored]
    cases scan with
    | coalesced items' after =>
      obtain ⟨rfl, -⟩ := Prod.mk.inj (Except.ok.inj ran)
      trivial
    | rejected items' after =>
      obtain ⟨rfl, same⟩ := Prod.mk.inj (Except.ok.inj ran)
      obtain ⟨rfl, -⟩ := Prod.mk.inj same
      exact clears
    | exhausted items' after =>
      -- The insertion that follows changes the table only.
      obtain ⟨inserted, -, ran⟩ := Run.bind_eq_ok.mp ran
      obtain ⟨rfl, same⟩ := Prod.mk.inj (Except.ok.inj ran)
      obtain ⟨rfl, -⟩ := Prod.mk.inj same
      exact clears

theorem coalesceUdpPackets_refused {pkt : List UInt8} {item item' : UdpGROItem}
    {answer : CoalesceResult} (failed : answer ≠ .success)
    (ran : coalesceUdpPackets pkt item bufs offset isV6 = .ok (answer, item', bufs')) :
    bufs' = bufs := by
  obtain ⟨target, -, ran⟩ := Run.bind_eq_ok.mp ran
  obtain ⟨coalescedLen, -, ran⟩ := Run.bind_eq_ok.mp ran
  obtain ⟨capacity, -, ran⟩ := Run.bind_eq_ok.mp ran
  have unchanged : ∀ {other : CoalesceResult},
      (.ok (other, item, bufs) : Run _) = .ok (answer, item', bufs') → bufs' = bufs := by
    intro other same
    exact (Prod.mk.inj (Prod.mk.inj (Except.ok.inj same)).2).2.symm
  split at ran
  · exact unchanged ran
  · obtain ⟨invalid, -, ran⟩ := Run.bind_eq_ok.mp ran
    split at ran
    · exact unchanged ran
    · obtain ⟨valid, -, ran⟩ := Run.bind_eq_ok.mp ran
      split at ran
      · exact unchanged ran
      · obtain ⟨payload, -, ran⟩ := Run.bind_eq_ok.mp ran
        obtain ⟨grown, -, ran⟩ := Run.bind_eq_ok.mp ran
        obtain ⟨numMerged, -, ran⟩ := Run.bind_eq_ok.mp ran
        exact absurd (Prod.mk.inj (Except.ok.inj ran)).1.symm failed

theorem insertUdpPacket_keeps {table table' : UdpGROTable} {iphLen : Nat} {knownInvalid : Bool}
    (ran : insertUdpPacket bufs offset n table iphLen isV6 knownInvalid =
      .ok (result, bufs', table')) : DispatchClears offset n [] bufs bufs' result := by
  obtain ⟨pkt, -, ran⟩ := Run.bind_eq_ok.mp ran
  obtain ⟨inserted, -, ran⟩ := Run.bind_eq_ok.mp ran
  obtain ⟨rfl, same⟩ := Prod.mk.inj (Except.ok.inj ran)
  exact (Prod.mk.inj same).1.symm

theorem udpGro_clears {table table' : UdpGROTable} (here : bufs[n]? = some own)
    (fits : offset ≤ own.bytes.length)
    (ran : udpGro bufs offset n table isV6 = .ok (result, bufs', table')) :
    DispatchClears offset n (udpClears (own.bytes.drop offset) n isV6) bufs bufs' result := by
  unfold udpGro at ran
  rw [packetFrom_ok here fits, Run.ok_bind] at ran
  obtain ⟨found, parsed, ran⟩ := Run.bind_eq_ok.mp ran
  simp only [udpClears, parsed]
  cases found with
  | none =>
    obtain ⟨rfl, same⟩ := Prod.mk.inj (Except.ok.inj ran)
    obtain ⟨rfl, -⟩ := Prod.mk.inj same
    rfl
  | some datagram =>
    obtain ⟨⟨flow, looked⟩, -, ran⟩ := Run.bind_eq_ok.mp ran
    cases flow with
    | none =>
      obtain ⟨rfl, same⟩ := Prod.mk.inj (Except.ok.inj ran)
      obtain ⟨rfl, -⟩ := Prod.mk.inj same
      rfl
    | some flow =>
      obtain ⟨key, items⟩ := flow
      obtain ⟨last, -, ran⟩ := Run.bind_eq_ok.mp ran
      obtain ⟨item, -, ran⟩ := Run.bind_eq_ok.mp ran
      obtain ⟨can, -, ran⟩ := Run.bind_eq_ok.mp ran
      split at ran
      case isFalse unavailable => exact insertUdpPacket_keeps ran
      case isTrue append =>
        obtain ⟨⟨answer, item', after⟩, called, ran⟩ := Run.bind_eq_ok.mp ran
        dsimp only at ran
        split at ran
        case isTrue success =>
          obtain ⟨rfl, -⟩ := Prod.mk.inj (Except.ok.inj ran)
          trivial
        case isFalse failed =>
          rw [coalesceUdpPackets_refused failed called] at ran
          exact insertUdpPacket_keeps ran

section Batch

variable {host : Host} {canUdpGro : Bool} {s s' : GroState} {input : List ExpandBuffer}
  {groups : Grouping}

theorem groDispatch_clears (room : virtioNetHdrLen ≤ offset) (here : s.bufs[n]? = some own)
    (fits : offset ≤ own.bytes.length) (small : n < 65536)
    (ran : groDispatch offset n s (packetIsGroCandidate (own.bytes.drop offset) canUdpGro) =
      .ok (result, s')) :
    DispatchClears offset n (groClears offset canUdpGro n s) s.bufs s'.bufs result := by
  have samePkt := @packetAt_of_getElem? offset _ _ _ here
  have kinds := fun family protocol =>
    (packetIsGroCandidate_kind (own.bytes.drop offset) canUdpGro family protocol).mp
  simp only [groClears, samePkt]
  cases candidate : packetIsGroCandidate (own.bytes.drop offset) canUdpGro with
  | notGRO =>
    rw [candidate] at ran
    obtain ⟨rfl, rfl⟩ := Prod.mk.inj (Except.ok.inj ran)
    rfl
  | tcp4GRO | tcp6GRO =>
    rw [candidate] at ran
    obtain ⟨⟨answer, after, table⟩, called, ran⟩ := Run.bind_eq_ok.mp ran
    obtain ⟨rfl, rfl⟩ := Prod.mk.inj (Except.ok.inj ran)
    exact tcpGro_clears room here fits (kinds _ _ (by rw [candidate]; rfl)).1 small called
  | udp4GRO | udp6GRO =>
    rw [candidate] at ran
    obtain ⟨⟨answer, after, table⟩, called, ran⟩ := Run.bind_eq_ok.mp ran
    obtain ⟨rfl, rfl⟩ := Prod.mk.inj (Except.ok.inj ran)
    exact udpGro_clears here fits called

theorem groStep_clears (valid : ValidBatch input offset (n + 1)) (foundOwn : input[n]? = some own)
    (inv : GroInv input offset canUdpGro n s groups)
    (stands : groMove offset canUdpGro n s = .stand)
    (ran : groStep host offset canUdpGro n s = .ok (s', .ok ())) :
    s'.bufs = touch (cleared offset) (groClears offset canUdpGro n s) s.bufs := by
  have here : s.bufs[n]? = some own := (inv.batch.pending n le_rfl).trans foundOwn
  obtain ⟨room, long⟩ := valid.room n own n.lt_succ_self foundOwn
  have small := valid.index_small foundOwn
  obtain ⟨result, between, dispatched, post⟩ := groDispatch_spec valid foundOwn inv
  have clears := groDispatch_clears room here long.le small dispatched
  unfold groStep at ran
  rw [index_ok here, Run.ok_bind, if_neg (by omega), sliceFrom_ok long.le, Run.ok_bind, dispatched,
    Run.ok_bind] at ran
  cases result with
  | noop =>
    have here' : between.bufs[n]? = some own := (post.step.2.pending n le_rfl).trans foundOwn
    dsimp only at ran
    rw [index_ok here', Run.ok_bind, subLen_ok room, Run.ok_bind,
      encodeAt_default room le_rfl long.le, Run.ok_bind] at ran
    obtain ⟨rfl, -⟩ := Prod.mk.inj (Except.ok.inj ran)
    refine Eq.trans ?_ clears
    rw [List.modify_eq_set_getElem?, here']
    rfl
  | tableInsert =>
    obtain ⟨rfl, -⟩ := Prod.mk.inj (Except.ok.inj ran)
    exact clears
  | coalesced => exact absurd stands post.step.1

end Batch

end Step

end QuincyTun.Linux
