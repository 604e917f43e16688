import QuincyTun.Linux.Moves

/-! One TCP packet in any state of a batch: the step never panics, it makes the
predicted move, and every live item still stands for its group.
-/

set_option autoImplicit false

namespace QuincyTun.Linux

open QuincyTun.Foundation

/-- The first `n` buffers of the batch have room for an offload header and hold a packet. -/
structure ValidBatch (input : List ExpandBuffer) (offset n : Nat) : Prop where
  few : input.length ≤ 65535
  room : ∀ k buf, k < n → input[k]? = some buf →
    virtioNetHdrLen ≤ offset ∧ offset < buf.bytes.length

section ValidBatch

variable {input : List ExpandBuffer} {offset n : Nat} {own : ExpandBuffer}

theorem ValidBatch.zero (few : input.length ≤ 65535) (offset : Nat) :
    ValidBatch input offset 0 :=
  ⟨few, fun k _ small => absurd small (Nat.not_lt_zero k)⟩

theorem ValidBatch.succ (valid : ValidBatch input offset n) (found : input[n]? = some own)
    (room : virtioNetHdrLen ≤ offset ∧ offset < own.bytes.length) :
    ValidBatch input offset (n + 1) := by
  refine ⟨valid.few, fun k buf small here => ?_⟩
  rcases Nat.lt_succ_iff_lt_or_eq.mp small with earlier | rfl
  · exact valid.room k buf earlier here
  · exact Option.some.inj (found.symm.trans here) ▸ room

theorem ValidBatch.index_small (valid : ValidBatch input offset n) {i : Nat}
    (found : input[i]? = some own) : i < 65536 := by
  have inside : i < input.length := (List.getElem?_eq_some_iff.mp found).1
  have few := valid.few
  omega

end ValidBatch

/-- The front packet did not arrive after the last one. -/
def FrontFirst (parts : List Nat) : Prop := parts.headD 0 ≤ parts.getLastD 0

instance (parts : List Nat) : Decidable (FrontFirst parts) := inferInstanceAs (Decidable (_ ≤ _))

theorem frontFirst_concat {parts : List Nat} {n : Nat} (later : ∀ k ∈ parts, k < n) :
    FrontFirst (parts ++ [n]) := by
  rw [FrontFirst, List.getLastD_concat]
  cases parts with
  | nil => exact le_rfl
  | cons first rest => exact (later first List.mem_cons_self).le

theorem not_frontFirst_cons {parts : List Nat} {n : Nat} (later : ∀ k ∈ parts, k < n)
    (nonempty : parts ≠ []) : ¬ FrontFirst (n :: parts) := by
  rw [FrontFirst, List.headD_cons, List.getLastD_cons, List.getLastD_eq_getLast? ,
    List.getLast?_eq_some_getLast nonempty, Option.getD_some, Nat.not_le]
  exact later _ (List.getLast_mem nonempty)

/-- What a live item says about the group of packets `parts` and about its buffer. -/
structure TcpHolds (input : List ExpandBuffer) (offset : Nat) (item : TcpGROItem)
    (parts : List Nat) (buf : ExpandBuffer) : Prop where
  group : TcpGroup (parts.map (packetAt offset input)) item (buf.bytes.drop offset)
  original : item.numMerged = 0 → input[item.bufsIndex.toNat]? = some buf
  /-- The buffer is the one of the first packet, and it was not reallocated. -/
  storage : ∀ first, parts.head? = some first →
    input[first]?.map ExpandBuffer.capacity = some buf.capacity
  /-- The header shows the PSH flag of the item, unless a packet was put in front of it. -/
  flags : tcpFlags item.key.isV6 (buf.bytes.drop offset) =
    if item.pshSet ∧ FrontFirst parts then tcpFlagAck ||| tcpFlagPsh else tcpFlagAck

def tcpSlot (input : List ExpandBuffer) (offset : Nat) (item : TcpGROItem) : Slot where
  index := item.bufsIndex.toNat
  Holds := TcpHolds input offset item

namespace TcpHolds

variable {input : List ExpandBuffer} {offset : Nat} {item : TcpGROItem} {parts : List Nat}
  {buf : ExpandBuffer}

theorem offset_le (holds : TcpHolds input offset item parts buf) : offset ≤ buf.bytes.length := by
  have long := holds.group.headers_lt
  rw [List.length_drop] at long
  omega

theorem length_parts (holds : TcpHolds input offset item parts buf) :
    parts.length = item.numMerged.toNat + 1 := by
  have merged := holds.group.merged
  rwa [List.length_map] at merged

theorem parts_ne_nil (holds : TcpHolds input offset item parts buf) : parts ≠ [] :=
  List.ne_nil_of_length_eq_add_one holds.length_parts

theorem single {isV6 : Bool} {n : Nat} {own : ExpandBuffer} (small : n < 65536)
    (found : input[n]? = some own) (eligible : TcpEligible isV6 (own.bytes.drop offset)) :
    TcpHolds input offset (tcpItemOf isV6 (own.bytes.drop offset) n) [n] own where
  group := by
    rw [List.map_singleton, packetAt_of_getElem? found]
    exact .single n eligible
  original := fun _ => by
    rw [tcpItemOf, UInt16.toNat_ofNat_of_lt' small]
    exact found
  storage := by
    intro first head
    rw [← Option.some.inj head, found]
    rfl
  flags := by
    have order : FrontFirst [n] := le_refl n
    change tcpFlags isV6 _ =
      if (tcpFlags isV6 _ &&& tcpFlagPsh != 0) = true ∧ FrontFirst [n] then _ else _
    simp only [order, and_true]
    rcases eligible.flags with flags | flags <;> rw [flags] <;> decide

variable {n : Nat} {own : ExpandBuffer}

theorem append (holds : TcpHolds input offset item parts buf) (found : input[n]? = some own)
    (eligible : TcpEligible item.key.isV6 (own.bytes.drop offset))
    (key : tcpKeyOf item.key.isV6 (own.bytes.drop offset) = item.key)
    (appends : TcpAppends item.key.isV6 (own.bytes.drop offset) item (buf.bytes.drop offset))
    (verifies : TransportVerifies item.key.isV6 ipProtoTcp (own.bytes.drop offset))
    (opened : item.numMerged = 0 →
      TransportVerifies item.key.isV6 ipProtoTcp (buf.bytes.drop offset))
    (few : item.numMerged.toNat + 1 < 65536) (later : ∀ k ∈ parts, k < n)
    (room : 2 * offset + tcpJoinedLen item.key.isV6 (buf.bytes.drop offset)
      (own.bytes.drop offset) ≤ buf.capacity) :
    TcpHolds input offset
      (item.appended (tcpFlags item.key.isV6 (own.bytes.drop offset) != tcpFlagAck))
      (parts ++ [n]) (tcpGrown item.key.isV6 offset buf (own.bytes.drop offset)) := by
  have long := holds.group.headers_lt
  have minimal := holds.group.headerLen
  have flagsAt : tcpFlagsOffset = 13 := rfl
  have sameHead : (parts ++ [n]).head? = parts.head? := by
    rw [List.head?_append_of_ne_nil _ holds.parts_ne_nil]
  constructor
  case group =>
    rw [List.map_append, List.map_singleton, packetAt_of_getElem? found,
      drop_tcpGrown holds.offset_le]
    exact holds.group.append eligible key appends verifies opened few
  case original => exact fun zero => absurd zero (succ_merged_ne_zero few)
  -- The buffer that grows is still the one of the first packet.
  case storage =>
    intro first head
    rw [sameHead] at head
    rw [holds.storage first head]
    have dropped : (buf.bytes.drop offset).length = buf.bytes.length - offset :=
      List.length_drop ..
    have payload := eligible.payload
    have grows : (tcpPayload item.key.isV6 (own.bytes.drop offset)).length =
        (own.bytes.drop offset).length -
          (ipHLen item.key.isV6 + tcpHLen item.key.isV6 (own.bytes.drop offset)) :=
      List.length_drop ..
    have headers := appends.headerLen
    rw [tcpJoinedLen] at room
    simp only [tcpGrown]
    split
    · rw [ExpandBuffer.capacity_bufExtendFromSlice _ _ (by
        simp only [ExpandBuffer.bytes_overwritten, length_overwrite,
          ExpandBuffer.capacity_overwritten]
        omega), ExpandBuffer.capacity_overwritten]
    · rw [ExpandBuffer.capacity_bufExtendFromSlice _ _ (by omega)]
  -- An item that takes a packet behind it has no PSH yet, so the flag is that of the packet.
  case flags =>
    have before := holds.flags
    rw [if_neg (by simp [appends.noPsh])] at before
    change tcpFlags item.key.isV6 _ = _
    rw [drop_tcpGrown holds.offset_le, tcpFlags_appended (by omega), before]
    simp only [TcpGROItem.appended, appends.noPsh, Bool.false_or, frontFirst_concat later, and_true]

theorem prepend (holds : TcpHolds input offset item parts buf) (found : input[n]? = some own)
    (fits : offset ≤ own.bytes.length)
    (eligible : TcpEligible item.key.isV6 (own.bytes.drop offset))
    (key : tcpKeyOf item.key.isV6 (own.bytes.drop offset) = item.key)
    (prepends : TcpPrepends item.key.isV6 (own.bytes.drop offset) item (buf.bytes.drop offset))
    (verifies : TransportVerifies item.key.isV6 ipProtoTcp (own.bytes.drop offset))
    (opened : item.numMerged = 0 →
      TransportVerifies item.key.isV6 ipProtoTcp (buf.bytes.drop offset))
    (few : item.numMerged.toNat + 1 < 65536) (later : ∀ k ∈ parts, k < n)
    (room : 2 * offset + tcpJoinedLen item.key.isV6 (buf.bytes.drop offset)
      (own.bytes.drop offset) ≤ own.capacity) :
    TcpHolds input offset
      (item.prepended (tcpSeq item.key.isV6 (own.bytes.drop offset))
        (UInt16.ofNat (tcpPayload item.key.isV6 (own.bytes.drop offset)).length))
      (n :: parts)
      (own.bufExtendFromSlice (tcpPayload item.key.isV6 (buf.bytes.drop offset))) := by
  have long := holds.group.headers_lt
  constructor
  case group =>
    rw [List.map_cons, packetAt_of_getElem? found, ExpandBuffer.bytes_bufExtendFromSlice,
      List.drop_append_of_le_length fits]
    exact holds.group.prepend eligible key prepends verifies opened few
  case original => exact fun zero => absurd zero (succ_merged_ne_zero few)
  case storage =>
    intro first head
    have dropped : (own.bytes.drop offset).length = own.bytes.length - offset :=
      List.length_drop ..
    have grows : (tcpPayload item.key.isV6 (buf.bytes.drop offset)).length =
        (buf.bytes.drop offset).length -
          (ipHLen item.key.isV6 + tcpHLen item.key.isV6 (buf.bytes.drop offset)) :=
      List.length_drop ..
    rw [tcpJoinedLen] at room
    have front : n = first := Option.some.inj head
    rw [← front, found, ExpandBuffer.capacity_bufExtendFromSlice _ _ (by omega)]
    rfl
  case flags =>
    have payload := eligible.payload
    have minimal := eligible.headerLen
    have flagsAt : tcpFlagsOffset = 13 := rfl
    rw [if_neg fun front => not_frontFirst_cons later holds.parts_ne_nil front.2, ← prepends.noPsh,
      ExpandBuffer.bytes_bufExtendFromSlice, List.drop_append_of_le_length fits,
      TcpGROItem.prepended_key]
    exact byteAt_append_left _ _ (by omega)

end TcpHolds

/-! ## The predicted move -/

theorem checksumsAllow_iff {isV6 : Bool} {numMerged bufsIndex : UInt16} {iphLen : UInt8}
    {bufs : List ExpandBuffer} {offset : Nat} {cur pkt : List UInt8} (knownInvalid : Bool)
    (protocol : UInt8) (target : packetFrom bufs bufsIndex.toNat offset = .ok cur)
    (iph : iphLen.toNat = ipHLen isV6) (longCur : ipHLen isV6 ≤ cur.length)
    (smallCur : numMerged = 0 → cur.length ≤ 65535) (long : ipHLen isV6 ≤ pkt.length)
    (small : pkt.length ≤ 65535) :
    ChecksumsAllow numMerged knownInvalid bufs bufsIndex offset iphLen protocol isV6 pkt ↔
      ¬ (numMerged = 0 ∧ (knownInvalid = true ∨ ¬ TransportVerifies isV6 protocol cur)) ∧
        TransportVerifies isV6 protocol pkt := by
  rw [ChecksumsAllow, itemChecksumInvalid_eq knownInvalid protocol target iph longCur smallCur,
    checksumValid_eq protocol iph long small, Except.ok.injEq, Except.ok.injEq,
    decide_eq_false_iff_not, decide_eq_true_iff]

/-- The answer of an item depends on two buffers: its own and that of the packet. -/
theorem tcpTakes_congr {offset : Nat} {bufs bufs' : List ExpandBuffer} {pkt : List UInt8}
    {pktI : Nat} {segment : TcpSegment} {isV6 : Bool} {item : TcpGROItem}
    (sameItem : bufs'[item.bufsIndex.toNat]? = bufs[item.bufsIndex.toNat]?)
    (sameOwn : bufs'[pktI]? = bufs[pktI]?) :
    tcpTakes offset bufs' pkt pktI segment isV6 item =
      tcpTakes offset bufs pkt pktI segment isV6 item := by
  have target : packetFrom bufs' item.bufsIndex.toNat offset =
      packetFrom bufs item.bufsIndex.toNat offset := packetFrom_congr sameItem
  have can : ∀ iphLen tcphLen seq pshSet gsoSize,
      tcpPacketsCanCoalesce pkt iphLen tcphLen seq pshSet gsoSize item bufs' offset =
        tcpPacketsCanCoalesce pkt iphLen tcphLen seq pshSet gsoSize item bufs offset := by
    intro iphLen tcphLen seq pshSet gsoSize
    simp only [tcpPacketsCanCoalesce, target]
  have room : ∀ growing headersLen, bufs'[growing]? = bufs[growing]? →
      RoomFor offset bufs' growing item.bufsIndex.toNat pkt headersLen =
        RoomFor offset bufs growing item.bufsIndex.toNat pkt headersLen := by
    intro growing headersLen same
    simp only [RoomFor, packetAt_congr sameItem, capacityAt, same]
  have allowed : ChecksumsAllow item.numMerged false bufs' item.bufsIndex offset item.iphLen
      ipProtoTcp isV6 pkt = ChecksumsAllow item.numMerged false bufs item.bufsIndex offset
        item.iphLen ipProtoTcp isV6 pkt := by
    simp only [ChecksumsAllow, itemChecksumInvalid, target]
  simp only [tcpTakes, can, room _ _ sameItem, room _ _ sameOwn, allowed]

theorem findSome?_congr {α β : Type} {f g : α → Option β} {xs : List α}
    (same : ∀ x ∈ xs, f x = g x) : xs.findSome? f = xs.findSome? g := by
  induction xs with
  | nil => rfl
  | cons x xs ih =>
    obtain ⟨here, later⟩ := List.forall_mem_cons.mp same
    simp only [List.findSome?_cons, here, ih later]

theorem findSome?_take_succ {α β : Type} {f : α → Option β} {xs : List α} {i : Nat} {x : α}
    (found : xs[i]? = some x) :
    (xs.take (i + 1)).reverse.findSome? f =
      match f x with
      | some y => some y
      | none => (xs.take i).reverse.findSome? f := by
  rw [List.take_add_one, found, Option.toList_some, List.reverse_append, List.reverse_singleton,
    List.singleton_append, List.findSome?_cons]
  cases f x <;> rfl

/-! ## The loop over the items of a flow -/

/-- The outcome of the loop, when `first` is the move that the items offer. -/
def ScanPost (input : List ExpandBuffer) (offset n : Nat) (groups : Grouping) (key : TcpFlowKey)
    (rest : List Slot) (first : Option Move) : TcpScan → Prop
  | .coalesced items bufs =>
    (∀ item ∈ items, item.key = key) ∧ ∃ move, first = some move ∧
      BatchInv input offset (n + 1) bufs (groups.step n move)
        (items.map (tcpSlot input offset) ++ rest)
  | .rejected items bufs | .exhausted items bufs =>
    (∀ item ∈ items, item.key = key) ∧ first = none ∧
      BatchInv input offset n bufs groups (items.map (tcpSlot input offset) ++ rest)

theorem zeroVirtioHeader_ok {bufs : List ExpandBuffer} {i offset : Nat} {buf : ExpandBuffer}
    (room : virtioNetHdrLen ≤ offset) (found : bufs[i]? = some buf)
    (fits : offset ≤ buf.bytes.length) :
    zeroVirtioHeader bufs i offset = .ok (bufs.set i (cleared offset buf)) := by
  rw [zeroVirtioHeader, subLen_ok room, Run.ok_bind]
  exact updateBuffer_ok found (ExpandBuffer.write_ok (by rw [List.length_replicate]; omega))

section Step

variable {input bufs : List ExpandBuffer} {offset n : Nat} {groups : Grouping} {slots : List Slot}
  {item : TcpGROItem} {buf own : ExpandBuffer}

theorem BatchInv.giveUp (inv : BatchInv input offset n bufs groups (tcpSlot input offset item :: slots))
    (holds : TcpHolds input offset item (groups.parts item.bufsIndex.toNat) buf)
    (single : item.numMerged = 0) :
    BatchInv input offset n (bufs.set item.bufsIndex.toNat (cleared offset buf)) groups slots := by
  have one : (groups.parts item.bufsIndex.toNat).length = 1 := by
    rw [holds.length_parts, single]
    rfl
  exact inv.drop (holds.original single)
    (inv.partition.eq_single (inv.known _ List.mem_cons_self) one)

/-- The item whose count leaves room for the packet: counts stay below the number of packets. -/
theorem BatchInv.count_lt
    (inv : BatchInv input offset n bufs groups (tcpSlot input offset item :: slots))
    (holds : TcpHolds input offset item (groups.parts item.bufsIndex.toNat) buf)
    (valid : ValidBatch input offset (n + 1)) (inside : n < input.length) :
    item.numMerged.toNat + 1 < 65536 := by
  have parts := inv.partition.length_parts_le (inv.known _ List.mem_cons_self)
  have few := valid.few
  have length := holds.length_parts
  simp only [tcpSlot] at parts
  omega

theorem BatchInv.joinBehind
    (inv : BatchInv input offset n bufs groups (tcpSlot input offset item :: slots))
    (found : bufs[item.bufsIndex.toNat]? = some buf) {item' : TcpGROItem} {buf' : ExpandBuffer}
    (here : item'.bufsIndex = item.bufsIndex)
    (holds : TcpHolds input offset item' (groups.parts item.bufsIndex.toNat ++ [n]) buf') :
    BatchInv input offset (n + 1) (bufs.set item.bufsIndex.toNat buf')
      (groups.step n (.append item.bufsIndex.toNat)) (tcpSlot input offset item' :: slots) := by
  have inside : item.bufsIndex.toNat < bufs.length := (List.getElem?_eq_some_iff.mp found).1
  have allowed : groups.Allows (.append item.bufsIndex.toNat) := inv.known _ List.mem_cons_self
  refine inv.join (inv.partition.step allowed) List.length_set
    (List.getElem?_set_self inside) ?_ (congrArg UInt16.toNat here) holds
  intro k apart _
  exact List.getElem?_set_ne (Ne.symm apart)

theorem BatchInv.joinInFront
    (inv : BatchInv input offset n bufs groups (tcpSlot input offset item :: slots))
    (found : bufs[item.bufsIndex.toNat]? = some buf) {item' : TcpGROItem} {buf' : ExpandBuffer}
    (here : item'.bufsIndex = item.bufsIndex)
    (holds : TcpHolds input offset item' (n :: groups.parts item.bufsIndex.toNat) buf') :
    BatchInv input offset (n + 1) ((bufs.set item.bufsIndex.toNat buf').set n buf)
      (groups.step n (.prepend item.bufsIndex.toNat)) (tcpSlot input offset item' :: slots) := by
  have inside : item.bufsIndex.toNat < bufs.length := (List.getElem?_eq_some_iff.mp found).1
  have earlier : item.bufsIndex.toNat < n := inv.index_lt List.mem_cons_self
  have allowed : groups.Allows (.prepend item.bufsIndex.toNat) := inv.known _ List.mem_cons_self
  refine inv.join (inv.partition.step allowed) (by rw [List.length_set, List.length_set]) ?_ ?_
    (congrArg UInt16.toNat here) holds
  · change ((bufs.set item.bufsIndex.toNat buf').set n buf)[item.bufsIndex.toNat]? = _
    rw [List.getElem?_set_ne (by omega), List.getElem?_set_self inside]
  · intro k apart notOwn
    have other : item.bufsIndex.toNat ≠ k := Ne.symm apart
    rw [List.getElem?_set_ne (Ne.symm notOwn), List.getElem?_set_ne other]

end Step

/-- One item of the flow: what it answers and what the code then does with it. -/
inductive ItemOutcome (input : List ExpandBuffer) (offset n : Nat) (bufs : List ExpandBuffer)
    (groups : Grouping) (slots : List Slot) (pkt : List UInt8) (segment : TcpSegment)
    (isV6 : Bool) (item : TcpGROItem) : CanCoalesce → Prop
  | unavailable (none : tcpTakes offset bufs pkt n segment isV6 item = none) :
      ItemOutcome input offset n bufs groups slots pkt segment isV6 item .unavailable
  | skipped {can : CanCoalesce} (available : can ≠ .unavailable)
      (none : tcpTakes offset bufs pkt n segment isV6 item = none)
      (ran : coalesceTcpPackets can pkt n segment.gsoSize segment.seq segment.pshSet item bufs
        offset isV6 = .ok (.insufficientCap, item, bufs)) :
      ItemOutcome input offset n bufs groups slots pkt segment isV6 item can
  | removed {can : CanCoalesce} (available : can ≠ .unavailable)
      (none : tcpTakes offset bufs pkt n segment isV6 item = none) (single : item.numMerged = 0)
      (ran : coalesceTcpPackets can pkt n segment.gsoSize segment.seq segment.pshSet item bufs
        offset isV6 = .ok (.itemInvalidCSum, item, bufs)) :
      ItemOutcome input offset n bufs groups slots pkt segment isV6 item can
  | rejected {can : CanCoalesce} (available : can ≠ .unavailable)
      (invalid : ¬ TransportVerifies isV6 ipProtoTcp pkt)
      (ran : coalesceTcpPackets can pkt n segment.gsoSize segment.seq segment.pshSet item bufs
        offset isV6 = .ok (.pktInvalidCSum, item, bufs)) :
      ItemOutcome input offset n bufs groups slots pkt segment isV6 item can
  | joined {can : CanCoalesce} {item' : TcpGROItem} {bufs' : List ExpandBuffer} {move : Move}
      (available : can ≠ .unavailable)
      (taken : tcpTakes offset bufs pkt n segment isV6 item = some move)
      (ran : coalesceTcpPackets can pkt n segment.gsoSize segment.seq segment.pshSet item bufs
        offset isV6 = .ok (.success, item', bufs')) (sameKey : item'.key = item.key)
      (inv : BatchInv input offset (n + 1) bufs' (groups.step n move)
        (tcpSlot input offset item' :: slots)) :
      ItemOutcome input offset n bufs groups slots pkt segment isV6 item can

section Scan

variable {input bufs : List ExpandBuffer} {offset n : Nat} {groups : Grouping} {slots : List Slot}
  {item : TcpGROItem} {buf own : ExpandBuffer}

theorem ItemOutcome.of_checks {can : CanCoalesce} {capacity need : Nat} {cur pkt : List UInt8}
    {segment : TcpSegment} {isV6 : Bool} {item' : TcpGROItem} {bufs' : List ExpandBuffer}
    {move : Move} (available : can ≠ .unavailable)
    (answer : tcpTakes offset bufs pkt n segment isV6 item =
      if need ≤ capacity ∧ ¬ (item.numMerged = 0 ∧ ¬ TransportVerifies isV6 ipProtoTcp cur) ∧
        TransportVerifies isV6 ipProtoTcp pkt then some move else none)
    (ran : coalesceTcpPackets can pkt n segment.gsoSize segment.seq segment.pshSet item bufs offset
        isV6 =
      .ok (if capacity < need then (.insufficientCap, item, bufs)
        else if item.numMerged = 0 ∧ ¬ TransportVerifies isV6 ipProtoTcp cur then
          (.itemInvalidCSum, item, bufs)
        else if ¬ TransportVerifies isV6 ipProtoTcp pkt then (.pktInvalidCSum, item, bufs)
        else (.success, item', bufs')))
    (sameKey : item'.key = item.key)
    (joins : need ≤ capacity → (item.numMerged = 0 → TransportVerifies isV6 ipProtoTcp cur) →
      TransportVerifies isV6 ipProtoTcp pkt →
        BatchInv input offset (n + 1) bufs' (groups.step n move)
          (tcpSlot input offset item' :: slots)) :
    ItemOutcome input offset n bufs groups slots pkt segment isV6 item can := by
  by_cases room : need ≤ capacity
  case neg =>
    rw [if_pos (Nat.lt_of_not_le room)] at ran
    exact .skipped available (by rw [answer, if_neg fun h => room h.1]) ran
  rw [if_neg (Nat.not_lt.mpr room)] at ran
  by_cases invalid : item.numMerged = 0 ∧ ¬ TransportVerifies isV6 ipProtoTcp cur
  · rw [if_pos invalid] at ran
    exact .removed available (by rw [answer, if_neg fun h => h.2.1 invalid]) invalid.1 ran
  rw [if_neg invalid] at ran
  by_cases verifies : TransportVerifies isV6 ipProtoTcp pkt
  case neg =>
    rw [if_pos verifies] at ran
    exact .rejected available verifies ran
  rw [if_neg (not_not.mpr verifies)] at ran
  exact .joined available (by rw [answer, if_pos ⟨room, invalid, verifies⟩]) ran sameKey
    (joins room (fun zero => not_not.mp fun h => invalid ⟨zero, h⟩) verifies)

theorem BatchInv.tcpItem {slots : List Slot} (inv : BatchInv input offset n bufs groups slots)
    (member : tcpSlot input offset item ∈ slots) :
    ∃ buf, bufs[item.bufsIndex.toNat]? = some buf ∧
      TcpHolds input offset item (groups.parts item.bufsIndex.toNat) buf := inv.holds _ member

theorem tcpTakes_of_appends {parts : List (List UInt8)} {pkt : List UInt8}
    (group : TcpGroup parts item (buf.bytes.drop offset))
    (found : bufs[item.bufsIndex.toNat]? = some buf) (fits : offset ≤ buf.bytes.length)
    (eligible : TcpEligible item.key.isV6 pkt)
    (appends : TcpAppends item.key.isV6 pkt item (buf.bytes.drop offset)) (k : Nat) :
    tcpTakes offset bufs pkt k (tcpSegmentOf item.key.isV6 pkt) item.key.isV6 item =
      if 2 * offset + tcpJoinedLen item.key.isV6 (buf.bytes.drop offset) pkt ≤ buf.capacity ∧
        ¬ (item.numMerged = 0 ∧
          ¬ TransportVerifies item.key.isV6 ipProtoTcp (buf.bytes.drop offset)) ∧
        TransportVerifies item.key.isV6 ipProtoTcp pkt then some (.append item.bufsIndex.toNat)
      else none := by
  have target := packetFrom_ok found fits
  have long := group.headers_lt
  have payload := eligible.payload
  obtain ⟨can, canEq, append_iff, -⟩ := tcpPacketsCanCoalesce_spec group target eligible
  obtain rfl := append_iff.mpr appends
  have allowed := checksumsAllow_iff false ipProtoTcp target group.iphLen (by omega)
    group.length_le (by omega : ipHLen item.key.isV6 ≤ pkt.length) eligible.length_le
  simp only [Bool.false_eq_true, false_or] at allowed
  have roomFor : RoomFor offset bufs item.bufsIndex.toNat item.bufsIndex.toNat pkt
      (ipHLen item.key.isV6 + tcpHLen item.key.isV6 pkt) ↔
        2 * offset + tcpJoinedLen item.key.isV6 (buf.bytes.drop offset) pkt ≤ buf.capacity := by
    rw [RoomFor, packetAt_of_getElem? found, capacityAt_of_getElem? found, tcpJoinedLen,
      appends.headerLen]
  simp only [tcpTakes, tcpSegmentOf, canEq, roomFor, allowed]

theorem itemOutcome {pkt : List UInt8} {segment : TcpSegment} (valid : ValidBatch input offset (n + 1))
    (foundOwn : input[n]? = some own) (samePkt : own.bytes.drop offset = pkt)
    (sameSegment : tcpSegmentOf item.key.isV6 pkt = segment)
    (eligible : TcpEligible item.key.isV6 pkt) (key : tcpKeyOf item.key.isV6 pkt = item.key)
    (inv : BatchInv input offset n bufs groups (tcpSlot input offset item :: slots)) :
    ∃ can, tcpPacketsCanCoalesce pkt (UInt8.ofNat segment.iphLen) (UInt8.ofNat segment.tcphLen)
        segment.seq segment.pshSet segment.gsoSize item bufs offset = .ok can ∧
      ItemOutcome input offset n bufs groups slots pkt segment item.key.isV6 item can := by
  subst samePkt sameSegment
  obtain ⟨buf, found, holds⟩ := inv.tcpItem List.mem_cons_self
  have earlier : item.bufsIndex.toNat < n := inv.index_lt List.mem_cons_self
  have inside : n < input.length := (List.getElem?_eq_some_iff.mp foundOwn).1
  have here : bufs[n]? = some own := (inv.pending n le_rfl).trans foundOwn
  have few := inv.count_lt holds valid inside
  have later : ∀ k ∈ groups.parts item.bufsIndex.toNat, k < n :=
    fun k member => inv.partition.part_lt (inv.known _ List.mem_cons_self) member
  have target := packetFrom_ok found holds.offset_le
  have fits := (valid.room n own n.lt_succ_self foundOwn).2.le
  have long := holds.group.headers_lt
  have payload := eligible.payload
  obtain ⟨can, canEq, append_iff, prepend_iff⟩ :=
    tcpPacketsCanCoalesce_spec holds.group target eligible
  have allowed := checksumsAllow_iff false ipProtoTcp target
    holds.group.iphLen (by omega) holds.group.length_le
    (by omega : ipHLen item.key.isV6 ≤ (own.bytes.drop offset).length) eligible.length_le
  simp only [Bool.false_eq_true, false_or] at allowed
  refine ⟨can, canEq, ?_⟩
  cases can with
  | unavailable => exact .unavailable (by simp only [tcpTakes, tcpSegmentOf, canEq])
  | append =>
    have appends := append_iff.mp rfl
    have ran := coalesceTcpPackets_append holds.group found eligible appends few n
      (tcpSeq item.key.isV6 (own.bytes.drop offset))
    have answer := tcpTakes_of_appends holds.group found holds.offset_le eligible appends n
    exact .of_checks (by decide) answer ran rfl fun room opened verifies =>
      inv.joinBehind found rfl
        (holds.append foundOwn eligible key appends verifies opened few later room)
  | prepend =>
    have prepends := prepend_iff.mp rfl
    -- The packet's own buffer is the one that grows, so its capacity counts here.
    have roomFor : RoomFor offset bufs n item.bufsIndex.toNat (own.bytes.drop offset)
        (ipHLen item.key.isV6 + tcpHLen item.key.isV6 (own.bytes.drop offset)) ↔
          2 * offset + tcpJoinedLen item.key.isV6 (buf.bytes.drop offset)
            (own.bytes.drop offset) ≤ own.capacity := by
      rw [RoomFor, packetAt_of_getElem? found, capacityAt_of_getElem? here, tcpJoinedLen,
        prepends.headerLen]
    have ran := coalesceTcpPackets_prepend holds.group found here fits (by omega) eligible prepends
      few (tcpSeq item.key.isV6 (own.bytes.drop offset))
    refine .of_checks (by decide) ?_ ran rfl fun room opened verifies =>
      inv.joinInFront found rfl
        (holds.prepend foundOwn fits eligible key prepends verifies opened few later room)
    simp only [tcpTakes, tcpSegmentOf, canEq, roomFor, allowed]

theorem tcpTakes_of_invalid {isV6 : Bool} {pkt : List UInt8} {segment : TcpSegment}
    (iph : item.iphLen.toNat = ipHLen isV6) (long : ipHLen isV6 ≤ pkt.length)
    (small : pkt.length ≤ 65535) (invalid : ¬ TransportVerifies isV6 ipProtoTcp pkt) :
    tcpTakes offset bufs pkt n segment isV6 item = none := by
  have notAllowed : ¬ ChecksumsAllow item.numMerged false bufs item.bufsIndex offset item.iphLen
      ipProtoTcp isV6 pkt := by
    rintro ⟨-, valid⟩
    rw [checksumValid_eq ipProtoTcp iph long small, Except.ok.injEq, decide_eq_true_iff] at valid
    exact invalid valid
  simp only [tcpTakes, notAllowed, and_false, if_false]
  split <;> rfl

theorem flowSlots_perm (rest : List Slot) {items : List TcpGROItem} {i : Nat}
    (found : items[i]? = some item) :
    (items.map (tcpSlot input offset) ++ rest).Perm (tcpSlot input offset item ::
      ((items.eraseIdx i).map (tcpSlot input offset) ++ rest)) := by
  obtain ⟨inside, rfl⟩ := List.getElem?_eq_some_iff.mp found
  exact ((List.getElem_cons_eraseIdx_perm inside).symm.map (tcpSlot input offset)).append_right rest

theorem flowItem_outcome {pkt : List UInt8} {segment : TcpSegment} {isV6 : Bool} {rest : List Slot}
    {items : List TcpGROItem} {i : Nat} (valid : ValidBatch input offset (n + 1))
    (foundOwn : input[n]? = some own) (samePkt : own.bytes.drop offset = pkt)
    (sameSegment : tcpSegmentOf isV6 pkt = segment) (eligible : TcpEligible isV6 pkt)
    (keys : ∀ item ∈ items, item.key = tcpKeyOf isV6 pkt) (found : items[i]? = some item)
    (inv : BatchInv input offset n bufs groups (items.map (tcpSlot input offset) ++ rest)) :
    ∃ can, tcpPacketsCanCoalesce pkt (UInt8.ofNat segment.iphLen) (UInt8.ofNat segment.tcphLen)
        segment.seq segment.pshSet segment.gsoSize item bufs offset = .ok can ∧
      ItemOutcome input offset n bufs groups
        ((items.eraseIdx i).map (tcpSlot input offset) ++ rest) pkt segment isV6 item can := by
  have key := keys item (List.mem_of_getElem? found)
  obtain rfl : item.key.isV6 = isV6 := by rw [key]; rfl
  exact itemOutcome valid foundOwn samePkt sameSegment eligible key.symm
    (inv.perm (flowSlots_perm rest found))

/-- The loop finds the move that the items offer, and its removals keep all other answers. -/
theorem scanItems_spec {pkt : List UInt8} {segment : TcpSegment} {isV6 : Bool}
    (valid : ValidBatch input offset (n + 1)) (foundOwn : input[n]? = some own)
    (samePkt : own.bytes.drop offset = pkt) (sameSegment : tcpSegmentOf isV6 pkt = segment)
    (eligible : TcpEligible isV6 pkt) (rest : List Slot) (i : Nat) (items : List TcpGROItem)
    (bufs : List ExpandBuffer) (bound : i ≤ items.length)
    (keys : ∀ item ∈ items, item.key = tcpKeyOf isV6 pkt)
    (inv : BatchInv input offset n bufs groups (items.map (tcpSlot input offset) ++ rest)) :
    ∃ scan, scanItems pkt n segment offset isV6 i items bufs = .ok scan ∧
      ScanPost input offset n groups (tcpKeyOf isV6 pkt) rest
        ((items.take i).reverse.findSome? (tcpTakes offset bufs pkt n segment isV6)) scan := by
  induction i generalizing items bufs with
  | zero => exact ⟨.exhausted items bufs, rfl, keys, rfl, inv⟩
  | succ i ih =>
    have inside : i < items.length := bound
    have foundItem : items[i]? = some items[i] := List.getElem?_eq_getElem inside
    have member : items[i] ∈ items := List.getElem_mem inside
    obtain ⟨can, canEq, outcome⟩ := flowItem_outcome valid foundOwn samePkt sameSegment eligible
      keys foundItem inv
    rw [findSome?_take_succ foundItem]
    unfold scanItems
    rw [index_ok foundItem, Run.ok_bind, canEq, Run.ok_bind]
    cases outcome with
    | unavailable none =>
      rw [if_pos rfl, none]
      exact ih items bufs inside.le keys inv
    | skipped available none ran =>
      rw [if_neg available, ran, Run.ok_bind, none]
      simp only [List.set_getElem_self]
      exact ih items bufs inside.le keys inv
    | removed available none single ran =>
      have inv' := inv.perm (flowSlots_perm rest foundItem)
      obtain ⟨buf, found, holds⟩ := inv'.tcpItem List.mem_cons_self
      have erased : items.eraseIdx i = items.take i ++ items.drop (i + 1) :=
        List.eraseIdx_eq_take_drop_succ ..
      have front : (items.eraseIdx i).take i = items.take i := by
        rw [erased, List.take_append_of_le_length (by rw [List.length_take]; omega), List.take_take,
          Nat.min_self]
      -- The cleared header is part of no packet, and its buffer is of no item still to be asked.
      have answers : (items.take i).reverse.findSome? (tcpTakes offset
          (bufs.set items[i].bufsIndex.toNat (cleared offset buf)) pkt n segment isV6) =
            (items.take i).reverse.findSome? (tcpTakes offset bufs pkt n segment isV6) := by
        refine findSome?_congr fun other among => tcpTakes_congr ?_ ?_
        · have kept : other ∈ items.eraseIdx i := by
            rw [erased]
            exact List.mem_append_left _ (List.mem_reverse.mp among)
          have apart : other.bufsIndex.toNat ≠ items[i].bufsIndex.toNat :=
            inv'.index_ne (List.mem_append_left _ (List.mem_map_of_mem kept))
          exact List.getElem?_set_ne (Ne.symm apart)
        · have earlier : items[i].bufsIndex.toNat < n := inv'.index_lt List.mem_cons_self
          exact List.getElem?_set_ne (by omega)
      rw [if_neg available, ran, Run.ok_bind, none]
      simp only [List.set_getElem_self]
      rw [zeroVirtioHeader_ok (valid.room n own n.lt_succ_self foundOwn).1 found holds.offset_le,
        Run.ok_bind]
      have onward := ih (items.eraseIdx i) (bufs.set items[i].bufsIndex.toNat (cleared offset buf))
        (by rw [List.length_eraseIdx_of_lt inside]; omega)
        (fun other among => keys other (List.mem_of_mem_eraseIdx among)) (inv'.giveUp holds single)
      rwa [front, answers] at onward
    | rejected available invalid ran =>
      -- The scan stops here, and no item that it skips would have taken the packet either.
      have noTaker : ∀ item ∈ items, tcpTakes offset bufs pkt n segment isV6 item = none := by
        intro item among
        obtain ⟨buf, -, holds⟩ := inv.tcpItem (List.mem_append_left _ (List.mem_map_of_mem among))
        have iph := holds.group.iphLen
        have payload := eligible.payload
        rw [keys item among] at iph
        exact tcpTakes_of_invalid iph (Nat.le_of_add_right_le payload.le) eligible.length_le invalid
      rw [if_neg available, ran, Run.ok_bind, noTaker _ member]
      simp only [List.set_getElem_self]
      refine ⟨_, rfl, keys, ?_, inv⟩
      exact List.findSome?_eq_none_iff.mpr fun item among =>
        noTaker item (List.mem_of_mem_take (List.mem_reverse.mp among))
    | joined available taken ran sameKey inv' =>
      rw [if_neg available, ran, Run.ok_bind, taken]
      refine ⟨_, rfl, ?_, _, rfl, inv'.perm ?_⟩
      · intro other among
        rcases List.mem_or_eq_of_mem_set among with old | new
        · exact keys other old
        · rw [new, sameKey, keys _ member]
      · exact ((List.set_perm_cons_eraseIdx inside _).map (tcpSlot input offset)).symm.append_right
          rest

/-- The outcome of one packet, when `move` was predicted. A packet that is passed on is left to
the caller. -/
def StepPost (input : List ExpandBuffer) (offset n : Nat) (groups : Grouping) (move : Move)
    (slots : List Slot) (bufs : List ExpandBuffer) : GroResult → Prop
  | .noop => move = .stand ∧ BatchInv input offset n bufs groups slots
  | .tableInsert => move = .stand ∧
      BatchInv input offset (n + 1) bufs (groups.step n .stand) slots
  | .coalesced => move ≠ .stand ∧ BatchInv input offset (n + 1) bufs (groups.step n move) slots

def TcpKeyed (key : TcpFlowKey) (items : List TcpGROItem) : Prop := ∀ item ∈ items, item.key = key

theorem tcpTakes_ne_stand {pkt : List UInt8} {segment : TcpSegment} {isV6 : Bool} :
    tcpTakes offset bufs pkt n segment isV6 item ≠ some .stand := by
  simp only [tcpTakes]
  split
  · split_ifs <;> simp
  · split_ifs <;> simp
  · simp

theorem BatchInv.insertTcp {isV6 : Bool} {table : TcpGROTable} {rest : List Slot}
    (valid : ValidBatch input offset (n + 1)) (foundOwn : input[n]? = some own)
    (eligible : TcpEligible isV6 (own.bytes.drop offset)) (tidy : table.Tidy TcpKeyed)
    (inv : BatchInv input offset n bufs groups (table.liveItems.map (tcpSlot input offset) ++ rest)) :
    (table.push (tcpKeyOf isV6 (own.bytes.drop offset))
        (tcpItemOf isV6 (own.bytes.drop offset) n)).Tidy TcpKeyed ∧
      BatchInv input offset (n + 1) bufs (groups.step n .stand)
        ((table.push (tcpKeyOf isV6 (own.bytes.drop offset))
          (tcpItemOf isV6 (own.bytes.drop offset) n)).liveItems.map (tcpSlot input offset) ++
            rest) := by
  have small := valid.index_small foundOwn
  constructor
  · refine tidy.push ?_ ?_
    · intro items found item member
      rcases List.mem_append.mp member with old | new
      · exact tidy.stored _ _ found item old
      · rw [List.mem_singleton.mp new]
        rfl
    · intro item member
      rw [List.mem_singleton.mp member]
      rfl
  · have here : (tcpSlot input offset (tcpItemOf isV6 (own.bytes.drop offset) n)).index = n :=
      UInt16.toNat_ofNat_of_lt' small
    refine (inv.openSlot foundOwn here (TcpHolds.single small foundOwn eligible)).perm ?_
    exact ((tidy.liveItems_push _ _).map (tcpSlot input offset)).symm.append_right rest

theorem tcpGro_new {isV6 : Bool} {table : TcpGROTable} (here : bufs[n]? = some own)
    (fits : offset ≤ own.bytes.length) (eligible : TcpEligible isV6 (own.bytes.drop offset))
    (small : n < 65536)
    (absent : table.itemsByFlow.lookup (tcpKeyOf isV6 (own.bytes.drop offset)) = none) :
    tcpGro bufs offset n table isV6 =
      .ok (.tableInsert, bufs, table.push (tcpKeyOf isV6 (own.bytes.drop offset))
        (tcpItemOf isV6 (own.bytes.drop offset) n)) := by
  obtain ⟨found, parsed, ⟨-, rfl⟩ | ⟨notEligible, -⟩⟩ := parseTcp_spec eligible.candidate
  · unfold tcpGro
    rw [packetFrom_ok here fits, Run.ok_bind, parsed, Run.ok_bind]
    change (TcpGROTable.lookupOrInsert table (own.bytes.drop offset) (srcAddrOffset isV6)
      (srcAddrOffset isV6 + addrLen isV6) (ipHLen isV6) (tcpHLen isV6 (own.bytes.drop offset)) n >>=
        _) = _
    rw [TcpGROTable.lookupOrInsert_eq table eligible small, absent]
    rfl
  · exact absurd eligible notEligible

theorem tcpGro_spec {isV6 : Bool} {table : TcpGROTable} {rest : List Slot}
    (valid : ValidBatch input offset (n + 1)) (foundOwn : input[n]? = some own)
    (candidate : Candidate isV6 ipProtoTcp (own.bytes.drop offset)) (tidy : table.Tidy TcpKeyed)
    (inv : BatchInv input offset n bufs groups (table.liveItems.map (tcpSlot input offset) ++ rest)) :
    ∃ result bufs' table', tcpGro bufs offset n table isV6 = .ok (result, bufs', table') ∧
      table'.Tidy TcpKeyed ∧
      StepPost input offset n groups
        (tcpMove offset bufs (own.bytes.drop offset) n table isV6)
        (table'.liveItems.map (tcpSlot input offset) ++ rest) bufs' result := by
  have small := valid.index_small foundOwn
  have here : bufs[n]? = some own := (inv.pending n le_rfl).trans foundOwn
  have fits := (valid.room n own n.lt_succ_self foundOwn).2.le
  obtain ⟨found, parsed, ⟨eligible, rfl⟩ | ⟨notEligible, rfl⟩⟩ := parseTcp_spec candidate
  case inr =>
    refine ⟨.noop, bufs, table, ?_, tidy, ?_, inv⟩
    · rw [tcpGro, packetFrom_ok here fits, Run.ok_bind, parsed, Run.ok_bind]
      rfl
    · simp only [tcpMove, parsed]
  cases stored : table.itemsByFlow.lookup (tcpKeyOf isV6 (own.bytes.drop offset)) with
  | none =>
    obtain ⟨tidy', inv'⟩ := inv.insertTcp valid foundOwn eligible tidy
    refine ⟨.tableInsert, bufs, _, tcpGro_new here fits eligible small stored, tidy', ?_, inv'⟩
    simp only [tcpMove, parsed, stored]
  | some items =>
    unfold tcpGro
    rw [packetFrom_ok here fits, Run.ok_bind, parsed, Run.ok_bind]
    change ∃ result bufs' table', (TcpGROTable.lookupOrInsert table (own.bytes.drop offset)
      (srcAddrOffset isV6) (srcAddrOffset isV6 + addrLen isV6) (ipHLen isV6)
      (tcpHLen isV6 (own.bytes.drop offset)) n >>= _) = _ ∧ _
    rw [TcpGROTable.lookupOrInsert_eq table eligible small, Run.ok_bind, stored]
    have keys : TcpKeyed _ items := tidy.stored _ _ stored
    -- The flow is scanned from its last item on, and the prediction is the first answer.
    obtain ⟨scan, ran, post⟩ := scanItems_spec valid foundOwn rfl rfl eligible _ items.length items
      bufs le_rfl keys (inv.perm (liveSlots_perm _ rest stored))
    rw [List.take_length] at post
    have move : tcpMove offset bufs (own.bytes.drop offset) n table isV6 =
        (items.reverse.findSome? (tcpTakes offset bufs (own.bytes.drop offset) n
          (tcpSegmentOf isV6 (own.bytes.drop offset)) isV6)).getD .stand := by
      simp only [tcpMove, parsed, stored]
    simp only []
    rw [ran, Run.ok_bind]
    cases scan with
    | coalesced items' bufs' =>
      obtain ⟨keys', taken, first, inv'⟩ := post
      refine ⟨.coalesced, bufs', _, rfl, tidy.store keys', ?_, ?_⟩
      · obtain ⟨item, -, answer⟩ := List.exists_of_findSome?_eq_some first
        rw [move, first]
        exact fun stand => tcpTakes_ne_stand (answer.trans (congrArg some stand))
      · rw [move, first, FlowTable.liveItems_store, List.map_append, List.append_assoc]
        exact inv'
    | rejected items' bufs' =>
      obtain ⟨keys', first, inv'⟩ := post
      refine ⟨.noop, bufs', _, rfl, tidy.store keys', by rw [move, first]; rfl, ?_⟩
      rw [FlowTable.liveItems_store, List.map_append, List.append_assoc]
      exact inv'
    | exhausted items' bufs' =>
      obtain ⟨keys', first, inv'⟩ := post
      -- No item takes the packet, so it is entered behind the items that the scan has left.
      have tidy' : (table.store _ items').Tidy TcpKeyed := tidy.store keys'
      rw [← List.append_assoc, ← List.map_append, ← FlowTable.liveItems_store] at inv'
      obtain ⟨tidy'', inv''⟩ := inv'.insertTcp valid foundOwn eligible tidy'
      refine ⟨.tableInsert, bufs', _, ?_, tidy'', by rw [move, first]; rfl, inv''⟩
      change (TcpGROTable.insert _ _ (srcAddrOffset isV6) (srcAddrOffset isV6 + addrLen isV6)
        (ipHLen isV6) (tcpHLen isV6 (own.bytes.drop offset)) n >>= _) = _
      rw [TcpGROTable.insert_eq _ eligible small, Run.ok_bind]
      rfl

end Scan

end QuincyTun.Linux
