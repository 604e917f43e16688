import QuincyTun.Linux.Conservation
import QuincyTun.Linux.Reached

/-! The PSH flag of joined packets.

Only the last segment of a group may carry PSH, and the item remembers it. Joining a
segment behind the others sets the flag in the header at the front. A segment that is
put in front brings a header of its own, without the flag of the item.
-/

set_option autoImplicit false

namespace QuincyTun.Linux

open QuincyTun.Foundation

def tcpPsh (isV6 : Bool) (pkt : List UInt8) : Bool := tcpFlags isV6 pkt &&& tcpFlagPsh != 0

/-- The next packet goes in front of an item that has the PSH flag. -/
def PrependsToPush (offset : Nat) (canUdpGro : Bool) (n : Nat) (s : GroState) : Prop :=
  ∃ item ∈ s.tcpTable.liveItems, item.pshSet = true ∧
    groMove offset canUdpGro n s = .prepend item.bufsIndex.toNat

instance (offset : Nat) (canUdpGro : Bool) (n : Nat) (s : GroState) :
    Decidable (PrependsToPush offset canUdpGro n s) :=
  inferInstanceAs (Decidable (∃ item ∈ s.tcpTable.liveItems, _))

/-- The packet in the buffer of the item shows the flag that the item remembers. -/
def ShowsPush (offset : Nat) (s : GroState) (item : TcpGROItem) : Prop :=
  item.pshSet = tcpPsh item.key.isV6 (packetAt offset s.bufs item.bufsIndex.toNat)

/-- The joined packet has PSH like the last of its parts, and no other part has it. -/
structure PushAtEnd (isV6 : Bool) (parts : List (List UInt8)) (pkt : List UInt8) : Prop where
  last : tcpPsh isV6 pkt = true ↔ ∃ part, parts.getLast? = some part ∧ tcpPsh isV6 part = true
  others : ∀ part ∈ parts.dropLast, tcpPsh isV6 part = false

/-- Items and headers agree throughout the loop, and joined packets leave with the right flag. -/
structure KeepsPush (host : Host) (offset : Nat) (canUdpGro : Bool) (s : GroState) : Prop where
  table : ∀ n state, LoopReaches host offset canUdpGro s n state →
    ∀ item ∈ state.tcpTable.liveItems, ShowsPush offset state item
  emitted : ∀ s', handleGro host offset canUdpGro s = .ok (s', .ok ()) →
    ∀ item ∈ s'.tcpTable.liveItems, item.numMerged > 0 →
      PushAtEnd item.key.isV6
        (((groGroups host offset canUdpGro s s.bufs.length).parts item.bufsIndex.toNat).map
          (packetAt offset s.bufs))
        (packetAt offset s'.bufs item.bufsIndex.toNat)

section Flags

variable {input : List ExpandBuffer} {offset : Nat} {item : TcpGROItem} {parts : List Nat}
  {buf : ExpandBuffer} {isV6 : Bool} {pkt : List UInt8}

theorem tcpPsh_of_ack (flags : tcpFlags isV6 pkt = tcpFlagAck) : tcpPsh isV6 pkt = false := by
  rw [tcpPsh, flags]
  decide

theorem tcpPsh_of_push (flags : tcpFlags isV6 pkt = tcpFlagAck ||| tcpFlagPsh) :
    tcpPsh isV6 pkt = true := by
  rw [tcpPsh, flags]
  decide

theorem TcpGroup.tcpPsh_part {parts : List (List UInt8)} {cur part : List UInt8} {i : Nat}
    (group : TcpGroup parts item cur) (found : parts[i]? = some part) :
    tcpPsh item.key.isV6 part = decide (i + 1 = parts.length ∧ item.pshSet = true) := by
  have flags := group.pshLast i part found
  by_cases last : i + 1 = parts.length ∧ item.pshSet = true
  · rw [if_pos last] at flags
    rw [tcpPsh_of_push flags, decide_eq_true last]
  · rw [if_neg last] at flags
    rw [tcpPsh_of_ack flags, decide_eq_false last]

theorem TcpGroup.tcpPsh_last {parts : List (List UInt8)} {cur part : List UInt8}
    (group : TcpGroup parts item cur) (found : parts.getLast? = some part) :
    tcpPsh item.key.isV6 part = item.pshSet := by
  have positive := group.joined.parts_pos
  rw [List.getLast?_eq_getElem?] at found
  rw [group.tcpPsh_part found, Nat.sub_add_cancel positive]
  simp

theorem TcpGroup.tcpPsh_others {parts : List (List UInt8)} {cur part : List UInt8}
    (group : TcpGroup parts item cur) (member : part ∈ parts.dropLast) :
    tcpPsh item.key.isV6 part = false := by
  obtain ⟨i, found⟩ := List.mem_iff_getElem?.mp member
  obtain ⟨inside, -⟩ := List.getElem?_eq_some_iff.mp found
  rw [List.length_dropLast] at inside
  rw [List.getElem?_dropLast, if_pos inside] at found
  rw [group.tcpPsh_part found, decide_eq_false]
  omega

theorem TcpHolds.tcpPsh_header (holds : TcpHolds input offset item parts buf) :
    tcpPsh item.key.isV6 (buf.bytes.drop offset) =
      decide (item.pshSet = true ∧ FrontFirst parts) := by
  have flags := holds.flags
  by_cases shown : item.pshSet = true ∧ FrontFirst parts
  · rw [if_pos shown] at flags
    rw [tcpPsh_of_push flags, decide_eq_true shown]
  · rw [if_neg shown] at flags
    rw [tcpPsh_of_ack flags, decide_eq_false shown]

end Flags

/-! ## Runs -/

/-- Where the front packet of a group came after the last one, the last one has no PSH. -/
def PushOrdered (input : List ExpandBuffer) (offset : Nat) (groups : Grouping) : Prop :=
  ∀ head ∈ groups.heads, FrontFirst (groups.parts head) ∨
    ∀ isV6 last, (groups.parts head).getLast? = some last →
      TcpEligible isV6 (packetAt offset input last) →
        tcpPsh isV6 (packetAt offset input last) = false

section Run

variable {host : Host} {offset n : Nat} {canUdpGro : Bool} {s s' state : GroState}
  {input : List ExpandBuffer} {groups : Grouping} {item : TcpGROItem}

theorem TcpHolds.tcpPsh_last {parts : List Nat} {buf : ExpandBuffer} {last : Nat}
    (holds : TcpHolds input offset item parts buf) (found : parts.getLast? = some last) :
    tcpPsh item.key.isV6 (packetAt offset input last) = item.pshSet := by
  refine holds.group.tcpPsh_last ?_
  rw [List.getLast?_map, found]
  rfl

theorem PushOrdered.step (ordered : PushOrdered input offset groups)
    (inv : GroInv input offset canUdpGro n s groups)
    (unpushed : ¬ PrependsToPush offset canUdpGro n s) :
    PushOrdered input offset (groups.step n (groMove offset canUdpGro n s)) := by
  have later : ∀ head ∈ groups.heads, ∀ k ∈ groups.parts head, k < n :=
    fun head member k => inv.batch.partition.part_lt member
  intro head member
  cases move : groMove offset canUdpGro n s with
  | stand =>
    rw [move] at member
    by_cases own : head = n
    · subst own
      exact .inl (by simp [Grouping.step, FrontFirst])
    · have known : head ∈ groups.heads := by simpa [Grouping.step, own] using member
      simpa only [Grouping.step, Function.update_of_ne own] using ordered head known
  | append other =>
    rw [move] at member
    by_cases same : head = other
    · subst same
      simp only [Grouping.step, Grouping.regroup_parts_self]
      exact .inl (frontFirst_concat (later head member))
    · simpa only [Grouping.step, Grouping.regroup_parts_ne _ _ same] using ordered head member
  | prepend other =>
    rw [move] at member
    by_cases same : head = other
    · subst same
      right
      intro isV6 last found eligible
      obtain ⟨item, live, rfl⟩ := groMove_prepend move
      obtain ⟨known, buf, -, holds⟩ := inv.tcpHolds live
      have nonempty := List.ne_nil_of_mem (inv.batch.partition.opening _ known)
      have behind : (groups.parts item.bufsIndex.toNat).getLast? = some last := by
        rw [← found]
        simp only [Grouping.step, Grouping.regroup_parts_self]
        rw [List.getLast?_cons_of_ne_nil nonempty]
      have member : packetAt offset input last ∈
          (groups.parts item.bufsIndex.toNat).map (packetAt offset input) :=
        List.mem_map_of_mem (List.mem_of_getLast? behind)
      obtain rfl := isV6_unique eligible.candidate.version
        (holds.group.eligible _ member).candidate.version
      -- The last packet has PSH exactly if the item has, and such an item is excluded here.
      rw [holds.tcpPsh_last behind]
      cases pushed : item.pshSet with
      | false => rfl
      | true => exact absurd ⟨item, live, pushed, move⟩ unpushed
    · simpa only [Grouping.step, Grouping.regroup_parts_ne _ _ same] using ordered head member

/-- An item shows its flag unless a packet came in front after the flag. -/
theorem TcpHolds.showsPush_iff {parts : List Nat} {buf : ExpandBuffer}
    (holds : TcpHolds input offset item parts buf)
    (here : s.bufs[item.bufsIndex.toNat]? = some buf) :
    ShowsPush offset s item ↔ (item.pshSet = true → FrontFirst parts) := by
  rw [ShowsPush, packetAt_of_getElem? here, holds.tcpPsh_header]
  cases item.pshSet <;> simp

theorem LoopReaches.pushOrdered (fresh : FreshState s)
    (unpushed : ∀ n state, LoopReaches host offset canUdpGro s n state →
      ¬ PrependsToPush offset canUdpGro n state)
    (reaches : LoopReaches host offset canUdpGro s n state) :
    PushOrdered s.bufs offset (groGroups host offset canUdpGro s n) := by
  induction n generalizing state with
  | zero =>
    intro head member
    cases member
  | succ n ih =>
    obtain ⟨between, earlier⟩ := reaches.before
    rw [groGroups, earlier.stateAt]
    exact (ih earlier).step (earlier.inv fresh) (unpushed n between earlier)

theorem PushOrdered.showsPush (ordered : PushOrdered input offset groups)
    (inv : GroInv input offset canUdpGro n s groups) (live : item ∈ s.tcpTable.liveItems) :
    ShowsPush offset s item := by
  obtain ⟨known, buf, here, holds⟩ := inv.tcpHolds live
  refine (holds.showsPush_iff here).mpr fun pushed => ?_
  rcases ordered _ known with front | silent
  · exact front
  · have nonempty := List.ne_nil_of_mem (inv.batch.partition.opening _ known)
    have last := List.getLast?_eq_some_getLast nonempty
    have quiet := silent item.key.isV6 _ last
      (holds.group.eligible _ (List.mem_map_of_mem (List.mem_of_getLast? last)))
    rw [holds.tcpPsh_last last, pushed] at quiet
    cases quiet

/-- Putting a packet in front of an item with the flag takes the flag from the header. -/
theorem LoopReaches.hidesPush (reaches : LoopReaches host offset canUdpGro s n state)
    (fresh : FreshState s) (prepends : PrependsToPush offset canUdpGro n state) :
    ∃ s' item', LoopReaches host offset canUdpGro s (n + 1) s' ∧ item' ∈ s'.tcpTable.liveItems ∧
      ¬ ShowsPush offset s' item' := by
  obtain ⟨item, live, pushed, move⟩ := prepends
  have inv := reaches.inv fresh
  obtain ⟨known, buf, -, holds⟩ := inv.tcpHolds live
  obtain ⟨-, s', next⟩ := reaches.after fresh (by rw [move]; nofun)
    (Nat.zero_lt_of_lt (inv.batch.partition.bound _ known))
  have inv' := next.inv fresh
  have joined : (groGroups host offset canUdpGro s (n + 1)).parts item.bufsIndex.toNat =
      n :: (groGroups host offset canUdpGro s n).parts item.bufsIndex.toNat := by
    rw [groGroups, reaches.stateAt, move]
    exact Grouping.regroup_parts_self ..
  have nonempty := List.ne_nil_of_mem (inv.batch.partition.opening _ known)
  have last := List.getLast?_eq_some_getLast nonempty
  have eligible := holds.group.eligible _ (List.mem_map_of_mem (List.mem_of_getLast? last))
  have among : packetAt offset s.bufs
      (((groGroups host offset canUdpGro s n).parts item.bufsIndex.toNat).getLast nonempty) ∈
        ((groGroups host offset canUdpGro s (n + 1)).parts item.bufsIndex.toNat).map
          (packetAt offset s.bufs) := by
    rw [joined]
    exact List.mem_map_of_mem (List.mem_cons_of_mem _ (List.getLast_mem nonempty))
  have merged : MergedAt s' item.bufsIndex.toNat := by
    refine (inv'.mergedAt_iff _).mpr ⟨?_, ?_⟩
    · rw [groGroups, reaches.stateAt, move]
      exact known
    · rw [joined, List.length_cons]
      have some := List.length_pos_of_ne_nil nonempty
      omega
  rcases merged with ⟨item', live', same, -⟩ | ⟨item', live', same, -⟩
  -- The last packet still has PSH, but the header is now that of the packet in front.
  · obtain ⟨-, buf', here', holds'⟩ := inv'.tcpHolds live'
    rw [same, joined] at holds'
    refine ⟨s', item', next, live', fun shows => ?_⟩
    have sameLast := holds'.tcpPsh_last
      ((List.getLast?_cons_of_ne_nil nonempty).trans last)
    have family := isV6_unique eligible.candidate.version
      (holds'.group.eligible _ (joined ▸ among)).candidate.version
    rw [← family, holds.tcpPsh_last last, pushed] at sameLast
    have front := (holds'.showsPush_iff here').mp shows sameLast.symm
    exact not_frontFirst_cons (fun k => inv.batch.partition.part_lt known) nonempty front
  · obtain ⟨-, buf', -, holds'⟩ := inv'.udpHolds live'
    rw [same] at holds'
    have other := holds'.group.eligible _ among
    have family := isV6_unique eligible.candidate.version other.candidate.version
    have protocol := eligible.candidate.ofProtocol
    rw [family, other.candidate.ofProtocol] at protocol
    exact absurd protocol (by decide)

/-- The flag is kept exactly when no packet is put in front of an item that has it. -/
theorem keepsPush_iff (fresh : FreshState s) (host : Host) (offset : Nat) (canUdpGro : Bool) :
    KeepsPush host offset canUdpGro s ↔
      ∀ n state, LoopReaches host offset canUdpGro s n state →
        ¬ PrependsToPush offset canUdpGro n state := by
  -- A prepend to an item with PSH hides the flag at once; without one, `PushOrdered` is kept.
  constructor
  · intro keeps n state reaches prepends
    obtain ⟨s', item', next, live', hidden⟩ := reaches.hidesPush fresh prepends
    exact hidden (keeps.table (n + 1) s' next item' live')
  · intro unpushed
    have table : ∀ n state, LoopReaches host offset canUdpGro s n state →
        ∀ item ∈ state.tcpTable.liveItems, ShowsPush offset state item :=
      fun n state reaches item live =>
        (reaches.pushOrdered fresh unpushed).showsPush (reaches.inv fresh) live
    refine ⟨table, fun s' ran item live merged => ?_⟩
    obtain ⟨final, ranLoop, ret⟩ := handleGro_returns fresh ran
    rw [ret.completed.tcpTable] at live
    obtain ⟨-, buf, here, holds⟩ := ret.inv.tcpHolds live
    have shows := table _ final ⟨ret.valid.few, ranLoop⟩ item live
    have kept : tcpPsh item.key.isV6 (packetAt offset s'.bufs item.bufsIndex.toNat) =
        tcpPsh item.key.isV6 (packetAt offset final.bufs item.bufsIndex.toNat) := by
      have flags : tcpFlags item.key.isV6 _ = tcpFlags item.key.isV6 _ :=
        (ret.tcp_agree live (UInt16.pos_iff_ne_zero.mp merged)).byteAt
          (accountingKeeps_tcp (Nat.le_add_right ..) (.inl (by rw [tcpFlagsOffset]; omega)))
      rw [tcpPsh, flags]
      rfl
    constructor
    case last =>
      rw [kept, ← shows]
      have last := List.getLast?_eq_some_getLast (List.ne_nil_of_length_pos holds.group.joined.parts_pos)
      rw [last]
      simp only [Option.some.injEq, exists_eq_left', holds.group.tcpPsh_last last]
    case others => exact fun part member => holds.group.tcpPsh_others member

end Run

theorem keepsPush_iff_swapped : KeepsPush plainHost 10 true (batchOf 200 swappedSegments) := by
  refine (keepsPush_iff (batchOf_fresh 200 swappedSegments) plainHost 10 true).mpr ?_
  intro n state reaches
  have inside : n ≤ 2 := (groLoop_valid (batchOf_fresh 200 swappedSegments) reaches.few n
    reaches.ran).1
  have unpushed : ∀ n < 3, ¬ PrependsToPush 10 true n
      (groStateAt plainHost 10 true n (batchOf 200 swappedSegments)) := by decide +kernel
  exact reaches.stateAt ▸ unpushed n (by omega)

/-- Two segments of one stream; the one with PSH comes first, but belongs behind the other. -/
def pushedSegments : List (List UInt8) :=
  [sentTcp false 5 (tcpFlagAck ||| tcpFlagPsh) 4096 [5, 6, 7, 8],
    sentTcp false 1 tcpFlagAck 4096 [1, 2, 3, 4]]

theorem keepsPush_lost : ¬ KeepsPush plainHost 10 true (batchOf 200 pushedSegments) := by
  intro keeps
  have run : (finalState (handleGro plainHost 10 true (batchOf 200 pushedSegments))).map (fun s' =>
      s'.tcpTable.liveItems.map fun item => (item.bufsIndex.toNat, item.key.isV6, item.numMerged,
        tcpPsh item.key.isV6 (packetAt 10 s'.bufs item.bufsIndex.toNat))) =
      some [(0, false, 1, false)] := by decide +kernel
  have parts : (groGroups plainHost 10 true (batchOf 200 pushedSegments) 2).parts 0 = [1, 0] := by
    decide +kernel
  have pushed : tcpPsh false (packetAt 10 (batchOf 200 pushedSegments).bufs 0) = true := by
    decide +kernel
  obtain ⟨s', _, ran, items⟩ := of_finalState_map run
  obtain ⟨item, live, shape⟩ := List.mem_map.mp (items ▸ List.mem_singleton_self _)
  simp only [Prod.mk.injEq] at shape
  obtain ⟨head, family, merged, shown⟩ := shape
  have kept := (keeps.emitted s' ran item live (by rw [merged]; decide)).last.mpr
  rw [shown, head, family] at kept
  have size : (batchOf 200 pushedSegments).bufs.length = 2 := rfl
  rw [size, parts] at kept
  cases kept ⟨_, rfl, pushed⟩

end QuincyTun.Linux
