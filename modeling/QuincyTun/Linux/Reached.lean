import QuincyTun.Linux.GroResult

/-! The states that the loop of one call goes through, and the moves that it makes there. -/

set_option autoImplicit false

namespace QuincyTun.Linux

open QuincyTun.Foundation

/-- The state in which a call is after `n` iterations of its loop. -/
structure LoopReaches (host : Host) (offset : Nat) (canUdpGro : Bool) (s : GroState) (n : Nat)
    (state : GroState) : Prop where
  few : s.bufs.length ≤ 65535
  ran : groLoop host offset canUdpGro n s = .ok (state, .ok ())

/-! ## Moves -/

section Move

variable {bufs : List ExpandBuffer} {offset n head : Nat} {canUdpGro isV6 : Bool} {s : GroState}
  {pkt : List UInt8}

theorem tcpTakes_prepend {segment : TcpSegment} {item : TcpGROItem}
    (taken : tcpTakes offset bufs pkt n segment isV6 item = some (.prepend head)) :
    item.bufsIndex.toNat = head := by
  unfold tcpTakes at taken
  simp only [] at taken
  split at taken
  · split at taken <;> cases taken
  · split at taken
    · cases taken
      rfl
    · cases taken
  · cases taken

theorem tcpMove_prepend {table : TcpGROTable}
    (move : tcpMove offset bufs pkt n table isV6 = .prepend head) :
    ∃ item ∈ table.liveItems, item.bufsIndex.toNat = head := by
  unfold tcpMove at move
  split at move
  case h_1 segment items parsed stored =>
    cases first : items.reverse.findSome? (tcpTakes offset bufs pkt n segment isV6) with
    | none =>
      rw [first] at move
      cases move
    | some found =>
      rw [first] at move
      obtain ⟨item, member, taken⟩ := List.exists_of_findSome?_eq_some first
      refine ⟨item, FlowMap.mem_items.mpr ⟨_, items, stored, List.mem_reverse.mp member⟩, ?_⟩
      exact tcpTakes_prepend (taken.trans (congrArg some move))
  case h_2 => cases move

theorem udpMove_ne_prepend {table : UdpGROTable} :
    udpMove offset bufs pkt table isV6 ≠ .prepend head := by
  intro move
  unfold udpMove at move
  split at move
  case h_1 datagram items parsed stored =>
    cases last : items.getLast? with
    | none =>
      rw [last] at move
      cases move
    | some item =>
      rw [last] at move
      simp only [Option.bind_some, udpTakes] at move
      split at move
      · split at move <;> cases move
      · cases move
  case h_2 => cases move

theorem groMove_prepend (move : groMove offset canUdpGro n s = .prepend head) :
    ∃ item ∈ s.tcpTable.liveItems, item.bufsIndex.toNat = head := by
  unfold groMove at move
  simp only [] at move
  split at move
  · exact tcpMove_prepend move
  · exact tcpMove_prepend move
  · exact absurd move udpMove_ne_prepend
  · exact absurd move udpMove_ne_prepend
  · cases move

theorem groMove_candidate (joins : groMove offset canUdpGro n s ≠ .stand) :
    28 ≤ (packetAt offset s.bufs n).length := by
  by_contra short
  refine joins ?_
  simp only [groMove, packetIsGroCandidate, if_pos (Nat.lt_of_not_le short)]

end Move

/-! ## Reached states -/

theorem groGroups_eq_run (host : Host) (offset : Nat) (canUdpGro : Bool) (s : GroState) (n : Nat) :
    groGroups host offset canUdpGro s n = Grouping.run
      (fun k => groMove offset canUdpGro k (groStateAt host offset canUdpGro k s)) n := by
  induction n with
  | zero => rfl
  | succ n ih => rw [groGroups, Grouping.run, ih]

section Run

variable {host : Host} {offset n : Nat} {canUdpGro : Bool} {s s' state : GroState}

theorem groStateAt_inv (host : Host) (canUdpGro : Bool) (fresh : FreshState s)
    (valid : ValidBatch s.bufs offset s.bufs.length) (inside : n ≤ s.bufs.length) :
    GroInv s.bufs offset canUdpGro n (groStateAt host offset canUdpGro n s)
      (groGroups host offset canUdpGro s n) := by
  obtain ⟨before, ran, inv⟩ := groLoop_spec host canUdpGro fresh n inside
    (valid.mono inside)
  rwa [groStateAt, ran]

theorem groGroups_partition (host : Host) (canUdpGro : Bool) (fresh : FreshState s)
    (valid : ValidBatch s.bufs offset s.bufs.length) :
    ∀ i ≤ s.bufs.length, (Grouping.run (fun k => groMove offset canUdpGro k
      (groStateAt host offset canUdpGro k s)) i).Partition i := by
  intro i inside
  rw [← groGroups_eq_run]
  exact (groStateAt_inv host canUdpGro fresh valid inside).batch.partition

theorem groGroups_oneGroup (host : Host) (canUdpGro : Bool) (fresh : FreshState s)
    (valid : ValidBatch s.bufs offset s.bufs.length) (seen : 0 < s.bufs.length)
    (joins : ∀ m, 0 < m → m < s.bufs.length → (groGroups host offset canUdpGro s m).OneGroup m →
      groMove offset canUdpGro m (groStateAt host offset canUdpGro m s) = .append 0) :
    (groGroups host offset canUdpGro s s.bufs.length).OneGroup s.bufs.length := by
  have partition := groGroups_partition host canUdpGro fresh valid
  rw [groGroups_eq_run]
  refine Grouping.run_oneGroup (Grouping.run_opens fun i small => partition i (by omega))
    (fun m positive inside one => ?_) seen
  rw [← groGroups_eq_run] at one
  exact joins m positive inside one

namespace LoopReaches

theorem valid (reaches : LoopReaches host offset canUdpGro s n state) (fresh : FreshState s) :
    ValidBatch s.bufs offset n := (groLoop_valid fresh reaches.few n reaches.ran).2

theorem inv (reaches : LoopReaches host offset canUdpGro s n state) (fresh : FreshState s) :
    GroInv s.bufs offset canUdpGro n state (groGroups host offset canUdpGro s n) := by
  obtain ⟨inside, valid⟩ := groLoop_valid fresh reaches.few n reaches.ran
  obtain ⟨reached, ranAgain, inv⟩ := groLoop_spec host canUdpGro fresh n inside valid
  obtain rfl := congrArg Prod.fst (Except.ok.inj (reaches.ran.symm.trans ranAgain))
  exact inv

theorem stateAt (reaches : LoopReaches host offset canUdpGro s n state) :
    groStateAt host offset canUdpGro n s = state := by
  rw [groStateAt, reaches.ran]

theorem before (reaches : LoopReaches host offset canUdpGro s (n + 1) s') :
    ∃ state, LoopReaches host offset canUdpGro s n state := by
  obtain ⟨⟨state, outcome⟩, ran, later⟩ := Run.bind_eq_ok.mp reaches.ran
  cases outcome with
  | error error => cases later
  | ok _ => exact ⟨state, reaches.few, ran⟩

theorem after (reaches : LoopReaches host offset canUdpGro s n state) (fresh : FreshState s)
    (joins : groMove offset canUdpGro n state ≠ .stand) (seen : 0 < n) :
    n < s.bufs.length ∧ ∃ s', LoopReaches host offset canUdpGro s (n + 1) s' := by
  have inv := reaches.inv fresh
  have valid := reaches.valid fresh
  have long := groMove_candidate joins
  rw [packetAt_congr (inv.batch.pending n le_rfl)] at long
  unfold packetAt at long
  cases own : s.bufs[n]? with
  | none =>
    rw [own] at long
    cases long
  | some buf =>
    rw [own, List.length_drop] at long
    have inside : n < s.bufs.length := (List.getElem?_eq_some_iff.mp own).1
    have first := valid.room 0 _ seen (List.getElem?_eq_getElem (by omega))
    have valid' := valid.succ own ⟨first.1, by omega⟩
    obtain ⟨s', ran, -⟩ := groLoop_spec host canUdpGro fresh (n + 1) inside valid'
    exact ⟨inside, s', reaches.few, ran⟩

end LoopReaches

end Run

end QuincyTun.Linux
