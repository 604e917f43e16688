import QuincyTun.Linux.Stream

/-! How long a joined packet can get.

Nothing but the capacity of its buffer bounds a group, while the length fields
have sixteen bits. The lengths are right exactly when every packet that joins a
group finds room below 65536 bytes.
-/

set_option autoImplicit false

namespace QuincyTun.Linux

open QuincyTun.Foundation

/-- If packet `k` joins a group, the joined packet has at most 65535 bytes. -/
def StepFits (offset : Nat) (canUdpGro : Bool) (k : Nat) (s : GroState) : Prop :=
  match groMove offset canUdpGro k s with
  | .stand => True
  | .append head | .prepend head =>
    (packetAt offset s.bufs head).length + (payloadOf (packetAt offset s.bufs k)).length ≤ 65535

instance (offset : Nat) (canUdpGro : Bool) (k : Nat) (s : GroState) :
    Decidable (StepFits offset canUdpGro k s) := by
  unfold StepFits
  split <;> infer_instance

/-! ## Runs -/

structure LoopEnds (host : Host) (offset : Nat) (canUdpGro : Bool) (s final : GroState) : Prop where
  few : s.bufs.length ≤ 65535
  ran : groLoop host offset canUdpGro s.bufs.length s = .ok (final, .ok ())

section Run

variable {host : Host} {offset n : Nat} {canUdpGro : Bool} {s final : GroState}

theorem LoopEnds.reaches (ends : LoopEnds host offset canUdpGro s final) :
    LoopReaches host offset canUdpGro s s.bufs.length final := ⟨ends.few, ends.ran⟩

theorem LoopEnds.valid (ends : LoopEnds host offset canUdpGro s final) (fresh : FreshState s) :
    ValidBatch s.bufs offset s.bufs.length := ends.reaches.valid fresh

theorem LoopEnds.inv (ends : LoopEnds host offset canUdpGro s final) (fresh : FreshState s) :
    GroInv s.bufs offset canUdpGro s.bufs.length final
      (groGroups host offset canUdpGro s s.bufs.length) := ends.reaches.inv fresh

theorem groupLength_joined (fresh : FreshState s)
    (valid : ValidBatch s.bufs offset s.bufs.length) (inside : n < s.bufs.length) {head : Nat}
    (joins : groMove offset canUdpGro n (groStateAt host offset canUdpGro n s) = .append head ∨
      groMove offset canUdpGro n (groStateAt host offset canUdpGro n s) = .prepend head) :
    groupLength offset s.bufs head ((groGroups host offset canUdpGro s (n + 1)).parts head) =
      (packetAt offset (groStateAt host offset canUdpGro n s).bufs head).length +
        (payloadOf (packetAt offset (groStateAt host offset canUdpGro n s).bufs n)).length := by
  have inv := groStateAt_inv host canUdpGro fresh valid inside.le
  have after := (groStateAt_inv host canUdpGro fresh valid
    (Nat.succ_le_of_lt inside)).batch.partition
  have member := inv.batch.partition.joined_mem after joins
  obtain ⟨-, ⟨-, grows⟩ | ⟨apart, -⟩⟩ := inv.batch.partition.step_parts
    (groMove offset canUdpGro n (groStateAt host offset canUdpGro n s)) member
  · rw [inv.length_packet (valid.mono inside.le) member,
      packetAt_congr (inv.batch.pending n le_rfl)]
    exact groupLength_perm grows
  · exact absurd joins apart

theorem stepFits_iff (offset : Nat) (canUdpGro : Bool) (k : Nat) (s : GroState) :
    StepFits offset canUdpGro k s ↔
      ∀ head, groMove offset canUdpGro k s = .append head ∨
          groMove offset canUdpGro k s = .prepend head →
        (packetAt offset s.bufs head).length + (payloadOf (packetAt offset s.bufs k)).length ≤
          65535 := by
  unfold StepFits
  cases groMove offset canUdpGro k s with
  | stand => simp
  | append head => simp
  | prepend head => simp

theorem groupLength_mono (fresh : FreshState s) (valid : ValidBatch s.bufs offset s.bufs.length)
    {m : Nat} (later : m ≤ n) (inside : n ≤ s.bufs.length) {head : Nat}
    (member : head ∈ (groGroups host offset canUdpGro s m).heads) :
    head ∈ (groGroups host offset canUdpGro s n).heads ∧
      groupLength offset s.bufs head ((groGroups host offset canUdpGro s m).parts head) ≤
        groupLength offset s.bufs head ((groGroups host offset canUdpGro s n).parts head) ∧
      ((groGroups host offset canUdpGro s m).parts head).length ≤
        ((groGroups host offset canUdpGro s n).parts head).length := by
  induction n, later using Nat.le_induction with
  | base => exact ⟨member, le_rfl, le_rfl⟩
  | succ n later ih =>
    obtain ⟨known, longer, more⟩ := ih (by omega)
    have inv := groStateAt_inv host canUdpGro fresh valid (by omega : n ≤ _)
    obtain ⟨stays, ⟨-, grows⟩ | ⟨-, kept⟩⟩ := inv.batch.partition.step_parts
      (groMove offset canUdpGro n (groStateAt host offset canUdpGro n s)) known
    · refine ⟨stays, longer.trans ?_, more.trans ?_⟩
      · rw [groGroups, groupLength_perm grows]
        exact Nat.le_add_right ..
      · rw [groGroups, grows.length_eq]
        exact Nat.le_succ _
    · refine ⟨stays, ?_, ?_⟩
      · rw [groGroups, kept]
        exact longer
      · rw [groGroups, kept]
        exact more

/-- When every step fits, so does every group of several packets. -/
theorem groupLength_le (fresh : FreshState s) (valid : ValidBatch s.bufs offset s.bufs.length)
    (inside : n ≤ s.bufs.length)
    (fits : ∀ k < n, StepFits offset canUdpGro k (groStateAt host offset canUdpGro k s))
    {head : Nat} (member : head ∈ (groGroups host offset canUdpGro s n).heads)
    (several : 2 ≤ ((groGroups host offset canUdpGro s n).parts head).length) :
    groupLength offset s.bufs head ((groGroups host offset canUdpGro s n).parts head) ≤ 65535 := by
  induction n with
  | zero => cases member
  | succ n ih =>
    have inv := groStateAt_inv host canUdpGro fresh valid (by omega : n ≤ _)
    rcases Grouping.mem_step_heads member with known | ⟨-, single⟩
    · obtain ⟨-, ⟨joins, grows⟩ | ⟨-, kept⟩⟩ := inv.batch.partition.step_parts
        (groMove offset canUdpGro n (groStateAt host offset canUdpGro n s)) known
      · rw [groupLength_joined fresh valid (by omega) joins]
        exact (stepFits_iff ..).mp (fits n n.lt_succ_self) head joins
      · rw [groGroups, kept] at several ⊢
        exact ih (by omega) (fun k small => fits k (by omega)) known several
    · rw [groGroups, single] at several
      simp at several

/-- Both narrowing conversions of the accounting give the real lengths. -/
def NarrowsExactly (len : Nat) (iphLen : UInt8) : Prop :=
  (UInt16.ofNat len).toNat = len ∧
    ∃ rest, subU16 (UInt16.ofNat len) iphLen.toUInt16 = .ok rest ∧
      rest.toNat = len - iphLen.toNat

/-- Every joined packet fits the 16-bit length fields, and the call returns with it. -/
structure LengthsFit (host : Host) (offset : Nat) (canUdpGro : Bool) (s final : GroState) :
    Prop where
  tcp : ∀ item ∈ final.tcpTable.liveItems, item.numMerged > 0 →
    (packetAt offset final.bufs item.bufsIndex.toNat).length ≤ 65535 ∧
      NarrowsExactly (packetAt offset final.bufs item.bufsIndex.toNat).length item.iphLen
  udp : ∀ item ∈ final.udpTable.liveItems, item.numMerged > 0 →
    (packetAt offset final.bufs item.bufsIndex.toNat).length ≤ 65535 ∧
      NarrowsExactly (packetAt offset final.bufs item.bufsIndex.toNat).length item.iphLen
  returns : ∃ s', handleGro host offset canUdpGro s = .ok (s', .ok ()) ∧
    ∀ k, MergedAt s' k → (packetAt offset s'.bufs k).length ≤ 65535

theorem narrowsExactly {len : Nat} {iphLen : UInt8} {isV6 : Bool}
    (iph : iphLen.toNat = ipHLen isV6) (long : ipHLen isV6 ≤ len) (short : len ≤ 65535) :
    NarrowsExactly len iphLen := by
  refine ⟨toNat_ofNat_of_le short, _, toNat_subU16_ipHLen iph long short, ?_⟩
  rw [toNat_ofNat_of_le (by omega), iph]

theorem GroInv.visitable {input : List ExpandBuffer} {groups : Grouping} (host : Host)
    (inv : GroInv input offset canUdpGro n s groups) (valid : ValidBatch input offset n)
    (inside : n ≤ input.length)
    (short : ∀ k, MergedAt s k → (packetAt offset s.bufs k).length ≤ 65535) :
    (∀ item ∈ s.tcpTable.liveItems,
      Visitable TcpGROItem.bufsIndex (TcpGROItem.visit host offset) s.bufs item) ∧
    ∀ item ∈ s.udpTable.liveItems,
      Visitable UdpGROItem.bufsIndex (UdpGROItem.visit host offset) s.bufs item := by
  have room : ∀ k ∈ groups.heads, virtioNetHdrLen ≤ offset := fun k member => by
    have small := inv.batch.partition.bound k member
    exact (valid.room k _ small (List.getElem?_eq_getElem (by omega))).1
  -- A packet of its own is always accounted for; a joined one needs its length to fit.
  constructor
  · intro item live
    obtain ⟨known, buf, here, holds⟩ := inv.tcpHolds live
    have long := holds.group.headers_lt
    have minimal := holds.group.headerLen
    by_cases single : item.numMerged = 0
    · exact ⟨_, buf, _, item.visit_single host offset single, here,
        accountSingle_ok host (room _ known) holds.offset_le⟩
    · have small := short _ (.inl ⟨item, live, rfl, UInt16.pos_iff_ne_zero.mpr single⟩)
      rw [packetAt_of_getElem? here] at small
      obtain ⟨buf', visited, -, -⟩ := accountMerged_ok host buf item.offload
        ipProtoTcp (room _ known) holds.group.iphLen rfl rfl
        (by rw [transportCsumOffset, if_pos rfl]; omega) small
      exact ⟨_, buf, buf', item.visit_merged host offset holds.group single, here, visited⟩
  · intro item live
    obtain ⟨known, buf, here, holds⟩ := inv.udpHolds live
    have long := holds.group.headers_lt
    have width : udpHLen = 8 := rfl
    have csumAt : transportCsumOffset ipProtoUdp = 6 := rfl
    by_cases single : item.numMerged = 0
    · exact ⟨_, buf, _, item.visit_single host offset single, here,
        accountSingle_ok host (room _ known) holds.offset_le⟩
    · have small := short _ (.inr ⟨item, live, rfl, UInt16.pos_iff_ne_zero.mpr single⟩)
      rw [packetAt_of_getElem? here] at small
      obtain ⟨buf', visited, -, -⟩ := accountMerged_ok host buf item.offload
        ipProtoUdp (room _ known) holds.group.iphLen rfl rfl
        (by omega) small
      exact ⟨_, buf, buf', item.visit_merged host offset holds.group single, here, visited⟩

theorem Returns.length_packet {s' : GroState} (ret : Returns host offset canUdpGro s final s')
    {k : Nat} (merged : MergedAt final k) :
    (packetAt offset s'.bufs k).length = (packetAt offset final.bufs k).length := by
  rcases merged with ⟨item, live, rfl, merged⟩ | ⟨item, live, rfl, merged⟩
  · obtain ⟨buf, buf', here, is, framed⟩ := ret.tcp_framed live (UInt16.pos_iff_ne_zero.mp merged)
    rw [packetAt_of_getElem? here, packetAt_of_getElem? is, List.length_drop, List.length_drop,
      framed.size]
  · obtain ⟨buf, buf', here, is, framed⟩ := ret.udp_framed live (UInt16.pos_iff_ne_zero.mp merged)
    rw [packetAt_of_getElem? here, packetAt_of_getElem? is, List.length_drop, List.length_drop,
      framed.size]

theorem GroInv.joined_le (inv : GroInv s.bufs offset canUdpGro s.bufs.length final
      (groGroups host offset canUdpGro s s.bufs.length)) (fresh : FreshState s)
    (valid : ValidBatch s.bufs offset s.bufs.length)
    (fits : ∀ k < s.bufs.length,
      StepFits offset canUdpGro k (groStateAt host offset canUdpGro k s))
    {k : Nat} (merged : MergedAt final k) : (packetAt offset final.bufs k).length ≤ 65535 := by
  obtain ⟨member, several⟩ := (inv.mergedAt_iff k).mp merged
  rw [inv.length_packet valid member]
  exact groupLength_le fresh valid le_rfl fits member several

/-- When no joined packet is too long in the end, no step made one too long. -/
theorem GroInv.stepFits (inv : GroInv s.bufs offset canUdpGro s.bufs.length final
      (groGroups host offset canUdpGro s s.bufs.length)) (fresh : FreshState s)
    (valid : ValidBatch s.bufs offset s.bufs.length)
    (short : ∀ k, MergedAt final k → (packetAt offset final.bufs k).length ≤ 65535) {k : Nat}
    (inside : k < s.bufs.length) :
    StepFits offset canUdpGro k (groStateAt host offset canUdpGro k s) := by
  rw [stepFits_iff]
  intro head joins
  have before := groStateAt_inv host canUdpGro fresh valid inside.le
  have after := groStateAt_inv host canUdpGro fresh valid (Nat.succ_le_of_lt inside)
  have known := before.batch.partition.joined_mem after.batch.partition joins
  obtain ⟨stays, ⟨-, grows⟩ | ⟨apart, -⟩⟩ := before.batch.partition.step_parts
    (groMove offset canUdpGro k (groStateAt host offset canUdpGro k s)) known
  case inr => exact absurd joins apart
  -- The group only grows afterwards, and its packet is in the final state.
  obtain ⟨member, longer, more⟩ := groupLength_mono fresh valid (Nat.succ_le_of_lt inside) le_rfl
    stays
  have opening := List.length_pos_of_mem (before.batch.partition.opening head known)
  have several := grows.length_eq
  rw [List.length_cons] at several
  have merged : MergedAt final head := (inv.mergedAt_iff head).mpr ⟨member, by
    rw [groGroups] at more
    omega⟩
  have bound := short head merged
  rw [inv.length_packet valid member] at bound
  rw [← groupLength_joined fresh valid inside joins]
  exact longer.trans bound

theorem returns_of_short (host : Host) (canUdpGro : Bool) (fresh : FreshState s)
    (valid : ValidBatch s.bufs offset s.bufs.length)
    (short : ∀ reached, GroInv s.bufs offset canUdpGro s.bufs.length reached
        (groGroups host offset canUdpGro s s.bufs.length) →
      ∀ k, MergedAt reached k → (packetAt offset reached.bufs k).length ≤ 65535) :
    ∃ s' final, handleGro host offset canUdpGro s = .ok (s', .ok ()) ∧
      Returns host offset canUdpGro s final s' ∧
      ∀ k, MergedAt final k → (packetAt offset s'.bufs k).length ≤ 65535 := by
  obtain ⟨s', ran⟩ := handleGro_total host canUdpGro fresh valid fun reached inv =>
    inv.visitable host valid le_rfl (short reached inv)
  obtain ⟨final, -, ret⟩ := handleGro_returns fresh ran
  refine ⟨s', final, ran, ret, fun k merged => ?_⟩
  rw [ret.length_packet merged]
  exact short final ret.inv k merged

/-- Joined packets fit exactly when every packet that joins a group finds room. -/
theorem lengthsFit_iff (fresh : FreshState s) (ends : LoopEnds host offset canUdpGro s final) :
    LengthsFit host offset canUdpGro s final ↔
      ∀ k < s.bufs.length, StepFits offset canUdpGro k (groStateAt host offset canUdpGro k s) := by
  have valid := ends.valid fresh
  have inv := ends.inv fresh
  constructor
  · intro fit k inside
    refine inv.stepFits fresh valid (fun k merged => ?_) inside
    rcases merged with ⟨item, live, rfl, merged⟩ | ⟨item, live, rfl, merged⟩
    · exact (fit.tcp item live merged).1
    · exact (fit.udp item live merged).1
  · intro fits
    refine ⟨fun item live merged => ?_, fun item live merged => ?_, ?_⟩
    · have small := inv.joined_le fresh valid fits (.inl ⟨item, live, rfl, merged⟩)
      obtain ⟨-, buf, here, holds⟩ := inv.tcpHolds live
      have long := holds.group.headers_lt
      rw [packetAt_of_getElem? here] at small ⊢
      exact ⟨small, narrowsExactly holds.group.iphLen (by omega) small⟩
    · have small := inv.joined_le fresh valid fits (.inr ⟨item, live, rfl, merged⟩)
      obtain ⟨-, buf, here, holds⟩ := inv.udpHolds live
      have long := holds.group.headers_lt
      rw [packetAt_of_getElem? here] at small ⊢
      exact ⟨small, narrowsExactly holds.group.iphLen (by omega) small⟩
    · obtain ⟨s', reached, ran, ret, short⟩ := returns_of_short host canUdpGro fresh valid
        fun other otherInv k merged => otherInv.joined_le fresh valid fits merged
      exact ⟨s', ran, fun k merged => short k ((ret.completed.mergedAt k).mp merged)⟩

theorem lengthsFit_iff_datagrams : ∃ final,
    LoopEnds plainHost 10 true (batchOf 200 twoDatagrams) final ∧
      LengthsFit plainHost 10 true (batchOf 200 twoDatagrams) final := by
  have run : (finalState (groLoop plainHost 10 true 2 (batchOf 200 twoDatagrams))).isSome = true := by
    decide +kernel
  obtain ⟨final, found⟩ := Option.isSome_iff_exists.mp run
  obtain ⟨_, ran⟩ := finalState_eq_some found
  have ends : LoopEnds plainHost 10 true (batchOf 200 twoDatagrams) final := ⟨by decide, ran⟩
  refine ⟨final, ends, (lengthsFit_iff (batchOf_fresh 200 twoDatagrams) ends).mpr ?_⟩
  have fits : ∀ k < 2, StepFits 10 true k
      (groStateAt plainHost 10 true k (batchOf 200 twoDatagrams)) := by decide +kernel
  exact fits

/-- Datagrams that add up to more than the length fields can state are joined all the same. -/
theorem sentUdp_exceeds {isV6 : Bool} {payload : List UInt8} {capacity : Nat} (host : Host)
    (several : 2 ≤ n) (few : n ≤ 65535) (nonempty : payload ≠ [])
    (short : ipHLen isV6 + udpHLen + payload.length ≤ 65535)
    (room : 2 * virtioNetHdrLen + (ipHLen isV6 + udpHLen + n * payload.length) ≤ capacity)
    (exceeds : 65535 < ipHLen isV6 + udpHLen + n * payload.length) : ∃ final,
      LoopEnds host virtioNetHdrLen true
          (batchOf capacity (List.replicate n (sentUdp isV6 payload))) final ∧
        ¬ LengthsFit host virtioNetHdrLen true
          (batchOf capacity (List.replicate n (sentUdp isV6 payload))) final := by
  have stream := sentUdp_stream several nonempty short room
  have total := @groupLength_sentUdp _ _ capacity _ several nonempty short
  have fresh := batchOf_fresh capacity (List.replicate n (sentUdp isV6 payload))
  have sent : sentUdp isV6 payload ≠ [] := by
    refine List.length_pos_iff.mp ?_
    rw [length_sentUdp]
    exact Nat.lt_of_lt_of_le (List.length_pos_iff.mpr nonempty) (Nat.le_add_left ..)
  have valid : ValidBatch (batchOf capacity (List.replicate n (sentUdp isV6 payload))).bufs
      virtioNetHdrLen n :=
    batchOf_valid capacity (by rwa [List.length_replicate])
      (fun pkt member => List.eq_of_mem_replicate member ▸ sent) n
  have count : (batchOf capacity (List.replicate n (sentUdp isV6 payload))).bufs.length = n := by
    rw [batchOf, List.length_map, List.length_replicate]
  generalize batchOf capacity (List.replicate n (sentUdp isV6 payload)) = s at *
  subst count
  -- Every datagram joins the first one, so a single packet carries all payloads.
  have one := stream.oneGroup host fresh valid
  obtain ⟨final, ran, inv⟩ := groLoop_spec host true fresh _ le_rfl valid
  refine ⟨final, ⟨few, ran⟩, fun fit => ?_⟩
  obtain ⟨item, live, merged⟩ := inv.merged_udp one several (stream.eligible 0 (by omega))
  obtain ⟨-, zero⟩ := inv.udp_only one live
  have bound := (fit.udp item live merged).1
  rw [zero, inv.length_packet valid (one.heads ▸ List.mem_cons_self), one.parts, total] at bound
  omega

/-- Each of the two datagrams can be sent, but not what they are joined to. -/
def longDatagrams : List (List UInt8) := List.replicate 2 (sentUdp true (List.replicate 32744 0))

theorem lengthsFit_exceeded : ∃ final,
    LoopEnds plainHost 10 true (batchOf 70000 longDatagrams) final ∧
      ¬ LengthsFit plainHost 10 true (batchOf 70000 longDatagrams) final := by
  have len : (List.replicate 32744 (0 : UInt8)).length = 32744 := List.length_replicate ..
  exact sentUdp_exceeds plainHost le_rfl (by decide)
    (List.length_pos_iff.mp (by rw [len]; decide)) (by rw [len]; decide) (by rw [len]; decide)
    (by rw [len]; decide)

end Run

end QuincyTun.Linux
