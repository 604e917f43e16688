import QuincyTun.Linux.RoundTrip
import QuincyTun.Linux.UdpJoins

/-! The length field of UDP.

Receive offload takes the length of a datagram from the IP header, and the checksum
that it verifies is computed with that length. The field of the UDP header is not
looked at, so bytes behind the datagram become payload when it is joined.
-/

set_option autoImplicit false

namespace QuincyTun.Linux

open QuincyTun.Foundation

/-- The UDP header states the length that the IP header leaves for it. -/
def LabelsLength (isV6 : Bool) (pkt : List UInt8) : Prop :=
  (udpLength isV6 pkt).toNat = pkt.length - ipHLen isV6

instance (isV6 : Bool) (pkt : List UInt8) : Decidable (LabelsLength isV6 pkt) :=
  inferInstanceAs (Decidable (_ = _))

/-- The payload that the UDP header delimits, if the packet holds it. -/
def applicationPayload (isV6 : Bool) (pkt : List UInt8) : Option (List UInt8) :=
  if udpHLen ≤ (udpLength isV6 pkt).toNat ∧
      ipHLen isV6 + (udpLength isV6 pkt).toNat ≤ pkt.length then
    some (window pkt (ipHLen isV6 + udpHLen) ((udpLength isV6 pkt).toNat - udpHLen))
  else none

theorem LabelsLength.applicationPayload {isV6 : Bool} {pkt : List UInt8}
    (labels : LabelsLength isV6 pkt) (long : ipHLen isV6 + udpHLen ≤ pkt.length) :
    applicationPayload isV6 pkt = some (udpPayload isV6 pkt) := by
  have length : (udpLength isV6 pkt).toNat = pkt.length - ipHLen isV6 := labels
  rw [Linux.applicationPayload, if_pos (by omega), window, udpPayload, List.take_of_length_le]
  rw [List.length_drop]
  omega

theorem LabelsLength.of_applicationPayload {isV6 : Bool} {pkt : List UInt8}
    (delimited : Linux.applicationPayload isV6 pkt = some (udpPayload isV6 pkt))
    (long : ipHLen isV6 + udpHLen ≤ pkt.length) : LabelsLength isV6 pkt := by
  unfold Linux.applicationPayload at delimited
  split at delimited
  case isFalse => cases delimited
  case isTrue inside =>
    have size := congrArg List.length (Option.some.inj delimited)
    rw [length_window _ _ _ (by omega), udpPayload, List.length_drop] at size
    rw [LabelsLength]
    omega

/-- A receiver that cuts the packet of an item gets the payloads of the datagrams. -/
def ReadsPayloads (host : Host) (offset : Nat) (input : List ExpandBuffer) (s' : GroState)
    (item : UdpGROItem) (parts : List Nat) : Prop :=
  ∃ buf hdr, s'.bufs[item.bufsIndex.toNat]? = some buf ∧
    VirtioNetHdr.decode host.bigEndian (buf.virtioHeader offset) = .ok hdr ∧
    ∀ out outOffset, out.input = buf.bytes.drop offset →
      OutputsFor out outOffset (parts.map (packetAt offset input)) →
      ∃ out', handleVirtioRead hdr out outOffset = .ok (out', .ok (item.numMerged.toNat + 1)) ∧
        ∀ i k, parts[i]? = some k →
          applicationPayload item.key.isV6 (out'.packet outOffset i) =
            applicationPayload item.key.isV6 (packetAt offset input k)

def KeepsUdpPayloads (host : Host) (offset : Nat) (canUdpGro : Bool) (s s' : GroState) : Prop :=
  ∀ item ∈ s'.udpTable.liveItems, item.numMerged > 0 →
    ReadsPayloads host offset s.bufs s' item
      ((groGroups host offset canUdpGro s s.bufs.length).parts item.bufsIndex.toNat)

structure RespectsUdpLength (host : Host) (offset : Nat) (canUdpGro : Bool) (s s' : GroState) :
    Prop where
  labelled : ∀ item ∈ s'.udpTable.liveItems, item.numMerged > 0 →
    ∀ k ∈ (groGroups host offset canUdpGro s s.bufs.length).parts item.bufsIndex.toNat,
      LabelsLength item.key.isV6 (packetAt offset s.bufs k)
  payloads : KeepsUdpPayloads host offset canUdpGro s s'

/-- The next datagram joins the packet at `head`, and one of the two does not state its length. -/
def JoinsMislabelled (offset : Nat) (canUdpGro : Bool) (input : List ExpandBuffer) (n : Nat)
    (s : GroState) : Prop :=
  ∃ head, JoinsDatagram offset canUdpGro n s head ∧ ∃ k ∈ [head, n], ∃ isV6,
    UdpEligible isV6 (packetAt offset input k) ∧ ¬ LabelsLength isV6 (packetAt offset input k)

section Call

variable {host : Host} {offset : Nat} {canUdpGro : Bool} {s final s' : GroState}
  {item : UdpGROItem}

theorem UdpHolds.headers_le {input : List ExpandBuffer} {parts : List Nat} {buf : ExpandBuffer}
    (holds : UdpHolds input offset item parts buf) {k : Nat} (part : k ∈ parts) :
    ipHLen item.key.isV6 + udpHLen ≤ (packetAt offset input k).length :=
  (holds.group.eligible _ (List.mem_map_of_mem part)).payload.le

/-- Every segment states its own length, so what a receiver takes for the payload of a datagram is
all that the datagram had behind its UDP header. -/
theorem Returns.udp_payloads (ret : Returns host offset canUdpGro s final s')
    (live : item ∈ final.udpTable.liveItems) (merged : item.numMerged > 0) :
    ∃ buf, s'.bufs[item.bufsIndex.toNat]? = some buf ∧
      VirtioNetHdr.decode host.bigEndian (buf.virtioHeader offset) = .ok item.offload ∧
      ∀ out outOffset, out.input = buf.bytes.drop offset →
        OutputsFor out outOffset (((groGroups host offset canUdpGro s s.bufs.length).parts
          item.bufsIndex.toNat).map (packetAt offset s.bufs)) →
        ∃ out', handleVirtioRead item.offload out outOffset =
            .ok (out', .ok (item.numMerged.toNat + 1)) ∧
          ∀ i k, ((groGroups host offset canUdpGro s s.bufs.length).parts
              item.bufsIndex.toNat)[i]? = some k →
            applicationPayload item.key.isV6 (out'.packet outOffset i) =
              some (udpPayload item.key.isV6 (packetAt offset s.bufs k)) := by
  obtain ⟨buf, is, decoded, reads⟩ := ret.udp_read live merged
  obtain ⟨-, held, -, holds⟩ := ret.inv.udpHolds live
  refine ⟨buf, is, decoded, fun out outOffset input outputs => ?_⟩
  obtain ⟨out', read, back⟩ := reads out outOffset input outputs
  refine ⟨out', read, fun i k part => ?_⟩
  obtain ⟨same, -, length⟩ := back i k part
  have member := List.mem_of_getElem? part
  have inside := holds.headers_le member
  have nonempty := (holds.group.eligible _ (List.mem_map_of_mem member)).payload
  have size := congrArg List.length same.payload
  rw [udpPayload, udpPayload, List.length_drop, List.length_drop] at size
  rw [LabelsLength.applicationPayload length (by omega), same.payload]

theorem Returns.readsPayloads_iff (ret : Returns host offset canUdpGro s final s')
    (live : item ∈ final.udpTable.liveItems) (merged : item.numMerged > 0) :
    ReadsPayloads host offset s.bufs s' item
        ((groGroups host offset canUdpGro s s.bufs.length).parts item.bufsIndex.toNat) ↔
      ∀ k ∈ (groGroups host offset canUdpGro s s.bufs.length).parts item.bufsIndex.toNat,
        LabelsLength item.key.isV6 (packetAt offset s.bufs k) := by
  obtain ⟨buf, is, decoded, cut⟩ := ret.udp_payloads live merged
  obtain ⟨known, held, -, holds⟩ := ret.inv.udpHolds live
  constructor
  · rintro ⟨buf', hdr, is', decoded', same⟩ k part
    obtain rfl := Option.some.inj (is.symm.trans is')
    obtain rfl := Except.ok.inj (decoded.symm.trans decoded')
    have few : (((groGroups host offset canUdpGro s s.bufs.length).parts
        item.bufsIndex.toNat).map (packetAt offset s.bufs)).length ≤ 65535 := by
      rw [List.length_map]
      exact (ret.inv.batch.partition.length_parts_le known).trans ret.valid.few
    have outputs := blankOutputs_for (buf.bytes.drop offset) 0 few
    obtain ⟨out', read, back⟩ := cut _ 0 rfl outputs
    obtain ⟨other, readSame, kept⟩ := same _ 0 rfl outputs
    obtain rfl := (Prod.mk.inj (Except.ok.inj (read.symm.trans readSame))).1
    obtain ⟨i, found⟩ := List.mem_iff_getElem?.mp part
    exact .of_applicationPayload ((kept i k found).symm.trans (back i k found))
      (holds.headers_le part)
  · intro labelled
    refine ⟨buf, _, is, decoded, fun out outOffset input outputs => ?_⟩
    obtain ⟨out', read, back⟩ := cut out outOffset input outputs
    refine ⟨out', read, fun i k part => (back i k part).trans ?_⟩
    have member := List.mem_of_getElem? part
    exact ((labelled k member).applicationPayload (holds.headers_le member)).symm

theorem UdpHolds.exists_later {input : List ExpandBuffer} {parts : List Nat} {buf : ExpandBuffer}
    (holds : UdpHolds input offset item parts buf) (merged : item.numMerged > 0) :
    ∃ n ∈ parts, item.bufsIndex.toNat < n := by
  have several := holds.length_parts
  have inOrder := holds.inOrder
  obtain ⟨rest, rfl⟩ := List.head?_eq_some_iff.mp holds.opened
  cases rest with
  | nil =>
    have zero : item.numMerged.toNat = 0 := by
      rw [List.length_singleton] at several
      omega
    rw [gt_iff_lt, UInt16.lt_iff_toNat_lt, zero] at merged
    exact absurd merged (Nat.lt_irrefl _)
  | cons n rest =>
    have second : n ∈ n :: rest := List.mem_cons_self
    exact ⟨n, List.mem_cons_of_mem _ second, List.rel_of_pairwise_cons inOrder second⟩

theorem Returns.labelled_iff (ret : Returns host offset canUdpGro s final s') (fresh : FreshState s)
    (udpOnly : canUdpGro = false → final.udpTable.liveItems = []) :
    (∀ item ∈ final.udpTable.liveItems, item.numMerged > 0 →
      ∀ k ∈ (groGroups host offset canUdpGro s s.bufs.length).parts item.bufsIndex.toNat,
        LabelsLength item.key.isV6 (packetAt offset s.bufs k)) ↔
      ∀ n state, LoopReaches host offset canUdpGro s n state →
        ¬ JoinsMislabelled offset canUdpGro s.bufs n state := by
  constructor
  · rintro labelled n state reaches ⟨head, joins, k, pair, isV6, eligible, mislabelled⟩
    obtain ⟨-, inside, item, live, rfl, merged, opening, part⟩ := ret.joins fresh reaches joins
    have member : k ∈ (groGroups host offset canUdpGro s s.bufs.length).parts
        item.bufsIndex.toNat := by
      rcases List.mem_pair.mp pair with rfl | rfl
      · exact opening
      · exact part
    obtain ⟨-, buf, -, holds⟩ := ret.inv.udpHolds live
    obtain rfl := isV6_unique eligible.candidate.version
      (holds.group.eligible _ (List.mem_map_of_mem member)).candidate.version
    exact mislabelled (labelled item live merged k member)
  · intro none item live merged k part
    by_contra mislabelled
    obtain ⟨-, buf, -, holds⟩ := ret.inv.udpHolds live
    have eligible := holds.group.eligible _ (List.mem_map_of_mem part)
    -- A head was joined by another member of its group; every other member joined the head.
    obtain ⟨n, joined, later, pair⟩ : ∃ n ∈
        (groGroups host offset canUdpGro s s.bufs.length).parts item.bufsIndex.toNat,
          n ≠ item.bufsIndex.toNat ∧ k ∈ [item.bufsIndex.toNat, n] := by
      by_cases first : k = item.bufsIndex.toNat
      · obtain ⟨n, member, later⟩ := holds.exists_later merged
        exact ⟨n, member, later.ne', List.mem_pair.mpr (.inl first)⟩
      · exact ⟨k, part, first, List.mem_pair.mpr (.inr rfl)⟩
    obtain ⟨inside, joins⟩ := ret.joined fresh udpOnly live joined later
    exact none n _ (ret.reaches inside.le fresh) ⟨_, joins, k, pair, _, eligible, mislabelled⟩

/-- Receivers of the segments get the payloads that the datagrams delimit exactly when each datagram
that is joined, and each that it joins, states its length. -/
theorem respectsUdpLength_iff (fresh : FreshState s)
    (ran : handleGro host offset canUdpGro s = .ok (s', .ok ())) :
    (KeepsUdpPayloads host offset canUdpGro s s' ↔
      ∀ n state, LoopReaches host offset canUdpGro s n state →
        ¬ JoinsMislabelled offset canUdpGro s.bufs n state) ∧
    (RespectsUdpLength host offset canUdpGro s s' ↔
      ∀ n state, LoopReaches host offset canUdpGro s n state →
        ¬ JoinsMislabelled offset canUdpGro s.bufs n state) := by
  obtain ⟨final, ranLoop, ret⟩ := handleGro_returns fresh ran
  have udpOnly : canUdpGro = false → final.udpTable.liveItems = [] := by
    rintro rfl
    rw [groLoop_udpTable ranLoop, fresh.udp.liveItems]
  have labelled := ret.labelled_iff fresh udpOnly
  have payloads : KeepsUdpPayloads host offset canUdpGro s s' ↔
      ∀ n state, LoopReaches host offset canUdpGro s n state →
        ¬ JoinsMislabelled offset canUdpGro s.bufs n state := by
    rw [KeepsUdpPayloads, ret.completed.udpTable, ← labelled]
    exact forall_congr' fun item => forall_congr' fun live => forall_congr' fun merged =>
      ret.readsPayloads_iff live merged
  refine ⟨payloads, fun respects => payloads.mp respects.payloads, fun none => ?_⟩
  exact ⟨ret.completed.udpTable.symm ▸ labelled.mpr none, payloads.mpr none⟩

theorem respectsUdpLength_iff_datagrams : ∃ s',
    handleGro plainHost 10 true (batchOf 200 twoDatagrams) = .ok (s', .ok ()) ∧
      mergedCount s' = 1 ∧ RespectsUdpLength plainHost 10 true (batchOf 200 twoDatagrams) s' := by
  have run : (finalState (handleGro plainHost 10 true (batchOf 200 twoDatagrams))).map
      mergedCount = some 1 := by decide +kernel
  obtain ⟨s', _, ran, merged⟩ := of_finalState_map run
  have fresh := batchOf_fresh 200 twoDatagrams
  refine ⟨s', ran, merged, (respectsUdpLength_iff fresh ran).2.mpr ?_⟩
  rintro n state reaches ⟨head, joins, k, pair, isV6, eligible, mislabelled⟩
  have stated : ∀ k < 2, ∀ isV6, ipVersion (packetAt 10 (batchOf 200 twoDatagrams).bufs k) =
      (if isV6 then 6 else 4) →
        LabelsLength isV6 (packetAt 10 (batchOf 200 twoDatagrams).bufs k) := by decide +kernel
  have inside : k < 2 := by
    by_contra beyond
    have payload := eligible.payload
    have absent : (batchOf 200 twoDatagrams).bufs[k]? = none :=
      List.getElem?_eq_none (Nat.not_lt.mp beyond)
    rw [packetAt, absent] at payload
    cases payload
  exact mislabelled (stated k inside isV6 eligible.candidate.version)

/-- A datagram of ten bytes that verifies, with two more bytes behind it in the IP packet. -/
def trailingDatagram : List UInt8 :=
  overwrite (sentUdp true [1, 2] ++ [0xFF, 0xFD]) 4 (be16 12)

theorem respectsUdpLength_trailing : ∃ s',
    handleGro plainHost 10 true (batchOf 200 [trailingDatagram, sentUdp true [3, 4]]) =
        .ok (s', .ok ()) ∧
      ¬ KeepsUdpPayloads plainHost 10 true
        (batchOf 200 [trailingDatagram, sentUdp true [3, 4]]) s' ∧
      ¬ RespectsUdpLength plainHost 10 true
        (batchOf 200 [trailingDatagram, sentUdp true [3, 4]]) s' := by
  have run : (finalState (handleGro plainHost 10 true
      (batchOf 200 [trailingDatagram, sentUdp true [3, 4]]))).map (fun s' =>
        s'.udpTable.liveItems.map fun item =>
          (item.bufsIndex.toNat, item.key.isV6, item.numMerged)) =
      some [(0, true, 1)] := by decide +kernel
  have parts : (groGroups plainHost 10 true
      (batchOf 200 [trailingDatagram, sentUdp true [3, 4]]) 2).parts 0 = [0, 1] := by
    decide +kernel
  obtain ⟨s', _, ran, items⟩ := of_finalState_map run
  obtain ⟨item, live, shape⟩ := List.mem_map.mp (items ▸ List.mem_singleton_self _)
  simp only [Prod.mk.injEq] at shape
  obtain ⟨head, family, merged⟩ := shape
  have several : item.numMerged > 0 := by rw [merged]; decide
  obtain ⟨final, -, ret⟩ := handleGro_returns (batchOf_fresh 200 _) ran
  have broken : ¬ KeepsUdpPayloads plainHost 10 true
      (batchOf 200 [trailingDatagram, sentUdp true [3, 4]]) s' := by
    intro keeps
    have reads := keeps item live several
    rw [ret.completed.udpTable] at live
    have stated := (ret.readsPayloads_iff live several).mp reads 0
    have size : (batchOf 200 [trailingDatagram, sentUdp true [3, 4]]).bufs.length = 2 := rfl
    rw [head, family, size, parts] at stated
    exact absurd (stated List.mem_cons_self) (by decide +kernel)
  exact ⟨s', ran, broken, fun respects => broken respects.payloads⟩

end Call

end QuincyTun.Linux
