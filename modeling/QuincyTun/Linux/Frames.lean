import QuincyTun.Linux.BatchCalls
import QuincyTun.Linux.ReadSafety
import QuincyTun.Linux.RoundTrip

/-! What a reader gets out of the frames that a device writes.

A frame is an offload header with a packet behind it. It carries that packet, or
the packets that were joined to it.
-/

set_option autoImplicit false

namespace QuincyTun.Linux

open QuincyTun.Foundation

/-- What comes out for a packet: the same bytes, or a valid packet with the same contents. -/
inductive Delivers (pkt out : List UInt8) : Prop
  | unchanged (same : out = pkt)
  | segment (isV6 : Bool) (same : SameTcpSegment isV6 out pkt)
      (valid : WellFormed isV6 ipProtoTcp out)
  | datagram (isV6 : Bool) (same : SameUdpDatagram isV6 out pkt)
      (valid : WellFormed isV6 ipProtoUdp out)

namespace RecvState

def packet (s : RecvState) (offset i : Nat) : List UInt8 :=
  ((s.bufs.getD i []).drop offset).take (s.sizes.getD i 0)

def packets (s : RecvState) (offset n : Nat) : List (List UInt8) :=
  (List.range n).map (s.packet offset)

def received (s : RecvState) (frame : List UInt8) : RecvState :=
  { s with originalBuffer := overwrite s.originalBuffer 0 frame }

/-- Room for `n` packets and for a frame of any length. -/
structure RoomFor (s : RecvState) (offset n : Nat) : Prop where
  count : n ≤ s.bufs.length
  sizes : s.sizes.length = s.bufs.length
  few : s.bufs.length ≤ 65535
  room : ∀ buf ∈ s.bufs, offset + 65535 ≤ buf.length
  original : virtioNetHdrLen + 65535 ≤ s.originalBuffer.length

structure SameRoom (s s' : RecvState) : Prop where
  bufs : s'.bufs.map List.length = s.bufs.map List.length
  sizes : s'.sizes.length = s.sizes.length
  original : s'.originalBuffer.length = s.originalBuffer.length

variable {s s' : RecvState} {offset n m : Nat}

theorem SameRoom.count (same : SameRoom s s') : s'.bufs.length = s.bufs.length := by
  have mapped := congrArg List.length same.bufs
  rwa [List.length_map, List.length_map] at mapped

theorem SameRoom.roomFor (same : SameRoom s s') (room : s.RoomFor offset n) :
    s'.RoomFor offset n where
  count := same.count ▸ room.count
  sizes := by rw [same.sizes, room.sizes, same.count]
  few := same.count ▸ room.few
  room := by
    intro buf member
    obtain ⟨was, found, size⟩ := List.mem_map.mp (same.bufs ▸ List.mem_map_of_mem member)
    exact size ▸ room.room was found
  original := same.original ▸ room.original

theorem RoomFor.mono (room : s.RoomFor offset n) (fewer : m ≤ n) : s.RoomFor offset m :=
  { room with count := fewer.trans room.count }

theorem exists_reader (offset n : Nat) (few : n ≤ 65535) :
    ∃ reader : RecvState, reader.RoomFor offset n := by
  refine ⟨⟨List.replicate (virtioNetHdrLen + 65535) 0,
    List.replicate n (List.replicate (offset + 65535) 0), List.replicate n 0⟩, ?_⟩
  constructor
  case count => exact List.length_replicate.ge
  case sizes => rw [List.length_replicate, List.length_replicate]
  case few => rwa [List.length_replicate]
  case room =>
    intro buf member
    rw [List.eq_of_mem_replicate member, List.length_replicate]
  case original => exact List.length_replicate.ge

end RecvState

/-! ## Reading keeps the lengths of all buffers -/

section Lengths

variable {hdr : VirtioNetHdr} {s s' : GsoState} {offset n : Nat} {isV6 : Bool}

structure SameLengths (s s' : GsoState) : Prop where
  outBufs : s'.outBufs.map List.length = s.outBufs.map List.length
  sizes : s'.sizes.length = s.sizes.length

theorem SegmentsWritten.sameLengths {plan : GsoPlan} {i : Nat}
    (written : SegmentsWritten plan i n s s') : SameLengths s s' := by
  constructor
  case outBufs =>
    refine List.ext_getElem? fun j => ?_
    rw [List.getElem?_map, List.getElem?_map, written.outBufs j, Option.map_map]
    congr 1
    funext buf
    simp only [Function.comp_apply]
    split
    · exact length_segmentBuf ..
    · rfl
  case sizes =>
    -- A list ends where it has no element any more.
    have same : ∀ j, s'.sizes.length ≤ j ↔ s.sizes.length ≤ j := by
      intro j
      rw [← List.getElem?_eq_none_iff, ← List.getElem?_eq_none_iff, written.sizes j,
        Option.map_eq_none_iff]
    exact Nat.le_antisymm ((same _).mpr le_rfl) ((same _).mp le_rfl)

theorem gsoSplit_sameLengths (ran : gsoSplit s hdr offset isV6 = .ok (s', .ok n)) :
    SameLengths s s' := by
  have ready : GsoReady s hdr isV6 := by
    by_contra unready
    obtain ⟨other, error, rejected⟩ := gsoSplit_rejects offset unready
    rw [ran] at rejected
    cases rejected
  have outcome := gsoSplit_outcome offset ready
  rw [ran] at outcome
  cases outcome with
  | done written => exact ⟨written.sameLengths.outBufs, written.sameLengths.sizes⟩

theorem storeWhole_sameLengths {input : List UInt8} {completed : Result Unit}
    (ran : storeWhole s offset input completed = .ok (s', .ok n)) : SameLengths s s' := by
  cases completed with
  | error error => cases ran
  | ok done =>
    obtain ⟨buf, found, ran⟩ := Run.bind_eq_ok.mp ran
    obtain ⟨room, -, ran⟩ := Run.bind_eq_ok.mp ran
    split at ran
    case isTrue => cases ran
    case isFalse fits =>
      obtain ⟨sizes, sized, ran⟩ := Run.bind_eq_ok.mp ran
      obtain ⟨filled, copied, ran⟩ := Run.bind_eq_ok.mp ran
      obtain ⟨rfl, -⟩ := Prod.mk.inj (Except.ok.inj ran)
      unfold setIndex at sized
      unfold copyInto at copied
      split at sized
      case isFalse => cases sized
      case isTrue slot =>
      split at copied
      case isFalse => cases copied
      case isTrue inside =>
        obtain rfl := Except.ok.inj sized
        obtain rfl := Except.ok.inj copied
        refine ⟨?_, List.length_set⟩
        have own : (s.outBufs.map List.length)[0]? = some buf.length := by
          rw [List.getElem?_map, index_eq_ok.mp found]
          rfl
        obtain ⟨first, size⟩ := List.getElem?_eq_some_iff.mp own
        rw [List.map_set, length_overwrite, ← size, List.set_getElem_self]

theorem handleVirtioRead_sameLengths (ran : handleVirtioRead hdr s offset = .ok (s', .ok n)) :
    SameLengths s s' := by
  unfold handleVirtioRead at ran
  dsimp only at ran
  iterate 3
    split at ran
    · cases ran
  split at ran
  case isTrue whole =>
    rw [readWhole_eq] at ran
    obtain ⟨summed, -, stored⟩ := Run.bind_eq_ok.mp ran
    exact storeWhole_sameLengths stored
  case isFalse segmented =>
  iterate 2
    split at ran
    · cases ran
  obtain ⟨first, -, ran⟩ := Run.bind_eq_ok.mp ran
  split at ran
  · cases ran
  obtain ⟨parsed, -, ran⟩ := Run.bind_eq_ok.mp ran
  cases parsed with
  | error error => cases ran
  | ok hdrLen =>
    dsimp only at ran
    iterate 3
      split at ran
      · cases ran
    exact gsoSplit_sameLengths ran

end Lengths

/-! ## What a frame carries -/

/-- A reader with enough room gets these packets out of the frame. -/
structure Carries (host : Host) (frame : List UInt8) (packets : List (List UInt8)) : Prop where
  short : frame.length ≤ virtioNetHdrLen + 65535
  nonempty : packets ≠ []
  reads : ∀ (s : RecvState) (offset : Nat), s.RoomFor offset packets.length →
    ∃ s', (s.received frame).splitRead host frame.length offset = .ok (s', .ok packets.length) ∧
      s.SameRoom s' ∧ List.Forall₂ Delivers packets (s'.packets offset packets.length)

section Carries

variable {host : Host} {head pkt : List UInt8} {packets : List (List UInt8)} {hdr : VirtioNetHdr}
  {s : RecvState} {offset : Nat}

theorem RecvState.splitRead_received (offset : Nat) (size : head.length = virtioNetHdrLen)
    (decoded : VirtioNetHdr.decode host.bigEndian head = .ok hdr) (nonempty : pkt ≠ [])
    (fits : (head ++ pkt).length ≤ s.originalBuffer.length) :
    (s.received (head ++ pkt)).splitRead host (head ++ pkt).length offset =
      handleVirtioRead hdr ⟨pkt, s.bufs, s.sizes⟩ offset >>= fun (split, result) =>
        pure (⟨overwrite (s.received (head ++ pkt)).originalBuffer virtioNetHdrLen split.input,
          split.outBufs, split.sizes⟩, result) := by
  have positive := List.length_pos_iff.mpr nonempty
  have frame : (s.received (head ++ pkt)).originalBuffer =
      head ++ pkt ++ s.originalBuffer.drop (head ++ pkt).length := by
    rw [RecvState.received, overwrite_eq_append _ _ _ (by omega), List.take_zero, List.nil_append,
      Nat.zero_add]
  have total : (s.received (head ++ pkt)).originalBuffer.length = s.originalBuffer.length :=
    length_overwrite ..
  have front : window (s.received (head ++ pkt)).originalBuffer 0 virtioNetHdrLen = head := by
    rw [frame, window, List.drop_zero, List.append_assoc, ← size, List.take_left]
  have behind : window (s.received (head ++ pkt)).originalBuffer virtioNetHdrLen
      ((head ++ pkt).length - virtioNetHdrLen) = pkt := by
    rw [frame, window, ← size, List.append_assoc, List.drop_left, List.length_append,
      Nat.add_sub_cancel_left, List.take_left]
  have long : virtioNetHdrLen < (head ++ pkt).length := by
    rw [List.length_append]
    omega
  unfold RecvState.splitRead
  rw [if_neg (by omega), slice_ok (Nat.zero_le _) (by omega), Run.ok_bind, Nat.sub_zero, front,
    decoded]
  dsimp only
  rw [slice_ok long.le (by omega), Run.ok_bind, behind]
  rfl

theorem Carries.of_handled (size : head.length = virtioNetHdrLen)
    (decoded : VirtioNetHdr.decode host.bigEndian head = .ok hdr) (nonempty : pkt ≠ [])
    (short : pkt.length ≤ 65535) (several : packets ≠ [])
    (handled : ∀ (s : RecvState) (offset : Nat), s.RoomFor offset packets.length →
      ∃ out, handleVirtioRead hdr ⟨pkt, s.bufs, s.sizes⟩ offset = .ok (out, .ok packets.length) ∧
        ∀ (i : Nat) (own : List UInt8), packets[i]? = some own →
          Delivers own (out.packet offset i)) :
    Carries host (head ++ pkt) packets := by
  have total : (head ++ pkt).length ≤ virtioNetHdrLen + 65535 := by
    rw [List.length_append, size]
    exact Nat.add_le_add_left short _
  refine ⟨total, several, fun s offset room => ?_⟩
  obtain ⟨out, ran, delivered⟩ := handled s offset room
  have split := RecvState.splitRead_received (s := s) offset size decoded nonempty
    (total.trans room.original)
  rw [ran] at split
  refine ⟨_, split, ?_, ?_⟩
  · obtain ⟨bufs, sizes⟩ := handleVirtioRead_sameLengths ran
    exact ⟨bufs, sizes, by rw [length_overwrite]; exact length_overwrite ..⟩
  · refine List.forall₂_iff_get.mpr ⟨by simp [RecvState.packets], fun i inside _ => ?_⟩
    simp only [RecvState.packets, List.get_eq_getElem, List.getElem_map, List.getElem_range]
    exact delivered i _ (List.getElem?_eq_getElem inside)

theorem RecvState.RoomFor.admits {n : Nat} (room : s.RoomFor offset n) :
    Admits (s.bufs.map List.length) s.sizes offset := by
  refine ⟨?_, ?_, fun length member => ?_⟩
  · rw [List.length_map]
    exact room.sizes.ge
  · rw [List.length_map]
    exact room.few
  · obtain ⟨buf, stored, rfl⟩ := List.mem_map.mp member
    exact (Nat.le_add_right ..).trans (room.room buf stored)

theorem RecvState.RoomFor.found {n i : Nat} (room : s.RoomFor offset n) (inside : i < n) :
    ∃ buf, s.bufs[i]? = some buf ∧ offset + 65535 ≤ buf.length := by
  have bound : i < s.bufs.length := inside.trans_le room.count
  exact ⟨s.bufs[i], List.getElem?_eq_getElem bound, room.room _ (List.getElem_mem bound)⟩

theorem RecvState.RoomFor.outputs (room : s.RoomFor offset packets.length)
    (short : ∀ own ∈ packets, own.length ≤ 65535) (input : List UInt8) :
    OutputsFor ⟨input, s.bufs, s.sizes⟩ offset packets where
  sizes := room.sizes.ge
  few := room.few
  offsets := fun buf stored => (Nat.le_add_right ..).trans (room.room buf stored)
  room := by
    intro i own found
    obtain ⟨buf, here, enough⟩ := room.found (List.getElem?_eq_some_iff.mp found).1
    have fits := short own (List.mem_of_getElem? found)
    exact ⟨buf, here, by omega⟩

theorem handleVirtioRead_plain {input : List UInt8} (room : s.RoomFor offset 1)
    (short : input.length ≤ 65535) (whole : hdr.gsoType = virtioNetHdrGsoNone)
    (summed : hdr.flags &&& virtioNetHdrFNeedsCsum = 0) :
    ∃ out, handleVirtioRead hdr ⟨input, s.bufs, s.sizes⟩ offset = .ok (out, .ok 1) ∧
      out.packet offset 0 = input := by
  obtain ⟨buf, first, enough⟩ := room.found Nat.zero_lt_one
  have slot : 0 < s.sizes.length := room.sizes ▸ room.count
  have wide : (buf.drop offset).length = buf.length - offset := List.length_drop
  refine ⟨⟨input, s.bufs.set 0 (overwrite buf offset input), s.sizes.set 0 input.length⟩, ?_, ?_⟩
  · rw [handleVirtioRead_whole room.admits whole, readWhole_eq, if_neg (not_not.mpr summed),
      Run.pure_eq_ok,
      Run.ok_bind, storeWhole, index_ok first, Run.ok_bind, sliceFrom_ok (by omega), Run.ok_bind,
      if_neg (by rw [wide]; dsimp only; omega), setIndex_ok slot, Run.ok_bind,
      copyInto_ok (Nat.le_add_right ..) (by dsimp only; omega) (by dsimp only; omega)]
    rfl
  · rw [GsoState.packet, List.getD_eq_getElem?_getD, List.getD_eq_getElem?_getD,
      List.getElem?_set_self room.count, List.getElem?_set_self slot]
    exact window_overwrite_self _ _ _ (by omega)

theorem Carries.whole (host : Host) (nonempty : pkt ≠ []) (short : pkt.length ≤ 65535) :
    Carries host (List.replicate virtioNetHdrLen 0 ++ pkt) [pkt] := by
  have decoded : VirtioNetHdr.decode host.bigEndian (List.replicate virtioNetHdrLen 0) =
      .ok .default := by
    rw [← VirtioNetHdr.layout_default host.bigEndian, VirtioNetHdr.decode_layout]
  refine .of_handled List.length_replicate decoded nonempty short (List.cons_ne_nil _ _) ?_
  intro s offset room
  have unsegmented : VirtioNetHdr.default.gsoType = virtioNetHdrGsoNone := rfl
  obtain ⟨out, ran, stored⟩ := handleVirtioRead_plain room short unsegmented rfl
  refine ⟨out, ran, fun i own found => ?_⟩
  cases i with
  | zero =>
    obtain rfl := Option.some.inj found
    exact .unchanged stored
  | succ i => cases found

end Carries

/-! ## The frames of a batch -/

section Batch

variable {host : Host} {offset : Nat} {canUdpGro : Bool} {s final s' : GroState}

theorem drop_header {buf : ExpandBuffer} (room : virtioNetHdrLen ≤ offset) :
    buf.bytes.drop (offset - virtioNetHdrLen) =
      buf.virtioHeader offset ++ buf.bytes.drop offset := by
  have behind : (buf.bytes.drop (offset - virtioNetHdrLen)).drop virtioNetHdrLen =
      buf.bytes.drop offset := by
    rw [List.drop_drop, Nat.sub_add_cancel room]
  rw [ExpandBuffer.virtioHeader, window, ← behind, List.take_append_drop]

theorem length_virtioHeader {buf : ExpandBuffer} (room : virtioNetHdrLen ≤ offset)
    (fits : offset ≤ buf.bytes.length) : (buf.virtioHeader offset).length = virtioNetHdrLen := by
  rw [ExpandBuffer.virtioHeader, window, List.length_take, List.length_drop]
  omega

theorem Returns.carries_of (ret : Returns host offset canUdpGro s final s') {k : Nat}
    {buf : ExpandBuffer} {hdr : VirtioNetHdr} {packets : List (List UInt8)}
    (emitted : k ∈ s'.toWrite) (here : s'.bufs[k]? = some buf)
    (decoded : VirtioNetHdr.decode host.bigEndian (buf.virtioHeader offset) = .ok hdr)
    (short : (packetAt offset s'.bufs k).length ≤ 65535) (several : packets ≠ [])
    (nonempty : buf.bytes.drop offset ≠ [])
    (handled : ∀ out outOffset, out.input = buf.bytes.drop offset →
      OutputsFor out outOffset packets →
        ∃ out', handleVirtioRead hdr out outOffset = .ok (out', .ok packets.length) ∧
          ∀ (i : Nat) (own : List UInt8), packets[i]? = some own →
            Delivers own (out'.packet outOffset i))
    (fits : ∀ own ∈ packets, own.length ≤ 65535) :
    Carries host (packetAt (offset - virtioNetHdrLen) s'.bufs k) packets := by
  have inside : k < s.bufs.length :=
    ret.inv.batch.partition.bound k (ret.inv.toWrite ▸ ret.completed.toWrite ▸ emitted)
  have room := ret.valid.offset_room inside
  rw [packetAt_of_getElem? here] at short
  rw [packetAt_of_getElem? here, drop_header room]
  exact .of_handled (length_virtioHeader room (ret.offset_le emitted here)) decoded nonempty short
    several fun reader outOffset wide => handled ⟨_, reader.bufs, reader.sizes⟩ outOffset rfl
      (wide.outputs fits _)

theorem Returns.carries (ret : Returns host offset canUdpGro s final s')
    (short : ∀ k ∈ s'.toWrite, (packetAt offset s'.bufs k).length ≤ 65535)
    (own : ∀ k < s.bufs.length, (packetAt offset s.bufs k).length ≤ 65535) {k : Nat}
    (emitted : k ∈ s'.toWrite) :
    Carries host (packetAt (offset - virtioNetHdrLen) s'.bufs k)
      (((groGroups host offset canUdpGro s s.bufs.length).parts k).map
        (packetAt offset s.bufs)) := by
  have conserved := ret.conserved
  have fits : ∀ pkt ∈ ((groGroups host offset canUdpGro s s.bufs.length).parts k).map
      (packetAt offset s.bufs), pkt.length ≤ 65535 := by
    intro pkt member
    obtain ⟨part, mine, rfl⟩ := List.mem_map.mp member
    exact own part (List.mem_range.mp (conserved.exactlyOnce.mem_iff.mp
      (List.mem_flatMap.mpr ⟨k, emitted, mine⟩)))
  by_cases merged : MergedAt s' k
  · rcases merged with ⟨item, live, rfl, positive⟩ | ⟨item, live, rfl, positive⟩
    · rw [ret.completed.tcpTable] at live
      obtain ⟨was, buf, found, is, emits⟩ :=
        ret.tcp_emits live (UInt16.pos_iff_ne_zero.mp positive) (short _ emitted)
      obtain ⟨-, held, here, holds⟩ := ret.inv.tcpHolds live
      obtain rfl := Option.some.inj (found.symm.trans here)
      have bound := short _ emitted
      rw [packetAt_of_getElem? is, emits.packet, length_accountedPacket] at bound
      have long := holds.group.headers_lt
      have count := holds.length_parts
      refine ret.carries_of emitted is emits.decode (short _ emitted)
        (List.ne_nil_of_length_pos (by rw [List.length_map]; omega))
        (List.ne_nil_of_length_pos (by rw [emits.packet, length_accountedPacket]; omega)) ?_ fits
      intro out outOffset input outputs
      rw [List.length_map, count]
      obtain ⟨out', ran, same⟩ := holds.group.readBack bound (input.trans emits.packet) outputs
      exact ⟨out', ran, fun i pkt found => .segment _ (same i pkt found).1 (same i pkt found).2⟩
    · rw [ret.completed.udpTable] at live
      obtain ⟨was, buf, found, is, emits⟩ :=
        ret.udp_emits live (UInt16.pos_iff_ne_zero.mp positive) (short _ emitted)
      obtain ⟨-, held, here, holds⟩ := ret.inv.udpHolds live
      obtain rfl := Option.some.inj (found.symm.trans here)
      have bound := short _ emitted
      rw [packetAt_of_getElem? is, emits.packet, length_accountedPacket] at bound
      have long := holds.group.headers_lt
      have count := holds.length_parts
      refine ret.carries_of emitted is emits.decode (short _ emitted)
        (List.ne_nil_of_length_pos (by rw [List.length_map]; omega))
        (List.ne_nil_of_length_pos (by rw [emits.packet, length_accountedPacket]; omega)) ?_ fits
      intro out outOffset input outputs
      rw [List.length_map, count]
      have kept : SameUdpDatagram item.key.isV6 out.input (was.bytes.drop offset) := by
        rw [input, emits.packet]
        exact sameUdpDatagram_accountedPacket ..
      obtain ⟨out', ran, same⟩ := holds.group.readBack kept outputs
      exact ⟨out', ran, fun i pkt found => .datagram _ (same i pkt found).1 (same i pkt found).2.1⟩
  -- A packet that was joined to no other one has an empty header in front of it.
  · obtain ⟨mine, found, here⟩ := ret.alone emitted merged
    have small := (List.getElem?_eq_some_iff.mp found).1
    obtain ⟨room, long⟩ := ret.valid.room k mine small found
    have bound := short k emitted
    have behind : (cleared offset mine).bytes.drop offset = mine.bytes.drop offset :=
      drop_cleared room mine
    rw [packetAt_of_getElem? here, behind] at bound
    rw [(conserved.stands k emitted merged).1, List.map_singleton, packetAt_of_getElem? here,
      packetAt_of_getElem? found, drop_header room, virtioHeader_cleared room long.le, behind]
    exact .whole host (List.ne_nil_of_length_pos (by rw [List.length_drop]; omega)) bound

end Batch

end QuincyTun.Linux
