import QuincyTun.Linux.Offload
import QuincyTun.Linux.PartialChecksum
import QuincyTun.Linux.SegmentFrame

/-! When reading from the device stays within its buffers.

The checks compare the position of the checksum with the length of the packet that
was read, but it is written into segments, which are shorter. The header length is
added in 16 bits before anything is compared with it.
-/

set_option autoImplicit false

namespace QuincyTun.Linux

open QuincyTun.Foundation

/-- Only the first `n` output buffers changed, and each only where its size says. -/
structure WrittenWithin (offset n : Nat) (s s' : GsoState) : Prop where
  within : ∀ i < n, ∃ size, s'.sizes[i]? = some size ∧
    ∀ buf, s.outBufs[i]? = some buf → ∃ buf', s'.outBufs[i]? = some buf' ∧
      AgreeOn (fun j => j < offset ∨ offset + size ≤ j) buf' buf
  others : ∀ i, n ≤ i → s'.outBufs[i]? = s.outBufs[i]?

/-- The call returns, and what it reports as written is all that it wrote. -/
def RunsWithin (offset : Nat) (s : GsoState) (run : Run (GsoState × Result Nat)) : Prop :=
  ∃ s' result, run = .ok (s', result) ∧ ∀ n, result = .ok n → WrittenWithin offset n s s'

theorem Rejected.runsWithin {run : Run (GsoState × Result Nat)} (rejected : Rejected run)
    (offset : Nat) (s : GsoState) : RunsWithin offset s run := by
  obtain ⟨s', error, ran⟩ := rejected
  exact ⟨s', .error error, ran, fun n done => by cases done⟩

theorem not_runsWithin_error (offset : Nat) (s : GsoState) (panic : Panic) :
    ¬ RunsWithin offset s (.error panic) := by
  rintro ⟨s', result, ran, -⟩
  cases ran

theorem exists_outBufs (lengths : List Nat) :
    ∃ outBufs : List (List UInt8), outBufs.map List.length = lengths :=
  ⟨lengths.map fun length => List.replicate length 0, by simp [Function.comp_def]⟩

/-! ## Cutting -/

structure Cut where
  inputLen : Nat
  hdrLen : Nat
  gsoSize : Nat
  csumAt : Nat
  offset : Nat
  lengths : List Nat

namespace Cut

def Inside (cut : Cut) (i : Nat) : Prop := cut.hdrLen + i * cut.gsoSize < cut.inputLen

def length (cut : Cut) (i : Nat) : Nat :=
  cut.hdrLen + min cut.gsoSize (cut.inputLen - (cut.hdrLen + i * cut.gsoSize))

def Fits (cut : Cut) (i : Nat) : Prop :=
  ∃ room, cut.lengths[i]? = some room ∧ cut.offset + cut.length i ≤ room

/-- Every segment that is written has its checksum in its buffer, and when all of them are
written, within the segment. -/
structure Sound (cut : Cut) : Prop where
  inBuffer : ∀ i, cut.Inside i → (∀ j ≤ i, cut.Fits j) →
    ∀ room, cut.lengths[i]? = some room → cut.offset + cut.csumAt + 2 ≤ room
  inSegment : (∀ i, cut.Inside i → cut.Fits i) → ∀ i, cut.Inside i → cut.csumAt + 2 ≤ cut.length i

theorem Sound.of_headers {cut : Cut} (within : cut.csumAt + 2 ≤ cut.hdrLen) : cut.Sound where
  inBuffer i _ fits room found := by
    obtain ⟨own, stored, enough⟩ := fits i (le_refl i)
    obtain rfl := Option.some.inj (stored.symm.trans found)
    rw [length] at enough
    omega
  inSegment _ i _ := within.trans (Nat.le_add_right ..)

theorem Inside.mono {cut : Cut} {i j : Nat} (inside : cut.Inside i) (earlier : j ≤ i) :
    cut.Inside j :=
  Nat.lt_of_le_of_lt (Nat.add_le_add_left (Nat.mul_le_mul_right _ earlier) _) inside

end Cut

def cutOf (hdr : VirtioNetHdr) (offset : Nat) (lengths : List Nat) (input : List UInt8) : Cut where
  inputLen := input.length
  hdrLen := hdr.hdrLen.toNat
  gsoSize := hdr.gsoSize.toNat
  csumAt := hdr.csumStart.toNat + hdr.csumOffset.toNat
  offset
  lengths

section Split

variable {isV6 : Bool} {hdr : VirtioNetHdr} {offset n : Nat} {lengths sizes : List Nat}
  {s s' : GsoState}

theorem cutOf_fits (i : Nat) :
    (gsoPlan hdr offset isV6 (s.unsummed hdr isV6).input).Fits (s.unsummed hdr isV6).input.length
        (s.unsummed hdr isV6).outBufs i ↔
      (cutOf hdr offset (s.outBufs.map List.length) s.input).Fits i := by
  have size : (s.unsummed hdr isV6).input.length = s.input.length := length_unsummed ..
  rw [GsoPlan.fits_iff, Cut.Fits, size]
  simp only [cutOf, List.getElem?_map]
  exact Iff.rfl

theorem cutOf_checksumFits (i : Nat) :
    (gsoPlan hdr offset isV6 (s.unsummed hdr isV6).input).ChecksumFits
        (s.unsummed hdr isV6).outBufs i ↔
      ∀ room, (cutOf hdr offset (s.outBufs.map List.length) s.input).lengths[i]? = some room →
        offset + (hdr.csumStart.toNat + hdr.csumOffset.toNat) + 2 ≤ room := by
  rw [GsoPlan.checksumFits_iff]
  simp only [cutOf, List.getElem?_map]
  exact Iff.rfl

theorem cutOf_inside (i : Nat) :
    (gsoPlan hdr offset isV6 (s.unsummed hdr isV6).input).dataAt i <
        (s.unsummed hdr isV6).input.length ↔
      (cutOf hdr offset lengths s.input).Inside i := by
  have size : (s.unsummed hdr isV6).input.length = s.input.length := length_unsummed ..
  rw [size]
  exact Iff.rfl

theorem SegmentsWritten.writtenWithin (ready : GsoReady s hdr isV6)
    (written : SegmentsWritten (gsoPlan hdr offset isV6 (s.unsummed hdr isV6).input) 0 n
      (s.unsummed hdr isV6) s')
    (sound : (cutOf hdr offset (s.outBufs.map List.length) s.input).Sound) :
    WrittenWithin offset n s s' := by
  have loop := gsoPlan_ready offset ready
  have fits : ∀ i, (cutOf hdr offset (s.outBufs.map List.length) s.input).Inside i →
      (cutOf hdr offset (s.outBufs.map List.length) s.input).Fits i := fun i inside =>
    (cutOf_fits i).mp (written.fits i (Nat.zero_le _) (written.lt ((cutOf_inside i).mpr inside)))
  constructor
  case within =>
    intro i below
    have inside := written.inside i (Nat.zero_le _) below
    have short := sound.inSegment fits i (cutOf_inside i |>.mp inside)
    refine ⟨_, written.length_packet loop below, fun buf found => ?_⟩
    obtain ⟨room, foundRoom, enough⟩ := written.fits i (Nat.zero_le _) below
    obtain rfl := Option.some.inj (found.symm.trans foundRoom)
    refine ⟨segmentBuf (gsoPlan hdr offset isV6 (s.unsummed hdr isV6).input)
      (s.unsummed hdr isV6).input buf i, ?_, ?_⟩
    · rw [written.outBufs i]
      change s.outBufs[i]?.map _ = _
      rw [found, Option.map_some, if_pos ⟨Nat.zero_le _, below⟩]
    · exact segmentBuf_frame loop.checked inside ((Nat.le_add_right ..).trans enough)
        (by
          have size : (s.unsummed hdr isV6).input.length = s.input.length := length_unsummed ..
          rw [size]
          exact short)
  -- An output behind the last segment is not touched.
  case others =>
    intro i late
    rw [written.outBufs i]
    change s.outBufs[i]?.map _ = s.outBufs[i]?
    cases s.outBufs[i]? with
    | none => rfl
    | some buf => rw [Option.map_some, if_neg (by omega)]

theorem gsoSplit_within (ready : GsoReady s hdr isV6)
    (sound : (cutOf hdr offset (s.outBufs.map List.length) s.input).Sound) :
    RunsWithin offset s (gsoSplit s hdr offset isV6) := by
  have outcome := gsoSplit_outcome offset ready
  generalize gsoSplit s hdr offset isV6 = run at outcome
  cases outcome with
  | done written =>
    refine ⟨_, _, rfl, fun n done => ?_⟩
    cases done
    exact written.writtenWithin ready sound
  | stopped here inside stuck checksums => exact Rejected.runsWithin ⟨_, _, rfl⟩ offset s
  | crashed here inside fits beyond =>
    refine absurd ((cutOf_checksumFits _).mpr ?_) beyond
    exact sound.inBuffer _ (cutOf_inside _ |>.mp inside) fun j earlier =>
      (cutOf_fits j).mp (fits j (Nat.zero_le _) earlier)

theorem inBuffer_of_within (ready : GsoReady s hdr isV6)
    (runs : RunsWithin offset s (gsoSplit s hdr offset isV6)) {i : Nat}
    (inside : (cutOf hdr offset (s.outBufs.map List.length) s.input).Inside i)
    (fits : ∀ j ≤ i, (cutOf hdr offset (s.outBufs.map List.length) s.input).Fits j) :
    (gsoPlan hdr offset isV6 (s.unsummed hdr isV6).input).ChecksumFits
      (s.unsummed hdr isV6).outBufs i := by
  have here := (@cutOf_inside isV6 hdr offset _ s i).mpr inside
  have outcome := gsoSplit_outcome offset ready
  generalize gsoSplit s hdr offset isV6 = run at outcome runs
  cases outcome with
  | @done s' n written =>
    exact written.checksums i (Nat.zero_le _) (written.lt here)
  | @stopped s' error j before insideStop stuck checksums =>
    refine checksums i (Nat.zero_le _) ?_
    by_contra late
    exact stuck ((cutOf_fits j).mpr (fits j (Nat.le_of_not_lt late)))
  | crashed before insideStop fitsBefore beyond =>
    exact absurd runs (not_runsWithin_error offset s .outOfRange)

theorem written_of_within (ready : GsoReady s hdr isV6)
    (runs : RunsWithin offset s (gsoSplit s hdr offset isV6))
    (fits : ∀ i, (cutOf hdr offset (s.outBufs.map List.length) s.input).Inside i →
      (cutOf hdr offset (s.outBufs.map List.length) s.input).Fits i) :
    ∃ s' n, SegmentsWritten (gsoPlan hdr offset isV6 (s.unsummed hdr isV6).input) 0 n
      (s.unsummed hdr isV6) s' ∧ WrittenWithin offset n s s' := by
  have outcome := gsoSplit_outcome offset ready
  generalize gsoSplit s hdr offset isV6 = run at outcome runs
  cases outcome with
  | done written =>
    obtain ⟨reached, result, ran, within⟩ := runs
    obtain ⟨rfl, rfl⟩ := Prod.mk.inj (Except.ok.inj ran)
    exact ⟨_, _, written, within _ rfl⟩
  | stopped before inside stuck checksums =>
    exact absurd ((cutOf_fits _).mpr (fits _ (cutOf_inside _ |>.mp inside))) stuck
  | crashed before inside fitsBefore beyond =>
    exact absurd runs (not_runsWithin_error offset s .outOfRange)

theorem WrittenWithin.keeps (ready : GsoReady s hdr isV6)
    (within : WrittenWithin offset n s s')
    (written : SegmentsWritten (gsoPlan hdr offset isV6 (s.unsummed hdr isV6).input) 0 n
      (s.unsummed hdr isV6) s') {i p : Nat} {buf : List UInt8} (below : i < n)
    (found : s.outBufs[i]? = some buf) (fits : offset ≤ buf.length)
    (behind : (cutOf hdr offset lengths s.input).length i ≤ p) :
    (segmentOut (gsoPlan hdr offset isV6 (s.unsummed hdr isV6).input) (s.unsummed hdr isV6).input
      (buf.drop offset) i
      ((gsoPlan hdr offset isV6 (s.unsummed hdr isV6).input).dataAt i))[p]? =
        (buf.drop offset)[p]? := by
  have same : (s.unsummed hdr isV6).input.length = s.input.length := length_unsummed ..
  obtain ⟨size, foundSize, wrote⟩ := within.within i below
  have sized := written.length_packet (gsoPlan_ready offset ready) below
  obtain rfl := Option.some.inj (foundSize.symm.trans sized)
  obtain ⟨buf', foundBuf, agree⟩ := wrote _ found
  have bytes := written.outBufs i
  change _ = s.outBufs[i]?.map _ at bytes
  rw [found, Option.map_some, if_pos ⟨Nat.zero_le _, below⟩, foundBuf] at bytes
  obtain rfl := Option.some.inj bytes
  have unchanged := agree (offset + p) (.inr (Nat.add_le_add_left (same ▸ behind) offset))
  rw [List.getElem?_drop, ← unchanged]
  exact (getElem?_segmentBuf fits i p).symm

/-- When calls stay within their buffers, whatever these hold, the cut is sound. -/
theorem sound_of_within {input : List UInt8}
    (ready : ∀ outBufs : List (List UInt8), outBufs.map List.length = lengths →
      GsoReady ⟨input, outBufs, sizes⟩ hdr isV6)
    (safe : ∀ outBufs : List (List UInt8), outBufs.map List.length = lengths →
      RunsWithin offset ⟨input, outBufs, sizes⟩
        (gsoSplit ⟨input, outBufs, sizes⟩ hdr offset isV6)) :
    (cutOf hdr offset lengths input).Sound := by
  obtain ⟨blank, sameLengths⟩ := exists_outBufs lengths
  have inBuffer : ∀ i, (cutOf hdr offset lengths input).Inside i →
      (∀ j ≤ i, (cutOf hdr offset lengths input).Fits j) →
      ∀ room, lengths[i]? = some room →
        offset + (hdr.csumStart.toNat + hdr.csumOffset.toNat) + 2 ≤ room := by
    intro i inside fits
    have reached := inBuffer_of_within (ready blank sameLengths) (safe blank sameLengths)
      (i := i) (by rw [sameLengths]; exact inside) (by rw [sameLengths]; exact fits)
    rw [cutOf_checksumFits, sameLengths] at reached
    exact reached
  refine ⟨inBuffer, fun fits i inside => ?_⟩
  by_contra beyond
  obtain ⟨room, found, enough⟩ := fits i inside
  have reach := inBuffer i inside (fun j earlier => fits j (inside.mono earlier)) room found
  change lengths[i]? = some room at found
  change offset + _ ≤ room at enough
  change ¬ (hdr.csumStart.toNat + hdr.csumOffset.toNat + 2 ≤ _) at beyond
  have loop := gsoPlan_ready offset (ready blank sameLengths)
  have here := (@cutOf_inside isV6 hdr offset lengths ⟨input, blank, sizes⟩ i).mpr inside
  have total : (gsoPlan hdr offset isV6 (unsummed isV6
      (hdr.csumStart.toNat + hdr.csumOffset.toNat) input)).segmentLen
        (unsummed isV6 (hdr.csumStart.toNat + hdr.csumOffset.toNat) input).length i =
      (cutOf hdr offset lengths input).length i := by
    rw [length_unsummed]
    rfl
  -- One byte of the checksum lies behind the segment, so there are contents that it changes.
  obtain ⟨out, outLength, differs⟩ := @segmentOut_writes _ _ _ _
    (max (hdr.csumStart.toNat + hdr.csumOffset.toNat) ((cutOf hdr offset lengths input).length i))
    (room - offset) loop.checked here ((segmentLen_eq here).trans total) (Nat.le_max_right ..)
    (Nat.le_max_left ..) (by change _ < hdr.csumStart.toNat + hdr.csumOffset.toNat + 2; omega)
    (by change hdr.csumStart.toNat + hdr.csumOffset.toNat + 2 ≤ _; omega) i
  let outBufs := blank.set i (List.replicate offset 0 ++ out)
  have same : outBufs.map List.length = lengths := by
    obtain ⟨bound, rfl⟩ := List.getElem?_eq_some_iff.mp found
    have whole : offset + (lengths[i] - offset) = lengths[i] := by omega
    rw [List.map_set, sameLengths, List.length_append, List.length_replicate, outLength, whole,
      List.set_getElem_self]
  have long : i < blank.length := by
    rw [← List.length_map, sameLengths]
    exact (List.getElem?_eq_some_iff.mp found).1
  have stored : outBufs[i]? = some (List.replicate offset 0 ++ out) := List.getElem?_set_self long
  have front : (List.replicate offset (0 : UInt8)).length = offset := List.length_replicate ..
  obtain ⟨s', n, written, within⟩ := written_of_within (ready outBufs same) (safe outBufs same)
    (by rw [same]; exact fits)
  have kept := within.keeps (ready outBufs same) written (written.lt here) stored
    (by rw [List.length_append, front]; exact Nat.le_add_right ..) (Nat.le_max_right
      (hdr.csumStart.toNat + hdr.csumOffset.toNat) ((cutOf hdr offset lengths input).length i))
  rw [List.drop_left' front] at kept
  exact differs kept

end Split

/-! ## Storing whole -/

section Whole

variable {hdr : VirtioNetHdr} {offset : Nat} {s : GsoState} {input : List UInt8}

def storeWhole (s : GsoState) (offset : Nat) (input : List UInt8) :
    Result Unit → Run (GsoState × Result Nat)
  | .error error => pure ({ s with input }, .error error)
  | .ok () => do
    let buf ← index s.outBufs 0
    let room ← sliceFrom buf offset
    if room.length < s.input.length then
      let len := s.input.length
      let bufLen := buf.length
      pure ({ s with input },
        otherError s!"read len {len} overflows bufs element len {bufLen}")
    else do
      let sizes ← setIndex s.sizes 0 s.input.length
      let buf ← copyInto buf offset (offset + s.input.length) input
      pure (⟨input, s.outBufs.set 0 buf, sizes⟩, .ok 1)

theorem readWhole_eq (hdr : VirtioNetHdr) (s : GsoState) (offset : Nat) :
    readWhole hdr s offset =
      (if hdr.flags &&& virtioNetHdrFNeedsCsum ≠ 0 then
        gsoNoneChecksum s.input hdr.csumStart hdr.csumOffset
      else pure (s.input, .ok ())) >>= fun summed => storeWhole s offset summed.1 summed.2 := by
  unfold readWhole
  dsimp only
  split
  case isTrue partly =>
    refine bind_congr fun summed => ?_
    obtain ⟨input, completed⟩ := summed
    cases completed with
    | error error => rfl
    | ok done => rfl
  case isFalse whole => rfl

theorem storeWhole_within (admits : Admits (s.outBufs.map List.length) s.sizes offset)
    (nonempty : s.outBufs ≠ []) (same : input.length = s.input.length) :
    RunsWithin offset s (storeWhole s offset input (.ok ())) := by
  obtain ⟨original, outBufs, sizes⟩ := s
  obtain ⟨enough, -, offsets⟩ := admits
  cases outBufs with
  | nil => exact absurd rfl nonempty
  | cons buf bufs =>
    have inside : offset ≤ buf.length := offsets _ (List.mem_cons_self ..)
    have slot : 0 < sizes.length := (Nat.succ_pos _).trans_le enough
    simp only [storeWhole, index_ok (List.getElem?_cons_zero (a := buf) (l := bufs)), Run.ok_bind,
      sliceFrom_ok inside]
    split
    case isTrue short => exact Rejected.runsWithin ⟨_, _, rfl⟩ offset _
    case isFalse room =>
      rw [List.length_drop] at room
      rw [setIndex_ok slot, Run.ok_bind,
        copyInto_ok (Nat.le_add_right ..) (by omega) (by dsimp only at same; omega), Run.ok_bind]
      refine ⟨_, _, rfl, fun n done => ?_⟩
      cases done
      constructor
      case within =>
        intro i first
        obtain rfl : i = 0 := by omega
        refine ⟨original.length, List.getElem?_set_self slot, fun kept found => ?_⟩
        cases found
        refine ⟨overwrite buf offset input, rfl, ?_⟩
        exact (AgreeOn.refl _ buf).overwrite _ _ fun _ away => by dsimp only at same; omega
      case others =>
        intro i later
        exact List.getElem?_set_ne (by omega)

def accumulated (hdr : VirtioNetHdr) (input : List UInt8) : Nat :=
  (u16At input (hdr.csumStart.toNat + hdr.csumOffset.toNat)).toNat +
    groupSum ((blanked input (hdr.csumStart.toNat + hdr.csumOffset.toNat)).drop hdr.csumStart.toNat)

/-- Its position is checked before the checksum is completed, its range is not. -/
theorem readWhole_within_iff (admits : Admits (s.outBufs.map List.length) s.sizes offset)
    (nonempty : s.outBufs ≠ []) :
    RunsWithin offset s (readWhole hdr s offset) ↔ (hdr.flags &&& virtioNetHdrFNeedsCsum ≠ 0 →
      hdr.csumStart.toNat + hdr.csumOffset.toNat + 2 ≤ s.input.length →
        accumulated hdr s.input < 2 ^ 64) := by
  rw [readWhole_eq]
  by_cases partly : hdr.flags &&& virtioNetHdrFNeedsCsum ≠ 0
  · rw [if_pos partly]
    by_cases fits : hdr.csumStart.toNat + hdr.csumOffset.toNat + 2 ≤ s.input.length
    · rw [gsoNoneChecksum_eq fits, addU64, ← accumulated]
      by_cases sum : accumulated hdr s.input < 2 ^ 64
      · rw [if_pos sum]
        exact iff_of_true (storeWhole_within admits nonempty (length_completed ..))
          fun _ _ => sum
      · rw [if_neg sum]
        exact iff_of_false (not_runsWithin_error offset s .overflow)
          fun holds => sum (holds partly fits)
    · rw [gsoNoneChecksum, if_pos (by omega)]
      exact iff_of_true (Rejected.runsWithin ⟨_, _, rfl⟩ offset s)
        fun _ inside => absurd inside fits
  · rw [if_neg partly]
    exact iff_of_true (storeWhole_within admits nonempty rfl) fun needed => absurd needed partly

end Whole

/-! ## The whole call -/

/-- A packet that gets to be cut, behind headers of `len` bytes. -/
structure Cuttable (isV6 : Bool) (hdr : VirtioNetHdr) (input : List UInt8) (len : Nat) : Prop where
  segmenting : Segmenting isV6 hdr input
  parsed : headersLen hdr input = some len
  small : len ≤ 65535
  ip : minIphLen isV6 ≤ hdr.csumStart.toNat
  headers : len ≤ input.length
  checksum : hdr.csumStart.toNat + hdr.csumOffset.toNat + 1 < input.length

structure SoundRead (hdr : VirtioNetHdr) (input : List UInt8) (lengths : List Nat)
    (offset : Nat) : Prop where
  /-- The sum over a packet that is not cut fits in 64 bits. -/
  sum : hdr.gsoType = virtioNetHdrGsoNone → hdr.flags &&& virtioNetHdrFNeedsCsum ≠ 0 →
    hdr.csumStart.toNat + hdr.csumOffset.toNat + 2 ≤ input.length →
      accumulated hdr input < 2 ^ 64
  /-- The header length fits in 16 bits. -/
  hdrLen : ∀ isV6 len, Segmenting isV6 hdr input → headersLen hdr input = some len → len ≤ 65535
  /-- Where the packet is cut, the checksum lies within each segment. -/
  cut : ∀ isV6 len, Cuttable isV6 hdr input len →
    (cutOf { hdr with hdrLen := UInt16.ofNat len } offset lengths input).Sound

/-- Whatever the output buffers hold, the call returns and reports all that it wrote. -/
def ReadSafe (hdr : VirtioNetHdr) (input : List UInt8) (lengths sizes : List Nat)
    (offset : Nat) : Prop :=
  ∀ outBufs : List (List UInt8), outBufs.map List.length = lengths →
    RunsWithin offset ⟨input, outBufs, sizes⟩ (handleVirtioRead hdr ⟨input, outBufs, sizes⟩ offset)

section Call

variable {isV6 : Bool} {hdr : VirtioNetHdr} {offset len : Nat} {lengths sizes : List Nat}
  {s : GsoState} {input : List UInt8}

theorem headersLen_bounds (parsed : headersLen hdr input = some len) :
    hdr.csumStart.toNat + minTransportHLen (gsoProtocol hdr.gsoType) ≤ len ∧
      len ≤ hdr.csumStart.toNat + 60 := by
  unfold headersLen at parsed
  split at parsed
  case isTrue udp =>
    obtain rfl := Option.some.inj parsed
    rw [udp]
    exact ⟨le_refl _, by omega⟩
  case isFalse other =>
    have nibble := toNat_shiftRight_four_lt (byteAt input (hdr.csumStart.toNat + 12))
    have most : minTransportHLen (gsoProtocol hdr.gsoType) ≤ 20 := by
      unfold minTransportHLen
      split <;> decide
    split at parsed
    case isTrue => cases parsed
    case isFalse long =>
      dsimp only at parsed
      split at parsed
      case isTrue => cases parsed
      case isFalse minimal =>
        obtain rfl := Option.some.inj parsed
        omega

theorem toNat_hdrLen (small : len ≤ 65535) : (UInt16.ofNat len).toNat = len :=
  UInt16.toNat_ofNat_of_lt' (small.trans_lt (by decide))

theorem Admits.ready_iff (admits : Admits (s.outBufs.map List.length) s.sizes offset)
    (segmenting : Segmenting isV6 hdr s.input) (parsed : headersLen hdr s.input = some len)
    (small : len ≤ 65535) :
    GsoReady s { hdr with hdrLen := UInt16.ofNat len } isV6 ↔ Cuttable isV6 hdr s.input len := by
  have width := toNat_hdrLen small
  constructor
  · intro ready
    exact ⟨segmenting, parsed, small, ready.ip, width ▸ ready.headers, ready.checksum⟩
  · intro cuttable
    constructor
    case sizes => exact s.outBufs.length_map (f := List.length) ▸ admits.sizes
    case few => exact s.outBufs.length_map (f := List.length) ▸ admits.few
    case gsoSize => exact segmenting.gsoSize
    case ip => exact cuttable.ip
    case transport => exact width.symm ▸ (headersLen_bounds parsed).1
    case headers => exact width.symm ▸ cuttable.headers
    case checksum => exact cuttable.checksum

theorem SoundRead.of_headers (offloads : hdr.gsoType ≠ virtioNetHdrGsoNone)
    (small : hdr.csumStart.toNat + 60 ≤ 65535)
    (stop : hdr.csumOffset.toNat + 2 ≤ minTransportHLen (gsoProtocol hdr.gsoType)) :
    SoundRead hdr input lengths offset where
  sum whole := absurd whole offloads
  hdrLen _ _ _ parsed := (headersLen_bounds parsed).2.trans small
  cut isV6 len cuttable := by
    have width := toNat_hdrLen cuttable.small
    have transport := (headersLen_bounds cuttable.parsed).1
    refine .of_headers ?_
    change hdr.csumStart.toNat + hdr.csumOffset.toNat + 2 ≤ (UInt16.ofNat len).toNat
    omega

theorem SoundRead.runsWithin (sound : SoundRead hdr s.input (s.outBufs.map List.length) offset)
    (admits : Admits (s.outBufs.map List.length) s.sizes offset) (packet : s.input ≠ [])
    (buffers : s.outBufs ≠ []) : RunsWithin offset s (handleVirtioRead hdr s offset) := by
  by_cases whole : hdr.gsoType = virtioNetHdrGsoNone
  · rw [handleVirtioRead_whole admits whole]
    exact (readWhole_within_iff admits buffers).mpr (sound.sum whole)
  by_cases unsegmented : ∀ isV6, ¬ Segmenting isV6 hdr s.input
  · exact (handleVirtioRead_unsegmented admits whole packet unsegmented).runsWithin offset s
  obtain ⟨isV6, segmenting⟩ := not_forall_not.mp unsegmented
  cases parsed : headersLen hdr s.input with
  | none =>
    exact (handleVirtioRead_unparsed admits segmenting parsed).runsWithin offset s
  | some len =>
    have small := sound.hdrLen isV6 len segmenting parsed
    obtain ⟨split, refuse⟩ := handleVirtioRead_parsed admits segmenting parsed small
    have cuttable := admits.ready_iff segmenting parsed small
    by_cases ready : GsoReady s { hdr with hdrLen := UInt16.ofNat len } isV6
    · rw [split ready]
      exact gsoSplit_within ready (sound.cut isV6 len (cuttable.mp ready))
    · exact (refuse ready).runsWithin offset s

theorem ReadSafe.sound (safe : ReadSafe hdr input lengths sizes offset)
    (admits : Admits lengths sizes offset) (buffers : lengths ≠ []) :
    SoundRead hdr input lengths offset := by
  obtain ⟨outBufs, rfl⟩ := exists_outBufs lengths
  constructor
  case sum =>
    intro whole
    have runs := safe outBufs rfl
    rw [handleVirtioRead_whole admits whole] at runs
    exact (readWhole_within_iff admits fun empty => buffers (congrArg _ empty)).mp runs
  case hdrLen =>
    intro isV6 len segmenting parsed
    by_contra large
    have runs := safe outBufs rfl
    rw [handleVirtioRead_overflows admits segmenting parsed (Nat.lt_of_not_le large)] at runs
    exact not_runsWithin_error _ _ _ runs
  case cut =>
    intro isV6 len cuttable
    have ready : ∀ bufs : List (List UInt8), bufs.map List.length = outBufs.map List.length →
        GsoReady ⟨input, bufs, sizes⟩ { hdr with hdrLen := UInt16.ofNat len } isV6 :=
      fun bufs same => ((same.symm ▸ admits : Admits (bufs.map List.length) sizes offset).ready_iff
        cuttable.segmenting cuttable.parsed cuttable.small).mpr cuttable
    refine sound_of_within ready fun bufs same => ?_
    have runs := safe bufs same
    rw [(handleVirtioRead_parsed (same.symm ▸ admits) cuttable.segmenting cuttable.parsed
      cuttable.small).1 (ready bufs same)] at runs
    exact runs

theorem readSafe_iff (packet : input ≠ []) (buffers : lengths ≠ []) :
    ReadSafe hdr input lengths sizes offset ↔
      (Admits lengths sizes offset → SoundRead hdr input lengths offset) := by
  constructor
  · intro safe admits
    exact safe.sound admits buffers
  · rintro sound outBufs rfl
    by_cases admits : Admits (outBufs.map List.length) sizes offset
    · exact SoundRead.runsWithin (s := ⟨input, outBufs, sizes⟩) (sound admits) admits packet
        fun empty => buffers (congrArg _ empty)
    · exact (handleVirtioRead_refuses admits).runsWithin offset _

def segmentedPacket : List UInt8 := 0x45 :: List.replicate 35 0

def segmentedHdr (csumStart csumOffset : UInt16) : VirtioNetHdr :=
  ⟨virtioNetHdrFNeedsCsum, virtioNetHdrGsoUdpL4, 28, 4, csumStart, csumOffset⟩

theorem readSafe_iff_segmented : ReadSafe (segmentedHdr 20 6) segmentedPacket [40, 40] [0, 0] 0 :=
  (readSafe_iff (by decide) (by decide)).mpr fun _ =>
    .of_headers (by decide) (by decide) (by decide)

/-- A header length above 16 bits; a checksum behind the output buffer, and one that is inside
the buffer but behind the segment. -/
theorem readSafe_violated :
    ¬ ReadSafe ⟨0, virtioNetHdrGsoUdpL4, 0, 1, 65535, 0⟩ [0x45] [0] [0] 0 ∧
      ¬ ReadSafe (segmentedHdr 20 14) segmentedPacket [32, 32] [0, 0] 0 ∧
        ¬ ReadSafe (segmentedHdr 20 14) segmentedPacket [40, 40] [0, 0] 0 := by
  refine ⟨fun safe => ?_, fun safe => ?_, fun safe => ?_⟩
  · have overflows : handleVirtioRead ⟨0, virtioNetHdrGsoUdpL4, 0, 1, 65535, 0⟩
        ⟨[0x45], [[]], [0]⟩ 0 = .error .overflow := by decide
    exact not_runsWithin_error _ _ _ (overflows ▸ safe [[]] rfl)
  · have beyond : handleVirtioRead (segmentedHdr 20 14)
        ⟨segmentedPacket, List.replicate 2 (List.replicate 32 0), [0, 0]⟩ 0 =
          .error .outOfRange := by decide +kernel
    exact not_runsWithin_error _ _ _ (beyond ▸ safe (List.replicate 2 (List.replicate 32 0)) rfl)
  · have outside : (handleVirtioRead (segmentedHdr 20 14)
        ⟨segmentedPacket, List.replicate 2 (List.replicate 40 0), [0, 0]⟩ 0).map
          (fun done => (done.2, done.1.sizes[0]?, done.1.outBufs[0]?.map (byteAt · 34))) =
            .ok (.ok 2, some 32, some 255) := by decide +kernel
    obtain ⟨s', result, ran, within⟩ := safe (List.replicate 2 (List.replicate 40 0)) rfl
    rw [ran] at outside
    simp only [Except.map, Except.ok.injEq, Prod.mk.injEq] at outside
    obtain ⟨done, sized, written⟩ := outside
    obtain ⟨size, foundSize, wrote⟩ := (within 2 done).within 0 (by decide)
    obtain rfl := Option.some.inj (sized.symm.trans foundSize)
    obtain ⟨buf, foundBuf, agree⟩ := wrote _ rfl
    rw [foundBuf, Option.map_some, byteAt, agree 34 (.inr (by decide))] at written
    exact absurd written (by decide)

end Call

end QuincyTun.Linux
