import QuincyTun.Linux.Offload

/-! UDP checksums that come out as zero.

A UDP checksum of zero means that there is none, so a sum whose complement is zero
has to be sent as all ones. Both places that complete a checksum store the
complement as it is; the field is zero exactly when the words that it covers add
up to the other zero of one's-complement arithmetic.
-/

set_option autoImplicit false

namespace QuincyTun.Linux

open QuincyTun.Foundation

/-- A total that is not zero but folds to all ones, whose complement is zero. -/
def NegativeZero (total : Nat) : Prop := total ≠ 0 ∧ total % 65535 = 0

instance (total : Nat) : Decidable (NegativeZero total) :=
  inferInstanceAs (Decidable (total ≠ 0 ∧ total % 65535 = 0))

theorem complement_eq_zero_iff (total : Nat) :
    ~~~ UInt16.ofNat (fold total) = 0 ↔ NegativeZero total := by
  have bound := fold_le total
  rw [NegativeZero, ← fold_eq_max_iff, ← UInt16.toNat_inj, toNat_complement_fold]
  change _ - _ = 0 ↔ _
  omega

/-! ## Completed checksums -/

/-- What the completed checksum of a packet covers: the word that was there and all that follows
the start, with the field blank. -/
def completedTotal (pkt : List UInt8) (csumStart csumOffset : UInt16) : Nat :=
  (u16At pkt (csumStart.toNat + csumOffset.toNat)).toNat +
    wordSum ((blanked pkt (csumStart.toNat + csumOffset.toNat)).drop csumStart.toNat)

theorem gsoNoneChecksum_field {pkt after : List UInt8} {csumStart csumOffset : UInt16}
    (completed : gsoNoneChecksum pkt csumStart csumOffset = .ok (after, .ok ())) :
    u16At after (csumStart.toNat + csumOffset.toNat) =
      ~~~ UInt16.ofNat (fold (completedTotal pkt csumStart csumOffset)) := by
  by_cases fits : csumStart.toNat + csumOffset.toNat + 2 ≤ pkt.length
  · rw [gsoNoneChecksum_eq fits, addU64] at completed
    split at completed
    case isTrue sum =>
      obtain rfl := (Prod.mk.inj (Except.ok.inj completed)).1
      exact u16At_overwrite_self _ _ _ (by rw [blanked, length_overwrite]; exact fits)
    case isFalse => cases completed
  · rw [gsoNoneChecksum, if_pos (by omega)] at completed
    cases completed

/-! ## Segments -/

section Segments

variable {plan : GsoPlan} {input out : List UInt8} {i dataAt : Nat}

def udpSegment (plan : GsoPlan) (input : List UInt8) (dataAt : Nat) : List UInt8 :=
  let dataLen := min plan.gsoSize (input.length - dataAt)
  overwrite (window input plan.iphLen (plan.hdrLen - plan.iphLen)) 4
    (be16 (UInt16.ofNat (dataLen + (plan.hdrLen - plan.iphLen)))) ++ window input dataAt dataLen

def udpSegmentTotal (plan : GsoPlan) (input : List UInt8) (dataAt : Nat) : Nat :=
  wordSum (pseudoHeader ipProtoUdp plan.srcAddr plan.dstAddr
    (UInt16.ofNat (udpSegment plan input dataAt).length)) + wordSum (udpSegment plan input dataAt)

theorem overwrite_region {region hdr field payload : List UInt8}
    (filled : region.length = hdr.length + payload.length) {n : Nat}
    (inside : n + field.length ≤ hdr.length) :
    overwrite (overwrite (overwrite region 0 hdr) n field) hdr.length payload =
      overwrite hdr n field ++ payload := by
  have headed : overwrite region 0 hdr = hdr ++ region.drop hdr.length := by
    rw [overwrite_eq_append _ _ _ (by omega), List.take_zero, List.nil_append, Nat.zero_add]
  have size : (overwrite hdr n field).length = hdr.length := length_overwrite ..
  rw [headed, overwrite_append_left _ _ _ _ inside,
    overwrite_eq_append _ _ _ (by rw [List.length_append, List.length_drop, size]; omega),
    List.take_left' size, List.drop_of_length_le, List.append_nil]
  rw [List.length_append, List.length_drop, size]
  omega

theorem window_overwrites (out hdr field payload : List UInt8) (start n : Nat)
    (fits : start + (hdr.length + payload.length) ≤ out.length)
    (inside : n + field.length ≤ hdr.length) :
    window (overwrite (overwrite (overwrite out start hdr) (start + n) field) (start + hdr.length)
      payload) start (hdr.length + payload.length) = overwrite hdr n field ++ payload := by
  have first : overwrite out start hdr = overwrite out (start + 0) hdr := rfl
  rw [window, drop_overwrite_add, drop_overwrite_add, first, drop_overwrite_add,
    take_overwrite_full _ _ _ _ (by omega), take_overwrite_full _ _ _ _ (by omega),
    take_overwrite_full _ _ _ _ (by omega)]
  exact overwrite_region (by rw [List.length_take, List.length_drop]; omega) inside

/-- Whatever the buffer held, the transport part of the segment comes from the input alone. -/
theorem segmentData_udp (checked : plan.Checked input.length)
    (udp : plan.protocol = ipProtoUdp) (inside : dataAt < input.length)
    (fits : plan.hdrLen + min plan.gsoSize (input.length - dataAt) ≤ out.length) :
    window (segmentData plan input out i dataAt) plan.iphLen
      (plan.hdrLen + min plan.gsoSize (input.length - dataAt) - plan.iphLen) =
        udpSegment plan input dataAt := by
  have notTcp : plan.protocol ≠ ipProtoTcp := by rw [udp]; decide
  have transport := checked.transport
  have headers := checked.headers
  rw [minTransportHLen, if_neg notTcp] at transport
  have hdr : (window input plan.iphLen (plan.hdrLen - plan.iphLen)).length =
      plan.hdrLen - plan.iphLen := length_window _ _ _ (by omega)
  have payload : (window input dataAt (min plan.gsoSize (input.length - dataAt))).length =
      min plan.gsoSize (input.length - dataAt) := length_window _ _ _ (by omega)
  have written := window_overwrites (segmentIp plan input out i dataAt)
    (window input plan.iphLen (plan.hdrLen - plan.iphLen))
    (be16 (UInt16.ofNat (min plan.gsoSize (input.length - dataAt) + (plan.hdrLen - plan.iphLen))))
    (window input dataAt (min plan.gsoSize (input.length - dataAt))) plan.iphLen 4
    (by rw [hdr, payload, length_segmentIp]; omega)
    (by rw [hdr, length_be16]; simp only [udpHLen] at transport; omega)
  have behind : plan.iphLen + (plan.hdrLen - plan.iphLen) = plan.hdrLen := by omega
  have total : plan.hdrLen - plan.iphLen + min plan.gsoSize (input.length - dataAt) =
      plan.hdrLen + min plan.gsoSize (input.length - dataAt) - plan.iphLen := by omega
  rw [hdr, payload, behind, total] at written
  rw [segmentData, segmentTransport, transportSegment, if_neg notTcp,
    segmentSizes_eq plan inside.le]
  exact written

theorem length_udpSegment (checked : plan.Checked input.length) (inside : dataAt < input.length) :
    (udpSegment plan input dataAt).length =
      plan.hdrLen - plan.iphLen + min plan.gsoSize (input.length - dataAt) := by
  have transport := checked.transport
  have headers := checked.headers
  rw [udpSegment, List.length_append, length_overwrite, length_window _ _ _ (by omega),
    length_window _ _ _ (by omega)]

theorem segmentSum_udp (checked : plan.Checked input.length)
    (udp : plan.protocol = ipProtoUdp) (inside : dataAt < input.length)
    (fits : plan.hdrLen + min plan.gsoSize (input.length - dataAt) ≤ out.length) :
    segmentSum plan input out i dataAt = udpSegmentTotal plan input dataAt := by
  rw [udpSegmentTotal, length_udpSegment checked inside, ← segmentData_udp checked udp inside fits,
    segmentSum, segmentSizes_eq plan inside.le, udp]

theorem segmentOut_field (out : List UInt8) (i : Nat) (checked : plan.Checked input.length)
    (udp : plan.protocol = ipProtoUdp) (inside : dataAt < input.length)
    (fits : plan.hdrLen + min plan.gsoSize (input.length - dataAt) ≤ out.length)
    (checksum : plan.transportCsumAt + 2 ≤ out.length) :
    u16At (segmentOut plan input out i dataAt) plan.transportCsumAt =
      ~~~ UInt16.ofNat (fold (udpSegmentTotal plan input dataAt)) := by
  rw [segmentOut, u16At_overwrite_self _ _ _ (by rw [length_segmentData]; omega),
    segmentSum_udp checked udp inside fits]

end Segments

/-! ## A whole call -/

section Call

variable {s s' : GsoState} {hdr : VirtioNetHdr} {isV6 : Bool} {outOffset n : Nat}

def checksumField (hdr : VirtioNetHdr) (outOffset : Nat) (s : GsoState) (i : Nat) : UInt16 :=
  u16At ((s.outBufs.getD i []).drop outOffset) (hdr.csumStart.toNat + hdr.csumOffset.toNat)

def udpTotal (hdr : VirtioNetHdr) (outOffset : Nat) (isV6 : Bool) (input : List UInt8) (i : Nat) :
    Nat :=
  let input := unsummed isV6 (hdr.csumStart.toNat + hdr.csumOffset.toNat) input
  udpSegmentTotal (gsoPlan hdr outOffset isV6 input) input
    (hdr.hdrLen.toNat + i * hdr.gsoSize.toNat)

theorem gsoSplit_field (udp : gsoProtocol hdr.gsoType = ipProtoUdp)
    (accepted : gsoSplit s hdr outOffset isV6 = .ok (s', .ok n)) {i : Nat} (inside : i < n) :
    checksumField hdr outOffset s' i =
      ~~~ UInt16.ofNat (fold (udpTotal hdr outOffset isV6 s.input i)) := by
  by_cases ready : GsoReady s hdr isV6
  · have outcome := gsoSplit_outcome outOffset ready
    rw [accepted] at outcome
    cases outcome with
    | done written =>
      obtain ⟨buf, found, enough⟩ := written.fits i (Nat.zero_le _) inside
      have checksum := written.checksums i (Nat.zero_le _) inside buf found
      have data := written.inside i (Nat.zero_le _) inside
      have out := written.outBufs i
      rw [found, Option.map_some, if_pos ⟨Nat.zero_le _, inside⟩] at out
      rw [GsoPlan.segmentLen] at enough
      change outOffset + _ ≤ _ at enough
      change outOffset + _ + 2 ≤ _ at checksum
      have room : (buf.take outOffset).length = outOffset := by
        rw [List.length_take]
        omega
      have field := segmentOut_field (buf.drop outOffset) i
        (gsoPlan_checked outOffset ready) udp data (by rw [List.length_drop]; omega)
        (by rw [List.length_drop]; omega)
      have total : udpTotal hdr outOffset isV6 s.input i =
          udpSegmentTotal (gsoPlan hdr outOffset isV6 (s.unsummed hdr isV6).input)
            (s.unsummed hdr isV6).input
            ((gsoPlan hdr outOffset isV6 (s.unsummed hdr isV6).input).dataAt i) := rfl
      rw [total, ← field, checksumField, List.getD_eq_getElem?_getD, out, Option.getD_some,
        segmentBuf]
      change u16At (List.drop outOffset (List.take outOffset buf ++ _)) _ = _
      rw [List.drop_left' room]
      rfl
  · obtain ⟨_, _, refused⟩ := gsoSplit_rejects outOffset ready
    rw [refused] at accepted
    cases accepted

theorem gsoSplit_count (accepted : gsoSplit s hdr outOffset isV6 = .ok (s', .ok n)) :
    n = segmentCount hdr s.input := by
  by_cases ready : GsoReady s hdr isV6
  · have outcome := gsoSplit_outcome outOffset ready
    rw [accepted] at outcome
    cases outcome with
    | done written =>
      have count := written.count ready.positive
      change n = ((unsummed isV6 _ s.input).length - hdr.hdrLen.toNat + hdr.gsoSize.toNat - 1) /
        hdr.gsoSize.toNat at count
      rwa [length_unsummed] at count
  · obtain ⟨_, _, refused⟩ := gsoSplit_rejects outOffset ready
    rw [refused] at accepted
    cases accepted

end Call

/-- The checksums of a UDP packet's segments are not zero exactly when no segment covers words
that add up to a negative zero, and likewise for one completed checksum. -/
theorem udpChecksums_nonzero_iff (s s' : GsoState) (hdr : VirtioNetHdr) (outOffset n : Nat)
    (isV6 : Bool) (pkt after : List UInt8) (csumStart csumOffset : UInt16) :
    (gsoProtocol hdr.gsoType = ipProtoUdp → gsoSplit s hdr outOffset isV6 = .ok (s', .ok n) →
      ((∀ i < n, checksumField hdr outOffset s' i ≠ 0) ↔
        ∀ i < segmentCount hdr s.input,
          ¬ NegativeZero (udpTotal hdr outOffset isV6 s.input i))) ∧
    (gsoNoneChecksum pkt csumStart csumOffset = .ok (after, .ok ()) →
      (u16At after (csumStart.toNat + csumOffset.toNat) ≠ 0 ↔
        ¬ NegativeZero (completedTotal pkt csumStart csumOffset))) := by
  constructor
  · intro udp accepted
    rw [← gsoSplit_count accepted]
    refine forall_congr' fun i => forall_congr' fun inside => not_congr ?_
    rw [gsoSplit_field udp accepted inside, complement_eq_zero_iff]
  · intro completed
    rw [gsoNoneChecksum_field completed, Ne, complement_eq_zero_iff]

/-- Datagrams of two bytes; the words of the first and of its pseudo-header add up to `0xFFFF`. -/
def zeroSumDatagram (checksum : UInt16) (rest : List UInt8) : List UInt8 :=
  [0x45, 0, 0, 30, 0, 0, 0, 0, 64, 17, 0, 0, 10, 0, 0, 1, 10, 0, 0, 2, 0, 1, 0, 2, 0, 10] ++
    be16 checksum ++ [0xEB, 0xD4] ++ rest

def zeroSum : GsoState where
  input := zeroSumDatagram 0 [1, 2]
  outBufs := List.replicate 2 (List.replicate 30 0)
  sizes := [0, 0]

def zeroSumHdr : VirtioNetHdr := ⟨virtioNetHdrFNeedsCsum, virtioNetHdrGsoUdpL4, 28, 2, 20, 6⟩

theorem gsoSplit_zeroSum : ∃ s', gsoSplit zeroSum zeroSumHdr 0 false = .ok (s', .ok 2) := by
  have ready : GsoReady zeroSum zeroSumHdr false := by
    constructor <;> decide +kernel
  have inside : zeroSum.input.length = 32 := rfl
  have hdrLen : zeroSumHdr.hdrLen.toNat = 28 := rfl
  have gsoSize : zeroSumHdr.gsoSize.toNat = 2 := rfl
  obtain ⟨s', n, ran, -⟩ := gsoSplit_segments 0 ready rfl (by decide +kernel) (by
    intro i below
    rw [inside, hdrLen, gsoSize] at below
    have two : i < 2 := by omega
    have found : zeroSum.outBufs[i]? = some (List.replicate 30 0) :=
      List.getElem?_replicate_of_lt two
    refine ⟨_, found, ?_⟩
    rw [inside, hdrLen, gsoSize, List.length_replicate]
    omega)
  obtain rfl : n = 2 := (gsoSplit_count ran).trans rfl
  exact ⟨s', ran⟩

theorem gsoNoneChecksum_zeroSum :
    gsoNoneChecksum (zeroSumDatagram 0x141E []) 20 6 = .ok (zeroSumDatagram 0 [], .ok ()) := by
  decide +kernel

theorem udpChecksums_nonzero_iff_zeroSum : ∃ s',
    gsoSplit zeroSum zeroSumHdr 0 false = .ok (s', .ok 2) ∧
      ((∀ i < 2, checksumField zeroSumHdr 0 s' i ≠ 0) ↔
        ∀ i < segmentCount zeroSumHdr zeroSum.input,
          ¬ NegativeZero (udpTotal zeroSumHdr 0 false zeroSum.input i)) ∧
      (u16At (zeroSumDatagram 0 []) 26 ≠ 0 ↔
        ¬ NegativeZero (completedTotal (zeroSumDatagram 0x141E []) 20 6)) := by
  obtain ⟨s', ran⟩ := gsoSplit_zeroSum
  obtain ⟨segments, completed⟩ := udpChecksums_nonzero_iff zeroSum s' zeroSumHdr 0 2 false
    (zeroSumDatagram 0x141E []) (zeroSumDatagram 0 []) 20 6
  exact ⟨s', ran, segments rfl ran, completed gsoNoneChecksum_zeroSum⟩

/-- Both places store a zero. -/
theorem udpChecksums_not_always_nonzero :
    ¬ (∀ (s : GsoState) (hdr : VirtioNetHdr) (outOffset : Nat) (isV6 : Bool) (s' : GsoState)
        (n : Nat), gsoProtocol hdr.gsoType = ipProtoUdp → hdr.csumOffset = 6 →
        gsoSplit s hdr outOffset isV6 = .ok (s', .ok n) →
        ∀ i < n, checksumField hdr outOffset s' i ≠ 0) ∧
    ¬ (∀ (pkt after : List UInt8) (csumStart : UInt16),
        gsoNoneChecksum pkt csumStart 6 = .ok (after, .ok ()) →
        u16At after (csumStart.toNat + 6) ≠ 0) := by
  constructor
  · intro nonzero
    obtain ⟨s', ran⟩ := gsoSplit_zeroSum
    apply nonzero zeroSum zeroSumHdr 0 false s' 2 rfl rfl ran 0 (by decide)
    rw [gsoSplit_field rfl ran (by decide), complement_eq_zero_iff]
    decide +kernel
  · intro nonzero
    exact nonzero _ _ 20 gsoNoneChecksum_zeroSum rfl

end QuincyTun.Linux
