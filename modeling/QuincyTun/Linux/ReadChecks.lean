import QuincyTun.Linux.Split
import QuincyTun.Linux.VirtioRead

/-! The checks that come before a packet is cut, and which way a call goes after them. -/

set_option autoImplicit false

namespace QuincyTun.Linux

open QuincyTun.Foundation

/-- The checks on the arguments other than the packet and its header. -/
structure Admits (lengths sizes : List Nat) (offset : Nat) : Prop where
  sizes : lengths.length ≤ sizes.length
  few : lengths.length ≤ 65535
  offsets : ∀ length ∈ lengths, offset ≤ length

/-- The header asks for segments, and its type is one that goes with the packet. -/
structure Segmenting (isV6 : Bool) (hdr : VirtioNetHdr) (input : List UInt8) : Prop where
  gsoSize : hdr.gsoSize ≠ 0
  version : ipVersion input = if isV6 then 6 else 4
  gsoType : hdr.gsoType = virtioNetHdrGsoUdpL4 ∨
    hdr.gsoType = if isV6 then virtioNetHdrGsoTcpv6 else virtioNetHdrGsoTcpv4

/-- The length of all headers, when there is a transport header to take it from. -/
def headersLen (hdr : VirtioNetHdr) (input : List UInt8) : Option Nat :=
  if hdr.gsoType = virtioNetHdrGsoUdpL4 then some (hdr.csumStart.toNat + 8)
  else if input.length ≤ hdr.csumStart.toNat + 12 then none
  else
    let tcpHLen := (byteAt input (hdr.csumStart.toNat + 12) >>> 4).toNat * 4
    if tcpHLen < 20 then none else some (hdr.csumStart.toNat + tcpHLen)

section Checks

variable {isV6 : Bool} {hdr : VirtioNetHdr} {offset len : Nat} {s : GsoState} {input : List UInt8}

theorem addU16_eq {a b : UInt16} {total : Nat} (sum : a.toNat + b.toNat = total) :
    addU16 a b = if total ≤ 65535 then .ok (UInt16.ofNat total) else .error .overflow := by
  subst sum
  unfold addU16
  by_cases small : a.toNat + b.toNat < 65536
  · have same : a + b = UInt16.ofNat (a.toNat + b.toNat) := by
      rw [← UInt16.toNat_inj, UInt16.toNat_add, UInt16.toNat_ofNat']
    rw [if_pos small, if_pos (by omega), same]
  · rw [if_neg small, if_neg (by omega)]

/-- The TCP header length as the code computes it, in 16 bits. -/
theorem toNat_dataOffset (byte : UInt8) :
    ((byte.toUInt16 >>> 4) * 4).toNat = (byte >>> 4).toNat * 4 := by
  have nibble : (byte.toUInt16 >>> 4).toNat = (byte >>> 4).toNat := by
    simp [UInt16.toNat_shiftRight, UInt8.toNat_shiftRight]
  have four : (4 : UInt16).toNat = 4 := rfl
  have small := (byte >>> 4).toNat_lt
  rw [UInt16.toNat_mul, nibble, four]
  exact Nat.mod_eq_of_lt (by omega)

theorem toNat_shiftRight_four_lt (byte : UInt8) : (byte >>> 4).toNat < 16 := by
  rw [UInt8.toNat_shiftRight]
  have bound := byte.toNat_lt
  exact Nat.shiftRight_eq_div_pow byte.toNat 4 ▸ by omega

/-- The TCP header length is at most sixty, so of the two bounds one is a check. -/
theorem tcpHLen_check (byte : UInt8) :
    ((byte.toUInt16 >>> 4) * 4 < 20 ∨ (60 : UInt16) < (byte.toUInt16 >>> 4) * 4) ↔
      (byte >>> 4).toNat * 4 < 20 := by
  have nibble := toNat_shiftRight_four_lt byte
  have twenty : (20 : UInt16).toNat = 20 := rfl
  have sixty : (60 : UInt16).toNat = 60 := rfl
  rw [UInt16.lt_iff_toNat_lt, UInt16.lt_iff_toNat_lt, toNat_dataOffset, twenty, sixty]
  omega

theorem parsedHdrLen_eq (found : headersLen hdr input = some len) :
    parsedHdrLen hdr input =
      if len ≤ 65535 then .ok (.ok (UInt16.ofNat len)) else .error .overflow := by
  unfold headersLen at found
  unfold parsedHdrLen
  split at found
  case isTrue udp =>
    obtain rfl := Option.some.inj found
    rw [if_pos udp, addU16_eq rfl]
    change (if hdr.csumStart.toNat + 8 ≤ 65535 then _ else _) >>= _ = _
    split <;> rfl
  case isFalse tcp =>
    split at found
    case isTrue short => cases found
    case isFalse long =>
      dsimp only at found
      split at found
      case isTrue small => cases found
      case isFalse minimal =>
        obtain rfl := Option.some.inj found
        rw [if_neg tcp, if_neg long, getByte_ok (by omega), Run.ok_bind]
        dsimp only
        rw [if_neg (mt (tcpHLen_check _).mp minimal),
          addU16_eq (congrArg (hdr.csumStart.toNat + ·) (toNat_dataOffset _))]
        split <;> rfl

theorem parsedHdrLen_missing (missing : headersLen hdr input = none) :
    ∃ error, parsedHdrLen hdr input = .ok (.error error) := by
  unfold headersLen at missing
  unfold parsedHdrLen
  split at missing
  case isTrue udp => cases missing
  case isFalse tcp =>
    rw [if_neg tcp]
    split at missing
    case isTrue short => exact ⟨_, if_pos short⟩
    case isFalse long =>
      dsimp only at missing
      split at missing
      case isTrue small =>
        rw [if_neg long, getByte_ok (by omega), Run.ok_bind]
        dsimp only
        rw [if_pos ((tcpHLen_check _).mpr small)]
        exact ⟨_, rfl⟩
      case isFalse minimal => cases missing

end Checks

/-! ## Which way a call goes -/

section Read

variable {isV6 : Bool} {hdr : VirtioNetHdr} {offset len : Nat} {s : GsoState}

theorem handleVirtioRead_refuses (refused : ¬ Admits (s.outBufs.map List.length) s.sizes offset) :
    Rejected (handleVirtioRead hdr s offset) := by
  refine .guard fun sizes => .guard fun few => .guard fun offsets => ?_
  refine absurd ⟨?_, ?_, fun length member => ?_⟩ refused
  · rw [List.length_map]
    exact Nat.le_of_not_lt sizes
  · rw [List.length_map]
    exact Nat.le_of_not_lt few
  · obtain ⟨buf, stored, rfl⟩ := List.mem_map.mp member
    by_contra outside
    exact offsets (List.any_eq_true.mpr ⟨buf, stored, decide_eq_true (Nat.lt_of_not_le outside)⟩)

theorem checkIpVersion_iff (version gsoType : UInt8) : checkIpVersion version gsoType = .ok () ↔
    ∃ isV6 : Bool, (version = if isV6 then 6 else 4) ∧ (gsoType = virtioNetHdrGsoUdpL4 ∨
      gsoType = if isV6 then virtioNetHdrGsoTcpv6 else virtioNetHdrGsoTcpv4) := by
  unfold checkIpVersion otherError
  constructor
  · intro passed
    split at passed
    case isTrue four =>
      split at passed
      case isTrue => cases passed
      case isFalse fits => exact ⟨false, four, by tauto⟩
    case isFalse =>
      split at passed
      case isTrue six =>
        split at passed
        case isTrue => cases passed
        case isFalse fits => exact ⟨true, six, by tauto⟩
      case isFalse => cases passed
  · rintro ⟨isV6, rfl, rfl | rfl⟩ <;> cases isV6 <;> rfl

def splitParsed (hdr : VirtioNetHdr) (s : GsoState) (offset : Nat) (isV6 : Bool) :
    Result UInt16 → Run (GsoState × Result Nat)
  | .error error => pure (s, .error error)
  | .ok hdrLen =>
    let len := s.input.length
    let csumStart := hdr.csumStart
    let csumEnd := csumStart.toNat + hdr.csumOffset.toNat + 1
    if len < hdrLen.toNat then
      pure (s, otherError s!"length of packet ({len}) < virtioNetHdr.hdr_len ({hdrLen})")
    else if hdrLen < csumStart then
      pure (s, otherError
        s!"virtioNetHdr.hdrLen ({hdrLen}) < virtioNetHdr.csumStart ({csumStart})")
    else if csumEnd ≥ len then
      pure (s, otherError
        s!"end of checksum offset ({csumEnd}) exceeds packet length ({len})")
    else gsoSplit s { hdr with hdrLen } offset isV6

section Admitted

variable (admits : Admits (s.outBufs.map List.length) s.sizes offset)

include admits

theorem Admits.passed : ¬ s.sizes.length < s.outBufs.length ∧ ¬ s.outBufs.length > 65535 ∧
    ¬ (s.outBufs.any fun buf => offset > buf.length) = true := by
  refine ⟨?_, ?_, ?_⟩
  · rw [← s.outBufs.length_map (f := List.length)]
    exact Nat.not_lt.mpr admits.sizes
  · rw [← s.outBufs.length_map (f := List.length)]
    exact Nat.not_lt.mpr admits.few
  · rw [List.any_eq_true]
    rintro ⟨buf, member, outside⟩
    have inside := admits.offsets _ (List.mem_map_of_mem member)
    have outside := of_decide_eq_true outside
    omega

theorem handleVirtioRead_whole (plain : hdr.gsoType = virtioNetHdrGsoNone) :
    handleVirtioRead hdr s offset = readWhole hdr s offset := by
  obtain ⟨sizes, few, offsets⟩ := admits.passed
  unfold handleVirtioRead
  dsimp only
  rw [if_neg sizes, if_neg few, if_neg offsets, if_pos plain]

theorem handleVirtioRead_unsegmented (offloads : hdr.gsoType ≠ virtioNetHdrGsoNone)
    (nonempty : s.input ≠ []) (unsegmented : ∀ isV6, ¬ Segmenting isV6 hdr s.input) :
    Rejected (handleVirtioRead hdr s offset) := by
  obtain ⟨sizes, few, offsets⟩ := admits.passed
  unfold handleVirtioRead
  dsimp only
  rw [if_neg sizes, if_neg few, if_neg offsets, if_neg offloads]
  refine .guard fun positive => .guard fun _ => ?_
  rw [getByte_ok (List.length_pos_iff.mpr nonempty), Run.ok_bind]
  cases checked : checkIpVersion (byteAt s.input 0 >>> 4) hdr.gsoType with
  | error error => exact ⟨_, _, rfl⟩
  | ok passed =>
    obtain ⟨isV6, version, gsoType⟩ := (checkIpVersion_iff _ _).mp checked
    exact absurd ⟨positive, version, gsoType⟩ (unsegmented isV6)

theorem handleVirtioRead_segmenting (segmenting : Segmenting isV6 hdr s.input) :
    handleVirtioRead hdr s offset =
      parsedHdrLen hdr s.input >>= splitParsed hdr s offset isV6 := by
  obtain ⟨sizes, few, offsets⟩ := admits.passed
  obtain ⟨gsoSize, version, gsoType⟩ := segmenting
  have nonempty : 0 < s.input.length := by
    refine List.length_pos_iff.mpr fun empty => ?_
    rw [empty] at version
    exact absurd version (by cases isV6 <;> decide)
  have offloads : hdr.gsoType ≠ virtioNetHdrGsoNone := by
    rcases gsoType with type | type <;> rw [type] <;> cases isV6 <;> decide
  have supported : ¬ (hdr.gsoType ≠ virtioNetHdrGsoTcpv4 ∧ hdr.gsoType ≠ virtioNetHdrGsoTcpv6 ∧
      hdr.gsoType ≠ virtioNetHdrGsoUdpL4) := by
    rcases gsoType with type | type <;> rw [type] <;> cases isV6 <;> decide
  have first : byteAt s.input 0 >>> 4 = if isV6 then 6 else 4 := version
  have matching : checkIpVersion (if isV6 then 6 else 4) hdr.gsoType = .ok () :=
    (checkIpVersion_iff _ _).mpr ⟨isV6, rfl, gsoType⟩
  have family : ((if isV6 then 6 else 4 : UInt8) == 6) = isV6 := by cases isV6 <;> rfl
  unfold handleVirtioRead
  dsimp only
  rw [if_neg sizes, if_neg few, if_neg offsets, if_neg offloads, if_neg gsoSize, if_neg supported,
    getByte_ok nonempty, Run.ok_bind, first, matching]
  dsimp only
  rw [family]
  refine bind_congr fun parsed => ?_
  cases parsed with
  | error error => rfl
  | ok hdrLen => rfl

theorem handleVirtioRead_unparsed (segmenting : Segmenting isV6 hdr s.input)
    (missing : headersLen hdr s.input = none) : Rejected (handleVirtioRead hdr s offset) := by
  obtain ⟨error, parsed⟩ := parsedHdrLen_missing missing
  rw [handleVirtioRead_segmenting admits segmenting, parsed]
  exact ⟨_, _, rfl⟩

/-- A header length of more than 16 bits stops the call before it is checked. -/
theorem handleVirtioRead_overflows (segmenting : Segmenting isV6 hdr s.input)
    (found : headersLen hdr s.input = some len) (large : 65535 < len) :
    handleVirtioRead hdr s offset = .error .overflow := by
  rw [handleVirtioRead_segmenting admits segmenting, parsedHdrLen_eq found, if_neg (by omega)]
  rfl

theorem handleVirtioRead_parsed (segmenting : Segmenting isV6 hdr s.input)
    (found : headersLen hdr s.input = some len) (small : len ≤ 65535) :
    (GsoReady s { hdr with hdrLen := UInt16.ofNat len } isV6 →
      handleVirtioRead hdr s offset =
        gsoSplit s { hdr with hdrLen := UInt16.ofNat len } offset isV6) ∧
      (¬ GsoReady s { hdr with hdrLen := UInt16.ofNat len } isV6 →
        Rejected (handleVirtioRead hdr s offset)) := by
  rw [handleVirtioRead_segmenting admits segmenting, parsedHdrLen_eq found, if_pos small,
    Run.ok_bind]
  constructor
  · intro ready
    have transport := ready.transport
    have headers := ready.headers
    have checksum := ready.checksum
    have order : ¬ UInt16.ofNat len < hdr.csumStart := by
      rw [UInt16.lt_iff_toNat_lt]
      exact Nat.not_lt.mpr ((Nat.le_add_right ..).trans transport)
    unfold splitParsed
    dsimp only at headers checksum ⊢
    rw [if_neg (by omega), if_neg order, if_neg (by omega)]
  · intro unready
    exact .guard fun _ => .guard fun _ => .guard fun _ => gsoSplit_rejects offset unready

end Admitted

end Read

end QuincyTun.Linux
