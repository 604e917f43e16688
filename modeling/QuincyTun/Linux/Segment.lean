import QuincyTun.Linux.Eligible
import QuincyTun.Linux.PartialChecksum

/-! One segment of a large packet, as a function of the packet.

The segmentation loop writes a segment field by field into an output buffer.
`segmentOut` is the buffer it leaves; the writes stay in range exactly when the
transport checksum does.
-/

set_option autoImplicit false

namespace QuincyTun.Linux

open QuincyTun.Foundation

/-! ## The writes without their checks -/

def ipSegment (plan : GsoPlan) (out : List UInt8) (i totalLen : Nat) : List UInt8 :=
  if plan.isV6 then overwrite out 4 (be16 (UInt16.ofNat (totalLen - 40)))
  else
    let numbered := if i > 0 then overwrite out 4 (be16 (u16At out 4 + UInt16.ofNat i)) else out
    let sized := overwrite numbered 2 (be16 (UInt16.ofNat totalLen))
    overwrite sized 10 (be16 (~~~ UInt16.ofNat (fold (wordSum (sized.take plan.iphLen)))))

def transportSegment (plan : GsoPlan) (out : List UInt8) (i dataLen : Nat) (last : Bool) :
    List UInt8 :=
  if plan.protocol = ipProtoTcp then
    let numbered := overwrite out (plan.iphLen + 4)
      (be32 (plan.firstTcpSeqNum + UInt32.ofNat (plan.gsoSize * i)))
    if last then numbered
    else
      overwrite numbered (plan.iphLen + tcpFlagsOffset)
        [byteAt numbered (plan.iphLen + tcpFlagsOffset) &&& ~~~(tcpFlagFin ||| tcpFlagPsh)]
  else
    overwrite out (plan.iphLen + 4)
      (be16 (UInt16.ofNat (dataLen + (plan.hdrLen - plan.iphLen))))

def segmentIp (plan : GsoPlan) (input out : List UInt8) (i dataAt : Nat) : List UInt8 :=
  ipSegment plan (overwrite out 0 (window input 0 plan.iphLen)) i
    (segmentSizes plan input.length dataAt).totalLen

def segmentTransport (plan : GsoPlan) (input out : List UInt8) (i dataAt : Nat) : List UInt8 :=
  let segment := segmentSizes plan input.length dataAt
  transportSegment plan (overwrite (segmentIp plan input out i dataAt) plan.iphLen
    (window input plan.iphLen (plan.hdrLen - plan.iphLen))) i segment.dataLen
    (segment.segmentEnd == input.length)

def segmentData (plan : GsoPlan) (input out : List UInt8) (i dataAt : Nat) : List UInt8 :=
  overwrite (segmentTransport plan input out i dataAt) plan.hdrLen
    (window input dataAt (segmentSizes plan input.length dataAt).dataLen)

/-- The sum that the transport checksum of a segment completes. -/
def segmentSum (plan : GsoPlan) (input out : List UInt8) (i dataAt : Nat) : Nat :=
  let segment := segmentSizes plan input.length dataAt
  wordSum (pseudoHeader plan.protocol plan.srcAddr plan.dstAddr segment.lenForPseudo) +
    wordSum (window (segmentData plan input out i dataAt) plan.iphLen
      (segment.totalLen - plan.iphLen))

def segmentOut (plan : GsoPlan) (input out : List UInt8) (i dataAt : Nat) : List UInt8 :=
  overwrite (segmentData plan input out i dataAt) plan.transportCsumAt
    (be16 (~~~ UInt16.ofNat (fold (segmentSum plan input out i dataAt))))

/-- What `gso_split` has checked before it starts the loop. -/
structure GsoPlan.Checked (plan : GsoPlan) (inputLen : Nat) : Prop where
  ip : minIphLen plan.isV6 ≤ plan.iphLen
  protocol : plan.protocol = ipProtoTcp ∨ plan.protocol = ipProtoUdp
  transport : plan.iphLen + minTransportHLen plan.protocol ≤ plan.hdrLen
  headers : plan.hdrLen ≤ inputLen
  src : plan.srcAddr.length = addrLen plan.isV6
  dst : plan.dstAddr.length = addrLen plan.isV6

section Sizes

variable {plan : GsoPlan} {input out : List UInt8} {i dataAt : Nat}

theorem segmentSizes_eq (plan : GsoPlan) {inputLen dataAt : Nat} (inside : dataAt ≤ inputLen) :
    segmentSizes plan inputLen dataAt =
      ⟨dataAt + min plan.gsoSize (inputLen - dataAt), min plan.gsoSize (inputLen - dataAt),
        plan.hdrLen + min plan.gsoSize (inputLen - dataAt),
        UInt16.ofNat (plan.hdrLen - plan.iphLen + min plan.gsoSize (inputLen - dataAt))⟩ := by
  unfold segmentSizes
  split
  · have less : min plan.gsoSize (inputLen - dataAt) = inputLen - dataAt := by omega
    have stop : dataAt + (inputLen - dataAt) = inputLen := by omega
    rw [less, stop]
  · have full : min plan.gsoSize (inputLen - dataAt) = plan.gsoSize := by omega
    rw [full]

@[simp] theorem length_ipSegment (plan : GsoPlan) (out : List UInt8) (i totalLen : Nat) :
    (ipSegment plan out i totalLen).length = out.length := by
  unfold ipSegment
  split
  · simp
  · split <;> simp

@[simp] theorem length_transportSegment (plan : GsoPlan) (out : List UInt8) (i dataLen : Nat)
    (last : Bool) : (transportSegment plan out i dataLen last).length = out.length := by
  unfold transportSegment
  split
  · split <;> simp
  · simp

@[simp] theorem length_segmentIp (plan : GsoPlan) (input out : List UInt8) (i dataAt : Nat) :
    (segmentIp plan input out i dataAt).length = out.length := by simp [segmentIp]

@[simp] theorem length_segmentTransport (plan : GsoPlan) (input out : List UInt8)
    (i dataAt : Nat) : (segmentTransport plan input out i dataAt).length = out.length := by
  simp [segmentTransport]

@[simp] theorem length_segmentData (plan : GsoPlan) (input out : List UInt8) (i dataAt : Nat) :
    (segmentData plan input out i dataAt).length = out.length := by
  simp [segmentData]

@[simp] theorem length_segmentOut (plan : GsoPlan) (input out : List UInt8) (i dataAt : Nat) :
    (segmentOut plan input out i dataAt).length = out.length := by
  simp [segmentOut]

end Sizes

/-! ## The checked writes -/

section Writes

variable {plan : GsoPlan} {input out : List UInt8} {i dataAt : Nat}

theorem writeIpHeader_ok {totalLen : Nat} (ip : minIphLen plan.isV6 ≤ plan.iphLen)
    (total : plan.iphLen ≤ totalLen) (fits : plan.iphLen ≤ out.length) :
    writeIpHeader plan out i totalLen = .ok (ipSegment plan out i totalLen) := by
  have small : plan.iphLen < 65536 := plan.hdr.csumStart.toNat_lt
  unfold writeIpHeader ipSegment
  cases family : plan.isV6 with
  | true =>
    rw [family] at ip
    have long : 40 ≤ plan.iphLen := ip
    rw [if_pos rfl, if_pos rfl, subLen_ok (by omega), Run.ok_bind, writeU16_ok (by omega)]
  | false =>
    rw [family] at ip
    have long : 20 ≤ plan.iphLen := ip
    have finish : ∀ numbered : List UInt8, numbered.length = out.length →
        (do
          let out ← writeU16 numbered 2 (UInt16.ofNat totalLen)
          let header ← slice out 0 plan.iphLen
          let ipv4Csum ← checksum header 0
          writeU16 out 10 (~~~ipv4Csum)) =
        .ok (overwrite (overwrite numbered 2 (be16 (UInt16.ofNat totalLen))) 10
          (be16 (~~~ UInt16.ofNat (fold (wordSum
            ((overwrite numbered 2 (be16 (UInt16.ofNat totalLen))).take plan.iphLen)))))) := by
      intro numbered size
      have sized : (overwrite numbered 2 (be16 (UInt16.ofNat totalLen))).length = out.length := by
        rw [length_overwrite, size]
      rw [writeU16_ok (by omega), Run.ok_bind, slice_ok (Nat.zero_le _) (by omega), Run.ok_bind,
        Nat.sub_zero, window, List.drop_zero, checksum_ok _ _ (by rw [List.length_take]; omega),
        Run.ok_bind, writeU16_ok (by omega), Nat.zero_add]
    rw [if_neg Bool.false_ne_true, if_neg Bool.false_ne_true]
    by_cases later : i > 0
    · rw [if_pos later, if_pos later, readU16_ok (by omega), Run.ok_bind,
        writeU16_ok (by omega), Run.ok_bind]
      exact finish _ (length_overwrite ..)
    · rw [if_neg later, if_neg later, Run.pure_eq_ok, Run.ok_bind]
      exact finish out rfl

theorem toNat_csumStart_add {n : UInt16} (fits : plan.iphLen + n.toNat < 65536) :
    (plan.hdr.csumStart + n).toNat = plan.iphLen + n.toNat := by
  rw [UInt16.toNat_add]
  exact Nat.mod_eq_of_lt fits

theorem writeTransportHeader_ok {dataLen : Nat} {last : Bool}
    (transport : plan.iphLen + minTransportHLen plan.protocol ≤ plan.hdrLen)
    (fits : plan.hdrLen ≤ out.length) (product : plan.gsoSize * i < 2 ^ 32) :
    writeTransportHeader plan out i dataLen last =
      .ok (transportSegment plan out i dataLen last) := by
  have small : plan.hdrLen < 65536 := plan.hdr.hdrLen.toNat_lt
  have flagsAt : tcpFlagsOffset = 13 := rfl
  unfold writeTransportHeader transportSegment
  split
  · rename_i tcp
    rw [minTransportHLen, if_pos tcp] at transport
    have four : (plan.hdr.csumStart + 4).toNat = plan.iphLen + 4 :=
      toNat_csumStart_add (n := 4) (by change plan.iphLen + 4 < 65536; omega)
    have eight : (plan.hdr.csumStart + 8).toNat = plan.iphLen + 8 :=
      toNat_csumStart_add (n := 8) (by change plan.iphLen + 8 < 65536; omega)
    rw [mulU32_ok product, Run.ok_bind,
      addU16_ok (by change plan.iphLen + 4 < 65536; omega), Run.ok_bind,
      addU16_ok (by change plan.iphLen + 8 < 65536; omega), Run.ok_bind, four, eight,
      copyInto_ok (by omega) (by omega) (by rw [length_be32]; omega), Run.ok_bind]
    cases last with
    | true => rfl
    | false =>
      have size : (overwrite out (plan.iphLen + 4)
          (be32 (plan.firstTcpSeqNum + UInt32.ofNat (plan.gsoSize * i)))).length = out.length :=
        length_overwrite ..
      rw [if_neg Bool.false_ne_true, if_neg Bool.false_ne_true, getByte_ok (by omega), Run.ok_bind,
        setByte_ok (by omega)]
  · rename_i notTcp
    rw [minTransportHLen, if_neg notTcp] at transport
    have width : udpHLen = 8 := rfl
    have four : (plan.hdr.csumStart + 4).toNat = plan.iphLen + 4 :=
      toNat_csumStart_add (n := 4) (by change plan.iphLen + 4 < 65536; omega)
    have six : (plan.hdr.csumStart + 6).toNat = plan.iphLen + 6 :=
      toNat_csumStart_add (n := 6) (by change plan.iphLen + 6 < 65536; omega)
    rw [addU16_ok (by change plan.iphLen + 4 < 65536; omega), Run.ok_bind,
      addU16_ok (by change plan.iphLen + 6 < 65536; omega), Run.ok_bind, four, six,
      copyInto_ok (by omega) (by omega) (by rw [length_be16]; omega)]

theorem writeSegmentData_ok (checked : plan.Checked input.length) (behind : plan.hdrLen ≤ dataAt)
    (inside : dataAt < input.length) (product : plan.gsoSize * i < 2 ^ 32)
    (fits : (segmentSizes plan input.length dataAt).totalLen ≤ out.length) :
    writeSegmentData plan input out i dataAt = .ok (segmentData plan input out i dataAt) := by
  have sizes := segmentSizes_eq plan inside.le
  have bound : (segmentSizes plan input.length dataAt).totalLen =
      plan.hdrLen + min plan.gsoSize (input.length - dataAt) := by rw [sizes]
  have transport := checked.transport
  have whole := checked.headers
  have header : (window input 0 plan.iphLen).length = plan.iphLen :=
    length_window _ _ _ (by omega)
  have behindIp : (window input plan.iphLen (plan.hdrLen - plan.iphLen)).length =
      plan.hdrLen - plan.iphLen := length_window _ _ _ (by omega)
  have payload : (window input dataAt (segmentSizes plan input.length dataAt).dataLen).length =
      (segmentSizes plan input.length dataAt).dataLen := by
    rw [sizes]
    exact length_window _ _ _ (by simp only []; omega)
  have stop : (segmentSizes plan input.length dataAt).segmentEnd =
      dataAt + (segmentSizes plan input.length dataAt).dataLen := by rw [sizes]
  have total : (segmentSizes plan input.length dataAt).totalLen =
      plan.hdrLen + (segmentSizes plan input.length dataAt).dataLen := by rw [sizes]
  have short : (segmentSizes plan input.length dataAt).segmentEnd ≤ input.length := by
    rw [sizes]
    simp only []
    omega
  unfold writeSegmentData segmentData segmentTransport segmentIp
  simp only []
  rw [slice_ok (Nat.zero_le _) (by omega), Run.ok_bind, Nat.sub_zero,
    copyInto_ok (Nat.zero_le _) (by omega) (by omega), Run.ok_bind,
    writeIpHeader_ok checked.ip (by omega) (by rw [length_overwrite]; omega), Run.ok_bind,
    slice_ok (by omega) checked.headers, Run.ok_bind,
    copyInto_ok (by omega) (by rw [length_ipSegment, length_overwrite]; omega) behindIp,
    Run.ok_bind,
    writeTransportHeader_ok transport
      (by rw [length_overwrite, length_ipSegment, length_overwrite]; omega) product, Run.ok_bind,
    slice_ok (by omega) short, Run.ok_bind, stop, Nat.add_sub_cancel_left,
    copyInto_ok (by omega) (by
      rw [length_transportSegment, length_overwrite, length_ipSegment, length_overwrite]
      exact fits) (by omega)]

/-- A segment is written unless its transport checksum lies outside the buffer. -/
theorem writeSegment_eq (checked : plan.Checked input.length) (behind : plan.hdrLen ≤ dataAt)
    (inside : dataAt < input.length) (product : plan.gsoSize * i < 2 ^ 32)
    (fits : (segmentSizes plan input.length dataAt).totalLen ≤ out.length) :
    writeSegment plan input out i dataAt =
      if plan.transportCsumAt + 2 ≤ out.length then .ok (segmentOut plan input out i dataAt)
      else .error .outOfRange := by
  have sizes := segmentSizes_eq plan inside.le
  have total : (segmentSizes plan input.length dataAt).totalLen =
      plan.hdrLen + min plan.gsoSize (input.length - dataAt) := by rw [sizes]
  have transport := checked.transport
  have hdrSmall : plan.hdrLen < 65536 := plan.hdr.hdrLen.toNat_lt
  have gsoSmall : plan.gsoSize < 65536 := plan.hdr.gsoSize.toNat_lt
  have addresses := addrLen_le plan.isV6
  have even := addrLen_even plan.isV6
  have src := checked.src
  have dst := checked.dst
  have size := length_segmentData plan input out i dataAt
  have region : (window (segmentData plan input out i dataAt) plan.iphLen
      ((segmentSizes plan input.length dataAt).totalLen - plan.iphLen)).length =
        (segmentSizes plan input.length dataAt).totalLen - plan.iphLen :=
    length_window _ _ _ (by omega)
  have sum := pseudoHeader_checksum plan.protocol plan.srcAddr plan.dstAddr
    (segmentSizes plan input.length dataAt).lenForPseudo
    (window (segmentData plan input out i dataAt) plan.iphLen
      ((segmentSizes plan input.length dataAt).totalLen - plan.iphLen))
    (by omega) (by omega) (by omega) (by omega) (by omega)
  rw [wordSum_append (by rw [length_pseudoHeader]; omega)] at sum
  obtain ⟨pseudo, ranPseudo, ranSum⟩ := Run.bind_eq_ok.mp sum
  unfold writeSegment
  simp only []
  rw [writeSegmentData_ok checked behind inside product fits, Run.ok_bind,
    slice_ok (by omega) (by omega), Run.ok_bind, ranPseudo, Run.ok_bind, ranSum, Run.ok_bind,
    writeU16, size]
  rfl

end Writes

/-! ## What a segment is -/

/-- The plan is the one that the large packet calls for, whose checksums are blank. -/
structure GsoPlan.Standard (plan : GsoPlan) (input : List UInt8) : Prop extends
    GsoPlan.Checked plan input.length where
  csumAt : plan.transportCsumAt = plan.iphLen + transportCsumOffset plan.protocol
  short : plan.hdrLen + min plan.gsoSize (input.length - plan.hdrLen) ≤ 65535
  srcAddr : plan.srcAddr = srcAddress plan.isV6 input
  dstAddr : plan.dstAddr = dstAddress plan.isV6 input
  blankIp : plan.isV6 = false → u16At input 10 = 0
  blank : u16At input plan.transportCsumAt = 0

def segmentKeeps (isV6 : Bool) (protocol : UInt8) (iphLen hdrLen i : Nat) : Prop :=
  i < hdrLen ∧ ipKept isV6 i ∧
    (protocol = ipProtoTcp → ¬ (iphLen + 4 ≤ i ∧ i < iphLen + 8) ∧ i ≠ iphLen + tcpFlagsOffset) ∧
    (protocol ≠ ipProtoTcp → ¬ (iphLen + 4 ≤ i ∧ i < iphLen + 6))

/-- The copied positions that do not belong to the transport checksum either. -/
def segmentCopies (isV6 : Bool) (protocol : UInt8) (iphLen hdrLen i : Nat) : Prop :=
  segmentKeeps isV6 protocol iphLen hdrLen i ∧
    ¬ (iphLen + transportCsumOffset protocol ≤ i ∧ i < iphLen + transportCsumOffset protocol + 2)

structure IsSegment (plan : GsoPlan) (input : List UInt8) (i dataAt : Nat) (seg : List UInt8) :
    Prop where
  length : seg.length = plan.hdrLen + min plan.gsoSize (input.length - dataAt)
  header : AgreeOn (segmentCopies plan.isV6 plan.protocol plan.iphLen plan.hdrLen) seg input
  payload : seg.drop plan.hdrLen = window input dataAt (min plan.gsoSize (input.length - dataAt))
  ipLength : ipLength plan.isV6 seg = seg.length
  ipId : plan.isV6 = false → u16At seg 4 = u16At input 4 + UInt16.ofNat i
  ipHeader : plan.isV6 = false → fold (wordSum (seg.take plan.iphLen)) = 65535
  seq : plan.protocol = ipProtoTcp →
    u32At seg (plan.iphLen + 4) = plan.firstTcpSeqNum + UInt32.ofNat (plan.gsoSize * i)
  flags : plan.protocol = ipProtoTcp → byteAt seg (plan.iphLen + tcpFlagsOffset) =
    if dataAt + plan.gsoSize ≥ input.length then byteAt input (plan.iphLen + tcpFlagsOffset)
    else byteAt input (plan.iphLen + tcpFlagsOffset) &&& ~~~(tcpFlagFin ||| tcpFlagPsh)
  udpLength : plan.protocol = ipProtoUdp →
    (u16At seg (plan.iphLen + 4)).toNat = seg.length - plan.iphLen
  transport : TransportVerifiesFrom plan.iphLen plan.isV6 plan.protocol seg

section Facts

variable {plan : GsoPlan} {input out : List UInt8} {i dataAt : Nat}

theorem minIphLen_le (isV6 : Bool) : 20 ≤ minIphLen isV6 := by cases isV6 <;> decide

theorem length_numbered (out : List UInt8) (i : Nat) :
    (if i > 0 then overwrite out 4 (be16 (u16At out 4 + UInt16.ofNat i)) else out).length =
      out.length := by
  split
  · exact length_overwrite ..
  · rfl

theorem ipSegment_agree {totalLen : Nat} (fitsOut : plan.iphLen ≤ out.length)
    (fitsIn : plan.iphLen ≤ input.length) :
    AgreeOn (fun j => j < plan.iphLen ∧ ipKept plan.isV6 j)
      (ipSegment plan (overwrite out 0 (window input 0 plan.iphLen)) i totalLen) input := by
  have copied : AgreeOn (fun j => j < plan.iphLen ∧ ipKept plan.isV6 j)
      (overwrite out 0 (window input 0 plan.iphLen)) input := by
    refine (AgreeOn.copied out (by omega) (by omega)).mono fun i stable => ?_
    have inside := stable.1
    omega
  unfold ipSegment
  cases family : plan.isV6 with
  | true =>
    rw [family] at copied
    refine copied.overwrite _ _ fun i stable => ?_
    obtain ⟨four, five⟩ := stable.2
    rw [length_be16]
    omega
  | false =>
    rw [family] at copied
    have numbered : AgreeOn (fun j => j < plan.iphLen ∧ ipKept false j)
        (if i > 0 then overwrite (overwrite out 0 (window input 0 plan.iphLen)) 4
          (be16 (u16At (overwrite out 0 (window input 0 plan.iphLen)) 4 + UInt16.ofNat i))
        else overwrite out 0 (window input 0 plan.iphLen)) input := by
      split
      · refine copied.overwrite _ _ fun i stable => ?_
        obtain ⟨apart, -⟩ := stable.2
        rw [length_be16]
        omega
      · exact copied
    refine (numbered.overwrite 2 _ fun i stable => ?_).overwrite 10 _ fun i stable => ?_
    · obtain ⟨apart, -⟩ := stable.2
      rw [length_be16]
      omega
    · obtain ⟨-, ten, eleven⟩ := stable.2
      rw [length_be16]
      omega

theorem transportSegment_agree {positions : Nat → Prop} {dataLen : Nat} {last : Bool}
    (h : AgreeOn positions out input)
    (apartTcp : plan.protocol = ipProtoTcp → ∀ i, positions i →
      ¬ (plan.iphLen + 4 ≤ i ∧ i < plan.iphLen + 8) ∧ i ≠ plan.iphLen + tcpFlagsOffset)
    (apartUdp : plan.protocol ≠ ipProtoTcp → ∀ i, positions i →
      ¬ (plan.iphLen + 4 ≤ i ∧ i < plan.iphLen + 6)) :
    AgreeOn positions (transportSegment plan out i dataLen last) input := by
  unfold transportSegment
  split
  case isTrue tcp =>
    have numbered := h.overwrite (plan.iphLen + 4)
      (be32 (plan.firstTcpSeqNum + UInt32.ofNat (plan.gsoSize * i))) fun i here => by
        have apart := (apartTcp tcp i here).1
        rw [length_be32]
        omega
    split
    · exact numbered
    · refine numbered.overwrite _ _ fun i here => ?_
      have apart := (apartTcp tcp i here).2
      rw [List.length_singleton]
      omega
  case isFalse notTcp =>
    refine h.overwrite _ _ fun i here => ?_
    have apart := apartUdp notTcp i here
    rw [length_be16]
    omega

theorem segmentData_agree (i dataAt : Nat) (standard : plan.Standard input)
    (fits : plan.hdrLen ≤ out.length) :
    AgreeOn (segmentKeeps plan.isV6 plan.protocol plan.iphLen plan.hdrLen)
      (segmentData plan input out i dataAt) input := by
  have transport := standard.transport
  have long := standard.headers
  have ip : AgreeOn (fun j => j < plan.iphLen ∧ ipKept plan.isV6 j)
      (segmentIp plan input out i dataAt) input := ipSegment_agree (by omega) (by omega)
  have size := length_segmentIp plan input out i dataAt
  have copied := ip.copy plan.iphLen (plan.hdrLen - plan.iphLen) (by omega) (by omega)
  have kept : ∀ j, segmentKeeps plan.isV6 plan.protocol plan.iphLen plan.hdrLen j →
      (j < plan.iphLen ∧ ipKept plan.isV6 j) ∨
        plan.iphLen ≤ j ∧ j < plan.iphLen + (plan.hdrLen - plan.iphLen) := by
    intro j here
    have inside := here.1
    by_cases front : j < plan.iphLen
    · exact .inl ⟨front, here.2.1⟩
    · exact .inr (by omega)
  have transported : AgreeOn (segmentKeeps plan.isV6 plan.protocol plan.iphLen plan.hdrLen)
      (segmentTransport plan input out i dataAt) input :=
    transportSegment_agree (copied.mono kept) (fun tcp j here => here.2.2.1 tcp)
      fun notTcp j here => here.2.2.2 notTcp
  exact transported.overwrite plan.hdrLen _ fun j here => .inl here.1

/-- Behind the transport fields, a segment is only given its payload and its checksum. -/
theorem segmentOut_agree_transport (plan : GsoPlan) (input out : List UInt8) (i dataAt : Nat) :
    AgreeOn (fun j => j < plan.hdrLen ∧
        ¬ (plan.transportCsumAt ≤ j ∧ j < plan.transportCsumAt + 2))
      (segmentOut plan input out i dataAt) (segmentTransport plan input out i dataAt) := by
  refine ((AgreeOn.refl _ _).overwrite _ _ fun j here => .inl here.1).overwrite _ _ fun j here => ?_
  have apart := here.2
  rw [length_be16]
  omega

theorem segmentOut_take (standard : plan.Standard input) :
    (segmentOut plan input out i dataAt).take plan.iphLen =
      (segmentIp plan input out i dataAt).take plan.iphLen := by
  have transport := standard.transport
  have behind : plan.iphLen ≤ plan.transportCsumAt := by
    rw [standard.csumAt]
    exact Nat.le_add_right ..
  have written : (segmentTransport plan input out i dataAt).take plan.iphLen =
      (segmentIp plan input out i dataAt).take plan.iphLen := by
    unfold segmentTransport transportSegment
    simp only []
    split
    · split
      · rw [take_overwrite_of_le _ _ _ (by omega), take_overwrite_of_le _ _ _ le_rfl]
      · rw [take_overwrite_of_le _ _ _ (by omega), take_overwrite_of_le _ _ _ (by omega),
          take_overwrite_of_le _ _ _ le_rfl]
    · rw [take_overwrite_of_le _ _ _ (by omega), take_overwrite_of_le _ _ _ le_rfl]
  rw [segmentOut, take_overwrite_of_le _ _ _ behind, segmentData,
    take_overwrite_of_le _ _ _ (by omega), written]

theorem ipSegment_length {totalLen : Nat} (long : ipHLen plan.isV6 ≤ out.length)
    (atLeast : ipHLen plan.isV6 ≤ totalLen) (short : totalLen ≤ 65535) :
    ipLength plan.isV6 (ipSegment plan out i totalLen) = totalLen := by
  unfold ipSegment
  cases family : plan.isV6 with
  | true =>
    rw [family] at long atLeast
    have long : 40 ≤ out.length := long
    have atLeast : 40 ≤ totalLen := atLeast
    simp only [ipLength, if_true]
    rw [u16At_overwrite_self _ _ _ (by omega), toNat_ofNat_of_le (by omega)]
    omega
  | false =>
    rw [family] at long
    have long : 20 ≤ out.length := long
    have size := length_numbered out i
    simp only [ipLength, Bool.false_eq_true, if_false]
    rw [u16At_overwrite_disjoint _ _ _ (by rw [length_overwrite, length_be16]; omega) (by simp),
      u16At_overwrite_self _ _ _ (by omega), toNat_ofNat_of_le short]

theorem ipSegment_id {totalLen : Nat} (ipv4 : plan.isV6 = false) (long : 20 ≤ out.length) :
    u16At (ipSegment plan out i totalLen) 4 = u16At out 4 + UInt16.ofNat i := by
  have size := length_numbered out i
  rw [ipSegment, if_neg (by rw [ipv4]; exact Bool.false_ne_true),
    u16At_overwrite_disjoint _ _ _ (by rw [length_overwrite, length_be16]; omega) (by simp),
    u16At_overwrite_disjoint _ _ _ (by rw [length_be16]; omega) (by simp)]
  split
  · exact u16At_overwrite_self _ _ _ (by omega)
  · rename_i first
    rw [show i = 0 by omega]
    exact (UInt16.add_zero _).symm

theorem ipSegment_verifies {totalLen : Nat} (ipv4 : plan.isV6 = false)
    (minimal : 20 ≤ plan.iphLen) (long : plan.iphLen ≤ out.length) (blank : u16At out 10 = 0) :
    fold (wordSum ((ipSegment plan out i totalLen).take plan.iphLen)) = 65535 := by
  have size := length_numbered out i
  rw [ipSegment, if_neg (by rw [ipv4]; exact Bool.false_ne_true)]
  refine fold_header_complete (by omega) (by rw [length_overwrite]; omega) ?_
  rw [u16At_overwrite_disjoint _ _ _ (by rw [length_be16]; omega) (by simp)]
  split
  · rw [u16At_overwrite_disjoint _ _ _ (by rw [length_be16]; omega) (by simp)]
    exact blank
  · exact blank

theorem transportSegment_tcp {dataLen : Nat} {last : Bool} (tcp : plan.protocol = ipProtoTcp)
    (long : plan.iphLen + 20 ≤ out.length) :
    u32At (transportSegment plan out i dataLen last) (plan.iphLen + 4) =
        plan.firstTcpSeqNum + UInt32.ofNat (plan.gsoSize * i) ∧
      byteAt (transportSegment plan out i dataLen last) (plan.iphLen + tcpFlagsOffset) =
        if last then byteAt out (plan.iphLen + tcpFlagsOffset)
        else byteAt out (plan.iphLen + tcpFlagsOffset) &&& ~~~(tcpFlagFin ||| tcpFlagPsh) := by
  have flagsAt : tcpFlagsOffset = 13 := rfl
  have flags : byteAt (overwrite out (plan.iphLen + 4)
      (be32 (plan.firstTcpSeqNum + UInt32.ofNat (plan.gsoSize * i))))
        (plan.iphLen + tcpFlagsOffset) = byteAt out (plan.iphLen + tcpFlagsOffset) := by
    rw [byteAt_overwrite _ _ _ (by rw [length_be32]; omega), length_be32, if_neg (by omega)]
  have seq := u32At_overwrite_self out (plan.iphLen + 4)
    (plan.firstTcpSeqNum + UInt32.ofNat (plan.gsoSize * i)) (by omega)
  rw [transportSegment, if_pos tcp]
  cases last with
  | true => exact ⟨seq, flags⟩
  | false =>
    simp only [Bool.false_eq_true, if_false]
    constructor
    · rw [← seq]
      refine u32At_congr fun k small => ?_
      rw [byteAt_overwrite _ _ _ (by simp; omega), List.length_singleton, if_neg (by omega), seq]
    · rw [byteAt_overwrite _ _ _ (by simp; omega), List.length_singleton, if_pos (by omega), flags,
        Nat.sub_self]
      rfl

theorem transportSegment_udp {dataLen : Nat} {last : Bool} (udp : plan.protocol ≠ ipProtoTcp)
    (long : plan.iphLen + 8 ≤ out.length) :
    u16At (transportSegment plan out i dataLen last) (plan.iphLen + 4) =
      UInt16.ofNat (dataLen + (plan.hdrLen - plan.iphLen)) := by
  rw [transportSegment, if_neg udp]
  exact u16At_overwrite_self _ _ _ (by omega)

/-- The TCP flags are those of the input before the loop clears some of them. -/
theorem byteAt_copied (standard : plan.Standard input) (fits : plan.hdrLen ≤ out.length) {j : Nat}
    (lower : plan.iphLen ≤ j) (upper : j < plan.hdrLen) :
    byteAt (overwrite (segmentIp plan input out i dataAt) plan.iphLen
      (window input plan.iphLen (plan.hdrLen - plan.iphLen))) j = byteAt input j := by
  have long := standard.headers
  have size := length_segmentIp plan input out i dataAt
  exact (AgreeOn.copied _ (by omega) (by omega)).byteAt ⟨lower, by omega⟩

theorem GsoPlan.Standard.csum_le (standard : plan.Standard input) :
    plan.iphLen ≤ plan.transportCsumAt ∧ plan.transportCsumAt + 2 ≤ plan.hdrLen ∧
      (plan.transportCsumAt - plan.iphLen) % 2 = 0 := by
  have transport := standard.transport
  have position := standard.csumAt
  have width : udpHLen = 8 := rfl
  unfold transportCsumOffset at position
  unfold minTransportHLen at transport
  split at transport
  · rename_i tcp
    rw [if_pos tcp] at position
    omega
  · rename_i notTcp
    rw [if_neg notTcp] at position
    omega

theorem GsoPlan.Standard.csum_kept (standard : plan.Standard input) {j : Nat}
    (lower : plan.transportCsumAt ≤ j) (upper : j < plan.transportCsumAt + 2) :
    segmentKeeps plan.isV6 plan.protocol plan.iphLen plan.hdrLen j := by
  obtain ⟨behind, within, -⟩ := standard.csum_le
  have minimal := minIphLen_le plan.isV6
  have ip := standard.ip
  have position := standard.csumAt
  have flagsAt : tcpFlagsOffset = 13 := rfl
  unfold transportCsumOffset at position
  refine ⟨by omega, ipKept_behind (by omega), fun tcp => ?_, fun notTcp => ?_⟩
  · rw [if_pos tcp] at position
    omega
  · rw [if_neg notTcp] at position
    omega

/-- The checksum of a segment covers its own pseudo-header. -/
theorem segmentOut_verifies (standard : plan.Standard input) {total : Nat}
    (same : (segmentSizes plan input.length dataAt).totalLen = total)
    (pseudo : (segmentSizes plan input.length dataAt).lenForPseudo =
      UInt16.ofNat (total - plan.iphLen))
    (headers : plan.hdrLen ≤ total) (fits : total ≤ out.length)
    (ip : SameIpHeader plan.isV6 ((segmentOut plan input out i dataAt).take total) input) :
    TransportVerifiesFrom plan.iphLen plan.isV6 plan.protocol
      ((segmentOut plan input out i dataAt).take total) := by
  obtain ⟨behind, within, even⟩ := standard.csum_le
  have position : plan.transportCsumAt = plan.iphLen + (plan.transportCsumAt - plan.iphLen) := by
    omega
  have size : ((segmentOut plan input out i dataAt).take total).length = total := by
    rw [List.length_take, length_segmentOut]
    omega
  have region : ((segmentOut plan input out i dataAt).take total).drop plan.iphLen =
      overwrite (window (segmentData plan input out i dataAt) plan.iphLen (total - plan.iphLen))
        (plan.transportCsumAt - plan.iphLen)
        (be16 (~~~ UInt16.ofNat (fold (segmentSum plan input out i dataAt)))) := by
    rw [segmentOut, take_overwrite_full _ _ _ _ (by rw [length_be16]; omega), position,
      drop_overwrite_add, List.drop_take, Nat.add_sub_cancel_left]
    rfl
  -- The field is zero in the input and is copied so: the sum that is stored in it leaves it out.
  have blank : u16At (window (segmentData plan input out i dataAt) plan.iphLen
      (total - plan.iphLen)) (plan.transportCsumAt - plan.iphLen) = 0 := by
    have agree := segmentData_agree i dataAt standard (by omega : plan.hdrLen ≤ out.length)
    rw [window, u16At_take _ (by omega), u16At_drop, ← position, ← standard.blank]
    exact agree.u16At (standard.csum_kept le_rfl (by omega))
      (standard.csum_kept (by omega) (by omega))
  have src := standard.src
  have dst := standard.dst
  have evenAddr := addrLen_even plan.isV6
  rw [TransportVerifiesFrom, ip.src, ip.dst, ← standard.srcAddr, ← standard.dstAddr, size, ← pseudo,
    wordSum_append (by rw [length_pseudoHeader]; omega), region, segmentSum, same]
  refine fold_complete _ even ?_ blank
  rw [length_window _ _ _ (by rw [length_segmentData]; omega)]
  omega

section Total

variable {total : Nat}

theorem segmentOut_header (i dataAt : Nat) (standard : plan.Standard input)
    (headers : plan.hdrLen ≤ total) (fits : total ≤ out.length) :
    AgreeOn (segmentCopies plan.isV6 plan.protocol plan.iphLen plan.hdrLen)
      ((segmentOut plan input out i dataAt).take total) input := by
  have data := segmentData_agree i dataAt standard (headers.trans fits)
  refine ((data.mono fun _ kept => kept.1).overwrite _ _ fun j kept => ?_).take fun j kept => ?_
  · have apart := kept.2
    rw [length_be16, standard.csumAt]
    omega
  · have upper := kept.1.1
    omega

theorem segmentOut_ip (out : List UInt8) (i dataAt : Nat) (standard : plan.Standard input)
    (headers : plan.iphLen ≤ total) :
    ((segmentOut plan input out i dataAt).take total).take plan.iphLen =
      (segmentIp plan input out i dataAt).take plan.iphLen := by
  rw [List.take_take, min_eq_left headers, segmentOut_take standard]

theorem segmentOut_fields (plan : GsoPlan) (input out : List UInt8) (i dataAt : Nat)
    (headers : plan.hdrLen ≤ total) :
    AgreeOn (fun j => j < plan.hdrLen ∧
        ¬ (plan.transportCsumAt ≤ j ∧ j < plan.transportCsumAt + 2))
      ((segmentOut plan input out i dataAt).take total)
      (segmentTransport plan input out i dataAt) :=
  (segmentOut_agree_transport plan input out i dataAt).take fun j here => by omega

theorem segmentOut_payload (plan : GsoPlan) (out : List UInt8) (i : Nat) {length : Nat}
    (same : (segmentSizes plan input.length dataAt).dataLen = length)
    (inside : dataAt + length ≤ input.length) (fits : plan.hdrLen + length ≤ out.length)
    (csum : plan.transportCsumAt + 2 ≤ plan.hdrLen) :
    ((segmentOut plan input out i dataAt).take (plan.hdrLen + length)).drop plan.hdrLen =
      window input dataAt length := by
  have written := length_window input dataAt length inside
  have room := length_segmentTransport plan input out i dataAt
  have payload := window_overwrite_self (segmentTransport plan input out i dataAt) plan.hdrLen
    (window input dataAt length) (by omega)
  rw [written] at payload
  rw [List.drop_take, segmentOut, drop_overwrite_of_le _ _ _ (by rw [length_be16]; omega),
    segmentData, same, Nat.add_sub_cancel_left]
  exact payload

theorem segmentOut_ipFields (standard : plan.Standard input) (headers : plan.iphLen ≤ total)
    (same : (segmentSizes plan input.length dataAt).totalLen = total)
    (short : total ≤ 65535) (fits : total ≤ out.length) :
    ipLength plan.isV6 ((segmentOut plan input out i dataAt).take total) = total ∧
      (plan.isV6 = false → u16At ((segmentOut plan input out i dataAt).take total) 4 =
        u16At input 4 + UInt16.ofNat i) ∧
      (plan.isV6 = false → fold (wordSum
        (((segmentOut plan input out i dataAt).take total).take plan.iphLen)) = 65535) := by
  have long := standard.headers
  have transport := standard.transport
  have ip : ipHLen plan.isV6 ≤ plan.iphLen := standard.ip
  have minimal : 20 ≤ ipHLen plan.isV6 := minIphLen_le plan.isV6
  have written := segmentOut_ip out i dataAt standard headers
  have copied : (overwrite out 0 (window input 0 plan.iphLen)).length = out.length :=
    length_overwrite ..
  have copy : AgreeOn (fun j => 0 ≤ j ∧ j < 0 + plan.iphLen)
      (overwrite out 0 (window input 0 plan.iphLen)) input :=
    .copied out (by omega) (by omega)
  refine ⟨?_, fun ipv4 => ?_, fun ipv4 => ?_⟩
  · have front : ((segmentOut plan input out i dataAt).take total).take (ipHLen plan.isV6) =
        (segmentIp plan input out i dataAt).take (ipHLen plan.isV6) := by
      rw [← min_eq_left ip, ← List.take_take, written, List.take_take]
    rw [ipLength_congr front, segmentIp, ipSegment_length (by omega) (by omega) (by omega), same]
  · rw [← u16At_take _ (by omega : 4 + 2 ≤ plan.iphLen), written, u16At_take _ (by omega),
      segmentIp, ipSegment_id ipv4 (by omega), copy.u16At (by omega) (by omega)]
  · rw [written]
    refine ipSegment_verifies ipv4 (by omega) (by omega) ?_
    rw [← standard.blankIp ipv4]
    exact copy.u16At (by omega) (by omega)

theorem segmentOut_tcp (standard : plan.Standard input) (tcp : plan.protocol = ipProtoTcp)
    (headers : plan.hdrLen ≤ total) (fits : total ≤ out.length) :
    u32At ((segmentOut plan input out i dataAt).take total) (plan.iphLen + 4) =
        plan.firstTcpSeqNum + UInt32.ofNat (plan.gsoSize * i) ∧
      byteAt ((segmentOut plan input out i dataAt).take total) (plan.iphLen + tcpFlagsOffset) =
        if (segmentSizes plan input.length dataAt).segmentEnd == input.length
        then byteAt input (plan.iphLen + tcpFlagsOffset)
        else byteAt input (plan.iphLen + tcpFlagsOffset) &&& ~~~(tcpFlagFin ||| tcpFlagPsh) := by
  have fields := segmentOut_fields plan input out i dataAt headers
  have flagsAt : tcpFlagsOffset = 13 := rfl
  have transport := standard.transport
  have position := standard.csumAt
  rw [transportCsumOffset, if_pos tcp] at position
  rw [minTransportHLen, if_pos tcp] at transport
  have room : plan.iphLen + 20 ≤ (overwrite (segmentIp plan input out i dataAt) plan.iphLen
      (window input plan.iphLen (plan.hdrLen - plan.iphLen))).length := by
    rw [length_overwrite, length_segmentIp]
    omega
  obtain ⟨seq, flags⟩ := transportSegment_tcp tcp room
  rw [fields.u32At (fun k small => ⟨by omega, by omega⟩), fields.byteAt ⟨by omega, by omega⟩]
  refine ⟨seq, ?_⟩
  rw [segmentTransport, flags, byteAt_copied standard (by omega) (by omega) (by omega)]

theorem segmentOut_udpLength (standard : plan.Standard input) (udp : plan.protocol ≠ ipProtoTcp)
    (headers : plan.hdrLen ≤ total) (fits : total ≤ out.length) :
    u16At ((segmentOut plan input out i dataAt).take total) (plan.iphLen + 4) =
      UInt16.ofNat ((segmentSizes plan input.length dataAt).dataLen +
        (plan.hdrLen - plan.iphLen)) := by
  have fields := segmentOut_fields plan input out i dataAt headers
  have width : udpHLen = 8 := rfl
  have transport := standard.transport
  have position := standard.csumAt
  rw [transportCsumOffset, if_neg udp] at position
  rw [minTransportHLen, if_neg udp] at transport
  rw [fields.u16At ⟨by omega, by omega⟩ ⟨by omega, by omega⟩]
  exact transportSegment_udp udp (by rw [length_overwrite, length_segmentIp]; omega)

end Total

theorem segmentOut_isSegment (standard : plan.Standard input) (behind : plan.hdrLen ≤ dataAt)
    (inside : dataAt < input.length)
    (fits : plan.hdrLen + min plan.gsoSize (input.length - dataAt) ≤ out.length) :
    IsSegment plan input i dataAt ((segmentOut plan input out i dataAt).take
      (plan.hdrLen + min plan.gsoSize (input.length - dataAt))) := by
  have sizes := segmentSizes_eq plan inside.le
  have transport := standard.transport
  have ip : ipHLen plan.isV6 ≤ plan.iphLen := standard.ip
  have minimal : 20 ≤ ipHLen plan.isV6 := minIphLen_le plan.isV6
  have short := standard.short
  obtain ⟨-, csumWithin, -⟩ := standard.csum_le
  have total : (segmentSizes plan input.length dataAt).totalLen =
      plan.hdrLen + min plan.gsoSize (input.length - dataAt) := by rw [sizes]
  have dataLen : (segmentSizes plan input.length dataAt).dataLen =
      min plan.gsoSize (input.length - dataAt) := by rw [sizes]
  have length : ((segmentOut plan input out i dataAt).take
      (plan.hdrLen + min plan.gsoSize (input.length - dataAt))).length =
        plan.hdrLen + min plan.gsoSize (input.length - dataAt) := by
    rw [List.length_take, length_segmentOut, min_eq_left fits]
  have header := segmentOut_header i dataAt standard (Nat.le_add_right ..) fits
  have sameIp : SameIpHeader plan.isV6 ((segmentOut plan input out i dataAt).take
      (plan.hdrLen + min plan.gsoSize (input.length - dataAt))) input :=
    SameIpHeader.of_agree (header.mono fun j stable => by
      have lower := stable.1
      exact ⟨⟨by omega, stable.2, fun _ => by omega, fun _ => by omega⟩, by omega⟩)
  obtain ⟨ipLength, ipId, ipHeader⟩ :=
    segmentOut_ipFields (i := i) standard (by omega) total (by omega) fits
  constructor
  case length => exact length
  case header => exact header
  case payload => exact segmentOut_payload plan out i dataLen (by omega) fits csumWithin
  case ipLength => exact ipLength.trans length.symm
  case ipId => exact ipId
  case ipHeader => exact ipHeader
  case seq => exact fun tcp => (segmentOut_tcp standard tcp (Nat.le_add_right ..) fits).1
  case flags =>
    intro tcp
    -- The source asks whether the segment ends with the input.
    have last : ((segmentSizes plan input.length dataAt).segmentEnd == input.length) =
        decide (dataAt + plan.gsoSize ≥ input.length) := by
      rw [sizes, Bool.eq_iff_iff]
      simp only [beq_iff_eq, decide_eq_true_eq]
      omega
    rw [(segmentOut_tcp standard tcp (Nat.le_add_right ..) fits).2, last]
    simp only [decide_eq_true_eq]
  case udpLength =>
    intro udp
    have notTcp : plan.protocol ≠ ipProtoTcp := udp ▸ (by decide)
    rw [segmentOut_udpLength standard notTcp (Nat.le_add_right ..) fits, dataLen,
      toNat_ofNat_of_le (by omega), length]
    omega
  case transport =>
    refine segmentOut_verifies standard total ?_ (by omega) (by omega) sameIp
    rw [sizes]
    simp only []
    congr 1
    omega

end Facts

end QuincyTun.Linux
