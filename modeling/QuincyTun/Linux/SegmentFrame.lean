import QuincyTun.Linux.SegmentLoop

/-! What the segmentation loop writes to a buffer: everything lies within the
segment, except the transport checksum, which goes where the offload header says.
-/

set_option autoImplicit false

namespace QuincyTun.Linux

open QuincyTun.Foundation

theorem AgreeOn.overwrite_both {positions : Nat → Prop} {a b : List UInt8}
    (h : AgreeOn positions a b) (sameLength : a.length = b.length) (n : Nat) (source : List UInt8) :
    AgreeOn positions (Foundation.overwrite a n source) (Foundation.overwrite b n source) := by
  intro i at_i
  rw [getElem?_overwrite, getElem?_overwrite, sameLength]
  split
  · rfl
  · exact h i at_i

section Frame

variable {plan : GsoPlan} {input out other : List UInt8} {i dataAt total : Nat}

theorem segmentData_frame (checked : plan.Checked input.length) (inside : dataAt < input.length)
    (same : (segmentSizes plan input.length dataAt).totalLen = total) :
    AgreeOn (total ≤ ·) (segmentData plan input out i dataAt) out := by
  have twenty := minIphLen_le plan.isV6
  have ip := checked.ip
  have transport := checked.transport
  have minimal : 8 ≤ minTransportHLen plan.protocol := by
    rcases checked.protocol with tcp | udp
    · rw [tcp]
      decide
    · rw [udp]
      decide
  have size : plan.hdrLen + min plan.gsoSize (input.length - dataAt) = total := by
    rw [segmentSizes_eq plan inside.le] at same
    exact same
  -- Each write in turn ends before `total`.
  have copied : AgreeOn (total ≤ ·) (overwrite out 0 (window input 0 plan.iphLen)) out :=
    (AgreeOn.refl _ out).overwrite _ _ fun j behind => by
      have short := List.length_take_le plan.iphLen (input.drop 0)
      rw [window]
      omega
  have ipHeader : AgreeOn (total ≤ ·) (segmentIp plan input out i dataAt) out := by
    unfold segmentIp ipSegment
    split
    · exact copied.overwrite _ _ fun j behind => by
        rw [length_be16]
        omega
    · refine AgreeOn.overwrite (AgreeOn.overwrite ?_ _ _ fun j behind => ?_) _ _ fun j behind => ?_
      · split
        · exact copied.overwrite _ _ fun j behind => by
            rw [length_be16]
            omega
        · exact copied
      · rw [length_be16]
        omega
      · rw [length_be16]
        omega
  have transportHeader : AgreeOn (total ≤ ·) (segmentTransport plan input out i dataAt) out := by
    refine transportSegment_agree (ipHeader.overwrite _ _ fun j behind => ?_) ?_ ?_
    · have short := List.length_take_le (plan.hdrLen - plan.iphLen) (input.drop plan.iphLen)
      rw [window]
      omega
    · intro tcp j behind
      have flagsAt : tcpFlagsOffset = 13 := rfl
      rw [tcp] at transport
      have twentyTcp : minTransportHLen ipProtoTcp = 20 := rfl
      omega
    · intro _ j behind
      omega
  refine transportHeader.overwrite _ _ fun j behind => ?_
  have short := List.length_take_le (min plan.gsoSize (input.length - dataAt)) (input.drop dataAt)
  rw [segmentSizes_eq plan inside.le]
  dsimp only [window]
  omega

theorem segmentOut_frame (checked : plan.Checked input.length) (inside : dataAt < input.length)
    (same : (segmentSizes plan input.length dataAt).totalLen = total) :
    AgreeOn (fun j => total ≤ j ∧ (j < plan.transportCsumAt ∨ plan.transportCsumAt + 2 ≤ j))
      (segmentOut plan input out i dataAt) out :=
  ((segmentData_frame checked inside same).mono fun _ apart => apart.1).overwrite _ _
    fun j apart => by
      rw [length_be16]
      exact apart.2

/-! ## The checksum does not depend on what was in the buffer -/

theorem ipSegment_congr (h : AgreeOn (· < total) out other) (sameLength : out.length = other.length)
    (ip : 20 ≤ plan.iphLen) (within : plan.iphLen ≤ total) (i totalLen : Nat) :
    AgreeOn (· < total) (ipSegment plan out i totalLen) (ipSegment plan other i totalLen) := by
  unfold ipSegment
  split
  · exact h.overwrite_both sameLength _ _
  · have id : u16At out 4 = u16At other 4 := h.u16At (by omega) (by omega)
    have numbered : AgreeOn (· < total)
        (if i > 0 then overwrite out 4 (be16 (u16At out 4 + UInt16.ofNat i)) else out)
        (if i > 0 then overwrite other 4 (be16 (u16At other 4 + UInt16.ofNat i)) else other) := by
      rw [id]
      split
      · exact h.overwrite_both sameLength _ _
      · exact h
    have sized := numbered.overwrite_both
      ((length_numbered out i).trans (sameLength.trans (length_numbered other i).symm)) 2
      (be16 (UInt16.ofNat totalLen))
    dsimp only
    rw [(sized.mono fun j inside => inside.trans_le within).take_eq]
    refine sized.overwrite_both ?_ _ _
    rw [length_overwrite, length_overwrite, length_numbered, length_numbered, sameLength]

theorem transportSegment_congr (h : AgreeOn (· < total) out other)
    (sameLength : out.length = other.length)
    (within : plan.protocol = ipProtoTcp → plan.iphLen + 20 ≤ total) (i dataLen : Nat) (last : Bool) :
    AgreeOn (· < total) (transportSegment plan out i dataLen last)
      (transportSegment plan other i dataLen last) := by
  have flagsAt : tcpFlagsOffset = 13 := rfl
  unfold transportSegment
  split
  case isTrue tcp =>
    have room := within tcp
    have numbered := h.overwrite_both sameLength (plan.iphLen + 4)
      (be32 (plan.firstTcpSeqNum + UInt32.ofNat (plan.gsoSize * i)))
    dsimp only
    split
    · exact numbered
    · rw [numbered.byteAt (show plan.iphLen + tcpFlagsOffset < total by omega)]
      exact numbered.overwrite_both (by simp [sameLength]) _ _
  case isFalse => exact h.overwrite_both sameLength _ _

theorem segmentSum_congr (checked : plan.Checked input.length) (inside : dataAt < input.length)
    (same : (segmentSizes plan input.length dataAt).totalLen = total)
    (h : AgreeOn (· < total) out other) (sameLength : out.length = other.length) :
    segmentSum plan input out i dataAt = segmentSum plan input other i dataAt := by
  have twenty := minIphLen_le plan.isV6
  have ip := checked.ip
  have transport := checked.transport
  have headers : plan.hdrLen ≤ total := by
    rw [segmentSizes_eq plan inside.le] at same
    exact same ▸ Nat.le_add_right ..
  have ipHeader : AgreeOn (· < total) (segmentIp plan input out i dataAt)
      (segmentIp plan input other i dataAt) :=
    ipSegment_congr (h.overwrite_both sameLength _ _) (by simp [sameLength]) (by omega) (by omega) _ _
  have transportHeader : AgreeOn (· < total) (segmentTransport plan input out i dataAt)
      (segmentTransport plan input other i dataAt) := by
    refine transportSegment_congr (ipHeader.overwrite_both ?_ _ _) ?_ ?_ _ _ _
    · simp [segmentIp, sameLength]
    · simp [segmentIp, sameLength]
    · intro tcp
      rw [tcp] at transport
      have twentyTcp : minTransportHLen ipProtoTcp = 20 := rfl
      omega
  have data : AgreeOn (· < total) (segmentData plan input out i dataAt)
      (segmentData plan input other i dataAt) := by
    refine transportHeader.overwrite_both ?_ _ _
    simp [segmentTransport, segmentIp, sameLength]
  unfold segmentSum
  dsimp only
  rw [same, data.window fun j lower upper => by omega]

/-- A byte of the checksum that lies behind the segment is seen in some buffer. -/
theorem segmentOut_writes {p size : Nat} (checked : plan.Checked input.length)
    (inside : dataAt < input.length)
    (same : (segmentSizes plan input.length dataAt).totalLen = total) (behind : total ≤ p)
    (lower : plan.transportCsumAt ≤ p) (upper : p < plan.transportCsumAt + 2)
    (fits : plan.transportCsumAt + 2 ≤ size) (i : Nat) :
    ∃ out : List UInt8, out.length = size ∧
      (segmentOut plan input out i dataAt)[p]? ≠ out[p]? := by
  -- What is written over zeros is written over any other content as well.
  generalize written : be16 (~~~ UInt16.ofNat (fold (segmentSum plan input
    (List.replicate size 0) i dataAt))) = source
  have width : source.length = 2 := written ▸ length_be16 _
  let out := overwrite (List.replicate size (0 : UInt8)) p [byteAt source (p - plan.transportCsumAt) + 1]
  have len : out.length = size := by rw [length_overwrite, List.length_replicate]
  have agree : AgreeOn (· < total) out (List.replicate size 0) :=
    (AgreeOn.refl _ _).overwrite _ _ fun j before => .inl (by omega)
  refine ⟨out, len, ?_⟩
  have here : out[p]? = some (byteAt source (p - plan.transportCsumAt) + 1) := by
    rw [getElem?_overwrite, List.length_singleton, List.length_replicate, if_pos (by omega),
      Nat.sub_self]
    rfl
  have there : (segmentOut plan input out i dataAt)[p]? =
      some (byteAt source (p - plan.transportCsumAt)) := by
    have found : p - plan.transportCsumAt < source.length := by omega
    rw [segmentOut, segmentSum_congr checked inside same agree (by rw [len, List.length_replicate]),
      written, getElem?_overwrite, if_pos (by rw [length_segmentData, len]; omega), byteAt,
      List.getElem?_eq_getElem found]
    rfl
  rw [here, there, Ne, Option.some.injEq, ← UInt8.toNat_inj, UInt8.toNat_add]
  have one : (1 : UInt8).toNat = 1 := rfl
  omega

/-! ## Buffers -/

theorem getElem?_segmentBuf {buf : List UInt8} (fits : plan.outOffset ≤ buf.length) (i j : Nat) :
    (segmentBuf plan input buf i)[plan.outOffset + j]? =
      (segmentOut plan input (buf.drop plan.outOffset) i (plan.dataAt i))[j]? := by
  have front : (buf.take plan.outOffset).length = plan.outOffset := by
    rw [List.length_take]
    omega
  rw [segmentBuf, List.getElem?_append_right (by omega), front, Nat.add_sub_cancel_left]

theorem segmentLen_eq (inside : plan.dataAt i < input.length) :
    (segmentSizes plan input.length (plan.dataAt i)).totalLen = plan.segmentLen input.length i := by
  rw [segmentSizes_eq plan inside.le]
  rfl

theorem segmentBuf_frame {buf : List UInt8} (checked : plan.Checked input.length)
    (inside : plan.dataAt i < input.length) (fits : plan.outOffset ≤ buf.length)
    (within : plan.transportCsumAt + 2 ≤ plan.segmentLen input.length i) :
    AgreeOn (fun j => j < plan.outOffset ∨ plan.outOffset + plan.segmentLen input.length i ≤ j)
      (segmentBuf plan input buf i) buf := by
  rintro j (before | behind)
  · have front : j < (buf.take plan.outOffset).length := by
      rw [List.length_take]
      omega
    rw [segmentBuf, List.getElem?_append_left front, List.getElem?_take_of_lt before]
  · obtain ⟨k, rfl⟩ : ∃ k, j = plan.outOffset + k := ⟨j - plan.outOffset, by omega⟩
    rw [getElem?_segmentBuf fits, segmentOut_frame checked inside (segmentLen_eq inside) k
      ⟨by omega, by omega⟩, List.getElem?_drop]

end Frame

end QuincyTun.Linux
