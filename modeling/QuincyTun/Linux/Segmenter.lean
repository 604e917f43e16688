import QuincyTun.Foundation.Segments
import QuincyTun.Linux.Offload
import QuincyTun.Linux.Sender

/-! The outputs of `gsoSplit` taken together: the payload is cut without loss,
and every segment is a packet of its own.
-/

set_option autoImplicit false

namespace QuincyTun.Linux

open QuincyTun.Foundation

def GsoState.payload (s : GsoState) (hdrLen outOffset i : Nat) : List UInt8 :=
  (s.packet outOffset i).drop hdrLen

/-- What the first `n` outputs are together. -/
structure Segmentation (isV6 : Bool) (hdr : VirtioNetHdr) (input : List UInt8) (outOffset n : Nat)
    (s : GsoState) : Prop where
  count : n = segmentCount hdr input
  payloads : ((List.range n).flatMap fun i => s.payload hdr.hdrLen.toNat outOffset i) =
    input.drop hdr.hdrLen.toNat
  sizes : ∀ i < n, s.sizes[i]? =
    some (hdr.hdrLen.toNat + (s.payload hdr.hdrLen.toNat outOffset i).length)
  full : ∀ i, i + 1 < n → (s.payload hdr.hdrLen.toNat outOffset i).length = hdr.gsoSize.toNat
  last : ∀ i, i + 1 = n → 0 < (s.payload hdr.hdrLen.toNat outOffset i).length ∧
    (s.payload hdr.hdrLen.toNat outOffset i).length ≤ hdr.gsoSize.toNat
  segment : ∀ i < n, SegmentOf isV6 (gsoProtocol hdr.gsoType) hdr.csumStart.toNat
    hdr.hdrLen.toNat hdr.gsoSize.toNat input i (s.packet outOffset i)
  /-- FIN and PSH stay in the last segment, the other TCP flags in every segment. -/
  flags : gsoProtocol hdr.gsoType = ipProtoTcp → ∀ i < n,
    byteAt (s.packet outOffset i) (hdr.csumStart.toNat + tcpFlagsOffset) =
      if i + 1 = n then byteAt input (hdr.csumStart.toNat + tcpFlagsOffset)
      else byteAt input (hdr.csumStart.toNat + tcpFlagsOffset) &&& ~~~(tcpFlagFin ||| tcpFlagPsh)

section Segmentation

variable {isV6 : Bool} {hdr : VirtioNetHdr} {s s' : GsoState} {input : List UInt8}

theorem segmentCount_bounds (input : List UInt8) (positive : 0 < hdr.gsoSize.toNat) :
    input.length - hdr.hdrLen.toNat ≤ segmentCount hdr input * hdr.gsoSize.toNat ∧
      ∀ i < segmentCount hdr input, i * hdr.gsoSize.toNat < input.length - hdr.hdrLen.toNat := by
  have division := Nat.div_add_mod (input.length - hdr.hdrLen.toNat + hdr.gsoSize.toNat - 1)
    hdr.gsoSize.toNat
  have rest := Nat.mod_lt (input.length - hdr.hdrLen.toNat + hdr.gsoSize.toNat - 1) positive
  rw [Nat.mul_comm] at division
  change segmentCount hdr input * hdr.gsoSize.toNat + _ = _ at division
  refine ⟨by omega, fun i below => ?_⟩
  have product : (i + 1) * hdr.gsoSize.toNat ≤ segmentCount hdr input * hdr.gsoSize.toNat :=
    Nat.mul_le_mul_right _ below
  rw [Nat.succ_mul] at product
  omega

theorem Offloaded.segmentation {outOffset : Nat}
    (offloaded : Offloaded isV6 (gsoProtocol hdr.gsoType) hdr input)
    (outputs : ∀ i < segmentCount hdr input,
      s'.sizes[i]? = some (s'.packet outOffset i).length ∧
      SegmentOf isV6 (gsoProtocol hdr.gsoType) hdr.csumStart.toNat hdr.hdrLen.toNat
        hdr.gsoSize.toNat input i (s'.packet outOffset i)) :
    Segmentation isV6 hdr input outOffset (segmentCount hdr input) s' := by
  have positive : 0 < hdr.gsoSize.toNat := UInt16.pos_iff_ne_zero.mpr offloaded.gsoSize
  obtain ⟨enough, inside⟩ := segmentCount_bounds input positive
  have cut : ∀ i < segmentCount hdr input, s'.payload hdr.hdrLen.toNat outOffset i =
      ((input.drop hdr.hdrLen.toNat).drop (i * hdr.gsoSize.toNat)).take hdr.gsoSize.toNat :=
    fun i below => (outputs i below).2.payload
  have size : ∀ i < segmentCount hdr input, (s'.payload hdr.hdrLen.toNat outOffset i).length =
      min hdr.gsoSize.toNat (input.length - hdr.hdrLen.toNat - i * hdr.gsoSize.toNat) :=
    fun i below => by rw [cut i below, List.length_take, List.length_drop, List.length_drop]
  -- Only the last payload may be short, and the payload that ends the input is the last.
  constructor
  case count => rfl
  case payloads =>
    have same : ((List.range (segmentCount hdr input)).flatMap fun i =>
        s'.payload hdr.hdrLen.toNat outOffset i) =
        (List.range (segmentCount hdr input)).flatMap fun i =>
          ((input.drop hdr.hdrLen.toNat).drop (i * hdr.gsoSize.toNat)).take hdr.gsoSize.toNat :=
      List.flatMap_congr fun i member => cut i (List.mem_range.mp member)
    rw [same]
    exact flatMap_cut _ _ _ (by rw [List.length_drop]; exact enough)
  case sizes =>
    intro i below
    have longer := (outputs i below).2.header_lt
    rw [(outputs i below).1, GsoState.payload, List.length_drop]
    congr 1
    omega
  case full =>
    intro i next
    have long := inside (i + 1) next
    rw [Nat.succ_mul] at long
    rw [size i (by omega)]
    omega
  case last =>
    intro i stop
    have long := inside i (by omega)
    rw [size i (by omega)]
    omega
  case segment => exact fun i below => (outputs i below).2
  case flags =>
    intro tcp i below
    rw [(outputs i below).2.flags tcp]
    refine if_congr ?_ rfl rfl
    have headers := offloaded.headers
    constructor
    · intro past
      by_contra other
      have long := inside (i + 1) (by omega)
      omega
    · intro stop
      rw [stop]
      omega

def largeSegment : GsoState where
  input := sentTcp false 1 (tcpFlagAck ||| tcpFlagPsh) 4096 [1, 2, 3, 4, 5, 6, 7, 8, 9, 10]
  outBufs := List.replicate 3 (List.replicate 44 0)
  sizes := [0, 0, 0]

def largeSegmentHdr : VirtioNetHdr := ⟨virtioNetHdrFNeedsCsum, virtioNetHdrGsoTcpv4, 40, 4, 20, 16⟩

end Segmentation

end QuincyTun.Linux
