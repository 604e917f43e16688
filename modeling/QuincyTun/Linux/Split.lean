import QuincyTun.Linux.SegmentLoop

/-! `gsoSplit` as a whole: its checks decide between the loop and an error.

No check can crash, and what passes them all is a plan that the loop can run.
-/

set_option autoImplicit false

namespace QuincyTun.Linux

open QuincyTun.Foundation

def gsoProtocol (gsoType : UInt8) : UInt8 := if isTcpGso gsoType then ipProtoTcp else ipProtoUdp

def withoutIpChecksum (isV6 : Bool) (input : List UInt8) : List UInt8 :=
  if isV6 then input else overwrite input 10 [0, 0]

def unsummed (isV6 : Bool) (csumAt : Nat) (input : List UInt8) : List UInt8 :=
  overwrite (withoutIpChecksum isV6 input) csumAt [0, 0]

def GsoState.unsummed (s : GsoState) (hdr : VirtioNetHdr) (isV6 : Bool) : GsoState :=
  { s with input := Linux.unsummed isV6 (hdr.csumStart.toNat + hdr.csumOffset.toNat) s.input }

/-- The plan of the segments of `input`, whose checksums are cleared. -/
def gsoPlan (hdr : VirtioNetHdr) (outOffset : Nat) (isV6 : Bool) (input : List UInt8) :
    GsoPlan where
  hdr
  isV6
  protocol := gsoProtocol hdr.gsoType
  srcAddr := srcAddress isV6 input
  dstAddr := dstAddress isV6 input
  firstTcpSeqNum := if isTcpGso hdr.gsoType then u32At input (hdr.csumStart.toNat + 4) else 0
  transportCsumAt := hdr.csumStart.toNat + hdr.csumOffset.toNat
  outOffset

/-- What `gsoSplit` checks. -/
structure GsoReady (s : GsoState) (hdr : VirtioNetHdr) (isV6 : Bool) : Prop where
  sizes : s.outBufs.length ≤ s.sizes.length
  few : s.outBufs.length ≤ 65535
  gsoSize : hdr.gsoSize ≠ 0
  ip : minIphLen isV6 ≤ hdr.csumStart.toNat
  transport : hdr.csumStart.toNat + minTransportHLen (gsoProtocol hdr.gsoType) ≤ hdr.hdrLen.toNat
  headers : hdr.hdrLen.toNat ≤ s.input.length
  checksum : hdr.csumStart.toNat + hdr.csumOffset.toNat + 1 < s.input.length

section Unsummed

variable {isV6 : Bool} {csumAt : Nat} {input : List UInt8}

@[simp] theorem length_withoutIpChecksum (isV6 : Bool) (input : List UInt8) :
    (withoutIpChecksum isV6 input).length = input.length := by
  cases isV6 with
  | true => rfl
  | false => exact length_overwrite ..

@[simp] theorem length_unsummed (isV6 : Bool) (csumAt : Nat) (input : List UInt8) :
    (unsummed isV6 csumAt input).length = input.length := by
  rw [unsummed, length_overwrite, length_withoutIpChecksum]

theorem unsummed_agree (isV6 : Bool) (csumAt : Nat) (input : List UInt8) :
    AgreeOn (fun i => (isV6 = false → i ≠ 10 ∧ i ≠ 11) ∧ ¬ (csumAt ≤ i ∧ i < csumAt + 2))
      (unsummed isV6 csumAt input) input := by
  refine AgreeOn.overwrite ?_ _ _ fun i kept => ?_
  · cases isV6 with
    | true => exact .refl _ _
    | false =>
      refine (AgreeOn.refl _ input).overwrite _ _ fun i kept => ?_
      have apart := kept.1 rfl
      simp only [List.length_cons, List.length_nil]
      omega
  · have apart := kept.2
    simp only [List.length_cons, List.length_nil]
    omega

theorem unsummed_csum (fits : csumAt + 2 ≤ input.length) :
    u16At (unsummed isV6 csumAt input) csumAt = 0 :=
  u16At_overwrite_self _ _ 0 (by rwa [length_withoutIpChecksum])

theorem unsummed_ipCsum (behind : 12 ≤ csumAt) (fits : csumAt + 2 ≤ input.length) :
    u16At (unsummed false csumAt input) 10 = 0 := by
  rw [unsummed, u16At_overwrite_disjoint _ _ _ (by simp; omega) (.inl (by omega))]
  exact u16At_overwrite_self input 10 0 (by omega)

theorem clearWord_ok {i : Nat} (fits : i + 2 ≤ input.length) :
    (do
      let input ← setByte input i 0
      setByte input (i + 1) 0) = .ok (overwrite input i [0, 0]) := by
  rw [setByte_ok (by omega), Run.ok_bind, setByte_ok (by rw [length_overwrite]; omega)]
  congr 1
  exact overwrite_overwrite_append input i [0] [0]

theorem clearIpChecksum_ok (long : minIphLen isV6 ≤ input.length) :
    clearIpChecksum isV6 input = .ok (withoutIpChecksum isV6 input) := by
  cases isV6 with
  | true => rfl
  | false =>
    have long : 20 ≤ input.length := long
    exact clearWord_ok (by omega)

theorem readFirstTcpSeqNum_ok {tcp : Bool} {iphLen : Nat}
    (long : tcp = true → iphLen + 8 ≤ input.length) :
    readFirstTcpSeqNum tcp input iphLen = .ok (if tcp then u32At input (iphLen + 4) else 0) := by
  cases tcp with
  | true => exact readU32_ok (Nat.le_trans (by omega) (long rfl))
  | false => rfl

end Unsummed

section Checks

variable {s : GsoState} {hdr : VirtioNetHdr} {isV6 : Bool}

theorem GsoReady.positive (ready : GsoReady s hdr isV6) : 0 < hdr.gsoSize.toNat :=
  UInt16.pos_iff_ne_zero.mpr ready.gsoSize

theorem minTransportHLen_gsoProtocol (gsoType : UInt8) :
    minTransportHLen (gsoProtocol gsoType) = if isTcpGso gsoType then 20 else udpHLen := by
  unfold gsoProtocol minTransportHLen
  split
  · rfl
  · rfl

theorem gsoSplit_loop (outOffset : Nat) (ready : GsoReady s hdr isV6) :
    gsoSplit s hdr outOffset isV6 =
      segmentLoop (gsoPlan hdr outOffset isV6 (s.unsummed hdr isV6).input) ready.positive 0
        hdr.hdrLen.toNat (s.unsummed hdr isV6) := by
  have enoughSizes := ready.sizes
  have few := ready.few
  have ip := ready.ip
  have transport := ready.transport
  have headers := ready.headers
  have checksum := ready.checksum
  have flagsAt : tcpFlagsOffset = 13 := rfl
  have addresses : srcAddrOffset isV6 + 2 * addrLen isV6 ≤ minIphLen isV6 := addresses_le isV6
  have order : ¬ hdr.hdrLen < hdr.csumStart := by
    rw [UInt16.lt_iff_toNat_lt]
    omega
  have size : (s.unsummed hdr isV6).input.length = s.input.length := length_unsummed ..
  have cleared := length_withoutIpChecksum isV6 s.input
  have clearedFirst : (overwrite (withoutIpChecksum isV6 s.input)
      (hdr.csumStart.toNat + hdr.csumOffset.toNat) [0]).length = s.input.length := by
    rw [length_overwrite, cleared]
  have both : overwrite (overwrite (withoutIpChecksum isV6 s.input)
      (hdr.csumStart.toNat + hdr.csumOffset.toNat) [0])
        (hdr.csumStart.toNat + hdr.csumOffset.toNat + 1) [0] = (s.unsummed hdr isV6).input :=
    overwrite_overwrite_append _ _ [0] [0]
  rw [minTransportHLen_gsoProtocol] at transport
  have longTcp : isTcpGso hdr.gsoType = true → hdr.csumStart.toNat + 20 ≤ hdr.hdrLen.toNat :=
    fun tcp => by rwa [if_pos tcp] at transport
  have longUdp : ¬ isTcpGso hdr.gsoType = true →
      hdr.csumStart.toNat + udpHLen ≤ hdr.hdrLen.toNat :=
    fun notTcp => by rwa [if_neg notTcp] at transport
  -- Each of the two checks of the transport header is about one protocol only.
  have tcpFits : ¬ (isTcpGso hdr.gsoType = true ∧ (hdr.hdrLen.toNat < hdr.csumStart.toNat + 20 ∨
      hdr.csumStart.toNat + tcpFlagsOffset + 1 > (s.unsummed hdr isV6).input.length)) :=
    fun ⟨tcp, short⟩ => by
      have long := longTcp tcp
      omega
  have udpFits : ¬ (¬ isTcpGso hdr.gsoType = true ∧
      hdr.hdrLen.toNat < hdr.csumStart.toNat + udpHLen) :=
    fun ⟨notTcp, short⟩ => by
      have long := longUdp notTcp
      omega
  have dst : srcAddrOffset isV6 + 2 * addrLen isV6 - (srcAddrOffset isV6 + addrLen isV6) =
      addrLen isV6 := by omega
  unfold gsoSplit
  simp only []
  rw [if_neg (by omega), if_neg (by omega), dif_neg ready.gsoSize, if_neg order, if_neg (by omega),
    if_neg (by omega), if_neg (by omega), clearIpChecksum_ok (by omega), Run.ok_bind,
    if_neg (by omega), setByte_ok (by omega), Run.ok_bind, setByte_ok (by omega), Run.ok_bind, both,
    if_neg tcpFits, if_neg udpFits, readFirstTcpSeqNum_ok fun tcp => by have := longTcp tcp; omega,
    Run.ok_bind, if_neg (by omega), slice_ok (by omega) (by omega), Run.ok_bind,
    slice_ok (by omega) (by omega), Run.ok_bind, Nat.add_sub_cancel_left, dst]
  rfl

/-- The call returns an error, and does not crash. -/
def Rejected (run : Run (GsoState × Result Nat)) : Prop :=
  ∃ s error, run = .ok (s, .error error)

theorem Rejected.guard {check : Prop} [Decidable check] {s : GsoState} {error : IoError}
    {rest : Run (GsoState × Result Nat)} (passed : ¬ check → Rejected rest) :
    Rejected (if check then pure (s, .error error) else rest) := by
  by_cases failed : check
  · rw [if_pos failed]
    exact ⟨s, error, rfl⟩
  · rw [if_neg failed]
    exact passed failed

theorem gsoSplit_rejects (outOffset : Nat) (unready : ¬ GsoReady s hdr isV6) :
    Rejected (gsoSplit s hdr outOffset isV6) := by
  have addresses : srcAddrOffset isV6 + 2 * addrLen isV6 ≤ minIphLen isV6 := addresses_le isV6
  have cleared := length_withoutIpChecksum isV6 s.input
  refine .guard fun sizes => .guard fun few => ?_
  by_cases zero : hdr.gsoSize = 0
  · rw [dif_pos zero]
    exact ⟨_, _, rfl⟩
  rw [dif_neg zero]
  refine .guard fun order => .guard fun ip => .guard fun headers => .guard fun long => ?_
  rw [clearIpChecksum_ok (by omega), Run.ok_bind]
  refine .guard fun checksum => ?_
  rw [setByte_ok (by omega), Run.ok_bind, setByte_ok (by rw [length_overwrite]; omega), Run.ok_bind]
  rw [UInt16.lt_iff_toNat_lt] at order
  refine .guard fun tcp => .guard fun udp => ?_
  refine absurd ⟨by omega, by omega, zero, by omega, ?_, by omega, by omega⟩ unready
  rw [minTransportHLen_gsoProtocol]
  split
  · rename_i isTcp
    exact Nat.le_of_not_lt fun short => tcp ⟨isTcp, .inl short⟩
  · rename_i notTcp
    exact Nat.le_of_not_lt fun short => udp ⟨notTcp, short⟩

/-! ## The loop of a call -/

theorem gsoPlan_checked (outOffset : Nat) (ready : GsoReady s hdr isV6) :
    (gsoPlan hdr outOffset isV6 (s.unsummed hdr isV6).input).Checked
      (s.unsummed hdr isV6).input.length := by
  have size : (s.unsummed hdr isV6).input.length = s.input.length := length_unsummed ..
  have ip : ipHLen isV6 ≤ hdr.csumStart.toNat := ready.ip
  have transport := ready.transport
  have headers := ready.headers
  constructor
  case ip => exact ready.ip
  case protocol =>
    change gsoProtocol hdr.gsoType = _ ∨ gsoProtocol hdr.gsoType = _
    unfold gsoProtocol
    split
    · exact .inl rfl
    · exact .inr rfl
  case transport => exact ready.transport
  case headers => exact size ▸ ready.headers
  case src => exact length_srcAddress (by omega)
  case dst => exact length_dstAddress (by omega)

theorem gsoPlan_ready (outOffset : Nat) (ready : GsoReady s hdr isV6) :
    LoopReady (gsoPlan hdr outOffset isV6 (s.unsummed hdr isV6).input) (s.unsummed hdr isV6) :=
  ⟨gsoPlan_checked outOffset ready, ready.sizes, ready.few⟩

theorem gsoSplit_outcome (outOffset : Nat) (ready : GsoReady s hdr isV6) :
    LoopOutcome (gsoPlan hdr outOffset isV6 (s.unsummed hdr isV6).input) 0 (s.unsummed hdr isV6)
      (gsoSplit s hdr outOffset isV6) := by
  have start : (gsoPlan hdr outOffset isV6 (s.unsummed hdr isV6).input).dataAt 0 =
      hdr.hdrLen.toNat := by
    rw [GsoPlan.dataAt, Nat.zero_mul, Nat.add_zero]
    rfl
  rw [gsoSplit_loop outOffset ready, ← start]
  exact segmentLoop_outcome (gsoPlan_ready outOffset ready) ready.positive (Nat.zero_le _)

theorem gsoPlan_standard (outOffset : Nat) (ready : GsoReady s hdr isV6)
    (stop : hdr.csumOffset.toNat = transportCsumOffset (gsoProtocol hdr.gsoType))
    (short : hdr.hdrLen.toNat + min hdr.gsoSize.toNat (s.input.length - hdr.hdrLen.toNat) ≤ 65535) :
    (gsoPlan hdr outOffset isV6 (s.unsummed hdr isV6).input).Standard
      (s.unsummed hdr isV6).input := by
  have checksum := ready.checksum
  have ip := ready.ip
  constructor
  case toChecked => exact gsoPlan_checked outOffset ready
  case csumAt =>
    change hdr.csumStart.toNat + hdr.csumOffset.toNat = _
    rw [stop]
    rfl
  case short =>
    have size : (s.unsummed hdr isV6).input.length = s.input.length := length_unsummed ..
    rw [size]
    exact short
  case srcAddr => rfl
  case dstAddr => rfl
  case blankIp =>
    intro ipv4
    obtain rfl : isV6 = false := ipv4
    have twenty : minIphLen false = 20 := rfl
    exact unsummed_ipCsum (by omega) (by omega)
  case blank => exact unsummed_csum (by omega)

/-- A packet with a standard offload header is cut when every segment has a buffer. -/
theorem gsoSplit_segments (outOffset : Nat) (ready : GsoReady s hdr isV6)
    (stop : hdr.csumOffset.toNat = transportCsumOffset (gsoProtocol hdr.gsoType))
    (short : hdr.hdrLen.toNat + min hdr.gsoSize.toNat (s.input.length - hdr.hdrLen.toNat) ≤ 65535)
    (fits : ∀ j, hdr.hdrLen.toNat + j * hdr.gsoSize.toNat < s.input.length →
      ∃ buf, s.outBufs[j]? = some buf ∧ outOffset + (hdr.hdrLen.toNat + min hdr.gsoSize.toNat
        (s.input.length - (hdr.hdrLen.toNat + j * hdr.gsoSize.toNat))) ≤ buf.length) :
    ∃ s' n, gsoSplit s hdr outOffset isV6 = .ok (s', .ok n) ∧
      SegmentsWritten (gsoPlan hdr outOffset isV6 (s.unsummed hdr isV6).input) 0 n
        (s.unsummed hdr isV6) s' := by
  have size : (s.unsummed hdr isV6).input.length = s.input.length := length_unsummed ..
  have standard := gsoPlan_standard outOffset ready stop short
  have enough : ∀ j, (gsoPlan hdr outOffset isV6 (s.unsummed hdr isV6).input).dataAt j <
      (s.unsummed hdr isV6).input.length →
      (gsoPlan hdr outOffset isV6 (s.unsummed hdr isV6).input).Fits
        (s.unsummed hdr isV6).input.length (s.unsummed hdr isV6).outBufs j := by
    intro j inside
    rw [size] at inside ⊢
    exact fits j inside
  have outcome := gsoSplit_outcome outOffset ready
  generalize gsoSplit s hdr outOffset isV6 = run at outcome
  cases outcome with
  | done written => exact ⟨_, _, rfl, written⟩
  | stopped here inside stuck checksums => exact absurd (enough _ inside) stuck
  | crashed here inside fitsBefore beyond =>
    refine absurd (fun buf found => ?_) beyond
    obtain ⟨other, foundOther, room⟩ := enough _ inside
    obtain rfl := Option.some.inj (found.symm.trans foundOther)
    have within := standard.csum_le.2.1
    rw [GsoPlan.segmentLen] at room
    omega

end Checks

end QuincyTun.Linux
