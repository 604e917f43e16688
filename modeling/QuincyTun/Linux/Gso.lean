import QuincyTun.Linux.GroTable
import QuincyTun.Linux.Checksum

/-! Segmentation offload on the receiving side: one large packet becomes many. -/

set_option autoImplicit false

namespace QuincyTun.Linux

open QuincyTun.Foundation

/-- Everything that `gso_split` and `handle_virtio_read` write to. -/
structure GsoState where
  input : List UInt8
  outBufs : List (List UInt8)
  sizes : List Nat
  deriving DecidableEq, Repr

/-- What the segments of one packet share. -/
structure GsoPlan where
  hdr : VirtioNetHdr
  isV6 : Bool
  protocol : UInt8
  srcAddr : List UInt8
  dstAddr : List UInt8
  firstTcpSeqNum : UInt32
  transportCsumAt : Nat
  outOffset : Nat
  deriving DecidableEq, Repr

def GsoPlan.iphLen (plan : GsoPlan) : Nat := plan.hdr.csumStart.toNat
def GsoPlan.hdrLen (plan : GsoPlan) : Nat := plan.hdr.hdrLen.toNat
def GsoPlan.gsoSize (plan : GsoPlan) : Nat := plan.hdr.gsoSize.toNat

/-- The IP header of segment `i`: identification, length and checksum are its own. -/
def writeIpHeader (plan : GsoPlan) (out : List UInt8) (i totalLen : Nat) : Run (List UInt8) :=
  if plan.isV6 then do
    let payloadLen ← subLen totalLen 40
    writeU16 out 4 (UInt16.ofNat payloadLen)
  else do
    let out ←
      if i > 0 then do
        let id ← readU16 out 4
        writeU16 out 4 (id + UInt16.ofNat i)
      else pure out
    let out ← writeU16 out 2 (UInt16.ofNat totalLen)
    let header ← slice out 0 plan.iphLen
    let ipv4Csum ← checksum header 0
    writeU16 out 10 (~~~ipv4Csum)

def writeTransportHeader (plan : GsoPlan) (out : List UInt8) (i segmentDataLen : Nat)
    (last : Bool) : Run (List UInt8) :=
  if plan.protocol = ipProtoTcp then do
    let advance ← mulU32 plan.gsoSize i
    let seqAt ← addU16 plan.hdr.csumStart 4
    let seqEnd ← addU16 plan.hdr.csumStart 8
    let out ← copyInto out seqAt.toNat seqEnd.toNat (be32 (plan.firstTcpSeqNum + advance))
    if last then pure out
    else do
      let flags ← getByte out (plan.iphLen + tcpFlagsOffset)
      setByte out (plan.iphLen + tcpFlagsOffset) (flags &&& ~~~(tcpFlagFin ||| tcpFlagPsh))
  else do
    let udpLen := UInt16.ofNat (segmentDataLen + (plan.hdrLen - plan.iphLen))
    let lenAt ← addU16 plan.hdr.csumStart 4
    let lenEnd ← addU16 plan.hdr.csumStart 6
    copyInto out lenAt.toNat lenEnd.toNat (be16 udpLen)

/-- Where a segment ends, how much payload it has, its length and its pseudo-header length. -/
structure SegmentSizes where
  segmentEnd : Nat
  dataLen : Nat
  totalLen : Nat
  lenForPseudo : UInt16
  deriving DecidableEq, Repr

def segmentSizes (plan : GsoPlan) (inputLen dataAt : Nat) : SegmentSizes :=
  let transportHeaderLen := plan.hdrLen - plan.iphLen
  if dataAt + plan.gsoSize > inputLen then
    let lastLen := inputLen - dataAt
    ⟨inputLen, lastLen, plan.hdrLen + lastLen, UInt16.ofNat (transportHeaderLen + lastLen)⟩
  else
    ⟨dataAt + plan.gsoSize, plan.gsoSize, plan.hdrLen + plan.gsoSize,
      UInt16.ofNat (transportHeaderLen + plan.gsoSize)⟩

/-- Headers and payload of segment `i`, whose payload starts at `dataAt`. -/
def writeSegmentData (plan : GsoPlan) (input out : List UInt8) (i dataAt : Nat) :
    Run (List UInt8) := do
  let segment := segmentSizes plan input.length dataAt
  let ipHeader ← slice input 0 plan.iphLen
  let out ← copyInto out 0 plan.iphLen ipHeader
  let out ← writeIpHeader plan out i segment.totalLen
  let transportHeader ← slice input plan.iphLen plan.hdrLen
  let out ← copyInto out plan.iphLen plan.hdrLen transportHeader
  let out ← writeTransportHeader plan out i segment.dataLen (segment.segmentEnd == input.length)
  let payload ← slice input dataAt segment.segmentEnd
  copyInto out plan.hdrLen segment.totalLen payload

def writeSegment (plan : GsoPlan) (input out : List UInt8) (i dataAt : Nat) :
    Run (List UInt8) := do
  let segment := segmentSizes plan input.length dataAt
  let out ← writeSegmentData plan input out i dataAt
  let transport ← slice out plan.iphLen segment.totalLen
  let pseudo ← pseudoHeaderChecksumNoFold plan.protocol plan.srcAddr plan.dstAddr
    segment.lenForPseudo
  let transportCsum ← checksum transport pseudo
  writeU16 out plan.transportCsumAt (~~~transportCsum)

/-- The segmentation loop, at segment `i` whose payload starts at `dataAt`. -/
def segmentLoop (plan : GsoPlan) (positive : 0 < plan.gsoSize) (i dataAt : Nat) (s : GsoState) :
    Run (GsoState × Result Nat) :=
  if dataAt < s.input.length then
    if i = s.outBufs.length then pure (s, invalidInput "too many GSO segments")
    else do
      -- The size is stored before the room is tested.
      let totalLen := (segmentSizes plan s.input.length dataAt).totalLen
      let sizes ← setIndex s.sizes i totalLen
      let buf ← index s.outBufs i
      if plan.outOffset > buf.length ∨ buf.length - plan.outOffset < totalLen then
        pure ({ s with sizes }, invalidInput "output buffer too small")
      else do
        let out ← writeSegment plan s.input (buf.drop plan.outOffset) i dataAt
        let outBufs := s.outBufs.set i (buf.take plan.outOffset ++ out)
        segmentLoop plan positive (i + 1) (dataAt + plan.gsoSize) { s with outBufs, sizes }
  else pure (s, .ok i)
termination_by s.input.length - dataAt

def minIphLen (isV6 : Bool) : Nat := if isV6 then 40 else 20

def isTcpGso (gsoType : UInt8) : Bool :=
  gsoType == virtioNetHdrGsoTcpv4 || gsoType == virtioNetHdrGsoTcpv6

def clearIpChecksum (isV6 : Bool) (input : List UInt8) : Run (List UInt8) :=
  if isV6 then pure input
  else do
    let input ← setByte input 10 0
    setByte input 11 0

def readFirstTcpSeqNum (tcp : Bool) (input : List UInt8) (iphLen : Nat) : Run UInt32 :=
  if tcp then readU32 input (iphLen + 4) else pure 0

def gsoSplit (s : GsoState) (hdr : VirtioNetHdr) (outOffset : Nat) (isV6 : Bool) :
    Run (GsoState × Result Nat) :=
  let iphLen := hdr.csumStart.toNat
  let hdrLen := hdr.hdrLen.toNat
  if s.sizes.length < s.outBufs.length then
    pure (s, invalidInput "sizes must be at least as long as out_bufs")
  else if s.outBufs.length > 65535 then pure (s, invalidInput "too many packet buffers")
  else if zero : hdr.gsoSize = 0 then
    pure (s, invalidInput "virtioNetHdr.gsoSize must be non-zero")
  else if hdr.hdrLen < hdr.csumStart then
    pure (s, invalidInput "virtioNetHdr.hdrLen is smaller than csumStart")
  else if iphLen < minIphLen isV6 then
    pure (s, invalidInput "virtioNetHdr.csumStart is smaller than the IP header")
  else if s.input.length < hdrLen then
    pure (s, invalidInput "input shorter than virtioNetHdr.hdrLen")
  else if s.input.length < minIphLen isV6 then
    pure (s, invalidInput (if isV6 then "IPv6 packet is too short" else "IPv4 packet is too short"))
  else do
    let input ← clearIpChecksum isV6 s.input
    let transportCsumAt := iphLen + hdr.csumOffset.toNat
    if transportCsumAt + 1 ≥ input.length then
      pure ({ s with input }, invalidInput "checksum offset exceeds input length")
    else do
      -- The transport checksum is cleared as well.
      let input ← setByte input transportCsumAt 0
      let input ← setByte input (transportCsumAt + 1) 0
      let s := { s with input }
      let tcp := isTcpGso hdr.gsoType
      if tcp ∧ (hdrLen < iphLen + 20 ∨ iphLen + tcpFlagsOffset + 1 > input.length) then
        pure (s, invalidInput "TCP header is too short")
      else if ¬ tcp ∧ hdrLen < iphLen + udpHLen then
        pure (s, invalidInput "UDP header is too short")
      else do
        let firstTcpSeqNum ← readFirstTcpSeqNum tcp input iphLen
        let srcAt := srcAddrOffset isV6
        let dstAt := srcAt + addrLen isV6
        if srcAt + 2 * addrLen isV6 > input.length then
          pure (s, invalidInput "packet addresses exceed input length")
        else do
          let srcAddr ← slice input srcAt dstAt
          let dstAddr ← slice input dstAt (srcAt + 2 * addrLen isV6)
          let plan : GsoPlan := {
            hdr, isV6, srcAddr, dstAddr, firstTcpSeqNum, transportCsumAt, outOffset
            protocol := if tcp then ipProtoTcp else ipProtoUdp }
          segmentLoop plan (UInt16.pos_iff_ne_zero.mpr zero) 0 hdrLen s

def gsoNoneChecksum (inBuf : List UInt8) (csumStart csumOffset : UInt16) :
    Run (List UInt8 × Result Unit) :=
  let start := csumStart.toNat
  let csumAt := start + csumOffset.toNat
  if start > inBuf.length ∨ csumAt + 2 > inBuf.length then
    pure (inBuf, invalidInput "checksum offsets exceed packet length")
  else do
    -- The initial value is typically the sum of the pseudo-header.
    let initial ← readU16 inBuf csumAt
    let inBuf ← setByte inBuf csumAt 0
    let inBuf ← setByte inBuf (csumAt + 1) 0
    let region ← sliceFrom inBuf start
    let computedChecksum ← checksum region initial.toNat
    let inBuf ← writeU16 inBuf csumAt (~~~computedChecksum)
    pure (inBuf, .ok ())

end QuincyTun.Linux
