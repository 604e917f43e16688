import QuincyTun.Linux.Buffer
import QuincyTun.Linux.Checksum
import QuincyTun.Linux.GroTable

/-! Whether a packet can join an item, and joining it.

Lengths and offsets are natural numbers. Packets are indexed only below bounds
that the code has tested or that a checked access tests.
-/

set_option autoImplicit false

namespace QuincyTun.Linux

open QuincyTun.Foundation

inductive CanCoalesce where
  | prepend
  | unavailable
  | append
  deriving DecidableEq, Repr

inductive CoalesceResult where
  | insufficientCap
  | pshEnding
  | itemInvalidCSum
  | pktInvalidCSum
  | success
  deriving DecidableEq, Repr

/-- Every index below nine is in range once both lengths were tested. -/
def ipHeadersCanCoalesce (pktA pktB : List UInt8) : Bool :=
  if pktA.length < 9 ∨ pktB.length < 9 then false
  else if byteAt pktA 0 >>> 4 = 6 then
    if byteAt pktA 0 ≠ byteAt pktB 0 ∨ byteAt pktA 1 >>> 4 ≠ byteAt pktB 1 >>> 4 then
      false -- unequal traffic class
    else if byteAt pktA 7 ≠ byteAt pktB 7 then false -- unequal hop limit
    else true
  else
    if byteAt pktA 1 ≠ byteAt pktB 1 then false -- unequal ToS
    else if byteAt pktA 6 >>> 5 ≠ byteAt pktB 6 >>> 5 then false -- unequal DF or reserved bit
    else if byteAt pktA 8 ≠ byteAt pktB 8 then false -- unequal TTL
    else true

def udpPacketsCanCoalesce (pkt : List UInt8) (iphLen : UInt8) (gsoSize : UInt16)
    (item : UdpGROItem) (bufs : List ExpandBuffer) (bufsOffset : Nat) : Run CanCoalesce := do
  let pktTarget ← packetFrom bufs item.bufsIndex.toNat bufsOffset
  if ipHeadersCanCoalesce pkt pktTarget = false then pure .unavailable
  else do
    let payload ← sliceFrom pktTarget (iphLen.toNat + udpHLen)
    let tail ← remLen payload.length item.gsoSize.toNat
    -- Nothing can come after a smaller datagram on the end.
    if tail ≠ 0 then pure .unavailable
    -- Only the last datagram of a group may differ in size, and only by being smaller.
    else if gsoSize > item.gsoSize then pure .unavailable
    else pure .append

def tcpOptionsMatch (pkt pktTarget : List UInt8) (iphLen tcphLen : UInt8) (item : TcpGROItem) :
    Run Bool :=
  if tcphLen > 20 then do
    let options ← slice pkt (iphLen.toNat + 20) (iphLen.toNat + tcphLen.toNat)
    let target ← slice pktTarget (item.iphLen.toNat + 20) (item.iphLen.toNat + tcphLen.toNat)
    pure (options == target)
  else pure true

/-- The end of the item that the packet continues, by sequence number. -/
def tcpAdjacency (iphLen tcphLen : UInt8) (seq : UInt32) (pshSet : Bool) (gsoSize : UInt16)
    (item : TcpGROItem) (pktTarget : List UInt8) : Run CanCoalesce :=
  -- An estimate of the payload length by whole segments.
  let lhsLen := item.gsoSize.toNat + item.numMerged.toNat * item.gsoSize.toNat
  if seq = item.sentSeq + UInt32.ofNat lhsLen then
    -- PSH ends a group.
    if item.pshSet then pure .unavailable
    else do
      let payload ← sliceFrom pktTarget (iphLen.toNat + tcphLen.toNat)
      let tail ← remLen payload.length item.gsoSize.toNat
      -- Where the estimate is too long, the last segment was a smaller one.
      if tail ≠ 0 then pure .unavailable
      else if gsoSize > item.gsoSize then pure .unavailable
      else pure .append
  else if seq + UInt32.ofNat gsoSize.toNat = item.sentSeq then
    if pshSet then pure .unavailable
    else if gsoSize < item.gsoSize then pure .unavailable
    -- A larger head would leave several smaller segments behind it.
    else if gsoSize > item.gsoSize ∧ item.numMerged > 0 then pure .unavailable
    else pure .prepend
  else pure .unavailable

def tcpPacketsCanCoalesce (pkt : List UInt8) (iphLen tcphLen : UInt8) (seq : UInt32)
    (pshSet : Bool) (gsoSize : UInt16) (item : TcpGROItem) (bufs : List ExpandBuffer)
    (bufsOffset : Nat) : Run CanCoalesce := do
  let pktTarget ← packetFrom bufs item.bufsIndex.toNat bufsOffset
  if tcphLen ≠ item.tcphLen then pure .unavailable
  else do
    let sameOptions ← tcpOptionsMatch pkt pktTarget iphLen tcphLen item
    if sameOptions = false then pure .unavailable
    else if ipHeadersCanCoalesce pkt pktTarget = false then pure .unavailable
    else tcpAdjacency iphLen tcphLen seq pshSet gsoSize item pktTarget

def checksumValid (pkt : List UInt8) (iphLen proto : UInt8) (isV6 : Bool) : Run Bool := do
  let (srcAddrAt, addrSize) := if isV6 then (ipv6SrcAddrOffset, 16) else (ipv4SrcAddrOffset, 4)
  -- A saturating subtraction of 16-bit values.
  let lenForPseudo := UInt16.ofNat (pkt.length % 65536 - iphLen.toNat)
  let srcAddr ← slice pkt srcAddrAt (srcAddrAt + addrSize)
  let dstAddr ← slice pkt (srcAddrAt + addrSize) (srcAddrAt + addrSize * 2)
  let cSum ← pseudoHeaderChecksumNoFold proto srcAddr dstAddr lenForPseudo
  let transport ← sliceFrom pkt iphLen.toNat
  let sum ← checksum transport cSum
  -- The checksum field is a part of what is summed.
  pure (~~~sum == 0)

/-- The checksum of an item is tested at its first merge only, and not when it is known. -/
def itemChecksumInvalid (numMerged : UInt16) (knownInvalid : Bool) (bufs : List ExpandBuffer)
    (bufsIndex : UInt16) (bufsOffset : Nat) (iphLen proto : UInt8) (isV6 : Bool) : Run Bool :=
  if numMerged = 0 then
    if knownInvalid then pure true
    else do
      let target ← packetFrom bufs bufsIndex.toNat bufsOffset
      let valid ← checksumValid target iphLen proto isV6
      pure !valid
  else pure false

def coalesceUdpPackets (pkt : List UInt8) (item : UdpGROItem) (bufs : List ExpandBuffer)
    (bufsOffset : Nat) (isV6 : Bool) :
    Run (CoalesceResult × UdpGROItem × List ExpandBuffer) := do
  let target ← packetFrom bufs item.bufsIndex.toNat bufsOffset
  let headersLen := item.iphLen.toNat + udpHLen
  let coalescedLen ← subLen (target.length + pkt.length) headersLen
  let capacity ← capacityFrom bufs item.bufsIndex.toNat
  if capacity < bufsOffset * 2 + coalescedLen then pure (.insufficientCap, item, bufs)
  else do
    let invalid ← itemChecksumInvalid item.numMerged item.cSumKnownInvalid bufs item.bufsIndex
      bufsOffset item.iphLen ipProtoUdp isV6
    if invalid then pure (.itemInvalidCSum, item, bufs)
    else do
      let valid ← checksumValid pkt item.iphLen ipProtoUdp isV6
      if valid = false then pure (.pktInvalidCSum, item, bufs)
      else do
        let payload ← sliceFrom pkt headersLen
        let bufs ← updateBuffer bufs item.bufsIndex.toNat fun buf =>
          pure (buf.bufExtendFromSlice payload)
        let numMerged ← addU16 item.numMerged 1
        pure (.success, { item with numMerged }, bufs)

/-- The packet's buffer takes the payload of the item and moves to the item's place. -/
def prependPacket (pkt : List UInt8) (pktBufsIndex : Nat) (item : TcpGROItem)
    (bufs : List ExpandBuffer) (bufsOffset headersLen coalescedLen : Nat) :
    Run (List ExpandBuffer) := do
  let extendBy ← subLen coalescedLen pkt.length
  let bufs ← updateBuffer bufs pktBufsIndex fun buf =>
    pure (buf.bufResize (buf.bytes.length + extendBy) 0)
  let target ← index bufs item.bufsIndex.toNat
  let src ← slice target.bytes (bufsOffset + headersLen) (bufsOffset + headersLen + extendBy)
  let bufs ← updateBuffer bufs pktBufsIndex fun buf => buf.write (bufsOffset + pkt.length) src
  swapBuffers bufs item.bufsIndex.toNat pktBufsIndex

def markPsh (bufs : List ExpandBuffer) (item : TcpGROItem) (bufsOffset : Nat) :
    Run (List ExpandBuffer) :=
  updateBuffer bufs item.bufsIndex.toNat fun buf => do
    let flags ← getByte buf.bytes (bufsOffset + item.iphLen.toNat + tcpFlagsOffset)
    buf.write (bufsOffset + item.iphLen.toNat + tcpFlagsOffset) [flags ||| tcpFlagPsh]

def appendPacket (pkt : List UInt8) (item : TcpGROItem) (bufs : List ExpandBuffer)
    (headersLen : Nat) : Run (List ExpandBuffer) := do
  let payload ← sliceFrom pkt headersLen
  updateBuffer bufs item.bufsIndex.toNat fun buf => pure (buf.bufExtendFromSlice payload)

/-- Both ways to join a packet whose checksum and whose room were tested. -/
def joinPacket (mode : CanCoalesce) (pkt : List UInt8) (pktBufsIndex : Nat) (seq : UInt32)
    (pshSet : Bool) (item : TcpGROItem) (bufs : List ExpandBuffer)
    (bufsOffset headersLen coalescedLen : Nat) : Run (TcpGROItem × List ExpandBuffer) :=
  if mode = .prepend then do
    let bufs ← prependPacket pkt pktBufsIndex item bufs bufsOffset headersLen coalescedLen
    pure ({ item with sentSeq := seq }, bufs)
  else if pshSet then do
    let bufs ← markPsh bufs item bufsOffset
    let bufs ← appendPacket pkt item bufs headersLen
    pure ({ item with pshSet }, bufs)
  else do
    let bufs ← appendPacket pkt item bufs headersLen
    pure (item, bufs)

def coalesceTcpPackets (mode : CanCoalesce) (pkt : List UInt8) (pktBufsIndex : Nat)
    (gsoSize : UInt16) (seq : UInt32) (pshSet : Bool) (item : TcpGROItem)
    (bufs : List ExpandBuffer) (bufsOffset : Nat) (isV6 : Bool) :
    Run (CoalesceResult × TcpGROItem × List ExpandBuffer) := do
  let headersLen ← addU8 item.iphLen item.tcphLen
  let target ← packetFrom bufs item.bufsIndex.toNat bufsOffset
  let coalescedLen ← subLen (target.length + pkt.length) headersLen.toNat
  -- The buffer that grows is the one that ends up at the item's place.
  let capacity ←
    capacityFrom bufs (if mode = .prepend then pktBufsIndex else item.bufsIndex.toNat)
  if capacity < 2 * bufsOffset + coalescedLen then pure (.insufficientCap, item, bufs)
  else if mode = .prepend ∧ pshSet then pure (.pshEnding, item, bufs)
  else do
    let invalid ← itemChecksumInvalid item.numMerged false bufs item.bufsIndex bufsOffset
      item.iphLen ipProtoTcp isV6
    if invalid then pure (.itemInvalidCSum, item, bufs)
    else do
      let valid ← checksumValid pkt item.iphLen ipProtoTcp isV6
      if valid = false then pure (.pktInvalidCSum, item, bufs)
      else do
        let (item, bufs) ← joinPacket mode pkt pktBufsIndex seq pshSet item bufs bufsOffset
          headersLen.toNat coalescedLen
        -- A larger head sets the size at which the group will be cut.
        let item := if gsoSize > item.gsoSize then { item with gsoSize } else item
        let numMerged ← addU16 item.numMerged 1
        pure (.success, { item with numMerged }, bufs)

end QuincyTun.Linux
