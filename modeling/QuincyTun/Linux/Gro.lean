import QuincyTun.Linux.Coalesce

/-! Generic receive offload over one batch of buffers.

`handleGro` looks at the buffers in order. Each packet passes through, opens an
item of its flow, or is joined to one; afterwards the headers of the joined
packets are rewritten. What the program finds at run time is a `Host`.
-/

set_option autoImplicit false

namespace QuincyTun.Linux

open QuincyTun.Foundation

inductive GroResult where
  | noop
  | tableInsert
  | coalesced
  deriving DecidableEq, Repr

/-! ## Reading a packet -/

/-- The IP header length, unless the length field differs from the packet's length. -/
def ipHeaderLen (pkt : List UInt8) (isV6 : Bool) : Run (Option Nat) := do
  let first ← getByte pkt 0
  if isV6 then do
    let payloadLen ← readU16 pkt 4
    -- Extension headers count as payload.
    let rest ← subLen pkt.length 40
    pure (if payloadLen.toNat ≠ rest then none else some 40)
  else do
    let totalLen ← readU16 pkt 2
    -- The IHL counts words of 32 bits.
    pure (if totalLen.toNat ≠ pkt.length then none else some ((first &&& 0x0F) * 4).toNat)

/-- `!is_v6 && (pkt[6] & MORE_FRAGMENTS != 0 || pkt[6] << 3 != 0 || pkt[7] != 0)` -/
def isFragment (pkt : List UInt8) (isV6 : Bool) : Run Bool :=
  if isV6 then pure false
  else do
    let flags ← getByte pkt 6
    let offset ← getByte pkt 7
    pure (flags &&& ipv4FlagMoreFragments != 0 || flags <<< 3 != 0 || offset != 0)

/-- What the code reads from a TCP packet before it looks at the table. -/
structure TcpSegment where
  iphLen : Nat
  tcphLen : Nat
  pshSet : Bool
  gsoSize : UInt16
  seq : UInt32
  deriving DecidableEq, Repr

/-- The first half of `tcp_gro`: no segment when the packet is not eligible. -/
def parseTcp (pkt : List UInt8) (isV6 : Bool) : Run (Option TcpSegment) :=
  if pkt.length > 65535 then pure none
  else do
    match ← ipHeaderLen pkt isV6 with
    | none => pure none
    | some iphLen =>
      if pkt.length < iphLen then pure none
      else if pkt.length < iphLen + tcpFlagsOffset + 1 then pure none
      else do
        let dataOffset ← getByte pkt (iphLen + 12)
        let tcphLen := (dataOffset >>> 4).toNat * 4
        if tcphLen < 20 ∨ 60 < tcphLen then pure none
        else if pkt.length < iphLen + tcphLen then pure none
        else do
          let fragment ← isFragment pkt isV6
          if fragment then pure none
          else do
            let tcpFlags ← getByte pkt (iphLen + tcpFlagsOffset)
            if tcpFlags ≠ tcpFlagAck ∧ tcpFlags ≠ tcpFlagAck ||| tcpFlagPsh then pure none
            else do
              let behindTcph ← subLen pkt.length tcphLen
              let payloadLen ← subLen behindTcph iphLen
              let gsoSize := UInt16.ofNat payloadLen
              -- A bare acknowledgement has nothing to join.
              if gsoSize < 1 then pure none
              else do
                let seq ← readU32 pkt (iphLen + 4)
                pure (some { iphLen, tcphLen, pshSet := tcpFlags != tcpFlagAck, gsoSize, seq })

structure UdpDatagram where
  iphLen : Nat
  gsoSize : UInt16
  deriving DecidableEq, Repr

def parseUdp (pkt : List UInt8) (isV6 : Bool) : Run (Option UdpDatagram) :=
  if pkt.length > 65535 then pure none
  else do
    match ← ipHeaderLen pkt isV6 with
    | none => pure none
    | some iphLen =>
      if pkt.length < iphLen ∨ pkt.length < iphLen + udpHLen then pure none
      else do
        let fragment ← isFragment pkt isV6
        if fragment then pure none
        else do
          let behindUdph ← subLen pkt.length udpHLen
          let payloadLen ← subLen behindUdph iphLen
          let gsoSize := UInt16.ofNat payloadLen
          if gsoSize < 1 then pure none
          else pure (some { iphLen, gsoSize })

/-! ## TCP -/

inductive TcpScan where
  | coalesced (items : List TcpGROItem) (bufs : List ExpandBuffer)
  | rejected (items : List TcpGROItem) (bufs : List ExpandBuffer)
  | exhausted (items : List TcpGROItem) (bufs : List ExpandBuffer)
  deriving DecidableEq, Repr

/-- `bufs[i].as_mut()[offset - VIRTIO_NET_HDR_LEN..offset].fill(0)` -/
def zeroVirtioHeader (bufs : List ExpandBuffer) (i offset : Nat) : Run (List ExpandBuffer) := do
  let start ← subLen offset virtioNetHdrLen
  updateBuffer bufs i fun buf => buf.write start (List.replicate virtioNetHdrLen 0)

/-- The loop over the items of a flow, from position `count - 1` down to the first. -/
def scanItems (pkt : List UInt8) (pktI : Nat) (segment : TcpSegment) (offset : Nat) (isV6 : Bool) :
    Nat → List TcpGROItem → List ExpandBuffer → Run TcpScan
  | 0, items, bufs => pure (.exhausted items bufs)
  | i + 1, items, bufs => do
    -- Positions go down, so a removal leaves those still to come where they are.
    let item ← index items i
    let can ← tcpPacketsCanCoalesce pkt (UInt8.ofNat segment.iphLen) (UInt8.ofNat segment.tcphLen)
      segment.seq segment.pshSet segment.gsoSize item bufs offset
    if can = .unavailable then scanItems pkt pktI segment offset isV6 i items bufs
    else do
      let (result, item, bufs) ← coalesceTcpPackets can pkt pktI segment.gsoSize segment.seq
        segment.pshSet item bufs offset isV6
      let items := items.set i item
      match result with
      | .success => pure (.coalesced items bufs)
      | .itemInvalidCSum => do
        -- The accounting will not visit the item again, so its header is cleared here.
        let bufs ← zeroVirtioHeader bufs item.bufsIndex.toNat offset
        scanItems pkt pktI segment offset isV6 i (items.eraseIdx i) bufs
      | .pktInvalidCSum => pure (.rejected items bufs)
      | .insufficientCap | .pshEnding => scanItems pkt pktI segment offset isV6 i items bufs

def tcpGro (bufs : List ExpandBuffer) (offset pktI : Nat) (table : TcpGROTable) (isV6 : Bool) :
    Run (GroResult × List ExpandBuffer × TcpGROTable) := do
  let pkt ← packetFrom bufs pktI offset
  match ← parseTcp pkt isV6 with
  | none => pure (.noop, bufs, table)
  | some segment => do
    let src := srcAddrOffset isV6
    let dst := src + addrLen isV6
    let (found, table) ← table.lookupOrInsert pkt src dst segment.iphLen segment.tcphLen pktI
    match found with
    | none => pure (.tableInsert, bufs, table)
    | some (key, items) => do
      match ← scanItems pkt pktI segment offset isV6 items.length items bufs with
      | .coalesced items bufs => pure (.coalesced, bufs, table.store key items)
      | .rejected items bufs => pure (.noop, bufs, table.store key items)
      | .exhausted items bufs => do
        let table ← TcpGROTable.insert (table.store key items) pkt src dst segment.iphLen
          segment.tcphLen pktI
        pure (.tableInsert, bufs, table)

/-! ## UDP -/

def insertUdpPacket (bufs : List ExpandBuffer) (offset pktI : Nat) (table : UdpGROTable)
    (iphLen : Nat) (isV6 pktCSumKnownInvalid : Bool) :
    Run (GroResult × List ExpandBuffer × UdpGROTable) := do
  let src := srcAddrOffset isV6
  let pkt ← packetFrom bufs pktI offset
  let table ← UdpGROTable.insert table pkt src (src + addrLen isV6) iphLen pktI pktCSumKnownInvalid
  pure (.tableInsert, bufs, table)

def udpGro (bufs : List ExpandBuffer) (offset pktI : Nat) (table : UdpGROTable) (isV6 : Bool) :
    Run (GroResult × List ExpandBuffer × UdpGROTable) := do
  let pkt ← packetFrom bufs pktI offset
  match ← parseUdp pkt isV6 with
  | none => pure (.noop, bufs, table)
  | some datagram => do
    let src := srcAddrOffset isV6
    let dst := src + addrLen isV6
    let (found, table) ← table.lookupOrInsert pkt src dst datagram.iphLen pktI
    match found with
    | none => pure (.tableInsert, bufs, table)
    | some (key, items) => do
      -- Only the last item is looked at, to keep the order of the flow.
      let last ← subLen items.length 1
      let item ← index items last
      let can ← udpPacketsCanCoalesce pkt (UInt8.ofNat datagram.iphLen) datagram.gsoSize item bufs
        offset
      if can = .append then do
        let (result, item, bufs) ← coalesceUdpPackets pkt item bufs offset isV6
        let table := table.store key (items.set last item)
        if result = .success then pure (.coalesced, bufs, table)
        -- A datagram with a wrong checksum is stored all the same, and marked.
        else
          insertUdpPacket bufs offset pktI table datagram.iphLen isV6 (result == .pktInvalidCSum)
      else insertUdpPacket bufs offset pktI table datagram.iphLen isV6 false

/-! ## Accounting -/

/-- A hash map yields its vectors in an order that the program does not choose. -/
structure HashOrder (ι : Type) where
  order : List (List ι) → List (List ι)
  perm : ∀ values, (order values).Perm values

structure Host where
  bigEndian : Bool
  tcpOrder : HashOrder TcpGROItem
  udpOrder : HashOrder UdpGROItem

def encodeAt (host : Host) (hdr : VirtioNetHdr) (buf : ExpandBuffer) (start stop : Nat) :
    Run (Result ExpandBuffer) := do
  let space ← slice buf.bytes start stop
  match hdr.encode host.bigEndian space with
  | .error error => pure (.error error)
  | .ok written => do
    let buf ← buf.write start written
    pure (.ok buf)

def accountIpHeader (buf : ExpandBuffer) (offset : Nat) (isV6 : Bool) (iphLen : UInt8)
    (pktLen : UInt16) : Run ExpandBuffer :=
  if isV6 then do
    let payloadLen ← subU16 pktLen iphLen.toUInt16
    buf.write (offset + 4) (be16 payloadLen)
  else do
    let buf ← buf.write (offset + 10) [0, 0]
    let buf ← buf.write (offset + 2) (be16 pktLen)
    let header ← slice buf.bytes offset (offset + iphLen.toNat)
    let iphCsum ← checksum header 0
    buf.write (offset + 10) (be16 (~~~iphCsum))

def accountUdpLength (buf : ExpandBuffer) (offset : Nat) (iphLen protocol : UInt8)
    (pktLen : UInt16) : Run ExpandBuffer :=
  if protocol = ipProtoUdp then do
    let udpLen ← subU16 pktLen iphLen.toUInt16
    buf.write (offset + iphLen.toNat + 4) (be16 udpLen)
  else pure buf

/-- Write the offload header and the fields that the joined length changes. -/
def accountMerged (host : Host) (offset : Nat) (isV6 : Bool) (iphLen protocol : UInt8)
    (hdr : VirtioNetHdr) (buf : ExpandBuffer) : Run (ExpandBuffer × Result Unit) := do
  let pkt ← sliceFrom buf.bytes offset
  let pktLen := UInt16.ofNat pkt.length
  let srcAddrAt := srcAddrOffset isV6
  let srcAddr ← slice pkt srcAddrAt (srcAddrAt + addrLen isV6)
  let dstAddr ← slice pkt (srcAddrAt + addrLen isV6) (srcAddrAt + addrLen isV6 * 2)
  let buf ← accountIpHeader buf offset isV6 iphLen pktLen
  let start ← subLen offset virtioNetHdrLen
  match ← encodeAt host hdr buf start buf.bytes.length with
  | .error error => pure (buf, .error error)
  | .ok buf => do
    let buf ← accountUdpLength buf offset iphLen protocol pktLen
    let transportLen ← subU16 pktLen iphLen.toUInt16
    -- Downstream, checksum offloading adds the transport header and the payload to this sum.
    let psum ← pseudoHeaderChecksumNoFold protocol srcAddr dstAddr transportLen
    let csum ← checksum [] psum
    let csumAt ← addU16 hdr.csumStart hdr.csumOffset
    let buf ← buf.write (offset + csumAt.toNat) (be16 csum)
    pure (buf, .ok ())

def accountSingle (host : Host) (offset : Nat) (buf : ExpandBuffer) :
    Run (ExpandBuffer × Result Unit) := do
  let start ← subLen offset virtioNetHdrLen
  match ← encodeAt host VirtioNetHdr.default buf start buf.bytes.length with
  | .error error => pure (buf, .error error)
  | .ok buf => pure (buf, .ok ())

abbrev Visit := ExpandBuffer → Run (ExpandBuffer × Result Unit)

/-- The offload header is put together before the buffer of the item is looked at. -/
def TcpGROItem.visit (host : Host) (offset : Nat) (item : TcpGROItem) : Run Visit :=
  if item.numMerged > 0 then do
    let hdrLen ← addU8 item.iphLen item.tcphLen
    pure (accountMerged host offset item.key.isV6 item.iphLen ipProtoTcp {
      flags := virtioNetHdrFNeedsCsum
      gsoType := if item.key.isV6 then virtioNetHdrGsoTcpv6 else virtioNetHdrGsoTcpv4
      hdrLen := hdrLen.toUInt16
      gsoSize := item.gsoSize
      csumStart := item.iphLen.toUInt16
      csumOffset := 16 })
  else pure (accountSingle host offset)

def UdpGROItem.visit (host : Host) (offset : Nat) (item : UdpGROItem) : Run Visit :=
  if item.numMerged > 0 then do
    let hdrLen ← addU16 item.iphLen.toUInt16 (UInt16.ofNat udpHLen)
    pure (accountMerged host offset item.key.isV6 item.iphLen ipProtoUdp {
      flags := virtioNetHdrFNeedsCsum
      gsoType := virtioNetHdrGsoUdpL4
      hdrLen
      gsoSize := item.gsoSize
      csumStart := item.iphLen.toUInt16
      csumOffset := 6 })
  else pure (accountSingle host offset)

def accountItem (bufs : List ExpandBuffer) (bufsIndex : UInt16) (prepare : Run Visit) :
    Run (List ExpandBuffer × Result Unit) := do
  let visit ← prepare
  let buf ← index bufs bufsIndex.toNat
  let (buf, outcome) ← visit buf
  pure (bufs.set bufsIndex.toNat buf, outcome)

def accountItems {ι : Type} (bufsIndex : ι → UInt16) (prepare : ι → Run Visit) :
    List ι → List ExpandBuffer → Run (List ExpandBuffer × Result Unit)
  | [], bufs => pure (bufs, .ok ())
  | item :: rest, bufs => do
    match ← accountItem bufs (bufsIndex item) (prepare item) with
    | (bufs, .error error) => pure (bufs, .error error)
    | (bufs, .ok ()) => accountItems bufsIndex prepare rest bufs

def FlowTable.values {κ ι : Type} (order : HashOrder ι) (table : FlowTable κ ι) : List ι :=
  (order.order (table.itemsByFlow.entries.map Sigma.snd)).flatten

def applyTcpCoalesceAccounting (host : Host) (bufs : List ExpandBuffer) (offset : Nat)
    (table : TcpGROTable) : Run (List ExpandBuffer × Result Unit) :=
  accountItems TcpGROItem.bufsIndex (TcpGROItem.visit host offset) (table.values host.tcpOrder) bufs

def applyUdpCoalesceAccounting (host : Host) (bufs : List ExpandBuffer) (offset : Nat)
    (table : UdpGROTable) : Run (List ExpandBuffer × Result Unit) :=
  accountItems UdpGROItem.bufsIndex (UdpGROItem.visit host offset) (table.values host.udpOrder) bufs

/-! ## The batch -/

inductive GroCandidateType where
  | notGRO
  | tcp4GRO
  | tcp6GRO
  | udp4GRO
  | udp6GRO
  deriving DecidableEq, Repr

/-- Every index below twenty-eight is in range once the length was tested. -/
def packetIsGroCandidate (b : List UInt8) (canUdpGro : Bool) : GroCandidateType :=
  if b.length < 28 then .notGRO
  else if byteAt b 0 >>> 4 = 4 then
    if byteAt b 0 &&& 0x0F ≠ 5 then .notGRO
    else if byteAt b 9 = ipProtoTcp ∧ b.length ≥ 40 then .tcp4GRO
    else if byteAt b 9 = ipProtoUdp ∧ canUdpGro then .udp4GRO
    else .notGRO
  else if byteAt b 0 >>> 4 = 6 then
    if byteAt b 6 = ipProtoTcp ∧ b.length ≥ 60 then .tcp6GRO
    else if byteAt b 6 = ipProtoUdp ∧ b.length ≥ 48 ∧ canUdpGro then .udp6GRO
    else .notGRO
  else .notGRO

structure GroState where
  bufs : List ExpandBuffer
  tcpTable : TcpGROTable
  udpTable : UdpGROTable
  toWrite : List Nat

def groDispatch (offset i : Nat) (s : GroState) (candidate : GroCandidateType) :
    Run (GroResult × GroState) := do
  let tcp := fun isV6 => do
    let (result, bufs, tcpTable) ← tcpGro s.bufs offset i s.tcpTable isV6
    pure (result, { s with bufs, tcpTable })
  let udp := fun isV6 => do
    let (result, bufs, udpTable) ← udpGro s.bufs offset i s.udpTable isV6
    pure (result, { s with bufs, udpTable })
  match candidate with
  | .tcp4GRO => tcp false
  | .tcp6GRO => tcp true
  | .udp4GRO => udp false
  | .udp6GRO => udp true
  | .notGRO => pure (.noop, s)

def groStep (host : Host) (offset : Nat) (canUdpGro : Bool) (i : Nat) (s : GroState) :
    Run (GroState × Result Unit) := do
  let buf ← index s.bufs i
  -- The offload header goes in front of the packet.
  if offset < virtioNetHdrLen ∨ offset ≥ buf.bytes.length then
    pure (s, invalidInput "invalid offset")
  else do
    let pkt ← sliceFrom buf.bytes offset
    let (result, s) ← groDispatch offset i s (packetIsGroCandidate pkt canUdpGro)
    match result with
    | .noop => do
      let buf ← index s.bufs i
      let start ← subLen offset virtioNetHdrLen
      match ← encodeAt host VirtioNetHdr.default buf start offset with
      | .error error => pure (s, .error error)
      | .ok buf => pure ({ s with bufs := s.bufs.set i buf, toWrite := s.toWrite ++ [i] }, .ok ())
    -- Accounting writes the header of a packet that is in a table.
    | .tableInsert => pure ({ s with toWrite := s.toWrite ++ [i] }, .ok ())
    | .coalesced => pure (s, .ok ())

/-- The first `n` iterations of the loop of `handle_gro`. -/
def groLoop (host : Host) (offset : Nat) (canUdpGro : Bool) :
    Nat → GroState → Run (GroState × Result Unit)
  | 0, s => pure (s, .ok ())
  | n + 1, s => do
    match ← groLoop host offset canUdpGro n s with
    | (s, .error error) => pure (s, .error error)
    | (s, .ok ()) => groStep host offset canUdpGro n s

/-- Both accounting passes run; the first error is reported. -/
def groAccounting (host : Host) (offset : Nat) (s : GroState) : Run (GroState × Result Unit) := do
  let (bufs, errTcp) ← applyTcpCoalesceAccounting host s.bufs offset s.tcpTable
  let (bufs, errUdp) ← applyUdpCoalesceAccounting host bufs offset s.udpTable
  pure ({ s with bufs }, do errTcp; errUdp)

def handleGro (host : Host) (offset : Nat) (canUdpGro : Bool) (s : GroState) :
    Run (GroState × Result Unit) :=
  if s.bufs.length > 65535 then pure (s, invalidInput "too many packet buffers")
  else do
    match ← groLoop host offset canUdpGro s.bufs.length s with
    | (s, .error error) => pure (s, .error error)
    | (s, .ok ()) => groAccounting host offset s

end QuincyTun.Linux
