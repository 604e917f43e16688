import QuincyTun.Linux.Gso

/-! Reading a packet with its offload header into separate buffers. -/

set_option autoImplicit false

namespace QuincyTun.Linux

open QuincyTun.Foundation

/-- A packet that is not segmented goes into the first buffer. -/
def readWhole (hdr : VirtioNetHdr) (s : GsoState) (offset : Nat) : Run (GsoState × Result Nat) := do
  let len := s.input.length
  let (input, completed) ←
    if hdr.flags &&& virtioNetHdrFNeedsCsum ≠ 0 then
      gsoNoneChecksum s.input hdr.csumStart hdr.csumOffset
    else pure (s.input, .ok ())
  let s := { s with input }
  match completed with
  | .error error => pure (s, .error error)
  | .ok () => do
    let buf ← index s.outBufs 0
    let room ← sliceFrom buf offset
    if room.length < len then
      let bufLen := buf.length
      pure (s, otherError s!"read len {len} overflows bufs element len {bufLen}")
    else do
      let sizes ← setIndex s.sizes 0 len
      let buf ← copyInto buf offset (offset + len) input
      pure ({ s with sizes, outBufs := s.outBufs.set 0 buf }, .ok 1)

def checkIpVersion (ipVersion gsoType : UInt8) : Result Unit :=
  if ipVersion = 4 then
    if gsoType ≠ virtioNetHdrGsoTcpv4 ∧ gsoType ≠ virtioNetHdrGsoUdpL4 then
      otherError s!"ip header version: 4, GSO type: {gsoType}"
    else .ok ()
  else if ipVersion = 6 then
    if gsoType ≠ virtioNetHdrGsoTcpv6 ∧ gsoType ≠ virtioNetHdrGsoUdpL4 then
      otherError s!"ip header version: 6, GSO type: {gsoType}"
    else .ok ()
  else otherError s!"invalid ip header version: {ipVersion}"

/-- The header length is not taken from the device but read from the packet. -/
def parsedHdrLen (hdr : VirtioNetHdr) (input : List UInt8) : Run (Result UInt16) :=
  if hdr.gsoType = virtioNetHdrGsoUdpL4 then do
    let hdrLen ← addU16 hdr.csumStart 8
    pure (.ok hdrLen)
  else if input.length ≤ hdr.csumStart.toNat + 12 then pure (otherError "packet is too short")
  else do
    let dataOffset ← getByte input (hdr.csumStart.toNat + 12)
    let tcpHLen := (dataOffset.toUInt16 >>> 4) * 4
    if tcpHLen < 20 ∨ 60 < tcpHLen then pure (otherError s!"tcp header len is invalid: {tcpHLen}")
    else do
      let hdrLen ← addU16 hdr.csumStart tcpHLen
      pure (.ok hdrLen)

/-- `handle_virtio_read`: the number of packets written to the buffers. -/
def handleVirtioRead (hdr : VirtioNetHdr) (s : GsoState) (offset : Nat) :
    Run (GsoState × Result Nat) :=
  let len := s.input.length
  if s.sizes.length < s.outBufs.length then
    pure (s, otherError "sizes must be at least as long as bufs")
  else if s.outBufs.length > 65535 then pure (s, invalidInput "too many packet buffers")
  else if s.outBufs.any (fun buf => offset > buf.length) then pure (s, invalidInput "invalid offset")
  else if hdr.gsoType = virtioNetHdrGsoNone then readWhole hdr s offset
  else if hdr.gsoSize = 0 then
    pure (s, invalidInput "virtioNetHdr.gsoSize must be non-zero")
  else if hdr.gsoType ≠ virtioNetHdrGsoTcpv4 ∧ hdr.gsoType ≠ virtioNetHdrGsoTcpv6 ∧
      hdr.gsoType ≠ virtioNetHdrGsoUdpL4 then
    let gsoType := hdr.gsoType
    pure (s, otherError s!"unsupported virtio GSO type: {gsoType}")
  else do
    let first ← getByte s.input 0
    let ipVersion := first >>> 4
    match checkIpVersion ipVersion hdr.gsoType with
    | .error error => pure (s, .error error)
    | .ok () => do
      match ← parsedHdrLen hdr s.input with
      | .error error => pure (s, .error error)
      | .ok hdrLen =>
        let csumStart := hdr.csumStart
        let csumEnd := csumStart.toNat + hdr.csumOffset.toNat + 1
        if len < hdrLen.toNat then
          pure (s, otherError s!"length of packet ({len}) < virtioNetHdr.hdr_len ({hdrLen})")
        else if hdrLen < csumStart then
          pure (s, otherError
            s!"virtioNetHdr.hdrLen ({hdrLen}) < virtioNetHdr.csumStart ({csumStart})")
        else if csumEnd ≥ len then
          pure (s, otherError
            s!"end of checksum offset ({csumEnd}) exceeds packet length ({len})")
        -- The segments are cut behind the header length that was read from the packet.
        else gsoSplit s { hdr with hdrLen } offset (ipVersion == 6)

end QuincyTun.Linux
