import QuincyTun.Config.Address
import QuincyTun.Config.Atomicity
import QuincyTun.Config.Builder
import QuincyTun.Config.Netmask
import QuincyTun.Foundation.Bytes
import QuincyTun.Foundation.CallLog
import QuincyTun.Foundation.Decimal
import QuincyTun.Foundation.Descriptors
import QuincyTun.Foundation.FlowMap
import QuincyTun.Foundation.Grouping
import QuincyTun.Foundation.History
import QuincyTun.Foundation.IoError
import QuincyTun.Foundation.Lanes
import QuincyTun.Foundation.Machine
import QuincyTun.Foundation.OnesComplement
import QuincyTun.Foundation.OsCall
import QuincyTun.Foundation.Panic
import QuincyTun.Foundation.PrefixMask
import QuincyTun.Foundation.Related
import QuincyTun.Foundation.Retry
import QuincyTun.Foundation.Search
import QuincyTun.Foundation.Segments
import QuincyTun.Foundation.StreamOrder
import QuincyTun.Foundation.Touched
import QuincyTun.Foundation.Utf16
import QuincyTun.Freebsd.Device
import QuincyTun.Freebsd.Opening
import QuincyTun.Freebsd.Release
import QuincyTun.Linux.Accounted
import QuincyTun.Linux.Accounting
import QuincyTun.Linux.Accumulators
import QuincyTun.Linux.AddressChange
import QuincyTun.Linux.Adjacency
import QuincyTun.Linux.Batch
import QuincyTun.Linux.BatchCalls
import QuincyTun.Linux.Buffer
import QuincyTun.Linux.CallStates
import QuincyTun.Linux.Checksum
import QuincyTun.Linux.ChecksumLaws
import QuincyTun.Linux.Clears
import QuincyTun.Linux.Coalesce
import QuincyTun.Linux.Conservation
import QuincyTun.Linux.Device
import QuincyTun.Linux.Eligible
import QuincyTun.Linux.FlowKey
import QuincyTun.Linux.Frames
import QuincyTun.Linux.Gro
import QuincyTun.Linux.GroCall
import QuincyTun.Linux.GroResult
import QuincyTun.Linux.GroRun
import QuincyTun.Linux.GroSafety
import QuincyTun.Linux.GroTable
import QuincyTun.Linux.GroupLength
import QuincyTun.Linux.Gso
import QuincyTun.Linux.Interface
import QuincyTun.Linux.Joining
import QuincyTun.Linux.LengthBound
import QuincyTun.Linux.MergedFields
import QuincyTun.Linux.Metadata
import QuincyTun.Linux.Moves
import QuincyTun.Linux.Offload
import QuincyTun.Linux.Opening
import QuincyTun.Linux.PacketFields
import QuincyTun.Linux.PartialChecksum
import QuincyTun.Linux.Push
import QuincyTun.Linux.Reached
import QuincyTun.Linux.ReadChecks
import QuincyTun.Linux.ReadSafety
import QuincyTun.Linux.RejectedBatch
import QuincyTun.Linux.Restore
import QuincyTun.Linux.Reuse
import QuincyTun.Linux.RoundTrip
import QuincyTun.Linux.Segment
import QuincyTun.Linux.SegmentFrame
import QuincyTun.Linux.SegmentLoop
import QuincyTun.Linux.Segmenter
import QuincyTun.Linux.Sender
import QuincyTun.Linux.Split
import QuincyTun.Linux.Stream
import QuincyTun.Linux.SuperPacket
import QuincyTun.Linux.TcpOrder
import QuincyTun.Linux.TcpRun
import QuincyTun.Linux.TransportHeader
import QuincyTun.Linux.Tunnel
import QuincyTun.Linux.UdpJoins
import QuincyTun.Linux.UdpLength
import QuincyTun.Linux.UdpOrder
import QuincyTun.Linux.UdpRun
import QuincyTun.Linux.Virtio
import QuincyTun.Linux.VirtioRead
import QuincyTun.Linux.ZeroChecksum
import QuincyTun.Macos.Device
import QuincyTun.Macos.Routes
import QuincyTun.Macos.TunTap
import QuincyTun.Unix.DeviceName
import QuincyTun.Unix.Opening
import QuincyTun.Unix.Selection
import QuincyTun.Unix.Tun
import QuincyTun.Windows.Adapter
import QuincyTun.Windows.Addresses
import QuincyTun.Windows.Device
import QuincyTun.Windows.Draining
import QuincyTun.Windows.Driver
import QuincyTun.Windows.Interface
import QuincyTun.Windows.LifeCycle
import QuincyTun.Windows.Opening
import QuincyTun.Windows.Orphans
import QuincyTun.Windows.RecvSlot
import QuincyTun.Windows.SendLoop
import QuincyTun.Windows.SendSafety
import QuincyTun.Windows.SendSlot
import QuincyTun.Windows.Session
import QuincyTun.Windows.WideString
