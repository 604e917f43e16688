import QuincyTun.Foundation.FlowMap
import QuincyTun.Linux.Virtio

/-! The receive-offload tables: packets seen in the current batch, by flow.

The TCP and the UDP table differ in their keys and items only. Vectors of
finished flows are kept in a pool and reused for new flows.
-/

set_option autoImplicit false

namespace QuincyTun.Linux

open QuincyTun.Foundation

def idealBatchSize : Nat := 128

def tcpFlagsOffset : Nat := 13
def tcpFlagFin : UInt8 := 0x01
def tcpFlagPsh : UInt8 := 0x08
def tcpFlagAck : UInt8 := 0x10

def ipv4FlagMoreFragments : UInt8 := 0x20
def ipv4SrcAddrOffset : Nat := 12
def ipv6SrcAddrOffset : Nat := 8
def udpHLen : Nat := 8

def srcAddrOffset (isV6 : Bool) : Nat := if isV6 then ipv6SrcAddrOffset else ipv4SrcAddrOffset

def addrLen (isV6 : Bool) : Nat := if isV6 then 16 else 4

/-! ## Tables -/

/-- The shape common to both tables. -/
structure FlowTable (κ ι : Type) where
  itemsByFlow : FlowMap κ ι
  itemsPool : List (List ι)

namespace FlowTable

variable {κ ι : Type}

def new : FlowTable κ ι where
  itemsByFlow := ∅
  itemsPool := List.replicate idealBatchSize []

/-- Every vector is cleared and returned to the pool. -/
def reset (table : FlowTable κ ι) : FlowTable κ ι where
  itemsByFlow := ∅
  itemsPool := table.itemsPool ++ table.itemsByFlow.entries.map fun _ => []

def liveItems (table : FlowTable κ ι) : List ι := FlowMap.items table.itemsByFlow

/-- A table as a batch finds it: no flow is known and every pooled vector is empty. -/
structure Fresh (table : FlowTable κ ι) : Prop where
  noFlow : table.itemsByFlow = ∅
  poolEmpty : ∀ items ∈ table.itemsPool, items = []

theorem new_fresh : Fresh (new : FlowTable κ ι) where
  noFlow := rfl
  poolEmpty := fun _ member => (List.mem_replicate.mp member).2

theorem reset_fresh {table : FlowTable κ ι} (poolEmpty : ∀ items ∈ table.itemsPool, items = []) :
    Fresh table.reset where
  noFlow := rfl
  poolEmpty := by
    intro items member
    rcases List.mem_append.mp member with old | cleared
    · exact poolEmpty items old
    · simp only [List.mem_map] at cleared
      obtain ⟨_, -, same⟩ := cleared
      exact same.symm

variable [DecidableEq κ]

/-- `items_by_flow.entry(key).or_insert_with(|| pool.pop().unwrap_or_default())`, then a push. -/
def push (table : FlowTable κ ι) (key : κ) (item : ι) : FlowTable κ ι :=
  match table.itemsByFlow.lookup key with
  | some items => { table with itemsByFlow := table.itemsByFlow.insert key (items ++ [item]) }
  | none => {
      itemsByFlow := table.itemsByFlow.insert key (table.itemsPool.getLast?.getD [] ++ [item])
      itemsPool := table.itemsPool.dropLast }

/-- What remains in the table after the vector of a flow was changed through its reference. -/
def store (table : FlowTable κ ι) (key : κ) (items : List ι) : FlowTable κ ι :=
  { table with itemsByFlow := table.itemsByFlow.insert key items }

end FlowTable

/-! ## TCP flows -/

/-- Packets with different acknowledgement numbers belong to different flows. -/
structure TcpFlowKey where
  srcAddr : List UInt8
  dstAddr : List UInt8
  srcPort : UInt16
  dstPort : UInt16
  rxAck : UInt32
  isV6 : Bool
  deriving DecidableEq, Repr

/-- An address field of a flow key: sixteen bytes, of which the address fills the first. -/
def keyAddress (pkt : List UInt8) (start size : Nat) : Run (List UInt8) := do
  let address ← slice pkt start (start + size)
  copyInto (List.replicate 16 0) 0 size address

def TcpFlowKey.new (pkt : List UInt8) (srcAddrOffset dstAddrOffset tcphOffset : Nat) :
    Run TcpFlowKey := do
  let addrSize ← subLen dstAddrOffset srcAddrOffset
  let srcAddr ← keyAddress pkt srcAddrOffset addrSize
  let dstAddr ← keyAddress pkt dstAddrOffset addrSize
  let srcPort ← readU16 pkt tcphOffset
  let dstPort ← readU16 pkt (tcphOffset + 2)
  let rxAck ← readU32 pkt (tcphOffset + 8)
  pure { srcAddr, dstAddr, srcPort, dstPort, rxAck, isV6 := addrSize == 16 }

structure TcpGROItem where
  key : TcpFlowKey
  sentSeq : UInt32
  bufsIndex : UInt16
  numMerged : UInt16
  gsoSize : UInt16
  iphLen : UInt8
  tcphLen : UInt8
  pshSet : Bool
  deriving DecidableEq, Repr

abbrev TcpGROTable := FlowTable TcpFlowKey TcpGROItem

def TcpGROTable.insert (table : TcpGROTable) (pkt : List UInt8)
    (srcAddrOffset dstAddrOffset tcphOffset tcphLen bufsIndex : Nat) : Run TcpGROTable := do
  let key ← TcpFlowKey.new pkt srcAddrOffset dstAddrOffset tcphOffset
  let bufsIndex ← expectU16 bufsIndex "bufs_index exceeds u16::MAX"
  let payload ← sliceFrom pkt (tcphOffset + tcphLen)
  let gsoSize ← expectU16 payload.length "gso_size exceeds u16::MAX"
  let iphLen ← expectU8 tcphOffset "iph_len exceeds u8::MAX"
  let tcphLen ← expectU8 tcphLen "tcph_len exceeds u8::MAX"
  let sentSeq ← readU32 pkt (tcphOffset + 4)
  let flags ← getByte pkt (tcphOffset + tcpFlagsOffset)
  pure (table.push key {
    key, bufsIndex, numMerged := 0, gsoSize, iphLen, tcphLen, sentSeq
    pshSet := flags &&& tcpFlagPsh != 0 })

def TcpGROTable.lookupOrInsert (table : TcpGROTable) (pkt : List UInt8)
    (srcAddrOffset dstAddrOffset tcphOffset tcphLen bufsIndex : Nat) :
    Run (Option (TcpFlowKey × List TcpGROItem) × TcpGROTable) := do
  let key ← TcpFlowKey.new pkt srcAddrOffset dstAddrOffset tcphOffset
  match table.itemsByFlow.lookup key with
  | some items => pure (some (key, items), table)
  | none => do
    let table ← table.insert pkt srcAddrOffset dstAddrOffset tcphOffset tcphLen bufsIndex
    pure (none, table)

/-! ## UDP flows -/

structure UdpFlowKey where
  srcAddr : List UInt8
  dstAddr : List UInt8
  srcPort : UInt16
  dstPort : UInt16
  isV6 : Bool
  deriving DecidableEq, Repr

def UdpFlowKey.new (pkt : List UInt8) (srcAddrOffset dstAddrOffset udphOffset : Nat) :
    Run UdpFlowKey := do
  let addrSize ← subLen dstAddrOffset srcAddrOffset
  let srcAddr ← keyAddress pkt srcAddrOffset addrSize
  let dstAddr ← keyAddress pkt dstAddrOffset addrSize
  let srcPort ← readU16 pkt udphOffset
  let dstPort ← readU16 pkt (udphOffset + 2)
  pure { srcAddr, dstAddr, srcPort, dstPort, isV6 := addrSize == 16 }

structure UdpGROItem where
  key : UdpFlowKey
  bufsIndex : UInt16
  numMerged : UInt16
  gsoSize : UInt16
  iphLen : UInt8
  /-- Set when the checksum was found wrong; otherwise nothing is known about it. -/
  cSumKnownInvalid : Bool
  deriving DecidableEq, Repr

abbrev UdpGROTable := FlowTable UdpFlowKey UdpGROItem

def UdpGROTable.insert (table : UdpGROTable) (pkt : List UInt8)
    (srcAddrOffset dstAddrOffset udphOffset bufsIndex : Nat) (cSumKnownInvalid : Bool) :
    Run UdpGROTable := do
  let key ← UdpFlowKey.new pkt srcAddrOffset dstAddrOffset udphOffset
  let bufsIndex ← expectU16 bufsIndex "bufs_index exceeds u16::MAX"
  let payloadLen ← subLen pkt.length (udphOffset + udpHLen)
  let gsoSize ← expectU16 payloadLen "gso_size exceeds u16::MAX"
  let iphLen ← expectU8 udphOffset "iph_len exceeds u8::MAX"
  pure (table.push key { key, bufsIndex, numMerged := 0, gsoSize, iphLen, cSumKnownInvalid })

def UdpGROTable.lookupOrInsert (table : UdpGROTable) (pkt : List UInt8)
    (srcAddrOffset dstAddrOffset udphOffset bufsIndex : Nat) :
    Run (Option (UdpFlowKey × List UdpGROItem) × UdpGROTable) := do
  let key ← UdpFlowKey.new pkt srcAddrOffset dstAddrOffset udphOffset
  match table.itemsByFlow.lookup key with
  | some items => pure (some (key, items), table)
  | none => do
    let table ← table.insert pkt srcAddrOffset dstAddrOffset udphOffset bufsIndex false
    pure (none, table)

end QuincyTun.Linux
