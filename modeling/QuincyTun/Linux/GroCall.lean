import QuincyTun.Foundation.Machine
import QuincyTun.Foundation.OsCall
import QuincyTun.Linux.Gro

/-! The calls that apply receive offload, and the table that a caller keeps for them. -/

set_option autoImplicit false

namespace QuincyTun.Linux

open QuincyTun.Foundation

def ebadfd : Nat := 77

structure GROTable where
  toWrite : List Nat
  tcpTable : TcpGROTable
  udpTable : UdpGROTable

namespace GROTable

def new : GROTable := ⟨[], FlowTable.new, FlowTable.new⟩

def reset (table : GROTable) : GROTable := ⟨[], table.tcpTable.reset, table.udpTable.reset⟩

def batch (table : GROTable) (bufs : List ExpandBuffer) : GroState :=
  ⟨bufs, table.tcpTable, table.udpTable, table.toWrite⟩

def applyGro (host : Host) (table : GROTable) (bufs : List ExpandBuffer) (offset : Nat)
    (canUdpGro : Bool) : Run (GroState × Result Unit) :=
  handleGro host offset canUdpGro (table.reset.batch bufs)

end GROTable

def GroState.table (s : GroState) : GROTable := ⟨s.toWrite, s.tcpTable, s.udpTable⟩

/-- The loop that writes the packets; the last error is reported at the end. -/
def writePackets {σ : Type} (write : List UInt8 → OsCall σ Nat) (offset : Nat) :
    List ExpandBuffer → Nat → Result Unit → OsCall σ Nat
  | [], total, err => do
    OsCall.ofResult err
    return total
  | buf :: rest, total, err =>
    if offset > buf.bytes.length then OsCall.ofResult (invalidInput "invalid offset")
    else do
      match ← OsCall.attempt (write (buf.bytes.drop offset)) with
      | .ok n => writePackets write offset rest (total + n) err
      | .error error =>
        if error.kind = .os ebadfd then OsCall.ofResult (.error error)
        else writePackets write offset rest total (.error error)

/-- `send_multiple`: the table after the call, and what remains to be written. -/
def sendMultiple {σ : Type} (host : Host) (vnetHdr udpGso : Bool)
    (write : List UInt8 → OsCall σ Nat) (table : GROTable) (bufs : List ExpandBuffer)
    (offset : Nat) : Run (GroState × OsCall σ Nat) :=
  let s := table.reset.batch bufs
  if bufs = [] then pure (s, pure 0)
  else if bufs.length > 65535 then
    pure (s, OsCall.ofResult (invalidInput "too many packet buffers"))
  else if vnetHdr then do
    match ← handleGro host offset udpGso s with
    | (s, .error error) => pure (s, OsCall.ofResult (.error error))
    | (s, .ok ()) => do
      let offset ← subLen offset virtioNetHdrLen
      let written ← s.toWrite.mapM (index s.bufs)
      pure (s, writePackets write offset written 0 (.ok ()))
  else do
    let s := { s with toWrite := List.range bufs.length }
    let written ← s.toWrite.mapM (index s.bufs)
    pure (s, writePackets write offset written 0 (.ok ()))

/-! ## Histories of a table -/

inductive TableCall where
  | applyGro (host : Host) (bufs : List ExpandBuffer) (offset : Nat) (canUdpGro : Bool)
  /-- Writing the packets does not touch the table. -/
  | sendMultiple (host : Host) (vnetHdr udpGso : Bool) (bufs : List ExpandBuffer) (offset : Nat)

def TableCall.after (table : GROTable) : TableCall → Option GROTable
  | .applyGro host bufs offset canUdpGro =>
    (table.applyGro host bufs offset canUdpGro).toOption.map fun result => result.1.table
  | .sendMultiple host vnetHdr udpGso bufs offset =>
    (Linux.sendMultiple host vnetHdr udpGso (fun _ => (pure 0 : OsCall Unit Nat)) table bufs
      offset).toOption.map fun result => result.1.table

def groTableMachine : Machine GROTable TableCall where
  start := GROTable.new
  step := TableCall.after

end QuincyTun.Linux
