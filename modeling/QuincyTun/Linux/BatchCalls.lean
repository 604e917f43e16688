import QuincyTun.Linux.GroSafety
import QuincyTun.Linux.VirtioRead

/-! The calls for several packets, of a device and of its asynchronous wrapper.

The wrapper repeats the code of the device and waits where a call would block. What
the kernel answers to a read or a write is a parameter.
-/

set_option autoImplicit false

namespace QuincyTun.Linux

open QuincyTun.Foundation

variable {σ : Type}

/-! ## Waiting -/

structure Reactor (σ : Type) where
  /-- `async_io` of the descriptor -/
  asyncIo : {α : Type} → OsCall σ α → OsCall σ α

def WouldBlock {α : Type} (result : Result α) : Prop :=
  ∃ error, result = .error error ∧ error.kind = .wouldBlock

/-- A call that does not block is made once. -/
structure Reactor.Waits (reactor : Reactor σ) : Prop where
  once : ∀ {α : Type} (call : OsCall σ α) (s : σ), ¬ WouldBlock (call.on s).1 →
    (reactor.asyncIo call).on s = call.on s

theorem Reactor.Waits.asyncIo_eq {reactor : Reactor σ} (waits : reactor.Waits) {α : Type}
    {call : OsCall σ α} (ready : ∀ s, ¬ WouldBlock (call.on s).1) :
    reactor.asyncIo call = call := by
  apply OsCall.ext
  intro s
  exact waits.once call s (ready s)

/-! ## Receiving -/

structure RecvState where
  originalBuffer : List UInt8
  bufs : List (List UInt8)
  sizes : List Nat

/-- What becomes of a packet that was read into the original buffer. -/
def RecvState.splitRead (host : Host) (s : RecvState) (len offset : Nat) :
    Run (RecvState × Result Nat) :=
  if len ≤ virtioNetHdrLen then
    pure (s, otherError
      s!"length of packet ({len}) <= VIRTIO_NET_HDR_LEN ({virtioNetHdrLen})")
  else do
    let head ← slice s.originalBuffer 0 virtioNetHdrLen
    match VirtioNetHdr.decode host.bigEndian head with
    | .error error => pure (s, .error error)
    | .ok hdr => do
      let input ← slice s.originalBuffer virtioNetHdrLen len
      let (split, result) ← handleVirtioRead hdr ⟨input, s.bufs, s.sizes⟩ offset
      let originalBuffer := overwrite s.originalBuffer virtioNetHdrLen split.input
      pure (⟨originalBuffer, split.outBufs, split.sizes⟩, result)

def RecvState.fillFirst (s : RecvState) (offset : Nat) (packet : List UInt8) :
    Run (RecvState × Result Nat) := do
  let buf ← index s.bufs 0
  let sizes ← setIndex s.sizes 0 packet.length
  pure ({ s with bufs := s.bufs.set 0 (overwrite buf offset packet), sizes }, .ok 1)

/-- `recv_multiple0`, which `recv_multiple` calls with the descriptor of the device. -/
def recvMultiple (host : Host) (vnetHdr : Bool) (read : Nat → OsCall σ (List UInt8))
    (s : RecvState) (offset : Nat) : OsCall σ (Run (RecvState × Result Nat)) :=
  if s.bufs = [] ∨ s.bufs.length ≠ s.sizes.length then
    return .ok (s, otherError "bufs error")
  else if vnetHdr then do
    match ← OsCall.attempt (read s.originalBuffer.length) with
    | .error error => return .ok (s, .error error)
    | .ok packet =>
      let s := { s with originalBuffer := overwrite s.originalBuffer 0 packet }
      return s.splitRead host packet.length offset
  else
    match index s.bufs 0 with
    | .error panic => return .error panic
    | .ok buf =>
      if offset > buf.length then return .ok (s, invalidInput "invalid offset")
      else do
        match ← OsCall.attempt (read (buf.length - offset)) with
        | .error error => return .ok (s, .error error)
        | .ok packet => return s.fillFirst offset packet

namespace AsyncDevice

def recv (reactor : Reactor σ) (read : Nat → OsCall σ (List UInt8)) (size : Nat) :
    OsCall σ (List UInt8) :=
  reactor.asyncIo (read size)

def send (reactor : Reactor σ) (write : List UInt8 → OsCall σ Nat) (packet : List UInt8) :
    OsCall σ Nat :=
  reactor.asyncIo (write packet)

def recvMultiple (reactor : Reactor σ) (host : Host) (vnetHdr : Bool)
    (read : Nat → OsCall σ (List UInt8)) (s : RecvState) (offset : Nat) :
    OsCall σ (Run (RecvState × Result Nat)) :=
  if s.bufs = [] ∨ s.bufs.length ≠ s.sizes.length then
    return .ok (s, otherError "bufs error")
  -- The device has no such check in front of its reads.
  else if s.bufs.length > 65535 then
    return .ok (s, invalidInput "too many packet buffers")
  else if vnetHdr then do
    match ← OsCall.attempt (recv reactor read s.originalBuffer.length) with
    | .error error => return .ok (s, .error error)
    | .ok packet =>
      let s := { s with originalBuffer := overwrite s.originalBuffer 0 packet }
      return s.splitRead host packet.length offset
  else
    match index s.bufs 0 with
    | .error panic => return .error panic
    | .ok buf =>
      if offset > buf.length then return .ok (s, invalidInput "invalid offset")
      else do
        match ← OsCall.attempt (recv reactor read (buf.length - offset)) with
        | .error error => return .ok (s, .error error)
        | .ok packet => return s.fillFirst offset packet

def writePackets (reactor : Reactor σ) (write : List UInt8 → OsCall σ Nat) (offset : Nat) :
    List ExpandBuffer → Nat → Result Unit → OsCall σ Nat
  | [], total, err => do
    OsCall.ofResult err
    return total
  | buf :: rest, total, err =>
    if offset > buf.bytes.length then OsCall.ofResult (invalidInput "invalid offset")
    else do
      match ← OsCall.attempt (send reactor write (buf.bytes.drop offset)) with
      | .ok n => writePackets reactor write offset rest (total + n) err
      | .error error =>
        if error.kind = .os ebadfd then OsCall.ofResult (.error error)
        else writePackets reactor write offset rest total (.error error)

def sendMultiple (reactor : Reactor σ) (host : Host) (vnetHdr udpGso : Bool)
    (write : List UInt8 → OsCall σ Nat) (table : GROTable) (bufs : List ExpandBuffer)
    (offset : Nat) : Run (GroState × OsCall σ Nat) :=
  let s := table.reset.batch bufs
  if bufs = [] then pure (s, pure 0)
  else if bufs.length > 65535 then
    pure (s, OsCall.ofResult (invalidInput "too many packet buffers"))
  else if vnetHdr then do
    match ← handleGro host offset udpGso s with
    | (s, .error error) => pure (s, OsCall.ofResult (.error error))
    | (s, .ok ()) => do
      let offset ← subLen offset virtioNetHdrLen
      let written ← s.toWrite.mapM (index s.bufs)
      pure (s, writePackets reactor write offset written 0 (.ok ()))
  else do
    let s := { s with toWrite := List.range bufs.length }
    let written ← s.toWrite.mapM (index s.bufs)
    pure (s, writePackets reactor write offset written 0 (.ok ()))

end AsyncDevice

/-! ## Both do the same -/

section Same

variable {reactor : Reactor σ} {read : Nat → OsCall σ (List UInt8)}
  {write : List UInt8 → OsCall σ Nat}

theorem AsyncDevice.recvMultiple_eq (waits : reactor.Waits)
    (ready : ∀ size s, ¬ WouldBlock ((read size).on s).1) (host : Host) (vnetHdr : Bool)
    {s : RecvState} (few : s.bufs.length ≤ 65535) (offset : Nat) :
    AsyncDevice.recvMultiple reactor host vnetHdr read s offset =
      Linux.recvMultiple host vnetHdr read s offset := by
  have recv : ∀ size, AsyncDevice.recv reactor read size = read size := fun size =>
    waits.asyncIo_eq (ready size)
  unfold AsyncDevice.recvMultiple Linux.recvMultiple
  simp only [recv, if_neg (Nat.not_lt.mpr few)]

theorem AsyncDevice.writePackets_eq (waits : reactor.Waits)
    (ready : ∀ packet s, ¬ WouldBlock ((write packet).on s).1) (offset : Nat)
    (bufs : List ExpandBuffer) (total : Nat) (err : Result Unit) :
    AsyncDevice.writePackets reactor write offset bufs total err =
      Linux.writePackets write offset bufs total err := by
  induction bufs generalizing total err with
  | nil => rfl
  | cons buf rest ih =>
    have send : AsyncDevice.send reactor write (buf.bytes.drop offset) =
        write (buf.bytes.drop offset) := waits.asyncIo_eq (ready _)
    unfold AsyncDevice.writePackets Linux.writePackets
    rw [send]
    split
    · rfl
    · refine bind_congr fun outcome => ?_
      cases outcome with
      | ok n => exact ih ..
      | error error =>
        dsimp only
        split
        · rfl
        · exact ih ..

theorem AsyncDevice.sendMultiple_eq (waits : reactor.Waits)
    (ready : ∀ packet s, ¬ WouldBlock ((write packet).on s).1) (host : Host)
    (vnetHdr udpGso : Bool) (table : GROTable) (bufs : List ExpandBuffer) (offset : Nat) :
    AsyncDevice.sendMultiple reactor host vnetHdr udpGso write table bufs offset =
      Linux.sendMultiple host vnetHdr udpGso write table bufs offset := by
  have written := AsyncDevice.writePackets_eq waits ready
  unfold AsyncDevice.sendMultiple Linux.sendMultiple
  dsimp only
  split
  · rfl
  split
  · rfl
  split
  · refine bind_congr fun joined => ?_
    obtain ⟨after, outcome⟩ := joined
    cases outcome with
    | error error => rfl
    | ok done => simp only [written]
  · simp only [written]

end Same

/-! ## What is offered to the kernel -/

section Offers

variable {write : List UInt8 → OsCall σ Nat} {offset : Nat}

/-- How the loop ends that writes some buffers, with what it wrote and returned. -/
inductive Offered (offset : Nat) (bufs : List ExpandBuffer)
    (record : List (List UInt8 × Result Nat)) (outcome : Result Nat) : Prop
  /-- Every packet was written once, in order. -/
  | every (packets : record.map Prod.fst = bufs.map fun buf => buf.bytes.drop offset)
  /-- The last write found the descriptor in a bad state. -/
  | fatal {error : IoError}
      (packets : record.map Prod.fst <+: bufs.map fun buf => buf.bytes.drop offset)
      (last : record.getLast?.map Prod.snd = some (.error error))
      (kind : error.kind = .os ebadfd) (reported : outcome = .error error)
  /-- The next buffer ends before the offset. -/
  | outside {buf : ExpandBuffer}
      (packets : record.map Prod.fst <+: bufs.map fun buf => buf.bytes.drop offset)
      (next : bufs[record.length]? = some buf) (behind : offset > buf.bytes.length)
      (reported : outcome = invalidInput "invalid offset")

theorem Offered.cons {bufs : List ExpandBuffer} {record : List (List UInt8 × Result Nat)}
    {outcome : Result Nat} (offered : Offered offset bufs record outcome) (buf : ExpandBuffer)
    (answer : Result Nat) :
    Offered offset (buf :: bufs) ((buf.bytes.drop offset, answer) :: record) outcome := by
  cases offered with
  | every packets => exact .every (by rw [List.map_cons, List.map_cons, packets])
  | fatal packets last kind reported =>
    refine .fatal (List.cons_prefix_cons.mpr ⟨rfl, packets⟩) ?_ kind reported
    cases record with
    | nil => cases last
    | cons entry record => exact last
  | outside packets next behind reported =>
    exact .outside (List.cons_prefix_cons.mpr ⟨rfl, packets⟩) next behind reported

theorem writePackets_offers (write : List UInt8 → OsCall σ Nat) (bufs : List ExpandBuffer)
    (total : Nat) (err : Result Unit) (s : σ) (log : List (List UInt8 × Result Nat)) :
    ∃ outcome after record,
      (writePackets (OsCall.recorded write) offset bufs total err).on (s, log) =
        (outcome, after, log ++ record) ∧ Offered offset bufs record outcome := by
  -- The log is carried along, so that each call extends what was offered before it.
  induction bufs generalizing total err s log with
  | nil =>
    cases err with
    | ok _ => exact ⟨.ok total, s, [], by rw [List.append_nil]; rfl, .every rfl⟩
    | error error => exact ⟨.error error, s, [], by rw [List.append_nil]; rfl, .every rfl⟩
  | cons buf rest ih =>
    rw [writePackets]
    split
    case isTrue behind =>
      refine ⟨_, s, [], by rw [List.append_nil]; rfl, ?_⟩
      exact .outside (List.nil_prefix ..) rfl behind rfl
    case isFalse inside =>
      rw [OsCall.on_bind, OsCall.on_attempt, OsCall.on_recorded]
      generalize (write (buf.bytes.drop offset)).on s = call
      obtain ⟨answer, between⟩ := call
      dsimp only
      cases answer with
      | ok n =>
        obtain ⟨outcome, after, record, ran, offered⟩ := ih (total + n) err between
          (log ++ [(buf.bytes.drop offset, .ok n)])
        exact ⟨outcome, after, _, by rw [ran, List.append_assoc]; rfl, offered.cons buf _⟩
      | error error =>
        dsimp only
        split
        case isTrue kind =>
          refine ⟨_, between, [(buf.bytes.drop offset, .error error)], rfl, ?_⟩
          exact .fatal (List.cons_prefix_cons.mpr ⟨rfl, List.nil_prefix ..⟩) rfl kind rfl
        case isFalse going =>
          obtain ⟨outcome, after, record, ran, offered⟩ := ih total (.error error) between
            (log ++ [(buf.bytes.drop offset, .error error)])
          exact ⟨outcome, after, _, by rw [ran, List.append_assoc]; rfl, offered.cons buf _⟩

theorem mapM_index {bufs written : List ExpandBuffer} {indices : List Nat}
    (found : indices.mapM (index bufs) = .ok written) :
    (∀ offset, written.map (fun buf => buf.bytes.drop offset) =
      indices.map (packetAt offset bufs)) ∧
    ∀ (i : Nat) (buf : ExpandBuffer), written[i]? = some buf →
      ∃ k, indices[i]? = some k ∧ bufs[k]? = some buf := by
  induction indices generalizing written with
  | nil =>
    obtain rfl := Except.ok.inj found
    simp
  | cons k rest ih =>
    rw [List.mapM_cons] at found
    obtain ⟨buf, here, found⟩ := Run.bind_eq_ok.mp found
    obtain ⟨others, behind, found⟩ := Run.bind_eq_ok.mp found
    obtain rfl := Except.ok.inj found
    obtain ⟨packets, indexed⟩ := ih behind
    have own := index_eq_ok.mp here
    refine ⟨fun offset => ?_, fun i other => ?_⟩
    · rw [List.map_cons, List.map_cons, packets, packetAt_of_getElem? own]
    · cases i with
      | zero =>
        intro first
        exact ⟨k, rfl, own.trans first⟩
      | succ i => exact indexed i other

theorem Returns.offset_le {host : Host} {canUdpGro : Bool} {s final s' : GroState}
    (ret : Returns host offset canUdpGro s final s') {k : Nat} {buf : ExpandBuffer}
    (emitted : k ∈ s'.toWrite) (here : s'.bufs[k]? = some buf) : offset ≤ buf.bytes.length := by
  by_cases merged : MergedAt s' k
  · rcases merged with ⟨item, live, rfl, positive⟩ | ⟨item, live, rfl, positive⟩
    · rw [ret.completed.tcpTable] at live
      obtain ⟨was, is, found, found', accounts⟩ :=
        ret.tcp_accounts live (UInt16.pos_iff_ne_zero.mp positive)
      obtain rfl := Option.some.inj (found'.symm.trans here)
      exact (accounts.framed le_rfl).size ▸ accounts.fits
    · rw [ret.completed.udpTable] at live
      obtain ⟨was, is, found, found', accounts⟩ :=
        ret.udp_accounts live (UInt16.pos_iff_ne_zero.mp positive)
      obtain rfl := Option.some.inj (found'.symm.trans here)
      exact (accounts.framed le_rfl).size ▸ accounts.fits
  · obtain ⟨own, found, found'⟩ := ret.alone emitted merged
    obtain rfl := Option.some.inj (found'.symm.trans here)
    have small := (List.getElem?_eq_some_iff.mp found).1
    rw [cleared, ExpandBuffer.bytes_overwritten, length_overwrite]
    exact (ret.valid.room k own small found).2.le

def writeOffset (vnetHdr : Bool) (offset : Nat) : Nat :=
  if vnetHdr then offset - virtioNetHdrLen else offset

/-- What `send_multiple` offered to the kernel, and what it returned. -/
inductive Sent (host : Host) (vnetHdr udpGso : Bool) (table : GROTable) (bufs : List ExpandBuffer)
    (offset : Nat) (s' : GroState) (record : List (List UInt8 × Result Nat))
    (outcome : Result Nat) : Prop
  /-- The batch was refused before anything was written. -/
  | refused {error : IoError}
      (cause : bufs.length > 65535 ∨ vnetHdr = true ∧
        table.applyGro host bufs offset udpGso = .ok (s', .error error))
      (nothing : record = []) (reported : outcome = .error error)
  /-- Every index was offered once, in order. -/
  | every (packets : record.map Prod.fst =
      s'.toWrite.map (packetAt (writeOffset vnetHdr offset) s'.bufs))
  /-- The last write found the descriptor in a bad state. -/
  | fatal {error : IoError}
      (packets : record.map Prod.fst <+:
        s'.toWrite.map (packetAt (writeOffset vnetHdr offset) s'.bufs))
      (last : record.getLast?.map Prod.snd = some (.error error))
      (kind : error.kind = .os ebadfd) (reported : outcome = .error error)
  /-- Without offload headers nobody checked that the buffers reach to the offset. -/
  | outside {k : Nat} {buf : ExpandBuffer} (plain : vnetHdr = false)
      (packets : record.map Prod.fst <+:
        s'.toWrite.map (packetAt (writeOffset vnetHdr offset) s'.bufs))
      (next : s'.toWrite[record.length]? = some k) (here : s'.bufs[k]? = some buf)
      (behind : offset > buf.bytes.length) (reported : outcome = invalidInput "invalid offset")

section Send

variable {host : Host} {vnetHdr udpGso : Bool} {table : GROTable} {bufs : List ExpandBuffer}
  {s' : GroState}

theorem Offered.sent {written : List ExpandBuffer} {record : List (List UInt8 × Result Nat)}
    {outcome : Result Nat}
    (found : s'.toWrite.mapM (index s'.bufs) = .ok written)
    (offered : Offered (writeOffset vnetHdr offset) written record outcome)
    (reaches : vnetHdr = true → ∀ k ∈ s'.toWrite, ∀ buf, s'.bufs[k]? = some buf →
      offset ≤ buf.bytes.length) :
    Sent host vnetHdr udpGso table bufs offset s' record outcome := by
  obtain ⟨packets, indexed⟩ := mapM_index found
  cases offered with
  | every each => exact .every (each.trans (packets _))
  | fatal each last kind reported => exact .fatal (packets _ ▸ each) last kind reported
  | outside each next behind reported =>
    obtain ⟨k, listed, here⟩ := indexed _ _ next
    cases vnetHdr with
    | false => exact .outside rfl (packets _ ▸ each) listed here behind reported
    | true =>
      have long := reaches rfl k (List.mem_of_getElem? listed) _ here
      exact absurd behind (Nat.not_lt.mpr ((Nat.sub_le _ _).trans long))

theorem sendMultiple_sent {rest : OsCall (σ × List (List UInt8 × Result Nat)) Nat}
    (reached : groTableMachine.Reachable table)
    (ran : sendMultiple host vnetHdr udpGso (OsCall.recorded write) table bufs offset =
      .ok (s', rest)) (s : σ) :
    ∃ outcome after record, rest.on (s, []) = (outcome, after, record) ∧
      Sent host vnetHdr udpGso table bufs offset s' record outcome := by
  have fresh := (reachable_poolsEmpty reached).fresh bufs
  unfold sendMultiple at ran
  dsimp only at ran
  split at ran
  case isTrue none =>
    obtain ⟨rfl, rfl⟩ := Prod.mk.inj (Except.ok.inj ran)
    exact ⟨.ok 0, s, [], rfl, .every rfl⟩
  case isFalse some =>
  split at ran
  case isTrue many =>
    obtain ⟨rfl, rfl⟩ := Prod.mk.inj (Except.ok.inj ran)
    exact ⟨_, s, [], rfl, .refused (.inl many) rfl rfl⟩
  case isFalse few =>
  cases vnetHdr with
  | true =>
    rw [if_pos rfl] at ran
    obtain ⟨⟨final, ended⟩, called, ran⟩ := Run.bind_eq_ok.mp ran
    cases ended with
    | error error =>
      obtain ⟨rfl, rfl⟩ := Prod.mk.inj (Except.ok.inj ran)
      exact ⟨_, s, [], rfl, .refused (.inr ⟨rfl, called⟩) rfl rfl⟩
    | ok _ =>
      obtain ⟨start, front, ran⟩ := Run.bind_eq_ok.mp ran
      obtain ⟨written, found, ran⟩ := Run.bind_eq_ok.mp ran
      obtain ⟨rfl, rfl⟩ := Prod.mk.inj (Except.ok.inj ran)
      obtain ⟨loop, -, ret⟩ := handleGro_returns fresh called
      obtain ⟨outcome, after, record, wrote, offered⟩ :=
        writePackets_offers write written 0 (.ok ()) s []
      obtain ⟨-, rfl⟩ := subLen_eq_ok.mp front
      exact ⟨outcome, after, record, wrote, Offered.sent found offered fun _ k emitted buf here =>
        ret.offset_le emitted here⟩
  -- Without offload headers every packet is offered, in order and from `offset` on.
  | false =>
    obtain ⟨written, found, ran⟩ := Run.bind_eq_ok.mp ran
    obtain ⟨rfl, rfl⟩ := Prod.mk.inj (Except.ok.inj ran)
    obtain ⟨outcome, after, record, wrote, offered⟩ :=
      writePackets_offers write written 0 (.ok ()) s []
    exact ⟨outcome, after, record, wrote, Offered.sent found offered nofun⟩

end Send

end Offers

/-- The wrapper does what the device does, and every accepted packet is offered once. -/
theorem batchCalls_same {reactor : Reactor σ} {read : Nat → OsCall σ (List UInt8)}
    {write : List UInt8 → OsCall σ Nat} (waits : reactor.Waits)
    (readReady : ∀ size s, ¬ WouldBlock ((read size).on s).1)
    (writeReady : ∀ packet s, ¬ WouldBlock ((write packet).on s).1) :
    (∀ host vnetHdr (s : RecvState) offset, s.bufs.length ≤ 65535 →
      AsyncDevice.recvMultiple reactor host vnetHdr read s offset =
        recvMultiple host vnetHdr read s offset) ∧
    (∀ host vnetHdr udpGso table bufs offset,
      AsyncDevice.sendMultiple reactor host vnetHdr udpGso write table bufs offset =
        sendMultiple host vnetHdr udpGso write table bufs offset) ∧
    ∀ host vnetHdr udpGso table bufs offset s' rest s, groTableMachine.Reachable table →
      sendMultiple host vnetHdr udpGso (OsCall.recorded write) table bufs offset =
        .ok (s', rest) →
      ∃ outcome after record, rest.on (s, []) = (outcome, after, record) ∧
        Sent host vnetHdr udpGso table bufs offset s' record outcome :=
  ⟨fun host vnetHdr _ offset few => AsyncDevice.recvMultiple_eq waits readReady host vnetHdr few offset,
    AsyncDevice.sendMultiple_eq waits writeReady,
    fun _ _ _ _ _ _ _ _ s reached ran => sendMultiple_sent reached ran s⟩

/-! ## A kernel that counts the calls it answered -/

def countingRead (size : Nat) : OsCall Nat (List UInt8) :=
  ExceptT.mk fun calls => (.ok (List.replicate size 0), calls + 1)

def countingWrite (packet : List UInt8) : OsCall Nat Nat :=
  ExceptT.mk fun calls => (.ok packet.length, calls + 1)

def readyReactor : Reactor Nat := ⟨id⟩

theorem batchCalls_same_counting :
    (AsyncDevice.recvMultiple readyReactor plainHost false countingRead ⟨[], [[1, 2, 3]], [0]⟩ 1 =
      recvMultiple plainHost false countingRead ⟨[], [[1, 2, 3]], [0]⟩ 1) ∧
    (AsyncDevice.sendMultiple readyReactor plainHost true true countingWrite GROTable.new
        (batchOf 200 twoDatagrams).bufs 10 =
      sendMultiple plainHost true true countingWrite GROTable.new
        (batchOf 200 twoDatagrams).bufs 10) ∧
    ∃ s' rest outcome after record,
      sendMultiple plainHost false true (OsCall.recorded countingWrite) GROTable.new
        (batchOf 200 twoDatagrams).bufs 10 = .ok (s', rest) ∧
      rest.on (0, []) = (outcome, after, record) ∧
      Sent plainHost false true GROTable.new (batchOf 200 twoDatagrams).bufs 10 s' record
        outcome := by
  have same := @batchCalls_same _ readyReactor countingRead countingWrite ⟨fun _ _ _ => rfl⟩
    (fun _ _ => nofun) (fun _ _ => nofun)
  obtain ⟨outcome, after, record, ran, sent⟩ := same.2.2 plainHost false true GROTable.new
    (batchOf 200 twoDatagrams).bufs 10 _ _ 0 .start rfl
  exact ⟨same.1 plainHost false ⟨[], [[1, 2, 3]], [0]⟩ 1 (by decide), same.2.1 .., _, _, outcome,
    after, record, rfl, ran, sent⟩

/-- A packet that ends before the offset is not offered, and only the wrapper refuses 65536
buffers before it reads. -/
theorem batchCalls_differ :
    (∃ s' rest, sendMultiple plainHost false true (OsCall.recorded countingWrite) GROTable.new
        [bufferOf 200 []] 11 = .ok (s', rest) ∧
      s'.toWrite = [0] ∧ rest.on (0, []) = (invalidInput "invalid offset", 0, [])) ∧
    ∃ s : RecvState,
      (AsyncDevice.recvMultiple readyReactor plainHost false countingRead s 0).on 0 =
        (.ok (.ok (s, invalidInput "too many packet buffers")), 0) ∧
      ((recvMultiple plainHost false countingRead s 0).on 0).2 = 1 := by
  have many : ∀ n > 65535, ∃ s : RecvState,
      (AsyncDevice.recvMultiple readyReactor plainHost false countingRead s 0).on 0 =
        (.ok (.ok (s, invalidInput "too many packet buffers")), 0) ∧
      ((recvMultiple plainHost false countingRead s 0).on 0).2 = 1 := by
    intro n large
    obtain ⟨n, rfl⟩ := Nat.exists_eq_succ_of_ne_zero (Nat.ne_zero_of_lt large)
    have guard : ¬(List.replicate (n + 1) [(0 : UInt8)] = [] ∨
        (List.replicate (n + 1) [(0 : UInt8)]).length ≠ (List.replicate (n + 1) 0).length) := by
      simp
    have listed : (List.replicate (n + 1) [(0 : UInt8)]).length > 65535 := by
      rw [List.length_replicate]
      exact large
    refine ⟨⟨[], List.replicate (n + 1) [0], List.replicate (n + 1) 0⟩, ?_, ?_⟩
    · rw [AsyncDevice.recvMultiple, if_neg guard, if_pos listed]
      rfl
    · rw [recvMultiple, if_neg guard]
      rfl
  exact ⟨⟨_, _, rfl, rfl, rfl⟩, many 65536 (by decide)⟩

end QuincyTun.Linux
