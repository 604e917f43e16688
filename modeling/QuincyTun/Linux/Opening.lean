import QuincyTun.Config.Builder
import QuincyTun.Foundation.Descriptors
import QuincyTun.Linux.Frames

/-! Opening a Linux device, and what its reader makes of the frames of the driver.

The driver is told once which headers precede a packet. The device remembers whether it
takes an offload header off, and the two need not agree.
-/

set_option autoImplicit false

namespace QuincyTun.Linux

open QuincyTun.Foundation QuincyTun.Config

def ifnamsiz : Nat := 16

def iffTun : BitVec 16 := 0x1

def iffNoPi : BitVec 16 := 0x1000

def iffVnetHdr : BitVec 16 := 0x4000

def tunTcpOffloads : BitVec 32 := 0x1 ||| 0x2 ||| 0x4

def tunUdpOffloads : BitVec 32 := 0x20 ||| 0x40

inductive OpenCall where
  | fsExists (path : String)
  | createDirAll (path : String)
  | mknod (path : String) (mode major minor : Nat)
  | openNode (path : String)
  | tunsetiff (fd : Int) (devName : Option String) (flags : BitVec 16)
  | tunsetoffload (fd : Int) (mask : BitVec 32)
  | close (fd : Int)
  deriving DecidableEq, Repr

structure OpenAnswers where
  fsExists : Result Bool
  createDirAll : Result Unit
  mknod : Result Unit
  /-- A descriptor that is not negative. -/
  openNode : Result Int
  tunsetiff : Int → Option String → BitVec 16 → Result Unit
  tunsetoffload : Int → BitVec 32 → Result Unit

structure OpenedDevice where
  fd : Int
  vnetHdr : Bool
  udpGso : Bool
  deriving DecidableEq, Repr

/-- `CString::new`, and the zero that it adds must fit. -/
def checkedName (tunName : String) : Result String :=
  if tunName.contains (Char.ofNat 0) then invalidInput "data provided contains a nul byte"
  else if tunName.utf8ByteSize + 1 > ifnamsiz then invalidInput "device name too long"
  else .ok tunName

/-- Errors are left for the opening of the node. -/
def createNode (answers : OpenAnswers) : OsCall (List OpenCall) Unit := do
  match ← OsCall.attempt (OsCall.logged [.fsExists "/dev/net/tun"] answers.fsExists) with
  | .ok false =>
    let _ ← OsCall.attempt (OsCall.logged [.createDirAll "/dev/net"] answers.createDirAll)
    let _ ← OsCall.attempt (OsCall.logged [.mknod "/dev/net/tun" 0o20666 10 200] answers.mknod)
  | _ => pure ()

def interfaceFlags (packetInformation offload : Bool) : BitVec 16 :=
  iffTun ||| (if packetInformation then 0 else iffNoPi) ||| (if offload then iffVnetHdr else 0)

/-- Whether the device takes an offload header off, and whether it offloads UDP. -/
def negotiate (answers : OpenAnswers) (fd : Int) (offload : Bool) :
    OsCall (List OpenCall) (Bool × Bool) := do
  let tunsetoffload (mask : BitVec 32) : OsCall (List OpenCall) (Result Unit) :=
    OsCall.attempt (OsCall.logged [.tunsetoffload fd mask] (answers.tunsetoffload fd mask))
  if offload then
    match ← tunsetoffload tunTcpOffloads with
    | .error _ => return (false, false)
    | .ok _ =>
      let rs ← tunsetoffload (tunTcpOffloads ||| tunUdpOffloads)
      return (true, rs.isOk)
  else
    -- An earlier owner of the interface may have left its offloads enabled.
    let _ ← tunsetoffload 0
    return (false, false)

def OpenedDevice.new (answers : OpenAnswers) (config : DeviceConfig) :
    OsCall (List OpenCall) OpenedDevice := do
  let devName ← OsCall.ofResult (config.devName.mapM checkedName)
  createNode answers
  let packetInformation := config.packetInformation.getD false
  let offload := config.offload.getD false
  let flags := interfaceFlags packetInformation offload
  let fd ← OsCall.logged [.openNode "/dev/net/tun"] answers.openNode
  OsCall.orElseUndo (OsCall.logged [.close fd] (.ok ()))
    (OsCall.logged [.tunsetiff fd devName flags] (answers.tunsetiff fd devName flags))
  let (vnetHdr, udpGso) ← negotiate answers fd offload
  return { fd, vnetHdr, udpGso }

/-! ## What the reader makes of a frame -/

/-- The headers and the packet, as the driver hands them over. -/
def frameOf (flags : BitVec 16) (info header packet : List UInt8) : List UInt8 :=
  (if flags &&& iffNoPi = 0 then info else []) ++
    (if flags &&& iffVnetHdr = 0 then [] else header) ++ packet

/-- The packet information of the driver: no flags, and the protocol. -/
def packetInfo (isV6 : Bool) : List UInt8 := if isV6 then [0, 0, 0x86, 0xdd] else [0, 0, 0x08, 0x00]

def wanted (packetInformation isV6 : Bool) (packet : List UInt8) : List UInt8 :=
  (if packetInformation then packetInfo isV6 else []) ++ packet

def readFrame (host : Host) (device : OpenedDevice) (frame : List UInt8) (s : RecvState)
    (offset : Nat) : Run (RecvState × Result Nat) :=
  match ((recvMultiple host device.vnetHdr (fun _ => pure frame) s offset).on ()).1 with
  | .ok ran => ran
  | .error error => pure (s, .error error)

def ReadsAs (host : Host) (device : OpenedDevice) (frame packet : List UInt8) (s : RecvState)
    (offset : Nat) : Prop :=
  ∃ s', readFrame host device frame s offset = .ok (s', .ok 1) ∧ s'.packets offset 1 = [packet]

section Reading

variable {host : Host} {device : OpenedDevice} {frame packet other head : List UInt8}
  {s : RecvState} {offset : Nat} {hdr : VirtioNetHdr}

theorem ReadsAs.unique (reads : ReadsAs host device frame packet s offset)
    (also : ReadsAs host device frame other s offset) : packet = other := by
  obtain ⟨first, ran, found⟩ := reads
  obtain ⟨second, again, same⟩ := also
  rw [ran] at again
  cases again
  exact List.singleton_inj.mp (found.symm.trans same)

theorem RecvState.RoomFor.admitted (room : s.RoomFor offset 1) :
    ¬ (s.bufs = [] ∨ s.bufs.length ≠ s.sizes.length) := by
  rintro (none | differ)
  · have count := room.count
    rw [none] at count
    cases count
  · exact differ room.sizes.symm

theorem readsAs_bare (plain : device.vnetHdr = false) (room : s.RoomFor offset 1)
    (short : frame.length ≤ 65535) : ReadsAs host device frame frame s offset := by
  obtain ⟨buf, first, enough⟩ := room.found Nat.zero_lt_one
  have slot : 0 < s.sizes.length := room.sizes ▸ room.count
  refine ⟨{ s with
    bufs := s.bufs.set 0 (overwrite buf offset frame)
    sizes := s.sizes.set 0 frame.length }, ?_, ?_⟩
  · have inside : ¬ offset > buf.length := by omega
    have filled : s.fillFirst offset frame = .ok ({ s with
        bufs := s.bufs.set 0 (overwrite buf offset frame)
        sizes := s.sizes.set 0 frame.length }, .ok 1) := by
      rw [RecvState.fillFirst, index_ok first, Run.ok_bind, setIndex_ok slot, Run.ok_bind]
      rfl
    rw [readFrame, recvMultiple, if_neg room.admitted, plain, index_ok first]
    simp only [Bool.false_eq_true, if_false, if_neg inside]
    exact filled
  · simp only [RecvState.packets, List.range_one, List.map_cons, List.map_nil, RecvState.packet,
      List.getD_eq_getElem?_getD, List.getElem?_set_self room.count, List.getElem?_set_self slot]
    exact congrArg (fun own => [own]) (window_overwrite_self _ _ _ (by omega))

/-- Otherwise the first bytes are taken for an offload header. When it asks for nothing, the rest
of the frame is the packet. -/
theorem readsAs_plain (offloads : device.vnetHdr = true) (room : s.RoomFor offset 1)
    (size : head.length = virtioNetHdrLen)
    (decoded : VirtioNetHdr.decode host.bigEndian head = .ok hdr)
    (whole : hdr.gsoType = virtioNetHdrGsoNone)
    (summed : hdr.flags &&& virtioNetHdrFNeedsCsum = 0) (nonempty : packet ≠ [])
    (short : packet.length ≤ 65535) : ReadsAs host device (head ++ packet) packet s offset := by
  obtain ⟨out, ran, stored⟩ := handleVirtioRead_plain room short whole summed
  have fits : (head ++ packet).length ≤ s.originalBuffer.length := by
    rw [List.length_append, size]
    exact (Nat.add_le_add_left short _).trans room.original
  have split := RecvState.splitRead_received (s := s) offset size decoded nonempty fits
  rw [ran] at split
  refine ⟨⟨overwrite (s.received (head ++ packet)).originalBuffer virtioNetHdrLen out.input,
    out.outBufs, out.sizes⟩, ?_, congrArg (fun own => [own]) stored⟩
  rw [readFrame, recvMultiple, if_neg room.admitted, offloads, if_pos rfl]
  exact split

end Reading

/-! ## What the device remembers -/

theorem negotiate_on (answers : OpenAnswers) (fd : Int) (offload : Bool) (log : List OpenCall) :
    ∃ udpGso after, (negotiate answers fd offload).on log =
        (.ok (offload && (answers.tunsetoffload fd tunTcpOffloads).isOk, udpGso), after) ∧
      (udpGso = true → (offload && (answers.tunsetoffload fd tunTcpOffloads).isOk) = true) ∧
      ∀ request ∈ log, request ∈ after := by
  unfold negotiate
  cases offload with
  | false => exact ⟨false, _, rfl, nofun, fun _ member => List.mem_append_left _ member⟩
  | true =>
    simp only [if_true, OsCall.on_bind, OsCall.on_attempt, OsCall.on_logged]
    cases answers.tunsetoffload fd tunTcpOffloads with
    | error error => exact ⟨false, _, rfl, nofun, fun _ member => List.mem_append_left _ member⟩
    | ok =>
      refine ⟨_, _, rfl, fun _ => rfl, fun _ member => ?_⟩
      exact List.mem_append_left _ (List.mem_append_left _ member)

/-- The device takes an offload header off if that was asked for and TCP is offloaded. The driver
was told only what was asked for. -/
theorem new_ok {answers : OpenAnswers} {config : DeviceConfig} {device : OpenedDevice}
    {log : List OpenCall} (ran : (OpenedDevice.new answers config).on [] = (.ok device, log)) :
    device.vnetHdr = (config.offload.getD false &&
        (answers.tunsetoffload device.fd tunTcpOffloads).isOk) ∧
      (device.udpGso = true → device.vnetHdr = true) ∧
      ∃ devName, .tunsetiff device.fd devName
        (interfaceFlags (config.packetInformation.getD false) (config.offload.getD false)) ∈ log := by
  unfold OpenedDevice.new at ran
  rcases OsCall.on_bind_cases ran with ⟨error, -, failed⟩ | ⟨devName, named, -, ran⟩
  · cases failed
  rcases OsCall.on_bind_cases ran with ⟨error, -, failed⟩ | ⟨_, created, -, ran⟩
  · cases failed
  rcases OsCall.on_bind_cases ran with ⟨error, -, failed⟩ | ⟨fd, opened, -, ran⟩
  · cases failed
  rcases OsCall.on_bind_cases ran with ⟨error, -, failed⟩ | ⟨_, configured, configuredRan, ran⟩
  · cases failed
  obtain ⟨udpGso, after, negotiated, implied, kept⟩ :=
    negotiate_on answers fd (config.offload.getD false) configured
  rw [OsCall.on_bind_ok negotiated] at ran
  obtain ⟨same, rfl⟩ := Prod.mk.inj ran
  obtain rfl := Except.ok.inj same
  refine ⟨rfl, implied, devName, kept _ ?_⟩
  have asked := OsCall.orElseUndo_ok configuredRan
  rw [OsCall.on_logged] at asked
  obtain ⟨-, rfl⟩ := Prod.mk.inj asked
  exact List.mem_append_right _ List.mem_cons_self

theorem isOk_iff {α : Type} {result : Result α} :
    result.isOk = true ↔ ¬ ∃ error, result = .error error := by
  cases result with
  | ok => exact iff_of_true rfl nofun
  | error error => exact iff_of_false Bool.false_ne_true fun none => none ⟨error, rfl⟩

theorem decode_zeros (bigEndian : Bool) :
    VirtioNetHdr.decode bigEndian (List.replicate virtioNetHdrLen 0) = .ok .default := by
  rw [← VirtioNetHdr.layout_default bigEndian, VirtioNetHdr.decode_layout]

/-- Packet information in front of an offload header is taken for the beginning of one. -/
theorem decode_packetInfo (bigEndian isV6 : Bool) : ∃ hdr,
    VirtioNetHdr.decode bigEndian (packetInfo isV6 ++ List.replicate 6 0) = .ok hdr ∧
      hdr.gsoType = virtioNetHdrGsoNone ∧ hdr.flags &&& virtioNetHdrFNeedsCsum = 0 := by
  have plain : (0 : UInt8) &&& virtioNetHdrFNeedsCsum = 0 := by decide
  cases isV6 <;> exact ⟨_, rfl, rfl, plain⟩

theorem frameOf_interfaceFlags (packetInformation offload : Bool) (info header packet : List UInt8) :
    frameOf (interfaceFlags packetInformation offload) info header packet =
      (if packetInformation then info else []) ++ (if offload then header else []) ++ packet := by
  cases packetInformation <;> cases offload <;> rfl

/-- The frames of the driver are read as what was asked for, except that packet information and
offload headers do not go together, and that the driver sends offload headers also when it refuses
to offload TCP. In these cases no packet is read as it is. -/
theorem new_reads {answers : OpenAnswers} {config : DeviceConfig} {device : OpenedDevice}
    {log : List OpenCall} (ran : (OpenedDevice.new answers config).on [] = (.ok device, log))
    (host : Host) (isV6 : Bool) {packet : List UInt8} (nonempty : packet ≠ [])
    (short : packet.length + 14 ≤ 65535) {s : RecvState} {offset : Nat}
    (room : s.RoomFor offset 1) :
    ∃ devName flags, .tunsetiff device.fd devName flags ∈ log ∧
      (ReadsAs host device
          (frameOf flags (packetInfo isV6) (List.replicate virtioNetHdrLen 0) packet)
          (wanted (config.packetInformation.getD false) isV6 packet) s offset ↔
        ¬ (config.offload.getD false = true ∧ (config.packetInformation.getD false = true ∨
          ∃ error, answers.tunsetoffload device.fd tunTcpOffloads = .error error))) := by
  obtain ⟨vnetHdr, -, devName, told⟩ := new_ok ran
  refine ⟨devName, _, told, ?_⟩
  have infoLength : (packetInfo isV6).length = 4 := by cases isV6 <;> rfl
  rw [frameOf_interfaceFlags]
  generalize config.packetInformation.getD false = packetInformation
  generalize config.offload.getD false = offload at vnetHdr ⊢
  have wantedShort : (wanted packetInformation isV6 packet).length ≤ packet.length + 4 := by
    rw [wanted, List.length_append]
    split
    · rw [infoLength, Nat.add_comm]
    · simp
  cases offload with
  | false =>
    refine iff_of_true ?_ nofun
    rw [if_neg Bool.false_ne_true, List.append_nil]
    have whole : (wanted packetInformation isV6 packet).length ≤ 65535 := by omega
    exact readsAs_bare vnetHdr room whole
  | true =>
    rw [if_pos rfl]
    cases accepted : (answers.tunsetoffload device.fd tunTcpOffloads).isOk with
    | false =>
      -- The header is there, and stays in front of the packet.
      rw [accepted] at vnetHdr
      have refused := mt isOk_iff.mpr (Bool.not_eq_true _ ▸ accepted)
      refine iff_of_false (fun reads => ?_) fun fine => fine ⟨rfl, .inr (not_not.mp refused)⟩
      have fits : ((if packetInformation then packetInfo isV6 else []) ++
          List.replicate virtioNetHdrLen 0 ++ packet).length ≤ 65535 := by
        rw [List.append_assoc, List.length_append, List.length_append, List.length_replicate,
          virtioNetHdrLen]
        rw [wanted, List.length_append] at wantedShort
        omega
      have lengths := congrArg List.length (reads.unique (readsAs_bare vnetHdr room fits))
      simp only [wanted, List.length_append, List.length_replicate, virtioNetHdrLen] at lengths
      omega
    | true =>
      rw [accepted] at vnetHdr
      cases packetInformation with
      | false =>
        refine iff_of_true ?_ ?_
        · exact readsAs_plain vnetHdr room List.length_replicate (decode_zeros _) rfl rfl nonempty
            (by omega)
        · rintro ⟨-, asked | refused⟩
          · cases asked
          · exact isOk_iff.mp accepted refused
      | true =>
        refine iff_of_false (fun reads => ?_) fun fine => fine ⟨rfl, .inl rfl⟩
        obtain ⟨hdr, decoded, whole, summed⟩ := decode_packetInfo host.bigEndian isV6
        have size : (packetInfo isV6 ++ List.replicate 6 (0 : UInt8)).length = virtioNetHdrLen := by
          rw [List.length_append, infoLength]
          rfl
        have fits : (List.replicate 4 0 ++ packet).length ≤ 65535 := by
          rw [List.length_append, List.length_replicate]
          omega
        have filled : List.replicate 4 (0 : UInt8) ++ packet ≠ [] := List.cons_ne_nil _ _
        have shifted := readsAs_plain vnetHdr room size decoded whole summed filled fits
        have regrouped : packetInfo isV6 ++ List.replicate 6 (0 : UInt8) ++
            (List.replicate 4 0 ++ packet) =
              packetInfo isV6 ++ List.replicate virtioNetHdrLen 0 ++ packet := by
          cases isV6 <;> rfl
        rw [regrouped] at shifted
        have same := List.append_cancel_right (reads.unique shifted)
        cases isV6 <;> simp [packetInfo, List.replicate] at same

def grantingSystem : OpenAnswers where
  fsExists := .ok true
  createDirAll := .ok ()
  mknod := .ok ()
  openNode := .ok 3
  tunsetiff _ _ _ := .ok ()
  tunsetoffload _ _ := .ok ()

theorem new_reads_offloaded : ∃ (reader : RecvState) (devName : Option String) (flags : BitVec 16),
    .tunsetiff 3 devName flags ∈
        ((OpenedDevice.new grantingSystem { offload := some true }).on []).2 ∧
      ReadsAs plainHost ⟨3, true, true⟩
        (frameOf flags (packetInfo false) (List.replicate virtioNetHdrLen 0) [0x45])
        (wanted false false [0x45]) reader 0 := by
  obtain ⟨reader, room⟩ := RecvState.exists_reader 0 1 (by decide)
  have ran : (OpenedDevice.new grantingSystem { offload := some true }).on [] =
      (.ok ⟨3, true, true⟩, _) := rfl
  have nonempty : [(0x45 : UInt8)] ≠ [] := List.cons_ne_nil _ _
  obtain ⟨devName, flags, told, reads⟩ := new_reads ran plainHost false nonempty (by decide) room
  refine ⟨reader, devName, flags, told, reads.mpr ?_⟩
  rintro ⟨-, asked | ⟨error, refused⟩⟩
  · cases asked
  · cases refused

end QuincyTun.Linux
