import QuincyTun.Foundation.Descriptors
import QuincyTun.Freebsd.Opening
import QuincyTun.Linux.Opening
import QuincyTun.Macos.TunTap

/-! The descriptors that are open once a device was opened, on the Unix platforms.

Whatever the configuration and the answers of the system, a device holds exactly its own
descriptor, and a failure leaves none open. Nothing is used or closed that is not open, except
that a FreeBSD device whose set-up failed is asked for its name after its descriptor was cleared.
-/

set_option autoImplicit false

namespace QuincyTun.Unix

open QuincyTun.Foundation

theorem uses_nothing {held : Multiset Int} : ∀ fd ∈ ([] : List Int), fd ∈ held :=
  List.forall_mem_nil _

theorem uses_self (fd : Int) : ∀ other ∈ [fd], other ∈ ({fd} : Multiset Int) := by simp

/-! ## Linux -/

def linuxLedger (answers : Linux.OpenAnswers) : Ledger Linux.OpenCall Int where
  opened
    | .openNode _ => answers.openNode.toOption
    | _ => none
  used
    | .tunsetiff fd _ _ | .tunsetoffload fd _ => [fd]
    | _ => []
  closed
    | .close fd => some fd
    | _ => none

section Linux

variable (answers : Linux.OpenAnswers) (before : Multiset Int)

theorem createNode_holds :
    (linuxLedger answers).Holds before (Linux.createNode answers) (fun _ => before) before := by
  refine (Ledger.Holds.asks rfl uses_nothing rfl answers.fsExists).tried.bind fun found => ?_
  match found with
  | .ok false =>
    refine (Ledger.Holds.asks rfl uses_nothing rfl answers.createDirAll).tried.bind fun _ => ?_
    refine (Ledger.Holds.asks rfl uses_nothing rfl answers.mknod).tried.bind fun _ => ?_
    exact .pure _ () (fun _ => before) before
  | .ok true => exact .pure _ () (fun _ => before) before
  | .error _ => exact .pure _ () (fun _ => before) before

theorem negotiate_holds (fd : Int) (offload : Bool) {failed : Multiset Int} :
    (linuxLedger answers).Holds {fd} (Linux.negotiate answers fd offload) (fun _ => {fd})
      failed := by
  have asked (mask : BitVec 32) : (linuxLedger answers).Holds {fd}
      (OsCall.attempt (OsCall.logged [.tunsetoffload fd mask] (answers.tunsetoffload fd mask)))
      (fun _ => {fd}) failed :=
    (Ledger.Holds.asks rfl (uses_self fd) rfl _).tried
  unfold Linux.negotiate
  cases offload with
  | false => exact (asked _).bind fun _ => .pure _ (false, false) (fun _ => {fd}) failed
  | true =>
    refine (asked _).bind fun rs => ?_
    cases rs with
    | error error => exact .pure _ (false, false) (fun _ => {fd}) failed
    | ok => exact (asked _).bind fun rs => .pure _ (true, rs.isOk) (fun _ => {fd}) failed

theorem linux_new_holds (config : Config.DeviceConfig) :
    (linuxLedger answers).Holds 0 (Linux.OpenedDevice.new answers config)
      (fun device => {device.fd}) 0 := by
  refine (Ledger.Holds.ofResult _ 0 _).bind fun devName => ?_
  refine (createNode_holds answers 0).bind fun _ => ?_
  refine (Ledger.Holds.opens rfl uses_nothing rfl).bind fun fd => ?_
  refine (Ledger.Holds.orElseUndo (.closes uses_nothing rfl ())
    (.asks rfl (uses_self fd) rfl _)).bind fun _ => ?_
  refine (negotiate_holds answers fd _).bind fun (vnetHdr, udpGso) => ?_
  exact .pure _ (Linux.OpenedDevice.mk fd vnetHdr udpGso) (fun device => {device.fd}) 0

end Linux

/-! ## macOS -/

def macosLedger (answers : Macos.Answers) : Ledger Macos.SystemCall Int where
  opened
    | .socket => answers.socket.toOption
    | _ => none
  used
    | .setCloexec fd | .ctliocginfo fd _ | .connect fd _ | .getsockopt fd => [fd]
    | _ => []
  closed
    | .close fd => some fd
    | _ => none

theorem openUnit_holds (answers : Macos.Answers) (id : UInt32) (packetInformation : Bool) :
    (macosLedger answers).Holds 0 (Macos.openUnit answers id packetInformation)
      (fun tun => {tun.fd}) 0 := by
  refine (Ledger.Holds.opens rfl uses_nothing rfl).bind fun fd => ?_
  refine .orElseUndo (.closes uses_nothing rfl ()) ?_
  refine (Ledger.Holds.asks rfl (uses_self fd) rfl _).tried.bind fun _ => ?_
  refine (Ledger.Holds.asks rfl (uses_self fd) rfl _).bind fun ctlId => ?_
  refine (Ledger.Holds.asks rfl (uses_self fd) rfl _).bind fun _ => ?_
  refine (Ledger.Holds.asks rfl (uses_self fd) rfl _).bind fun _ => ?_
  exact .pure _ (Macos.TunTap.mk fd !packetInformation) (fun tun => {tun.fd}) (fd ::ₘ 0)

theorem macos_new_holds {overflowChecks : Bool} {answers : Macos.Answers} {config : DeviceConfig}
    {call : OsCall (List Macos.SystemCall) Macos.TunTap}
    (made : Macos.TunTap.new overflowChecks answers config = .ok call) :
    (macosLedger answers).Holds 0 call (fun tun => {tun.fd}) 0 := by
  unfold Macos.TunTap.new at made
  cases unit : Macos.controlUnit overflowChecks config.devName with
  | error panic =>
    rw [unit] at made
    cases made
  | ok result =>
    rw [unit] at made
    cases result with
    | error error =>
      obtain rfl := Except.ok.inj made
      exact .fails _ error (fun tun => {tun.fd}) 0
    | ok id =>
      obtain rfl := Except.ok.inj made
      exact openUnit_holds answers id _

/-! ## FreeBSD -/

/-- What the system opens has a number that is not negative. -/
structure Numbered (answers : Freebsd.SetupAnswers) : Prop where
  openDevice : ∀ path fd, answers.openDevice path = .ok fd → 0 ≤ fd
  socketV6 : ∀ fd, answers.socketV6 = .ok fd → 0 ≤ fd

/-- What stands in for the descriptor of a device that gave it away. -/
def cleared : Int := -1

def freebsdLedger (answers : Freebsd.SetupAnswers) : Ledger Freebsd.SetupCall Int where
  opened
    | .openDevice path => (answers.openDevice path).toOption
    | .socketV6 => answers.socketV6.toOption
    | .later .socket => if answers.socket < 0 then none else some answers.socket
    | _ => none
  -- A device that is dropped clears its descriptor and then asks for its name with -1, which is
  -- the one use of a descriptor that is not open.
  used
    | .sioctunsifhead fd | .siocsifinfoin6 fd _ => [fd]
    | .later (.transfer fd) | .later (.ioctl fd) | .later (.siocifdestroy fd _) => [fd]
    | .later (.kinfo fd) => if fd = cleared then [] else [fd]
    | _ => []
  closed
    | .later (.close fd) => some fd
    | _ => none

section Freebsd

open Freebsd

variable {answers : Freebsd.SetupAnswers} {fd : Freebsd.Fd}

def Owned (fd : Freebsd.Fd) : Prop := fd.borrow = false ∧ 0 ≤ fd.inner

theorem dropFd_holds (owned : Owned fd) (before : Multiset Int) {failed : Multiset Int} :
    (freebsdLedger answers).Holds (fd.inner ::ₘ before) (Freebsd.dropFd fd) (fun _ => before)
      failed := by
  have dropped : fd.drop = [.close fd.inner] := if_pos owned
  rw [Freebsd.dropFd, dropped]
  exact .closes uses_nothing rfl ()

theorem openNode_holds (path : String) :
    (freebsdLedger answers).Holds 0 (Freebsd.openNode answers path) (fun fd => {fd.inner}) 0 :=
  (Ledger.Holds.opens rfl uses_nothing rfl).bind fun fd =>
    .pure _ (Freebsd.Fd.mk fd false) (fun fd => {fd.inner}) 0

theorem openNode_owned (numbered : Numbered answers) {path : String} {log : List SetupCall}
    (opened : ((Freebsd.openNode answers path).on log).1 = .ok fd) : Owned fd := by
  unfold Freebsd.openNode at opened
  rw [OsCall.on_bind, OsCall.on_logged] at opened
  cases answered : answers.openDevice path with
  | error error =>
    rw [answered] at opened
    cases opened
  | ok found =>
    rw [answered] at opened
    obtain rfl := Except.ok.inj opened
    exact ⟨rfl, numbered.openDevice path found answered⟩

theorem openFree_holds (units : List Nat) :
    (freebsdLedger answers).Holds 0 (Freebsd.openFree answers units) (fun fd => {fd.inner}) 0 := by
  induction units with
  | nil => exact .fails _ _ _ 0
  | cons i rest ih =>
    refine (openNode_holds (Freebsd.devicePath i)).attempt.bind fun result => ?_
    cases result with
    | ok fd => exact .pure _ fd (fun fd => {fd.inner}) 0
    | error error =>
      dsimp only
      split
      · exact .fails _ error _ 0
      · exact ih

theorem openFree_owned (numbered : Numbered answers) {units : List Nat} {log : List SetupCall}
    (opened : ((Freebsd.openFree answers units).on log).1 = .ok fd) : Owned fd := by
  induction units generalizing log with
  | nil => cases opened
  | cons i rest ih =>
    unfold Freebsd.openFree at opened
    rw [OsCall.on_bind, OsCall.on_attempt] at opened
    cases tried : ((Freebsd.openNode answers (Freebsd.devicePath i)).on log).1 with
    | ok found =>
      rw [tried] at opened
      obtain rfl := Except.ok.inj opened
      exact openNode_owned numbered tried
    | error error =>
      rw [tried] at opened
      dsimp only at opened
      split at opened
      · cases opened
      · exact ih opened

theorem drop_holds (owned : Owned fd) {failed : Multiset Int} :
    (freebsdLedger answers).Holds {fd.inner}
      (OsCall.logged (((DeviceImpl.mk fd).drop answers.toAnswers).map .later) (.ok ()))
      (fun _ => 0) failed := by
  refine fun log => ⟨_, rfl, fun others => ?_⟩
  rw [DeviceImpl.drop, if_neg (Int.not_lt.mpr owned.2)]
  by_cases refused : answers.socket < 0
  · simp [DeviceImpl.request, DeviceImpl.nameImpl, ctl, refused, errorOf, Fd.drop_cleared,
      Ledger.run, Ledger.step, freebsdLedger, cleared]
  · have control : (Freebsd.Fd.mk answers.socket false).drop = [.close answers.socket] :=
      if_pos ⟨rfl, Int.not_lt.mp refused⟩
    have swapped (others : Multiset Int) := Multiset.cons_swap fd.inner answers.socket others
    cases named : answers.kinfo (-1) <;>
      simp [DeviceImpl.request, DeviceImpl.nameImpl, ctl, refused, named, control, Fd.drop_cleared,
        Ledger.run, Ledger.step, freebsdLedger, cleared, swapped]

theorem disableDefaultSysLocalIpv6_holds (numbered : Numbered answers) (device : DeviceImpl)
    {before : Multiset Int} (own : device.fd.inner ∈ before) :
    (freebsdLedger answers).Holds before (disableDefaultSysLocalIpv6 answers device)
      (fun _ => before) before := by
  have named : ∀ other ∈ (freebsdLedger answers).used (.later (.kinfo device.fd.inner)),
      other ∈ before := by
    intro other member
    obtain ⟨-, rfl⟩ : device.fd.inner ≠ cleared ∧ other = device.fd.inner := by
      simpa [freebsdLedger] using member
    exact own
  refine (Ledger.Holds.asks rfl named rfl _).bind fun tunName => ?_
  refine (Ledger.Holds.opens rfl uses_nothing rfl).bind_returned fun ctl ⟨log, opened⟩ => ?_
  have isOpen : ∀ other ∈ [ctl], other ∈ ctl ::ₘ before := by simp
  refine (Ledger.Holds.asks rfl isOpen rfl _).tried.bind fun outcome => ?_
  have owned : Owned ⟨ctl, false⟩ := ⟨rfl, numbered.socketV6 ctl opened⟩
  exact (dropFd_holds owned before).bind fun _ => .ofResult _ before outcome

theorem setUp_holds (numbered : Numbered answers) (owned : Owned fd) (packetInformation : Bool) :
    (freebsdLedger answers).Holds {fd.inner} (setUp answers packetInformation fd)
      (fun device => {device.fd.inner}) 0 := by
  refine (Ledger.Holds.orElseUndo (dropFd_holds owned 0)
    (.asks rfl (uses_self fd.inner) rfl _)).bind fun _ => ?_
  refine (Ledger.Holds.orElseUndo (drop_holds owned)
    (disableDefaultSysLocalIpv6_holds numbered ⟨fd⟩ (Multiset.mem_singleton_self _))).bind fun _ => ?_
  exact .pure _ (OpenedDevice.mk ⟨fd⟩ (!packetInformation) true)
    (fun device => {device.fd.inner}) 0

theorem freebsd_new_holds (numbered : Numbered answers) (config : DeviceConfig) :
    (freebsdLedger answers).Holds 0 (DeviceImpl.new answers config)
      (fun device => {device.fd.inner}) 0 := by
  refine (Ledger.Holds.ofResult _ 0 _).bind fun index => ?_
  cases index with
  | some nameIndex =>
    exact (openNode_holds _).bind_returned fun fd ⟨log, opened⟩ =>
      setUp_holds numbered (openNode_owned numbered opened) _
  | none =>
    exact (openFree_holds _).bind_returned fun fd ⟨log, opened⟩ =>
      setUp_holds numbered (openFree_owned numbered opened) _

end Freebsd

/-- Opening a device on any of the platforms, whatever is configured and whatever the system
answers: a device holds its own descriptor and no other, a failure leaves nothing open, and
nothing is used or closed that is not open, but for the cleared descriptor that a FreeBSD device
asks for its name with when its set-up failed. -/
theorem opening_holds :
    (∀ answers config, (linuxLedger answers).Holds 0 (Linux.OpenedDevice.new answers config)
      (fun device => {device.fd}) 0) ∧
    (∀ overflowChecks answers config call,
      Macos.TunTap.new overflowChecks answers config = .ok call →
      (macosLedger answers).Holds 0 call (fun tun => {tun.fd}) 0) ∧
    ∀ answers config, Numbered answers →
      (freebsdLedger answers).Holds 0 (Freebsd.DeviceImpl.new answers config)
        (fun device => {device.fd.inner}) 0 :=
  ⟨linux_new_holds, fun _ _ _ _ => macos_new_holds, fun _ config numbered =>
    freebsd_new_holds numbered config⟩

theorem granting_numbered : Numbered Freebsd.granting where
  openDevice path fd opened := by
    obtain rfl := Except.ok.inj opened
    decide
  socketV6 fd opened := by
    obtain rfl := Except.ok.inj opened
    decide

/-- The first free node is opened, and its set-up opens and closes a control socket. -/
theorem opening_holds_granted : ∃ added, (freebsdLedger Freebsd.granting).run 0 added = some {3} ∧
    .socketV6 ∈ added := by
  obtain ⟨-, -, freebsd⟩ := opening_holds
  obtain ⟨added, grows, ran⟩ := freebsd Freebsd.granting ⟨none, none⟩ granting_numbered []
  refine ⟨added, ran 0, ?_⟩
  rw [List.nil_append] at grows
  rw [← grows]
  decide

end QuincyTun.Unix
