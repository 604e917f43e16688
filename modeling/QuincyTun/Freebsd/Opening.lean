import QuincyTun.Foundation.CallLog
import QuincyTun.Freebsd.Release
import QuincyTun.Unix.DeviceName

/-! Opening a FreeBSD device: the node of the requested unit, or the first node that is
not busy. The device is released again when its set-up fails.
-/

set_option autoImplicit false

namespace QuincyTun.Freebsd

open QuincyTun.Foundation QuincyTun.Unix

def ebusy : Nat := 16

inductive SetupCall where
  | openDevice (path : String)
  | sioctunsifhead (fd : Int)
  | socketV6
  | siocsifinfoin6 (ctl : Int) (name : String)
  /-- A call that devices also make later. -/
  | later (call : SystemCall)
  deriving DecidableEq, Repr

structure SetupAnswers extends Answers where
  openDevice : String → Result Int
  sioctunsifhead : Int → Result Unit
  socketV6 : Result Int
  siocsifinfoin6 : Int → String → Result Unit

structure OpenedDevice extends DeviceImpl where
  ignorePacketInformation : Bool
  associateRoute : Bool
  deriving DecidableEq, Repr

/-- The path without the zero that ends it. -/
def devicePath (nameIndex : Nat) : String := "/dev/tun" ++ toString nameIndex

def devIndex (devName : Option String) : Result (Option UInt32) := devName.mapM (requestedUnit "tun")

def openNode (answers : SetupAnswers) (path : String) : OsCall (List SetupCall) Fd := do
  let fd ← OsCall.logged [.openDevice path] (answers.openDevice path)
  return ⟨fd, false⟩

def openFree (answers : SetupAnswers) : List Nat → OsCall (List SetupCall) Fd
  | [] => OsCall.ofResult (.error ⟨.alreadyExists, "no available file descriptor"⟩)
  | i :: rest => do
    match ← OsCall.attempt (openNode answers (devicePath i)) with
    | .ok fd => return fd
    | .error error =>
      if error.kind ≠ .os ebusy then OsCall.ofResult (.error error) else openFree answers rest

def dropFd (fd : Fd) : OsCall (List SetupCall) Unit := OsCall.logged (fd.drop.map .later) (.ok ())

def enableTunsifheadImpl (answers : SetupAnswers) (fd : Fd) : OsCall (List SetupCall) Unit :=
  OsCall.logged [.sioctunsifhead fd.inner] (answers.sioctunsifhead fd.inner)

/-- The control socket is closed whether or not the request succeeds. -/
def disableDefaultSysLocalIpv6 (answers : SetupAnswers) (device : DeviceImpl) :
    OsCall (List SetupCall) Unit := do
  let (calls, named) := device.nameImpl answers.toAnswers
  let tunName ← OsCall.logged (calls.map .later) named
  let ctl ← OsCall.logged [.socketV6] answers.socketV6
  let outcome ← OsCall.attempt
    (OsCall.logged [.siocsifinfoin6 ctl tunName] (answers.siocsifinfoin6 ctl tunName))
  dropFd ⟨ctl, false⟩
  OsCall.ofResult outcome

def setUp (answers : SetupAnswers) (packetInformation : Bool) (fd : Fd) :
    OsCall (List SetupCall) OpenedDevice := do
  OsCall.orElseUndo (dropFd fd) (enableTunsifheadImpl answers fd)
  let device : DeviceImpl := ⟨fd⟩
  OsCall.orElseUndo (OsCall.logged ((device.drop answers.toAnswers).map .later) (.ok ()))
    (disableDefaultSysLocalIpv6 answers device)
  return { fd, ignorePacketInformation := !packetInformation, associateRoute := true }

def DeviceImpl.new (answers : SetupAnswers) (config : DeviceConfig) :
    OsCall (List SetupCall) OpenedDevice := do
  let index ← OsCall.ofResult (devIndex config.devName)
  let fd ← match index with
    | some nameIndex => openNode answers (devicePath nameIndex.toNat)
    | none => openFree answers (List.range 256)
  setUp answers (config.packetInformation.getD false) fd

/-- Whatever the system answers, the name is rejected before any node is opened, or the node
that is opened is the one of exactly that name. -/
def SelectsTun (name : String) : Prop :=
  ∀ (answers : SetupAnswers) (packetInformation : Option Bool),
    let call := DeviceImpl.new answers ⟨some name, packetInformation⟩
    (∀ path, .openDevice path ∈ (call.on []).2 →
      ∃ n : Nat, name = "tun" ++ toString n ∧ path = "/dev/tun" ++ toString n) ∧
    ((∀ path, .openDevice path ∉ (call.on []).2) → ∃ error, (call.on []).1 = .error error)

/-! ## The node that is opened -/

section Node

variable {answers : SetupAnswers} {name path : String} {unit : UInt32}

theorem setUp_asks (answers : SetupAnswers) (packetInformation : Bool) (fd : Fd) :
    (setUp answers packetInformation fd).Asks fun request =>
      ∀ path, request ≠ .openDevice path := by
  have later : ∀ calls : List SystemCall, ∀ request ∈ calls.map SetupCall.later,
      ∀ path, request ≠ .openDevice path := by
    intro calls request member path
    obtain ⟨call, -, rfl⟩ := List.mem_map.mp member
    exact SetupCall.noConfusion
  refine (OsCall.Asks.orElseUndo (OsCall.Asks.logged (later _) _)
    (OsCall.Asks.logged (by simp) _)).bind fun _ => ?_
  refine (OsCall.Asks.orElseUndo (OsCall.Asks.logged (later _) _) ?_).bind fun _ =>
    OsCall.Asks.ofResult _ (.ok _)
  refine (OsCall.Asks.logged (later _) _).bind fun tunName => ?_
  refine (OsCall.Asks.logged (by simp) _).bind fun ctl => ?_
  refine (OsCall.Asks.logged (by simp) _).attempt.bind fun outcome => ?_
  exact (OsCall.Asks.logged (later _) _).bind fun _ => OsCall.Asks.ofResult _ outcome

theorem openNode_asks (answers : SetupAnswers) (path : String) :
    (openNode answers path).Asks fun request => request = .openDevice path :=
  (OsCall.Asks.logged (by simp) _).bind fun _ => OsCall.Asks.ofResult _ (.ok _)

theorem openNode_requires (answers : SetupAnswers) (path : String) :
    (openNode answers path).Requires fun request => ∃ path, request = .openDevice path := by
  refine (OsCall.Requires.logged (List.mem_singleton.mpr rfl) ⟨path, rfl⟩ _).bind_left
    (q := fun _ => True) fun fd => ?_
  exact OsCall.Asks.ofResult _ (.ok _)

theorem DeviceImpl.new_of_unit (answers : SetupAnswers) (packetInformation : Option Bool)
    (requested : requestedUnit "tun" name = .ok unit) :
    DeviceImpl.new answers ⟨some name, packetInformation⟩ =
      openNode answers (devicePath unit.toNat) >>=
        setUp answers (packetInformation.getD false) := by
  have index : devIndex (some name) = .ok (some unit) := by
    simp only [devIndex, Option.mapM_some, requested]
    rfl
  rw [DeviceImpl.new, index]
  rfl

def granting : SetupAnswers where
  socket := 4
  kinfo _ := .ok "tun0"
  openDevice _ := .ok 3
  sioctunsifhead _ := .ok ()
  socketV6 := .ok 5
  siocsifinfoin6 _ _ := .ok ()

theorem openDevice_mem_granting (unit : UInt32) (packetInformation : Bool) :
    .openDevice (devicePath unit.toNat) ∈
      ((openNode granting (devicePath unit.toNat) >>= setUp granting packetInformation).on []).2 := by
  change SetupCall.openDevice (devicePath unit.toNat) ∈
    [SetupCall.openDevice (devicePath unit.toNat), .sioctunsifhead 3, .later (.kinfo 3), .socketV6,
      .siocsifinfoin6 5 "tun0", .later (.close 5)]
  simp

end Node

/-! ## Names -/

section Name

variable {name : String} {unit : UInt32}

theorem selectsTun_of_rejected {error : IoError}
    (rejected : requestedUnit "tun" name = .error error) : SelectsTun name := by
  intro answers packetInformation
  have index : devIndex (some name) = .error error := by
    simp only [devIndex, Option.mapM_some, rejected]
    rfl
  have refused : (DeviceImpl.new answers ⟨some name, packetInformation⟩).on [] =
      (.error error, []) := by
    rw [DeviceImpl.new, index]
    rfl
  simp only [refused]
  exact ⟨fun path member => absurd member List.not_mem_nil, fun _ => ⟨error, rfl⟩⟩

theorem selectsTun_of_name (requested : requestedUnit "tun" name = .ok unit)
    (named : name = "tun" ++ toString unit.toNat) : SelectsTun name := by
  intro answers packetInformation
  rw [DeviceImpl.new_of_unit answers packetInformation requested]
  have opens : ∀ request, request = SetupCall.openDevice (devicePath unit.toNat) →
      ∀ path, request = SetupCall.openDevice path → path = devicePath unit.toNat := by
    rintro request rfl path same
    exact (SetupCall.openDevice.inj same).symm
  have asks := ((openNode_asks answers (devicePath unit.toNat)).mono opens).bind fun fd =>
    (setUp_asks answers (packetInformation.getD false) fd).mono
      fun request other path same => absurd same (other path)
  constructor
  · intro path member
    exact ⟨unit.toNat, named, asks.mem member path rfl⟩
  · intro none
    have requires := (openNode_requires answers (devicePath unit.toNat)).bind_left
      (setUp_asks answers (packetInformation.getD false))
    refine requires.failed_of_none ?_
    rintro request member ⟨path, rfl⟩
    exact none path member

theorem selectsTun_iff (name : String) : SelectsTun name ↔ ¬ Misspelled "tun" name := by
  cases requested : requestedUnit "tun" name with
  | error error =>
    exact iff_of_true (selectsTun_of_rejected requested) (not_misspelled_of_rejected requested)
  | ok unit =>
    rw [← requestedUnit_name requested]
    constructor
    · intro selects
      have units := (selects granting none).1
      rw [DeviceImpl.new_of_unit granting none requested] at units
      obtain ⟨n, named, path⟩ := units _ (openDevice_mem_granting unit _)
      have same : toString unit.toNat = toString n := by
        rw [devicePath, ← String.toList_inj, String.toList_append, String.toList_append] at path
        exact String.toList_inj.mp (List.append_cancel_left path)
      rw [same]
      exact named
    · exact selectsTun_of_name requested

end Name

end QuincyTun.Freebsd
