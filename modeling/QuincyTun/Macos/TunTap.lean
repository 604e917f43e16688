import QuincyTun.Foundation.CallLog
import QuincyTun.Unix.DeviceName

/-! Opening a macOS tunnel: a control socket that is connected to the unit behind the
requested name. The kernel numbers the units from one; zero leaves the choice to it.
-/

set_option autoImplicit false

namespace QuincyTun.Macos

open QuincyTun.Foundation QuincyTun.Unix

def utunControlName : String := "com.apple.net.utun_control"

/-- The fields of `libc::sockaddr_ctl` that are not constants. -/
structure SockaddrCtl where
  scId : UInt32
  scUnit : UInt32
  deriving DecidableEq, Repr

inductive SystemCall where
  | socket
  | setCloexec (fd : Int)
  | ctliocginfo (fd : Int) (ctlName : String)
  | connect (fd : Int) (addr : SockaddrCtl)
  /-- `UTUN_OPT_IFNAME` -/
  | getsockopt (fd : Int)
  | close (fd : Int)
  deriving DecidableEq, Repr

structure Answers where
  socket : Result Int
  setCloexec : Int → Result Unit
  ctliocginfo : Int → String → Result UInt32
  connect : Int → SockaddrCtl → Result Unit
  getsockopt : Int → Result Unit

structure TunTap where
  fd : Int
  ignorePacketInformation : Bool
  deriving DecidableEq, Repr

/-- `a + b`: a build without overflow checks wraps around. -/
def addU32 (overflowChecks : Bool) (a b : UInt32) : Run UInt32 :=
  if overflowChecks ∧ 2 ^ 32 ≤ a.toNat + b.toNat then .error .overflow else .ok (a + b)

/-- The `id` of the device, zero without a name. -/
def controlUnit (overflowChecks : Bool) (devName : Option String) : Run (Result UInt32) :=
  match devName with
  | none => pure (.ok 0)
  | some tunName =>
    match requestedUnit "utun" tunName with
    | .error error => pure (.error error)
    | .ok v => do
      let id ← addU32 overflowChecks v 1
      pure (.ok id)

/-- The system calls of the constructor. The socket is closed when one of them fails. -/
def openUnit (answers : Answers) (id : UInt32) (packetInformation : Bool) :
    OsCall (List SystemCall) TunTap := do
  let fd ← OsCall.logged [.socket] answers.socket
  OsCall.orElseUndo (OsCall.logged [.close fd] (.ok ())) do
    let _ ← OsCall.attempt (OsCall.logged [.setCloexec fd] (answers.setCloexec fd))
    let ctlId ← OsCall.logged [.ctliocginfo fd utunControlName]
      (answers.ctliocginfo fd utunControlName)
    let addr : SockaddrCtl := { scId := ctlId, scUnit := id }
    OsCall.logged [.connect fd addr] (answers.connect fd addr)
    OsCall.logged [.getsockopt fd] (answers.getsockopt fd)
    return { fd, ignorePacketInformation := !packetInformation }

def TunTap.new (overflowChecks : Bool) (answers : Answers) (config : DeviceConfig) :
    Run (OsCall (List SystemCall) TunTap) := do
  let packetInformation := config.packetInformation.getD false
  match ← controlUnit overflowChecks config.devName with
  | .error error => pure (OsCall.ofResult (.error error))
  | .ok id => pure (openUnit answers id packetInformation)

/-- Whatever the system answers, the name is rejected before any unit is asked for, or the
control unit is the one behind exactly that name. -/
def SelectsUtun (overflowChecks : Bool) (name : String) : Prop :=
  ∀ (answers : Answers) (packetInformation : Option Bool), ∃ call,
    TunTap.new overflowChecks answers ⟨some name, packetInformation⟩ = .ok call ∧
      (∀ fd addr, .connect fd addr ∈ (call.on []).2 →
        ∃ n : Nat, name = "utun" ++ toString n ∧ addr.scUnit.toNat = n + 1) ∧
      ((∀ fd addr, .connect fd addr ∉ (call.on []).2) → ∃ error, (call.on []).1 = .error error)

/-! ## The unit that is asked for -/

section Unit

variable {overflowChecks : Bool} {name : String} {unit id : UInt32}

theorem addU32_eq_ok (fits : unit.toNat + 1 < 2 ^ 32) :
    addU32 overflowChecks unit 1 = .ok (unit + 1) := by
  have small : ¬(overflowChecks ∧ 2 ^ 32 ≤ unit.toNat + (1 : UInt32).toNat) :=
    fun ⟨_, large⟩ => absurd large (Nat.not_le.mpr fits)
  exact if_neg small

theorem toNat_add_one (fits : unit.toNat + 1 < 2 ^ 32) : (unit + 1).toNat = unit.toNat + 1 := by
  rw [UInt32.toNat_add]
  exact Nat.mod_eq_of_lt fits

/-- Past the largest unit the number wraps around to zero, if it is computed at all. -/
theorem addU32_overflow (large : 2 ^ 32 ≤ unit.toNat + 1)
    (added : addU32 overflowChecks unit 1 = .ok id) : id = 0 := by
  unfold addU32 at added
  split at added
  · cases added
  · obtain rfl := Except.ok.inj added
    have below := unit.toNat_lt
    apply UInt32.toNat_inj.mp
    rw [UInt32.toNat_add, UInt32.toNat_one, show unit.toNat + 1 = 2 ^ 32 by omega]
    rfl

theorem openUnit_asks (answers : Answers) (id : UInt32) (packetInformation : Bool) :
    (openUnit answers id packetInformation).Asks fun request =>
      ∀ fd addr, request = .connect fd addr → addr.scUnit = id := by
  refine (OsCall.Asks.logged (by simp) _).bind fun fd => OsCall.Asks.orElseUndo
    (OsCall.Asks.logged (by simp) _) ?_
  refine (OsCall.Asks.logged (by simp) _).attempt.bind fun _ => ?_
  refine (OsCall.Asks.logged (by simp) _).bind fun ctlId => ?_
  refine (OsCall.Asks.logged ?_ _).bind fun _ => (OsCall.Asks.logged (by simp) _).bind fun _ =>
    OsCall.Asks.ofResult _ (.ok _)
  intro request member fd addr same
  obtain rfl := List.mem_singleton.mp member
  cases same
  rfl

theorem openUnit_requires (answers : Answers) (id : UInt32) (packetInformation : Bool) :
    (openUnit answers id packetInformation).Requires fun request =>
      ∃ fd addr, request = .connect fd addr := by
  refine OsCall.Requires.bind_right fun fd => OsCall.Requires.orElseUndo _ ?_
  refine OsCall.Requires.bind_right fun _ => OsCall.Requires.bind_right fun ctlId => ?_
  refine (OsCall.Requires.logged (List.mem_singleton.mpr rfl) ⟨fd, _, rfl⟩ _).bind_left
    (q := fun _ => True) fun _ => ?_
  exact (OsCall.Asks.logged (by simp) _).bind fun _ => OsCall.Asks.ofResult _ (.ok _)

theorem TunTap.new_of_unit (overflowChecks : Bool) (answers : Answers)
    (packetInformation : Option Bool) (requested : requestedUnit "utun" name = .ok unit) :
    TunTap.new overflowChecks answers ⟨some name, packetInformation⟩ =
      (addU32 overflowChecks unit 1).map fun id =>
        openUnit answers id (packetInformation.getD false) := by
  simp only [TunTap.new, controlUnit, requested]
  cases addU32 overflowChecks unit 1 <;> rfl

def granting : Answers where
  socket := .ok 3
  setCloexec _ := .ok ()
  ctliocginfo _ _ := .ok 1
  connect _ _ := .ok ()
  getsockopt _ := .ok ()

theorem connect_mem_granting (id : UInt32) (packetInformation : Bool) :
    .connect 3 ⟨1, id⟩ ∈ ((openUnit granting id packetInformation).on []).2 := by
  change SystemCall.connect 3 ⟨1, id⟩ ∈ [SystemCall.socket, .setCloexec 3,
    .ctliocginfo 3 utunControlName, .connect 3 ⟨1, id⟩, .getsockopt 3]
  simp

end Unit

/-! ## Names -/

section Name

variable {overflowChecks : Bool} {name : String} {unit : UInt32}

theorem selectsUtun_of_rejected {error : IoError} (overflowChecks : Bool)
    (rejected : requestedUnit "utun" name = .error error) : SelectsUtun overflowChecks name := by
  intro answers packetInformation
  refine ⟨OsCall.ofResult (.error error), ?_, ?_, fun _ => ⟨error, rfl⟩⟩
  · simp only [TunTap.new, controlUnit, rejected]
    rfl
  · intro fd addr member
    cases member

theorem selectsUtun_of_name (overflowChecks : Bool) (fits : unit.toNat + 1 < 2 ^ 32)
    (requested : requestedUnit "utun" name = .ok unit)
    (named : name = "utun" ++ toString unit.toNat) : SelectsUtun overflowChecks name := by
  intro answers packetInformation
  refine ⟨openUnit answers (unit + 1) (packetInformation.getD false), ?_, ?_, ?_⟩
  · rw [TunTap.new_of_unit overflowChecks answers packetInformation requested, addU32_eq_ok fits]
    rfl
  · intro fd addr member
    refine ⟨unit.toNat, named, ?_⟩
    rw [(openUnit_asks answers (unit + 1) _).mem member fd addr rfl, toNat_add_one fits]
  · intro none
    refine (openUnit_requires answers (unit + 1) _).failed_of_none ?_
    rintro request member ⟨fd, addr, rfl⟩
    exact none fd addr member

theorem selectsUtun_of_unit (requested : requestedUnit "utun" name = .ok unit) :
    SelectsUtun overflowChecks name ↔
      unit.toNat + 1 < 2 ^ 32 ∧ name = "utun" ++ toString unit.toNat := by
  constructor
  · intro selects
    obtain ⟨call, ran, units, -⟩ := selects granting none
    rw [TunTap.new_of_unit overflowChecks granting none requested] at ran
    cases added : addU32 overflowChecks unit 1 with
    | error panic =>
      rw [added] at ran
      cases ran
    | ok id =>
      rw [added] at ran
      obtain rfl := Except.ok.inj ran
      obtain ⟨n, named, same⟩ := units 3 ⟨1, id⟩ (connect_mem_granting id _)
      by_cases fits : unit.toNat + 1 < 2 ^ 32
      · rw [addU32_eq_ok fits] at added
        obtain rfl := Except.ok.inj added
        rw [toNat_add_one fits] at same
        exact ⟨fits, Nat.succ.inj same ▸ named⟩
      · rw [addU32_overflow (Nat.not_lt.mp fits) added] at same
        cases same
  · rintro ⟨fits, named⟩
    exact selectsUtun_of_name overflowChecks fits requested named

theorem selectsUtun_iff (overflowChecks : Bool) (name : String) :
    SelectsUtun overflowChecks name ↔ ¬ Misspelled "utun" name ∧ name ≠ "utun4294967295" := by
  have last : requestedUnit "utun" "utun4294967295" = .ok 4294967295 :=
    requestedUnit_canonical 4294967295 (by decide)
  cases requested : requestedUnit "utun" name with
  | error error =>
    refine iff_of_true (selectsUtun_of_rejected overflowChecks requested)
      ⟨not_misspelled_of_rejected requested, ?_⟩
    rintro rfl
    cases requested.symm.trans last
  | ok unit =>
    -- The unit that does not fit is the last one, and a canonical name has one unit.
    rw [selectsUtun_of_unit requested, requestedUnit_name requested, and_comm]
    refine and_congr_right fun spelled => ?_
    constructor
    · rintro fits rfl
      obtain rfl := Except.ok.inj (requested.symm.trans last)
      exact absurd fits (by decide)
    · intro other
      by_contra large
      have most : unit.toNat = 4294967295 := by
        have below := unit.toNat_lt
        omega
      have named := (requestedUnit_name requested).mpr spelled
      rw [most] at named
      exact other named

end Name

end QuincyTun.Macos
