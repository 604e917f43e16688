import QuincyTun.Foundation.IoError

/-! The life of a FreeBSD device: what it asks the system to do with its descriptor,
its interface, and the control sockets it opens along the way.

A descriptor below zero stands for one that the device no longer owns. Both drop
implementations look at it, and so does every query for the name.
-/

set_option autoImplicit false

namespace QuincyTun.Freebsd

open QuincyTun.Foundation

inductive SystemCall where
  /-- `fcntl(fd, F_KINFO)` -/
  | kinfo (fd : Int)
  /-- Reading, writing and setting up the descriptor itself. -/
  | transfer (fd : Int)
  | socket
  | ioctl (ctl : Int)
  | siocifdestroy (ctl : Int) (name : String)
  | close (fd : Int)
  deriving DecidableEq, Repr

structure Answers where
  /-- A new descriptor, negative when there is none. -/
  socket : Int
  /-- The last component of the path behind a descriptor. -/
  kinfo : Int → Result String

structure Fd where
  inner : Int
  borrow : Bool
  deriving DecidableEq, Repr

structure DeviceImpl where
  fd : Fd
  deriving DecidableEq, Repr

def Fd.drop (fd : Fd) : List SystemCall :=
  if fd.borrow = false ∧ 0 ≤ fd.inner then [.close fd.inner] else []

def ctl (answers : Answers) : List SystemCall × Result Fd :=
  ([.socket], if answers.socket < 0 then errorOf .other else .ok ⟨answers.socket, false⟩)

def DeviceImpl.nameImpl (device : DeviceImpl) (answers : Answers) :
    List SystemCall × Result String := ([.kinfo device.fd.inner], answers.kinfo device.fd.inner)

/-- The request carries nothing but the name. -/
def DeviceImpl.request (device : DeviceImpl) (answers : Answers) :
    List SystemCall × Result String := device.nameImpl answers

def DeviceImpl.drop (device : DeviceImpl) (answers : Answers) : List SystemCall :=
  if device.fd.inner < 0 then device.fd.drop
  else
    let fd := device.fd.inner
    let device : DeviceImpl := ⟨{ device.fd with inner := -1 }⟩
    let (opening, control) := ctl answers
    -- The name is asked for after the descriptor was cleared.
    let (querying, req) := device.request answers
    let destroying :=
      match control, req with
      | .ok control, .ok name => [.siocifdestroy control.inner name]
      | _, _ => []
    let closing :=
      match control with
      | .ok control => control.drop
      | .error _ => []
    opening ++ querying ++ destroying ++ closing ++ [.close fd] ++ device.fd.drop

/-- The descriptor leaves the device, which is dropped without it. -/
def DeviceImpl.intoRawFd (device : DeviceImpl) (answers : Answers) : Int × List SystemCall :=
  let fd := device.fd.inner
  let device : DeviceImpl := ⟨{ device.fd with inner := -1 }⟩
  (fd, device.drop answers)

/-! ## Operations -/

/-- The public operations by what they ask the system to do. None of them changes the device. -/
inductive Operation where
  | name
  /-- Sending, receiving, and the settings of the descriptor. -/
  | transfer
  /-- The interface is named, and each request goes through a control socket of its own: flags,
  MTU, addresses and renaming. -/
  | request (controls : List Int)
  /-- Settings that are kept in memory only. -/
  | setting
  deriving DecidableEq, Repr

def DeviceImpl.operate (device : DeviceImpl) : Operation → List SystemCall
  | .name => [.kinfo device.fd.inner]
  | .transfer => [.transfer device.fd.inner]
  | .request controls =>
    .kinfo device.fd.inner :: controls.flatMap fun control =>
      [.socket, .ioctl control] ++ (Fd.mk control false).drop
  | .setting => []

inductive Ending where
  | drop (answers : Answers)
  | intoRawFd (answers : Answers)

def Ending.answers : Ending → Answers
  | .drop answers => answers
  | .intoRawFd answers => answers

def DeviceImpl.finish (device : DeviceImpl) : Ending → List SystemCall
  | .drop answers => device.drop answers
  | .intoRawFd answers => (device.intoRawFd answers).2

/-- Everything that a device asks for, from its first operation to its end. -/
def DeviceImpl.life (device : DeviceImpl) (operations : List Operation) (ending : Ending) :
    List SystemCall := operations.flatMap device.operate ++ device.finish ending

/-! ## Releasing -/

/-- The system hands out no descriptor twice, and there is nothing behind the cleared one. -/
structure Fresh (device : DeviceImpl) (operations : List Operation) (ending : Ending) : Prop where
  owned : 0 ≤ device.fd.inner
  controls : ∀ controls, .request controls ∈ operations →
    ∀ control ∈ controls, control ≠ device.fd.inner
  socket : ending.answers.socket ≠ device.fd.inner
  cleared : ∀ name, ending.answers.kinfo (-1) ≠ .ok name

/-- The descriptor is closed once or handed over, and the interface is destroyed before that
whenever it can be named and asked for. -/
structure Releases (device : DeviceImpl) (operations : List Operation) (ending : Ending) : Prop where
  dropped : ∀ answers, ending = .drop answers →
    (device.life operations ending).count (.close device.fd.inner) = 1
  handed : ∀ answers, ending = .intoRawFd answers →
    (device.intoRawFd answers).1 = device.fd.inner ∧
      .close device.fd.inner ∉ device.life operations ending
  destroyed : ∀ answers name, ending = .drop answers →
    answers.kinfo device.fd.inner = .ok name → 0 ≤ answers.socket →
    ∃ earlier later, device.life operations ending =
        earlier ++ .siocifdestroy answers.socket name :: later ∧
      .close device.fd.inner ∈ later ∧ .close device.fd.inner ∉ earlier

section Life

variable {device : DeviceImpl} {operations : List Operation} {ending : Ending} {answers : Answers}

theorem Fd.mem_drop {fd : Fd} {call : SystemCall} :
    call ∈ fd.drop ↔ (fd.borrow = false ∧ 0 ≤ fd.inner) ∧ call = .close fd.inner := by
  unfold Fd.drop
  split
  · case isTrue owned => simp [owned]
  · case isFalse other => simp [other]

theorem Fd.drop_cleared (borrow : Bool) : (Fd.mk (-1) borrow).drop = [] :=
  if_neg fun owned => absurd owned.2 (by simp)

theorem drop_cleared (borrow : Bool) (answers : Answers) :
    (DeviceImpl.mk ⟨-1, borrow⟩).drop answers = [] :=
  (if_pos (by simp)).trans (Fd.drop_cleared borrow)

/-- A dropped device closes what it opened for the drop and then its descriptor. The query for
the name finds nothing, so nothing is destroyed. -/
theorem drop_owned (owned : 0 ≤ device.fd.inner)
    (cleared : ∀ name, answers.kinfo (-1) ≠ .ok name) :
    device.drop answers = [.socket, .kinfo (-1)] ++
      (if answers.socket < 0 then [] else [.close answers.socket]) ++ [.close device.fd.inner] := by
  have unnamed : ∃ error, answers.kinfo (-1) = .error error := by
    cases found : answers.kinfo (-1) with
    | error error => exact ⟨error, rfl⟩
    | ok name => exact (cleared name found).elim
  obtain ⟨error, failed⟩ := unnamed
  rw [DeviceImpl.drop, if_neg (by omega)]
  by_cases refused : answers.socket < 0
  · simp only [DeviceImpl.request, DeviceImpl.nameImpl, ctl, failed, Fd.drop_cleared, if_pos refused]
    rfl
  · have control : (Fd.mk answers.socket false).drop = [.close answers.socket] :=
      if_pos ⟨rfl, Int.not_lt.mp refused⟩
    simp only [DeviceImpl.request, DeviceImpl.nameImpl, ctl, failed, Fd.drop_cleared,
      if_neg refused, control]
    rfl

theorem operate_keeps {operation : Operation} {call : SystemCall}
    (fresh : ∀ controls, operation = .request controls →
      ∀ control ∈ controls, control ≠ device.fd.inner)
    (made : call ∈ device.operate operation) :
    call ≠ .close device.fd.inner ∧ ∀ control name, call ≠ .siocifdestroy control name := by
  cases operation with
  | name =>
    obtain rfl := List.mem_singleton.mp made
    exact ⟨nofun, nofun⟩
  | transfer =>
    obtain rfl := List.mem_singleton.mp made
    exact ⟨nofun, nofun⟩
  | setting => cases made
  | request controls =>
    rw [DeviceImpl.operate, List.mem_cons, List.mem_flatMap] at made
    rcases made with rfl | ⟨control, used, made⟩
    · exact ⟨nofun, nofun⟩
    · rw [List.mem_append] at made
      rcases made with asked | released
      · simp only [List.mem_cons, List.not_mem_nil, or_false] at asked
        rcases asked with rfl | rfl <;> exact ⟨nofun, nofun⟩
      · obtain ⟨-, rfl⟩ := Fd.mem_drop.mp released
        exact ⟨fun same => fresh controls rfl control used (SystemCall.close.inj same), nofun⟩

theorem operations_keep (fresh : Fresh device operations ending) {call : SystemCall}
    (made : call ∈ operations.flatMap device.operate) :
    call ≠ .close device.fd.inner ∧ ∀ control name, call ≠ .siocifdestroy control name := by
  obtain ⟨operation, member, made⟩ := List.mem_flatMap.mp made
  refine operate_keeps (fun controls same => fresh.controls controls ?_) made
  rw [← same]
  exact member

theorem dropped_once (fresh : Fresh device operations (.drop answers)) :
    (device.life operations (.drop answers)).count (.close device.fd.inner) = 1 := by
  have before : (operations.flatMap device.operate).count (.close device.fd.inner) = 0 :=
    List.count_eq_zero.mpr fun made => (operations_keep fresh made).1 rfl
  have other : answers.socket ≠ device.fd.inner := fresh.socket
  have cleared : ∀ name, answers.kinfo (-1) ≠ .ok name := fresh.cleared
  rw [DeviceImpl.life, List.count_append, before, DeviceImpl.finish,
    drop_owned fresh.owned cleared, List.count_append, List.count_append]
  split <;> simp [other]

theorem handed_over (fresh : Fresh device operations (.intoRawFd answers)) :
    .close device.fd.inner ∉ device.life operations (.intoRawFd answers) := by
  have nothing : device.finish (.intoRawFd answers) = [] := drop_cleared device.fd.borrow answers
  rw [DeviceImpl.life, nothing, List.append_nil]
  exact fun made => (operations_keep fresh made).1 rfl

theorem never_destroyed (fresh : Fresh device operations ending) (control : Int) (name : String) :
    .siocifdestroy control name ∉ device.life operations ending := by
  rw [DeviceImpl.life, List.mem_append, not_or]
  refine ⟨fun made => (operations_keep fresh made).2 control name rfl, ?_⟩
  cases ending with
  | drop answers =>
    have cleared : ∀ name, answers.kinfo (-1) ≠ .ok name := fresh.cleared
    rw [DeviceImpl.finish, drop_owned fresh.owned cleared]
    split <;> simp
  | intoRawFd answers =>
    have nothing : device.finish (.intoRawFd answers) = [] := drop_cleared device.fd.borrow answers
    simp [nothing]

end Life

/-- A device releases what it owns as it should exactly when it is not dropped while its
interface could be named and a control socket opens. -/
theorem releases_iff (device : DeviceImpl) (operations : List Operation) (ending : Ending)
    (fresh : Fresh device operations ending) :
    Releases device operations ending ↔ ∀ answers, ending = .drop answers →
      ¬ (0 ≤ answers.socket ∧ ∃ name, answers.kinfo device.fd.inner = .ok name) := by
  constructor
  · rintro releases answers ended ⟨opened, name, named⟩
    obtain ⟨earlier, later, split, -⟩ := releases.destroyed answers name ended named opened
    refine never_destroyed fresh answers.socket name ?_
    rw [split]
    exact List.mem_append_right _ List.mem_cons_self
  · intro condition
    constructor
    case dropped =>
      rintro answers rfl
      exact dropped_once fresh
    case handed =>
      rintro answers rfl
      exact ⟨rfl, handed_over fresh⟩
    case destroyed =>
      intro answers name ended named opened
      exact (condition answers ended ⟨opened, name, named⟩).elim

/-- A system that knows the interface behind descriptor 3, and opens descriptor 4 next. -/
def tunAnswers : Answers where
  socket := 4
  kinfo fd := if fd = 3 then .ok "tun0" else errorOf (.os 9)

def goneAnswers : Answers where
  socket := 4
  kinfo _ := errorOf (.os 9)

theorem tunFresh (operations : List Operation) (ending : Ending)
    (socket : ending.answers.socket = 4) (cleared : ending.answers.kinfo (-1) = errorOf (.os 9))
    (controls : ∀ controls, .request controls ∈ operations → ∀ control ∈ controls, control ≠ 3) :
    Fresh ⟨⟨3, false⟩⟩ operations ending where
  owned := by decide
  controls := controls
  socket := by rw [socket]; decide
  cleared name := by rw [cleared]; exact nofun

/-- The descriptor is handed over, or dropped when the interface has no name any more. -/
theorem releases_iff_handed :
    Releases ⟨⟨3, false⟩⟩ [.name, .request [4, 5]] (.intoRawFd tunAnswers) ∧
      Releases ⟨⟨3, false⟩⟩ [.name, .request [4, 5]] (.drop goneAnswers) := by
  have fresh (ending : Ending) (socket : ending.answers.socket = 4)
      (cleared : ending.answers.kinfo (-1) = errorOf (.os 9)) :
      Fresh ⟨⟨3, false⟩⟩ [.name, .request [4, 5]] ending :=
    tunFresh _ _ socket cleared (by simp)
  constructor
  · refine (releases_iff _ _ _ (fresh (.intoRawFd tunAnswers) rfl rfl)).mpr ?_
    exact fun _ ended => nomatch ended
  · refine (releases_iff _ _ _ (fresh (.drop goneAnswers) rfl rfl)).mpr ?_
    rintro answers ended ⟨-, name, named⟩
    obtain rfl := Ending.drop.inj ended
    cases named

/-- A dropped device closes its descriptor, but does not destroy the interface that it could name. -/
theorem not_always_released :
    ¬ ∀ (device : DeviceImpl) (operations : List Operation) (ending : Ending),
      Fresh device operations ending → Releases device operations ending := by
  intro releases
  have fresh := tunFresh [] (.drop tunAnswers) rfl rfl (by simp)
  obtain ⟨earlier, later, split, -⟩ :=
    (releases _ _ _ fresh).destroyed tunAnswers "tun0" rfl rfl (by decide)
  refine never_destroyed fresh 4 "tun0" ?_
  rw [split]
  exact List.mem_append_right _ List.mem_cons_self

end QuincyTun.Freebsd
