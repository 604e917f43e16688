import QuincyTun.Config.Netmask

/-! The builder of devices, and what it makes of an interface.

The arguments of the builder convert when they are given, but their errors are kept
until the device is configured. The interface is only enabled once all the rest is done.
-/

set_option autoImplicit false

namespace QuincyTun.Config

open QuincyTun.Foundation

variable {σ : Type} {s after : σ} {result : Result Unit}

/-! ## The builder -/

/-- On each platform only some of the fields are there. -/
structure DeviceConfig where
  devName : Option String := none
  packetInformation : Option Bool := none
  associateRoute : Option Bool := none
  offload : Option Bool := none
  description : Option String := none
  deviceGuid : Option (BitVec 128) := none
  wintunLog : Option Bool := none
  wintunFile : Option String := none
  ringCapacity : Option UInt32 := none
  deleteDriver : Option Bool := none

structure Ipv4Request where
  address : Result Ipv4Addr
  prefixLen : Result UInt8
  destination : Option (Result Ipv4Addr)

structure Ipv6Request where
  address : Result Ipv6Addr
  prefixLen : Result UInt8

structure DeviceBuilder extends DeviceConfig where
  enabled : Option Bool := none
  mtu : Option UInt16 := none
  ipv4 : Option Ipv4Request := none
  ipv6 : Option (List Ipv6Request) := none

inductive Setting where
  | name (devName : String)
  | mtu (mtu : UInt16)
  | ipv4 {α β : Type} [ToIpv4Address α] [ToIpv4Netmask β] (address : α) (mask : β)
    (destination : Option α)
  | ipv6 {α β : Type} [ToIpv6Address α] [ToIpv6Netmask β] (address : α) (mask : β)
  | enable (enable : Bool)
  | packetInformation (packetInformation : Bool)
  | offload (offload : Bool)

namespace DeviceBuilder

def set (builder : DeviceBuilder) : Setting → DeviceBuilder
  | .name devName => { builder with devName := some devName }
  | .mtu mtu => { builder with mtu := some mtu }
  | @Setting.ipv4 _ _ _ _ address mask destination =>
    { builder with
      ipv4 := some ⟨ToIpv4Address.ipv4 address, ToIpv4Netmask.toPrefix mask,
        destination.map ToIpv4Address.ipv4⟩ }
  | @Setting.ipv6 _ _ _ _ address mask =>
    let request := ⟨ToIpv6Address.ipv6 address, ToIpv6Netmask.toPrefix mask⟩
    { builder with
      ipv6 := match builder.ipv6 with
        | some list => some (list ++ [request])
        | none => some [request] }
  | .enable enable => { builder with enabled := some enable }
  | .packetInformation packetInformation =>
    { builder with packetInformation := some packetInformation }
  | .offload offload => { builder with offload := some offload }

def new : DeviceBuilder := ({} : DeviceBuilder).set (.enable true)

def of (settings : List Setting) : DeviceBuilder := settings.foldl set new

def buildConfig (builder : DeviceBuilder) : DeviceConfig := builder.toDeviceConfig

end DeviceBuilder

/-- What the builder asks of a device of any platform. -/
structure Device (σ : Type) where
  setMtu : UInt16 → OsCall σ Unit
  setNetworkAddress : Ipv4Addr → UInt8 → Option Ipv4Addr → OsCall σ Unit
  addAddressV6 : Ipv6Addr → UInt8 → OsCall σ Unit
  enabled : Bool → OsCall σ Unit

def configIpv4 (device : Device σ) (request : Ipv4Request) : OsCall σ Unit := do
  let prefixLen ← OsCall.ofResult request.prefixLen
  let address ← OsCall.ofResult request.address
  let destination ← OsCall.ofResult (request.destination.mapM id)
  device.setNetworkAddress address prefixLen destination

def configIpv6 (device : Device σ) (request : Ipv6Request) : OsCall σ Unit := do
  let prefixLen ← OsCall.ofResult request.prefixLen
  let address ← OsCall.ofResult request.address
  device.addAddressV6 address prefixLen

def DeviceBuilder.config (builder : DeviceBuilder) (device : Device σ) : OsCall σ Unit := do
  builder.mtu.forM device.setMtu
  builder.ipv4.forM (configIpv4 device)
  builder.ipv6.forM fun list => list.forM (configIpv6 device)
  builder.enabled.forM device.enabled

/-! ## What it makes of an interface -/

structure Link where
  mtu : Nat
  ipv4 : Set (Ipv4Addr × Nat)
  ipv6 : Set (Ipv6Addr × Nat)
  up : Bool

/-- An interface that is enabled may get addresses of its own, and a low MTU may cost it its IPv6
addresses. An IPv6 address that it has already may keep its prefix length. -/
structure Device.Lawful (device : Device σ) (link : σ → Link) : Prop where
  setMtu : ∀ mtu s result after, (device.setMtu mtu).on s = (result, after) →
    (link after).ipv4 = (link s).ipv4 ∧ (link after).up = (link s).up ∧
      (result = .ok () → (link after).mtu = mtu.toNat)
  setNetworkAddress : ∀ addr len destination s result after,
    (device.setNetworkAddress addr len destination).on s = (result, after) →
    (link after).mtu = (link s).mtu ∧ (link after).up = (link s).up ∧
      (result = .ok () → (link after).ipv4 = {(addr, len.toNat)})
  addAddressV6 : ∀ addr len s result after,
    (device.addAddressV6 addr len).on s = (result, after) →
    (link after).mtu = (link s).mtu ∧ (link after).ipv4 = (link s).ipv4 ∧
      (link after).up = (link s).up ∧ (link s).ipv6 ⊆ (link after).ipv6 ∧
      (result = .ok () → ∃ held, (addr, held) ∈ (link after).ipv6)
  enabled : ∀ value s result after, (device.enabled value).on s = (result, after) →
    (result = .ok () → (link after).up = value ∧ (value = true →
      (link after).mtu = (link s).mtu ∧ (link after).ipv4 = (link s).ipv4 ∧
        (link s).ipv6 ⊆ (link after).ipv6)) ∧
    (∀ error, result = .error error → (link after).up = (link s).up)

namespace Setting

def mtu? : Setting → Option UInt16
  | .mtu value => some value
  | _ => none

def ipv4? : Setting → Option Ipv4Request
  | @Setting.ipv4 _ _ _ _ address mask destination =>
    some ⟨ToIpv4Address.ipv4 address, ToIpv4Netmask.toPrefix mask,
      destination.map ToIpv4Address.ipv4⟩
  | _ => none

def ipv6? : Setting → Option Ipv6Request
  | @Setting.ipv6 _ _ _ _ address mask =>
    some ⟨ToIpv6Address.ipv6 address, ToIpv6Netmask.toPrefix mask⟩
  | _ => none

def enable? : Setting → Option Bool
  | .enable value => some value
  | _ => none

def last {γ : Type} (given : Setting → Option γ) (settings : List Setting) : Option γ :=
  (settings.filterMap given).getLast?

end Setting

def Ipv4Request.Converts (request : Ipv4Request) : Prop :=
  (∃ addr, request.address = .ok addr) ∧ (∃ len, request.prefixLen = .ok len) ∧
    ∃ destination, request.destination.mapM id = .ok destination

def Ipv6Request.Converts (request : Ipv6Request) : Prop :=
  (∃ addr, request.address = .ok addr) ∧ ∃ len, request.prefixLen = .ok len

/-- The interface has what the settings say, and it has kept the rest. -/
structure Asked (settings : List Setting) (before after : Link) : Prop where
  mtu : after.mtu = ((Setting.last Setting.mtu? settings).map UInt16.toNat).getD before.mtu
  ipv4 : ∀ request, Setting.last Setting.ipv4? settings = some request →
    ∃ addr len, request.address = .ok addr ∧ request.prefixLen = .ok len ∧
      after.ipv4 = {(addr, len.toNat)}
  ipv4Kept : Setting.last Setting.ipv4? settings = none → after.ipv4 = before.ipv4
  ipv6 : ∀ request ∈ settings.filterMap Setting.ipv6?,
    ∃ addr held, request.address = .ok addr ∧ (addr, held) ∈ after.ipv6

/-! ## The builder and its settings -/

namespace DeviceBuilder

variable {γ : Type} {builder : DeviceBuilder} {settings : List Setting}

theorem last_cons (given : Setting → Option γ) (setting : Setting) (settings : List Setting) :
    Setting.last given (setting :: settings) =
      (Setting.last given settings).or (given setting) := by
  unfold Setting.last
  cases here : given setting with
  | none => rw [List.filterMap_cons_none here, Option.or_none]
  | some value =>
    rw [List.filterMap_cons_some here, List.getLast?_cons]
    cases (settings.filterMap given).getLast? <;> rfl

theorem foldl_set {field : DeviceBuilder → Option γ} {given : Setting → Option γ}
    (each : ∀ builder setting, field (set builder setting) = (given setting).or (field builder))
    (builder : DeviceBuilder) (settings : List Setting) :
    field (settings.foldl set builder) = (Setting.last given settings).or (field builder) := by
  induction settings generalizing builder with
  | nil => rfl
  | cons setting settings ih => rw [List.foldl_cons, ih, each, last_cons, Option.or_assoc]

theorem of_mtu (settings : List Setting) :
    (of settings).mtu = Setting.last Setting.mtu? settings := by
  refine (foldl_set (fun builder setting => ?_) new settings).trans Option.or_none
  cases setting <;> rfl

theorem of_ipv4 (settings : List Setting) :
    (of settings).ipv4 = Setting.last Setting.ipv4? settings := by
  refine (foldl_set (fun builder setting => ?_) new settings).trans Option.or_none
  cases setting <;> rfl

theorem of_enabled (settings : List Setting) :
    (of settings).enabled = some ((Setting.last Setting.enable? settings).getD true) := by
  have replaced : (of settings).enabled =
      (Setting.last Setting.enable? settings).or (some true) := by
    refine foldl_set (fun builder setting => ?_) new settings
    cases setting <;> rfl
  rw [replaced]
  cases Setting.last Setting.enable? settings <;> rfl

theorem foldl_set_ipv6 (builder : DeviceBuilder) (settings : List Setting) :
    (settings.foldl set builder).ipv6.getD [] =
      builder.ipv6.getD [] ++ settings.filterMap Setting.ipv6? := by
  induction settings generalizing builder with
  | nil => exact (List.append_nil _).symm
  | cons setting settings ih =>
    rw [List.foldl_cons, ih]
    cases setting with
    | ipv6 address mask => cases held : builder.ipv6 <;> simp [set, held, Setting.ipv6?]
    | _ => rfl

theorem of_ipv6 (settings : List Setting) :
    (of settings).ipv6.getD [] = settings.filterMap Setting.ipv6? := foldl_set_ipv6 new settings

end DeviceBuilder

/-! ## Configuring a device -/

theorem not_exists_ok {γ : Type} {converted : Result γ} {error : IoError}
    (failed : converted = .error error) : ¬ ∃ value, converted = .ok value := by
  rintro ⟨value, ok⟩
  rw [failed] at ok
  cases ok

theorem configIpv4_cases {device : Device σ} {request : Ipv4Request}
    (ran : (configIpv4 device request).on s = (result, after)) :
    (∃ addr len destination, request.address = .ok addr ∧ request.prefixLen = .ok len ∧
      request.destination.mapM id = .ok destination ∧
      (device.setNetworkAddress addr len destination).on s = (result, after)) ∨
    (¬ request.Converts ∧ (∃ error, result = .error error) ∧ after = s) := by
  unfold configIpv4 at ran
  have refused (unconverted : ¬ request.Converts) {error : IoError}
      (same : (.error error, s) = (result, after)) :
      ¬ request.Converts ∧ (∃ error, result = .error error) ∧ after = s := by
    obtain ⟨rfl, rfl⟩ := Prod.mk.inj same
    exact ⟨unconverted, ⟨error, rfl⟩, rfl⟩
  cases lenResult : request.prefixLen with
  | error error =>
    rw [OsCall.on_ofResult_bind_error lenResult] at ran
    exact .inr (refused (fun converts => not_exists_ok lenResult converts.2.1) ran)
  | ok len =>
    rw [OsCall.on_ofResult_bind_ok lenResult] at ran
    cases addrResult : request.address with
    | error error =>
      rw [OsCall.on_ofResult_bind_error addrResult] at ran
      exact .inr (refused (fun converts => not_exists_ok addrResult converts.1) ran)
    | ok addr =>
      rw [OsCall.on_ofResult_bind_ok addrResult] at ran
      cases destResult : request.destination.mapM id with
      | error error =>
        rw [OsCall.on_ofResult_bind_error destResult] at ran
        exact .inr (refused (fun converts => not_exists_ok destResult converts.2.2) ran)
      | ok destination =>
        rw [OsCall.on_ofResult_bind_ok destResult] at ran
        exact .inl ⟨addr, len, destination, rfl, rfl, rfl, ran⟩

theorem configIpv6_cases {device : Device σ} {request : Ipv6Request}
    (ran : (configIpv6 device request).on s = (result, after)) :
    (∃ addr len, request.address = .ok addr ∧ request.prefixLen = .ok len ∧
      (device.addAddressV6 addr len).on s = (result, after)) ∨
    (¬ request.Converts ∧ (∃ error, result = .error error) ∧ after = s) := by
  unfold configIpv6 at ran
  cases lenResult : request.prefixLen with
  | error error =>
    rw [OsCall.on_ofResult_bind_error lenResult] at ran
    obtain ⟨rfl, rfl⟩ := Prod.mk.inj ran
    exact .inr ⟨fun converts => not_exists_ok lenResult converts.2, ⟨error, rfl⟩, rfl⟩
  | ok len =>
    rw [OsCall.on_ofResult_bind_ok lenResult] at ran
    cases addrResult : request.address with
    | error error =>
      rw [OsCall.on_ofResult_bind_error addrResult] at ran
      obtain ⟨rfl, rfl⟩ := Prod.mk.inj ran
      exact .inr ⟨fun converts => not_exists_ok addrResult converts.1, ⟨error, rfl⟩, rfl⟩
    | ok addr =>
      rw [OsCall.on_ofResult_bind_ok addrResult] at ran
      exact .inl ⟨addr, len, rfl, rfl, ran⟩

/-- What the loop over the IPv6 addresses keeps, whatever it adds. -/
def Link.Grows (before after : Link) : Prop :=
  after.mtu = before.mtu ∧ after.ipv4 = before.ipv4 ∧ after.up = before.up ∧
    before.ipv6 ⊆ after.ipv6

theorem Link.Grows.refl (link : Link) : link.Grows link := ⟨rfl, rfl, rfl, .rfl⟩

theorem Link.Grows.trans {before between after : Link} (first : before.Grows between)
    (second : between.Grows after) : before.Grows after :=
  ⟨second.1.trans first.1, second.2.1.trans first.2.1, second.2.2.1.trans first.2.2.1,
    first.2.2.2.trans second.2.2.2⟩

namespace Device.Lawful

variable {device : Device σ} {link : σ → Link} {settings : List Setting}

theorem configMtu_on (lawful : device.Lawful link) {mtu : Option UInt16}
    (ran : (mtu.forM device.setMtu).on s = (result, after)) :
    (link after).ipv4 = (link s).ipv4 ∧ (link after).up = (link s).up ∧
      (result = .ok () → (link after).mtu = (mtu.map UInt16.toNat).getD (link s).mtu) := by
  cases mtu with
  | none =>
    obtain ⟨-, rfl⟩ := Prod.mk.inj ran
    exact ⟨rfl, rfl, fun _ => rfl⟩
  | some mtu => exact lawful.setMtu mtu s result after ran

theorem configIpv4_on (lawful : device.Lawful link) {request : Option Ipv4Request}
    (ran : (request.forM (configIpv4 device)).on s = (result, after)) :
    (link after).mtu = (link s).mtu ∧ (link after).up = (link s).up ∧
    (∀ request', request = some request' →
      (result = .ok () → ∃ addr len, request'.address = .ok addr ∧ request'.prefixLen = .ok len ∧
        (link after).ipv4 = {(addr, len.toNat)}) ∧
      (¬ request'.Converts → (∃ error, result = .error error) ∧ after = s)) ∧
    (request = none → after = s) := by
  cases request with
  | none =>
    obtain ⟨-, rfl⟩ := Prod.mk.inj ran
    exact ⟨rfl, rfl, fun _ given => (Option.some_ne_none _ given.symm).elim, fun _ => rfl⟩
  | some request =>
    rcases configIpv4_cases ran with ⟨addr, len, destination, addrOk, lenOk, destOk, asked⟩ |
      ⟨unconverted, ⟨error, rfl⟩, rfl⟩
    · obtain ⟨mtu, up, sets⟩ := lawful.setNetworkAddress addr len destination s result after asked
      refine ⟨mtu, up, ?_, nofun⟩
      rintro _ ⟨⟩
      refine ⟨fun ok => ⟨addr, len, addrOk, lenOk, sets ok⟩, fun unconverted => ?_⟩
      exact absurd ⟨⟨addr, addrOk⟩, ⟨len, lenOk⟩, ⟨destination, destOk⟩⟩ unconverted
    · refine ⟨rfl, rfl, ?_, nofun⟩
      rintro _ ⟨⟩
      exact ⟨nofun, fun _ => ⟨⟨error, rfl⟩, rfl⟩⟩

theorem configIpv6_grows (lawful : device.Lawful link) (request : Ipv6Request) (s : σ) :
    (link s).Grows (link ((configIpv6 device request).on s).2) := by
  rcases ran : (configIpv6 device request).on s with ⟨result, after⟩
  rcases configIpv6_cases ran with ⟨addr, len, -, -, asked⟩ | ⟨-, -, rfl⟩
  · obtain ⟨mtu, ipv4, up, grows, -⟩ := lawful.addAddressV6 addr len s result after asked
    exact ⟨mtu, ipv4, up, grows⟩
  · exact .refl _

theorem configIpv6_done (lawful : device.Lawful link) {request : Ipv6Request}
    (ran : (configIpv6 device request).on s = (.ok (), after)) :
    ∃ addr held, request.address = .ok addr ∧ (∃ len, request.prefixLen = .ok len) ∧
      (addr, held) ∈ (link after).ipv6 := by
  rcases configIpv6_cases ran with ⟨addr, len, addrOk, lenOk, asked⟩ | ⟨-, ⟨error, failed⟩, -⟩
  · obtain ⟨held, among⟩ := (lawful.addAddressV6 addr len s _ after asked).2.2.2.2 rfl
    exact ⟨addr, held, addrOk, ⟨len, lenOk⟩, among⟩
  · cases failed

theorem configIpv6List_on (lawful : device.Lawful link) {requests : Option (List Ipv6Request)}
    (ran : (requests.forM fun list => list.forM (configIpv6 device)).on s = (result, after)) :
    (link s).Grows (link after) ∧ (result = .ok () → ∀ request ∈ requests.getD [],
      ∃ addr held, request.address = .ok addr ∧ (∃ len, request.prefixLen = .ok len) ∧
        (addr, held) ∈ (link after).ipv6) := by
  cases requests with
  | none =>
    obtain ⟨-, rfl⟩ := Prod.mk.inj ran
    exact ⟨.refl _, fun _ => List.forall_mem_nil _⟩
  | some list =>
    replace ran : (list.forM (configIpv6 device)).on s = (result, after) := ran
    have each : ∀ request ∈ list, ∀ s,
        (link s).Grows (link ((configIpv6 device request).on s).2) :=
      fun request _ => lawful.configIpv6_grows request
    have related := OsCall.on_forM_related (r := fun s after => (link s).Grows (link after))
      (fun s => .refl (link s)) (fun _ _ _ => .trans) each s
    rw [ran] at related
    refine ⟨related, ?_⟩
    rintro rfl
    refine OsCall.on_forM_done (r := fun s after => (link s).Grows (link after))
      (fun s => .refl (link s)) (fun _ _ _ => .trans) each
      (fun request _ s after => lawful.configIpv6_done) ?_ ran
    rintro request s after ⟨-, -, -, more⟩ ⟨addr, held, addrOk, lenOk, among⟩
    exact ⟨addr, held, addrOk, lenOk, more among⟩

/-- The interface that a builder leaves behind. It is what was asked for when nothing fails; when
something fails it is as up or down as before, and arguments that do not convert make it fail. -/
theorem config_on (lawful : device.Lawful link)
    (ran : ((DeviceBuilder.of settings).config device).on s = (result, after)) :
    (result = .ok () →
      (link after).up = (Setting.last Setting.enable? settings).getD true ∧
      ((link after).up = true → Asked settings (link s) (link after)) ∧
      (∀ request, Setting.last Setting.ipv4? settings = some request → request.Converts) ∧
      ∀ request ∈ settings.filterMap Setting.ipv6?, request.Converts) ∧
    (∀ error, result = .error error → (link after).up = (link s).up) ∧
    ((∃ request, Setting.last Setting.ipv4? settings = some request ∧ ¬ request.Converts) →
      (link after).ipv4 = (link s).ipv4) := by
  rw [← DeviceBuilder.of_ipv4, ← DeviceBuilder.of_ipv6]
  unfold DeviceBuilder.config at ran
  rw [DeviceBuilder.of_enabled] at ran
  rcases OsCall.on_bind_cases ran with ⟨error, mtuRan, rfl⟩ | ⟨_, mtuSet, mtuRan, rest⟩
  · obtain ⟨ipv4, up, -⟩ := lawful.configMtu_on mtuRan
    exact ⟨nofun, fun _ _ => up, fun _ => ipv4⟩
  obtain ⟨mtuIpv4, mtuUp, mtuSets⟩ := lawful.configMtu_on mtuRan
  rcases OsCall.on_bind_cases rest with ⟨error, ipv4Ran, rfl⟩ | ⟨_, ipv4Set, ipv4Ran, rest⟩
  · obtain ⟨-, up, refuses, -⟩ := lawful.configIpv4_on ipv4Ran
    refine ⟨nofun, fun _ _ => up.trans mtuUp, ?_⟩
    rintro ⟨request, given, unconverted⟩
    obtain ⟨-, rfl⟩ := (refuses request given).2 unconverted
    exact mtuIpv4
  obtain ⟨ipv4Mtu, ipv4Up, ipv4Sets, ipv4Keeps⟩ := lawful.configIpv4_on ipv4Ran
  -- From here on the IPv4 arguments have converted.
  have converted : ∀ request, (DeviceBuilder.of settings).ipv4 = some request →
      request.Converts := by
    intro request given
    by_contra unconverted
    obtain ⟨⟨error, failed⟩, -⟩ := (ipv4Sets request given).2 unconverted
    cases failed
  have unrefused : (∃ request, (DeviceBuilder.of settings).ipv4 = some request ∧
      ¬ request.Converts) → (link after).ipv4 = (link s).ipv4 :=
    fun ⟨request, given, unconverted⟩ => absurd (converted request given) unconverted
  rcases OsCall.on_bind_cases rest with ⟨error, ipv6Ran, rfl⟩ | ⟨_, ipv6Set, ipv6Ran, rest⟩
  · obtain ⟨⟨-, -, up, -⟩, -⟩ := lawful.configIpv6List_on ipv6Ran
    exact ⟨nofun, fun _ _ => up.trans (ipv4Up.trans mtuUp), unrefused⟩
  obtain ⟨⟨ipv6Mtu, ipv6Ipv4, ipv6Up, -⟩, ipv6Adds⟩ := lawful.configIpv6List_on ipv6Ran
  have added := ipv6Adds rfl
  obtain ⟨enables, keeps⟩ := lawful.enabled _ ipv6Set result after rest
  refine ⟨fun ok => ⟨(enables ok).1, fun up => ?_, converted, fun request given => ?_⟩,
    fun error failed => (keeps error failed).trans (ipv6Up.trans (ipv4Up.trans mtuUp)), unrefused⟩
  · obtain ⟨lastMtu, lastIpv4, lastIpv6⟩ := (enables ok).2 ((enables ok).1.symm.trans up)
    constructor
    case mtu =>
      rw [lastMtu, ipv6Mtu, ipv4Mtu, mtuSets rfl, DeviceBuilder.of_mtu]
    case ipv4 =>
      rw [← DeviceBuilder.of_ipv4, lastIpv4, ipv6Ipv4]
      exact fun request given => (ipv4Sets request given).1 rfl
    case ipv4Kept =>
      rw [← DeviceBuilder.of_ipv4, lastIpv4, ipv6Ipv4]
      intro none
      rw [ipv4Keeps none, mtuIpv4]
    case ipv6 =>
      rw [← DeviceBuilder.of_ipv6]
      intro request given
      obtain ⟨addr, held, addrOk, -, among⟩ := added request given
      exact ⟨addr, held, addrOk, lastIpv6 among⟩
  · obtain ⟨addr, held, addrOk, lenOk, -⟩ := added request given
    exact ⟨⟨addr, addrOk⟩, lenOk⟩

end Device.Lawful

structure Device.KeepsButIpv4 {γ : Type} (device : Device σ) (view : σ → γ) : Prop where
  setMtu : ∀ mtu, (device.setMtu mtu).Keeps view
  addAddressV6 : ∀ addr len, (device.addAddressV6 addr len).Keeps view
  enable : ∀ s after, (device.enabled true).on s = (.ok (), after) → view after = view s

theorem Device.KeepsButIpv4.config_on {γ : Type} {device : Device σ} {view : σ → γ}
    {settings : List Setting} (keeps : device.KeepsButIpv4 view)
    (ran : ((DeviceBuilder.of settings).config device).on s = (.ok (), after))
    (up : (Setting.last Setting.enable? settings).getD true = true) :
    (Setting.last Setting.ipv4? settings = none → view after = view s) ∧
    ∀ request, Setting.last Setting.ipv4? settings = some request →
      ∃ addr len destination before set, request.destination.mapM id = .ok destination ∧
        (device.setNetworkAddress addr len destination).on before = (.ok (), set) ∧
        view after = view set := by
  rw [← DeviceBuilder.of_ipv4]
  unfold DeviceBuilder.config at ran
  rw [DeviceBuilder.of_enabled, up] at ran
  rcases OsCall.on_bind_cases ran with ⟨_, -, failed⟩ | ⟨_, mtuSet, mtuRan, rest⟩
  · cases failed
  have first := (OsCall.Keeps.optionForM keeps.setMtu).of_on mtuRan
  rcases OsCall.on_bind_cases rest with ⟨_, -, failed⟩ | ⟨_, ipv4Set, ipv4Ran, rest⟩
  · cases failed
  rcases OsCall.on_bind_cases rest with ⟨_, -, failed⟩ | ⟨_, ipv6Set, ipv6Ran, rest⟩
  · cases failed
  have each (request : Ipv6Request) : (configIpv6 device request).Keeps view :=
    .bind (.ofResult _) fun _ => .bind (.ofResult _) fun _ => keeps.addAddressV6 _ _
  have ipv6Same := (OsCall.Keeps.optionForM fun list => .forM each).of_on ipv6Ran
  have last : view after = view ipv4Set := (keeps.enable ipv6Set after rest).trans ipv6Same
  cases given : (DeviceBuilder.of settings).ipv4 with
  | none =>
    rw [given] at ipv4Ran
    obtain ⟨-, rfl⟩ := Prod.mk.inj ipv4Ran
    exact ⟨fun _ => last.trans first, fun _ given => (Option.some_ne_none _ given.symm).elim⟩
  | some request =>
    rw [given] at ipv4Ran
    refine ⟨nofun, ?_⟩
    rintro _ ⟨⟩
    rcases configIpv4_cases ipv4Ran with ⟨addr, len, destination, -, -, converted, set⟩ |
      ⟨-, ⟨_, failed⟩, -⟩
    · exact ⟨addr, len, destination, mtuSet, ipv4Set, converted, set, last⟩
    · cases failed

end QuincyTun.Config
