import QuincyTun.Linux.Device
import Mathlib.Data.List.Nodup

/-! What a change of the IPv4 address leaves behind when an argument does not convert.

The old addresses are removed first. So the change is harmless exactly if nothing was
removed, or if what was configured since is what was there before.
-/

set_option autoImplicit false

namespace QuincyTun.Linux

open QuincyTun.Foundation QuincyTun.Config

variable {σ : Type} {kernel : Kernel σ} {assigned : Ipv4Addr → Option IpNet} {s after : σ}
  {nets : List IpNet} {error : IoError}

/-! ## Removing the old addresses -/

namespace Kernel.Lawful

theorem removed_subset (lawful : kernel.Lawful assigned)
    (ipv4 : ∀ net ∈ nets, net.addr.isIpv4 = true) (s : σ) :
    kernel.configured ((nets.forM kernel.removeAddress).on s).2 ⊆ kernel.configured s := by
  induction nets generalizing s with
  | nil => exact Set.Subset.rfl
  | cons first rest ih =>
    rw [OsCall.on_forM_cons]
    cases ran : (kernel.removeAddress first).on s with | mk result between =>
      cases result with
      | error error => exact (lawful.removeFails first s error between ran).subset
      | ok =>
        have removes := lawful.removeRemoves first s between (ipv4 first List.mem_cons_self) ran
        exact (ih (fun net among => ipv4 net (List.mem_cons_of_mem _ among)) between).trans
          removes.2.1

theorem removed_all (lawful : kernel.Lawful assigned)
    (ipv4 : ∀ net ∈ nets, net.addr.isIpv4 = true)
    (ran : (nets.forM kernel.removeAddress).on s = (.ok (), after)) :
    (∀ net ∈ nets, net ∉ kernel.configured after) ∧
      ∀ other ∈ kernel.configured s, other.addr.isIpv4 = false →
        other ∈ kernel.configured after := by
  induction nets generalizing s with
  | nil =>
    obtain ⟨-, rfl⟩ := Prod.mk.inj ran
    exact ⟨nofun, fun other among _ => among⟩
  | cons first rest ih =>
    rw [OsCall.on_forM_cons] at ran
    cases removed : (kernel.removeAddress first).on s with | mk result between =>
      rw [removed] at ran
      cases result with
      | error error => cases ran
      | ok =>
        obtain ⟨gone, -, kept⟩ :=
          lawful.removeRemoves first s between (ipv4 first List.mem_cons_self) removed
        have restIpv4 : ∀ net ∈ rest, net.addr.isIpv4 = true :=
          fun net among => ipv4 net (List.mem_cons_of_mem _ among)
        obtain ⟨restGone, restKept⟩ := ih restIpv4 ran
        replace ran : (rest.forM kernel.removeAddress).on between = (.ok (), after) := ran
        have subset := lawful.removed_subset restIpv4 between
        rw [ran] at subset
        refine ⟨fun net among => ?_, fun other among v6 => restKept other (kept other among v6) v6⟩
        rcases List.mem_cons.mp among with rfl | later
        · exact fun remains => gone (subset remains)
        · exact restGone net later

theorem removed_some (lawful : kernel.Lawful assigned)
    (ipv4 : ∀ net ∈ nets, net.addr.isIpv4 = true)
    (ran : (nets.forM kernel.removeAddress).on s = (.error error, after)) :
    (∃ first rest refusal, nets = first :: rest ∧
      ((kernel.removeAddress first).on s).1 = .error refusal ∧
        kernel.configured after = kernel.configured s) ∨
    ∃ first rest, nets = first :: rest ∧ ((kernel.removeAddress first).on s).1 = .ok () ∧
      first ∉ kernel.configured after := by
  cases nets with
  | nil => cases ran
  | cons first rest =>
    rw [OsCall.on_forM_cons] at ran
    cases removed : (kernel.removeAddress first).on s with | mk result between =>
      rw [removed] at ran
      cases result with
      | error refusal =>
        obtain ⟨-, rfl⟩ := Prod.mk.inj ran
        exact .inl ⟨first, rest, refusal, rfl, by rw [removed],
          lawful.removeFails first s refusal _ removed⟩
      | ok =>
        replace ran : (rest.forM kernel.removeAddress).on between = (.error error, after) := ran
        have subset := lawful.removed_subset
          (fun net among => ipv4 net (List.mem_cons_of_mem _ among)) between
        rw [ran] at subset
        have gone :=
          (lawful.removeRemoves first s between (ipv4 first List.mem_cons_self) removed).1
        exact .inr ⟨first, rest, rfl, by rw [removed], fun remains => gone (subset remains)⟩

end Kernel.Lawful

/-! ## Configuring the new address -/

variable {α β : Type} [ToIpv4Address α] [ToIpv4Netmask β]

def finish (kernel : Kernel σ) (netmask : β) (destination : Option α) : OsCall σ Unit := do
  kernel.siocsifnetmask (← OsCall.ofResult (ToIpv4Netmask.netmask netmask))
  match destination with
  | some destination =>
    kernel.siocsifdstaddr (← OsCall.ofResult (ToIpv4Address.ipv4 destination))
  | none => pure ()

def configure (kernel : Kernel σ) (address : α) (netmask : β) (destination : Option α) :
    OsCall σ Unit := do
  kernel.siocsifaddr (← OsCall.ofResult (ToIpv4Address.ipv4 address))
  finish kernel netmask destination

theorem setNetworkAddress_eq (address : α) (netmask : β) (destination : Option α) :
    setNetworkAddress kernel address netmask destination =
      removeAllAddressV4 kernel >>= fun _ => configure kernel address netmask destination := rfl

def masked (kernel : Kernel σ) (mask : Result Ipv4Addr) (s : σ) (net : IpNet) : IpNet :=
  match mask with
  | .error _ => net
  | .ok mask =>
    match (kernel.siocsifnetmask mask).on s with
    | (.error _, _) => net
    | (.ok _, _) => { net with prefixLen := leadingOnes mask }

/-- The IPv4 address that is configured, after the old ones are gone, when the call gives up. -/
def interim (kernel : Kernel σ) (assigned : Ipv4Addr → Option IpNet)
    (address mask : Result Ipv4Addr) (s : σ) : Option IpNet :=
  match address with
  | .error _ => none
  | .ok addr =>
    match (kernel.siocsifaddr addr).on s with
    | (.error _, _) => none
    | (.ok _, after) => (assigned addr).map (masked kernel mask after)

namespace Kernel.Lawful

variable {address : α} {netmask : β} {destination : Option α}

theorem finish_fails (lawful : kernel.Lawful assigned) {base : Set IpNet} {addr : Ipv4Addr}
    (fails : (∃ error, ToIpv4Netmask.netmask netmask = .error error) ∨
      ∃ error, destination.mapM ToIpv4Address.ipv4 = .error error)
    (noIpv4 : ∀ net ∈ base, net.addr.isIpv4 = false)
    (set : kernel.configured s = base ∪ {net | assigned addr = some net}) :
    (∃ error, ((finish kernel netmask destination).on s).1 = .error error) ∧
      kernel.configured ((finish kernel netmask destination).on s).2 =
        base ∪ {net | (assigned addr).map (masked kernel (ToIpv4Netmask.netmask netmask) s) =
          some net} := by
  unfold finish
  -- As long as the mask is not set, the address has the prefix length that the kernel chose.
  have unmasked {after : σ} (same : masked kernel (ToIpv4Netmask.netmask netmask) s = id)
      (kept : kernel.configured after = kernel.configured s) :
      kernel.configured after = base ∪
        {net | (assigned addr).map (masked kernel (ToIpv4Netmask.netmask netmask) s) =
          some net} := by
    rw [same, Option.map_id_apply, kept, set]
  cases converted : ToIpv4Netmask.netmask netmask with
  | error error =>
    rw [converted] at unmasked
    rw [OsCall.on_ofResult_bind_error rfl]
    exact ⟨⟨error, rfl⟩, unmasked rfl rfl⟩
  | ok mask =>
    rw [converted] at unmasked
    rw [OsCall.on_ofResult_bind_ok rfl, OsCall.on_bind]
    cases ran : (kernel.siocsifnetmask mask).on s with | mk result after =>
      cases result with
      | error error =>
        refine ⟨⟨error, rfl⟩, unmasked (funext fun net => ?_) ?_⟩
        · simp only [masked, ran, id_eq]
        · exact lawful.siocsifnetmaskFails mask s error after ran
      | ok =>
        -- The mask converts, so it is the destination that does not.
        obtain ⟨_, failed⟩ | ⟨error, failed⟩ := fails
        · rw [converted] at failed
          cases failed
        cases destination with
        | none => cases failed
        | some destination =>
          simp only []
          cases unresolved : ToIpv4Address.ipv4 destination with
          | ok value =>
            rw [Option.mapM_some, unresolved] at failed
            cases failed
          | error error =>
            rw [OsCall.on_ofResult_bind_error rfl]
            refine ⟨⟨error, rfl⟩, ?_⟩
            cases entry : assigned addr with
            | none =>
              rw [entry] at set
              obtain ⟨refusal, refused, absent⟩ := lawful.siocsifnetmaskNeeds mask s
                (by rw [set]; simpa using noIpv4)
              rw [ran] at absent
              cases absent
            | some net =>
              obtain ⟨netAddr, len⟩ := net
              obtain rfl := lawful.assignedIpv4 addr _ entry
              have changed := lawful.siocsifnetmaskSets mask s after base addr len ran noIpv4
                (by rw [set, entry]; simp)
              rw [Option.map_some, masked, ran]
              simpa using changed

theorem configure_fails (lawful : kernel.Lawful assigned)
    (fails : ConversionFails address (ToIpv4Netmask.netmask netmask) destination)
    (noIpv4 : ∀ net ∈ kernel.configured s, net.addr.isIpv4 = false) :
    (∃ error, ((configure kernel address netmask destination).on s).1 = .error error) ∧
      kernel.configured ((configure kernel address netmask destination).on s).2 =
        kernel.configured s ∪ {net | interim kernel assigned (ToIpv4Address.ipv4 address)
          (ToIpv4Netmask.netmask netmask) s = some net} := by
  unfold configure interim
  cases converted : ToIpv4Address.ipv4 address with
  | error error =>
    rw [OsCall.on_ofResult_bind_error rfl]
    exact ⟨⟨error, rfl⟩, by simp⟩
  | ok addr =>
    rw [OsCall.on_ofResult_bind_ok rfl, OsCall.on_bind]
    simp only []
    cases ran : (kernel.siocsifaddr addr).on s with | mk result set =>
      cases result with
      | error error =>
        exact ⟨⟨error, rfl⟩, (lawful.siocsifaddrFails addr s error set ran).trans (by simp)⟩
      | ok =>
        refine lawful.finish_fails ?_ noIpv4 (lawful.siocsifaddrSets addr s set ran noIpv4)
        obtain ⟨_, failed⟩ | later := fails
        · rw [converted] at failed
          cases failed
        · exact later

theorem interim_isIpv4 (lawful : kernel.Lawful assigned) {address mask : Result Ipv4Addr}
    {net : IpNet} (found : interim kernel assigned address mask s = some net) :
    net.addr.isIpv4 = true := by
  unfold interim at found
  cases address with
  | error => cases found
  | ok addr =>
    simp only [] at found
    split at found
    case h_1 => cases found
    case h_2 after ran =>
      obtain ⟨before, entry, rfl⟩ := Option.map_eq_some_iff.mp found
      have sameAddr : (masked kernel mask after before).addr = before.addr := by
        unfold masked
        split
        · rfl
        · split <;> rfl
      rw [sameAddr, lawful.assignedIpv4 addr before entry]
      rfl

end Kernel.Lawful

/-- What `set_network_address` does before an argument does not convert is harmless: nothing was
removed, or the old addresses are back. -/
def Unharmed (kernel : Kernel σ) (assigned : Ipv4Addr → Option IpNet)
    (address mask : Result Ipv4Addr) (s : σ) : Prop :=
  match kernel.addresses.on s with
  | (.error _, _) => True
  | (.ok list, listed) =>
    let old := list.filter fun net => net.addr.isIpv4
    match (old.forM kernel.removeAddress).on listed with
    | (.error _, _) => ∃ first rest refusal, old = first :: rest ∧
        ((kernel.removeAddress first).on listed).1 = .error refusal
    | (.ok _, removed) => old = (interim kernel assigned address mask removed).toList

theorem eq_toList_of_mem_iff {nets : List IpNet} {net : Option IpNet} (nodup : nets.Nodup)
    (same : ∀ other, other ∈ nets ↔ net = some other) : nets = net.toList := by
  cases net with
  | none => exact List.eq_nil_iff_forall_not_mem.mpr fun other among => nomatch (same other).mp among
  | some net =>
    refine List.perm_singleton.mp ((List.perm_ext_iff_of_nodup nodup (List.nodup_singleton net)).mpr
      fun other => ?_)
    rw [same, List.mem_singleton, Option.some.injEq, eq_comm]

theorem union_interim_iff {before after : Set IpNet} {list : List IpNet} {interim : Option IpNet}
    (nodup : list.Nodup) (complete : ∀ net, net ∈ list ↔ net ∈ before) (fewer : after ⊆ before)
    (noIpv4 : ∀ net ∈ after, net.addr.isIpv4 = false)
    (kept : ∀ net ∈ before, net.addr.isIpv4 = false → net ∈ after)
    (isIpv4 : ∀ net, interim = some net → net.addr.isIpv4 = true) :
    after ∪ {net | interim = some net} = before ↔
      list.filter (fun net => net.addr.isIpv4) = interim.toList := by
  have old (net : IpNet) : net ∈ list.filter (fun net => net.addr.isIpv4) ↔
      net ∈ before ∧ net.addr.isIpv4 = true := by
    rw [List.mem_filter, complete]
  constructor
  · intro same
    refine eq_toList_of_mem_iff (nodup.filter _) fun net => ?_
    rw [old, ← same]
    constructor
    · rintro ⟨left | found, ipv4⟩
      · exact absurd ipv4 (Bool.not_eq_true _ ▸ noIpv4 net left)
      · exact found
    · exact fun found => ⟨.inr found, isIpv4 net found⟩
  · intro same
    ext net
    constructor
    · rintro (left | found)
      · exact fewer left
      · exact ((old net).mp (same ▸ Option.mem_toList.mpr found)).1
    · intro among
      by_cases ipv4 : net.addr.isIpv4 = true
      · have member := (old net).mpr ⟨among, ipv4⟩
        rw [same] at member
        exact .inr (Option.mem_toList.mp member)
      · exact .inl (kept net among (Bool.not_eq_true _ ▸ ipv4))

theorem keepsAddresses_iff (lawful : kernel.Lawful assigned) {address : α} {netmask : β}
    {destination : Option α}
    (fails : ConversionFails address (ToIpv4Netmask.netmask netmask) destination) :
    ((∃ error, ((setNetworkAddress kernel address netmask destination).on s).1 = .error error) ∧
      kernel.configured ((setNetworkAddress kernel address netmask destination).on s).2 =
        kernel.configured s) ↔
      Unharmed kernel assigned (ToIpv4Address.ipv4 address) (ToIpv4Netmask.netmask netmask) s := by
  rw [setNetworkAddress_eq, OsCall.on_bind, removeAllAddressV4, OsCall.on_bind, Unharmed]
  cases listed : kernel.addresses.on s with | mk result afterList =>
    cases result with
    | error error =>
      exact iff_of_true ⟨⟨error, rfl⟩, lawful.addressesFails s error afterList listed⟩ trivial
    | ok list =>
      obtain ⟨nodup, complete⟩ := lawful.addressesLists s list afterList listed
      have sameList := lawful.addressesKeeps s list afterList listed
      have oldOf (net : IpNet) : net ∈ list.filter (fun net => net.addr.isIpv4) ↔
          net ∈ kernel.configured s ∧ net.addr.isIpv4 = true := by
        rw [List.mem_filter, complete]
      have oldIpv4 : ∀ net ∈ list.filter (fun net => net.addr.isIpv4), net.addr.isIpv4 = true :=
        fun net among => ((oldOf net).mp among).2
      simp only []
      cases removed : ((list.filter fun net => net.addr.isIpv4).forM kernel.removeAddress).on
          afterList with | mk result after =>
        cases result with
        | error error =>
          rcases lawful.removed_some oldIpv4 removed with ⟨first, rest, refusal, old, refused, same⟩ |
            ⟨first, rest, old, accepted, gone⟩
          · exact iff_of_true ⟨⟨error, rfl⟩, same.trans sameList⟩ ⟨first, rest, refusal, old, refused⟩
          -- An address is gone that was there before, and the removal of the first one succeeded.
          · refine iff_of_false ?_ ?_
            · rintro ⟨-, same⟩
              have member := ((oldOf first).mp (old ▸ List.mem_cons_self)).1
              exact gone (same ▸ member)
            · rintro ⟨other, _, refusal, sameOld, refused⟩
              obtain ⟨rfl, -⟩ := List.cons.inj (old.symm.trans sameOld)
              rw [accepted] at refused
              cases refused
        | ok =>
          obtain ⟨gone, kept⟩ := lawful.removed_all oldIpv4 removed
          have subset := lawful.removed_subset oldIpv4 afterList
          rw [removed, sameList] at subset
          rw [sameList] at kept
          have noIpv4 : ∀ net ∈ kernel.configured after, net.addr.isIpv4 = false := by
            intro net among
            by_contra isIpv4
            exact gone net ((oldOf net).mpr ⟨subset among, Bool.not_eq_false _ ▸ isIpv4⟩) among
          obtain ⟨failed, changed⟩ := lawful.configure_fails fails noIpv4
          simp only []
          rw [changed, and_iff_right failed]
          exact union_interim_iff nodup complete subset noIpv4 kept fun net found =>
            lawful.interim_isIpv4 found

end QuincyTun.Linux
