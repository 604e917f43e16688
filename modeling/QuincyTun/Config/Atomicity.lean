import QuincyTun.Freebsd.Device
import QuincyTun.Linux.AddressChange
import QuincyTun.Macos.Device
import QuincyTun.Windows.Device

/-! Changes of the network address with arguments that do not convert, on all platforms. -/

set_option autoImplicit false

namespace QuincyTun.Config

open QuincyTun.Foundation

variable {σ α β : Type} [ToIpv4Address α] [ToIpv4Netmask β]

theorem keepsAddresses_of_unchanged {configured : σ → Set IpNet} {call : OsCall σ Unit}
    {fails : Prop} {s : σ} (unchanged : fails → ∃ error, call.on s = (.error error, s)) :
    KeepsAddresses configured call fails s := by
  intro failed
  obtain ⟨error, ran⟩ := unchanged failed
  rw [ran]
  exact ⟨⟨error, rfl⟩, rfl⟩

/-- On macOS, FreeBSD and Windows a change of the address with an argument that does not convert
keeps the addresses. On Linux it does so exactly if it is harmless. -/
theorem setNetworkAddress_keepsAddresses (address : α) (netmask : β) (destination : Option α)
    (s : σ) :
    (∀ (kernel : Macos.Kernel σ) (associateRoute : Bool) (configured : σ → Set IpNet),
      KeepsAddresses configured
        (Macos.setNetworkAddress kernel associateRoute address netmask destination)
        (ConversionFails address (ToIpv4Netmask.netmask netmask) destination) s) ∧
    (∀ (kernel : Freebsd.Kernel σ) (associateRoute : Bool) (configured : σ → Set IpNet),
      KeepsAddresses configured
        (Freebsd.setNetworkAddress kernel associateRoute address netmask destination)
        (ConversionFails address (ToIpv4Netmask.netmask netmask) destination) s) ∧
    (∀ (kernel : Windows.Kernel σ) (index : Nat) (configured : σ → Set IpNet),
      KeepsAddresses configured (Windows.setNetworkAddress kernel index address netmask destination)
        (ConversionFails address (ToIpv4Netmask.toPrefix netmask) destination) s) ∧
    ∀ (kernel : Linux.Kernel σ) (assigned : Ipv4Addr → Option IpNet), kernel.Lawful assigned →
      (KeepsAddresses kernel.configured
        (Linux.setNetworkAddress kernel address netmask destination)
        (ConversionFails address (ToIpv4Netmask.netmask netmask) destination) s ↔
      (ConversionFails address (ToIpv4Netmask.netmask netmask) destination →
        Linux.Unharmed kernel assigned (ToIpv4Address.ipv4 address)
          (ToIpv4Netmask.netmask netmask) s)) := by
  refine ⟨fun kernel associateRoute configured => ?_, fun kernel associateRoute configured => ?_,
    fun kernel index configured => ?_, fun kernel assigned lawful => ?_⟩
  · exact keepsAddresses_of_unchanged (Macos.setNetworkAddress_fails kernel associateRoute s)
  · exact keepsAddresses_of_unchanged (Freebsd.setNetworkAddress_fails kernel associateRoute s)
  · exact keepsAddresses_of_unchanged (Windows.setNetworkAddress_fails kernel index s)
  · exact forall_congr' fun fails => Linux.keepsAddresses_iff lawful fails

/-- `10.0.0.1` is set again with a mask that does not convert, on an interface that has this address
with the mask of a point-to-point interface. -/
theorem setNetworkAddress_keepsAddresses_sameAddress :
    let fails := ConversionFails (0x0a000001 : Ipv4Addr) (ToIpv4Netmask.netmask (33 : UInt8)) none
    let before : List IpNet := [⟨.v4 0x0a000001, 32⟩, ⟨.v6 1, 64⟩]
    KeepsAddresses Linux.plainKernel.configured
        (Linux.setNetworkAddress Linux.plainKernel (0x0a000001 : Ipv4Addr) (33 : UInt8) none)
        fails before ∧
      KeepsAddresses (fun nets => {net | net ∈ nets})
        (Freebsd.setNetworkAddress Freebsd.plainKernel true (0x0a000001 : Ipv4Addr) (33 : UInt8)
          none) fails before := by
  intro fails before
  obtain ⟨-, freebsd, -, linux⟩ :=
    setNetworkAddress_keepsAddresses (0x0a000001 : Ipv4Addr) (33 : UInt8) none before
  refine ⟨(linux Linux.plainKernel Linux.pointToPoint Linux.plainKernel_lawful).mpr fun _ => ?_,
    freebsd Freebsd.plainKernel true _⟩
  change [_] = _
  decide

/-- `10.0.0.1/24` is lost because the prefix length of its successor is too large. -/
theorem setNetworkAddress_losesAddress :
    Linux.plainKernel.Lawful Linux.pointToPoint ∧
      ¬ KeepsAddresses Linux.plainKernel.configured
        (Linux.setNetworkAddress Linux.plainKernel (0x0a010001 : Ipv4Addr) (33 : UInt8) none)
        (ConversionFails (0x0a010001 : Ipv4Addr) (ToIpv4Netmask.netmask (33 : UInt8)) none)
        [⟨.v4 0x0a000001, 24⟩] := by
  refine ⟨Linux.plainKernel_lawful, fun keeps => ?_⟩
  have fails : ConversionFails (0x0a010001 : Ipv4Addr) (ToIpv4Netmask.netmask (33 : UInt8)) none :=
    .inr (.inl ⟨_, rfl⟩)
  obtain ⟨-, same⟩ := keeps fails
  have lost : (⟨.v4 0x0a000001, 24⟩ : IpNet) ∉ ([⟨.v4 0x0a010001, 32⟩] : List IpNet) := by decide
  exact lost ((Set.ext_iff.mp same _).mpr List.mem_cons_self)

end QuincyTun.Config
