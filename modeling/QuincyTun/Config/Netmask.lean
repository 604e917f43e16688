import QuincyTun.Config.Address
import QuincyTun.Foundation.PrefixMask

/-! Prefix lengths and netmasks of both address families.

A family has a width, a range of prefix lengths and one test of masks. Both
directions of its conversion are inverse to each other on that range, and the
shift amount is computed by a subtraction that never wraps around.
-/

set_option autoImplicit false

namespace QuincyTun.Config

open QuincyTun.Foundation

/-! ## The conversions of both families -/

/-- `MAX.checked_shl(width - self.prefix()? as u32).unwrap_or(0)` with the subtraction checked -/
def netmaskOf (w : Nat) (prefixLen : Result UInt8) : Run (Result (BitVec w)) :=
  match prefixLen with
  | .error error => pure (.error error)
  | .ok len => do
    let amount ← subLen w len.toNat
    pure (.ok ((checkedShl (BitVec.allOnes w) amount).getD 0))

class ToIpv6Netmask (α : Type) where
  toPrefix : α → Result UInt8
  netmask : α → Run (Result Ipv6Addr) := fun value => netmaskOf 128 (toPrefix value)

instance : ToIpv6Netmask UInt8 where
  toPrefix len := if len > 128 then invalidData "invalid IP prefix length" else .ok len

/-- The prefix length of an IPv6 mask whose ones all come first. -/
def prefixOfMaskV6 (mask : Ipv6Addr) : Result UInt8 :=
  if leadingOnes mask ≠ countOnes mask then invalidData "invalid netmask"
  else .ok (UInt8.ofNat (leadingOnes mask))

instance : ToIpv6Netmask Ipv6Addr where
  toPrefix := prefixOfMaskV6

/-! ## One family -/

variable {w : Nat}

theorem leadingOnes_eq {mask : BitVec w} {len : Nat} (ones : IsPrefixMask mask len) :
    leadingOnes mask = len := leading_of_first ones.1 ones.2

theorem leadingOnes_le (mask : BitVec w) : leadingOnes mask ≤ w := by
  have part := (List.takeWhile_sublist mask.getMsbD (l := List.range w)).length_le
  rwa [List.length_range] at part

/-- The test of the source accepts exactly the masks whose ones all come first. -/
theorem leadingOnes_eq_countOnes_iff (mask : BitVec w) :
    leadingOnes mask = countOnes mask ↔ IsPrefixMask mask (leadingOnes mask) := by
  rw [leadingOnes, countOnes, leading_eq_count_iff]
  exact ⟨fun ones => ⟨leadingOnes_le mask, ones⟩, fun ones => ones.2⟩

/-- How a prefix length and a mask convert in a family of width `w`: what `prefix` and
`netmask` compute from each of them. -/
structure Family (w : Nat) where
  ofLength : UInt8 → Result UInt8
  ofMask : BitVec w → Result UInt8
  netmaskLength : UInt8 → Run (Result (BitVec w))
  netmaskMask : BitVec w → Run (Result (BitVec w))

structure Family.Checked (family : Family w) : Prop where
  narrow : w < 256
  ofLength_ok : ∀ len : UInt8, len.toNat ≤ w → family.ofLength len = .ok len
  ofLength_error : ∀ len : UInt8, w < len.toNat → ∃ error, family.ofLength len = .error error
  ofMask_ok : ∀ mask, leadingOnes mask = countOnes mask →
    family.ofMask mask = .ok (UInt8.ofNat (leadingOnes mask))
  ofMask_error : ∀ mask, leadingOnes mask ≠ countOnes mask →
    ∃ error, family.ofMask mask = .error error
  netmaskLength_eq : ∀ len, family.netmaskLength len = netmaskOf w (family.ofLength len)
  netmaskMask_eq : ∀ mask, family.netmaskMask mask = netmaskOf w (family.ofMask mask)

structure Family.Inverse (family : Family w) : Prop where
  accepts : ∀ mask len, family.ofMask mask = .ok len ↔ IsPrefixMask mask len.toNat
  rebuilds : ∀ mask len, family.ofMask mask = .ok len →
    family.netmaskLength len = .ok (.ok mask)
  returns : ∀ len : UInt8, len.toNat ≤ w → ∃ mask,
    family.netmaskLength len = .ok (.ok mask) ∧ family.ofMask mask = .ok len
  rejects : ∀ len : UInt8, w < len.toNat → ∃ error,
    family.ofLength len = .error error ∧ family.netmaskLength len = .ok (.error error)
  subtracts : ∀ len, ∃ result, family.netmaskLength len = .ok result
  subtractsMask : ∀ mask, ∃ result, family.netmaskMask mask = .ok result

theorem netmaskOf_ok {len : UInt8} (fits : len.toNat ≤ w) :
    netmaskOf w (.ok len) = .ok (.ok (BitVec.allOnes w <<< (w - len.toNat))) := by
  rw [netmaskOf, subLen_ok fits, Run.ok_bind, checkedShl_getD]
  rfl

section Family
variable {family : Family w} (checked : family.Checked)
include checked

theorem Family.ofMask_iff (mask : BitVec w) (len : UInt8) :
    family.ofMask mask = .ok len ↔ IsPrefixMask mask len.toNat := by
  have bound := leadingOnes_le mask
  have narrow := checked.narrow
  constructor
  · intro accepted
    by_cases same : leadingOnes mask = countOnes mask
    · have ones := (leadingOnes_eq_countOnes_iff mask).mp same
      have value := Except.ok.inj ((checked.ofMask_ok mask same).symm.trans accepted)
      rw [← value, UInt8.toNat_ofNat', Nat.mod_eq_of_lt (by omega)]
      exact ones
    · obtain ⟨error, refused⟩ := checked.ofMask_error mask same
      exact nomatch refused.symm.trans accepted
  · intro ones
    have leading := leadingOnes_eq ones
    have same := (leadingOnes_eq_countOnes_iff mask).mpr (by rwa [leading])
    rw [checked.ofMask_ok mask same, leading, UInt8.ofNat_toNat]

theorem Family.inverse : family.Inverse where
  accepts := Family.ofMask_iff checked
  rebuilds mask len accepted := by
    have ones := (Family.ofMask_iff checked mask len).mp accepted
    rw [checked.netmaskLength_eq, checked.ofLength_ok len ones.1, netmaskOf_ok ones.1,
      ← ones.eq_shiftLeft]
  returns len fits := by
    refine ⟨_, ?_, (Family.ofMask_iff checked _ len).mpr (isPrefixMask_shiftLeft fits)⟩
    rw [checked.netmaskLength_eq, checked.ofLength_ok len fits, netmaskOf_ok fits]
  rejects len wide := by
    obtain ⟨error, refused⟩ := checked.ofLength_error len wide
    exact ⟨error, refused, by rw [checked.netmaskLength_eq, refused]; rfl⟩
  subtracts len := by
    rw [checked.netmaskLength_eq]
    by_cases fits : len.toNat ≤ w
    · exact ⟨_, by rw [checked.ofLength_ok len fits, netmaskOf_ok fits]⟩
    · obtain ⟨error, refused⟩ := checked.ofLength_error len (by omega)
      exact ⟨.error error, by rw [refused]; rfl⟩
  subtractsMask mask := by
    rw [checked.netmaskMask_eq]
    cases accepted : family.ofMask mask with
    | error error => exact ⟨.error error, rfl⟩
    | ok len => exact ⟨_, netmaskOf_ok ((Family.ofMask_iff checked mask len).mp accepted).1⟩

end Family

/-! ## The two families of the source -/

def ipv4Family : Family 32 where
  ofLength := ToIpv4Netmask.toPrefix
  ofMask := ToIpv4Netmask.toPrefix
  netmaskLength len := netmaskOf 32 (ToIpv4Netmask.toPrefix len)
  netmaskMask mask := netmaskOf 32 (ToIpv4Netmask.toPrefix mask)

def ipv6Family : Family 128 where
  ofLength := ToIpv6Netmask.toPrefix
  ofMask := ToIpv6Netmask.toPrefix
  netmaskLength := ToIpv6Netmask.netmask
  netmaskMask := ToIpv6Netmask.netmask

theorem ipv4Family_checked : ipv4Family.Checked where
  narrow := by decide
  ofLength_ok len fits := if_neg (by simpa [UInt8.lt_iff_toNat_lt] using fits)
  ofLength_error len wide := ⟨_, if_pos (by simpa [UInt8.lt_iff_toNat_lt] using wide)⟩
  ofMask_ok mask same := if_neg (by simpa using same)
  ofMask_error mask differ := ⟨_, if_pos differ⟩
  netmaskLength_eq _ := rfl
  netmaskMask_eq _ := rfl

theorem ipv6Family_checked : ipv6Family.Checked where
  narrow := by decide
  ofLength_ok len fits := if_neg (by simpa [UInt8.lt_iff_toNat_lt] using fits)
  ofLength_error len wide := ⟨_, if_pos (by simpa [UInt8.lt_iff_toNat_lt] using wide)⟩
  ofMask_ok mask same := if_neg (by simpa using same)
  ofMask_error mask differ := ⟨_, if_pos differ⟩
  netmaskLength_eq _ := rfl
  netmaskMask_eq _ := rfl

theorem maskOf_eq {len : UInt8} (fits : len.toNat ≤ 32) :
    maskOf len = BitVec.allOnes 32 <<< (32 - len.toNat) := by
  unfold maskOf
  split
  · rfl
  · case isFalse outside =>
    have zero : len.toNat = 0 := by
      rw [UInt8.lt_iff_toNat_lt, UInt8.le_iff_toNat_le] at outside
      have low : (0 : UInt8).toNat = 0 := rfl
      have high : (32 : UInt8).toNat = 32 := rfl
      omega
    rw [zero]
    rfl

theorem netmaskOf_ipv4 {prefixLen : Result UInt8}
    (fits : ∀ len, prefixLen = .ok len → len.toNat ≤ 32) :
    netmaskOf 32 prefixLen =
      .ok (do
        let len ← prefixLen
        return maskOf len) := by
  cases prefixLen with
  | error error => rfl
  | ok len =>
    rw [netmaskOf_ok (fits len rfl), ← maskOf_eq (fits len rfl)]
    rfl

theorem ofLength_le (len kept : UInt8) (accepted : ipv4Family.ofLength len = .ok kept) :
    kept.toNat ≤ 32 := by
  by_cases fits : len.toNat ≤ 32
  · rw [ipv4Family_checked.ofLength_ok len fits] at accepted
    rwa [← Except.ok.inj accepted]
  · obtain ⟨error, refused⟩ := ipv4Family_checked.ofLength_error len (by omega)
    exact nomatch refused.symm.trans accepted

/-- Netmasks and prefix lengths are inverse in both families; the IPv4 netmask of a length and
of a mask is the one that is computed with the checked subtraction. -/
theorem netmask_inverse :
    ipv4Family.Inverse ∧ ipv6Family.Inverse ∧
    (∀ len, ipv4Family.netmaskLength len = .ok (ToIpv4Netmask.netmask len)) ∧
    (∀ mask, ipv4Family.netmaskMask mask = .ok (ToIpv4Netmask.netmask mask)) := by
  refine ⟨Family.inverse ipv4Family_checked, Family.inverse ipv6Family_checked, fun len => ?_,
    fun mask => ?_⟩
  · exact netmaskOf_ipv4 (ofLength_le len)
  · exact netmaskOf_ipv4 fun len accepted =>
      ((Family.ofMask_iff ipv4Family_checked mask len).mp accepted).1

example : (ipv6Family.netmaskLength 0).toOption = some (.ok 0) := by decide

end QuincyTun.Config
