import QuincyTun.Linux.Accounted
import QuincyTun.Linux.Gso

/-! Completing a partial checksum: the word that holds the sum of the pseudo-header
is replaced by the complement of the sum over everything from there on.
-/

set_option autoImplicit false

namespace QuincyTun.Linux

open QuincyTun.Foundation

def blanked (pkt : List UInt8) (at_ : Nat) : List UInt8 := overwrite pkt at_ (be16 0)

def completed (pkt : List UInt8) (start csumOffset : Nat) : List UInt8 :=
  overwrite (blanked pkt (start + csumOffset)) (start + csumOffset)
    (be16 (~~~ UInt16.ofNat (fold ((u16At pkt (start + csumOffset)).toNat +
      wordSum ((blanked pkt (start + csumOffset)).drop start)))))

theorem setByte_two {pkt : List UInt8} {at_ : Nat} (fits : at_ + 2 ≤ pkt.length) :
    (do
      let pkt ← setByte pkt at_ 0
      setByte pkt (at_ + 1) 0) = .ok (blanked pkt at_) := by
  rw [setByte_ok (by omega), Run.ok_bind, setByte_ok (by rw [length_overwrite]; omega)]
  exact congrArg Except.ok (overwrite_overwrite_append pkt at_ [0] [0])

/-- Inside the packet only the accumulator of the sum can be too small. -/
theorem gsoNoneChecksum_eq {pkt : List UInt8} {csumStart csumOffset : UInt16}
    (fits : csumStart.toNat + csumOffset.toNat + 2 ≤ pkt.length) :
    gsoNoneChecksum pkt csumStart csumOffset =
      (addU64 (u16At pkt (csumStart.toNat + csumOffset.toNat)).toNat
        (groupSum ((blanked pkt (csumStart.toNat + csumOffset.toNat)).drop csumStart.toNat))).map
          fun _ => (completed pkt csumStart.toNat csumOffset.toNat, .ok ()) := by
  have word := (u16At pkt (csumStart.toNat + csumOffset.toNat)).toNat_lt
  have blank : (blanked pkt (csumStart.toNat + csumOffset.toNat)).length = pkt.length :=
    length_overwrite ..
  unfold gsoNoneChecksum
  rw [if_neg (by omega), readU16_ok fits, Run.ok_bind, ← bind_assoc, setByte_two fits, Run.ok_bind,
    sliceFrom_ok (by omega), Run.ok_bind, checksum_eq _ _ (by omega), addU64]
  split
  case isTrue sum =>
    rw [Except.map, Run.ok_bind, writeU16_ok (by omega), fold_groupSum]
    rfl
  case isFalse => rfl

theorem gsoNoneChecksum_ok {pkt : List UInt8} {csumStart csumOffset : UInt16}
    (fits : csumStart.toNat + csumOffset.toNat + 2 ≤ pkt.length) (short : pkt.length < 2 ^ 31) :
    gsoNoneChecksum pkt csumStart csumOffset =
      .ok (completed pkt csumStart.toNat csumOffset.toNat, .ok ()) := by
  have word := (u16At pkt (csumStart.toNat + csumOffset.toNat)).toNat_lt
  have total := groupSum_le
    ((blanked pkt (csumStart.toNat + csumOffset.toNat)).drop csumStart.toNat)
  rw [List.length_drop, blanked, length_overwrite] at total
  rw [gsoNoneChecksum_eq fits, addU64_ok (by rw [blanked]; omega)]
  rfl

@[simp] theorem length_completed (pkt : List UInt8) (start csumOffset : Nat) :
    (completed pkt start csumOffset).length = pkt.length := by
  simp [completed, blanked]

theorem completed_agree (pkt : List UInt8) (start csumOffset : Nat) :
    AgreeOn (fun i => i < start + csumOffset ∨ start + csumOffset + 2 ≤ i)
      (completed pkt start csumOffset) pkt := by
  have blank : AgreeOn (fun i => i < start + csumOffset ∨ start + csumOffset + 2 ≤ i)
      (blanked pkt (start + csumOffset)) pkt :=
    (AgreeOn.refl _ pkt).overwrite _ (be16 0) fun _ away => away
  exact blank.overwrite _ _ fun _ away => away

/-- The word that was there counts as the sum of what precedes the region. -/
theorem completed_verifies (before : Nat) {pkt : List UInt8} {start csumOffset : Nat}
    (even : csumOffset % 2 = 0) (fits : start + csumOffset + 2 ≤ pkt.length)
    (initial : (u16At pkt (start + csumOffset)).toNat = fold before) :
    fold (before + wordSum ((completed pkt start csumOffset).drop start)) = 65535 := by
  have size : ((blanked pkt (start + csumOffset)).drop start).length = pkt.length - start := by
    rw [List.length_drop, blanked, length_overwrite]
  have zero : u16At ((blanked pkt (start + csumOffset)).drop start) csumOffset = 0 := by
    rw [u16At_drop]
    exact u16At_overwrite_self pkt _ 0 fits
  have complete := fold_complete (fold before) even (by omega) zero
  rw [completed, drop_overwrite_add, initial, ← fold_fold_add]
  exact complete

theorem wordSum_checksumCoverage {isV6 : Bool} {pkt : List UInt8} (protocol : UInt8)
    (long : ipHLen isV6 ≤ pkt.length) :
    wordSum (checksumCoverage isV6 protocol pkt) =
      pseudoSum isV6 protocol pkt + wordSum (pkt.drop (ipHLen isV6)) := by
  have even := addrLen_even isV6
  have src := length_srcAddress long
  have dst := length_dstAddress long
  rw [checksumCoverage, wordSum_append (by rw [length_pseudoHeader]; omega), pseudoSum]

end QuincyTun.Linux
