import QuincyTun.Linux.Accumulators
import QuincyTun.Linux.Coalesce

/-! What the checksum of the offload path is, and what depends on it: a generated
field is accepted by the validation of the same packet, and a sum can be taken
over a string piece by piece.

The accumulator of two pieces is in general not the one of their concatenation:
the groups of four bytes fall differently. Folding makes up for it.
-/

set_option autoImplicit false

namespace QuincyTun.Linux

open QuincyTun.Foundation

/-- One word that represents a total: it has its residue, and it is zero just when the total is. -/
def Represents (word total : Nat) : Prop :=
  word ≤ 0xFFFF ∧ word % 65535 = total % 65535 ∧ (word = 0 ↔ total = 0)

theorem represents_fold (total : Nat) : Represents (fold total) total :=
  ⟨fold_le total, fold_mod total, fold_eq_zero_iff total⟩

theorem Represents.unique {word total : Nat} (same : Represents word total) : word = fold total :=
  fold_unique same.1 same.2.1 same.2.2

theorem checksum_represents {b : List UInt8} {initial : Nat}
    (fits : initial + groupSum b < 2 ^ 64) :
    ∃ sum, checksum b initial = .ok sum ∧ Represents sum.toNat (initial + wordSum b) ∧
      ∀ word, Represents word (initial + wordSum b) → word = sum.toNat := by
  refine ⟨_, checksum_of_fits fits, ?_, fun word same => ?_⟩
  · rw [toNat_ofNat_fold]
    exact represents_fold _
  · rw [toNat_ofNat_fold]
    exact same.unique

/-! ## Generation and validation -/

def addressFields (isV6 : Bool) : Nat × Nat :=
  if isV6 then (ipv6SrcAddrOffset, 16) else (ipv4SrcAddrOffset, 4)

def validationSum (pkt : List UInt8) (iphLen proto : UInt8) (isV6 : Bool) : Run Nat := do
  let srcAddr ← slice pkt (addressFields isV6).1 ((addressFields isV6).1 + (addressFields isV6).2)
  let dstAddr ← slice pkt ((addressFields isV6).1 + (addressFields isV6).2)
    ((addressFields isV6).1 + (addressFields isV6).2 * 2)
  pseudoHeaderChecksumNoFold proto srcAddr dstAddr
    (UInt16.ofNat (pkt.length % 65536 - iphLen.toNat))

theorem checksumValid_of_validationSum {pkt : List UInt8} {iphLen proto : UInt8} {isV6 : Bool}
    {initial : Nat} (started : validationSum pkt iphLen proto isV6 = .ok initial)
    (inside : iphLen.toNat ≤ pkt.length) {sum : UInt16}
    (summed : checksum (pkt.drop iphLen.toNat) initial = .ok sum) :
    checksumValid pkt iphLen proto isV6 = .ok (~~~sum == 0) := by
  simp only [validationSum, Run.bind_eq_ok] at started
  obtain ⟨srcAddr, src, dstAddr, dst, pseudo⟩ := started
  unfold checksumValid
  rw [show (if isV6 = true then (ipv6SrcAddrOffset, 16) else (ipv4SrcAddrOffset, 4)) =
    addressFields isV6 from rfl]
  dsimp only
  rw [src, Run.ok_bind, dst, Run.ok_bind, pseudo, Run.ok_bind, sliceFrom_ok inside, Run.ok_bind,
    summed, Run.ok_bind]
  rfl

theorem slice_overwrite {pkt source : List UInt8} {start stop at_ : Nat} (before : stop ≤ at_) :
    slice (overwrite pkt at_ source) start stop = slice pkt start stop := by
  unfold slice
  rw [length_overwrite]
  split
  · rw [window_overwrite_disjoint _ _ _ (by omega)]
  · rfl

theorem validationSum_overwrite {pkt source : List UInt8} {iphLen proto : UInt8} {isV6 : Bool}
    {at_ : Nat} (behind : (addressFields isV6).1 + (addressFields isV6).2 * 2 ≤ at_) :
    validationSum (overwrite pkt at_ source) iphLen proto isV6 =
      validationSum pkt iphLen proto isV6 := by
  unfold validationSum
  rw [slice_overwrite (by omega), slice_overwrite (by omega), length_overwrite]

/-- A packet with a blank field at an even position behind its IP header. -/
structure Blank (pkt : List UInt8) (iphLen : UInt8) (isV6 : Bool) (field : Nat) : Prop where
  addresses : (addressFields isV6).1 + (addressFields isV6).2 * 2 ≤ iphLen.toNat
  even : field % 2 = 0
  inside : iphLen.toNat + field + 2 ≤ pkt.length
  zero : u16At pkt (iphLen.toNat + field) = 0

def withChecksum (pkt : List UInt8) (iphLen : UInt8) (field : Nat) (sum : UInt16) : List UInt8 :=
  overwrite pkt (iphLen.toNat + field) (be16 (~~~sum))

theorem Blank.started {pkt : List UInt8} {iphLen : UInt8} {isV6 : Bool} {field : Nat}
    (blank : Blank pkt iphLen isV6 field) (proto : UInt8) :
    ∃ initial, validationSum pkt iphLen proto isV6 = .ok initial := by
  have inside := blank.inside
  have addresses := blank.addresses
  have size : (addressFields isV6).2 ≤ 16 := by cases isV6 <;> decide
  unfold validationSum
  rw [slice_ok (by omega) (by omega), Run.ok_bind, slice_ok (by omega) (by omega), Run.ok_bind,
    pseudoHeader_ok _ _ _ _ (by rw [length_window _ _ _ (by omega)]; omega)
      (by rw [length_window _ _ _ (by omega)]; omega)]
  exact ⟨_, rfl⟩

theorem generated_valid {pkt : List UInt8} {iphLen proto : UInt8} {isV6 : Bool} {field initial : Nat}
    (blank : Blank pkt iphLen isV6 field)
    (started : validationSum pkt iphLen proto isV6 = .ok initial)
    (fits : initial + groupSum (pkt.drop iphLen.toNat) < 2 ^ 64)
    (fitsAfter : ∀ sum, checksum (pkt.drop iphLen.toNat) initial = .ok sum →
      initial + groupSum ((withChecksum pkt iphLen field sum).drop iphLen.toNat) < 2 ^ 64) :
    ∃ sum, checksum (pkt.drop iphLen.toNat) initial = .ok sum ∧
      checksumValid (withChecksum pkt iphLen field sum) iphLen proto isV6 = .ok true := by
  have inside := blank.inside
  have addresses := blank.addresses
  refine ⟨_, checksum_of_fits fits, ?_⟩
  have zero : u16At (pkt.drop iphLen.toNat) field = 0 := by rw [u16At_drop, blank.zero]
  have complete := fold_complete initial blank.even (by rw [List.length_drop]; omega) zero
  have restarted : validationSum (withChecksum pkt iphLen field
      (UInt16.ofNat (fold (initial + wordSum (pkt.drop iphLen.toNat))))) iphLen proto isV6 =
        .ok initial := (validationSum_overwrite (by omega)).trans started
  rw [checksumValid_of_validationSum restarted (by rw [withChecksum, length_overwrite]; omega)
    (checksum_of_fits (fitsAfter _ (checksum_of_fits fits))), withChecksum, drop_overwrite_add, complete]
  rfl

/-! ## Pieces -/

theorem checksumNoFold_pieces {front back : List UInt8} {initial : Nat}
    (whole : front.length % 4 = 0) (fits : initial + groupSum front + groupSum back < 2 ^ 64) :
    (checksumNoFold front initial >>= checksumNoFold back) =
      checksumNoFold (front ++ back) initial := by
  have total := groupSum_append whole back
  rw [checksumNoFold_eq _ _ (by omega), addU64_ok (by omega), Run.ok_bind,
    checksumNoFold_eq _ _ (by omega), checksumNoFold_eq _ _ (by omega), total, addU64_ok (by omega),
    addU64_ok (by omega), Nat.add_assoc]

theorem checksum_pieces {front back : List UInt8} {initial : Nat} (even : front.length % 2 = 0)
    (fits : initial + groupSum front + groupSum back < 2 ^ 64)
    (fitsWhole : initial + groupSum (front ++ back) < 2 ^ 64) :
    (checksumNoFold front initial >>= checksum back) = checksum (front ++ back) initial := by
  have residue := groupSum_mod front
  have zero := groupSum_eq_zero_iff front
  rw [checksumNoFold_eq _ _ (by omega), addU64_ok (by omega), Run.ok_bind, checksum_of_fits fits,
    checksum_of_fits fitsWhole, wordSum_append even]
  congr 2
  exact fold_congr (by omega) (by omega)

/-- The checksum is the one representative of its total; a generated field validates; and the
checksum of two pieces is that of their concatenation, for whole groups with equal accumulators. -/
theorem checksum_laws :
    (∀ (b : List UInt8) (initial : Nat), initial + groupSum b < 2 ^ 64 →
      ∃ sum, checksum b initial = .ok sum ∧ Represents sum.toNat (initial + wordSum b) ∧
        ∀ word, Represents word (initial + wordSum b) → word = sum.toNat) ∧
    (∀ (pkt : List UInt8) (iphLen proto : UInt8) (isV6 : Bool) (field : Nat),
      Blank pkt iphLen isV6 field →
      ∃ initial, validationSum pkt iphLen proto isV6 = .ok initial ∧
        (initial + groupSum (pkt.drop iphLen.toNat) < 2 ^ 64 →
        (∀ sum, checksum (pkt.drop iphLen.toNat) initial = .ok sum →
          initial + groupSum ((withChecksum pkt iphLen field sum).drop iphLen.toNat) < 2 ^ 64) →
        ∃ sum, checksum (pkt.drop iphLen.toNat) initial = .ok sum ∧
          checksumValid (withChecksum pkt iphLen field sum) iphLen proto isV6 = .ok true)) ∧
    (∀ (front back : List UInt8) (initial : Nat), front.length % 4 = 0 →
      initial + groupSum front + groupSum back < 2 ^ 64 →
      (checksumNoFold front initial >>= checksumNoFold back) =
        checksumNoFold (front ++ back) initial) ∧
    (∀ (front back : List UInt8) (initial : Nat), front.length % 2 = 0 →
      initial + groupSum front + groupSum back < 2 ^ 64 →
      initial + groupSum (front ++ back) < 2 ^ 64 →
      (checksumNoFold front initial >>= checksum back) = checksum (front ++ back) initial) := by
  refine ⟨fun b initial fits => checksum_represents fits, ?_,
    fun front back initial whole fits => checksumNoFold_pieces whole fits,
    fun front back initial even fits fitsWhole => checksum_pieces even fits fitsWhole⟩
  intro pkt iphLen proto isV6 field blank
  obtain ⟨initial, started⟩ := blank.started proto
  exact ⟨initial, started, generated_valid blank started⟩

theorem checksum_laws_bytes :
    (∃ sum, checksum [0x12, 0x34, 0x56] 0 = .ok sum ∧
      Represents sum.toNat (0 + wordSum [0x12, 0x34, 0x56])) ∧
    (checksumNoFold [0, 1] 0 >>= checksum [0, 1, 2]) = checksum [0, 1, 0, 1, 2] 0 := by
  constructor
  · obtain ⟨sum, summed, same, -⟩ := checksum_laws.1 [0x12, 0x34, 0x56] 0 (by decide)
    exact ⟨sum, summed, same⟩
  · exact checksum_laws.2.2.2 [0, 1] [0, 1, 2] 0 (by decide) (by decide) (by decide)

/-- Two pieces of one word each fall into one group when they are put together. -/
theorem accumulator_of_pieces_differs :
    ¬ ∀ (front back : List UInt8) (initial : Nat), front.length % 2 = 0 →
      initial + groupSum front + groupSum back < 2 ^ 64 →
      initial + groupSum (front ++ back) < 2 ^ 64 →
      (checksumNoFold front initial >>= checksumNoFold back) =
        checksumNoFold (front ++ back) initial := by
  intro same
  have pieces := same [0, 1] [0, 1] 0 (by decide) (by decide) (by decide)
  exact absurd pieces (by decide)

end QuincyTun.Linux
