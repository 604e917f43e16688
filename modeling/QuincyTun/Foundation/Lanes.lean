import QuincyTun.Foundation.Panic
import Mathlib.Algebra.BigOperators.Fin
import Mathlib.Algebra.Order.BigOperators.Group.Finset

/-! Vector registers and the lane operations on them.

A register is a function of its lanes, read as bytes or as 64-bit words. Lane
sums wrap around; they are exact as long as the sum over all lanes fits.
-/

set_option autoImplicit false

namespace QuincyTun.Foundation

/-- A register as bytes, the least significant one first. -/
abbrev ByteLanes (n : Nat) := Fin n → UInt8

abbrev WordLanes (n : Nat) := Fin n → UInt64

variable {n : Nat}

/-- One byte of a register; zeros are shifted in from behind it. -/
def laneByte (data : ByteLanes n) (k : Nat) : UInt8 := if bound : k < n then data ⟨k, bound⟩ else 0

def laneWord (data : ByteLanes n) (k : Nat) : Nat :=
  (laneByte data (4 * k)).toNat + (laneByte data (4 * k + 1)).toNat * 256 +
    (laneByte data (4 * k + 2)).toNat * 65536 + (laneByte data (4 * k + 3)).toNat * 16777216

/-! ## Operations -/

/-- `loadu`: a load behind the end of the bytes has no meaning. -/
def loadu (n : Nat) (bytes : List UInt8) : Run (ByteLanes n) :=
  if n ≤ bytes.length then .ok (fun i => byteAt bytes i) else .error .outOfRange

/-- `set_epi8`, whose arguments start with the most significant byte. -/
def setEpi8 (n : Nat) (args : List UInt8) : ByteLanes n := fun i => args.reverse.getD i 0

/-- `shuffle_epi8`, which stays within blocks of 16 bytes -/
def shuffleEpi8 (data mask : ByteLanes n) : ByteLanes n := fun i =>
  if (mask i).toNat < 128 then laneByte data (i / 16 * 16 + (mask i).toNat % 16) else 0

def extracti128 (data : ByteLanes 32) (half : Nat) : ByteLanes 16 := fun i =>
  laneByte data (16 * half + i)

def bsrli (data : ByteLanes n) (count : Nat) : ByteLanes n := fun i => laneByte data (i + count)

def cvtepu32Epi64 (m : Nat) (data : ByteLanes n) : WordLanes m := fun i =>
  UInt64.ofNat (laneWord data i)

def setzero (m : Nat) : WordLanes m := fun _ => 0

def addEpi64 {m : Nat} (a b : WordLanes m) : WordLanes m := fun i => a i + b i

/-! ## Sums over the lanes -/

variable {m : Nat}

def laneTotal (words : WordLanes m) : Nat := ∑ i, (words i).toNat

theorem laneTotal_setzero : laneTotal (setzero m) = 0 := by simp [laneTotal, setzero]

theorem toNat_le_laneTotal (words : WordLanes m) (i : Fin m) :
    (words i).toNat ≤ laneTotal words :=
  Finset.single_le_sum (f := fun i => (words i).toNat) (fun _ _ => Nat.zero_le _)
    (Finset.mem_univ i)

/-- No lane wraps around as long as the lanes together fit into one. -/
theorem laneTotal_addEpi64 {a b : WordLanes m} (fits : laneTotal a + laneTotal b < 2 ^ 64) :
    laneTotal (addEpi64 a b) = laneTotal a + laneTotal b := by
  have whole (i : Fin m) : (addEpi64 a b i).toNat = (a i).toNat + (b i).toNat := by
    have first := toNat_le_laneTotal a i
    have second := toNat_le_laneTotal b i
    rw [addEpi64, UInt64.toNat_add, Nat.mod_eq_of_lt (by omega)]
  simp only [laneTotal, whole, Finset.sum_add_distrib]

theorem laneWord_lt (data : ByteLanes n) (k : Nat) : laneWord data k < 2 ^ 32 := by
  have first := (laneByte data (4 * k)).toNat_lt
  have second := (laneByte data (4 * k + 1)).toNat_lt
  have third := (laneByte data (4 * k + 2)).toNat_lt
  have fourth := (laneByte data (4 * k + 3)).toNat_lt
  unfold laneWord
  omega

theorem laneTotal_cvtepu32Epi64 (data : ByteLanes n) :
    laneTotal (cvtepu32Epi64 m data) = ∑ i : Fin m, laneWord data i := by
  unfold laneTotal
  apply Finset.sum_congr rfl
  intro i _
  have small := laneWord_lt data i
  rw [cvtepu32Epi64, UInt64.toNat_ofNat', Nat.mod_eq_of_lt (by omega)]

/-! ## Byte order -/

theorem laneByte_of_lt {data : ByteLanes n} {k : Nat} (bound : k < n) :
    laneByte data k = data ⟨k, bound⟩ := dif_pos bound

theorem laneWord_extracti128 (data : ByteLanes 32) (half k : Nat) (inside : k < 4) :
    laneWord (extracti128 data half) k = laneWord data (4 * half + k) := by
  have same (j : Nat) (bound : j < 4) :
      laneByte (extracti128 data half) (4 * k + j) = laneByte data (4 * (4 * half + k) + j) := by
    rw [laneByte_of_lt (by omega), extracti128]
    congr 1
    dsimp only
    omega
  have first := same 0 (by omega)
  rw [Nat.add_zero, Nat.add_zero] at first
  rw [laneWord, laneWord, first, same 1 (by omega), same 2 (by omega), same 3 (by omega)]

theorem laneWord_bsrli (data : ByteLanes n) (count k : Nat) (inside : 4 * k + 4 ≤ n) :
    laneWord (bsrli data (4 * count)) k = laneWord data (k + count) := by
  have same (j : Nat) (bound : j < 4) :
      laneByte (bsrli data (4 * count)) (4 * k + j) = laneByte data (4 * (k + count) + j) := by
    rw [laneByte_of_lt (by omega), bsrli]
    congr 1
    dsimp only
    omega
  have first := same 0 (by omega)
  rw [Nat.add_zero, Nat.add_zero] at first
  rw [laneWord, laneWord, first, same 1 (by omega), same 2 (by omega), same 3 (by omega)]

def SwapsWords (mask : ByteLanes n) : Prop :=
  ∀ i : Fin n, (mask i).toNat = i % 16 / 4 * 4 + (3 - i % 4)

instance (mask : ByteLanes n) : Decidable (SwapsWords mask) :=
  inferInstanceAs (Decidable (∀ i : Fin n, (mask i).toNat = i % 16 / 4 * 4 + (3 - i % 4)))

/-- After the shuffle a lane holds the big-endian word that was loaded there. -/
theorem laneWord_shuffleEpi8 {mask : ByteLanes n} (swaps : SwapsWords mask) (bytes : List UInt8)
    {k : Nat} (inside : 4 * k + 4 ≤ n) :
    laneWord (shuffleEpi8 (fun i => byteAt bytes i) mask) k = (u32At bytes (4 * k)).toNat := by
  have same (j i : Nat) (mirrored : j + i = 3) :
      laneByte (shuffleEpi8 (fun i : Fin n => byteAt bytes i) mask) (4 * k + j) =
        byteAt bytes (4 * k + i) := by
    have source := swaps ⟨4 * k + j, by omega⟩
    dsimp only at source
    have target : (4 * k + j) / 16 * 16 + ((4 * k + j) % 16 / 4 * 4 + (3 - (4 * k + j) % 4)) % 16 =
        4 * k + i := by omega
    rw [laneByte_of_lt (by omega), shuffleEpi8, source, if_pos (by omega)]
    dsimp only
    rw [target, laneByte_of_lt (by omega)]
  have lowest := same 0 3 rfl
  have highest := same 3 0 rfl
  simp only [Nat.add_zero] at lowest highest
  rw [laneWord, lowest, same 1 2 rfl, same 2 1 rfl, highest, u32At_toNat]
  omega

end QuincyTun.Foundation
