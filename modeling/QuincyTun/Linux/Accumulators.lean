import QuincyTun.Foundation.Lanes
import QuincyTun.Linux.Checksum

/-! The vector implementations of the checksum accumulator.

Both take whole chunks, add the 32-bit groups of a chunk into 64-bit lanes, and
leave what is shorter than a chunk to the scalar loop. The sum over all lanes is
the sum of the groups so far, whichever lane a group went to.
-/

set_option autoImplicit false

namespace QuincyTun.Linux

open QuincyTun.Foundation

/-- `while b.len() >= CHUNK_SIZE`: the lanes and the bytes left over. -/
def sumChunks {m : Nat} (chunk : Nat) (positive : 0 < chunk)
    (addChunk : WordLanes m → List UInt8 → Run (WordLanes m)) (sums : WordLanes m)
    (b : List UInt8) : Run (WordLanes m × List UInt8) :=
  if chunk ≤ b.length then do
    let sums ← addChunk sums b
    sumChunks chunk positive addChunk sums (b.drop chunk)
  else pure (sums, b)
termination_by b.length
decreasing_by rw [List.length_drop]; omega

/-! ## AVX2 -/

def shuffleMask256 : ByteLanes 32 :=
  setEpi8 32 [12, 13, 14, 15, 8, 9, 10, 11, 4, 5, 6, 7, 0, 1, 2, 3,
    12, 13, 14, 15, 8, 9, 10, 11, 4, 5, 6, 7, 0, 1, 2, 3]

def addChunk256 (sums : WordLanes 4) (b : List UInt8) : Run (WordLanes 4) := do
  let data ← loadu 32 b
  let swapped := shuffleEpi8 data shuffleMask256
  let lowerU64 := cvtepu32Epi64 4 (extracti128 swapped 0)
  let sums := addEpi64 sums lowerU64
  let upperU64 := cvtepu32Epi64 4 (extracti128 swapped 1)
  pure (addEpi64 sums upperU64)

def checksumNoFoldAvx2 (b : List UInt8) (initial : Nat) : Run Nat :=
  if 32 ≤ b.length then do
    let (sums, b) ← sumChunks 32 (by decide) addChunk256 (setzero 4) b
    let accumulator ← addU64 initial (sums 0).toNat
    let accumulator ← addU64 accumulator (sums 1).toNat
    let accumulator ← addU64 accumulator (sums 2).toNat
    let accumulator ← addU64 accumulator (sums 3).toNat
    checksumNoFoldScalar b accumulator
  else checksumNoFoldScalar b initial

/-! ## SSE4.1 -/

def shuffleMask128 : ByteLanes 16 :=
  setEpi8 16 [12, 13, 14, 15, 8, 9, 10, 11, 4, 5, 6, 7, 0, 1, 2, 3]

def addChunk128 (sums : WordLanes 2) (b : List UInt8) : Run (WordLanes 2) := do
  let data ← loadu 16 b
  let swapped := shuffleEpi8 data shuffleMask128
  let lowerU64 := cvtepu32Epi64 2 swapped
  let sums := addEpi64 sums lowerU64
  let upperU64 := cvtepu32Epi64 2 (bsrli swapped 8)
  pure (addEpi64 sums upperU64)

def checksumNoFoldSse41 (b : List UInt8) (initial : Nat) : Run Nat :=
  if 16 ≤ b.length then do
    let (sums, b) ← sumChunks 16 (by decide) addChunk128 (setzero 2) b
    let accumulator ← addU64 initial (sums 0).toNat
    let accumulator ← addU64 accumulator (sums 1).toNat
    checksumNoFoldScalar b accumulator
  else checksumNoFoldScalar b initial

/-- `checksum_no_fold` on a machine that has the given vector units -/
def checksumNoFoldDetected (avx2 sse41 : Bool) (b : List UInt8) (initial : Nat) : Run Nat :=
  if avx2 then checksumNoFoldAvx2 b initial
  else if sse41 then checksumNoFoldSse41 b initial
  else checksumNoFoldScalar b initial

/-! ## Sums of whole groups -/

theorem groupSum_append {front : List UInt8} (whole : front.length % 4 = 0) (back : List UInt8) :
    groupSum (front ++ back) = groupSum front + groupSum back := by
  fun_induction groupSum front with
  | case1 a b c d rest ih =>
    simp only [List.length_cons] at whole
    simp only [List.cons_append, groupSum, ih (by omega)]
    omega
  | case2 rest short =>
    have empty : rest = [] := by
      rcases rest with _ | ⟨a, _ | ⟨b, _ | ⟨c, _ | ⟨d, tail⟩⟩⟩⟩
      · rfl
      · simp at whole
      · simp at whole
      · simp at whole
      · exact (short a b c d tail rfl).elim
    rw [empty]
    simp [wordSum]

theorem groupSum_take (b : List UInt8) {n : Nat} (inside : 4 * n ≤ b.length) :
    groupSum (b.take (4 * n)) = ∑ k ∈ Finset.range n, (u32At b (4 * k)).toNat := by
  induction n generalizing b with
  | zero => rfl
  | succ n ih =>
    obtain ⟨a0, a1, a2, a3, rest, rfl⟩ : ∃ a0 a1 a2 a3 rest, b = a0 :: a1 :: a2 :: a3 :: rest := by
      match b, inside with
      | a0 :: a1 :: a2 :: a3 :: rest, _ => exact ⟨a0, a1, a2, a3, rest, rfl⟩
      | [], inside | [_], inside | [_, _], inside | [_, _, _], inside =>
        simp only [List.length_cons, List.length_nil] at inside
        omega
    simp only [List.length_cons] at inside
    have shifted (k : Nat) : u32At (a0 :: a1 :: a2 :: a3 :: rest) (4 * (k + 1)) =
        u32At rest (4 * k) := by
      rw [show 4 * (k + 1) = 4 + 4 * k by omega, ← u32At_drop]
      rfl
    have first : u32At (a0 :: a1 :: a2 :: a3 :: rest) (4 * 0) = u32At [a0, a1, a2, a3] 0 :=
      (u32At_take _ (n := 4) (by omega)).symm
    rw [Finset.sum_range_succ', first, Finset.sum_congr rfl fun k _ => congrArg _ (shifted k),
      ← ih rest (by omega), show 4 * (n + 1) = 4 * n + 4 by omega]
    simp only [List.take_succ_cons, groupSum]
    omega

/-! ## One chunk -/

/-- What adding one chunk does to the lanes, as long as their sum fits. -/
def AddsGroups {m : Nat} (chunk : Nat)
    (addChunk : WordLanes m → List UInt8 → Run (WordLanes m)) : Prop :=
  ∀ sums b, chunk ≤ b.length → laneTotal sums + groupSum (b.take chunk) < 2 ^ 64 →
    ∃ next, addChunk sums b = .ok next ∧
      laneTotal next = laneTotal sums + groupSum (b.take chunk)

theorem laneTotal_halves {m : Nat} {sums lower upper : WordLanes m} {b : List UInt8}
    (long : 4 * (m + m) ≤ b.length)
    (low : laneTotal lower = ∑ i : Fin m, (u32At b (4 * i)).toNat)
    (high : laneTotal upper = ∑ i : Fin m, (u32At b (4 * (m + i))).toNat)
    (fits : laneTotal sums + groupSum (b.take (4 * (m + m))) < 2 ^ 64) :
    laneTotal (addEpi64 (addEpi64 sums lower) upper) =
      laneTotal sums + groupSum (b.take (4 * (m + m))) := by
  have total : groupSum (b.take (4 * (m + m))) = laneTotal lower + laneTotal upper := by
    rw [groupSum_take b long, Finset.sum_range_add, low, high,
      Fin.sum_univ_eq_sum_range (fun k => (u32At b (4 * k)).toNat),
      Fin.sum_univ_eq_sum_range (fun k => (u32At b (4 * (m + k))).toNat)]
  have first : laneTotal (addEpi64 sums lower) = laneTotal sums + laneTotal lower :=
    laneTotal_addEpi64 (by omega)
  rw [laneTotal_addEpi64 (by omega), first, total, Nat.add_assoc]

theorem addChunk256_addsGroups : AddsGroups 32 addChunk256 := by
  intro sums b long fits
  have swaps : SwapsWords shuffleMask256 := by decide
  refine ⟨_, by rw [addChunk256, loadu, if_pos long]; rfl, laneTotal_halves long ?_ ?_ fits⟩
  · rw [laneTotal_cvtepu32Epi64]
    apply Finset.sum_congr rfl
    intro i _
    rw [laneWord_extracti128 _ _ _ i.isLt, laneWord_shuffleEpi8 swaps b (by omega)]
    rw [Nat.mul_zero, Nat.zero_add]
  · rw [laneTotal_cvtepu32Epi64]
    apply Finset.sum_congr rfl
    intro i _
    rw [laneWord_extracti128 _ _ _ i.isLt, laneWord_shuffleEpi8 swaps b (by omega)]

theorem addChunk128_addsGroups : AddsGroups 16 addChunk128 := by
  intro sums b long fits
  have swaps : SwapsWords shuffleMask128 := by decide
  refine ⟨_, by rw [addChunk128, loadu, if_pos long]; rfl, laneTotal_halves long ?_ ?_ fits⟩
  · rw [laneTotal_cvtepu32Epi64]
    apply Finset.sum_congr rfl
    intro i _
    rw [laneWord_shuffleEpi8 swaps b (by omega)]
  · rw [laneTotal_cvtepu32Epi64]
    apply Finset.sum_congr rfl
    intro i _
    rw [laneWord_bsrli _ 2 i (by omega), laneWord_shuffleEpi8 swaps b (by omega), Nat.add_comm]

/-! ## All chunks -/

theorem sumChunks_spec {m chunk : Nat} (positive : 0 < chunk) (whole : chunk % 4 = 0)
    {addChunk : WordLanes m → List UInt8 → Run (WordLanes m)} (adds : AddsGroups chunk addChunk)
    (sums : WordLanes m) (b : List UInt8) (fits : laneTotal sums + groupSum b < 2 ^ 64) :
    ∃ next rest, sumChunks chunk positive addChunk sums b = .ok (next, rest) ∧
      laneTotal next + groupSum rest = laneTotal sums + groupSum b := by
  induction size : b.length using Nat.strongRecOn generalizing sums b with
  | ind length ih =>
    rw [sumChunks]
    by_cases long : chunk ≤ b.length
    · have parts : groupSum b = groupSum (b.take chunk) + groupSum (b.drop chunk) := by
        rw [← groupSum_append (by rw [List.length_take]; omega), List.take_append_drop]
      obtain ⟨next, added, total⟩ := adds sums b long (by omega)
      obtain ⟨last, rest, ran, same⟩ := ih (b.drop chunk).length (by rw [List.length_drop]; omega)
        next (b.drop chunk) (by omega) rfl
      rw [if_pos long, added, Run.ok_bind, ran]
      exact ⟨last, rest, rfl, by omega⟩
    · rw [if_neg long]
      exact ⟨sums, b, rfl, rfl⟩

/-! ## The three implementations -/

theorem checksumNoFoldScalar_ok {b : List UInt8} {initial : Nat}
    (fits : initial + groupSum b < 2 ^ 64) :
    checksumNoFoldScalar b initial = .ok (initial + groupSum b) :=
  (checksumNoFold_eq b initial (by omega)).trans (addU64_ok fits)

theorem checksumNoFoldAvx2_ok {b : List UInt8} {initial : Nat}
    (fits : initial + groupSum b < 2 ^ 64) :
    checksumNoFoldAvx2 b initial = .ok (initial + groupSum b) := by
  unfold checksumNoFoldAvx2
  split
  · obtain ⟨sums, rest, ran, total⟩ := sumChunks_spec (by decide) rfl
      addChunk256_addsGroups (setzero 4) b (by rw [laneTotal_setzero]; omega)
    rw [laneTotal_setzero] at total
    have lanes : laneTotal sums = (sums 0).toNat + (sums 1).toNat + (sums 2).toNat +
        (sums 3).toNat := Fin.sum_univ_four _
    rw [ran, Run.ok_bind]
    dsimp only
    rw [addU64_ok (by omega), Run.ok_bind, addU64_ok (by omega), Run.ok_bind,
      addU64_ok (by omega), Run.ok_bind, addU64_ok (by omega), Run.ok_bind,
      checksumNoFoldScalar_ok (by omega)]
    congr 1
    omega
  · exact checksumNoFoldScalar_ok fits

theorem checksumNoFoldSse41_ok {b : List UInt8} {initial : Nat}
    (fits : initial + groupSum b < 2 ^ 64) :
    checksumNoFoldSse41 b initial = .ok (initial + groupSum b) := by
  unfold checksumNoFoldSse41
  split
  · obtain ⟨sums, rest, ran, total⟩ := sumChunks_spec (by decide) rfl
      addChunk128_addsGroups (setzero 2) b (by rw [laneTotal_setzero]; omega)
    rw [laneTotal_setzero] at total
    have lanes : laneTotal sums = (sums 0).toNat + (sums 1).toNat := Fin.sum_univ_two _
    rw [ran, Run.ok_bind]
    dsimp only
    rw [addU64_ok (by omega), Run.ok_bind, addU64_ok (by omega), Run.ok_bind,
      checksumNoFoldScalar_ok (by omega)]
    congr 1
    omega
  · exact checksumNoFoldScalar_ok fits

theorem checksumNoFoldDetected_eq (avx2 sse41 : Bool) {b : List UInt8} {initial : Nat}
    (fits : initial + groupSum b < 2 ^ 64) :
    checksumNoFoldDetected avx2 sse41 b initial = checksumNoFold b initial := by
  have scalar : checksumNoFold b initial = .ok (initial + groupSum b) :=
    checksumNoFoldScalar_ok fits
  unfold checksumNoFoldDetected
  rw [scalar]
  split
  · exact checksumNoFoldAvx2_ok fits
  · split
    · exact checksumNoFoldSse41_ok fits
    · exact checksumNoFoldScalar_ok fits

/-- As long as the total fits the accumulator, the vector implementations return it exactly. -/
theorem accumulators_agree (b : List UInt8) (initial : Nat)
    (fits : initial + groupSum b < 2 ^ 64) :
    checksumNoFoldScalar b initial = .ok (initial + groupSum b) ∧
    checksumNoFoldAvx2 b initial = checksumNoFoldScalar b initial ∧
    checksumNoFoldSse41 b initial = checksumNoFoldScalar b initial := by
  have scalar := checksumNoFoldScalar_ok fits
  exact ⟨scalar, (checksumNoFoldAvx2_ok fits).trans scalar.symm,
    (checksumNoFoldSse41_ok fits).trans scalar.symm⟩

theorem accumulators_agree_ramp :
    checksumNoFoldAvx2 ((List.range 51).map UInt8.ofNat) 7 =
      checksumNoFoldScalar ((List.range 51).map UInt8.ofNat) 7 :=
  (accumulators_agree ((List.range 51).map UInt8.ofNat) 7 (by decide)).2.1

end QuincyTun.Linux
