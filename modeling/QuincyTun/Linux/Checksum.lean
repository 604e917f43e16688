import QuincyTun.Foundation.OnesComplement
import QuincyTun.Foundation.Panic

/-! The internet checksum of the offload path.

The code sums 32-bit groups in a 64-bit accumulator and folds once at the end.
`groupSum` is that sum without the accumulator; it has the residue and the zero
test of the 16-bit word sum, which is all that folding depends on.
-/

set_option autoImplicit false

namespace QuincyTun.Linux

open QuincyTun.Foundation

/-- The loop over whole 32-bit groups: the accumulator and the bytes left over. -/
def sumDoubleWords : List UInt8 → Nat → Run (Nat × List UInt8)
  | a :: b :: c :: d :: rest, accumulator => do
    let accumulator ← addU64 accumulator (u32At [a, b, c, d] 0).toNat
    sumDoubleWords rest accumulator
  | rest, accumulator => pure (accumulator, rest)

def sumRemainder (accumulator : Nat) (b : List UInt8) : Run Nat := do
  let (accumulator, b) ←
    if 2 ≤ b.length then do
      let accumulator ← addU64 accumulator (u16At b 0).toNat
      pure (accumulator, b.drop 2)
    else pure (accumulator, b)
  match b.head? with
  -- The odd byte is the high byte of a 16-bit word.
  | some byte => addU64 accumulator (byte.toNat <<< 8)
  | none => pure accumulator

def checksumNoFoldScalar (b : List UInt8) (initial : Nat) : Run Nat := do
  let (accumulator, b) ← sumDoubleWords b initial
  sumRemainder accumulator b

/-- The accumulator chosen at run time; without vector units it is the scalar one. -/
def checksumNoFold (b : List UInt8) (initial : Nat) : Run Nat := checksumNoFoldScalar b initial

theorem shiftFold_lt {accumulator : Nat} (large : accumulator > 0xFFFF) :
    (accumulator >>> 16) + (accumulator &&& 0xFFFF) < accumulator := by
  have low : accumulator &&& 0xFFFF = accumulator % 65536 :=
    Nat.and_two_pow_sub_one_eq_mod accumulator 16
  rw [low, Nat.shiftRight_eq_div_pow]
  omega

def foldAccumulator (accumulator : Nat) : Nat :=
  if accumulator > 0xFFFF then
    foldAccumulator ((accumulator >>> 16) + (accumulator &&& 0xFFFF))
  else accumulator
termination_by accumulator
decreasing_by exact shiftFold_lt (by assumption)

def checksum (b : List UInt8) (initial : Nat) : Run UInt16 := do
  let accumulator ← checksumNoFold b initial
  pure (UInt16.ofNat (foldAccumulator accumulator))

def pseudoHeaderChecksumNoFold (protocol : UInt8) (srcAddr dstAddr : List UInt8)
    (totalLen : UInt16) : Run Nat := do
  let sum ← checksumNoFold srcAddr 0
  let sum ← checksumNoFold dstAddr sum
  checksumNoFold ([0, protocol] ++ be16 totalLen) sum

/-! ## The accumulated sum -/

/-- The sum of the 32-bit groups, a 16-bit word and an odd byte, as the accumulator takes them. -/
def groupSum : List UInt8 → Nat
  | a :: b :: c :: d :: rest => (u32At [a, b, c, d] 0).toNat + groupSum rest
  | rest => wordSum rest

theorem u32At_four (a b c d : UInt8) :
    (u32At [a, b, c, d] 0).toNat =
      (a.toNat * 256 + b.toNat) * 65536 + (c.toNat * 256 + d.toNat) := by
  simp only [u32At_toNat, byteAt, Nat.zero_add, List.getElem?_cons_zero,
    List.getElem?_cons_succ, Option.getD_some]

theorem groupSum_mod (b : List UInt8) : groupSum b % 65535 = wordSum b % 65535 := by
  fun_induction groupSum b with
  | case1 a b c d rest ih =>
    simp only [wordSum, u32At_four]
    omega
  | case2 => rfl

theorem groupSum_eq_zero_iff (b : List UInt8) : groupSum b = 0 ↔ wordSum b = 0 := by
  fun_induction groupSum b with
  | case1 a b c d rest ih =>
    simp only [wordSum, u32At_four]
    omega
  | case2 => rfl

theorem groupSum_le (b : List UInt8) : groupSum b ≤ 4294967296 * b.length := by
  fun_induction groupSum b with
  | case1 a b c d rest ih =>
    have bound := (u32At [a, b, c, d] 0).toNat_lt
    simp only [List.length_cons]
    omega
  | case2 rest =>
    have bound := wordSum_le rest
    omega

theorem sumRemainder_eq (accumulator : Nat) (b : List UInt8) (short : b.length < 4)
    (fits : accumulator < 2 ^ 64) :
    sumRemainder accumulator b = addU64 accumulator (wordSum b) := by
  match b with
  | [] => exact (addU64_ok (b := 0) fits).symm
  | [a] => simp [sumRemainder, wordSum, Nat.shiftLeft_eq]
  | [a, c] =>
    have word : (u16At [a, c] 0).toNat = wordSum [a, c] := by
      simp [u16At_toNat, byteAt, wordSum]
    simp only [sumRemainder, word, List.length_cons, List.length_nil, Nat.le_refl, if_true,
      Nat.zero_add, Nat.reduceAdd]
    exact bind_pure _
  | [a, c, d] =>
    have word : (u16At [a, c, d] 0).toNat = a.toNat * 256 + c.toNat := by
      simp [u16At_toNat, byteAt]
    have odd : wordSum [a, c, d] = a.toNat * 256 + c.toNat + d.toNat <<< 8 := by
      simp [wordSum, Nat.shiftLeft_eq]
    rw [odd, ← addU64_bind, ← word]
    simp [sumRemainder]

/-- The accumulator returns its exact total, or overflows when 64 bits do not hold it. -/
theorem checksumNoFold_eq (b : List UInt8) (initial : Nat) (fits : initial < 2 ^ 64) :
    checksumNoFold b initial = addU64 initial (groupSum b) := by
  unfold checksumNoFold checksumNoFoldScalar
  fun_induction sumDoubleWords b initial with
  | case1 a b c d rest accumulator ih =>
    simp only [groupSum, bind_assoc]
    rw [← addU64_bind]
    by_cases room : accumulator + (u32At [a, b, c, d] 0).toNat < 2 ^ 64
    · rw [addU64_ok room, Run.ok_bind, ih _ room, Run.ok_bind]
    · rw [addU64, if_neg room, Run.error_bind, Run.error_bind]
  | case2 rest accumulator small =>
    have short : rest.length < 4 := by
      match rest, small with
      | [], _ | [_], _ | [_, _], _ | [_, _, _], _ => simp
      | a :: b :: c :: d :: tail, small => exact (small a b c d tail rfl).elim
    have same : groupSum rest = wordSum rest := groupSum.eq_2 rest small
    rw [Run.pure_eq_ok, Run.ok_bind, same]
    exact sumRemainder_eq accumulator rest short fits

theorem foldAccumulator_eq (accumulator : Nat) : foldAccumulator accumulator = fold accumulator := by
  fun_induction foldAccumulator accumulator with
  | case1 accumulator large ih =>
    have low : accumulator &&& 0xFFFF = accumulator % 65536 :=
      Nat.and_two_pow_sub_one_eq_mod accumulator 16
    rw [ih, fold.eq_1 accumulator, if_pos large, low, Nat.shiftRight_eq_div_pow]
  | case2 accumulator small =>
    exact (fold_of_le (by omega)).symm

theorem checksum_eq (b : List UInt8) (initial : Nat) (fits : initial < 2 ^ 64) :
    checksum b initial =
      (addU64 initial (groupSum b)).map fun total => UInt16.ofNat (fold total) := by
  unfold checksum
  rw [checksumNoFold_eq b initial fits]
  unfold addU64
  split
  · simp [Except.map, foldAccumulator_eq]
  · rfl

theorem fold_groupSum (initial : Nat) (b : List UInt8) :
    fold (initial + groupSum b) = fold (initial + wordSum b) := by
  have residue := groupSum_mod b
  have zero := groupSum_eq_zero_iff b
  exact fold_congr (by omega) (by omega)

theorem checksum_of_fits {b : List UInt8} {initial : Nat} (fits : initial + groupSum b < 2 ^ 64) :
    checksum b initial = .ok (UInt16.ofNat (fold (initial + wordSum b))) := by
  rw [checksum_eq b initial (by omega), addU64_ok fits, Except.map, fold_groupSum]

theorem checksum_ok (b : List UInt8) (initial : Nat)
    (fits : initial + 4294967296 * b.length < 2 ^ 64) :
    checksum b initial = .ok (UInt16.ofNat (fold (initial + wordSum b))) := by
  have total := groupSum_le b
  exact checksum_of_fits (by omega)

theorem toNat_ofNat_fold (total : Nat) : (UInt16.ofNat (fold total)).toNat = fold total := by
  have bound := fold_le total
  rw [UInt16.toNat_ofNat']
  omega

theorem toNat_complement_fold (total : Nat) :
    (~~~ UInt16.ofNat (fold total)).toNat = 65535 - fold total := by
  have bound := fold_le total
  rw [UInt16.toNat_not, toNat_ofNat_fold]
  rfl

theorem fold_fold_add (first rest : Nat) : fold (fold first + rest) = fold (first + rest) := by
  have residue := fold_mod first
  have zero := fold_eq_zero_iff first
  exact fold_congr (by omega) (by omega)

/-- Storing the complement of a sum in a blank word makes the sum verify. -/
theorem fold_complete (base : Nat) {bytes : List UInt8} {n : Nat} (even : n % 2 = 0)
    (fits : n + 2 ≤ bytes.length) (blank : u16At bytes n = 0) :
    fold (base + wordSum (overwrite bytes n
      (be16 (~~~ UInt16.ofNat (fold (base + wordSum bytes)))))) = 65535 := by
  have sum := wordSum_overwrite_be16 bytes (~~~ UInt16.ofNat (fold (base + wordSum bytes))) even fits
  have zero : (u16At bytes n).toNat = 0 := by rw [blank]; rfl
  rw [toNat_complement_fold] at sum
  calc fold (base + wordSum (overwrite bytes n
          (be16 (~~~ UInt16.ofNat (fold (base + wordSum bytes))))))
      = fold (base + wordSum bytes + (65535 - fold (base + wordSum bytes))) := by
        congr 1
        omega
    _ = 65535 := fold_add_complement _

/-! ## The pseudo-header -/

/-- The bytes that a transport checksum covers in front of the segment. -/
def pseudoHeader (protocol : UInt8) (srcAddr dstAddr : List UInt8) (totalLen : UInt16) :
    List UInt8 := srcAddr ++ dstAddr ++ ([0, protocol] ++ be16 totalLen)

theorem length_pseudoHeader (protocol : UInt8) (srcAddr dstAddr : List UInt8) (totalLen : UInt16) :
    (pseudoHeader protocol srcAddr dstAddr totalLen).length =
      srcAddr.length + dstAddr.length + 4 := by
  simp only [pseudoHeader, List.length_append, length_be16, List.length_cons, List.length_nil]

theorem pseudoHeader_ok (protocol : UInt8) (srcAddr dstAddr : List UInt8) (totalLen : UInt16)
    (srcSize : srcAddr.length ≤ 16) (dstSize : dstAddr.length ≤ 16) :
    pseudoHeaderChecksumNoFold protocol srcAddr dstAddr totalLen =
      .ok (groupSum srcAddr + groupSum dstAddr + groupSum ([0, protocol] ++ be16 totalLen)) := by
  have src := groupSum_le srcAddr
  have dst := groupSum_le dstAddr
  have trailer := groupSum_le ([0, protocol] ++ be16 totalLen)
  simp only [List.length_append, List.length_cons, List.length_nil, length_be16] at trailer
  unfold pseudoHeaderChecksumNoFold
  rw [checksumNoFold_eq _ _ (by omega), addU64_ok (by omega), Run.ok_bind,
    checksumNoFold_eq _ _ (by omega), addU64_ok (by omega), Run.ok_bind,
    checksumNoFold_eq _ _ (by omega), addU64_ok (by omega), Nat.zero_add]

theorem pseudoHeader_checksum (protocol : UInt8) (srcAddr dstAddr : List UInt8)
    (totalLen : UInt16) (transport : List UInt8) (srcSize : srcAddr.length ≤ 16)
    (dstSize : dstAddr.length ≤ 16) (srcEven : srcAddr.length % 2 = 0)
    (dstEven : dstAddr.length % 2 = 0) (short : transport.length < 2 ^ 31) :
    (pseudoHeaderChecksumNoFold protocol srcAddr dstAddr totalLen >>= checksum transport) =
      .ok (UInt16.ofNat
        (fold (wordSum (pseudoHeader protocol srcAddr dstAddr totalLen ++ transport)))) := by
  have src := groupSum_le srcAddr
  have dst := groupSum_le dstAddr
  have trailer := groupSum_le ([0, protocol] ++ be16 totalLen)
  have srcMod := groupSum_mod srcAddr
  have dstMod := groupSum_mod dstAddr
  have trailerMod := groupSum_mod ([0, protocol] ++ be16 totalLen)
  have srcZero := groupSum_eq_zero_iff srcAddr
  have dstZero := groupSum_eq_zero_iff dstAddr
  have trailerZero := groupSum_eq_zero_iff ([0, protocol] ++ be16 totalLen)
  have trailerLength : ([0, protocol] ++ be16 totalLen).length = 4 := rfl
  have covered : wordSum (pseudoHeader protocol srcAddr dstAddr totalLen ++ transport) =
      wordSum srcAddr + wordSum dstAddr + wordSum ([0, protocol] ++ be16 totalLen) +
        wordSum transport := by
    have front : (srcAddr ++ dstAddr).length % 2 = 0 := by rw [List.length_append]; omega
    rw [pseudoHeader, wordSum_append (by rw [List.length_append, trailerLength]; omega),
      wordSum_append front, wordSum_append srcEven]
  rw [pseudoHeader_ok _ _ _ _ srcSize dstSize, Run.ok_bind, checksum_ok _ _ (by omega), covered]
  congr 2
  exact fold_congr (by omega) (by omega)

end QuincyTun.Linux
