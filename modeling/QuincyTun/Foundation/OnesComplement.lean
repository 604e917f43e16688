import QuincyTun.Foundation.Bytes

/-! Sixteen-bit one's-complement sums over byte strings.

Sums are natural numbers; only `fold` reduces them to one word. It keeps the
residue modulo 65535 and distinguishes the two representations of zero, so
every statement about a folded sum is one about a residue and about being zero.
-/

set_option autoImplicit false

namespace QuincyTun.Foundation

/-- The sum of the big-endian 16-bit words; an odd last byte is padded on the right. -/
def wordSum : List UInt8 → Nat
  | [] => 0
  | [a] => a.toNat * 256
  | a :: b :: rest => a.toNat * 256 + b.toNat + wordSum rest

/-- Add the carries back in until one word is left. -/
def fold (total : Nat) : Nat :=
  if total > 65535 then fold (total / 65536 + total % 65536) else total
termination_by total
decreasing_by omega

/-! ## Folding -/

theorem fold_of_le {total : Nat} (small : total ≤ 65535) : fold total = total := by
  rw [fold, if_neg (by omega)]

theorem fold_le (total : Nat) : fold total ≤ 65535 := by
  fun_induction fold total with
  | case1 _ _ ih => exact ih
  | case2 total small => omega

theorem fold_mod (total : Nat) : fold total % 65535 = total % 65535 := by
  fun_induction fold total with
  | case1 total _ ih => omega
  | case2 => rfl

theorem fold_eq_zero_iff (total : Nat) : fold total = 0 ↔ total = 0 := by
  fun_induction fold total with
  | case1 total _ ih => omega
  | case2 => rfl

/-- `fold` is the only word with the residue of the total and the same zero test. -/
theorem fold_unique {total word : Nat} (small : word ≤ 65535)
    (residue : word % 65535 = total % 65535) (zero : word = 0 ↔ total = 0) :
    word = fold total := by
  have bound := fold_le total
  have same := fold_mod total
  have empty := fold_eq_zero_iff total
  omega

theorem fold_congr {a b : Nat} (residue : a % 65535 = b % 65535) (zero : a = 0 ↔ b = 0) :
    fold a = fold b :=
  fold_unique (fold_le a) ((fold_mod a).trans residue) ((fold_eq_zero_iff a).trans zero)

theorem fold_eq_max_iff (total : Nat) :
    fold total = 65535 ↔ total ≠ 0 ∧ total % 65535 = 0 := by
  have bound := fold_le total
  have same := fold_mod total
  have empty := fold_eq_zero_iff total
  omega

theorem fold_add_complement (total : Nat) : fold (total + (65535 - fold total)) = 65535 := by
  rw [fold_eq_max_iff]
  have bound := fold_le total
  have same := fold_mod total
  have empty := fold_eq_zero_iff total
  omega

/-! ## Word sums -/

theorem wordSum_append {front back : List UInt8} (even : front.length % 2 = 0) :
    wordSum (front ++ back) = wordSum front + wordSum back := by
  fun_induction wordSum front with
  | case1 => simp
  | case2 a => simp at even
  | case3 a b rest ih =>
    simp only [List.length_cons] at even
    simp only [List.cons_append, wordSum, ih (by omega)]
    omega

theorem wordSum_be16 (value : UInt16) : wordSum (be16 value) = value.toNat := by
  have bound := value.toNat_lt
  simp only [be16, wordSum, UInt8.toNat_ofNat']
  omega

theorem wordSum_window_two (bytes : List UInt8) {n : Nat} (fits : n + 2 ≤ bytes.length) :
    wordSum (window bytes n 2) = (u16At bytes n).toNat := by
  have first : bytes[n]? = some bytes[n] := List.getElem?_eq_getElem (by omega)
  have second : bytes[n + 1]? = some bytes[n + 1] := List.getElem?_eq_getElem (by omega)
  have parts : window bytes n 2 = [bytes[n], bytes[n + 1]] := by
    apply List.ext_getElem?
    intro i
    rw [getElem?_window]
    match i with
    | 0 => simp
    | 1 => simp
    | i + 2 => simp
  rw [parts, u16At_toNat]
  simp [wordSum, byteAt, first, second]

/-- Writing a word at an even position exchanges that word in the sum. -/
theorem wordSum_overwrite_be16 (bytes : List UInt8) {n : Nat} (value : UInt16)
    (even : n % 2 = 0) (fits : n + 2 ≤ bytes.length) :
    wordSum (overwrite bytes n (be16 value)) + (u16At bytes n).toNat =
      wordSum bytes + value.toNat := by
  have front : (bytes.take n).length = n := by simp; omega
  have old : bytes = bytes.take n ++ (window bytes n 2 ++ bytes.drop (n + 2)) := by
    rw [window, ← List.drop_drop, List.take_append_drop, List.take_append_drop]
  have before : wordSum bytes =
      wordSum (bytes.take n) + ((u16At bytes n).toNat + wordSum (bytes.drop (n + 2))) := by
    conv_lhs => rw [old]
    rw [wordSum_append (by omega), wordSum_append (by rw [length_window _ _ _ fits]),
      wordSum_window_two _ fits]
  have after : wordSum (overwrite bytes n (be16 value)) =
      wordSum (bytes.take n) + (value.toNat + wordSum (bytes.drop (n + 2))) := by
    rw [overwrite_eq_append _ _ _ (by simpa using fits), List.append_assoc,
      wordSum_append (by omega), wordSum_append (by simp), wordSum_be16, length_be16]
  omega

theorem wordSum_le (bytes : List UInt8) : wordSum bytes ≤ 65535 * bytes.length := by
  fun_induction wordSum bytes with
  | case1 => simp
  | case2 a =>
    have bound := a.toNat_lt
    simp only [List.length_singleton]
    omega
  | case3 a b rest ih =>
    have high := a.toNat_lt
    have low := b.toNat_lt
    simp only [List.length_cons]
    omega

end QuincyTun.Foundation
