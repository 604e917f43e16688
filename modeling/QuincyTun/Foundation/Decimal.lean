import Mathlib.Data.List.Basic
import Mathlib.Data.List.Induction

/-! Unsigned numbers read from text.

The parser takes more than one notation for a number: a sign and leading zeros
are read over. One notation is canonical, the one that printing chooses.
-/

set_option autoImplicit false

namespace QuincyTun.Foundation

inductive ParseIntError where
  | empty
  | invalidDigit
  | posOverflow
  deriving DecidableEq, Repr

def ParseIntError.message : ParseIntError → String
  | .empty => "cannot parse integer from empty string"
  | .invalidDigit => "invalid digit found in string"
  | .posOverflow => "number too large to fit in target type"

/-- Read digits on from `value`; every intermediate value must fit. -/
def readDigits (bound value : Nat) : List Char → Except ParseIntError Nat
  | [] => .ok value
  | c :: rest =>
    if c.isDigit then
      let next := 10 * value + (c.toNat - '0'.toNat)
      if next < bound then readDigits bound next rest else .error .posOverflow
    else .error .invalidDigit

def withoutSign (text : List Char) : List Char :=
  if text.head? = some '+' then text.tail else text

/-- `str::parse` for an unsigned type with values below `bound` -/
def parseUnsigned (bound : Nat) (text : List Char) : Except ParseIntError Nat :=
  if text = [] then .error .empty
  else if text = ['+'] ∨ text = ['-'] then .error .invalidDigit
  else readDigits bound 0 (withoutSign text)

/-- Without a sign and without superfluous zeros. -/
structure Canonical (text : List Char) : Prop where
  noSign : text.head? ≠ some '+'
  noZero : text.head? = some '0' → text.length = 1

variable {bound value n : Nat} {text : List Char} {c : Char}

theorem canonical_iff :
    Canonical text ↔ text.head? ≠ some '+' ∧ (text.head? = some '0' → text.length = 1) :=
  ⟨fun canonical => ⟨canonical.noSign, canonical.noZero⟩, fun ⟨noSign, noZero⟩ => ⟨noSign, noZero⟩⟩

instance (text : List Char) : Decidable (Canonical text) := decidable_of_iff' _ canonical_iff

/-! ## Reading -/

theorem le_ofDigitChars (text : List Char) (value : Nat) :
    value ≤ Nat.ofDigitChars 10 text value := by
  rw [Nat.ofDigitChars_eq_ofDigitChars_zero]
  have scaled := Nat.le_mul_of_pos_left value (Nat.pow_pos (n := text.length) (Nat.succ_pos 9))
  exact Nat.le_add_right_of_le scaled

theorem readDigits_eq_ok : readDigits bound value text = .ok n ↔
    (∀ c ∈ text, c.isDigit) ∧ Nat.ofDigitChars 10 text value = n ∧ (text ≠ [] → n < bound) := by
  induction text generalizing value with
  | nil => simp [readDigits]
  | cons c rest ih =>
    rw [Nat.ofDigitChars_cons, List.forall_mem_cons]
    simp only [readDigits]
    -- The value never shrinks, so an overflow on the way is one at the end.
    have grows := le_ofDigitChars rest (10 * value + (c.toNat - '0'.toNat))
    split
    case isFalse notDigit => simp [notDigit]
    case isTrue digit =>
      split
      case isFalse large =>
        constructor
        · intro impossible
          cases impossible
        · rintro ⟨-, same, small⟩
          exact absurd (Nat.lt_of_le_of_lt grows (same ▸ small (by simp))) large
      case isTrue small =>
        rw [ih]
        constructor
        · rintro ⟨digits, same, fits⟩
          refine ⟨⟨digit, digits⟩, same, fun _ => ?_⟩
          -- Only the last value of the loop is compared when there are more digits.
          rcases rest.eq_nil_or_concat with rfl | ⟨front, last, rfl⟩
          · rw [← same]
            exact small
          · exact fits (by simp)
        · rintro ⟨⟨-, digits⟩, same, fits⟩
          exact ⟨digits, same, fun _ => fits (by simp)⟩

theorem parseUnsigned_eq_ok : parseUnsigned bound text = .ok n ↔
    withoutSign text ≠ [] ∧ (∀ c ∈ withoutSign text, c.isDigit) ∧
      Nat.ofDigitChars 10 (withoutSign text) 0 = n ∧ n < bound := by
  unfold parseUnsigned
  split_ifs with empty sign
  · simp [empty, withoutSign]
  · rcases sign with rfl | rfl <;> simp [withoutSign]
  · have nonempty : withoutSign text ≠ [] := by
      unfold withoutSign
      split_ifs with plus
      · intro nothing
        rcases text with - | ⟨first, rest⟩
        · exact empty rfl
        · obtain rfl : first = '+' := Option.some.inj plus
          exact sign (.inl (congrArg ('+' :: ·) nothing))
      · exact empty
    rw [readDigits_eq_ok]
    simp [nonempty]

/-! ## The canonical notation -/

theorem head?_toDigits (positive : 0 < n) : (Nat.toDigits 10 n).head? ≠ some '0' := by
  induction n using Nat.strongRecOn with
  | ind n ih =>
    rw [Nat.toDigits_eq_if (by decide)]
    split
    case isTrue small =>
      rw [List.head?_cons, ne_eq, Option.some.injEq, Nat.digitChar_eq_zero]
      exact Nat.pos_iff_ne_zero.mp positive
    case isFalse large =>
      rw [List.head?_append_of_ne_nil _ Nat.toDigits_ne_nil]
      exact ih (n / 10) (by omega) (by omega)

theorem canonical_toDigits (n : Nat) : Canonical (Nat.toDigits 10 n) where
  noSign := by
    intro sign
    have digit := Nat.isDigit_of_mem_toDigits (by decide) (by decide)
      (List.mem_of_mem_head? (Option.mem_def.mpr sign))
    exact absurd digit (by decide)
  noZero := by
    intro zero
    rcases n.eq_zero_or_pos with rfl | positive
    · rfl
    · exact absurd zero (head?_toDigits positive)

theorem toNat_digitChar : ∀ n < 10, (Nat.digitChar n).toNat = n + '0'.toNat := by decide

theorem sub_zero_lt_ten (digit : c.isDigit) : c.toNat - '0'.toNat < 10 := by
  have ⟨least, most⟩ := Char.isDigit_iff_toNat.mp digit
  have : '9'.toNat = '0'.toNat + 9 := rfl
  omega

theorem digitChar_of_isDigit (digit : c.isDigit) : Nat.digitChar (c.toNat - '0'.toNat) = c := by
  apply Char.toNat_inj.mp
  rw [toNat_digitChar _ (sub_zero_lt_ten digit)]
  exact Nat.sub_add_cancel (Char.isDigit_iff_toNat.mp digit).1

theorem toDigits_ofDigitChars (nonempty : text ≠ []) (digits : ∀ c ∈ text, c.isDigit)
    (noZero : text.head? = some '0' → text.length = 1) :
    Nat.toDigits 10 (Nat.ofDigitChars 10 text 0) = text := by
  -- Both functions treat the last digit apart, so the induction goes from the end.
  induction text using List.reverseRecOn with
  | nil => exact absurd rfl nonempty
  | append_singleton front c ih =>
    have small := sub_zero_lt_ten (digits c (by simp))
    rw [Nat.ofDigitChars_append, Nat.ofDigitChars_cons, Nat.ofDigitChars_nil]
    rcases eq_or_ne front [] with rfl | inner
    · rw [Nat.ofDigitChars_nil, Nat.mul_zero, Nat.zero_add, Nat.toDigits_of_lt_base small,
        digitChar_of_isDigit (digits c (by simp)), List.nil_append]
    · rw [List.head?_append_of_ne_nil _ inner, List.length_append] at noZero
      have significant : front.head? ≠ some '0' := by
        intro zero
        have single := noZero zero
        have := List.length_pos_iff.mpr inner
        simp only [List.length_singleton] at single
        omega
      have restored := ih inner (fun c member => digits c (by simp [member]))
        fun zero => absurd zero significant
      have positive : 0 < Nat.ofDigitChars 10 front 0 := by
        rw [Nat.pos_iff_ne_zero]
        intro nothing
        rw [nothing, Nat.toDigits_zero] at restored
        exact significant (restored ▸ rfl)
      rw [← Nat.toDigits_append_toDigits (by decide) positive small, restored,
        Nat.toDigits_of_lt_base small, digitChar_of_isDigit (digits c (by simp))]

theorem withoutSign_eq (noSign : text.head? ≠ some '+') : withoutSign text = text := if_neg noSign

/-- A number that was read is printed as it was written exactly if that was canonical. -/
theorem parseUnsigned_printed (parsed : parseUnsigned bound text = .ok n) :
    text = Nat.toDigits 10 n ↔ Canonical text := by
  obtain ⟨nonempty, digits, rfl, -⟩ := parseUnsigned_eq_ok.mp parsed
  constructor
  · intro printed
    rw [printed]
    exact canonical_toDigits _
  · intro canonical
    rw [withoutSign_eq canonical.noSign] at nonempty digits ⊢
    exact (toDigits_ofDigitChars nonempty digits canonical.noZero).symm

theorem parseUnsigned_toDigits (small : n < bound) :
    parseUnsigned bound (Nat.toDigits 10 n) = .ok n := by
  rw [parseUnsigned_eq_ok, withoutSign_eq (canonical_toDigits n).noSign]
  exact ⟨Nat.toDigits_ne_nil, fun c member => Nat.isDigit_of_mem_toDigits (by decide) (by decide)
    member, Nat.ofDigitChars_ten_toDigits, small⟩

theorem utf8ByteSize_repr (n : Nat) : n.repr.utf8ByteSize = n.repr.length := by
  have digit : ∀ d < 10, (Nat.digitChar d).utf8Size = 1 := by decide
  induction n using Nat.strongRecOn with
  | ind n ih =>
    by_cases small : n < 10
    · rw [Nat.repr_of_lt small, String.utf8ByteSize_singleton, String.length_singleton,
        digit n small]
    · rw [Nat.repr_of_ge (Nat.not_lt.mp small), String.utf8ByteSize_append, String.length_append,
        String.utf8ByteSize_singleton, String.length_singleton, ih (n / 10) (by omega),
        digit (n % 10) (by omega)]

end QuincyTun.Foundation
