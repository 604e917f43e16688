import Mathlib.Data.List.Basic
import Mathlib.Tactic.Common

/-! Text as UTF-16 code units.

Every character has one or two units, and two units never look like two characters.
A reader that replaces what it cannot read therefore restores all text that was written,
and changes exactly the sequences that are not well formed.
-/

set_option autoImplicit false

namespace QuincyTun.Foundation.Utf16

def IsHigh (u : UInt16) : Prop := 0xD800 ≤ u.toNat ∧ u.toNat < 0xDC00

def IsLow (u : UInt16) : Prop := 0xDC00 ≤ u.toNat ∧ u.toNat < 0xE000

instance (u : UInt16) : Decidable (IsHigh u) := inferInstanceAs (Decidable (_ ∧ _))

instance (u : UInt16) : Decidable (IsLow u) := inferInstanceAs (Decidable (_ ∧ _))

def units (c : Char) : List UInt16 :=
  if c.toNat < 0x10000 then [.ofNat c.toNat]
  else
    [.ofNat (0xD800 + (c.toNat - 0x10000) / 0x400), .ofNat (0xDC00 + (c.toNat - 0x10000) % 0x400)]

def encode (text : List Char) : List UInt16 := text.flatMap units

def pair (u v : UInt16) : Char :=
  .ofNat (0x10000 + (u.toNat - 0xD800) * 0x400 + (v.toNat - 0xDC00))

def replacement : Char := .ofNat 0xFFFD

def decodeLossy : List UInt16 → List Char
  | [] => []
  | [u] => [if IsHigh u ∨ IsLow u then replacement else .ofNat u.toNat]
  | u :: v :: rest =>
    if IsHigh u then
      if IsLow v then pair u v :: decodeLossy rest
      -- The second unit is read again, on its own.
      else replacement :: decodeLossy (v :: rest)
    else (if IsLow u then replacement else .ofNat u.toNat) :: decodeLossy (v :: rest)

/-- High and low units occur in pairs only. -/
inductive WellFormed : List UInt16 → Prop
  | nil : WellFormed []
  | single {u : UInt16} {rest : List UInt16} (plain : ¬ IsHigh u ∧ ¬ IsLow u)
      (later : WellFormed rest) : WellFormed (u :: rest)
  | pair {u v : UInt16} {rest : List UInt16} (high : IsHigh u) (low : IsLow v)
      (later : WellFormed rest) : WellFormed (u :: v :: rest)

variable {c : Char} {u v : UInt16} {text : List Char} {rest : List UInt16}

/-! ## Characters -/

theorem toNat_bounds (c : Char) : c.toNat < 0xD800 ∨ 0xE000 ≤ c.toNat ∧ c.toNat < 0x110000 := by
  rcases c.valid with below | ⟨above, most⟩
  · exact .inl below
  · exact .inr ⟨above, most⟩

theorem toNat_ofNat {n : Nat} (small : n < 0xD800 ∨ 0xE000 ≤ n ∧ n < 0x110000) :
    (Char.ofNat n).toNat = n := by
  have valid : n.isValidChar := by
    rcases small with below | ⟨above, most⟩
    · exact .inl below
    · exact .inr ⟨by omega, most⟩
  rw [Char.ofNat, dif_pos valid]
  rfl

theorem units_cases (c : Char) :
    (∃ u, units c = [u] ∧ (¬ IsHigh u ∧ ¬ IsLow u) ∧ u.toNat = c.toNat) ∨
      ∃ u v, units c = [u, v] ∧ IsHigh u ∧ IsLow v ∧ pair u v = c := by
  have bounds := toNat_bounds c
  rw [units]
  split
  case isTrue small =>
    have same : (UInt16.ofNat c.toNat).toNat = c.toNat := UInt16.toNat_ofNat_of_lt' small
    refine .inl ⟨_, rfl, ?_, same⟩
    rw [IsHigh, IsLow, same]
    omega
  case isFalse large =>
    have bits : UInt16.size = 0x10000 := rfl
    have first : (UInt16.ofNat (0xD800 + (c.toNat - 0x10000) / 0x400)).toNat =
        0xD800 + (c.toNat - 0x10000) / 0x400 := UInt16.toNat_ofNat_of_lt' (by rw [bits]; omega)
    have second : (UInt16.ofNat (0xDC00 + (c.toNat - 0x10000) % 0x400)).toNat =
        0xDC00 + (c.toNat - 0x10000) % 0x400 := UInt16.toNat_ofNat_of_lt' (by rw [bits]; omega)
    refine .inr ⟨_, _, rfl, ?_, ?_, ?_⟩
    · rw [IsHigh, first]
      omega
    · rw [IsLow, second]
      omega
    · have restored : 0x10000 + (0xD800 + (c.toNat - 0x10000) / 0x400 - 0xD800) * 0x400 +
          (0xDC00 + (c.toNat - 0x10000) % 0x400 - 0xDC00) = c.toNat := by omega
      rw [pair, first, second, restored, Char.ofNat_toNat]

theorem units_of_plain (plain : ¬ IsHigh u ∧ ¬ IsLow u) : units (.ofNat u.toNat) = [u] := by
  have small := u.toNat_lt
  rw [IsHigh, IsLow] at plain
  have same : (Char.ofNat u.toNat).toNat = u.toNat := toNat_ofNat (by omega)
  rw [units, same, if_pos small, UInt16.ofNat_toNat]

theorem units_pair (high : IsHigh u) (low : IsLow v) : units (pair u v) = [u, v] := by
  obtain ⟨least, most⟩ := high
  obtain ⟨least', most'⟩ := low
  have same : (pair u v).toNat = 0x10000 + (u.toNat - 0xD800) * 0x400 + (v.toNat - 0xDC00) :=
    toNat_ofNat (by omega)
  have first : 0xD800 + ((pair u v).toNat - 0x10000) / 0x400 = u.toNat := by omega
  have second : 0xDC00 + ((pair u v).toNat - 0x10000) % 0x400 = v.toNat := by omega
  rw [units, if_neg (by omega), first, second, UInt16.ofNat_toNat, UInt16.ofNat_toNat]

/-! ## Sequences -/

theorem decodeLossy_single (plain : ¬ IsHigh u ∧ ¬ IsLow u) (rest : List UInt16) :
    decodeLossy (u :: rest) = .ofNat u.toNat :: decodeLossy rest := by
  obtain ⟨notHigh, notLow⟩ := plain
  cases rest with
  | nil => simp only [decodeLossy, notHigh, notLow, or_self, if_false]
  | cons v rest => rw [decodeLossy, if_neg notHigh, if_neg notLow]

theorem decodeLossy_pair (high : IsHigh u) (low : IsLow v) (rest : List UInt16) :
    decodeLossy (u :: v :: rest) = pair u v :: decodeLossy rest := by
  rw [decodeLossy, if_pos high, if_pos low]

theorem decodeLossy_units_append (c : Char) (rest : List UInt16) :
    decodeLossy (units c ++ rest) = c :: decodeLossy rest := by
  rcases units_cases c with ⟨u, same, plain, value⟩ | ⟨u, v, same, high, low, value⟩
  · rw [same, List.singleton_append, decodeLossy_single plain, value, Char.ofNat_toNat]
  · rw [same, List.cons_append, List.singleton_append, decodeLossy_pair high low, value]

theorem decodeLossy_encode (text : List Char) : decodeLossy (encode text) = text := by
  induction text with
  | nil => rfl
  | cons c rest ih =>
    rw [encode, List.flatMap_cons, decodeLossy_units_append]
    exact congrArg (c :: ·) ih

theorem wellFormed_encode (text : List Char) : WellFormed (encode text) := by
  induction text with
  | nil => exact .nil
  | cons c rest ih =>
    rw [encode, List.flatMap_cons]
    rcases units_cases c with ⟨u, same, plain, -⟩ | ⟨u, v, same, high, low, -⟩
    · rw [same]
      exact .single plain ih
    · rw [same]
      exact .pair high low ih

/-- Exactly the well-formed sequences are written as they were read. -/
theorem encode_decodeLossy : encode (decodeLossy rest) = rest ↔ WellFormed rest := by
  constructor
  · intro restored
    rw [← restored]
    exact wellFormed_encode _
  · intro formed
    induction formed with
    | nil => rfl
    | single plain later ih =>
      rw [decodeLossy_single plain, encode, List.flatMap_cons, units_of_plain plain]
      exact congrArg _ ih
    | pair high low later ih =>
      rw [decodeLossy_pair high low, encode, List.flatMap_cons, units_pair high low]
      exact congrArg _ ih

/-! ## Terminators -/

theorem zero_not_mem_units (visible : c ≠ .ofNat 0) : (0 : UInt16) ∉ units c := by
  intro member
  rcases units_cases c with ⟨u, same, -, value⟩ | ⟨u, v, same, high, low, -⟩
  · rw [same, List.mem_singleton] at member
    rw [← member] at value
    exact visible (Char.toNat_inj.mp value.symm)
  · rw [same, List.mem_cons, List.mem_singleton] at member
    rcases member with rfl | rfl
    · exact absurd high.1 (by decide)
    · exact absurd low.1 (by decide)

/-- Text up to its first zero is written as the units up to the first zero. -/
theorem takeWhile_encode (text : List Char) (rest : List UInt16) :
    (encode text ++ 0 :: rest).takeWhile (· ≠ 0) = encode (text.takeWhile (· ≠ .ofNat 0)) := by
  induction text with
  | nil => rfl
  | cons c text ih =>
    rw [encode, List.flatMap_cons, List.append_assoc, List.takeWhile_cons]
    by_cases zero : c = .ofNat 0
    · subst zero
      rfl
    · rw [if_pos (decide_eq_true zero), List.takeWhile_append_of_pos]
      · exact congrArg (units c ++ ·) ih
      · intro u member
        refine decide_eq_true fun same => ?_
        exact zero_not_mem_units zero (same ▸ member)

end QuincyTun.Foundation.Utf16
