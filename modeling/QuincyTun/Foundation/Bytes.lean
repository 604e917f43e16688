import Mathlib.Data.List.Basic
import Mathlib.Data.List.GetD
import Mathlib.Tactic.Ring

/-! Byte strings with big-endian fields and in-place overwriting.

Reads are total: a position beyond the end reads as zero. Callers that model
checked accesses state the bound next to the read. Overwriting never changes
the length, so a buffer keeps every invariant about its size.
-/

set_option autoImplicit false

namespace QuincyTun.Foundation

variable {α : Type}

/-! ## Overwriting a window of a list -/

/-- Replace the elements from position `at` on by `source`; what does not fit is dropped. -/
def overwrite : List α → Nat → List α → List α
  | [], _, _ => []
  | x :: xs, _, [] => x :: xs
  | _ :: xs, 0, s :: source => s :: overwrite xs 0 source
  | x :: xs, n + 1, s :: source => x :: overwrite xs n (s :: source)

@[simp] theorem overwrite_nil (xs : List α) (n : Nat) : overwrite xs n [] = xs := by
  cases xs <;> rfl

@[simp] theorem length_overwrite (xs : List α) (n : Nat) (source : List α) :
    (overwrite xs n source).length = xs.length := by
  fun_induction overwrite xs n source with
  | case1 => rfl
  | case2 => rfl
  | case3 _ _ _ _ ih => simp [ih]
  | case4 _ _ _ _ _ ih => simp [ih]

theorem getElem?_overwrite (xs : List α) (n : Nat) (source : List α) (i : Nat) :
    (overwrite xs n source)[i]? =
      if n ≤ i ∧ i < n + source.length ∧ i < xs.length then source[i - n]? else xs[i]? := by
  fun_induction overwrite xs n source generalizing i with
  | case1 => simp
  | case2 x xs n => simp; omega
  | case3 x xs s source ih =>
    cases i with
    | zero => simp
    | succ i => simp [ih]
  | case4 x xs n s source ih =>
    cases i with
    | zero => simp
    | succ i =>
      have shift : i + 1 - (n + 1) = i - n := by omega
      simp only [List.getElem?_cons_succ, ih, shift, List.length_cons]
      congr 1
      simp only [eq_iff_iff]
      omega

theorem overwrite_eq_append (xs : List α) (n : Nat) (source : List α)
    (fits : n + source.length ≤ xs.length) :
    overwrite xs n source = xs.take n ++ source ++ xs.drop (n + source.length) := by
  apply List.ext_getElem?
  intro i
  simp only [getElem?_overwrite, List.getElem?_append, List.getElem?_take, List.getElem?_drop,
    List.length_take, List.length_append]
  have room : min n xs.length = n := by omega
  rw [room]
  by_cases before : i < n
  · simp [before, Nat.not_le.mpr before, Nat.lt_add_right source.length before]
  · by_cases inside : i < n + source.length
    · have bound : i < xs.length := by omega
      simp [before, inside, bound, Nat.not_lt.mp before]
    · have back : n + source.length + (i - (n + source.length)) = i := by omega
      simp [inside, back]

theorem overwrite_append_left (xs ys : List α) (n : Nat) (source : List α)
    (fits : n + source.length ≤ xs.length) :
    overwrite (xs ++ ys) n source = overwrite xs n source ++ ys := by
  rw [overwrite_eq_append xs n source fits,
    overwrite_eq_append _ n source (by rw [List.length_append]; omega),
    List.take_append_of_le_length (by omega), List.drop_append_of_le_length fits]
  simp only [List.append_assoc]

theorem take_overwrite_of_le (xs : List α) (n : Nat) (source : List α) {k : Nat} (before : k ≤ n) :
    (overwrite xs n source).take k = xs.take k := by
  apply List.ext_getElem?
  intro i
  simp only [List.getElem?_take, getElem?_overwrite]
  split
  · rw [if_neg (by omega)]
  · rfl

theorem drop_overwrite_of_le (xs : List α) (n : Nat) (source : List α) {k : Nat}
    (after : n + source.length ≤ k) : (overwrite xs n source).drop k = xs.drop k := by
  apply List.ext_getElem?
  intro i
  simp only [List.getElem?_drop, getElem?_overwrite]
  rw [if_neg (by omega)]

theorem drop_overwrite_add (xs : List α) (k n : Nat) (source : List α) :
    (overwrite xs (k + n) source).drop k = overwrite (xs.drop k) n source := by
  apply List.ext_getElem?
  intro i
  simp only [List.getElem?_drop, getElem?_overwrite, List.length_drop]
  have shift : k + i - (k + n) = i - n := by omega
  rw [shift]
  congr 1
  simp only [eq_iff_iff]
  omega

theorem take_overwrite_full (xs : List α) (n k : Nat) (source : List α)
    (fits : n + source.length ≤ k) :
    (overwrite xs n source).take k = overwrite (xs.take k) n source := by
  apply List.ext_getElem?
  intro i
  simp only [List.getElem?_take, getElem?_overwrite, List.length_take]
  by_cases inside : i < k
  · simp only [inside, if_true]
    congr 1
    simp only [eq_iff_iff]
    omega
  · simp only [inside, if_false]
    rw [if_neg (by omega)]

/-- Two windows written one behind the other are one window. -/
theorem overwrite_overwrite_self (xs : List α) (n : Nat) (source : List α) :
    overwrite (overwrite xs n source) n source = overwrite xs n source := by
  apply List.ext_getElem?
  intro i
  simp only [getElem?_overwrite, length_overwrite]
  split <;> rfl

theorem overwrite_overwrite_append (xs : List α) (n : Nat) (first second : List α) :
    overwrite (overwrite xs n first) (n + first.length) second =
      overwrite xs n (first ++ second) := by
  apply List.ext_getElem?
  intro i
  simp only [getElem?_overwrite, length_overwrite, List.length_append]
  by_cases inFirst : i < n + first.length
  · rw [if_neg (by omega)]
    by_cases inside : n ≤ i ∧ i < xs.length
    · rw [if_pos (by omega), if_pos (by omega), List.getElem?_append_left (by omega)]
    · rw [if_neg (by omega), if_neg (by omega)]
  · rw [if_neg (by omega : ¬ (n ≤ i ∧ i < n + first.length ∧ i < xs.length))]
    by_cases inside : i < n + first.length + second.length ∧ i < xs.length
    · rw [if_pos (by omega), if_pos (by omega), List.getElem?_append_right (by omega)]
      congr 1
      omega
    · rw [if_neg (by omega), if_neg (by omega)]

/-! ## Windows -/

def window (xs : List α) (start length : Nat) : List α := (xs.drop start).take length

theorem getElem?_window (xs : List α) (start length i : Nat) :
    (window xs start length)[i]? = if i < length then xs[start + i]? else none := by
  simp [window, List.getElem?_take, List.getElem?_drop]

theorem length_window (xs : List α) (start length : Nat) (fits : start + length ≤ xs.length) :
    (window xs start length).length = length := by
  simp only [window, List.length_take, List.length_drop]
  omega

theorem window_eq_of_getElem? {xs ys : List α} {start length : Nat}
    (same : ∀ i, start ≤ i → i < start + length → xs[i]? = ys[i]?) :
    window xs start length = window ys start length := by
  apply List.ext_getElem?
  intro i
  simp only [getElem?_window]
  split
  · exact same _ (by omega) (by omega)
  · rfl

theorem window_take (xs : List α) {start length k : Nat} (fits : start + length ≤ k) :
    window (xs.take k) start length = window xs start length := by
  apply window_eq_of_getElem?
  intro i _ _
  rw [List.getElem?_take_of_lt (by omega)]

theorem window_overwrite_disjoint (xs : List α) (n : Nat) (source : List α) {start length : Nat}
    (apart : start + length ≤ n ∨ n + source.length ≤ start) :
    window (overwrite xs n source) start length = window xs start length := by
  apply window_eq_of_getElem?
  intro i _ _
  rw [getElem?_overwrite, if_neg (by omega)]

theorem window_overwrite_self (xs : List α) (n : Nat) (source : List α)
    (fits : n + source.length ≤ xs.length) :
    window (overwrite xs n source) n source.length = source := by
  apply List.ext_getElem?
  intro i
  rw [getElem?_window, getElem?_overwrite]
  by_cases inside : i < source.length
  · rw [if_pos inside, if_pos (by omega), Nat.add_sub_cancel_left]
  · rw [if_neg inside, List.getElem?_eq_none (by omega)]

theorem overwrite_window (xs : List α) (n : Nat) {length : Nat} (source : List α)
    (small : source.length ≤ length) (fits : n + length ≤ xs.length) :
    overwrite xs n (overwrite (window xs n length) 0 source) = overwrite xs n source := by
  have size := length_window xs n length fits
  apply List.ext_getElem?
  intro i
  simp only [getElem?_overwrite, length_overwrite, size, getElem?_window, Nat.zero_add,
    Nat.zero_le, true_and, Nat.sub_zero]
  by_cases inside : n ≤ i ∧ i < n + source.length
  · rw [if_pos (by omega), if_pos (by omega), if_pos (by omega)]
  · rw [if_neg (by omega : ¬ (n ≤ i ∧ i < n + source.length ∧ i < xs.length))]
    split
    · rw [if_neg (by omega), if_pos (by omega)]
      congr 1
      omega
    · rfl

/-! ## Bytes and big-endian words -/

/-- The byte at a position; zero beyond the end. -/
def byteAt (bytes : List UInt8) (i : Nat) : UInt8 := bytes[i]?.getD 0

def u16At (bytes : List UInt8) (i : Nat) : UInt16 :=
  UInt16.ofNat ((byteAt bytes i).toNat * 256 + (byteAt bytes (i + 1)).toNat)

def u32At (bytes : List UInt8) (i : Nat) : UInt32 :=
  UInt32.ofNat ((u16At bytes i).toNat * 65536 + (u16At bytes (i + 2)).toNat)

def be16 (value : UInt16) : List UInt8 :=
  [UInt8.ofNat (value.toNat / 256), UInt8.ofNat value.toNat]

def be32 (value : UInt32) : List UInt8 :=
  be16 (UInt16.ofNat (value.toNat / 65536)) ++ be16 (UInt16.ofNat value.toNat)

@[simp] theorem length_be16 (value : UInt16) : (be16 value).length = 2 := rfl

@[simp] theorem length_be32 (value : UInt32) : (be32 value).length = 4 := rfl

theorem u16At_toNat (bytes : List UInt8) (i : Nat) :
    (u16At bytes i).toNat = (byteAt bytes i).toNat * 256 + (byteAt bytes (i + 1)).toNat := by
  have high := (byteAt bytes i).toNat_lt
  have low := (byteAt bytes (i + 1)).toNat_lt
  simp only [u16At, UInt16.toNat_ofNat']
  omega

theorem u32At_toNat (bytes : List UInt8) (i : Nat) :
    (u32At bytes i).toNat =
      ((byteAt bytes i).toNat * 256 + (byteAt bytes (i + 1)).toNat) * 65536 +
        ((byteAt bytes (i + 2)).toNat * 256 + (byteAt bytes (i + 3)).toNat) := by
  have high := (u16At bytes i).toNat_lt
  have low := (u16At bytes (i + 2)).toNat_lt
  rw [u32At, UInt32.toNat_ofNat', Nat.mod_eq_of_lt (by omega), u16At_toNat, u16At_toNat]

theorem byteAt_eq_of_getElem? {xs ys : List UInt8} {i : Nat} (same : xs[i]? = ys[i]?) :
    byteAt xs i = byteAt ys i := by
  simp [byteAt, same]

theorem u16At_congr {xs ys : List UInt8} {i j : Nat} (first : byteAt xs i = byteAt ys j)
    (second : byteAt xs (i + 1) = byteAt ys (j + 1)) : u16At xs i = u16At ys j := by
  simp only [u16At, first, second]

theorem u32At_congr {xs ys : List UInt8} {i j : Nat}
    (same : ∀ k < 4, byteAt xs (i + k) = byteAt ys (j + k)) : u32At xs i = u32At ys j := by
  have first : u16At xs i = u16At ys j := u16At_congr (same 0 (by omega)) (same 1 (by omega))
  have second : u16At xs (i + 2) = u16At ys (j + 2) :=
    u16At_congr (same 2 (by omega)) (same 3 (by omega))
  simp only [u32At, first, second]

theorem byteAt_drop (bytes : List UInt8) (n i : Nat) :
    byteAt (bytes.drop n) i = byteAt bytes (n + i) := by
  simp [byteAt, List.getElem?_drop]

theorem byteAt_take (bytes : List UInt8) {n i : Nat} (inside : i < n) :
    byteAt (bytes.take n) i = byteAt bytes i := by
  simp [byteAt, List.getElem?_take_of_lt inside]

theorem byteAt_append_left (xs ys : List UInt8) {i : Nat} (inside : i < xs.length) :
    byteAt (xs ++ ys) i = byteAt xs i := by
  simp [byteAt, List.getElem?_append_left inside]

theorem byteAt_overwrite (xs : List UInt8) (n : Nat) (source : List UInt8) {i : Nat}
    (fits : n + source.length ≤ xs.length) :
    byteAt (overwrite xs n source) i =
      if n ≤ i ∧ i < n + source.length then byteAt source (i - n) else byteAt xs i := by
  simp only [byteAt, getElem?_overwrite]
  by_cases inside : n ≤ i ∧ i < n + source.length
  · have bound : i < xs.length := by omega
    simp [inside, bound]
  · rw [if_neg (by omega), if_neg inside]

theorem u16At_drop (bytes : List UInt8) (n i : Nat) :
    u16At (bytes.drop n) i = u16At bytes (n + i) :=
  u16At_congr (byteAt_drop _ _ _) (byteAt_drop _ _ _)

theorem u32At_drop (bytes : List UInt8) (n i : Nat) :
    u32At (bytes.drop n) i = u32At bytes (n + i) :=
  u32At_congr fun k _ => by rw [byteAt_drop, Nat.add_assoc]

theorem u16At_take (bytes : List UInt8) {n i : Nat} (inside : i + 2 ≤ n) :
    u16At (bytes.take n) i = u16At bytes i :=
  u16At_congr (byteAt_take _ (by omega)) (byteAt_take _ (by omega))

theorem u16At_overwrite_disjoint (xs : List UInt8) (n : Nat) (source : List UInt8) {i : Nat}
    (fits : n + source.length ≤ xs.length) (apart : i + 2 ≤ n ∨ n + source.length ≤ i) :
    u16At (overwrite xs n source) i = u16At xs i := by
  apply u16At_congr
  · rw [byteAt_overwrite _ _ _ fits, if_neg (by omega)]
  · rw [byteAt_overwrite _ _ _ fits, if_neg (by omega)]

theorem u32At_take (bytes : List UInt8) {n i : Nat} (inside : i + 4 ≤ n) :
    u32At (bytes.take n) i = u32At bytes i :=
  u32At_congr fun _ small => byteAt_take _ (by omega)

theorem u16At_be16 (value : UInt16) : u16At (be16 value) 0 = value := by
  have bound := value.toNat_lt
  apply UInt16.toNat_inj.mp
  rw [u16At_toNat]
  simp only [byteAt, be16, Nat.zero_add, List.getElem?_cons_zero, List.getElem?_cons_succ,
    Option.getD_some, UInt8.toNat_ofNat']
  omega

theorem u16At_overwrite_self (xs : List UInt8) (n : Nat) (value : UInt16)
    (fits : n + 2 ≤ xs.length) : u16At (overwrite xs n (be16 value)) n = value := by
  calc u16At (overwrite xs n (be16 value)) n = u16At (be16 value) 0 := by
        apply u16At_congr
        · rw [byteAt_overwrite _ _ _ (by simpa using fits), if_pos (by simp)]
          simp
        · rw [byteAt_overwrite _ _ _ (by simpa using fits), if_pos (by simp)]
          simp
    _ = value := u16At_be16 value

theorem u32At_be32 (value : UInt32) : u32At (be32 value) 0 = value := by
  have bound := value.toNat_lt
  have high : u16At (be32 value) 0 = UInt16.ofNat (value.toNat / 65536) :=
    u16At_be16 (UInt16.ofNat (value.toNat / 65536))
  have low : u16At (be32 value) (0 + 2) = UInt16.ofNat value.toNat :=
    u16At_be16 (UInt16.ofNat value.toNat)
  apply UInt32.toNat_inj.mp
  rw [u32At, high, low]
  simp only [UInt16.toNat_ofNat', UInt32.toNat_ofNat']
  omega

theorem u32At_overwrite_self (xs : List UInt8) (n : Nat) (value : UInt32)
    (fits : n + 4 ≤ xs.length) : u32At (overwrite xs n (be32 value)) n = value := by
  calc u32At (overwrite xs n (be32 value)) n = u32At (be32 value) 0 := by
        apply u32At_congr
        intro k hk
        rw [byteAt_overwrite _ _ _ (by simpa using fits), if_pos (by simp; omega)]
        congr 1
        omega
    _ = value := u32At_be32 value

/-! ## Parts of words and bytes -/

theorem byteAt_of_window {a b : List UInt8} {start length i : Nat}
    (same : window a start length = window b start length) (lower : start ≤ i)
    (upper : i < start + length) : byteAt a i = byteAt b i := by
  have entry := congrArg (·[i - start]?) same
  simp only [getElem?_window, if_pos (by omega : i - start < length),
    Nat.add_sub_cancel' lower] at entry
  exact byteAt_eq_of_getElem? entry

theorem u16At_inj {a b : List UInt8} {i j : Nat} (same : u16At a i = u16At b j) :
    byteAt a i = byteAt b j ∧ byteAt a (i + 1) = byteAt b (j + 1) := by
  have value := congrArg UInt16.toNat same
  rw [u16At_toNat, u16At_toNat] at value
  have lowA := (byteAt a (i + 1)).toNat_lt
  have lowB := (byteAt b (j + 1)).toNat_lt
  exact ⟨UInt8.toNat_inj.mp (by omega), UInt8.toNat_inj.mp (by omega)⟩

theorem u32At_inj {a b : List UInt8} {i j : Nat} (same : u32At a i = u32At b j) {k : Nat}
    (inside : k < 4) : byteAt a (i + k) = byteAt b (j + k) := by
  have value := congrArg UInt32.toNat same
  have highA := (u16At a i).toNat_lt
  have lowA := (u16At a (i + 2)).toNat_lt
  have highB := (u16At b j).toNat_lt
  have lowB := (u16At b (j + 2)).toNat_lt
  simp only [u32At, UInt32.toNat_ofNat'] at value
  have high : (u16At a i).toNat = (u16At b j).toNat := by omega
  have low : (u16At a (i + 2)).toNat = (u16At b (j + 2)).toNat := by omega
  obtain ⟨first, second⟩ := u16At_inj (UInt16.toNat_inj.mp high)
  obtain ⟨third, fourth⟩ := u16At_inj (UInt16.toNat_inj.mp low)
  rcases (by omega : k = 0 ∨ k = 1 ∨ k = 2 ∨ k = 3) with rfl | rfl | rfl | rfl
  · exact first
  · exact second
  · exact third
  · exact fourth

theorem forall_byte {p : UInt8 → Prop} (each : ∀ n < 256, p (UInt8.ofNat n)) (b : UInt8) : p b := by
  have own := each b.toNat b.toNat_lt
  rwa [UInt8.ofNat_toNat] at own

theorem eq_nibbles (b : UInt8) : b = b >>> 4 <<< 4 ||| b &&& 0x0F := by
  revert b
  exact forall_byte (by decide +kernel)

theorem or_all (b : UInt8) : b ||| (0xFF : UInt8) = 0xFF := by
  revert b
  exact forall_byte (by decide +kernel)

theorem low_nibble (b : UInt8) : b <<< 4 >>> 4 = b &&& 0x0F := by
  revert b
  exact forall_byte (by decide +kernel)

theorem shiftRight_both (b : UInt8) : b >>> 4 >>> 4 = 0 := by
  revert b
  exact forall_byte (by decide +kernel)

theorem shiftLeft_both (b : UInt8) : b <<< 4 <<< 4 = 0 := by
  revert b
  exact forall_byte (by decide +kernel)

theorem or_low_nibble (b : UInt8) : b ||| (0x0F : UInt8) = b >>> 4 <<< 4 ||| (0x0F : UInt8) := by
  revert b
  exact forall_byte (by decide +kernel)

theorem eq_high_bits (b : UInt8) : b <<< 3 = 0 → b = b >>> 5 <<< 5 := by
  revert b
  exact forall_byte (by decide +kernel)

end QuincyTun.Foundation
