import QuincyTun.Foundation.Decimal
import QuincyTun.Foundation.IoError

/-! The unit that a BSD or macOS device name asks for. -/

set_option autoImplicit false

namespace QuincyTun.Unix

open QuincyTun.Foundation

structure DeviceConfig where
  devName : Option String
  packetInformation : Option Bool
  deriving DecidableEq, Repr

def ifnamsiz : Nat := 16

def parseU32 (text : List Char) : Except ParseIntError UInt32 :=
  (parseUnsigned (2 ^ 32) text).map UInt32.ofNat

/-- The checks of both constructors, and the number behind the name of the driver. -/
def requestedUnit (driver name : String) : Result UInt32 :=
  if name.utf8ByteSize > ifnamsiz then invalidInput "device name too long"
  else if driver.toList <+: name.toList then
    (parseU32 (name.toList.drop driver.toList.length)).mapError
      fun error => ⟨.invalidInput, error.message⟩
  else invalidInput ("device name must start with " ++ driver)

/-- A name that is accepted although its number is not in the notation of the system. -/
def Misspelled (driver name : String) : Prop :=
  name.utf8ByteSize ≤ ifnamsiz ∧ ∃ suffix, name.toList = driver.toList ++ suffix ∧
    (parseU32 suffix).isOk ∧ ¬ Canonical suffix

variable {driver name : String} {unit : UInt32} {text : List Char}

theorem parseU32_eq_ok :
    parseU32 text = .ok unit ↔ parseUnsigned (2 ^ 32) text = .ok unit.toNat := by
  unfold parseU32
  cases read : parseUnsigned (2 ^ 32) text with
  | error error => simp [Except.map]
  | ok n =>
    have small : n < 2 ^ 32 := (parseUnsigned_eq_ok.mp read).2.2.2
    constructor
    · intro same
      rw [← Except.ok.inj same, UInt32.toNat_ofNat_of_lt' small]
    · intro same
      rw [Except.ok.inj same]
      exact congrArg Except.ok UInt32.ofNat_toNat

theorem requestedUnit_eq_ok : requestedUnit driver name = .ok unit ↔
    name.utf8ByteSize ≤ ifnamsiz ∧
      ∃ suffix, name.toList = driver.toList ++ suffix ∧ parseU32 suffix = .ok unit := by
  unfold requestedUnit
  split_ifs with long begins
  · simp [invalidInput, long]
  · obtain ⟨suffix, same⟩ := begins
    rw [← same, List.drop_left]
    have only : (∃ suffix', driver.toList ++ suffix = driver.toList ++ suffix' ∧
        parseU32 suffix' = .ok unit) ↔ parseU32 suffix = .ok unit := by
      simp only [List.append_cancel_left_eq, exists_eq_left']
    rw [only]
    cases parseU32 suffix with
    | error error => simp [Except.mapError]
    | ok read => simp [Except.mapError, Nat.le_of_not_gt long]
  · constructor
    · intro impossible
      cases impossible
    · rintro ⟨-, suffix, same, -⟩
      exact absurd ⟨suffix, same.symm⟩ begins

theorem Misspelled.accepted (misspelled : Misspelled driver name) :
    ∃ unit, requestedUnit driver name = .ok unit := by
  obtain ⟨short, suffix, same, read, -⟩ := misspelled
  cases parsed : parseU32 suffix with
  | error error =>
    rw [parsed] at read
    cases read
  | ok unit => exact ⟨unit, requestedUnit_eq_ok.mpr ⟨short, suffix, same, parsed⟩⟩

theorem not_misspelled_of_rejected {error : IoError}
    (rejected : requestedUnit driver name = .error error) : ¬ Misspelled driver name := by
  intro misspelled
  obtain ⟨unit, accepted⟩ := misspelled.accepted
  cases rejected.symm.trans accepted

/-- The name of the unit that is opened is the requested name, unless that is misspelled. -/
theorem requestedUnit_name (requested : requestedUnit driver name = .ok unit) :
    name = driver ++ toString unit.toNat ↔ ¬ Misspelled driver name := by
  obtain ⟨short, suffix, same, read⟩ := requestedUnit_eq_ok.mp requested
  have printed := parseUnsigned_printed (parseU32_eq_ok.mp read)
  have spelled : name = driver ++ toString unit.toNat ↔ suffix = Nat.toDigits 10 unit.toNat := by
    rw [← String.toList_inj, same, String.toList_append, Nat.toString_eq_repr, Nat.toList_repr,
      List.append_cancel_left_eq]
  rw [spelled, printed]
  constructor
  · rintro canonical ⟨-, suffix', same', -, other⟩
    rw [same, List.append_cancel_left_eq] at same'
    exact other (same' ▸ canonical)
  · intro well
    by_contra other
    exact well ⟨short, suffix, same, by rw [read]; rfl, other⟩

theorem requestedUnit_canonical (unit : UInt32) (fits : driver.utf8ByteSize ≤ 6) :
    requestedUnit driver (driver ++ toString unit.toNat) = .ok unit := by
  refine requestedUnit_eq_ok.mpr ⟨?_, Nat.toDigits 10 unit.toNat, ?_, ?_⟩
  · have digits : unit.toNat.repr.length ≤ 10 :=
      (Nat.length_repr_le_iff (by decide)).mpr (unit.toNat_lt.trans (by decide))
    rw [String.utf8ByteSize_append, Nat.toString_eq_repr, utf8ByteSize_repr]
    exact Nat.add_le_add fits digits
  · rw [String.toList_append, Nat.toString_eq_repr, Nat.toList_repr]
  · exact parseU32_eq_ok.mpr (parseUnsigned_toDigits unit.toNat_lt)

end QuincyTun.Unix
