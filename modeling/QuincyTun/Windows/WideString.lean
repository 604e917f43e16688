import QuincyTun.Foundation.Utf16

/-! Names that are passed to the system and read from it, as wide strings with a terminator. -/

set_option autoImplicit false

namespace QuincyTun.Windows

open QuincyTun.Foundation

def encodeUtf16 (string : String) : List UInt16 := Utf16.encode string.toList ++ [0]

def decodeUtf16 (units : List UInt16) : String :=
  .ofList (Utf16.decodeLossy (units.take (units.findIdx (· == 0))))

/-- The part of a buffer that the system reads. -/
def untilTerminator (units : List UInt16) : List UInt16 := units.takeWhile (· ≠ 0)

def untilNul (string : String) : String := .ofList (string.toList.takeWhile (· ≠ .ofNat 0))

theorem decodeUtf16_eq (units : List UInt16) :
    decodeUtf16 units = .ofList (Utf16.decodeLossy (untilTerminator units)) := by
  have same : (fun u : UInt16 => u == 0) = fun u => !decide (u ≠ 0) := by
    funext u
    simp [beq_eq_decide]
  rw [decodeUtf16, untilTerminator, List.takeWhile_eq_take_findIdx_not, same]

theorem untilTerminator_encodeUtf16 (string : String) (rest : List UInt16) :
    untilTerminator (encodeUtf16 string ++ rest) = Utf16.encode (untilNul string).toList := by
  rw [untilTerminator, encodeUtf16, List.append_assoc, List.singleton_append,
    Utf16.takeWhile_encode, untilNul, String.toList_ofList]

/-- Whatever stands behind its terminator, a string is read back up to its first NUL. Units are
written as they were read exactly if they are well formed. Two strings are the same to the system
exactly if they agree up to the first NUL. -/
theorem utf16_roundTrip :
    (∀ string rest, decodeUtf16 (encodeUtf16 string ++ rest) = untilNul string) ∧
    (∀ units, encodeUtf16 (decodeUtf16 units) = untilTerminator units ++ [0] ↔
      Utf16.WellFormed (untilTerminator units)) ∧
    ∀ string other, untilTerminator (encodeUtf16 string) = untilTerminator (encodeUtf16 other) ↔
      untilNul string = untilNul other := by
  refine ⟨fun string rest => ?_, fun units => ?_, fun string other => ?_⟩
  · rw [decodeUtf16_eq, untilTerminator_encodeUtf16, Utf16.decodeLossy_encode,
      String.ofList_toList]
  · rw [decodeUtf16_eq, encodeUtf16, String.toList_ofList, List.append_left_inj,
      Utf16.encode_decodeLossy]
  · have bare (string : String) : untilTerminator (encodeUtf16 string) =
        Utf16.encode (untilNul string).toList := by
      rw [← untilTerminator_encodeUtf16 string [], List.append_nil]
    rw [bare, bare]
    constructor
    · intro same
      have decoded := congrArg Utf16.decodeLossy same
      rw [Utf16.decodeLossy_encode, Utf16.decodeLossy_encode] at decoded
      exact String.toList_inj.mp decoded
    · intro same
      rw [same]

example : encodeUtf16 (.ofList [.ofNat 0x74, .ofNat 0x1f680]) = [0x74, 0xd83d, 0xde80, 0] := by decide

end QuincyTun.Windows
