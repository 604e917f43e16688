import QuincyTun.Freebsd.Opening
import QuincyTun.Macos.TunTap

/-! A requested device name selects exactly that device.

Both constructors leave the number to a parser that takes other notations than the
canonical one, and macOS counts one further without looking at the result.
-/

set_option autoImplicit false

namespace QuincyTun.Unix

open QuincyTun.Foundation QuincyTun.Macos QuincyTun.Freebsd

/-- A misspelled name opens another device than its own, and the largest number has no control
unit. Every other name is rejected or opens its device. -/
theorem selects_iff (overflowChecks : Bool) (name : String) :
    (SelectsUtun overflowChecks name ↔
      ¬ Misspelled "utun" name ∧ name ≠ "utun4294967295") ∧
    (SelectsTun name ↔ ¬ Misspelled "tun" name) :=
  ⟨selectsUtun_iff overflowChecks name, selectsTun_iff name⟩

theorem misspelled_zeros : Misspelled "utun" "utun007" :=
  ⟨by decide, "007".toList, by decide, by decide, by decide⟩

theorem misspelled_sign : Misspelled "tun" "tun+5" :=
  ⟨by decide, "+5".toList, by decide, by decide, by decide⟩

/-- Unit 0 is asked for, or nothing at all after a panic; `utun7` is opened; `tun5` is opened. -/
theorem selects_violated : (∀ overflowChecks, ¬ SelectsUtun overflowChecks "utun4294967295") ∧
    (∀ overflowChecks, ¬ SelectsUtun overflowChecks "utun007") ∧ ¬ SelectsTun "tun+5" := by
  refine ⟨fun overflowChecks selects => ?_, fun overflowChecks selects => ?_, fun selects => ?_⟩
  · exact ((selectsUtun_iff overflowChecks _).mp selects).2 rfl
  · exact ((selectsUtun_iff overflowChecks _).mp selects).1 misspelled_zeros
  · exact (selectsTun_iff _).mp selects misspelled_sign

end QuincyTun.Unix
