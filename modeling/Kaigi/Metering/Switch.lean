import Mathlib.Data.List.Chain

/-!
# A flag that is switched

What a flag goes through, as the list of its switches: on and off follow each other.
-/

set_option autoImplicit false

namespace Kaigi.Metering

inductive Switch where
  | on
  | off
deriving DecidableEq

/-- How the flag goes from one value to the other. -/
def switches : Bool → Bool → List Switch
  | false, true => [.on]
  | true, false => [.off]
  | _, _ => []

/-- The flag after the switches, where each of them changes it. -/
def switched : Bool → List Switch → Option Bool
  | flag, [] => some flag
  | false, .on :: rest => switched true rest
  | true, .off :: rest => switched false rest
  | _, _ => none

@[simp] theorem switches_self (flag : Bool) : switches flag flag = [] := by
  cases flag <;> rfl

@[simp] theorem switched_nil (flag : Bool) : switched flag [] = some flag := by
  cases flag <;> rfl

theorem switched_switches (before after : Bool) (rest : List Switch) :
    switched before (switches before after ++ rest) = switched after rest := by
  cases before <;> cases after <;> rfl

/-- The switches of one flag alternate. -/
theorem switched_alternates {flag last : Bool} {list : List Switch}
    (found : switched flag list = some last) : list.IsChain (· ≠ ·) := by
  induction list generalizing flag with
  | nil => exact .nil
  | cons first rest ih =>
      have later : switched (!flag) rest = some last := by
        cases flag <;> cases first <;> first | exact found | cases found
      have chain := ih later
      cases rest with
      | nil => exact .singleton first
      | cons second rest =>
          refine .cons_cons ?_ chain
          rintro rfl
          cases flag <;> cases first <;> cases found

end Kaigi.Metering
