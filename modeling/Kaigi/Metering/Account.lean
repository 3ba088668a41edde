import Mathlib.Algebra.Order.Group.Nat

/-!
# Metered accounts

An account that is charged in arrears: it remembers what was charged and up to
when. What accrues to it may change at any time, so what it was charged is
compared with the total that has accrued so far.
-/

set_option autoImplicit false

namespace Kaigi.Metering

structure Account where
  charged : Nat
  cursor : Nat

/-- What was charged, with what accrues from the cursor on. -/
def Account.due (account : Account) (accrual clock : Nat) : Nat :=
  account.charged + accrual * (clock - account.cursor)

/-- What is due does not exceed the total. -/
structure Covered (account : Account) (accrual clock total : Nat) : Prop where
  cursor : account.cursor ≤ clock
  due : account.due accrual clock ≤ total

/-- At the time `now` the account changes, with what accrues to it from `accrual`
to `next`, and no more is due than before. -/
structure Balanced (accrual next now : Nat) (account moved : Account) : Prop where
  cursor : moved.cursor ≤ max account.cursor now
  due : moved.due next now ≤ account.due accrual now

/-- At the time `now` the account changes, and what is charged is exactly what
accrued while the cursor moved. -/
structure Exact (accrual next now : Nat) (account moved : Account) : Prop where
  charged : moved.charged = account.charged + accrual * (moved.cursor - account.cursor)
  due : moved.due next now = account.due accrual now

variable {account moved : Account} {accrual next clock now total : Nat}

theorem Account.due_current (current : account.cursor = now) :
    account.due accrual now = account.charged := by
  unfold Account.due
  rw [current, Nat.sub_self, Nat.mul_zero, Nat.add_zero]

/-- What accrues while time passes. -/
theorem Account.due_wait (cursor : account.cursor ≤ clock) (later : clock ≤ now) :
    account.due accrual now = account.due accrual clock + accrual * (now - clock) := by
  have elapsed : now - account.cursor = clock - account.cursor + (now - clock) := by omega
  unfold Account.due
  rw [elapsed, Nat.mul_add, Nat.add_assoc]

theorem Covered.charged_le (covered : Covered account accrual clock total) :
    account.charged ≤ total :=
  (Nat.le_add_right _ _).trans covered.due

theorem Covered.opened : Covered ⟨0, now⟩ accrual now total := by
  refine ⟨Nat.le_refl _, ?_⟩
  rw [Account.due_current rfl]
  exact Nat.zero_le total

/-- Time passes: what accrues is due and belongs to the total. -/
theorem Covered.wait (covered : Covered account accrual clock total) (later : clock ≤ now) :
    Covered account accrual now (total + accrual * (now - clock)) := by
  refine ⟨covered.cursor.trans later, ?_⟩
  rw [Account.due_wait covered.cursor later]
  exact Nat.add_le_add_right covered.due _

theorem Covered.balance (covered : Covered account accrual now total)
    (balanced : Balanced accrual next now account moved) : Covered moved next now total where
  cursor := balanced.cursor.trans (max_le covered.cursor (Nat.le_refl now))
  due := balanced.due.trans covered.due

/-- Charging at most what accrued brings the account up to date, whatever
accrues to it from now on. -/
theorem Balanced.settled (current : moved.cursor = now)
    (bounded : moved.charged ≤ account.due accrual now) :
    Balanced accrual next now account moved where
  cursor := current.le.trans (le_max_right _ _)
  due := by
    rw [Account.due_current current]
    exact bounded

/-- Nothing accrues from now on, so only the charges count. -/
theorem Balanced.suspended (cursor : moved.cursor ≤ max account.cursor now)
    (bounded : moved.charged ≤ account.charged) : Balanced accrual 0 now account moved where
  cursor := cursor
  due := by
    unfold Account.due
    rw [Nat.zero_mul, Nat.add_zero]
    exact bounded.trans (Nat.le_add_right _ _)

/-- An account that is left alone stays balanced when no more accrues to it than
before, or when nothing accrues from its cursor on. -/
theorem Balanced.kept (owes : next ≤ accrual ∨ next * (now - account.cursor) = 0) :
    Balanced accrual next now account account where
  cursor := le_max_left _ _
  due := by
    unfold Account.due
    rcases owes with less | nothing
    · exact Nat.add_le_add_left (Nat.mul_le_mul_right _ less) _
    · rw [nothing]
      exact Nat.add_le_add_left (Nat.zero_le _) _

theorem Exact.kept : Exact accrual accrual now account account where
  charged := by rw [Nat.sub_self, Nat.mul_zero, Nat.add_zero]
  due := rfl

theorem Exact.settled (current : moved.cursor = now)
    (charged : moved.charged = account.due accrual now) :
    Exact accrual next now account moved where
  charged := by rw [current, charged, Account.due]
  due := by rw [Account.due_current current, charged]

end Kaigi.Metering
