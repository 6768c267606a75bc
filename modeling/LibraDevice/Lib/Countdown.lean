import Mathlib.Algebra.GroupWithZero.Nat
import Mathlib.Data.List.Basic

/-!
A count that the items of a list use up, each by an amount of its own.
-/

namespace LibraDevice.Countdown

variable {α : Type*}

/-- The items taken until their amounts have used up the count. -/
def takeUntil (amount : α → Nat) : Nat → List α → List α
  | _, [] => []
  | left, a :: as => if left = 0 then [] else a :: takeUntil amount (left - amount a) as

def total (amount : α → Nat) (as : List α) : Nat :=
  (as.map amount).sum

@[simp]
theorem total_nil (amount : α → Nat) : total amount [] = 0 := rfl

@[simp]
theorem total_cons (amount : α → Nat) (a : α) (as : List α) :
    total amount (a :: as) = amount a + total amount as := by
  simp [total]

@[simp]
theorem takeUntil_zero (amount : α → Nat) (as : List α) : takeUntil amount 0 as = [] := by
  cases as <;> rfl

theorem takeUntil_cons (amount : α → Nat) {left : Nat} (h : left ≠ 0) (a : α) (as : List α) :
    takeUntil amount left (a :: as) = a :: takeUntil amount (left - amount a) as := by
  rw [takeUntil, if_neg h]

end LibraDevice.Countdown
