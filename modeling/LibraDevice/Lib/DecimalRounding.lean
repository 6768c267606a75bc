import Mathlib.Algebra.Order.Ring.Int
import Mathlib.Data.Rat.Floor
import Mathlib.Tactic.Linarith
import Mathlib.Tactic.Ring

/-!
Rounding of rational numbers to a number of decimal digits, ties to even.
-/

namespace LibraDevice.DecimalRounding

def roundEven (x : ℚ) : ℤ :=
  if x - ⌊x⌋ < 1 / 2 then ⌊x⌋
  else if 1 / 2 < x - ⌊x⌋ then ⌊x⌋ + 1
  else if ⌊x⌋ % 2 = 0 then ⌊x⌋
  else ⌊x⌋ + 1

/-- The number with this many digits behind the point that is next to `x`. -/
def roundTo (digits : Nat) (x : ℚ) : ℚ :=
  roundEven (x * 10 ^ digits) / 10 ^ digits

theorem roundEven_error (x : ℚ) : |(roundEven x : ℚ) - x| ≤ 1 / 2 := by
  have hlow := Int.floor_le x
  have hhigh := Int.lt_floor_add_one x
  rw [abs_le, roundEven]
  split_ifs
  · constructor <;> linarith
  · push_cast
    constructor <;> linarith
  · constructor <;> linarith
  · push_cast
    constructor <;> linarith

theorem roundTo_error (digits : Nat) (x : ℚ) :
    |roundTo digits x - x| ≤ 1 / 2 / 10 ^ digits := by
  have hpos : (0 : ℚ) < 10 ^ digits := by positivity
  have herror := roundEven_error (x * 10 ^ digits)
  have hscale : roundTo digits x - x =
      ((roundEven (x * 10 ^ digits) : ℚ) - x * 10 ^ digits) / 10 ^ digits := by
    rw [roundTo]
    field_simp
  rw [hscale, abs_div, abs_of_pos hpos]
  exact div_le_div_of_nonneg_right herror hpos.le

theorem abs_sub_le_of_roundTo_eq {digits : Nat} {x y : ℚ}
    (h : roundTo digits x = roundTo digits y) :
    |x - y| ≤ 1 / 10 ^ digits := by
  have hx := roundTo_error digits x
  have hy := roundTo_error digits y
  rw [← h] at hy
  rw [abs_le] at hx hy ⊢
  have hhalf : (1 : ℚ) / 10 ^ digits = 1 / 2 / 10 ^ digits + 1 / 2 / 10 ^ digits := by ring
  constructor <;> linarith

/-- Rounding stays below an even whole number as long as the tie in front of it is not
reached. -/
theorem roundEven_lt_iff {x : ℚ} {n : ℤ} (hn : n % 2 = 0) : roundEven x < n ↔ x < n - 1 / 2 := by
  have hlow := Int.floor_le x
  have hhigh := Int.lt_floor_add_one x
  constructor
  · intro h
    have hle : ((roundEven x : ℚ)) ≤ n - 1 := by
      exact_mod_cast Int.le_sub_one_of_lt h
    rw [roundEven] at hle h
    split_ifs at hle h with hbelow habove heven
    · linarith
    · push_cast at hle
      linarith
    · have hlt : ⌊x⌋ ≤ n - 2 := by omega
      have hcast : ((⌊x⌋ : ℤ) : ℚ) ≤ n - 2 := by exact_mod_cast hlt
      linarith
    · push_cast at hle
      linarith
  · intro h
    have herror := abs_le.mp (roundEven_error x)
    have hlt : (roundEven x : ℚ) < n := by linarith
    exact_mod_cast hlt

theorem roundTo_lt_iff {digits : Nat} {x : ℚ} {n : ℤ} (hn : n * 10 ^ digits % 2 = 0) :
    roundTo digits x < n ↔ x < n - 1 / 2 / 10 ^ digits := by
  have hpos : (0 : ℚ) < 10 ^ digits := by positivity
  have hcast : ((n * 10 ^ digits : ℤ) : ℚ) = n * 10 ^ digits := by push_cast; ring
  have hround := roundEven_lt_iff (x := x * 10 ^ digits) hn
  rw [← Int.cast_lt (R := ℚ), hcast] at hround
  rw [roundTo, div_lt_iff₀ hpos, hround, ← div_lt_div_iff_of_pos_right hpos (a := x * 10 ^ digits),
    mul_div_cancel_right₀ _ hpos.ne']
  have hright : ((n : ℚ) * 10 ^ digits - 1 / 2) / 10 ^ digits = n - 1 / 2 / 10 ^ digits := by
    field_simp
  rw [hright]

end LibraDevice.DecimalRounding
