import Mathlib.Data.Int.Log
import Mathlib.Data.Rat.Floor
import Mathlib.Tactic.Linarith
import Mathlib.Tactic.Positivity
import Mathlib.Tactic.Ring

/-!
# Doubles

The nearest number of 53 binary digits, which is what an operation on doubles gives. Exponents have
no bounds here, so nothing is too large or too small for a double.

## Main definitions

* `roundEven`: The nearest natural number, ties to even.
* `nearest`: The nearest double.

## Theorems

* `abs_nearest_sub_le`: A double is nearer than half of its last digit.
* `mul_le_nearest`: What is lost at most.
-/

namespace NeoSwift.Binary64

/-- A non-negative rational rounded to the nearest number, ties to even. -/
def roundEven (x : ℚ) : ℕ :=
  let n := ⌊x⌋.toNat
  if x - n < 1 / 2 then n else if 1 / 2 < x - n then n + 1 else n + n % 2

/-- The value of the last of the 53 digits of a number. -/
def ulp (x : ℚ) : ℚ := 2 ^ (Int.log 2 x - 52)

/-- The double nearest to a non-negative rational. -/
def nearest (x : ℚ) : ℚ := roundEven (x / ulp x) * ulp x

example : nearest (1 / 10) = 3602879701896397 / 2 ^ 55 := by decide +kernel

theorem abs_sub_roundEven_le {x : ℚ} (hx : 0 ≤ x) : |x - roundEven x| ≤ 1 / 2 := by
  have hcast : ((⌊x⌋.toNat : ℕ) : ℚ) = ⌊x⌋ := by
    exact_mod_cast Int.toNat_of_nonneg (Int.floor_nonneg.mpr hx)
  have hlow := Int.floor_le x
  have hhigh := Int.lt_floor_add_one x
  unfold roundEven
  dsimp only
  rw [abs_le]
  split_ifs with hbelow habove
  · constructor <;> linarith
  · rw [Nat.cast_add]
    constructor <;> linarith
  · -- A tie is half away from both numbers.
    have hparity : ((⌊x⌋.toNat % 2 : ℕ) : ℚ) ≤ 1 := by
      exact_mod_cast Nat.le_of_lt_succ (Nat.mod_lt _ two_pos)
    rw [Nat.cast_add]
    constructor <;> linarith

theorem ulp_pos (x : ℚ) : 0 < ulp x := zpow_pos two_pos _

/-- The last digit is the 52nd behind the first one. -/
theorem ulp_le {x : ℚ} (hx : 0 < x) : ulp x ≤ x / 2 ^ 52 := by
  have hlog : (2 : ℚ) ^ Int.log 2 x ≤ x := by exact_mod_cast Int.zpow_log_le_self one_lt_two hx
  have hulp : ulp x = (2 : ℚ) ^ Int.log 2 x / 2 ^ 52 := by
    rw [ulp, zpow_sub₀ two_ne_zero]
    rfl
  rw [hulp]
  exact div_le_div_of_nonneg_right hlog (by positivity)

/-- Half of the last digit is lost at most. -/
theorem abs_nearest_sub_le {x : ℚ} (hx : 0 ≤ x) : |nearest x - x| ≤ x / 2 ^ 53 := by
  rcases hx.eq_or_lt with rfl | hpos
  · have hzero : nearest 0 = 0 := by
      unfold nearest
      norm_num [roundEven]
    rw [hzero]
    norm_num
  · have hulp := ulp_pos x
    have hround := abs_sub_roundEven_le (div_pos hpos hulp).le
    have hscaled : nearest x - x = -((x / ulp x - roundEven (x / ulp x)) * ulp x) := by
      rw [nearest, sub_mul, div_mul_cancel₀ _ hulp.ne']
      ring
    calc |nearest x - x| = |x / ulp x - roundEven (x / ulp x)| * ulp x := by
          rw [hscaled, abs_neg, abs_mul, abs_of_pos hulp]
      _ ≤ 1 / 2 * (x / 2 ^ 52) :=
          mul_le_mul hround (ulp_le hpos) hulp.le (by norm_num)
      _ = x / 2 ^ 53 := by ring

theorem mul_le_nearest {x : ℚ} (hx : 0 ≤ x) : x * (1 - 1 / 2 ^ 53) ≤ nearest x := by
  have hlow := (abs_le.mp (abs_nearest_sub_le hx)).1
  linarith

theorem nearest_nonneg (x : ℚ) : 0 ≤ nearest x := mul_nonneg (Nat.cast_nonneg _) (ulp_pos x).le

end NeoSwift.Binary64
