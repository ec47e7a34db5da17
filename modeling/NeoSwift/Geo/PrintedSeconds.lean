import NeoSwift.Geo.EarthAngle

/-!
# Seconds as They Are Printed

The seconds of an angle are rounded to millionths, and of these so many decimals are printed as are
asked for. What is printed is less than one of the last decimal below, or a little above. From six
decimals on it is the seconds as they were rounded.

Where the fraction is rounded to one, its decimals are zeros and the second is lost.

## Main definitions

* `secondsRead`: The seconds that are printed.
* `LosesFraction`: Where a second is lost.
* `wgsTolerance`: A unit of the last decimal and the rounding.

## Theorems

* `abs_secondsRead_sub_le`: How far the printed seconds are from those that were given.
* `secondsRead_eq_zero_iff`: Where nothing is printed.
* `le_secondsRead_iff`: The largest seconds.
* `abs_read_sub_le_iff`: When degrees, minutes and seconds are those that were given.
* `not_abs_sub_le_of_overflow`: Seconds that are rounded to a hundred.
-/

namespace NeoSwift

open Numeral

namespace Geo

open Pq CMathUtils

/-- The fraction is rounded to one. -/
def LosesFraction (n micros : ℕ) : Prop :=
  1 - 1 / 2 / 10 ^ (n + 1) ≤ ((micros % 10 ^ 6 : ℕ) : ℚ) / 1000000

instance (n micros : ℕ) : Decidable (LosesFraction n micros) := inferInstanceAs (Decidable (_ ≤ _))

/-- The seconds that are printed. -/
def secondsRead (n micros : ℕ) : ℚ := printedSeconds n micros / 10 ^ n

section Seconds

variable {n W : ℕ}

theorem micros_split (W : ℕ) :
    (W : ℚ) / 10 ^ 6 = (W / 10 ^ 6 : ℕ) + (W % 10 ^ 6 : ℕ) / 1000000 := by
  have hsplit : ((10 ^ 6 * (W / 10 ^ 6) + W % 10 ^ 6 : ℕ) : ℚ) = W := by
    exact_mod_cast Nat.div_add_mod W (10 ^ 6)
  rw [← hsplit]
  push_cast
  ring

/-- What is read of a fraction that is rounded to one. -/
theorem secondsRead_of_loses (h : LosesFraction n W) : secondsRead n W = (W / 10 ^ 6 : ℕ) := by
  have hpow : (0 : ℚ) < 10 ^ (n + 1) := by positivity
  have hmul := mul_le_mul_of_nonneg_right h hpow.le
  rw [sub_mul, one_mul, div_mul_cancel₀ _ hpow.ne'] at hmul
  have hfract : ((W % 10 ^ 6 : ℕ) : ℚ) / 1000000 ≤ 1 := by
    rw [div_le_one (by norm_num)]
    exact_mod_cast (Nat.mod_lt W (by omega)).le
  have hx : 0 ≤ ((W % 10 ^ 6 : ℕ) : ℚ) / 1000000 * 10 ^ (n + 1) := by positivity
  have hround : roundHalfUp (((W % 10 ^ 6 : ℕ) : ℚ) / 1000000 * 10 ^ (n + 1)) = 10 ^ (n + 1) := by
    refine le_antisymm (roundHalfUp_le hx ?_) ((le_roundHalfUp_iff hx).mpr ?_)
    · have hle := mul_le_mul_of_nonneg_right hfract hpow.le
      push_cast
      linarith
    · push_cast
      exact hmul
  have hdiv : 10 ^ (n + 1) / 10 % 10 ^ n = 0 := by
    rw [pow_succ, Nat.mul_div_cancel _ (by omega), Nat.mod_self]
  rw [secondsRead, printedSeconds, hround, hdiv, Nat.add_zero, Nat.cast_mul, Nat.cast_pow,
    Nat.cast_ofNat, mul_div_cancel_right₀ _ (by positivity)]

/-- The decimals of a fraction that is not. -/
theorem exists_decimals (h : ¬LosesFraction n W) : ∃ w : ℕ, w < 10 ^ (n + 1) ∧
    |(((W % 10 ^ 6 : ℕ) : ℚ) / 1000000 * 10 ^ (n + 1)) - w| ≤ 1 / 2 ∧
    w = roundHalfUp (((W % 10 ^ 6 : ℕ) : ℚ) / 1000000 * 10 ^ (n + 1)) ∧
    secondsRead n W = (W / 10 ^ 6 : ℕ) + (w / 10 : ℕ) / 10 ^ n := by
  have hpow : (0 : ℚ) < 10 ^ (n + 1) := by positivity
  have hmul := mul_lt_mul_of_pos_right (not_le.mp h) hpow
  rw [sub_mul, one_mul, div_mul_cancel₀ _ hpow.ne'] at hmul
  have hx : 0 ≤ ((W % 10 ^ 6 : ℕ) : ℚ) / 1000000 * 10 ^ (n + 1) := by positivity
  have hlt : roundHalfUp (((W % 10 ^ 6 : ℕ) : ℚ) / 1000000 * 10 ^ (n + 1)) < 10 ^ (n + 1) := by
    rw [roundHalfUp_lt_iff hx]
    push_cast
    exact hmul
  refine ⟨_, hlt, abs_sub_roundHalfUp_le hx, rfl, ?_⟩
  unfold secondsRead printedSeconds
  generalize roundHalfUp (((W % 10 ^ 6 : ℕ) : ℚ) / 1000000 * 10 ^ (n + 1)) = w at hlt ⊢
  rw [Nat.mod_eq_of_lt (by omega), Nat.cast_add, Nat.cast_mul,
    Nat.cast_pow, Nat.cast_ofNat, add_div, mul_div_cancel_right₀ _ (by positivity)]

/-- The printed seconds are less than one of the last decimal away. -/
theorem abs_secondsRead_sub_le (h : ¬LosesFraction n W) :
    |secondsRead n W - W / 10 ^ 6| ≤ 95 / 100 / 10 ^ n := by
  rcases exists_decimals h with ⟨w, -, hround, -, hread⟩
  have hpow : (0 : ℚ) < 10 ^ n := by positivity
  have hlow : ((10 * (w / 10) : ℕ) : ℚ) ≤ w := by exact_mod_cast Nat.mul_div_le w 10
  have hhigh : (w : ℚ) ≤ (10 * (w / 10) + 9 : ℕ) := by
    have hnat : w ≤ 10 * (w / 10) + 9 := by omega
    exact_mod_cast hnat
  push_cast at hlow hhigh
  rw [abs_le, pow_succ _ n] at hround
  have hscaled : (secondsRead n W - W / 10 ^ 6) * 10 ^ n =
      (w / 10 : ℕ) - ((W % 10 ^ 6 : ℕ) : ℚ) / 1000000 * 10 ^ n := by
    rw [hread, micros_split]
    field_simp
    ring
  rw [← mul_le_mul_iff_left₀ hpow, div_mul_cancel₀ _ hpow.ne', ← abs_of_pos hpow, ← abs_mul, abs_le]
  constructor <;> linarith

/-- Nothing is printed of the seconds where they are less than about one of the last decimal. -/
theorem secondsRead_eq_zero_iff (h : ¬LosesFraction n W) :
    secondsRead n W = 0 ↔ (W : ℚ) / 10 ^ 6 < 95 / 100 / 10 ^ n := by
  rcases exists_decimals h with ⟨w, -, -, hround, hread⟩
  have hpow : (0 : ℚ) < 10 ^ n := by positivity
  have hx : 0 ≤ ((W % 10 ^ 6 : ℕ) : ℚ) / 1000000 * 10 ^ (n + 1) := by positivity
  -- The rounded decimals are less than ten from half a unit below on.
  have hten : w < 10 ↔ ((W % 10 ^ 6 : ℕ) : ℚ) / 1000000 < 95 / 100 / 10 ^ n := by
    rw [hround, roundHalfUp_lt_iff hx, pow_succ _ n, lt_div_iff₀ hpow]
    constructor <;> intro hlt <;> linarith
  -- What is read is zero if the whole seconds and the decimals are.
  have hzero : secondsRead n W = 0 ↔ W / 10 ^ 6 = 0 ∧ w / 10 = 0 := by
    rw [hread, add_eq_zero_iff_of_nonneg (by positivity) (by positivity), div_eq_zero_iff,
      or_iff_left hpow.ne', Nat.cast_eq_zero, Nat.cast_eq_zero]
  rw [hzero, Nat.div_eq_zero_iff_lt (by decide : 0 < 10), hten, micros_split]
  constructor
  · rintro ⟨hsec, hlt⟩
    rwa [hsec, Nat.cast_zero, zero_add]
  · intro hlt
    have hone : 95 / 100 / (10 : ℚ) ^ n < 1 := by
      rw [div_lt_one hpow]
      have hle := one_le_pow₀ (a := (10 : ℚ)) (n := n) (by norm_num)
      linarith
    have hfract : 0 ≤ ((W % 10 ^ 6 : ℕ) : ℚ) / 1000000 := by positivity
    have hsec : ((W / 10 ^ 6 : ℕ) : ℚ) < 1 := by linarith
    have hsec' : W / 10 ^ 6 < 1 := by exact_mod_cast hsec
    obtain hsec' : W / 10 ^ 6 = 0 := by omega
    rw [hsec', Nat.cast_zero, zero_add] at hlt
    exact ⟨hsec', hlt⟩

theorem secondsRead_nonneg (n W : ℕ) : 0 ≤ secondsRead n W := by
  unfold secondsRead
  positivity

/-- The printed decimals are a fraction, and with less than six of them they are not next to one. -/
theorem secondsRead_le (n W : ℕ) : secondsRead n W ≤ (W / 10 ^ 6 : ℕ) + 1 - 1 / 10 ^ n := by
  have hpow : (0 : ℚ) < 10 ^ n := by positivity
  have hdecimals := Nat.mod_lt (roundHalfUp ((W % 10 ^ 6 : ℕ) / 1000000 * 10 ^ (n + 1)) / 10)
    (show 0 < 10 ^ n by positivity)
  have hcast : ((roundHalfUp (((W % 10 ^ 6 : ℕ) : ℚ) / 1000000 * 10 ^ (n + 1)) / 10 % 10 ^ n : ℕ) :
    ℚ) +
      1 ≤ 10 ^ n := by exact_mod_cast hdecimals
  rw [secondsRead, printedSeconds, Nat.cast_add, Nat.cast_mul, Nat.cast_pow, Nat.cast_ofNat,
    add_div, mul_div_cancel_right₀ _ hpow.ne', add_sub_assoc, add_le_add_iff_left, div_le_iff₀ hpow,
    sub_mul, div_mul_cancel₀ _ hpow.ne']
  linarith

theorem secondsRead_lt (n : ℕ) (hW : W < 10 ^ 8) : secondsRead n W < 100 := by
  have hle := secondsRead_le n W
  have hpow : (0 : ℚ) < 1 / 10 ^ n := by positivity
  have hsec : W / 10 ^ 6 ≤ 99 := by omega
  have hsec' : ((W / 10 ^ 6 : ℕ) : ℚ) ≤ 99 := by exact_mod_cast hsec
  linarith

/-- From six decimals on the seconds are printed as they are. -/
theorem secondsRead_of_six {n : ℕ} (hn : 6 ≤ n) (W : ℕ) : secondsRead n W = W / 10 ^ 6 := by
  obtain ⟨m, rfl⟩ : ∃ m, n = m + 6 := ⟨n - 6, by omega⟩
  have hexact : ((W % 10 ^ 6 : ℕ) : ℚ) / 1000000 * 10 ^ (m + 6 + 1) =
      ((W % 10 ^ 6 * 10 ^ m * 10 : ℕ) : ℚ) := by
    push_cast
    ring
  have hlt : W % 10 ^ 6 * 10 ^ m < 10 ^ (m + 6) := by
    rw [pow_add, Nat.mul_comm (10 ^ m)]
    exact Nat.mul_lt_mul_of_pos_right (Nat.mod_lt W (by omega)) (by positivity)
  rw [secondsRead, printedSeconds, hexact, roundHalfUp_natCast, Nat.mul_div_cancel _ (by omega),
    Nat.mod_eq_of_lt hlt, micros_split]
  push_cast
  field_simp
  ring

/-- The largest seconds. -/
theorem le_secondsRead_iff {n : ℕ} (hW : W < 10 ^ 8) :
    99999999 / 1000000 ≤ secondsRead n W ↔ W = 99999999 ∧ 6 ≤ n := by
  by_cases hn : 6 ≤ n
  · rw [secondsRead_of_six hn, and_iff_left hn]
    constructor
    · intro h
      have hle : (99999999 : ℚ) ≤ W := by linarith
      have hle' : 99999999 ≤ W := by exact_mod_cast hle
      omega
    · rintro rfl
      norm_num
  · rw [iff_false_right (fun h => hn h.2)]
    have hle := secondsRead_le n W
    have hsec : W / 10 ^ 6 ≤ 99 := by omega
    have hsec' : ((W / 10 ^ 6 : ℕ) : ℚ) ≤ 99 := by exact_mod_cast hsec
    have hpow : (10 : ℚ) ^ n ≤ 10 ^ 5 := pow_le_pow_right₀ (by norm_num) (by omega)
    have hunit : 1 / (10 : ℚ) ^ 5 ≤ 1 / 10 ^ n :=
      one_div_le_one_div_of_le (by positivity) hpow
    linarith

end Seconds
/-! ## Distances -/

/-- A unit of the last decimal of the seconds and the rounding, in degrees. -/
def wgsTolerance (n : ℕ) : ℚ := (1 / 10 ^ n + microRounding) / 3600

theorem wgsTolerance_le {n : ℕ} (hn : 0 < n) : wgsTolerance n * 3600 ≤ 1 / 5 := by
  have hpow : (10 : ℚ) ^ 1 ≤ 10 ^ n := pow_le_pow_right₀ (by norm_num) hn
  have hunit : 1 / (10 : ℚ) ^ n ≤ 1 / 10 ^ 1 := one_div_le_one_div_of_le (by norm_num) hpow
  unfold wgsTolerance microRounding
  linarith

/-- Seconds that are some more than two away from none are too many. -/
theorem not_abs_le_of_seconds {n : ℕ} (hn : 0 < n) {x : ℚ} {z : ℤ} (hz : 3 ≤ |z|)
    (h : |x * 3600 - z| ≤ 2) : ¬|x| ≤ wgsTolerance n := by
  intro hle
  have hz' : (3 : ℚ) ≤ |(z : ℚ)| := by exact_mod_cast hz
  have hlow := abs_sub_abs_le_abs_sub (z : ℚ) (x * 3600)
  rw [abs_sub_comm (z : ℚ), abs_mul, abs_of_pos (by norm_num : (0 : ℚ) < 3600)] at hlow
  have htolerance := wgsTolerance_le hn
  linarith

section Digits

variable {N p n T : ℕ} {s : ℚ} {c d₁ d₂ : ℤ}

/-- A lost fraction is a second. -/
theorem abs_secondsRead_sub_of_loses (h : LosesFraction n T) :
    |secondsRead n T - T / 10 ^ 6 + 1| ≤ 1 / 20 := by
  have hfract : ((T % 10 ^ 6 : ℕ) : ℚ) / 1000000 < 1 := by
    rw [div_lt_one (by norm_num)]
    exact_mod_cast Nat.mod_lt T (by omega)
  have hunit : 1 / 2 / (10 : ℚ) ^ (n + 1) ≤ 1 / 20 := by
    rw [pow_succ, div_le_div_iff₀ (by positivity) (by norm_num)]
    have hle := one_le_pow₀ (a := (10 : ℚ)) (n := n) (by norm_num)
    linarith
  unfold LosesFraction at h
  rw [secondsRead_of_loses h, micros_split, abs_le]
  constructor <;> linarith

/-- The angle that is read against the one that was given. `c`, `d₁` and `d₂` are what the
    conversions of the unit add. -/
theorem abs_read_sub_le_iff (hn : 0 < n) (hs0 : 0 ≤ s) (hT : roundHalfUp (s * 10 ^ 6) = T)
    (h₂ : |d₂| ≤ 1) :
    |(N + c + p / 60 + secondsRead n T / 3600 : ℚ) - (N + d₁ + (p + d₂) / 60 + s / 3600)| ≤
        wgsTolerance n ↔ c = d₁ ∧ d₂ = 0 ∧ ¬LosesFraction n T := by
  have hmicros := CAngle.abs_micros_sub_le hs0
  rw [hT] at hmicros
  have hseconds : ((N + c + p / 60 + secondsRead n T / 3600 : ℚ) -
      (N + d₁ + (p + d₂) / 60 + s / 3600)) * 3600 =
      (3600 * (c - d₁) - 60 * d₂ : ℤ) + (secondsRead n T - s) := by
    push_cast
    ring
  -- A lost fraction is the most that is lost of the seconds.
  have hnear : |secondsRead n T - s| ≤ 2 := by
    have hrounding := abs_le.mp hmicros
    unfold microRounding at hrounding
    rw [abs_le]
    by_cases hloses : LosesFraction n T
    · have hread := abs_le.mp (abs_secondsRead_sub_of_loses hloses)
      constructor <;> linarith
    · have hread := abs_le.mp (abs_secondsRead_sub_le hloses)
      have hunit : 95 / 100 / (10 : ℚ) ^ n ≤ 1 := by
        rw [div_le_one (by positivity)]
        have hle := one_le_pow₀ (a := (10 : ℚ)) (n := n) (by norm_num)
        linarith
      constructor <;> linarith
  generalize (N + c + p / 60 + secondsRead n T / 3600 : ℚ) -
    (N + d₁ + (p + d₂) / 60 + s / 3600) = δ at hseconds ⊢
  rw [abs_le] at h₂
  -- In seconds, the whole degrees and minutes differ by an integer.
  by_cases hz : 3600 * (c - d₁) - 60 * d₂ = 0
  · obtain ⟨rfl, rfl⟩ : c = d₁ ∧ d₂ = 0 := by omega
    rw [hz, Int.cast_zero, zero_add] at hseconds
    have hscaled : |δ| ≤ wgsTolerance n ↔ |secondsRead n T - s| ≤ 1 / 10 ^ n + microRounding := by
      rw [← hseconds, abs_mul, abs_of_pos (by norm_num : (0 : ℚ) < 3600), wgsTolerance,
        le_div_iff₀ (by norm_num)]
    rw [hscaled, and_iff_right rfl, and_iff_right rfl]
    constructor
    · intro hle hloses
      have hread := (abs_le.mp (abs_secondsRead_sub_of_loses hloses)).2
      have hrounding := (abs_le.mp hmicros).2
      have htolerance := wgsTolerance_le hn
      have hlow := (abs_le.mp hle).1
      unfold wgsTolerance at htolerance
      unfold microRounding at htolerance hrounding hlow
      linarith
    · intro hkeeps
      have hread := abs_secondsRead_sub_le hkeeps
      have hunit : 95 / 100 / (10 : ℚ) ^ n ≤ 1 / 10 ^ n :=
        div_le_div_of_nonneg_right (by norm_num) (by positivity)
      calc |secondsRead n T - s|
          ≤ |secondsRead n T - T / 10 ^ 6| + |(T : ℚ) / 10 ^ 6 - s| := abs_sub_le _ _ _
        _ ≤ 95 / 100 / 10 ^ n + microRounding := add_le_add hread hmicros
        _ ≤ _ := by linarith
  · -- Another minute or another degree cannot be made up for.
    refine iff_of_false (not_abs_le_of_seconds hn (z := 3600 * (c - d₁) - 60 * d₂) ?_ ?_) ?_
    · rw [le_abs]
      omega
    · rw [hseconds, add_sub_cancel_left]
      exact hnear
    · rintro ⟨rfl, rfl, -⟩
      exact hz (by ring)

variable (N p d₁ d₂) in
/-- Seconds that are rounded to a hundred are not those that were given. -/
theorem not_abs_sub_le_of_overflow (hn : 0 < n) (hs0 : 0 ≤ s)
    (hT : roundHalfUp (s * 10 ^ 6) = 10 ^ 8) :
    ¬|(N + (p + 1) / 60 : ℚ) - (N + d₁ + (p + d₂) / 60 + s / 3600)| ≤ wgsTolerance n ∧
      ¬|(N + 1 : ℚ) - (N + d₁ + (99 + d₂) / 60 + s / 3600)| ≤ wgsTolerance n := by
  have hmicros := CAngle.abs_micros_sub_le hs0
  rw [hT, abs_le] at hmicros
  unfold microRounding at hmicros
  norm_num at hmicros
  constructor
  · refine not_abs_le_of_seconds hn (z := 60 * (1 - d₂) - 3600 * d₁ - 100) ?_ ?_
    · rw [le_abs]
      omega
    · rw [abs_le]
      push_cast
      constructor <;> linarith
  · refine not_abs_le_of_seconds hn (z := -2440 - 3600 * d₁ - 60 * d₂) ?_ ?_
    · rw [le_abs]
      omega
    · rw [abs_le]
      push_cast
      constructor <;> linarith

end Digits

end Geo

end NeoSwift
