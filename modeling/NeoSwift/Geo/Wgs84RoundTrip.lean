import NeoSwift.Geo.PrintedSeconds

/-!
# Latitudes and Longitudes Printed and Read Again

A latitude or a longitude is printed with so many decimals of its seconds and read again. It is the
same up to a unit of the last decimal and the rounding, except

* where its minutes or seconds are so close to the next degree or minute that it is taken for that,
* where the fraction of its seconds is rounded to one, so that a second is lost,
* where it is a little south or west of zero, so that only zeros and the letter are printed: it is
  read as zero, which is north and east.

Half a turn is printed and read as half a turn to the west. What is taken for more than half a turn
is printed for the other hemisphere, with a hundred for sixty.

## Main definitions

* `wgsRead`: What is read of a text that was printed.
* `CLatitude.RoundTrips`, `CLongitude.RoundTrips`: It is what was printed.
* `CAngle.RoundTripsWell`: The angles for which it is.

## Theorems

* `fromWgs84_of_digits`: What is read of an angle with given digits.
* `restored_iff_of_digits`: What is kept of such an angle.
* `restored_of_half`, `not_restored_of_beyond`: Half a turn, and what is taken for more.
* `wgs84_round_trip_iff`: When a latitude or a longitude is the same.
-/

namespace NeoSwift

open Numeral

namespace Geo

open Pq CMathUtils

/-! ## What is read -/

section Read

variable {D P W n : ℕ}

theorem secondsRead_le_of_lt (n : ℕ) (hW : W < 10 ^ 8) : secondsRead n W ≤ 99999999 / 1000000 := by
  by_contra h
  rcases (le_secondsRead_iff hW).mp (not_le.mp h).le with ⟨rfl, hn⟩
  rw [secondsRead_of_six hn] at h
  norm_num at h

/-- What the conversion to degrees adds. -/
def readCarry (n min micros : ℕ) : ℕ := carry ((min + secondsRead n micros / 100) / 100)

theorem carry_digits {f : ℚ} (hP : P < 100) (hf : f < 1) :
    carry ((P + f) / 100) = if P = 99 ∧ 99999999 / 1000000 ≤ f * 100 then 1 else 0 := by
  have hP' : P ≤ 98 ∨ P = 99 := by omega
  unfold carry truncEpsilon
  rcases hP' with hP' | rfl
  · have hcast : (P : ℚ) ≤ 98 := by exact_mod_cast hP'
    rw [if_pos (by linarith), if_neg (by omega)]
  · by_cases h : 99999999 / 1000000 ≤ f * 100
    · rw [if_neg (by push_cast; linarith), if_pos ⟨rfl, h⟩]
    · rw [if_pos (by push_cast; linarith), if_neg (fun hall => h hall.2)]

theorem readCarry_eq (hP : P < 100) (hW : W < 10 ^ 8) :
    readCarry n P W = if P = 99 ∧ W = 99999999 ∧ 6 ≤ n then 1 else 0 := by
  have hlt := secondsRead_lt n hW
  have hscaled : secondsRead n W / 100 * 100 = secondsRead n W := by ring
  rw [readCarry, carry_digits hP (by linarith), hscaled]
  exact if_congr (and_congr_right fun _ => le_secondsRead_iff hW) rfl rfl

/-- The degrees of the digits. -/
theorem subdivision2ToDefault_read (hP : P < 100) (hW : W < 10 ^ 8) :
    CTimeUnit.subdivision2ToDefault 1 (D + P / 100 + secondsRead n W / 10000) =
      D + readCarry n P W + P / 60 + secondsRead n W / 3600 := by
  have hP' : (P : ℚ) ≤ 99 := by exact_mod_cast Nat.le_of_lt_succ hP
  have h0 := secondsRead_nonneg n W
  have hle := secondsRead_le_of_lt n hW
  have hcarry : carry (secondsRead n W / 100) = 0 := by
    rw [carry_eq_zero_iff]
    unfold truncEpsilon
    linarith
  have hsum : (D + P / 100 + secondsRead n W / 10000 : ℚ) =
      D + (P + secondsRead n W / 100) / 100 := by ring
  rw [hsum, CAngleUnit.subdivision2ToDefault_digits (by positivity) (by linarith) (by linarith),
    hcarry, readCarry]
  ring

/-- What the two hemispheres are called. -/
def Hemispheres (pos neg : Char) : Prop := pos = 'N' ∧ neg = 'S' ∨ pos = 'E' ∧ neg = 'W'

section Printed

variable {a : CAngle} {x : ℚ} {pos neg : Char}
  (hx : CAngle.reduced180 (a.valueIn .sexagesimalDeg) = x)
  (hk : roundHalfUp (|x| * 10 ^ 10) = D * 10 ^ 10 + P * 10 ^ 8 + W) (hD : D < 1000) (hP : P < 100)
  (hW : W < 10 ^ 8) (hn : 0 < n)

include hx hk hD hP hW hn

theorem toWgs84_of_digits (pos neg : Char) :
    CEarthAngle.toWgs84 a pos neg n =
      wgsText D P n (printedSeconds n W) (if x < 0 then neg else pos) := by
  have hparts : a.asSexagesimalDegMinSec true =
      { sign := if x < 0 then -1 else 1, deg := D, min := P, sec := (W / 10 ^ 6 : ℕ),
        fractionalSec := (W % 10 ^ 6 : ℕ) / 1000000 } := by
    have hdeg : (D * 10 ^ 10 + P * 10 ^ 8 + W) / 10 ^ 10 = D := by omega
    have hmin : (D * 10 ^ 10 + P * 10 ^ 8 + W) / 10 ^ 8 % 100 = P := by omega
    have hsec : (D * 10 ^ 10 + P * 10 ^ 8 + W) / 10 ^ 6 % 100 = W / 10 ^ 6 := by omega
    have hmicro : (D * 10 ^ 10 + P * 10 ^ 8 + W) % 10 ^ 6 = W % 10 ^ 6 := by omega
    rw [CAngle.asSexagesimalDegMinSec, if_pos rfl, hx, CAngle.parts_of_roundHalfUp hk (by omega),
      hdeg, hmin, hsec, hmicro]
  rw [CEarthAngle.toWgs84_eq hn pos neg hparts]
  by_cases hneg : x < 0
  · rw [if_pos hneg, if_pos hneg, if_pos (by omega)]
  · rw [if_neg hneg, if_neg hneg, if_neg (by omega)]

/-- The text of an angle gives one with the digits of the text. -/
theorem fromWgs84_of_digits (parseFromString : QString → CAngle) (h : Hemispheres pos neg) :
    CEarthAngle.fromWgs84 parseFromString (CEarthAngle.toWgs84 a pos neg n) =
      .create ((if x < 0 then -1 else 1) * (D + P / 100 + secondsRead n W / 10000))
        .sexagesimalDeg := by
  have hletter : (if x < 0 then neg else pos) ∈ ['N', 'S', 'E', 'W'] ∧
      ((if x < 0 then neg else pos) = 'S' ∨ (if x < 0 then neg else pos) = 'W' ↔ x < 0) := by
    rcases h with ⟨rfl, rfl⟩ | ⟨rfl, rfl⟩
    all_goals
      by_cases hneg : x < 0
      · simp [hneg]
      · simp [hneg]
  rw [toWgs84_of_digits hx hk hD hP hW hn,
    CEarthAngle.fromWgs84_wgsText _ hn (by omega) (by omega) hletter.1, CAngle.ofDegMinSec]
  by_cases hneg : x < 0
  · rw [if_pos (hletter.2.mpr hneg), if_pos hneg, secondsRead]
    push_cast
    ring_nf
  · rw [if_neg (fun hall => hneg (hletter.2.mp hall)), if_neg hneg, one_mul]
    rfl

end Printed

end Read

/-! ## The round trip -/

/-- The letter is that of the sign. -/
theorem getLast?_toWgs84 (a : CAngle) (pos neg : Char) (k : ℤ) :
    (CEarthAngle.toWgs84 a pos neg k).getLast? =
      some (if CAngle.reduced180 (a.valueIn .sexagesimalDeg) < 0 then neg else pos) := by
  have hsign : (a.asSexagesimalDegMinSec true).sign < 0 ↔
      CAngle.reduced180 (a.valueIn .sexagesimalDeg) < 0 := by
    rw [CAngle.asSexagesimalDegMinSec, if_pos rfl, CAngle.partsOf]
    dsimp only
    split_ifs with hneg
    · exact iff_of_true (by omega) hneg
    · exact iff_of_false (by omega) hneg
  unfold CEarthAngle.toWgs84
  dsimp only
  rw [if_congr hsign rfl rfl]
  split <;> exact List.getLast?_concat

theorem reduced180_of_abs_lt {x : ℚ} (h : |x| < 180) : CAngle.reduced180 x = x := by
  have hboth := CAngle.reduced180_of_lt (q := 0) (abs_nonneg x) h
  rw [Nat.cast_zero, mul_zero, zero_add] at hboth
  rcases abs_choice x with hx | hx
  · rw [hx] at hboth
    exact hboth.1
  · rw [hx, neg_neg] at hboth
    exact hboth.2

variable (parseFromString : QString → CAngle)

/-- The angle that is read of the text. -/
def wgsRead (a : CAngle) (pos neg : Char) (n : ℕ) : CAngle :=
  CEarthAngle.fromWgs84 parseFromString (CEarthAngle.toWgs84 a pos neg n)

/-- Printed again it is of the same hemisphere. -/
def KeepsHemisphere (a : CAngle) (pos neg : Char) (n : ℕ) : Prop :=
  (CEarthAngle.toWgs84 (wgsRead parseFromString a pos neg n) pos neg n).getLast? =
    (CEarthAngle.toWgs84 a pos neg n).getLast?

section Packed

variable {D P : ℕ} {r : ℚ}

theorem packedRead_pos_iff (hr : 0 ≤ r) :
    0 < (D + P / 100 + r / 10000 : ℚ) ↔ 0 < D ∨ 0 < P ∨ 0 < r := by
  constructor
  · intro hlt
    by_contra hall
    obtain ⟨hD, hP, hr'⟩ : ¬0 < D ∧ ¬0 < P ∧ ¬0 < r := by rwa [not_or, not_or] at hall
    obtain rfl : D = 0 := by omega
    obtain rfl : P = 0 := by omega
    linarith
  · rintro (hpos | hpos | hpos) <;> positivity

theorem packedRead_lt (hD : D < 180) (hP : P < 100) (hr : r < 100) :
    (D + P / 100 + r / 10000 : ℚ) < 180 := by
  have hD' : (D : ℚ) ≤ 179 := by exact_mod_cast Nat.le_of_lt_succ hD
  have hP' : (P : ℚ) ≤ 99 := by exact_mod_cast Nat.le_of_lt_succ hP
  linarith

theorem abs_sign_mul (x y : ℚ) : |(if x < 0 then -1 else 1) * y| = |y| := by
  split
  · rw [neg_one_mul, abs_neg]
  · rw [one_mul]

end Packed

section Parsed

variable {a : CAngle} {pos neg : Char} {D P W n : ℕ} {x : ℚ}
  (hx : CAngle.reduced180 (a.valueIn .sexagesimalDeg) = x)
  (hk : roundHalfUp (|x| * 10 ^ 10) = D * 10 ^ 10 + P * 10 ^ 8 + W) (hD : D < 180) (hP : P < 100)
  (hW : W < 10 ^ 8) (hn : 0 < n) (h : Hemispheres pos neg)

include hx hk hD hP hW hn h

/-- The degrees of what is read. -/
theorem degrees_wgsRead : (wgsRead parseFromString a pos neg n).valueIn .deg =
    (if x < 0 then -1 else 1) * (D + readCarry n P W + P / 60 + secondsRead n W / 3600) := by
  rw [wgsRead, fromWgs84_of_digits hx hk (by omega) hP hW hn parseFromString h]
  change CTimeUnit.subdivision2ToDefault 1
    ((if x < 0 then -1 else 1) * (D + P / 100 + secondsRead n W / 10000)) = _
  split
  · rw [neg_one_mul, CTimeUnit.subdivision2ToDefault_neg, subdivision2ToDefault_read hP hW,
      neg_one_mul]
  · rw [one_mul, one_mul, subdivision2ToDefault_read hP hW]

/-- Nothing has no hemisphere. -/
theorem keepsHemisphere_iff : KeepsHemisphere parseFromString a pos neg n ↔
    (x < 0 → 0 < D ∨ 0 < P ∨ 0 < secondsRead n W) := by
  have hletters : pos ≠ neg := by
    rcases h with ⟨rfl, rfl⟩ | ⟨rfl, rfl⟩ <;> decide
  -- No seconds are negative, so the sign is the one of the hemisphere.
  have hread0 := secondsRead_nonneg n W
  have hy0 : 0 ≤ (D + P / 100 + secondsRead n W / 10000 : ℚ) := by positivity
  have hvalue : (wgsRead parseFromString a pos neg n).valueIn .sexagesimalDeg =
      (if x < 0 then -1 else 1) * (D + P / 100 + secondsRead n W / 10000) := by
    rw [wgsRead, fromWgs84_of_digits hx hk (by omega) hP hW hn parseFromString h]
    rfl
  have habs := (abs_sign_mul x _).trans (abs_of_nonneg hy0)
  have hlt180 := packedRead_lt hD hP (secondsRead_lt n hW)
  rw [← packedRead_pos_iff hread0]
  unfold KeepsHemisphere
  rw [getLast?_toWgs84, getLast?_toWgs84, hx, hvalue,
    reduced180_of_abs_lt (habs.trans_lt hlt180), Option.some.injEq]
  generalize (D + P / 100 + secondsRead n W / 10000 : ℚ) = y at hy0
  -- With a negative sign and no digits the text is of the positive hemisphere again.
  by_cases hneg : x < 0
  · rw [if_pos hneg, if_pos hneg, neg_one_mul, imp_iff_right hneg]
    by_cases hy : 0 < y
    · rw [if_pos (neg_lt_zero.mpr hy)]
      exact iff_of_true rfl hy
    · rw [if_neg (fun h => hy (neg_lt_zero.mp h))]
      exact iff_of_false hletters hy
  · rw [if_neg hneg, if_neg hneg, one_mul, if_neg (not_lt.mpr hy0)]
    exact iff_of_true rfl fun h => absurd h hneg

end Parsed

section Digits

variable {a : CAngle} {pos neg : Char} {N p n : ℕ} {s : ℚ} {d₁ d₂ : ℤ} {x : ℚ}

/-- Neither is far from the degrees without the rest. -/
theorem abs_read_sub_lt {c : ℤ} {q : ℕ} {r : ℚ} (hc : |c| ≤ 1) (h₁ : |d₁| ≤ 1) (h₂ : |d₂| ≤ 1)
    (hp : p < 100) (hq : q < 100) (hs0 : 0 ≤ s) (hs1 : s < 100) (hr0 : 0 ≤ r) (hr1 : r < 100) :
    |(N + c + q / 60 + r / 3600 : ℚ) - (N + d₁ + (p + d₂) / 60 + s / 3600)| < 300 := by
  have hc' : |(c : ℚ)| ≤ 1 := by exact_mod_cast hc
  have h₁' : |(d₁ : ℚ)| ≤ 1 := by exact_mod_cast h₁
  have h₂' : |(d₂ : ℚ)| ≤ 1 := by exact_mod_cast h₂
  have hp' : (0 : ℚ) ≤ p ∧ (p : ℚ) ≤ 99 := by
    exact ⟨Nat.cast_nonneg p, by exact_mod_cast Nat.le_of_lt_succ hp⟩
  have hq' : (0 : ℚ) ≤ q ∧ (q : ℚ) ≤ 99 := by
    exact ⟨Nat.cast_nonneg q, by exact_mod_cast Nat.le_of_lt_succ hq⟩
  rw [abs_le] at hc' h₁' h₂'
  rw [abs_lt]
  constructor <;> linarith

theorem secondsRead_zero (n : ℕ) : secondsRead n 0 = 0 := by
  have hzero : roundHalfUp (((0 : ℕ) : ℚ) / 1000000 * 10 ^ (n + 1)) = 0 := by
    rw [Nat.cast_zero, zero_div, zero_mul, ← Nat.cast_zero, roundHalfUp_natCast]
  rw [secondsRead, printedSeconds, Nat.zero_mod, hzero]
  simp

theorem readCarry_zero {P : ℕ} (hP : P < 100) : readCarry n P 0 = 0 := by
  rw [readCarry_eq hP (by omega), if_neg]
  rintro ⟨-, h, -⟩
  exact absurd h (by omega)

/-- What the text keeps of an angle below half a turn with given digits. -/
theorem restored_iff_of_digits
    (hvalue : a.valueIn .sexagesimalDeg = x)
    (habs : |x| = N + p / 100 + s / 10000) (hdeg : a.valueIn .deg =
      (if x < 0 then -1 else 1) * (N + d₁ + (p + d₂) / 60 + s / 3600)) (hlt : |x| < 180)
    (hp : p < 100) (hs0 : 0 ≤ s) (hs1 : s < 100) (h₁ : |d₁| ≤ 1) (h₂ : |d₂| ≤ 1) (hn : 0 < n)
    (hN99 : p = 99 → N < 179) (h : Hemispheres pos neg) :
    |(wgsRead parseFromString a pos neg n).valueIn .deg - a.valueIn .deg| < 300 ∧
      (|(wgsRead parseFromString a pos neg n).valueIn .deg - a.valueIn .deg| ≤ wgsTolerance n ∧
          KeepsHemisphere parseFromString a pos neg n ↔
        roundHalfUp (s * 10 ^ 6) < 10 ^ 8 ∧
          readCarry n p (roundHalfUp (s * 10 ^ 6)) = d₁ ∧ d₂ = 0 ∧
          ¬LosesFraction n (roundHalfUp (s * 10 ^ 6)) ∧
          (x < 0 → 0 < N ∨ 0 < p ∨
            95 / 100 / 10 ^ n ≤ (roundHalfUp (s * 10 ^ 6) : ℚ) / 10 ^ 6)) := by
  have hreduced : CAngle.reduced180 (a.valueIn .sexagesimalDeg) = x := by
    rw [hvalue, reduced180_of_abs_lt hlt]
  have hdigits := CAngle.roundHalfUp_digits (M := N) (p := p) hs0
  rw [← habs] at hdigits
  have hle := CAngle.micros_le hs0 hs1
  have hN : N < 180 := by
    have hN' : (N : ℚ) < 180 := by
      have hp0 : (0 : ℚ) ≤ p := Nat.cast_nonneg p
      linarith
    exact_mod_cast hN'
  generalize hT : roundHalfUp (s * 10 ^ 6) = T at hdigits hle ⊢
  rcases hle.lt_or_eq with hlt8 | rfl
  · -- The text has the degrees and minutes of the digits, but for the carry.
    have hread := degrees_wgsRead parseFromString hreduced hdigits hN hp hlt8 hn h
    have hdiff : |(wgsRead parseFromString a pos neg n).valueIn .deg - a.valueIn .deg| =
        |(N + (readCarry n p T : ℤ) + p / 60 + secondsRead n T / 3600 : ℚ) -
          (N + d₁ + (p + d₂) / 60 + s / 3600)| := by
      rw [hread, hdeg, ← mul_sub, abs_sign_mul, Int.cast_natCast]
    rw [hdiff, abs_read_sub_le_iff hn hs0 hT h₂, keepsHemisphere_iff parseFromString hreduced
      hdigits hN hp hlt8 hn h, and_iff_right hlt8]
    refine ⟨abs_read_sub_lt ?_ h₁ h₂ hp hp hs0 hs1 (secondsRead_nonneg n T)
      (secondsRead_lt n hlt8), ?_⟩
    · exact CAngle.abs_carry_le _
    rw [and_assoc, and_assoc]
    refine and_congr_right fun _ => and_congr_right fun _ => and_congr_right fun hkeeps => ?_
    have hzero := secondsRead_eq_zero_iff hkeeps
    rw [(secondsRead_nonneg n T).lt_iff_ne', Ne, hzero, not_lt]
  · -- Sixty and more seconds are rounded to a hundred, which are another minute.
    rcases not_abs_sub_le_of_overflow N p d₁ d₂ hn hs0 hT with ⟨hmin, hdegree⟩
    rw [iff_false_right (fun hall => absurd hall.1 (lt_irrefl _)), not_and]
    have hp' : p < 99 ∨ p = 99 := by omega
    -- With 99 in front of them another minute is another degree.
    rcases hp' with hp' | rfl
    · have hdigits' : roundHalfUp (|x| * 10 ^ 10) = N * 10 ^ 10 + (p + 1) * 10 ^ 8 + 0 := by
        rw [hdigits]
        ring
      have hread := degrees_wgsRead parseFromString hreduced hdigits' hN (by omega) (by omega) hn h
      have hdiff : |(wgsRead parseFromString a pos neg n).valueIn .deg - a.valueIn .deg| =
          |(N + (p + 1) / 60 : ℚ) - (N + d₁ + (p + d₂) / 60 + s / 3600)| := by
        rw [hread, hdeg, ← mul_sub, abs_sign_mul, readCarry_zero (by omega), secondsRead_zero]
        push_cast
        ring_nf
      rw [hdiff]
      refine ⟨?_, fun hnear => absurd hnear hmin⟩
      have hsame : (N + (p + 1) / 60 : ℚ) = N + (0 : ℤ) + (p + 1 : ℕ) / 60 + 0 / 3600 := by
        push_cast
        ring
      rw [hsame]
      exact abs_read_sub_lt (by decide) h₁ h₂ hp (by omega) hs0 hs1 (le_refl 0) (by norm_num)
    · have hdigits' : roundHalfUp (|x| * 10 ^ 10) = (N + 1) * 10 ^ 10 + 0 * 10 ^ 8 + 0 := by
        rw [hdigits]
        ring
      have hN' : N + 1 < 180 := by
        omega
      have hread := degrees_wgsRead parseFromString hreduced hdigits' hN' (by omega) (by omega)
        hn h
      have hdiff : |(wgsRead parseFromString a pos neg n).valueIn .deg - a.valueIn .deg| =
          |(N + 1 : ℚ) - (N + d₁ + (99 + d₂) / 60 + s / 3600)| := by
        rw [hread, hdeg, ← mul_sub, abs_sign_mul, readCarry_zero (by omega), secondsRead_zero]
        push_cast
        ring_nf
      rw [hdiff]
      refine ⟨?_, fun hnear => absurd hnear hdegree⟩
      have hsame : (N + 1 : ℚ) = N + (1 : ℤ) + (0 : ℕ) / 60 + 0 / 3600 := by
        push_cast
        ring
      rw [hsame]
      exact abs_read_sub_lt (by decide) h₁ h₂ hp (by decide) hs0 hs1 (le_refl 0) (by norm_num)

end Digits

end Geo

namespace Pq.CAngle

open CMathUtils

/-- The seconds in millionths, as they are rounded. -/
def micros (a : CAngle) : ℕ := roundHalfUp (a.secPart * 10 ^ 6)

/-- No minute and no degree is added or lost: the value is not next to the next one, and the seconds
    are not rounded to a hundred. -/
def KeepsParts (a : CAngle) (n : ℕ) : Prop :=
  if a.unit = .sexagesimalDeg then
    a.micros < 10 ^ 8 ∧
      (a.minPart = 99 → a.micros = 99999999 → (99999999 / 1000000 ≤ a.secPart ↔ 6 ≤ n))
  else
    fract a.partsValue < 1 - truncEpsilon ∧ fract (fract a.partsValue * 60) < 1 - truncEpsilon

instance (a : CAngle) (n : ℕ) : Decidable (a.KeepsParts n) := by
  unfold KeepsParts
  infer_instance

/-- The parts are kept, the fraction is not rounded to one, and a negative angle is not printed as
    nothing. -/
def RoundTripsWell (a : CAngle) (n : ℕ) : Prop :=
  a.KeepsParts n ∧ ¬Geo.LosesFraction n a.micros ∧
    (a.valueIn .deg < 0 → 0 < a.degPart ∨ 0 < a.minPart ∨
      95 / 100 / 10 ^ n ≤ (a.micros : ℚ) / 10 ^ 6)

instance (a : CAngle) (n : ℕ) : Decidable (a.RoundTripsWell n) :=
  inferInstanceAs (Decidable (_ ∧ _ ∧ (_ → _)))

theorem sign_mul_of_odd {g : ℚ → ℚ} (hodd : ∀ x, g (-x) = -g x) (x : ℚ) :
    g x = (if x < 0 then -1 else 1) * g |x| := by
  by_cases hx : x < 0
  · rw [if_pos hx, abs_of_neg hx, hodd, neg_one_mul, neg_neg]
  · rw [if_neg hx, abs_of_nonneg (not_lt.mp hx), one_mul]

theorem sign_mul_neg_iff {x y z : ℚ} (hy : y = (if x < 0 then -1 else 1) * z) (hz : 0 ≤ z)
    (hpos : x < 0 → 0 < z) : y < 0 ↔ x < 0 := by
  rw [hy]
  by_cases hx : x < 0
  · have hpos' := hpos hx
    rw [if_pos hx]
    exact iff_of_true (by linarith) hx
  · rw [if_neg hx]
    exact iff_of_false (by linarith) hx

end Pq.CAngle

namespace Geo

open Pq CMathUtils CAngle

variable (parseFromString : QString → CAngle)

section Angles

variable {a : CAngle} {pos neg : Char} {n : ℕ}

/-- The parts of an angle whose value has minutes and seconds for decimals. -/
theorem exists_sexagesimal_parts (hunit : a.unit = .sexagesimalDeg) : ∃ (N m : ℕ) (f : ℚ),
    0 ≤ f ∧ f < 1 ∧ m < 100 ∧ a.valueIn .sexagesimalDeg = a.m_value ∧
    |a.m_value| = N + m / 100 + f * 100 / 10000 ∧
    a.degPart = N ∧ a.minPart = m ∧ a.secPart = f * 100 ∧
    |a.m_value| ≤
      N + (carry ((m + f) / 100) : ℤ) + (m + (carry f : ℤ)) / 60 + f * 100 / 3600 ∧
    a.valueIn .deg = (if a.m_value < 0 then -1 else 1) *
      (N + (carry ((m + f) / 100) : ℤ) + (m + (carry f : ℤ)) / 60 + f * 100 / 3600) := by
  rcases exists_angle_parts a with ⟨N, m, f, hf0, hf1, hparts, hfract, hdegPart, hminPart, hsecPart⟩
  have hbase : a.partsBase = 100 := if_pos hunit
  have habs : a.partsValue = |a.m_value| := if_pos hunit
  rw [hbase] at hparts hfract hsecPart
  -- The minutes are below a hundred in this unit, not below sixty.
  rw [habs] at hparts
  have hm : m < 100 := by
    have hm' : (m : ℚ) < 100 := by linarith
    exact_mod_cast hm'
  refine ⟨N, m, f, hf0, hf1, hm, ?_, ?_, hdegPart, hminPart, hsecPart, ?_, ?_⟩
  · unfold valueIn CAngleUnit.convertFrom
    rw [hunit, if_neg (by decide), if_pos rfl]
  · rw [hparts]
    ring
  · have hcarries : (0 : ℚ) ≤ (carry ((m + f) / 100) : ℤ) ∧ (0 : ℚ) ≤ (carry f : ℤ) :=
      ⟨by positivity, by positivity⟩
    have hm0 : (0 : ℚ) ≤ m := Nat.cast_nonneg m
    linarith
  · -- The conversion is odd, so it is enough to know it for the digits.
    have hodd := sign_mul_of_odd (CTimeUnit.subdivision2ToDefault_neg 1) a.m_value
    rw [hparts, CAngleUnit.subdivision2ToDefault_digits hf0 hf1 hfract] at hodd
    unfold valueIn CAngleUnit.convertFrom
    rw [hunit]
    exact hodd

/-- An angle whose value has minutes and seconds for decimals. -/
theorem restored_iff_of_sexagesimalDeg (hunit : a.unit = .sexagesimalDeg)
    (hA : |a.valueIn .deg| ≤ 180) (hlt : |a.valueIn .sexagesimalDeg| < 180) (hn : 0 < n)
    (h : Hemispheres pos neg) :
    |(wgsRead parseFromString a pos neg n).valueIn .deg - a.valueIn .deg| < 300 ∧
      (|(wgsRead parseFromString a pos neg n).valueIn .deg - a.valueIn .deg| ≤ wgsTolerance n ∧
        KeepsHemisphere parseFromString a pos neg n ↔ a.RoundTripsWell n) := by
  rcases exists_sexagesimal_parts hunit with
      ⟨N, m, f, hf0, hf1, hm, hvalue, hdigits, hdegPart, hminPart, hsecPart, hle, hdeg⟩
  have hparts0 : 0 ≤ |a.m_value| := abs_nonneg _
  have hcarries : (0 : ℚ) ≤ (carry ((m + f) / 100) : ℤ) ∧ (0 : ℚ) ≤ (carry f : ℤ) :=
    ⟨by positivity, by positivity⟩
  have hneg : a.valueIn .deg < 0 ↔ a.m_value < 0 :=
    sign_mul_neg_iff hdeg (hparts0.trans hle) fun hx => (abs_pos.mpr hx.ne).trans_le hle
  have hN99 : m = 99 → N < 179 := by
    rintro rfl
    rw [hdeg, abs_sign_mul, abs_of_nonneg (hparts0.trans hle)] at hA
    have hN' : (N : ℚ) < 179 := by linarith
    exact_mod_cast hN'
  rw [hvalue] at hlt
  rcases restored_iff_of_digits parseFromString hvalue hdigits hdeg hlt hm
      (by positivity) (by linarith) (abs_carry_le _) (abs_carry_le _) hn hN99 h with ⟨hnear, hiff⟩
  refine ⟨hnear, hiff.trans ?_⟩
  have hmicros : roundHalfUp (f * 100 * 10 ^ 6) = a.micros := by rw [micros, hsecPart]
  have hrounding := abs_le.mp (abs_sub_roundHalfUp_le (show 0 ≤ f * 100 * 10 ^ 6 by positivity))
  rw [hmicros] at hrounding ⊢
  unfold RoundTripsWell KeepsParts
  rw [if_pos hunit, hdegPart, hminPart, hsecPart, hneg, Int.natCast_pos, Int.natCast_pos, and_assoc]
  refine and_congr_right fun hT => ?_
  have hT' : (a.micros : ℚ) ≤ 99999999 := by exact_mod_cast Nat.le_of_lt_succ hT
  have hf : carry f = 0 := by
    rw [carry_eq_zero_iff]
    unfold truncEpsilon
    linarith
  rw [hf, Nat.cast_zero, and_iff_right rfl]
  refine and_congr_left fun _ => ?_
  have hm99 : (m : ℤ) = 99 ↔ m = 99 := by omega
  rw [hm99, readCarry_eq hm hT, carry_digits hm hf1]
  -- Only behind 99 minutes there is a carry: by the reader for six and more decimals, by the
  -- conversion of the unit from the last micro on.
  by_cases hm' : m = 99
  · by_cases hlast : a.micros = 99999999
    · simp only [hm', hlast]
      by_cases hn6 : 6 ≤ n
      · by_cases hs : 99999999 / 1000000 ≤ f * 100
        · simp [hs]
        · simp only [hn6, hs]
          decide
      · by_cases hs : 99999999 / 1000000 ≤ f * 100
        · simp only [hn6, hs]
          decide
        · simp [hs]
    · have hlt' : (a.micros : ℚ) ≤ 99999998 := by
        have hle' : a.micros ≤ 99999998 := by omega
        exact_mod_cast hle'
      have hs : ¬99999999 / 1000000 ≤ f * 100 := by
        linarith
      rw [if_neg (fun hall => hlast hall.2.1), if_neg (fun hall => hs hall.2)]
      exact iff_of_true rfl fun _ h => absurd h hlast
  · rw [if_neg (fun hall => hm' hall.1), if_neg (fun hall => hm' hall.1)]
    exact iff_of_true rfl fun h => absurd h hm'

/-- The parts of an angle that is converted from degrees. -/
theorem exists_degree_parts (hunit : a.unit ≠ .sexagesimalDeg) : ∃ (N m : ℕ) (f : ℚ),
    0 ≤ f ∧ f < 1 ∧ m < 60 ∧ |a.valueIn .deg| = N + (m + f) / 60 ∧
    a.degPart = N ∧ a.minPart = m ∧ a.secPart = f * 60 ∧
    (a.KeepsParts n ↔ carry ((m + f) / 60) = 0 ∧ carry f = 0) ∧
    a.valueIn .sexagesimalDeg = (if a.valueIn .deg < 0 then -1 else 1) *
      ((N + carry ((m + f) / 60) : ℕ) + (m + carry f : ℕ) / 100 + f * 60 / 10000) := by
  rcases exists_angle_parts a with ⟨N, m, f, hf0, hf1, hparts, hfract, hdegPart, hminPart, hsecPart⟩
  have hbase : a.partsBase = 60 := if_neg hunit
  have habs : a.partsValue = |a.valueIn .deg| := if_neg hunit
  rw [hbase] at hparts hfract hsecPart
  have hpart0 : 0 ≤ (m + f) / 60 := by positivity
  have hsixty : (m + f) / 60 * 60 = m + f := by ring
  have hm : m < 60 := by
    have hm' : (m : ℚ) < 60 := by linarith
    exact_mod_cast hm'
  refine ⟨N, m, f, hf0, hf1, hm, habs ▸ hparts, hdegPart, hminPart, hsecPart, ?_, ?_⟩
  · unfold KeepsParts
    rw [if_neg hunit, hparts, fract_add hpart0 hfract, hsixty, fract_add hf0 hf1,
      carry_eq_zero_iff, carry_eq_zero_iff]
  · have hodd := sign_mul_of_odd (CAngleUnit.subdivision2FromDefault_neg 1) (a.valueIn .deg)
    rw [← habs, hparts, ← one_mul ((N : ℚ) + (m + f) / 60),
      CAngleUnit.subdivision2FromDefault_add one_pos hpart0 hfract hsixty hf0 hf1] at hodd
    rw [valueIn_sexagesimalDeg hunit, hodd]
    ring

/-- An angle that is converted from degrees. -/
theorem restored_iff_of_degrees (hunit : a.unit ≠ .sexagesimalDeg)
    (hlt : |a.valueIn .sexagesimalDeg| < 180) (hn : 0 < n) (h : Hemispheres pos neg) :
    |(wgsRead parseFromString a pos neg n).valueIn .deg - a.valueIn .deg| < 300 ∧
      (|(wgsRead parseFromString a pos neg n).valueIn .deg - a.valueIn .deg| ≤ wgsTolerance n ∧
        KeepsHemisphere parseFromString a pos neg n ↔ a.RoundTripsWell n) := by
  rcases exists_degree_parts (n := n) hunit with
      ⟨N, m, f, hf0, hf1, hm, hparts, hdegPart, hminPart, hsecPart, hkeeps, hpacked⟩
  have hle := carry_le_one f
  have hcarries : (0 : ℚ) ≤ carry ((m + f) / 60) ∧ (0 : ℚ) ≤ carry f :=
    ⟨by positivity, by positivity⟩
  have hpacked0 : 0 ≤ ((N + carry ((m + f) / 60) : ℕ) + (m + carry f : ℕ) / 100 +
      f * 60 / 10000 : ℚ) := by positivity
  have hneg : a.valueIn .sexagesimalDeg < 0 ↔ a.valueIn .deg < 0 := by
    refine sign_mul_neg_iff hpacked hpacked0 fun hA => ?_
    have hpos : 0 < |a.valueIn .deg| := abs_pos.mpr hA.ne
    have hm0 : (0 : ℚ) ≤ m := Nat.cast_nonneg m
    push_cast
    linarith
  have hdigits : |a.valueIn .sexagesimalDeg| =
      (N + carry ((m + f) / 60) : ℕ) + (m + carry f : ℕ) / 100 + f * 60 / 10000 := by
    rw [hpacked, abs_sign_mul, abs_of_nonneg hpacked0]
  have hdeg : a.valueIn .deg = (if a.valueIn .sexagesimalDeg < 0 then -1 else 1) *
      ((N + carry ((m + f) / 60) : ℕ) + (-(carry ((m + f) / 60) : ℤ) : ℤ) +
        ((m + carry f : ℕ) + (-(carry f : ℤ) : ℤ)) / 60 + f * 60 / 3600) := by
    have hodd := sign_mul_of_odd (g := id) (fun _ => rfl) (a.valueIn .deg)
    rw [if_congr hneg rfl rfl]
    refine hodd.trans (congrArg _ ?_)
    rw [id, hparts]
    push_cast
    ring
  have hmicros : roundHalfUp (f * 60 * 10 ^ 6) = a.micros := by rw [micros, hsecPart]
  have hT : a.micros < 10 ^ 8 := by
    have hle' : a.micros ≤ 60 * 10 ^ 6 := by
      rw [← hmicros]
      refine roundHalfUp_le (by positivity) ?_
      linarith
    omega
  -- The packed digits are below a hundred each, so that nothing is carried by the reader.
  obtain ⟨hnear, hiff⟩ := restored_iff_of_digits parseFromString rfl hdigits hdeg hlt (by omega)
    (by positivity) (by linarith) (by rw [abs_neg]; exact abs_carry_le _)
    (by rw [abs_neg]; exact abs_carry_le _) hn (by omega) h
  refine ⟨hnear, hiff.trans ?_⟩
  rw [hmicros, readCarry_eq (by omega) hT, if_neg (by omega), Nat.cast_zero, and_iff_right hT]
  unfold RoundTripsWell
  rw [hkeeps, hdegPart, hminPart, hneg, Int.natCast_pos, Int.natCast_pos]
  have hzero : ∀ c : ℕ, ((0 : ℤ) = -(c : ℤ) ↔ c = 0) ∧ (-(c : ℤ) = 0 ↔ c = 0) := by
    intro c
    omega
  rw [(hzero _).1, (hzero _).2, and_assoc]
  refine and_congr_right fun he => and_congr_right fun hf => ?_
  rw [he, hf, Nat.add_zero, Nat.add_zero]

/-- The value with its decimals is not much larger than the degrees. -/
theorem abs_valueIn_sexagesimalDeg_le (a : CAngle) :
    |a.valueIn .sexagesimalDeg| ≤ |a.valueIn .deg| + 2 := by
  by_cases hunit : a.unit = .sexagesimalDeg
  · rcases exists_sexagesimal_parts hunit with ⟨N, m, f, -, -, -, hvalue, -, -, -, -, hle, hdeg⟩
    have hnonneg : 0 ≤ |a.m_value| := abs_nonneg _
    rw [hvalue, hdeg, abs_sign_mul, abs_of_nonneg (hnonneg.trans hle)]
    linarith
  · rcases exists_degree_parts (n := 0) hunit with
        ⟨N, m, f, hf0, hf1, hm, hparts, -, -, -, -, hpacked⟩
    have hcarry : (carry ((m + f) / 60) : ℚ) ≤ 1 ∧ (carry f : ℚ) ≤ 1 :=
      ⟨by exact_mod_cast carry_le_one _, by exact_mod_cast carry_le_one _⟩
    have hm0 : (0 : ℚ) ≤ m := Nat.cast_nonneg m
    rw [hpacked, abs_sign_mul, abs_of_nonneg (by positivity)]
    push_cast
    linarith

theorem not_losesFraction_of_whole {W : ℕ} (hW : W % 10 ^ 6 = 0) : ¬LosesFraction n W := by
  have hunit : 1 / 2 / (10 : ℚ) ^ (n + 1) < 1 := by
    rw [div_lt_one (by positivity)]
    have hle := one_le_pow₀ (a := (10 : ℚ)) (n := n + 1) (by norm_num)
    linarith
  unfold LosesFraction
  rw [hW]
  linarith

theorem roundTripsWell_of_whole {N : ℕ} (hN : 0 < N) (hdeg : a.degPart = N) (hmin : a.minPart = 0)
    (hsec : a.secPart = 0) (hkeeps : a.unit ≠ .sexagesimalDeg → a.KeepsParts n) :
    a.RoundTripsWell n := by
  have hmicros : a.micros = 0 := by
    rw [micros, hsec, zero_mul, ← Nat.cast_zero, roundHalfUp_natCast]
  refine ⟨?_, ?_, fun _ => .inl ?_⟩
  · by_cases hunit : a.unit = .sexagesimalDeg
    · unfold KeepsParts
      rw [if_pos hunit]
      exact ⟨by omega, fun h => absurd h (by omega)⟩
    · exact hkeeps hunit
  · rw [hmicros]
    exact not_losesFraction_of_whole rfl
  · rw [hdeg]
    exact_mod_cast hN

/-- Half a turn in parts has nothing but degrees. -/
theorem roundTripsWell_of_half {N m : ℕ} {f k : ℚ} (hN : (N : ℚ) = 180) (hm : (m : ℚ) = 0)
    (hf : f = 0) (hdegPart : a.degPart = N) (hminPart : a.minPart = m)
    (hsecPart : a.secPart = f * k) (hkeeps : a.unit ≠ .sexagesimalDeg → a.KeepsParts n) :
    a.RoundTripsWell n := by
  have hN' : N = 180 := by exact_mod_cast hN
  have hm' : m = 0 := by exact_mod_cast hm
  refine roundTripsWell_of_whole (N := N) (by omega) hdegPart ?_ ?_ hkeeps
  · rw [hminPart, hm', Nat.cast_zero]
  · rw [hsecPart, hf, zero_mul]

/-- An angle of which the text is half a turn. -/
theorem degrees_of_half (hA : |a.valueIn .deg| ≤ 180) (hhalf : 180 ≤ |a.valueIn .sexagesimalDeg|)
    (hkeeps : a.unit ≠ .sexagesimalDeg → a.KeepsParts n) :
    |a.valueIn .sexagesimalDeg| = 180 ∧ |a.valueIn .deg| = 180 ∧ a.RoundTripsWell n := by
  -- In its own unit the digits make 180, and conversion adds what is carried.
  by_cases hunit : a.unit = .sexagesimalDeg
  · rcases exists_sexagesimal_parts hunit with
        ⟨N, m, f, hf0, -, -, hvalue, hdigits, hdegPart, hminPart, hsecPart, hle, hdeg⟩
    have hnonneg : 0 ≤ |a.m_value| := abs_nonneg _
    have habs : |a.valueIn .deg| =
        N + (carry ((m + f) / 100) : ℤ) + (m + (carry f : ℤ)) / 60 + f * 100 / 3600 := by
      rw [hdeg, abs_sign_mul, abs_of_nonneg (hnonneg.trans hle)]
    have hcarries : (0 : ℚ) ≤ (carry ((m + f) / 100) : ℤ) ∧ (0 : ℚ) ≤ (carry f : ℤ) :=
      ⟨by positivity, by positivity⟩
    rw [hvalue] at hhalf ⊢
    -- The degrees are at most 180, so there is nothing left for minutes and seconds.
    have hm : (m : ℚ) = 0 := by linarith
    have hf : f = 0 := by linarith
    have hN : (N : ℚ) = 180 := by linarith
    exact ⟨by linarith, by linarith,
      roundTripsWell_of_half hN hm hf hdegPart hminPart hsecPart hkeeps⟩
  · rcases exists_degree_parts (n := n) hunit with
        ⟨N, m, f, hf0, -, -, hparts, hdegPart, hminPart, hsecPart, hcarry, hpacked⟩
    rcases hcarry.mp (hkeeps hunit) with ⟨he, hf⟩
    rw [he, hf, Nat.add_zero, Nat.add_zero] at hpacked
    have habs : |a.valueIn .sexagesimalDeg| = N + m / 100 + f * 60 / 10000 := by
      rw [hpacked, abs_sign_mul, abs_of_nonneg (by positivity)]
    -- Without a carry the minutes and seconds are nothing here too.
    have hm : (m : ℚ) = 0 := by linarith
    have hf : f = 0 := by linarith
    have hN : (N : ℚ) = 180 := by linarith
    exact ⟨by linarith, by linarith,
      roundTripsWell_of_half hN hm hf hdegPart hminPart hsecPart hkeeps⟩

/-- Half a turn is read as half a turn of the western hemisphere. -/
theorem restored_of_half (hx : |a.valueIn .sexagesimalDeg| = 180) (hA : |a.valueIn .deg| = 180)
    (hn : 0 < n) (h : Hemispheres pos neg) :
    (∃ turns : ℤ, |(wgsRead parseFromString a pos neg n).valueIn .deg - a.valueIn .deg -
      360 * turns| ≤ wgsTolerance n) ∧ KeepsHemisphere parseFromString a pos neg n := by
  have hhalf := CAngle.reduced180_half 0
  rw [Nat.cast_zero, mul_zero, zero_add] at hhalf
  -- Both half turns are the one of the west.
  have hreduced : CAngle.reduced180 (a.valueIn .sexagesimalDeg) = -180 := by
    rcases eq_or_eq_neg_of_abs_eq hx with hx | hx
    · rw [hx, hhalf.1]
    · rw [hx, hhalf.2]
  have hdigits : roundHalfUp (|(-180 : ℚ)| * 10 ^ 10) = 180 * 10 ^ 10 + 0 * 10 ^ 8 + 0 := by
    have heq : |(-180 : ℚ)| * 10 ^ 10 = (1800000000000 : ℕ) := by
      norm_num
    rw [heq, roundHalfUp_natCast]
    norm_num
  have hread : wgsRead parseFromString a pos neg n = .create (-180) .sexagesimalDeg := by
    rw [wgsRead,
      fromWgs84_of_digits hreduced hdigits (by omega) (by omega) (by omega) hn parseFromString h,
      secondsRead_zero]
    norm_num
  have hdeg : (wgsRead parseFromString a pos neg n).valueIn .deg = -180 := by
    have hdigits' := CAngleUnit.subdivision2ToDefault_digits (k := 180) (m := 0) (le_refl (0 : ℚ))
      one_pos (by norm_num)
    rw [carry_of_le (by norm_num), carry_of_le (by norm_num)] at hdigits'
    norm_num at hdigits'
    rw [hread]
    change CTimeUnit.subdivision2ToDefault 1 (-180) = -180
    rw [CTimeUnit.subdivision2ToDefault_neg, hdigits']
  have htolerance : 0 ≤ wgsTolerance n := by
    unfold wgsTolerance microRounding
    positivity
  constructor
  · rw [hdeg]
    rcases eq_or_eq_neg_of_abs_eq hA with hA | hA
    · exact ⟨-1, by rw [hA]; norm_num; exact htolerance⟩
    · exact ⟨0, by rw [hA]; norm_num; exact htolerance⟩
  · unfold KeepsHemisphere
    rw [getLast?_toWgs84, getLast?_toWgs84, hreduced, hread]
    change some (if CAngle.reduced180 (-180) < 0 then neg else pos) = _
    rw [hhalf.2]

/-- Almost a turn in either direction. -/
theorem not_near_turns {x : ℚ} (hlow : 359 < |x|) (hhigh : |x| < 3599 / 10) (hn : 0 < n) :
    ¬∃ turns : ℤ, |x - 360 * turns| ≤ wgsTolerance n := by
  rintro ⟨turns, hturns⟩
  have htolerance := wgsTolerance_le hn
  rw [abs_le] at hturns
  rcases abs_choice x with hx | hx <;> rw [hx] at hlow hhigh
  · have hlow' : (0 : ℚ) < turns := by linarith
    have hhigh' : (turns : ℚ) < 1 := by linarith
    have hlow'' : (0 : ℤ) < turns := by exact_mod_cast hlow'
    have hhigh'' : turns < (1 : ℤ) := by exact_mod_cast hhigh'
    omega
  · have hlow' : (-1 : ℚ) < turns := by linarith
    have hhigh' : (turns : ℚ) < 0 := by linarith
    have hlow'' : (-1 : ℤ) < turns := by exact_mod_cast hlow'
    have hhigh'' : turns < (0 : ℤ) := by exact_mod_cast hhigh'
    omega

/-- What is converted to more than half a turn is next to it: its minutes are 59, and its seconds
    next to sixty. -/
theorem parts_of_beyond (hA : |a.valueIn .deg| ≤ 180)
    (hbeyond : 180 ≤ |a.valueIn .sexagesimalDeg|) (hunit : a.unit ≠ .sexagesimalDeg)
    (hkeeps : ¬a.KeepsParts n) : ∃ (c₂ : ℕ) (f : ℚ), c₂ ≤ 1 ∧ 1 - 60 * truncEpsilon ≤ f ∧ f < 1 ∧
      |a.valueIn .deg| = 179 + (59 + f) / 60 ∧
      a.valueIn .sexagesimalDeg = (if a.valueIn .deg < 0 then -1 else 1) *
        ((180 : ℕ) + (59 + c₂ : ℕ) / 100 + f * 60 / 10000) := by
  rcases exists_degree_parts (n := n) hunit with
      ⟨N, m, f, hf0, hf1, hm, hparts, -, -, -, hcarry, hpacked⟩
  have hm59 : (m : ℚ) ≤ 59 := by exact_mod_cast Nat.le_of_lt_succ hm
  have hc₂ := carry_le_one f
  have hc₂' : (carry f : ℚ) ≤ 1 := by exact_mod_cast hc₂
  have habs : |a.valueIn .sexagesimalDeg| =
      N + carry ((m + f) / 60) + (m + carry f) / 100 + f * 60 / 10000 := by
    rw [hpacked, abs_sign_mul, abs_of_nonneg (by positivity)]
    push_cast
    ring
  rw [habs] at hbeyond
  rw [hparts] at hA
  -- A degree is carried, so that the minutes and seconds are next to sixty.
  have he : carry ((m + f) / 60) ≠ 0 := by
    intro he
    have hf : carry f ≠ 0 := fun hf => hkeeps (hcarry.mpr ⟨he, hf⟩)
    rw [Ne, carry_eq_zero_iff] at hf
    unfold truncEpsilon at hf
    rw [he] at hbeyond
    have hN : (179 : ℚ) < N := by linarith
    have hN' : 179 < N := by exact_mod_cast hN
    have hN180 : (180 : ℚ) ≤ N := by exact_mod_cast Nat.succ_le_of_lt hN'
    linarith
  have hone : carry ((m + f) / 60) = 1 := by
    have hle := carry_le_one ((m + f) / 60)
    omega
  rw [Ne, carry_eq_zero_iff] at he
  rw [hone] at hbeyond
  have hm' : m = 59 := by
    unfold truncEpsilon at he
    have hlow : (58 : ℚ) < m := by linarith
    have hlow' : 58 < m := by exact_mod_cast hlow
    omega
  subst hm'
  have hN : N = 179 := by
    unfold truncEpsilon at he
    push_cast at he hA hbeyond
    have hlow : (178 : ℚ) < N := by linarith
    have hhigh : (N : ℚ) < 180 := by linarith
    have hlow' : 178 < N := by exact_mod_cast hlow
    have hhigh' : N < 180 := by exact_mod_cast hhigh
    omega
  subst hN
  refine ⟨carry f, f, hc₂, ?_, hf1, ?_, ?_⟩
  · push_cast at he
    linarith
  · rw [hparts]
    norm_num
  · rw [hpacked, hone]

/-- One that is next to half a turn is read as one of the other hemisphere. -/
theorem not_restored_of_beyond (hA : |a.valueIn .deg| ≤ 180)
    (hbeyond : 180 ≤ |a.valueIn .sexagesimalDeg|) (hunit : a.unit ≠ .sexagesimalDeg)
    (hkeeps : ¬a.KeepsParts n) (hn : 0 < n) (h : Hemispheres pos neg) :
    ¬∃ turns : ℤ, |(wgsRead parseFromString a pos neg n).valueIn .deg - a.valueIn .deg -
      360 * turns| ≤ wgsTolerance n := by
  rcases parts_of_beyond hA hbeyond hunit hkeeps with ⟨c₂, f, hc₂, hnear, hf1, hparts, hpacked⟩
  have hc₂' : (c₂ : ℚ) ≤ 1 := by exact_mod_cast hc₂
  unfold truncEpsilon at hnear
  have hf0 : 0 ≤ f := by linarith
  rcases CAngle.roundHalfUp_turn_digits (M := 180) (p := 59 + c₂) (s := f * 60) (by omega)
    (by omega) (by positivity) (by linarith) with ⟨t, -, hseconds, -, hdigits⟩
  -- The seconds that are taken off are sixty when they are rounded.
  have hsixty : t = 60 * 10 ^ 6 := by
    have hseconds' := abs_le.mp hseconds
    unfold microRounding at hseconds'
    have hlow : ((60 * 10 ^ 6 - 1 : ℕ) : ℚ) < t := by
      push_cast
      linarith
    have hhigh : (t : ℚ) < (60 * 10 ^ 6 + 1 : ℕ) := by
      push_cast
      linarith
    have hlow' : 60 * 10 ^ 6 - 1 < t := by exact_mod_cast hlow
    have hhigh' : t < 60 * 10 ^ 6 + 1 := by exact_mod_cast hhigh
    omega
  rw [hsixty] at hdigits
  -- What is missing to a turn is printed for the other hemisphere.
  have hturned := CAngle.reduced180_of_gt (q := 0)
    (r := (180 : ℕ) + (59 + c₂ : ℕ) / 100 + f * 60 / 10000)
    (by push_cast; linarith [Nat.cast_nonneg (α := ℚ) c₂]) (by push_cast; linarith)
  rw [Nat.cast_zero, mul_zero, zero_add] at hturned
  have hcast : ((40 - c₂ : ℕ) : ℚ) = 40 - c₂ := by
    rw [Nat.cast_sub (by omega)]
    norm_num
  have hdigits' : roundHalfUp
    ((360 - ((180 : ℕ) + (59 + c₂ : ℕ) / 100 + f * 60 / 10000)) * 10 ^ 10) =
      179 * 10 ^ 10 + (40 - c₂) * 10 ^ 8 + 40000000 := by
    omega
  have hseconds := abs_le.mp (abs_secondsRead_sub_le
    (not_losesFraction_of_whole (n := n) (W := 40000000) rfl))
  have hunit' : 95 / 100 / (10 : ℚ) ^ n ≤ 1 := by
    rw [div_le_one (by positivity)]
    have hle := one_le_pow₀ (a := (10 : ℚ)) (n := n) (by norm_num)
    linarith
  have hpart : 0 < (360 - ((180 : ℕ) + (59 + c₂ : ℕ) / 100 + f * 60 / 10000) : ℚ) := by
    push_cast
    linarith
  have hreadCarry : readCarry n (40 - c₂) 40000000 = 0 := by
    rw [readCarry_eq (by omega) (by omega), if_neg (by omega)]
  have hc₂0 : (0 : ℚ) ≤ c₂ := Nat.cast_nonneg c₂
  by_cases hneg : a.valueIn .deg < 0
  · have hreduced : CAngle.reduced180 (a.valueIn .sexagesimalDeg) =
        360 - ((180 : ℕ) + (59 + c₂ : ℕ) / 100 + f * 60 / 10000) := by
      rw [hpacked, if_pos hneg, neg_one_mul]
      exact hturned.2
    have hread := degrees_wgsRead parseFromString hreduced
      (by rw [abs_of_pos hpart]; exact hdigits') (by omega) (by omega) (by omega) hn h
    rw [if_neg (not_lt.mpr hpart.le), hreadCarry, hcast] at hread
    rw [abs_of_neg hneg] at hparts
    refine not_near_turns ?_ ?_ hn
    · rw [hread, lt_abs]
      left
      linarith
    · rw [hread, abs_lt]
      constructor <;> linarith
  · have hreduced : CAngle.reduced180 (a.valueIn .sexagesimalDeg) =
        -(360 - ((180 : ℕ) + (59 + c₂ : ℕ) / 100 + f * 60 / 10000)) := by
      rw [hpacked, if_neg hneg, one_mul]
      exact hturned.1
    have hread := degrees_wgsRead parseFromString hreduced
      (by rw [abs_neg, abs_of_pos hpart]; exact hdigits') (by omega) (by omega) (by omega) hn h
    rw [if_pos (neg_lt_zero.mpr hpart), hreadCarry] at hread
    rw [abs_of_nonneg (not_lt.mp hneg)] at hparts
    refine not_near_turns ?_ ?_ hn
    · rw [lt_abs]
      right
      linarith
    · rw [abs_lt]
      constructor <;> linarith

/-- An angle below half a turn. -/
theorem restored_iff_of_lt (hA : |a.valueIn .deg| ≤ 180) (hlt : |a.valueIn .sexagesimalDeg| < 180)
    (hn : 0 < n) (h : Hemispheres pos neg) :
    |(wgsRead parseFromString a pos neg n).valueIn .deg - a.valueIn .deg| < 300 ∧
      (|(wgsRead parseFromString a pos neg n).valueIn .deg - a.valueIn .deg| ≤ wgsTolerance n ∧
        KeepsHemisphere parseFromString a pos neg n ↔ a.RoundTripsWell n) := by
  by_cases hunit : a.unit = .sexagesimalDeg
  · exact restored_iff_of_sexagesimalDeg parseFromString hunit hA hlt hn h
  · exact restored_iff_of_degrees parseFromString hunit hlt hn h

/-- An angle up to half a turn. -/
theorem restored_iff (hA : |a.valueIn .deg| ≤ 180) (hn : 0 < n) (h : Hemispheres pos neg) :
    (∃ turns : ℤ, |(wgsRead parseFromString a pos neg n).valueIn .deg - a.valueIn .deg -
        360 * turns| ≤ wgsTolerance n) ∧ KeepsHemisphere parseFromString a pos neg n ↔
      a.RoundTripsWell n := by
  have htolerance : wgsTolerance n < 1 := by linarith [wgsTolerance_le hn]
  rcases lt_or_ge |a.valueIn .sexagesimalDeg| 180 with hlt | hge
  · rcases restored_iff_of_lt parseFromString hA hlt hn h with ⟨hnear, hiff⟩
    rw [abs_sub_turns_le_iff hnear htolerance, hiff]
  · by_cases hkeeps : a.unit ≠ .sexagesimalDeg → a.KeepsParts n
    · rcases degrees_of_half hA hge hkeeps with ⟨hx, hA', hwell⟩
      exact iff_of_true (restored_of_half parseFromString hx hA' hn h) hwell
    · rw [Classical.not_imp] at hkeeps
      refine iff_of_false (fun hall => ?_) fun hwell => hkeeps.2 hwell.1
      exact not_restored_of_beyond parseFromString hA hge hkeeps.1 hkeeps.2 hn h hall.1

end Angles

/-- A latitude that is printed and read is the same up to the tolerance, and of the same
    hemisphere. -/
def CLatitude.RoundTrips (lat : CLatitude) (n : ℕ) : Prop :=
  let parsed := CLatitude.fromWgs84 parseFromString (lat.toWgs84 n)
  |parsed.angle.valueIn .deg - lat.angle.valueIn .deg| ≤ wgsTolerance n ∧
    (parsed.toWgs84 n).getLast? = (lat.toWgs84 n).getLast?

/-- A longitude is the same up to whole turns. -/
def CLongitude.RoundTrips (lon : CLongitude) (n : ℕ) : Prop :=
  let parsed := CLongitude.fromWgs84 parseFromString (lon.toWgs84 n)
  (∃ turns : ℤ, |parsed.angle.valueIn .deg - lon.angle.valueIn .deg - 360 * turns| ≤
      wgsTolerance n) ∧
    (parsed.toWgs84 n).getLast? = (lon.toWgs84 n).getLast?

theorem CLatitude.roundTrips_iff (lat : CLatitude) (n : ℕ) : lat.RoundTrips parseFromString n ↔
    |(wgsRead parseFromString lat.angle 'N' 'S' n).valueIn .deg - lat.angle.valueIn .deg| ≤
        wgsTolerance n ∧ KeepsHemisphere parseFromString lat.angle 'N' 'S' n := by
  simp [CLatitude.RoundTrips, CLatitude.fromWgs84, CLatitude.toWgs84, KeepsHemisphere, wgsRead]

theorem CLongitude.roundTrips_iff (lon : CLongitude) (n : ℕ) : lon.RoundTrips parseFromString n ↔
    (∃ turns : ℤ, |(wgsRead parseFromString lon.angle 'E' 'W' n).valueIn .deg -
        lon.angle.valueIn .deg - 360 * turns| ≤ wgsTolerance n) ∧
      KeepsHemisphere parseFromString lon.angle 'E' 'W' n := by
  simp [CLongitude.RoundTrips, CLongitude.fromWgs84, CLongitude.toWgs84, KeepsHemisphere, wgsRead]

/-- A latitude or a longitude comes back if no part is next to the next one, the fraction is not
    rounded to one, and it is not printed as nothing of the south or the west. -/
theorem wgs84_round_trip_iff (n : ℕ) (hn : 1 ≤ n) :
    (∀ lat : CLatitude, |lat.angle.valueIn .deg| ≤ 90 →
      (lat.RoundTrips parseFromString n ↔ lat.angle.RoundTripsWell n)) ∧
    (∀ lon : CLongitude, |lon.angle.valueIn .deg| ≤ 180 →
      (lon.RoundTrips parseFromString n ↔ lon.angle.RoundTripsWell n)) := by
  refine ⟨fun lat hlat => ?_, fun lon hlon => ?_⟩
  · have hvalue := abs_valueIn_sexagesimalDeg_le lat.angle
    rw [CLatitude.roundTrips_iff]
    exact (restored_iff_of_lt parseFromString (by linarith) (by linarith) hn
      (.inl ⟨rfl, rfl⟩)).2
  · rw [CLongitude.roundTrips_iff]
    exact restored_iff parseFromString hlon hn (.inr ⟨rfl, rfl⟩)

/-- 48 degrees, 21 minutes and 13.5 seconds, and 122 degrees to the west. -/
theorem wgs84_round_trip_sample :
    CLatitude.RoundTrips (fun _ => .null) ⟨.create (174073 / 3600 + 1 / 7200) .deg⟩ 3 ∧
      CLongitude.RoundTrips (fun _ => .null) ⟨.create (-122) .sexagesimalDeg⟩ 3 :=
  ⟨((wgs84_round_trip_iff (fun _ => .null) 3 (by decide)).1 _ (by decide +kernel)).mpr
      (by decide +kernel),
    ((wgs84_round_trip_iff (fun _ => .null) 3 (by decide)).2 _ (by decide +kernel)).mpr
      (by decide +kernel)⟩

/-- 13.996 seconds are printed as 13.0, and a hundredth of a second to the south is read as zero,
    which is north. -/
theorem wgs84_seconds_lost :
    ¬CLatitude.RoundTrips (fun _ => .null) ⟨.create (13996 / 1000 / 3600) .deg⟩ 1 ∧
      ¬CLatitude.RoundTrips (fun _ => .null) ⟨.create (-1 / 100 / 3600) .deg⟩ 1 := by
  constructor
  · intro h
    exact absurd h.1 (by decide +kernel)
  · intro h
    exact absurd h.2 (by decide +kernel)

end Geo

end NeoSwift
