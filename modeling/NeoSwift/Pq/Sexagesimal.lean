import NeoSwift.Lib.DigitGroups
import NeoSwift.Pq.Subdivision

/-!
# Degrees, Minutes and Seconds

`CAngle::asSexagesimalDegMinSec`: the value of an angle in the unit whose decimals are the minutes
and the seconds is written with ten decimals, and the parts are cut from the text. With
`range180Degrees` the value is reduced to 180 degrees before, as if its decimals were those of
degrees.

An angle beyond 180 degrees has its minutes and seconds taken from a hundred and not from sixty
then. An angle whose seconds are rounded to sixty is given sixty seconds, and one of improper
minutes or seconds keeps them. All other angles are the parts they are given.

## Main definitions

* `CAngle.asSexagesimalDegMinSec`: The parts.
* `Decomposes`: What the parts of an angle should be.
* `CAngle.DecomposesWell`: The angles whose parts are.

## Theorems

* `parts_of_roundHalfUp`: The parts as groups of digits.
* `decomposes_iff_of_digits`: The parts of a value with given digits.
* `decomposes_iff`: When the parts are those of the angle.
* `sexagesimal_iff`: The same with the converters.
-/

namespace NeoSwift.Pq

open CMathUtils Numeral

/-- `CAngle::DegMinSecFractionalSec`. -/
structure DegMinSecFractionalSec where
  sign : ℤ := 1
  deg : ℤ := 0
  min : ℤ := 0
  sec : ℤ := 0
  fractionalSec : ℚ := 0
  deriving DecidableEq

namespace CAngle

/-- Reduced to 180 degrees. -/
def reduced180 (dms : ℚ) : ℚ :=
  let dms := fmod (dms + 180) 360
  dms + if dms < 0 then 180 else -180

/-- `arg(dms, 14, 'f', 10, '0')` of a number that is not negative. -/
def packedText (dms : ℚ) : QString := (QString.numberFixed dms 10).leftpad 14 '0'

/-- The parts cut from the text of a number. -/
def partsOf (dms : ℚ) : DegMinSecFractionalSec :=
  let str := packedText (if dms < 0 then dms * -1 else dms)
  { sign := if dms < 0 then -1 else 1
    deg := (QString.mid str 0 3).toInt.toInt
    min := (QString.mid str 4 2).toInt.toInt
    sec := (QString.mid str 6 2).toInt.toInt
    fractionalSec := (QString.mid str 8 6).toInt.toInt / 1000000 }

def asSexagesimalDegMinSec (a : CAngle) (range180Degrees : Bool) : DegMinSecFractionalSec :=
  let dms := a.valueIn .sexagesimalDeg
  partsOf (if range180Degrees then reduced180 dms else dms)

end CAngle

/-- What the parts are together, in degrees. -/
def DegMinSecFractionalSec.recomposed (values : DegMinSecFractionalSec) : ℚ :=
  values.sign * (values.deg + values.min / 60 + (values.sec + values.fractionalSec) / 3600)

/-- Half of the last of ten digits, which is a millionth of a second. -/
def microRounding : ℚ := 1 / 2 / 1000000

/-- The same in degrees. -/
def lastDigitRounding : ℚ := microRounding / 3600

/-- Whole turns, up to the rounding. -/
def NearTurns (degrees : ℚ) : Prop := ∃ turns : ℤ, |degrees - 360 * turns| ≤ lastDigitRounding

/-- Degrees to 180, minutes and seconds below sixty, a fraction, and together the angle up to
    whole turns. -/
structure Decomposes (values : DegMinSecFractionalSec) (degrees : ℚ) : Prop where
  deg : 0 ≤ values.deg ∧ values.deg ≤ 180
  min : 0 ≤ values.min ∧ values.min ≤ 59
  sec : 0 ≤ values.sec ∧ values.sec ≤ 59
  fractionalSec : 0 ≤ values.fractionalSec ∧ values.fractionalSec < 1
  recomposed : NearTurns (values.recomposed - degrees)

/-! ## Whole turns -/

theorem nearTurns_neg {x : ℚ} : NearTurns (-x) ↔ NearTurns x := by
  have hneg : ∀ {y : ℚ}, NearTurns y → NearTurns (-y) := by
    rintro y ⟨turns, h⟩
    refine ⟨-turns, ?_⟩
    rw [← abs_neg] at h
    have heq : -y - 360 * ((-turns : ℤ) : ℚ) = -(y - 360 * turns) := by
      push_cast
      ring
    rwa [heq]
  exact ⟨fun h => neg_neg x ▸ hneg h, hneg⟩

theorem nearTurns_add_turns {x : ℚ} (k : ℤ) : NearTurns (x + 360 * k) ↔ NearTurns x := by
  constructor
  · rintro ⟨turns, h⟩
    refine ⟨turns - k, ?_⟩
    have heq : x - 360 * ((turns - k : ℤ) : ℚ) = x + 360 * k - 360 * turns := by
      push_cast
      ring
    rwa [heq]
  · rintro ⟨turns, h⟩
    refine ⟨turns + k, ?_⟩
    have heq : x + 360 * k - 360 * ((turns + k : ℤ) : ℚ) = x - 360 * turns := by
      push_cast
      ring
    rwa [heq]

theorem nearTurns_of_abs_le {x : ℚ} (h : |x| ≤ lastDigitRounding) : NearTurns x :=
  ⟨0, by rwa [Int.cast_zero, mul_zero, sub_zero]⟩

/-- Less than a turn is not brought nearer by turns. -/
theorem abs_sub_turns_le_iff {x tolerance : ℚ} (hx : |x| < 300) (htolerance : tolerance < 1) :
    (∃ turns : ℤ, |x - 360 * turns| ≤ tolerance) ↔ |x| ≤ tolerance := by
  constructor
  · rintro ⟨turns, hturns⟩
    rw [abs_lt] at hx
    have hnear := abs_le.mp hturns
    have hlow : (-1 : ℚ) < turns := by linarith
    have hhigh : (turns : ℚ) < 1 := by linarith
    have hlow' : (-1 : ℤ) < turns := by exact_mod_cast hlow
    have hhigh' : turns < (1 : ℤ) := by exact_mod_cast hhigh
    obtain rfl : turns = 0 := by omega
    rwa [Int.cast_zero, mul_zero, sub_zero] at hturns
  · intro h
    exact ⟨0, by rwa [Int.cast_zero, mul_zero, sub_zero]⟩

/-- What is more than the rounding and less than a turn. -/
theorem not_nearTurns {x : ℚ} (h : lastDigitRounding < |x|) (h1 : |x| < 300) : ¬NearTurns x := by
  have hsmall : lastDigitRounding < 1 := by
    unfold lastDigitRounding microRounding
    norm_num
  exact mt (abs_sub_turns_le_iff h1 hsmall).mp (not_le.mpr h)

/-- A number of seconds that is not none, up to half a second. -/
theorem not_nearTurns_of_seconds {x : ℚ} {z : ℤ} (hz : z ≠ 0) (hz' : |z| ≤ 100000)
    (h : |x * 3600 - z| ≤ 1 / 2) : ¬NearTurns x := by
  have hone : (1 : ℚ) ≤ |(z : ℚ)| := by exact_mod_cast Int.one_le_abs hz
  have hmax : |(z : ℚ)| ≤ 100000 := by exact_mod_cast hz'
  have hlow := abs_sub_abs_le_abs_sub (z : ℚ) (x * 3600)
  have hhigh := abs_sub_abs_le_abs_sub (x * 3600) (z : ℚ)
  rw [abs_sub_comm (z : ℚ)] at hlow
  rw [abs_mul, abs_of_pos (by norm_num : (0 : ℚ) < 3600)] at hlow hhigh
  refine not_nearTurns ?_ (by linarith)
  unfold lastDigitRounding microRounding
  linarith

/-! ## Groups of digits -/

namespace CAngle

theorem toInt_of_toInt? {s : QString} {v : Int32} (h : s.toInt? = some v) : s.toInt = v := by
  unfold QString.toInt? at h
  unfold QString.toInt QString.toIntegral
  cases hread : readInt 10 s.trimmed with
  | none =>
      rw [hread] at h
      cases h
  | some n =>
      rw [hread] at h
      dsimp only at h ⊢
      by_cases hbounds : -2147483648 ≤ n ∧ n ≤ 2147483647
      · rw [if_pos hbounds] at h ⊢
        exact Option.some.inj h
      · rw [if_neg hbounds] at h
        cases h

theorem toInt_digits {digits : QString} {n : ℕ} (hread : readNat 10 digits = some n)
    (hdigits : ∀ c ∈ digits, ∃ d < 10, c = Nat.digitChar d) (hn : n ≤ 2147483647) :
    digits.toInt.toInt = n := by
  rw [toInt_of_toInt? (QString.toInt?_digits hread hdigits hn),
    Int32.toInt_ofInt_of_le (by omega) (by omega)]

theorem toInt_lastDigits {p : ℕ} (hp : p ≠ 0) (hp9 : p ≤ 9) (n : ℕ) :
    (QString.toInt (lastDigits p n)).toInt = (n % 10 ^ p : ℕ) := by
  have hlt : n % 10 ^ p < 10 ^ 9 :=
    (Nat.mod_lt n (by positivity)).trans_le (Nat.pow_le_pow_right (by omega) hp9)
  exact toInt_digits (readNat_lastDigits_mod hp n) (fun c hc => mem_lastDigits hc) (by omega)

/-- The text of a number below a thousand, in five parts. -/
theorem packedText_eq {x : ℚ} (hx : 0 ≤ x) {k : ℕ} (hk : roundHalfUp (x * 10 ^ 10) = k) :
    packedText x = (natText 10 (k / 10 ^ 10)).leftpad 3 '0' ++ '.' ::
      (lastDigits 2 (k / 10 ^ 8) ++ (lastDigits 2 (k / 10 ^ 6) ++ lastDigits 6 k)) := by
  have hdigits : lastDigits 10 k =
      lastDigits 2 (k / 10 ^ 8) ++ (lastDigits 2 (k / 10 ^ 6) ++ lastDigits 6 k) := by
    rw [← lastDigits_add 2 6 k, ← lastDigits_add 2 8 k]
  have htext : QString.numberFixed x 10 = natText 10 (k / 10 ^ 10) ++ '.' :: lastDigits 10 k := by
    have hk' : roundHalfUp (|x| * 10 ^ 10) = k := by rwa [abs_of_nonneg hx]
    rw [QString.numberFixed, fixedText_eq (by omega) hk', if_neg (not_lt.mpr hx)]
    rfl
  have hlength : 14 - (natText 10 (k / 10 ^ 10) ++ '.' :: lastDigits 10 k).length =
      3 - (natText 10 (k / 10 ^ 10)).length := by
    rw [List.length_append, List.length_cons, length_lastDigits]
    omega
  rw [packedText, htext, List.leftpad, hlength, ← List.append_assoc, hdigits]
  rfl

theorem length_leftpad_natText {p n : ℕ} (hp : p ≠ 0) (hn : n < 10 ^ p) :
    ((natText 10 n).leftpad p '0').length = p := by
  have hle := length_natText_le hp hn
  rw [List.leftpad, List.length_append, List.length_replicate]
  omega

/-- The parts are groups of digits of the rounded number. -/
theorem parts_of_roundHalfUp {dms : ℚ} {k : ℕ} (hk : roundHalfUp (|dms| * 10 ^ 10) = k)
    (hlt : k < 10 ^ 13) :
    partsOf dms =
      { sign := if dms < 0 then -1 else 1
        deg := (k / 10 ^ 10 : ℕ)
        min := (k / 10 ^ 8 % 100 : ℕ)
        sec := (k / 10 ^ 6 % 100 : ℕ)
        fractionalSec := (k % 10 ^ 6 : ℕ) / 1000000 } := by
  -- The source multiplies by minus one for the magnitude.
  have habs : (if dms < 0 then dms * -1 else dms) = |dms| := by
    split_ifs with hneg
    · rw [abs_of_neg hneg, mul_neg_one]
    · rw [abs_of_nonneg (not_lt.mp hneg)]
  have hdeg : k / 10 ^ 10 < 10 ^ 3 := by omega
  have hwhole := length_leftpad_natText (by omega) hdeg
  have htext := packedText_eq (abs_nonneg dms) hk
  have hmin := length_lastDigits 2 (k / 10 ^ 8)
  have hsec := length_lastDigits 2 (k / 10 ^ 6)
  have hmicro := length_lastDigits 6 k
  have hdegText : (QString.toInt ((natText 10 (k / 10 ^ 10)).leftpad 3 '0')).toInt =
      (k / 10 ^ 10 : ℕ) :=
    toInt_digits (readNat_leftpad _ _) (fun c hc => mem_leftpad hc) (by omega)
  have hminText := toInt_lastDigits (p := 2) (by omega) (by omega) (k / 10 ^ 8)
  have hsecText := toInt_lastDigits (p := 2) (by omega) (by omega) (k / 10 ^ 6)
  have hmicroText := toInt_lastDigits (p := 6) (by omega) (by omega) k
  rw [partsOf, habs, htext]
  generalize (natText 10 (k / 10 ^ 10)).leftpad 3 '0' = whole at hwhole hdegText ⊢
  generalize lastDigits 2 (k / 10 ^ 8) = minText at hmin hminText ⊢
  generalize lastDigits 2 (k / 10 ^ 6) = secText at hsec hsecText ⊢
  generalize lastDigits 6 k = microText at hmicro hmicroText ⊢
  -- The text has thirteen digits and a point, and the source takes it apart by position.
  rcases List.length_eq_three.mp hwhole with ⟨a, b, c, rfl⟩
  rcases List.length_eq_two.mp hmin with ⟨d, e, rfl⟩
  rcases List.length_eq_two.mp hsec with ⟨f, g, rfl⟩
  have hmicroMid : QString.mid ([a, b, c] ++ '.' :: ([d, e] ++ ([f, g] ++ microText))) 8 6 =
      microText := List.take_of_length_le hmicro.le
  rw [hmicroMid, hmicroText]
  simp only [DegMinSecFractionalSec.mk.injEq, true_and]
  exact ⟨hdegText, hminText, hsecText, by rw [Int.cast_natCast]⟩

/-- The parts as the digits of degrees, minutes and millionths of seconds. -/
theorem decomposes_parts_iff {dms degrees : ℚ} {D P W : ℕ}
    (hk : roundHalfUp (|dms| * 10 ^ 10) = D * 10 ^ 10 + P * 10 ^ 8 + W) (hD : D < 1000)
    (hP : P < 100) (hW : W < 10 ^ 8) :
    Decomposes (partsOf dms) degrees ↔ D ≤ 180 ∧ P < 60 ∧ W < 60 * 10 ^ 6 ∧
      NearTurns ((if dms < 0 then -1 else 1) * (D + P / 60 + W / 10 ^ 6 / 3600) - degrees) := by
  -- The groups of digits are the parts.
  have hdeg : (D * 10 ^ 10 + P * 10 ^ 8 + W) / 10 ^ 10 = D := by omega
  have hmin : (D * 10 ^ 10 + P * 10 ^ 8 + W) / 10 ^ 8 % 100 = P := by omega
  have hsec : (D * 10 ^ 10 + P * 10 ^ 8 + W) / 10 ^ 6 % 100 = W / 10 ^ 6 := by omega
  have hmicro : (D * 10 ^ 10 + P * 10 ^ 8 + W) % 10 ^ 6 = W % 10 ^ 6 := by omega
  have hseconds : ((W / 10 ^ 6 : ℕ) : ℚ) + (W % 10 ^ 6 : ℕ) / 1000000 = W / 10 ^ 6 := by
    have hsplit : ((10 ^ 6 * (W / 10 ^ 6) + W % 10 ^ 6 : ℕ) : ℚ) = W := by
      exact_mod_cast Nat.div_add_mod W (10 ^ 6)
    rw [← hsplit]
    push_cast
    ring
  have hmicro1 : ((W % 10 ^ 6 : ℕ) : ℚ) < 1000000 := by
    exact_mod_cast Nat.mod_lt W (by omega)
  rw [parts_of_roundHalfUp hk (by omega), hdeg, hmin, hsec, hmicro]
  -- Recomposed, the parts are the number of degrees again.
  have hrecomposed : DegMinSecFractionalSec.recomposed
      { sign := if dms < 0 then -1 else 1, deg := D, min := P, sec := (W / 10 ^ 6 : ℕ),
        fractionalSec := (W % 10 ^ 6 : ℕ) / 1000000 } =
      (if dms < 0 then -1 else 1) * (D + P / 60 + W / 10 ^ 6 / 3600) := by
    unfold DegMinSecFractionalSec.recomposed
    dsimp only
    rw [Int.cast_natCast, Int.cast_natCast, Int.cast_natCast, hseconds]
    push_cast
    rfl
  constructor
  · intro h
    refine ⟨Int.ofNat_le.mp h.deg.2, ?_, ?_, hrecomposed ▸ h.recomposed⟩
    · have hle : (P : ℤ) ≤ 59 := h.min.2
      omega
    · have hle : ((W / 10 ^ 6 : ℕ) : ℤ) ≤ 59 := h.sec.2
      omega
  · rintro ⟨hdegrees, hminutes, hmicros, hnear⟩
    refine ⟨⟨Int.natCast_nonneg D, Int.ofNat_le.mpr hdegrees⟩, ⟨Int.natCast_nonneg P, ?_⟩,
      ⟨Int.natCast_nonneg _, ?_⟩, ⟨by positivity, ?_⟩, hrecomposed ▸ hnear⟩
    · change (P : ℤ) ≤ 59
      omega
    · change ((W / 10 ^ 6 : ℕ) : ℤ) ≤ 59
      omega
    · exact (div_lt_one (by norm_num)).mpr hmicro1

/-! ## Reduction -/

theorem fmod_turns (q : ℕ) {r : ℚ} (h0 : 0 ≤ r) (h1 : r < 360) : fmod (360 * q + r) 360 = r := by
  have hdiv : (360 * q + r) / 360 = q + r / 360 := by
    rw [add_div, mul_div_cancel_left₀ _ (by norm_num)]
  unfold fmod
  rw [hdiv, integerPart_add (by positivity) (by linarith), Int.cast_natCast]
  ring

theorem reduced180_of_nonneg {x f : ℚ} (h : fmod (x + 180) 360 = f) (hf : 0 ≤ f) :
    reduced180 x = f - 180 := by
  unfold reduced180
  rw [h]
  dsimp only
  rw [if_neg (not_lt.mpr hf), sub_eq_add_neg]

theorem reduced180_of_neg {x f : ℚ} (h : fmod (x + 180) 360 = f) (hf : f < 0) :
    reduced180 x = f + 180 := by
  unfold reduced180
  rw [h]
  dsimp only
  rw [if_pos hf]

variable {q : ℕ} {r : ℚ}

theorem reduced180_of_lt (h0 : 0 ≤ r) (h : r < 180) :
    reduced180 (360 * q + r) = r ∧ reduced180 (-(360 * q + r)) = -r := by
  constructor
  · have hfmod : fmod (360 * q + r + 180) 360 = r + 180 := by
      rw [add_assoc]
      exact fmod_turns q (by linarith) (by linarith)
    rw [reduced180_of_nonneg hfmod (by linarith)]
    ring
  · cases q with
    | zero =>
        have hfmod : fmod (-(360 * (0 : ℕ) + r) + 180) 360 = 180 - r := by
          rw [show -(360 * ((0 : ℕ) : ℚ) + r) + 180 = 360 * (0 : ℕ) + (180 - r) by push_cast; ring]
          exact fmod_turns 0 (by linarith) (by linarith)
        rw [reduced180_of_nonneg hfmod (by linarith)]
        ring
    | succ q =>
        have hfmod : fmod (-(360 * (q + 1 : ℕ) + r) + 180) 360 = -(r + 180) := by
          rw [show -(360 * ((q + 1 : ℕ) : ℚ) + r) + 180 = -(360 * q + (r + 180)) by push_cast; ring,
            fmod_neg, fmod_turns q (by linarith) (by linarith)]
        rw [reduced180_of_neg hfmod (by linarith)]
        ring

/-- Beyond 180 degrees the sign changes. -/
theorem reduced180_of_gt (h : 180 < r) (h1 : r < 360) :
    reduced180 (360 * q + r) = -(360 - r) ∧ reduced180 (-(360 * q + r)) = 360 - r := by
  constructor
  · have hfmod : fmod (360 * q + r + 180) 360 = r - 180 := by
      rw [show 360 * (q : ℚ) + r + 180 = 360 * (q + 1 : ℕ) + (r - 180) by push_cast; ring]
      exact fmod_turns (q + 1) (by linarith) (by linarith)
    rw [reduced180_of_nonneg hfmod (by linarith)]
    ring
  · have hfmod : fmod (-(360 * q + r) + 180) 360 = -(r - 180) := by
      rw [show -(360 * (q : ℚ) + r) + 180 = -(360 * q + (r - 180)) by ring, fmod_neg,
        fmod_turns q (by linarith) (by linarith)]
    rw [reduced180_of_neg hfmod (by linarith)]
    ring

/-- Half a turn is negative. -/
theorem reduced180_half (q : ℕ) :
    reduced180 (360 * q + 180) = -180 ∧ reduced180 (-(360 * q + 180)) = -180 := by
  constructor
  · have hfmod : fmod (360 * q + 180 + 180) 360 = 0 := by
      rw [show 360 * (q : ℚ) + 180 + 180 = 360 * (q + 1 : ℕ) + 0 by push_cast; ring]
      exact fmod_turns (q + 1) (le_refl 0) (by norm_num)
    rw [reduced180_of_nonneg hfmod (le_refl 0), zero_sub]
  · have hfmod : fmod (-(360 * q + 180) + 180) 360 = 0 := by
      rw [show -(360 * (q : ℚ) + 180) + 180 = -(360 * q + 0) by ring, fmod_neg,
        fmod_turns q (le_refl 0) (by norm_num), neg_zero]
    rw [reduced180_of_nonneg hfmod (le_refl 0), zero_sub]

/-! ## Values of given digits -/

/-- Up to here seconds are not rounded to sixty. -/
def secondsLimit : ℚ := 60 - microRounding

section Digits

variable {q M p : ℕ} {s : ℚ} {d₁ d₂ : ℤ}

theorem roundHalfUp_digits (hs0 : 0 ≤ s) : roundHalfUp ((M + p / 100 + s / 10000) * 10 ^ 10) =
    M * 10 ^ 10 + p * 10 ^ 8 + roundHalfUp (s * 10 ^ 6) := by
  have heq : (M + p / 100 + s / 10000) * 10 ^ 10 =
      ((M * 10 ^ 10 + p * 10 ^ 8 : ℕ) : ℚ) + s * 10 ^ 6 := by
    push_cast
    ring
  rw [heq, roundHalfUp_add _ (by positivity)]

/-- The digits of what is missing to a turn. Half of the last digit goes up, so the digits that are
    taken off are those rounded down. -/
theorem roundHalfUp_turn_digits (hM : M < 360) (hp : p ≤ 99) (hs0 : 0 ≤ s) (hs1 : s < 100) :
    ∃ t : ℕ, t ≤ 10 ^ 8 ∧ |(t : ℚ) / 10 ^ 6 - s| ≤ microRounding ∧ (t = 0 ↔ s ≤ microRounding) ∧
      roundHalfUp ((360 - (M + p / 100 + s / 10000)) * 10 ^ 10) =
        (360 - M) * 10 ^ 10 - p * 10 ^ 8 - t := by
  have hle : p * 10 ^ 8 ≤ (360 - M) * 10 ^ 10 := by omega
  have hcast : (((360 - M) * 10 ^ 10 - p * 10 ^ 8 : ℕ) : ℚ) = (360 - M) * 10 ^ 10 - p * 10 ^ 8 := by
    rw [Nat.cast_sub hle, Nat.cast_mul, Nat.cast_sub hM.le]
    push_cast
    ring
  have heq : (360 - (M + p / 100 + s / 10000)) * 10 ^ 10 =
      (((360 - M) * 10 ^ 10 - p * 10 ^ 8 : ℕ) : ℚ) - s * 10 ^ 6 := by
    rw [hcast]
    ring
  -- The seconds are less than what is missing to the turn.
  have hroom : s * 10 ^ 6 ≤ (((360 - M) * 10 ^ 10 - p * 10 ^ 8 : ℕ) : ℚ) := by
    have hnat : 10 ^ 8 ≤ (360 - M) * 10 ^ 10 - p * 10 ^ 8 := by omega
    have hrat : (10 ^ 8 : ℚ) ≤ (((360 - M) * 10 ^ 10 - p * 10 ^ 8 : ℕ) : ℚ) := by
      exact_mod_cast hnat
    linarith
  rcases roundHalfUp_sub (by positivity) hroom with ⟨t, -, hnear, hzero, hround⟩
  have hnear' := abs_le.mp hnear
  have hbound : (t : ℚ) < (10 ^ 8 + 1 : ℕ) := by
    push_cast
    linarith
  unfold microRounding
  refine ⟨t, Nat.le_of_lt_succ (by exact_mod_cast hbound), ?_, hzero.trans ?_, heq ▸ hround⟩
  · rw [abs_le]
    constructor <;> linarith
  · constructor <;> intro h <;> linarith

theorem micros_le (hs0 : 0 ≤ s) (hs1 : s < 100) : roundHalfUp (s * 10 ^ 6) ≤ 10 ^ 8 := by
  refine roundHalfUp_le (by positivity) ?_
  linarith

theorem micros_lt_iff (hs0 : 0 ≤ s) :
    roundHalfUp (s * 10 ^ 6) < 60 * 10 ^ 6 ↔ s < secondsLimit := by
  rw [roundHalfUp_lt_iff (by positivity)]
  unfold secondsLimit microRounding
  constructor <;> intro h <;> linarith

/-- The seconds up to the rounding. -/
theorem abs_micros_sub_le (hs0 : 0 ≤ s) :
    |(roundHalfUp (s * 10 ^ 6) : ℚ) / 10 ^ 6 - s| ≤ microRounding := by
  have hnear := abs_sub_roundHalfUp_le (show 0 ≤ s * 10 ^ 6 by positivity)
  rcases abs_le.mp hnear with ⟨hlow, hhigh⟩
  rw [abs_le]
  unfold microRounding
  constructor <;> linarith

/-- A value that keeps its sign and its magnitude: what its digits have to be. -/
theorem decomposes_kept_iff {r b : ℚ} (hr : 0 ≤ r) {sgn : ℚ} (hsgn : sgn = 1 ∨ sgn = -1)
    {D P W : ℕ} (hk : roundHalfUp (r * 10 ^ 10) = D * 10 ^ 10 + P * 10 ^ 8 + W) (hD : D < 1000)
    (hP : P < 100) (hW : W < 10 ^ 8) :
    Decomposes (partsOf (sgn * r)) (sgn * (360 * q + b)) ↔ D ≤ 180 ∧ P < 60 ∧ W < 60 * 10 ^ 6 ∧
      NearTurns (D + P / 60 + W / 10 ^ 6 / 3600 - b) := by
  have habs : |sgn * r| = r := by
    rcases hsgn with rfl | rfl
    · rw [one_mul, abs_of_nonneg hr]
    · rw [neg_one_mul, abs_neg, abs_of_nonneg hr]
  have hk' : roundHalfUp (|sgn * r| * 10 ^ 10) = D * 10 ^ 10 + P * 10 ^ 8 + W := by rwa [habs]
  rw [decomposes_parts_iff hk' hD hP hW]
  generalize hV : (D : ℚ) + P / 60 + W / 10 ^ 6 / 3600 = V
  -- The sign is the same on both sides, and full turns do not matter.
  have hsame : NearTurns ((if sgn * r < 0 then -1 else 1) * V - sgn * (360 * q + b)) ↔
      NearTurns (V - b) := by
    have hturns := nearTurns_add_turns (x := V - b) (-(q : ℤ))
    push_cast at hturns
    rcases hsgn with rfl | rfl
    · rw [if_neg (by linarith), ← hturns]
      exact iff_of_eq (congrArg NearTurns (by ring))
    · rw [← hturns, ← nearTurns_neg]
      rcases hr.lt_or_eq with hpos | rfl
      · rw [if_pos (by linarith)]
        exact iff_of_eq (congrArg NearTurns (by ring))
      · -- Nothing has no sign, and no digits.
        rw [zero_mul, show (0 : ℚ) = (0 : ℕ) from rfl, roundHalfUp_natCast] at hk
        have hzero : V = 0 := by
          obtain ⟨rfl, rfl, rfl⟩ : D = 0 ∧ P = 0 ∧ W = 0 := by omega
          rw [← hV]
          norm_num
        rw [hzero]
        exact iff_of_eq (congrArg NearTurns (by ring))
  rw [hsame]

/-- A value that changes its sign for what is missing to a turn. -/
theorem decomposes_turned_iff {r b : ℚ} (hr : r < 360) {sgn : ℚ} (hsgn : sgn = 1 ∨ sgn = -1)
    {D P W : ℕ} (hk : roundHalfUp ((360 - r) * 10 ^ 10) = D * 10 ^ 10 + P * 10 ^ 8 + W)
    (hD : D < 1000) (hP : P < 100) (hW : W < 10 ^ 8) :
    Decomposes (partsOf (-sgn * (360 - r))) (sgn * (360 * q + b)) ↔
      D ≤ 180 ∧ P < 60 ∧ W < 60 * 10 ^ 6 ∧ NearTurns (D + P / 60 + W / 10 ^ 6 / 3600 + b) := by
  have habs : |-sgn * (360 - r)| = 360 - r := by
    rcases hsgn with rfl | rfl
    · rw [neg_one_mul, abs_neg, abs_of_pos (by linarith)]
    · rw [neg_neg, one_mul, abs_of_pos (by linarith)]
  have hk' : roundHalfUp (|-sgn * (360 - r)| * 10 ^ 10) = D * 10 ^ 10 + P * 10 ^ 8 + W := by
    rwa [habs]
  rw [decomposes_parts_iff hk' hD hP hW]
  generalize (D : ℚ) + P / 60 + W / 10 ^ 6 / 3600 = V
  -- Turns and the common sign do not matter.
  have hsame : NearTurns ((if -sgn * (360 - r) < 0 then -1 else 1) * V - sgn * (360 * q + b)) ↔
      NearTurns (V + b) := by
    have hturns := nearTurns_add_turns (x := V + b) (q : ℤ)
    rw [Int.cast_natCast] at hturns
    rcases hsgn with rfl | rfl
    · rw [if_pos (by linarith), ← hturns, ← nearTurns_neg]
      exact iff_of_eq (congrArg NearTurns (by ring))
    · rw [if_neg (by linarith), ← hturns]
      exact iff_of_eq (congrArg NearTurns (by ring))
  rw [hsame]

variable {sgn : ℚ} (hsgn : sgn = 1 ∨ sgn = -1) (hp : p ≤ 99) (hs0 : 0 ≤ s) (hs1 : s < 100)
  (h₁ : |d₁| ≤ 1) (h₂ : |d₂| ≤ 1) (hd : s < secondsLimit → d₁ = 0 ∧ d₂ = 0)

include hsgn hp hs0 hs1 h₁ h₂ hd

/-- Below 180 degrees the parts are those of the angle unless they are not proper or the seconds
    are rounded to sixty. `d₁` and `d₂` are what the conversion of the unit adds. -/
theorem decomposes_below (hM : M < 180) :
    Decomposes (partsOf (sgn * (M + p / 100 + s / 10000)))
        (sgn * (360 * q + (M + d₁ + (p + d₂) / 60 + s / 3600))) ↔ p < 60 ∧ s < secondsLimit := by
  have hr : 0 ≤ (M : ℚ) + p / 100 + s / 10000 := by positivity
  have hk := roundHalfUp_digits (M := M) (p := p) hs0
  have hmicros := micros_lt_iff hs0
  have hnear := abs_micros_sub_le hs0
  have hle := micros_le hs0 hs1
  have hd₁ := abs_le.mp h₁
  have hd₂ := abs_le.mp h₂
  generalize roundHalfUp (s * 10 ^ 6) = T at hk hmicros hnear hle
  rcases hle.lt_or_eq with hT | rfl
  · -- The digits are kept, and are proper parts where they are below sixty.
    rw [decomposes_kept_iff hr hsgn hk (by omega) (by omega) hT, hmicros]
    constructor
    · exact fun h => ⟨h.2.1, h.2.2.1⟩
    · rintro ⟨hmin, hsec⟩
      rcases hd hsec with ⟨rfl, rfl⟩
      refine ⟨by omega, hmin, hsec, nearTurns_of_abs_le ?_⟩
      have heq : (M : ℚ) + p / 60 + T / 10 ^ 6 / 3600 -
          (M + (0 : ℤ) + (p + (0 : ℤ)) / 60 + s / 3600) = (T / 10 ^ 6 - s) / 3600 := by
        ring
      rw [heq, abs_div]
      exact div_le_div_of_nonneg_right hnear (by norm_num)
  · -- The seconds are rounded to a hundred, which is one more of the minutes.
    have hsec : ¬(p < 60 ∧ s < secondsLimit) := fun h => absurd (hmicros.mpr h.2) (by omega)
    rcases abs_le.mp hnear with ⟨hlow, hhigh⟩
    unfold microRounding at hlow hhigh
    norm_num at hlow hhigh
    refine iff_of_false (fun h => ?_) hsec
    by_cases hp' : p < 99
    · have hk' : roundHalfUp ((M + p / 100 + s / 10000) * 10 ^ 10) =
          M * 10 ^ 10 + (p + 1) * 10 ^ 8 + 0 := by
        rw [hk]
        omega
      rw [decomposes_kept_iff hr hsgn hk' (by omega) (by omega) (by omega)] at h
      refine absurd h.2.2.2 (not_nearTurns_of_seconds (z := 60 * (1 - d₂) - 3600 * d₁ - 100)
        (by omega) (by rw [abs_le]; omega) ?_)
      rw [abs_le]
      push_cast
      constructor <;> linarith
    · obtain rfl : p = 99 := by omega
      have hk' : roundHalfUp ((M + (99 : ℕ) / 100 + s / 10000) * 10 ^ 10) =
          (M + 1) * 10 ^ 10 + 0 * 10 ^ 8 + 0 := by
        rw [hk]
        omega
      rw [decomposes_kept_iff hr hsgn hk' (by omega) (by omega) (by omega)] at h
      refine absurd h.2.2.2 (not_nearTurns_of_seconds (z := -2440 - 3600 * d₁ - 60 * d₂)
        (by omega) (by rw [abs_le]; omega) ?_)
      rw [abs_le]
      push_cast
      constructor <;> linarith

/-- Beyond 180 degrees the minutes and seconds are missing to a hundred and not to sixty: only whole
    degrees are those of the angle. -/
theorem decomposes_beyond (hM : M < 360) (hbeyond : 180 < (M : ℚ) + p / 100 + s / 10000) :
    Decomposes (partsOf (-sgn * (360 - (M + p / 100 + s / 10000))))
        (sgn * (360 * q + (M + d₁ + (p + d₂) / 60 + s / 3600))) ↔ p = 0 ∧ s ≤ microRounding := by
  have hp' : (p : ℚ) ≤ 99 := by exact_mod_cast hp
  have hM' : (M : ℚ) ≤ 359 := by exact_mod_cast Nat.le_of_lt_succ hM
  have hr : (M : ℚ) + p / 100 + s / 10000 < 360 := by linarith
  have hM180 : 180 ≤ M := by
    have hlt : (179 : ℚ) < M := by linarith
    exact_mod_cast Nat.succ_le_of_lt (by exact_mod_cast hlt)
  rcases roundHalfUp_turn_digits hM hp hs0 hs1 with ⟨T, hle, hnear, hzero, hk⟩
  have hd₁ := abs_le.mp h₁
  have hd₂ := abs_le.mp h₂
  have hcast : ((360 - M : ℕ) : ℚ) = 360 - M ∧ ((359 - M : ℕ) : ℚ) = 359 - M := by
    constructor
    · exact Nat.cast_sub hM.le
    · exact Nat.cast_sub (Nat.le_of_lt_succ hM)
  rw [← hzero]
  rcases abs_le.mp hnear with ⟨hlow, hhigh⟩
  unfold microRounding at hlow hhigh
  norm_num at hlow hhigh
  rcases Nat.eq_zero_or_pos T with rfl | hT
  · rcases Nat.eq_zero_or_pos p with rfl | hpos
    · -- Whole degrees.
      have hk' : roundHalfUp ((360 - (M + (0 : ℕ) / 100 + s / 10000)) * 10 ^ 10) =
          (360 - M) * 10 ^ 10 + 0 * 10 ^ 8 + 0 := by
        rw [hk]
        omega
      have hsec : s < secondsLimit := by
        unfold secondsLimit microRounding
        linarith
      rcases hd hsec with ⟨rfl, rfl⟩
      rw [decomposes_turned_iff hr hsgn hk' (by omega) (by omega) (by omega)]
      refine iff_of_true ⟨by omega, by omega, by omega, ?_⟩ ⟨rfl, rfl⟩
      rw [← nearTurns_add_turns (-1)]
      refine nearTurns_of_abs_le ?_
      rw [abs_le]
      unfold lastDigitRounding microRounding
      push_cast
      constructor <;> linarith
    · -- Whole minutes are missing to a hundred, which is 40 minutes too many.
      have hk' : roundHalfUp ((360 - (M + p / 100 + s / 10000)) * 10 ^ 10) =
          (359 - M) * 10 ^ 10 + (100 - p) * 10 ^ 8 + 0 := by
        rw [hk]
        omega
      refine iff_of_false (fun h => ?_) (fun h => by omega)
      rw [decomposes_turned_iff hr hsgn hk' (by omega) (by omega) (by omega)] at h
      have hfar := h.2.2.2
      rw [← nearTurns_add_turns (-1)] at hfar
      refine absurd hfar (not_nearTurns_of_seconds (z := 2400 + 3600 * d₁ + 60 * d₂)
        (by omega) (by rw [abs_le]; omega) ?_)
      rw [hcast.2, Nat.cast_sub (by omega), abs_le]
      push_cast
      constructor <;> linarith
  · -- So are seconds, and 40 seconds in addition.
    have hk' : roundHalfUp ((360 - (M + p / 100 + s / 10000)) * 10 ^ 10) =
        (359 - M) * 10 ^ 10 + (99 - p) * 10 ^ 8 + (10 ^ 8 - T) := by
      rw [hk]
      omega
    refine iff_of_false (fun h => ?_) (fun h => by omega)
    rw [decomposes_turned_iff hr hsgn hk' (by omega) (by omega) (by omega)] at h
    have hfar := h.2.2.2
    rw [← nearTurns_add_turns (-1)] at hfar
    refine absurd hfar (not_nearTurns_of_seconds (z := 2440 + 3600 * d₁ + 60 * d₂)
      (by omega) (by rw [abs_le]; omega) ?_)
    rw [Nat.cast_sub hp, Nat.cast_sub hle, abs_le]
    push_cast
    constructor <;> linarith

omit hp hs0 hs1 h₁ h₂ hd in
/-- Half a turn is half a turn in either direction. -/
theorem decomposes_half : Decomposes (partsOf (-180)) (sgn * (360 * q + 180)) := by
  have hk : roundHalfUp (|(-180 : ℚ)| * 10 ^ 10) = 180 * 10 ^ 10 + 0 * 10 ^ 8 + 0 := by
    have heq : |(-180 : ℚ)| * 10 ^ 10 = (1800000000000 : ℕ) := by
      norm_num
    rw [heq, roundHalfUp_natCast]
    norm_num
  rw [decomposes_parts_iff hk (by omega) (by omega) (by omega)]
  refine ⟨le_refl 180, by omega, by omega, ?_⟩
  have hrounding : (0 : ℚ) ≤ lastDigitRounding := by
    unfold lastDigitRounding microRounding
    norm_num
  rw [if_pos (by norm_num)]
  rcases hsgn with rfl | rfl
  · refine ⟨-(q + 1), ?_⟩
    push_cast
    ring_nf
    rwa [abs_zero]
  · refine ⟨q, ?_⟩
    push_cast
    ring_nf
    rwa [abs_zero]

/-- The digits of a value that is given the parts of its angle. -/
theorem decomposes_iff_of_digits {N : ℕ} :
    Decomposes (partsOf (reduced180 (sgn * (N + p / 100 + s / 10000))))
        (sgn * (N + d₁ + (p + d₂) / 60 + s / 3600)) ↔ N % 360 < 180 ∧ p < 60 ∧ s < secondsLimit ∨
        180 ≤ N % 360 ∧ p = 0 ∧ s ≤ microRounding := by
  have hp' : (p : ℚ) ≤ 99 := by exact_mod_cast hp
  have hturns : (N : ℚ) = 360 * (N / 360 : ℕ) + (N % 360 : ℕ) := by
    exact_mod_cast (Nat.div_add_mod N 360).symm
  have hM : N % 360 < 360 := Nat.mod_lt N (by omega)
  generalize N / 360 = q at hturns
  generalize N % 360 = M at hturns hM ⊢
  have hpacked : (N : ℚ) + p / 100 + s / 10000 = 360 * q + (M + p / 100 + s / 10000) := by
    rw [hturns]
    ring
  have hdegrees : (N : ℚ) + d₁ + (p + d₂) / 60 + s / 3600 =
      360 * q + (M + d₁ + (p + d₂) / 60 + s / 3600) := by
    rw [hturns]
    ring
  rw [hpacked, hdegrees]
  -- From 180 degrees on the angle is turned round.
  rcases Nat.lt_or_ge M 180 with hlow | hhigh
  · have hM' : (M : ℚ) ≤ 179 := by exact_mod_cast Nat.le_of_lt_succ hlow
    have hkept := reduced180_of_lt (q := q) (r := M + p / 100 + s / 10000) (by positivity)
      (by linarith)
    have hsame : reduced180 (sgn * (360 * q + (M + p / 100 + s / 10000))) =
        sgn * (M + p / 100 + s / 10000) := by
      rcases hsgn with rfl | rfl
      · rw [one_mul, one_mul, hkept.1]
      · rw [neg_one_mul, neg_one_mul, hkept.2]
    rw [hsame, decomposes_below hsgn hp hs0 hs1 h₁ h₂ hd hlow, and_iff_right hlow,
      or_iff_left (fun h => absurd h.1 (not_le.mpr hlow))]
  · have hM' : (180 : ℚ) ≤ M := by exact_mod_cast hhigh
    rw [and_iff_right hhigh, or_iff_right (fun h => absurd h.1 (not_lt.mpr hhigh))]
    have hM359 : (M : ℚ) ≤ 359 := by exact_mod_cast Nat.le_of_lt_succ hM
    rcases (show (180 : ℚ) ≤ M + p / 100 + s / 10000 by linarith).lt_or_eq with hbeyond | hhalf
    · have hturned := reduced180_of_gt (q := q) hbeyond (by linarith)
      have hsame : reduced180 (sgn * (360 * q + (M + p / 100 + s / 10000))) =
          -sgn * (360 - (M + p / 100 + s / 10000)) := by
        rcases hsgn with rfl | rfl
        · rw [one_mul, neg_one_mul, hturned.1]
        · rw [neg_one_mul, neg_neg, one_mul, hturned.2]
      rw [hsame, decomposes_beyond hsgn hp hs0 hs1 h₁ h₂ hd hM hbeyond]
    · -- Half a turn has no minutes and no seconds.
      have hp0 : (p : ℚ) = 0 := by
        linarith
      have hs : s = 0 := by linarith
      have hM0 : (M : ℚ) = 180 := by linarith
      have hp0' : p = 0 := by exact_mod_cast hp0
      have hsec : s < secondsLimit := by
        rw [hs]
        unfold secondsLimit microRounding
        norm_num
      rcases hd hsec with ⟨rfl, rfl⟩
      have hreduced : reduced180 (sgn * (360 * q + (M + p / 100 + s / 10000))) = -180 := by
        rw [← hhalf]
        rcases hsgn with rfl | rfl
        · rw [one_mul, (reduced180_half q).1]
        · rw [neg_one_mul, (reduced180_half q).2]
      have hvalue : 360 * (q : ℚ) + (M + (0 : ℤ) + (p + (0 : ℤ)) / 60 + s / 3600) =
          360 * q + 180 := by
        rw [hM0, hp0, hs]
        norm_num
      rw [hreduced, hvalue, hs]
      refine iff_of_true (decomposes_half hsgn) ⟨hp0', ?_⟩
      unfold microRounding
      norm_num

end Digits

/-! ## Angles -/

variable (a : CAngle)

/-- What stands for sixty in the value of an angle. -/
def partsBase : ℚ := if a.unit = .sexagesimalDeg then 100 else 60

/-- The magnitude of which the parts are read: the value with its decimals, or the degrees. -/
def partsValue : ℚ :=
  if a.unit = .sexagesimalDeg then |a.m_value| else |a.valueIn .deg|

def degPart : ℤ := integerPart a.partsValue

def minPart : ℤ := integerPart (fract a.partsValue * a.partsBase)

def secPart : ℚ := fract (fract a.partsValue * a.partsBase) * a.partsBase

/-- Below 180 degrees, with minutes below sixty and seconds that are not rounded to sixty, or whole
    degrees beyond. -/
def DecomposesWell : Prop :=
  a.degPart % 360 < 180 ∧ a.minPart < 60 ∧ a.secPart < secondsLimit ∨
    180 ≤ a.degPart % 360 ∧ a.minPart = 0 ∧ a.secPart ≤ microRounding

instance (a : CAngle) : Decidable a.DecomposesWell := inferInstanceAs (Decidable (_ ∨ _))

/-- The parts of the magnitude. -/
theorem exists_angle_parts : ∃ (N m : ℕ) (f : ℚ), 0 ≤ f ∧ f < 1 ∧
    a.partsValue = N + (m + f) / a.partsBase ∧ (m + f) / a.partsBase < 1 ∧
    a.degPart = N ∧ a.minPart = m ∧ a.secPart = f * a.partsBase := by
  have hvalue : 0 ≤ a.partsValue := by
    unfold partsValue
    split <;> exact abs_nonneg _
  have hbase : 0 < a.partsBase := by
    unfold partsBase
    split <;> norm_num
  rcases CAngleUnit.exists_parts one_pos hvalue with ⟨N, e, hN, he0, he1, hfract⟩
  rw [one_mul] at hN
  rw [div_one] at hfract
  -- The same again for what is left, in the smaller unit.
  rcases CAngleUnit.exists_parts one_pos (mul_nonneg he0 hbase.le) with
      ⟨m, f, hm, hf0, hf1, hfract'⟩
  rw [one_mul] at hm
  rw [div_one] at hfract'
  have he : e = (m + f) / a.partsBase := by
    rw [eq_div_iff hbase.ne', hm]
  refine ⟨N, m, f, hf0, hf1, by rw [← he, hN], he ▸ he1, ?_, ?_, ?_⟩
  · rw [degPart, hN, integerPart_add he0 he1]
  · rw [minPart, hfract, hm, integerPart_add hf0 hf1]
  · rw [secPart, hfract, hfract']

/-- A number is its magnitude with a sign. -/
theorem exists_sign (x : ℚ) : ∃ sgn : ℚ, (sgn = 1 ∨ sgn = -1) ∧ x = sgn * |x| := by
  rcases le_total 0 x with h | h
  · exact ⟨1, .inl rfl, by rw [abs_of_nonneg h, one_mul]⟩
  · exact ⟨-1, .inr rfl, by rw [abs_of_nonpos h]; ring⟩

theorem decomposesWell_iff {a : CAngle} {N m : ℕ} {s : ℚ} (hdeg : a.degPart = N)
    (hmin : a.minPart = m) (hsec : a.secPart = s) :
    a.DecomposesWell ↔ N % 360 < 180 ∧ m < 60 ∧ s < secondsLimit ∨
      180 ≤ N % 360 ∧ m = 0 ∧ s ≤ microRounding := by
  unfold DecomposesWell
  rw [hdeg, hmin, hsec]
  have hlt : (N : ℤ) % 360 < 180 ↔ N % 360 < 180 := by omega
  have hle : 180 ≤ (N : ℤ) % 360 ↔ 180 ≤ N % 360 := by omega
  have hm : (m : ℤ) < 60 ↔ m < 60 := by omega
  have hm0 : (m : ℤ) = 0 ↔ m = 0 := by omega
  rw [hlt, hle, hm, hm0]

theorem abs_carry_le (e : ℚ) : |(carry e : ℤ)| ≤ 1 := by
  have hle := carry_le_one e
  rw [abs_le]
  omega

/-- An angle whose value has minutes and seconds for decimals. -/
theorem decomposes_iff_of_sexagesimalDeg {a : CAngle} (h : a.unit = .sexagesimalDeg) :
    Decomposes (a.asSexagesimalDegMinSec true) (a.valueIn .deg) ↔ a.DecomposesWell := by
  -- The value is its whole degrees, its digits of minutes and a fraction for the seconds.
  rcases exists_angle_parts a with ⟨N, m, f, hf0, hf1, hvalue, hlt, hdeg, hmin, hsec⟩
  have hbase : a.partsBase = 100 := if_pos h
  have habs : a.partsValue = |a.m_value| := if_pos h
  rw [hbase] at hvalue hlt hsec
  rw [habs] at hvalue
  rcases exists_sign a.m_value with ⟨sgn, hsgn, hsign⟩
  -- The packed form the digits are cut from has the sign of the value.
  have hpacked : a.valueIn .sexagesimalDeg = sgn * (N + m / 100 + f * 100 / 10000) := by
    unfold valueIn CAngleUnit.convertFrom
    rw [h, if_neg (by decide), if_pos rfl, hsign, hvalue]
    ring
  have hconverted : CTimeUnit.subdivision2ToDefault 1 |a.m_value| =
      N + (carry ((m + f) / 100) : ℤ) + (m + (carry f : ℤ)) / 60 + f * 100 / 3600 := by
    rw [hvalue, CAngleUnit.subdivision2ToDefault_digits hf0 hf1 hlt, Int.cast_natCast,
      Int.cast_natCast]
  have hdegrees : a.valueIn .deg = sgn * (N + (carry ((m + f) / 100) : ℤ) +
      (m + (carry f : ℤ)) / 60 + f * 100 / 3600) := by
    rw [← hconverted]
    unfold valueIn CAngleUnit.convertFrom
    rw [h]
    change CTimeUnit.subdivision2ToDefault 1 a.m_value = _
    rcases hsgn with rfl | rfl
    · rw [one_mul, ← one_mul |a.m_value|, ← hsign]
    · rw [neg_one_mul, ← CTimeUnit.subdivision2ToDefault_neg, ← neg_one_mul |a.m_value|, ← hsign]
  have hm : m ≤ 99 := by
    have hm' : (m : ℚ) < 100 := by linarith
    have hm'' : m < 100 := by exact_mod_cast hm'
    omega
  -- Proper seconds leave nothing to carry, so both conversions agree on the whole degrees.
  have hcarry : f * 100 < secondsLimit → (carry ((m + f) / 100) : ℤ) = 0 ∧ (carry f : ℤ) = 0 := by
    intro hlimit
    unfold secondsLimit microRounding at hlimit
    have hm' : (m : ℚ) ≤ 99 := by exact_mod_cast hm
    refine ⟨?_, ?_⟩
    · rw [Int.natCast_eq_zero, carry_eq_zero_iff]
      unfold truncEpsilon
      linarith
    · rw [Int.natCast_eq_zero, carry_eq_zero_iff]
      unfold truncEpsilon
      linarith
  rw [decomposesWell_iff hdeg hmin hsec, asSexagesimalDegMinSec, if_pos rfl, hpacked, hdegrees]
  exact decomposes_iff_of_digits hsgn hm (by positivity) (by linarith) (abs_carry_le _)
    (abs_carry_le _) hcarry

theorem valueIn_sexagesimalDeg {a : CAngle} (h : a.unit ≠ .sexagesimalDeg) :
    a.valueIn .sexagesimalDeg = CAngleUnit.subdivision2FromDefault 1 (a.valueIn .deg) := by
  rcases a with ⟨value, unit⟩
  cases unit with
  | null =>
      have hzero : fract 0 = 0 := by
        unfold fract integerPart
        norm_num
      have htrunc : trunc 0 = 0 := by
        have hcarry := trunc_add (n := 0) (le_refl (0 : ℚ)) one_pos
        rwa [carry_of_le (by norm_num), Nat.cast_zero, add_zero] at hcarry
      change (0 : ℚ) = CAngleUnit.subdivision2FromDefault 1 0
      unfold CAngleUnit.subdivision2FromDefault
      dsimp only
      rw [zero_div, fmod_one, hzero, zero_mul, htrunc, fmod_one, hzero]
      norm_num
  | sexagesimalDeg => exact absurd rfl h
  | rad | deg | sexagesimalDegMin => rfl

/-- An angle that is converted from degrees. -/
theorem decomposes_iff_of_degrees {a : CAngle} (h : a.unit ≠ .sexagesimalDeg) :
    Decomposes (a.asSexagesimalDegMinSec true) (a.valueIn .deg) ↔ a.DecomposesWell := by
  rcases exists_angle_parts a with ⟨N, m, f, hf0, hf1, hvalue, hlt, hdeg, hmin, hsec⟩
  have hbase : a.partsBase = 60 := if_neg h
  have habs : a.partsValue = |a.valueIn .deg| := if_neg h
  rw [hbase] at hvalue hlt hsec
  rw [habs] at hvalue
  rcases exists_sign (a.valueIn .deg) with ⟨sgn, hsgn, hsign⟩
  have hpart0 : 0 ≤ (m + f) / 60 := by positivity
  have hsixty : (m + f) / 60 * 60 = m + f := by ring
  have hconverted : CAngleUnit.subdivision2FromDefault 1 |a.valueIn .deg| =
      (N + carry ((m + f) / 60) : ℕ) + ((m + carry f : ℕ) + f * 60 / 100) / 100 := by
    rw [hvalue, ← one_mul ((N : ℚ) + (m + f) / 60)]
    exact CAngleUnit.subdivision2FromDefault_add one_pos hpart0 hlt hsixty hf0 hf1
  have hunits := valueIn_sexagesimalDeg h
  have hpacked : a.valueIn .sexagesimalDeg = sgn * ((N + carry ((m + f) / 60) : ℕ) +
      (m + carry f : ℕ) / 100 + f * 60 / 10000) := by
    have hodd : CAngleUnit.subdivision2FromDefault 1 (a.valueIn .deg) =
        sgn * CAngleUnit.subdivision2FromDefault 1 |a.valueIn .deg| := by
      rcases hsgn with rfl | rfl
      · rw [one_mul, ← one_mul |a.valueIn .deg|, ← hsign]
      · rw [neg_one_mul, ← CAngleUnit.subdivision2FromDefault_neg, ← neg_one_mul |a.valueIn .deg|,
          ← hsign]
    rw [hunits, hodd, hconverted]
    ring
  have hdegrees : a.valueIn .deg = sgn * ((N + carry ((m + f) / 60) : ℕ) +
      (-(carry ((m + f) / 60) : ℤ) : ℤ) + ((m + carry f : ℕ) + (-(carry f : ℤ) : ℤ)) / 60 +
        f * 60 / 3600) := by
    rw [hsign, hvalue]
    push_cast
    ring
  have hm : m < 60 := by
    have hm' : (m : ℚ) < 60 := by linarith
    exact_mod_cast hm'
  have hcarry : f * 60 < secondsLimit → carry ((m + f) / 60) = 0 ∧ carry f = 0 := by
    intro hlimit
    unfold secondsLimit microRounding at hlimit
    have hm' : (m : ℚ) ≤ 59 := by exact_mod_cast Nat.le_of_lt_succ hm
    refine ⟨?_, ?_⟩
    · rw [carry_eq_zero_iff]
      unfold truncEpsilon
      linarith
    · rw [carry_eq_zero_iff]
      unfold truncEpsilon
      linarith
  have hle := carry_le_one f
  rw [decomposesWell_iff hdeg hmin hsec, asSexagesimalDegMinSec, if_pos rfl, hpacked, hdegrees,
    decomposes_iff_of_digits hsgn (by omega) (by positivity) (by linarith)
      (by rw [abs_neg]; exact abs_carry_le _) (by rw [abs_neg]; exact abs_carry_le _)
      fun hlimit => by
        rcases hcarry hlimit with ⟨he, hf⟩
        rw [he, hf]
        exact ⟨rfl, rfl⟩]
  -- Where something is carried the seconds are next to sixty, and neither side holds.
  by_cases hlimit : f * 60 < secondsLimit
  · rcases hcarry hlimit with ⟨he, hf⟩
    rw [he, hf, Nat.add_zero, Nat.add_zero]
  · have hmicro : ¬f * 60 ≤ microRounding := by
      intro hsmall
      refine hlimit ?_
      unfold secondsLimit microRounding
      unfold microRounding at hsmall
      linarith
    simp [hlimit, hmicro]

theorem decomposes_iff :
    Decomposes (a.asSexagesimalDegMinSec true) (a.valueIn .deg) ↔ a.DecomposesWell := by
  by_cases h : a.unit = .sexagesimalDeg
  · exact decomposes_iff_of_sexagesimalDeg h
  · exact decomposes_iff_of_degrees h

/-- The converters restore a value that is not next to the next integer, and the parts of an angle
    are the angle where it decomposes well. -/
theorem sexagesimal_iff (factor v : ℚ) (hfactor : 0 < factor) (a : CAngle) :
    (CTimeUnit.subdivisionToDefault factor (CAngleUnit.subdivisionFromDefault factor v) = v ↔
        |fract (v / factor)| < 1 - truncEpsilon) ∧
      (CTimeUnit.subdivision2ToDefault factor (CAngleUnit.subdivision2FromDefault factor v) = v ↔
        |fract (v / factor)| < 1 - truncEpsilon ∧
          |fract (fract (v / factor) * 60)| < 1 - truncEpsilon) ∧
      (Decomposes (a.asSexagesimalDegMinSec true) (a.valueIn .deg) ↔ a.DecomposesWell) :=
  ⟨CAngleUnit.subdivision_restored_iff hfactor v, CAngleUnit.subdivision2_restored_iff hfactor v,
    decomposes_iff a⟩

/-- An hour and a half, and an angle of degrees. -/
theorem sexagesimal_sample :
    CTimeUnit.subdivision2ToDefault 3600 (CAngleUnit.subdivision2FromDefault 3600 5400) = 5400 ∧
      Decomposes ((create (-485 / 10) .deg).asSexagesimalDegMinSec true) (-485 / 10) :=
  ⟨(sexagesimal_iff 3600 5400 (by norm_num) (create 0 .deg)).2.1.mpr (by decide +kernel),
    (sexagesimal_iff 3600 5400 (by norm_num) (create (-485 / 10) .deg)).2.2.mpr
      (by decide +kernel)⟩

/-- 190 degrees, 30 minutes and 15 seconds are given 69 minutes and 85 seconds. A value just below
    two comes back larger by one. -/
theorem sexagesimal_beyond_half_a_turn :
    (create (1903015 / 10000) .sexagesimalDeg).asSexagesimalDegMinSec true =
        { sign := -1, deg := 169, min := 69, sec := 85 } ∧
      ¬Decomposes ((create (1903015 / 10000) .sexagesimalDeg).asSexagesimalDegMinSec true)
        ((create (1903015 / 10000) .sexagesimalDeg).valueIn .deg) ∧
      CTimeUnit.subdivision2ToDefault 1
        (CAngleUnit.subdivision2FromDefault 1 (2 - 1 / 20000000000)) ≠ 2 - 1 / 20000000000 := by
  have hparts : (create (1903015 / 10000) .sexagesimalDeg).asSexagesimalDegMinSec true =
      { sign := -1, deg := 169, min := 69, sec := 85 } := by decide +kernel
  refine ⟨hparts, fun h => ?_, by decide +kernel⟩
  rw [hparts] at h
  exact nomatch h.min.2

end CAngle

end NeoSwift.Pq
