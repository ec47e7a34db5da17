import Mathlib.Data.Rat.Floor
import NeoSwift.Pq.Length
import NeoSwift.Qt.Search

/-!
# Times

`CTime` with its units. A time of hours, minutes and seconds is written with two characters
a part and read from them again; in between it is a number in the unit `hms`, whose decimals
are the minutes and the seconds.

The parts of a negative time are negative themselves. A part of two digits loses its sign to
the two characters it has, and the sign in front of the text stands for it; a part of one
digit keeps it and is negative twice. Of a positive time all of that is of no concern.

Numbers are exact. All conversions are odd functions, so that what they do is a matter of
times that are not negative, and there everything is division with remainder.

## Main definitions

* `CMathUtils.trunc`, `CMathUtils.fract`, `fmod`: Integer and fractional parts.
* `CTimeUnit`, `CTime`: Units and times.
* `CTime.getHrsMinSecParts`, `CTime.formattedHrsMinSec`: The text of a time.
* `CTime.parseFromString`: A time from its text.

## Theorems

* `toDefault_neg`, `toDefault_pos`: Conversions are odd and keep the sign.
* `seconds_ofParts`: What three parts are in seconds.
* `getHrsMinSecParts_of_seconds`: The parts of whole seconds.
* `parse_formatted_iff`: Which times come back from their text.
* `five_seconds_ago_changes_sign`: One that does not.
-/

namespace NeoSwift.Pq

namespace CMathUtils

/-- The epsilon of `trunc`. -/
def truncEpsilon : ℚ := 1 / 10000000000

/-- Towards zero, with the epsilon of the source. -/
def trunc (value : ℚ) : ℤ :=
  if value < 0 then ⌈value - truncEpsilon⌉ else ⌊value + truncEpsilon⌋

/-- The integer part of `modf`. -/
def integerPart (value : ℚ) : ℤ := if value < 0 then ⌈value⌉ else ⌊value⌋

def fract (value : ℚ) : ℚ := value - integerPart value

end CMathUtils

open CMathUtils

/-- `std::fmod`. -/
def fmod (x y : ℚ) : ℚ := x - y * integerPart (x / y)

/-- The units of times, those of composed texts included. -/
inductive CTimeUnit where
  | null | d | h | hms | hrmin | min | minsec | ms | s
  deriving DecidableEq

namespace CTimeUnit

/-- `SubdivisionConverter` with a hundred for sixty. -/
def subdivisionToDefault (factor value : ℚ) : ℚ :=
  let part2 := fract value * 100
  (trunc value + part2 / 60) * factor

/-- `SubdivisionConverter2` with a hundred for sixty. -/
def subdivision2ToDefault (factor value : ℚ) : ℚ :=
  let part2 := fract value * 100
  let part3 := fract part2 * 100
  (trunc value + (trunc part2 + part3 / 60) / 60) * factor

/-- The default unit are seconds. -/
def toDefault : CTimeUnit → ℚ → ℚ
  | null, _ => 0
  | d, value => value * (60 * 60 * 24)
  | h, value => value * (60 * 60)
  | hms, value => subdivision2ToDefault (60 * 60) value
  | hrmin, value => subdivisionToDefault (60 * 60) value
  | min, value => value * 60
  | minsec, value => subdivisionToDefault 60 value
  | ms, value => value * (1 / 1000)
  | s, value => value

end CTimeUnit

/-- A time with its unit. -/
structure CTime where
  m_value : ℚ
  m_unit : CTimeUnit
  deriving DecidableEq

namespace CTime

variable (t : CTime)

def isNull : Bool := t.m_unit = .null

/-- `value(CTimeUnit::s())`. -/
def seconds : ℚ := t.m_unit.toDefault t.m_value

/-- The epsilon of the units. -/
def epsilon : ℚ := 1 / 1000000000

def isNegativeWithEpsilonConsidered : Bool :=
  ¬ |t.m_value| ≤ epsilon ∧ t.m_value < 0

/-- `qFuzzyIsNull`. -/
def qFuzzyIsNull (value : ℚ) : Bool := |value| ≤ 1 / 1000000000000

/-- Negative unless it is null or almost zero. -/
def makeNegative : CTime :=
  if t.isNull || qFuzzyIsNull t.m_value then t
  else if t.m_value > 0 then { t with m_value := -t.m_value }
  else t

def setValueSameUnit (value : ℚ) : CTime := { t with m_value := value }

/-- `CTime(hours, minutes, seconds)`. -/
def ofParts (hours minutes seconds : ℤ) : CTime :=
  let negative := hours < 0
  let value : ℚ := |hours| + minutes / 100 + seconds / 10000
  let t : CTime :=
    if minutes = 0 ∧ seconds = 0 then ⟨hours, .h⟩
    else if seconds = 0 then ⟨value, .hrmin⟩
    else ⟨value, .hms⟩
  if negative then t.makeNegative else t

/-- Hours, minutes and seconds. -/
def getHrsMinSecParts : ℤ × ℤ × ℤ :=
  let currentValue := t.seconds
  let hr : ℚ := trunc (currentValue / 3600)
  let remaining := fmod currentValue 3600
  let mi : ℚ := trunc (remaining / 60)
  let se : ℚ := trunc (fmod remaining 60)
  (qRound hr, qRound mi, qRound se)

/-- The last two characters of a part with zeros in front. -/
def partText (part : ℤ) : QString := QString.right ("00" ++ QString.number part) 2

/-- `hh:mm:ss`, with a sign if it is negative. -/
def formattedHrsMinSec : QString :=
  let parts := t.getHrsMinSecParts
  let fs := partText parts.1 ++ ':' :: partText parts.2.1 ++ ':' :: partText parts.2.2
  if t.isNegativeWithEpsilonConsidered then '-' :: fs else fs

/-- How a text of a number and a unit is read is a parameter. -/
def parseFromString (parseQuantity : QString → CTime) (time : QString) : CTime :=
  let trimmed := time.trimmed
  let negative := ¬ trimmed.startsWith ['+'] ∧ trimmed.startsWith ['-']
  let ts := if trimmed.startsWith ['+'] ∨ trimmed.startsWith ['-'] then trimmed.drop 1 else trimmed
  if QString.contains ts [':'] ∧ (ts.length = 8 ∨ ts.length = 5) then
    let hour := (QString.mid ts 0 2).toInt.toInt
    let minute := (QString.mid ts 3 2).toInt.toInt
    let second := if ts.length = 8 then (QString.mid ts 6 2).toInt.toInt else 0
    let t := ofParts hour minute second
    if negative then t.setValueSameUnit (t.m_value * -1) else t
  else parseQuantity time

end CTime

/-! ## Conversions -/

namespace CMathUtils

theorem trunc_neg (x : ℚ) : trunc (-x) = -trunc x := by
  have hzero : ⌊truncEpsilon⌋ = 0 := by
    rw [Int.floor_eq_zero_iff]
    constructor <;> norm_num [truncEpsilon]
  unfold trunc
  rcases lt_trichotomy x 0 with hneg | rfl | hpos
  · rw [if_neg (by linarith), if_pos hneg, ← Int.floor_neg]
    congr 1
    ring
  · simp [hzero]
  · rw [if_pos (by linarith), if_neg (by linarith), ← Int.ceil_neg]
    congr 1
    ring

theorem integerPart_neg (x : ℚ) : integerPart (-x) = -integerPart x := by
  unfold integerPart
  rcases lt_trichotomy x 0 with hneg | rfl | hpos
  · rw [if_neg (by linarith), if_pos hneg, Int.floor_neg]
  · simp
  · rw [if_pos (by linarith), if_neg (by linarith), Int.ceil_neg]

theorem fract_neg (x : ℚ) : fract (-x) = -fract x := by
  unfold fract
  rw [integerPart_neg]
  push_cast
  ring

theorem trunc_nonneg {x : ℚ} (h : 0 ≤ x) : 0 ≤ trunc x := by
  unfold trunc
  rw [if_neg (by linarith)]
  exact Int.floor_nonneg.mpr (by unfold truncEpsilon; linarith)

theorem fract_nonneg {x : ℚ} (h : 0 ≤ x) : 0 ≤ fract x := by
  unfold fract integerPart
  rw [if_neg (by linarith)]
  linarith [Int.floor_le x]

/-- What has no fractional part and is more than nothing is at least one. -/
theorem trunc_pos_of_fract_eq_zero {x : ℚ} (h : 0 < x) (hfract : fract x = 0) : 0 < trunc x := by
  unfold fract integerPart at hfract
  rw [if_neg (by linarith)] at hfract
  have hfloor : (0 : ℚ) < ⌊x⌋ := by linarith
  have hone : 1 ≤ ⌊x⌋ := by exact_mod_cast hfloor
  have hle : ⌊x⌋ ≤ trunc x := by
    unfold trunc
    rw [if_neg (by linarith)]
    exact Int.floor_le_floor (by unfold truncEpsilon; linarith)
  omega

/-- The epsilon makes no difference to fractions with a denominator that is not large. -/
theorem trunc_natCast_div (n d : ℕ) (hd : 0 < d) (hsmall : d < 10000000000) :
    trunc ((n : ℚ) / d) = (n / d : ℕ) := by
  have hdpos : (0 : ℚ) < d := by exact_mod_cast hd
  have hdlt : (d : ℚ) < 10000000000 := by exact_mod_cast hsmall
  -- The rest of the division is at most the denominator less one.
  have hsplit : (n : ℚ) = d * (n / d : ℕ) + (n % d : ℕ) := by
    exact_mod_cast (Nat.div_add_mod n d).symm
  have hmod : ((n % d : ℕ) : ℚ) ≤ d - 1 := by
    have := Nat.mod_lt n hd
    have hle : ((n % d : ℕ) : ℚ) + 1 ≤ d := by exact_mod_cast this
    linarith
  have hx : (n : ℚ) / d = (n / d : ℕ) + (n % d : ℕ) / d := by
    rw [hsplit]
    field_simp
  have hfrac0 : (0 : ℚ) ≤ (n % d : ℕ) / d := by positivity
  -- So its fraction is too far below one for the epsilon to reach it.
  have hfrac1 : ((n % d : ℕ) : ℚ) / d + truncEpsilon < 1 := by
    have hle : ((n % d : ℕ) : ℚ) / d ≤ (d - 1) / d := by gcongr
    have heq : ((d : ℚ) - 1) / d = 1 - 1 / d := by field_simp
    have hinv : (1 : ℚ) / 10000000000 < 1 / d := by
      exact one_div_lt_one_div_of_lt hdpos hdlt
    unfold truncEpsilon
    linarith
  unfold trunc
  rw [if_neg (by rw [not_lt]; positivity), Int.floor_eq_iff]
  have heps : (0 : ℚ) ≤ truncEpsilon := by norm_num [truncEpsilon]
  rw [Int.cast_natCast]
  constructor <;> linarith

theorem integerPart_natCast_div (n d : ℕ) : integerPart ((n : ℚ) / d) = (n / d : ℕ) := by
  unfold integerPart
  rw [if_neg (by rw [not_lt]; positivity)]
  norm_cast

theorem fract_natCast_div (n d : ℕ) (hd : 0 < d) : fract ((n : ℚ) / d) = (n % d : ℕ) / d := by
  have hdpos : (d : ℚ) ≠ 0 := by exact_mod_cast hd.ne'
  have hsplit : (n : ℚ) = d * (n / d : ℕ) + (n % d : ℕ) := by
    exact_mod_cast (Nat.div_add_mod n d).symm
  unfold fract
  rw [integerPart_natCast_div, Int.cast_natCast, div_sub' hdpos, div_left_inj' hdpos]
  linarith

end CMathUtils

theorem fmod_natCast (n d : ℕ) : fmod n d = (n % d : ℕ) := by
  have hsplit : (n : ℚ) = d * (n / d : ℕ) + (n % d : ℕ) := by
    exact_mod_cast (Nat.div_add_mod n d).symm
  unfold fmod
  rw [integerPart_natCast_div, Int.cast_natCast]
  linarith

theorem fmod_neg (x y : ℚ) : fmod (-x) y = -fmod x y := by
  unfold fmod
  rw [neg_div, integerPart_neg]
  push_cast
  ring

namespace CTimeUnit

theorem subdivisionToDefault_neg (factor x : ℚ) :
    subdivisionToDefault factor (-x) = -subdivisionToDefault factor x := by
  unfold subdivisionToDefault
  rw [trunc_neg, fract_neg]
  push_cast
  ring

theorem subdivision2ToDefault_neg (factor x : ℚ) :
    subdivision2ToDefault factor (-x) = -subdivision2ToDefault factor x := by
  have hpart2 : fract (-x) * 100 = -(fract x * 100) := by
    rw [fract_neg]
    ring
  unfold subdivision2ToDefault
  dsimp only
  rw [hpart2, trunc_neg, trunc_neg, fract_neg]
  push_cast
  ring

/-- Conversions are odd. -/
theorem toDefault_neg (unit : CTimeUnit) (x : ℚ) : unit.toDefault (-x) = -unit.toDefault x := by
  cases unit with
  | null => exact neg_zero.symm
  | hms => exact subdivision2ToDefault_neg _ x
  | hrmin => exact subdivisionToDefault_neg _ x
  | minsec => exact subdivisionToDefault_neg _ x
  | s => rfl
  | d | h | min | ms => exact neg_mul x _

theorem subdivisionToDefault_pos {factor x : ℚ} (hfactor : 0 < factor) (hx : 0 < x) :
    0 < subdivisionToDefault factor x := by
  have htrunc : (0 : ℚ) ≤ trunc x := by exact_mod_cast trunc_nonneg hx.le
  refine mul_pos ?_ hfactor
  rcases (fract_nonneg hx.le).lt_or_eq with hfract | hfract
  · positivity
  · have hpos : (0 : ℚ) < trunc x := by exact_mod_cast trunc_pos_of_fract_eq_zero hx hfract.symm
    linarith

theorem subdivision2ToDefault_pos {factor x : ℚ} (hfactor : 0 < factor) (hx : 0 < x) :
    0 < subdivision2ToDefault factor x := by
  have htrunc : (0 : ℚ) ≤ trunc x := by exact_mod_cast trunc_nonneg hx.le
  have hfract0 := fract_nonneg hx.le
  have hpart2 : (0 : ℚ) ≤ fract x * 100 := by positivity
  have htrunc2 : (0 : ℚ) ≤ trunc (fract x * 100) := by exact_mod_cast trunc_nonneg hpart2
  have hfract2 := fract_nonneg hpart2
  refine mul_pos ?_ hfactor
  -- one of the three parts is more than nothing
  rcases hfract0.lt_or_eq with hfract | hfract
  · rcases hfract2.lt_or_eq with hrest | hrest
    · positivity
    · have hpos : (0 : ℚ) < trunc (fract x * 100) := by
        exact_mod_cast trunc_pos_of_fract_eq_zero (by linarith) hrest.symm
      positivity
  · have hpos : (0 : ℚ) < trunc x := by exact_mod_cast trunc_pos_of_fract_eq_zero hx hfract.symm
    positivity

/-- Conversions keep the sign. -/
theorem toDefault_pos {unit : CTimeUnit} (hunit : unit ≠ .null) {x : ℚ} (hx : 0 < x) :
    0 < unit.toDefault x := by
  cases unit with
  | null => exact absurd rfl hunit
  | hms => exact subdivision2ToDefault_pos (by norm_num) hx
  | hrmin => exact subdivisionToDefault_pos (by norm_num) hx
  | minsec => exact subdivisionToDefault_pos (by norm_num) hx
  | s => exact hx
  | d | h | min | ms => exact mul_pos hx (by norm_num)

/-- Below the epsilon there is no second. -/
theorem toDefault_lt_one {unit : CTimeUnit} {x : ℚ} (h0 : 0 ≤ x) (hx : x ≤ CTime.epsilon) :
    unit.toDefault x < 1 := by
  unfold CTime.epsilon at hx
  have hfloor : ⌊x⌋ = 0 := Int.floor_eq_zero_iff.mpr ⟨h0, by linarith⟩
  have hfract : fract x = x := by
    unfold fract integerPart
    rw [if_neg (by linarith), hfloor, Int.cast_zero, sub_zero]
  -- Two digits on it is still less than a half.
  have hfract2 : fract (x * 100) = x * 100 := by
    have hfloor2 : ⌊x * 100⌋ = 0 := Int.floor_eq_zero_iff.mpr ⟨by linarith, by linarith⟩
    unfold fract integerPart
    rw [if_neg (by linarith), hfloor2, Int.cast_zero, sub_zero]
  have htrunc {y : ℚ} (hy0 : 0 ≤ y) (hy : y < 1 / 2) : trunc y = 0 := by
    unfold trunc truncEpsilon
    rw [if_neg (by linarith), Int.floor_eq_zero_iff]
    constructor <;> linarith
  have hsub (factor : ℚ) (h : 0 ≤ factor ∧ factor ≤ 3600) : subdivisionToDefault factor x < 1 := by
    have hmul := mul_le_mul_of_nonneg_left h.2 h0
    unfold subdivisionToDefault
    rw [htrunc h0 (by linarith), hfract]
    linarith
  cases unit with
  | null => exact one_pos
  | hms =>
    change subdivision2ToDefault (60 * 60) x < 1
    unfold subdivision2ToDefault
    dsimp only
    rw [htrunc h0 (by linarith), hfract, htrunc (by linarith) (by linarith)]
    linarith
  | hrmin => exact hsub _ (by norm_num)
  | minsec => exact hsub _ (by norm_num)
  | s => exact hx.trans_lt (by norm_num)
  | d | h | min | ms =>
    unfold toDefault
    linarith

/-! ## Hours, minutes and seconds as one number -/

/-- Two digits for the seconds, two for the minutes and the others for the hours. -/
def hmsSeconds (v : ℤ) : ℤ :=
  if 0 ≤ v then v / 10000 * 3600 + v / 100 % 100 * 60 + v % 100
  else -(-v / 10000 * 3600 + -v / 100 % 100 * 60 + -v % 100)

theorem hmsSeconds_neg (v : ℤ) : hmsSeconds (-v) = -hmsSeconds v := by
  unfold hmsSeconds
  split <;> split <;> omega

/-- An odd function is known from the numbers that are not negative. -/
theorem eq_hmsSeconds_of_nat {f : ℚ → ℚ} (hneg : ∀ x, f (-x) = -f x) {v : ℤ}
    (hnat : f ((v.natAbs : ℚ) / 10000) = hmsSeconds v.natAbs) :
    f ((v : ℚ) / 10000) = hmsSeconds v := by
  rcases Int.natAbs_eq v with hv | hv
  · have hcast : (v : ℚ) = v.natAbs := by
      exact congrArg Int.cast hv
    rw [hcast, hnat, ← hv]
  · have hcast : (v : ℚ) = -v.natAbs := by
      exact congrArg Int.cast hv
    have hvalue : hmsSeconds v = -hmsSeconds v.natAbs := by
      rw [← hmsSeconds_neg, ← hv]
    rw [hcast, neg_div, hneg, hnat, hvalue, Int.cast_neg]

theorem toDefault_hms (v : ℤ) : hms.toDefault ((v : ℚ) / 10000) = hmsSeconds v := by
  refine eq_hmsSeconds_of_nat (toDefault_neg hms) ?_
  generalize v.natAbs = n
  obtain ⟨hours, hhours⟩ : ∃ hours, n / 10000 = hours := ⟨_, rfl⟩
  obtain ⟨minutes, hminutes⟩ : ∃ minutes, n % 10000 / 100 = minutes := ⟨_, rfl⟩
  obtain ⟨seconds, hseconds⟩ : ∃ seconds, n % 10000 % 100 = seconds := ⟨_, rfl⟩
  have hvalue : hmsSeconds n = hours * 3600 + minutes * 60 + seconds := by
    unfold hmsSeconds
    omega
  have hpart2 : ((n % 10000 : ℕ) : ℚ) / (10000 : ℕ) * 100 = ((n % 10000 : ℕ) : ℚ) / (100 : ℕ) := by
    norm_num
    ring
  change subdivision2ToDefault (60 * 60) ((n : ℚ) / (10000 : ℕ)) = _
  unfold subdivision2ToDefault
  dsimp only
  rw [trunc_natCast_div n 10000 (by omega) (by omega), fract_natCast_div n 10000 (by omega),
    hpart2, trunc_natCast_div _ 100 (by omega) (by omega), fract_natCast_div _ 100 (by omega),
    hhours, hminutes, hseconds, hvalue]
  push_cast
  ring

theorem toDefault_hrmin {v : ℤ} (hv : v % 100 = 0) :
    hrmin.toDefault ((v : ℚ) / 10000) = hmsSeconds v := by
  refine eq_hmsSeconds_of_nat (toDefault_neg hrmin) ?_
  have hnat : v.natAbs % 100 = 0 := by omega
  generalize v.natAbs = n at hnat
  rcases Nat.dvd_of_mod_eq_zero hnat with ⟨w, rfl⟩
  obtain ⟨hours, hhours⟩ : ∃ hours, w / 100 = hours := ⟨_, rfl⟩
  obtain ⟨minutes, hminutes⟩ : ∃ minutes, w % 100 = minutes := ⟨_, rfl⟩
  have hvalue : hmsSeconds (100 * w : ℕ) = hours * 3600 + minutes * 60 := by
    unfold hmsSeconds
    omega
  have hx : ((100 * w : ℕ) : ℚ) / 10000 = (w : ℚ) / (100 : ℕ) := by
    push_cast
    ring
  rw [hx, hvalue]
  change subdivisionToDefault (60 * 60) _ = _
  unfold subdivisionToDefault
  rw [trunc_natCast_div w 100 (by omega) (by omega), fract_natCast_div w 100 (by omega), hhours,
    hminutes]
  push_cast
  ring

end CTimeUnit

namespace CTime

open CTimeUnit

theorem seconds_of_value {unit : CTimeUnit} {value : ℚ} {v : ℤ} (hvalue : value = v / 10000)
    (hunit : unit = .hms ∨ unit = .hrmin ∧ v % 100 = 0 ∨ unit = .h ∧ v % 10000 = 0) :
    (⟨value, unit⟩ : CTime).seconds = hmsSeconds v := by
  subst hvalue
  rcases hunit with rfl | ⟨rfl, hv⟩ | ⟨rfl, hv⟩
  · exact toDefault_hms v
  · exact toDefault_hrmin hv
  · rcases Int.dvd_of_emod_eq_zero hv with ⟨w, rfl⟩
    have hvalue : hmsSeconds (10000 * w) = w * 3600 := by
      unfold hmsSeconds
      split <;> omega
    rw [hvalue]
    change ((10000 * w : ℤ) : ℚ) / 10000 * (60 * 60) = _
    push_cast
    ring

theorem seconds_setValueSameUnit_neg (t : CTime) :
    (t.setValueSameUnit (t.m_value * -1)).seconds = -t.seconds := by
  unfold seconds setValueSameUnit
  rw [mul_neg_one, toDefault_neg]

theorem makeNegative_of_neg {t : CTime} (h : t.m_value < 0) : t.makeNegative = t := by
  unfold makeNegative
  split
  · rfl
  · rw [if_neg (by linarith)]

theorem seconds_makeNegative {t : CTime} (hunit : t.m_unit ≠ .null)
    (h : 1 / 10000 ≤ t.m_value) : t.makeNegative.seconds = -t.seconds := by
  have hnull : (t.isNull || qFuzzyIsNull t.m_value) = false := by
    refine Bool.or_eq_false_iff.mpr ⟨decide_eq_false hunit, decide_eq_false ?_⟩
    rw [abs_of_nonneg (by linarith)]
    linarith
  unfold makeNegative
  rw [hnull, if_neg Bool.false_ne_true, if_pos (by linarith)]
  exact toDefault_neg t.m_unit t.m_value

/-- What three parts are in seconds. Negative minutes or seconds make the number smaller, and
    negative hours are those of a negative time. -/
theorem seconds_ofParts {hours minutes seconds v : ℤ}
    (hv : v = |hours| * 10000 + minutes * 100 + seconds) (hpos : hours < 0 → 0 < v) :
    (ofParts hours minutes seconds).seconds =
      if hours < 0 then -(hmsSeconds v : ℚ) else hmsSeconds v := by
  -- The value is the digits of the three parts with four decimals.
  have hvalue : ((|hours| : ℤ) + minutes / 100 + seconds / 10000 : ℚ) = v / 10000 := by
    rw [hv]
    push_cast
    ring
  have hlarge (hneg : hours < 0) : (1 : ℚ) / 10000 ≤ v / 10000 := by
    have : (1 : ℚ) ≤ v := by exact_mod_cast hpos hneg
    gcongr
  unfold ofParts
  dsimp only
  rw [hvalue]
  by_cases hwhole : minutes = 0 ∧ seconds = 0
  · rw [if_pos hwhole]
    by_cases hneg : hours < 0
    · -- the hours are negative already
      have hneg' : (hours : ℚ) < 0 := by exact_mod_cast hneg
      have hsame := makeNegative_of_neg (t := ⟨hours, .h⟩) hneg'
      rw [if_pos hneg, if_pos hneg, hsame]
      have hval : (hours : ℚ) = (-v : ℤ) / 10000 := by
        rw [hv, hwhole.1, hwhole.2, abs_of_neg hneg]
        push_cast
        ring
      have hhours : -v % 10000 = 0 := by omega
      have hseconds : (⟨hours, .h⟩ : CTime).seconds = hmsSeconds (-v) :=
        seconds_of_value hval (.inr (.inr ⟨rfl, hhours⟩))
      rw [hseconds, hmsSeconds_neg, Int.cast_neg]
    · rw [if_neg hneg, if_neg hneg]
      have hval : (hours : ℚ) = v / 10000 := by
        rw [hv, hwhole.1, hwhole.2, abs_of_nonneg (by omega)]
        push_cast
        ring
      exact seconds_of_value hval (.inr (.inr ⟨rfl, by omega⟩))
  · rw [if_neg hwhole]
    by_cases hsec : seconds = 0
    · rw [if_pos hsec]
      have hseconds : (⟨v / 10000, .hrmin⟩ : CTime).seconds = hmsSeconds v :=
        -- The sign is put on at the end, whatever the unit.
        seconds_of_value rfl (.inr (.inl ⟨rfl, by omega⟩))
      by_cases hneg : hours < 0
      · have hopposite := seconds_makeNegative (t := ⟨v / 10000, .hrmin⟩)
          CTimeUnit.noConfusion (hlarge hneg)
        rw [if_pos hneg, if_pos hneg, hopposite, hseconds]
      · rw [if_neg hneg, if_neg hneg, hseconds]
    · rw [if_neg hsec]
      have hseconds : (⟨v / 10000, .hms⟩ : CTime).seconds = hmsSeconds v :=
        seconds_of_value rfl (.inl rfl)
      by_cases hneg : hours < 0
      · have hopposite := seconds_makeNegative (t := ⟨v / 10000, .hms⟩)
          CTimeUnit.noConfusion (hlarge hneg)
        rw [if_pos hneg, if_pos hneg, hopposite, hseconds]
      · rw [if_neg hneg, if_neg hneg, hseconds]

/-! ## The text -/

theorem qRound_trunc_natCast_div (n d : ℕ) (hd : 0 < d) (hsmall : d < 10000000000) :
    qRound (trunc ((n : ℚ) / d) : ℤ) = (n / d : ℕ) := by
  rw [qRound_intCast, trunc_natCast_div n d hd hsmall]

/-- The parts of whole seconds. -/
theorem getHrsMinSecParts_of_nat {t : CTime} {n : ℕ} (h : t.seconds = n) :
    t.getHrsMinSecParts
      = (((n / 3600 : ℕ) : ℤ), ((n % 3600 / 60 : ℕ) : ℤ), ((n % 3600 % 60 : ℕ) : ℤ)) := by
  have hsecond : fmod ((n % 3600 : ℕ) : ℚ) 60 = ((n % 3600 % 60 : ℕ) : ℚ) / (1 : ℕ) := by
    rw [Nat.cast_one, div_one]
    exact fmod_natCast (n % 3600) 60
  have hremaining : fmod (n : ℚ) 3600 = (n % 3600 : ℕ) := fmod_natCast n 3600
  unfold getHrsMinSecParts
  dsimp only
  rw [h, hremaining, hsecond]
  refine Prod.ext ?_ (Prod.ext ?_ ?_)
  · exact qRound_trunc_natCast_div n 3600 (by omega) (by omega)
  · exact qRound_trunc_natCast_div (n % 3600) 60 (by omega) (by omega)
  · refine (qRound_trunc_natCast_div (n % 3600 % 60) 1 (by omega) (by omega)).trans ?_
    rw [Nat.div_one]

/-- The parts of a negative time are negative. -/
theorem getHrsMinSecParts_of_neg {t : CTime} {n : ℕ} (h : t.seconds = -n) :
    t.getHrsMinSecParts
      = (-((n / 3600 : ℕ) : ℤ), -((n % 3600 / 60 : ℕ) : ℤ), -((n % 3600 % 60 : ℕ) : ℤ)) := by
  have hseconds : (⟨n, .s⟩ : CTime).seconds = n := rfl
  have hopposite := getHrsMinSecParts_of_nat hseconds
  have hneg : t.getHrsMinSecParts = (-(⟨n, .s⟩ : CTime).getHrsMinSecParts.1,
      -(⟨n, .s⟩ : CTime).getHrsMinSecParts.2.1, -(⟨n, .s⟩ : CTime).getHrsMinSecParts.2.2) := by
    unfold getHrsMinSecParts
    dsimp only
    rw [h, hseconds, fmod_neg, fmod_neg, neg_div, neg_div]
    simp only [trunc_neg, qRound_intCast]
  rw [hneg, hopposite]

/-- A part of one digit keeps its sign, a part of two digits loses it. -/
def readPart (part : ℕ) : ℤ := if 1 ≤ part ∧ part ≤ 9 then -part else part

/-- What is read from the two characters of a part, and of a negative one. -/
theorem partText_spec : ∀ part ∈ List.range 100,
    ((partText part).length = 2 ∧ (partText part).toInt.toInt = part ∧
      ((partText part).all fun c => !QString.isSpace c && c != '+' && c != '-')) ∧
    (partText (-part)).length = 2 ∧ (partText (-part)).toInt.toInt = readPart part ∧
      (partText (-part)).all fun c => !QString.isSpace c := by
  decide +kernel

theorem isSpace_of_all {s : QString} (h : s.all fun c => !QString.isSpace c) :
    ∀ c ∈ s, QString.isSpace c = false := by
  intro c hc
  exact Bool.not_eq_eq_eq_not.mp (List.all_eq_true.mp h c hc)

section Parse

variable {parseQuantity : QString → CTime} {h m s : QString}

/-- The text of three parts of two characters each. -/
def partsText (h m s : QString) : QString := h ++ ':' :: m ++ ':' :: s

theorem length_partsText (hh : h.length = 2) (hm : m.length = 2) (hs : s.length = 2) :
    (partsText h m s).length = 8 := by
  simp [partsText, hh, hm, hs]

theorem contains_partsText : QString.contains (partsText h m s) [':'] = true := by
  refine List.any_eq_true.mpr ⟨':' :: m ++ ':' :: s, ?_, rfl⟩
  rw [List.mem_tails]
  exact ⟨h, by rw [partsText, List.append_assoc]⟩

/-- Where each part is found. -/
theorem mid_partsText (hh : h.length = 2) (hm : m.length = 2) (hs : s.length = 2) :
    (partsText h m s).mid 0 2 = h ∧ (partsText h m s).mid 3 2 = m ∧
      (partsText h m s).mid 6 2 = s := by
  rcases List.length_eq_two.mp hh with ⟨h₁, h₂, rfl⟩
  rcases List.length_eq_two.mp hm with ⟨m₁, m₂, rfl⟩
  rcases List.length_eq_two.mp hs with ⟨s₁, s₂, rfl⟩
  exact ⟨rfl, rfl, rfl⟩

theorem isSpace_partsText (hh : ∀ c ∈ h, QString.isSpace c = false)
    (hm : ∀ c ∈ m, QString.isSpace c = false) (hs : ∀ c ∈ s, QString.isSpace c = false) :
    ∀ c ∈ partsText h m s, QString.isSpace c = false := by
  intro c hc
  simp only [partsText, List.mem_append, List.mem_cons] at hc
  rcases hc with (hc | rfl | hc) | rfl | hc
  · exact hh c hc
  · decide
  · exact hm c hc
  · decide
  · exact hs c hc

theorem parse_partsText (hh : h.length = 2) (hm : m.length = 2) (hs : s.length = 2)
    (hspace : ∀ c ∈ partsText h m s, QString.isSpace c = false)
    (hsign : ∀ c ∈ h, c ≠ '+' ∧ c ≠ '-') :
    parseFromString parseQuantity (partsText h m s)
      = ofParts h.toInt.toInt m.toInt.toInt s.toInt.toInt := by
  have hlength := length_partsText hh hm hs
  rcases mid_partsText hh hm hs with ⟨hhour, hminute, hsecond⟩
  have hstart (c : Char) (hc : c = '+' ∨ c = '-') :
      ¬ QString.startsWith (partsText h m s) [c] = true := by
    rcases List.length_eq_two.mp hh with ⟨h₁, h₂, rfl⟩
    have hne := hsign h₁ List.mem_cons_self
    simp only [QString.startsWith, partsText, List.cons_append, List.isPrefixOf, Bool.and_true,
      beq_iff_eq]
    rintro rfl
    exact hc.elim hne.1 hne.2
  have hminus := hstart '-' (.inr rfl)
  have hunsigned := not_or.mpr ⟨hstart '+' (.inl rfl), hminus⟩
  -- Neither a sign nor another number of digits takes the other branches.
  have hparts : (partsText h m s).contains [':'] = true ∧
      ((partsText h m s).length = 8 ∨ (partsText h m s).length = 5) :=
    ⟨contains_partsText, .inl hlength⟩
  unfold parseFromString
  rw [QString.trimmed_of_no_space hspace]
  dsimp only
  rw [if_neg hunsigned, if_pos hparts, if_pos hlength, hhour, hminute, hsecond,
    if_neg (fun hnegative => hminus hnegative.2)]

/-- With a sign in front, the same with the opposite value. -/
theorem parse_neg_partsText (hh : h.length = 2) (hm : m.length = 2) (hs : s.length = 2)
    (hspace : ∀ c ∈ partsText h m s, QString.isSpace c = false) :
    parseFromString parseQuantity ('-' :: partsText h m s)
      = (ofParts h.toInt.toInt m.toInt.toInt s.toInt.toInt).setValueSameUnit
          ((ofParts h.toInt.toInt m.toInt.toInt s.toInt.toInt).m_value * -1) := by
  have hlength := length_partsText hh hm hs
  rcases mid_partsText hh hm hs with ⟨hhour, hminute, hsecond⟩
  have htrimmed : QString.trimmed ('-' :: partsText h m s) = '-' :: partsText h m s := by
    refine QString.trimmed_of_no_space fun c hc => ?_
    rcases List.mem_cons.mp hc with rfl | hc
    · decide
    · exact hspace c hc
  have hminus : QString.startsWith ('-' :: partsText h m s) ['-'] = true := rfl
  have hplus : ¬ QString.startsWith ('-' :: partsText h m s) ['+'] = true := Bool.false_ne_true
  have hsigned : QString.startsWith ('-' :: partsText h m s) ['+'] = true ∨
      QString.startsWith ('-' :: partsText h m s) ['-'] = true := .inr hminus
  have hparts : (partsText h m s).contains [':'] = true ∧
      ((partsText h m s).length = 8 ∨ (partsText h m s).length = 5) :=
    ⟨contains_partsText, .inl hlength⟩
  -- The sign is dropped, and the value is turned around at the end.
  unfold parseFromString
  rw [htrimmed]
  dsimp only
  rw [if_pos hsigned, List.drop_succ_cons, List.drop_zero, if_pos hparts, if_pos hlength, hhour,
    hminute, hsecond, if_pos ⟨hplus, hminus⟩]

end Parse

/-! ## There and back -/

/-- A time of so many whole seconds, in whatever unit. -/
structure IsWholeSeconds (t : CTime) (n : ℤ) : Prop where
  unit : t.m_unit ≠ .null
  seconds : t.seconds = n

/-- The epsilon is less than a second in every unit, so the sign is that of the seconds. -/
theorem isNegativeWithEpsilonConsidered_iff {t : CTime} {n : ℤ} (h : IsWholeSeconds t n) :
    t.isNegativeWithEpsilonConsidered ↔ n < 0 := by
  have hseconds : t.m_unit.toDefault t.m_value = n := h.seconds
  have hiff : t.isNegativeWithEpsilonConsidered ↔ ¬ |t.m_value| ≤ epsilon ∧ t.m_value < 0 :=
    decide_eq_true_iff
  rw [hiff]
  constructor
  · rintro ⟨_, hneg⟩
    have hpos := toDefault_pos h.unit (neg_pos.mpr hneg)
    rw [toDefault_neg] at hpos
    have : (n : ℚ) < 0 := by linarith
    exact_mod_cast this
  · intro hn
    have hle : (n : ℚ) ≤ -1 := by exact_mod_cast Int.le_sub_one_of_lt hn
    have hneg : t.m_value < 0 := by
      -- A value that is not negative has seconds that are not negative.
      by_contra hnot
      rcases (not_lt.mp hnot).lt_or_eq with hpos | hzero
      · have := toDefault_pos h.unit hpos
        linarith
      · have hodd := toDefault_neg t.m_unit 0
        rw [neg_zero] at hodd
        rw [← hzero] at hseconds
        linarith
    refine ⟨fun hsmall => ?_, hneg⟩
    -- Within the epsilon there would be less than one second.
    rw [abs_of_neg hneg] at hsmall
    have hone : t.m_unit.toDefault (-t.m_value) < 1 := toDefault_lt_one (by linarith) hsmall
    rw [toDefault_neg] at hone
    linarith

theorem unit_ofParts (hours minutes seconds : ℤ) :
    (ofParts hours minutes seconds).m_unit ≠ .null := by
  have hmake (t : CTime) : t.makeNegative.m_unit = t.m_unit := by
    unfold makeNegative
    split
    · rfl
    · split <;> rfl
  unfold ofParts
  dsimp only
  split
  · rw [hmake]
    split
    · exact CTimeUnit.noConfusion
    · split <;> exact CTimeUnit.noConfusion
  · split
    · exact CTimeUnit.noConfusion
    · split <;> exact CTimeUnit.noConfusion

/-- A time that is not negative comes back. -/
theorem parse_formatted_of_nonneg (parseQuantity : QString → CTime) {t : CTime} {n : ℕ}
    (h : IsWholeSeconds t n) (hrange : n < 360000) :
    IsWholeSeconds (parseFromString parseQuantity t.formattedHrsMinSec) n := by
  have hsign : t.isNegativeWithEpsilonConsidered = false := by
    refine Bool.eq_false_iff.mpr fun hneg => ?_
    have := (isNegativeWithEpsilonConsidered_iff h).mp hneg
    omega
  have hseconds : t.seconds = n := by rw [h.seconds, Int.cast_natCast]
  -- Each part has two characters, which are read as the number they are of.
  rcases partText_spec (n / 3600) (List.mem_range.mpr (by omega)) with ⟨⟨hhlen, hhread, hhchars⟩, _⟩
  rcases partText_spec (n % 3600 / 60) (List.mem_range.mpr (by omega)) with
      ⟨⟨hmlen, hmread, hmchars⟩, _⟩
  rcases partText_spec (n % 3600 % 60) (List.mem_range.mpr (by omega)) with
      ⟨⟨hslen, hsread, hschars⟩, _⟩
  have hformatted : t.formattedHrsMinSec = partsText (partText (n / 3600 : ℕ))
      (partText (n % 3600 / 60 : ℕ)) (partText (n % 3600 % 60 : ℕ)) := by
    unfold formattedHrsMinSec
    rw [getHrsMinSecParts_of_nat hseconds, hsign]
    rfl
  have hplain {s : QString} (hs : s.all fun c => !QString.isSpace c && c != '+' && c != '-')
      {c : Char} (hc : c ∈ s) : QString.isSpace c = false ∧ c ≠ '+' ∧ c ≠ '-' := by
    have hall := List.all_eq_true.mp hs c hc
    simp only [Bool.and_eq_true, Bool.not_eq_eq_eq_not, bne_iff_ne] at hall
    exact ⟨hall.1.1, hall.1.2, hall.2⟩
  rw [hformatted, parse_partsText hhlen hmlen hslen
    (isSpace_partsText (fun _ hc => (hplain hhchars hc).1) (fun _ hc => (hplain hmchars hc).1)
      (fun _ hc => (hplain hschars hc).1)) (fun _ hc => (hplain hhchars hc).2),
    hhread, hmread, hsread]
  constructor
  case unit => exact unit_ofParts _ _ _
  case seconds =>
    rw [seconds_ofParts rfl (fun hneg => by omega), if_neg (by omega)]
    have hvalue : hmsSeconds (|((n / 3600 : ℕ) : ℤ)| * 10000 + ((n % 3600 / 60 : ℕ) : ℤ) * 100
        + ((n % 3600 % 60 : ℕ) : ℤ)) = n := by
      rw [abs_of_nonneg (Int.natCast_nonneg _)]
      unfold hmsSeconds
      rw [if_pos (by omega)]
      omega
    rw [hvalue]

/-- What is read for a negative time: the parts of one digit are negative, and everything is
    negated once more. -/
theorem parse_formatted_of_neg (parseQuantity : QString → CTime) {t : CTime} {n : ℕ}
    (h : IsWholeSeconds t (-n)) (hpos : 0 < n) (hrange : n < 360000) :
    let read := ofParts (readPart (n / 3600)) (readPart (n % 3600 / 60)) (readPart (n % 3600 % 60))
    parseFromString parseQuantity t.formattedHrsMinSec
      = read.setValueSameUnit (read.m_value * -1) := by
  have hsign : t.isNegativeWithEpsilonConsidered = true :=
    (isNegativeWithEpsilonConsidered_iff h).mpr (by omega)
  have hseconds : t.seconds = -n := by rw [h.seconds, Int.cast_neg, Int.cast_natCast]
  rcases partText_spec (n / 3600) (List.mem_range.mpr (by omega)) with ⟨_, hhlen, hhread, hhchars⟩
  rcases partText_spec (n % 3600 / 60) (List.mem_range.mpr (by omega)) with
      ⟨_, hmlen, hmread, hmchars⟩
  rcases partText_spec (n % 3600 % 60) (List.mem_range.mpr (by omega)) with
      ⟨_, hslen, hsread, hschars⟩
  have hformatted : t.formattedHrsMinSec = '-' :: partsText (partText (-(n / 3600 : ℕ)))
      (partText (-(n % 3600 / 60 : ℕ))) (partText (-(n % 3600 % 60 : ℕ))) := by
    unfold formattedHrsMinSec
    rw [getHrsMinSecParts_of_neg hseconds, hsign]
    rfl
  rw [hformatted, parse_neg_partsText hhlen hmlen hslen (isSpace_partsText (isSpace_of_all hhchars)
    (isSpace_of_all hmchars) (isSpace_of_all hschars)), hhread, hmread, hsread]

/-- A negative minute or second makes the number another one: what is borrowed for it are
    hundreds, and what is carried are sixties. -/
theorem hmsSeconds_readPart_iff {hours minutes seconds : ℕ} (hm : minutes < 60)
    (hs : seconds < 60) :
    hmsSeconds (hours * 10000 + readPart minutes * 100 + readPart seconds)
        = hours * 3600 + minutes * 60 + seconds ↔
      (minutes = 0 ∨ 10 ≤ minutes) ∧ (seconds = 0 ∨ 10 ≤ seconds) := by
  have hread (part : ℕ) : 1 ≤ part ∧ part ≤ 9 ∧ readPart part = -part ∨
      (part = 0 ∨ 10 ≤ part) ∧ readPart part = part := by
    unfold readPart
    split <;> omega
  rcases hread minutes with ⟨hm1, hm9, hminutes⟩ | ⟨hgoodm, hminutes⟩ <;>
    rcases hread seconds with ⟨hs1, hs9, hseconds⟩ | ⟨hgoods, hseconds⟩ <;>
    rw [hminutes, hseconds, hmsSeconds]
  · split <;> omega
  · split <;> omega
  · split <;> omega
  · rw [if_pos (by omega)]
    omega

/-- The parts of a negative time are read with the right value if none of them has one digit
    that counts. -/
theorem seconds_readParts_iff {n : ℕ} (hpos : 0 < n) :
    (ofParts (readPart (n / 3600)) (readPart (n % 3600 / 60)) (readPart (n % 3600 % 60))).seconds =
      n
      ↔ ∀ part ∈ [n / 3600, n % 3600 / 60, n % 3600 % 60], part = 0 ∨ 10 ≤ part := by
  -- The three parts are named, so that the rest is linear.
  obtain ⟨hours, hhours⟩ : ∃ hours, n / 3600 = hours := ⟨_, rfl⟩
  obtain ⟨minutes, hminutes⟩ : ∃ minutes, n % 3600 / 60 = minutes := ⟨_, rfl⟩
  obtain ⟨seconds, hseconds⟩ : ∃ seconds, n % 3600 % 60 = seconds := ⟨_, rfl⟩
  have hn : (n : ℤ) = hours * 3600 + minutes * 60 + seconds := by omega
  have hm : minutes < 60 := by omega
  have hs : seconds < 60 := by omega
  have hbound (part : ℕ) (hpart : part < 60) : -9 ≤ readPart part := by
    unfold readPart
    split <;> omega
  have hminutes9 := hbound minutes hm
  have hseconds9 := hbound seconds hs
  rw [hhours, hminutes, hseconds]
  simp only [List.forall_mem_cons, List.not_mem_nil, false_imp_iff, implies_true, and_true]
  by_cases hhour : 1 ≤ hours ∧ hours ≤ 9
  · -- the hours are negative, and what is read is not positive
    have hread : readPart hours = -hours := if_pos hhour
    rw [hread, seconds_ofParts rfl (by rw [abs_neg, Nat.abs_cast]; omega), if_pos (by omega)]
    have hnonneg : 0 ≤ hmsSeconds (|-(hours : ℤ)| * 10000 + readPart minutes * 100
        + readPart seconds) := by
      rw [abs_neg, Nat.abs_cast, hmsSeconds]
      omega
    constructor
    · intro heq
      have hcast : (0 : ℚ) ≤ hmsSeconds (|-(hours : ℤ)| * 10000 + readPart minutes * 100
          + readPart seconds) := by exact_mod_cast hnonneg
      have hncast : (0 : ℚ) < n := by exact_mod_cast hpos
      linarith
    · omega
  · have hread : readPart hours = hours := if_neg hhour
    rw [hread, seconds_ofParts rfl (fun hneg => by omega), if_neg (by omega), Nat.abs_cast,
      ← Int.cast_natCast n, Int.cast_inj, hn, hmsSeconds_readPart_iff hm hs]
    omega

/-- Which times of less than a hundred hours come back from their text. -/
theorem parse_formatted_iff (parseQuantity : QString → CTime) (t : CTime) (n : ℤ)
    (h : IsWholeSeconds t n) (hrange : |n| < 360000) :
    IsWholeSeconds (parseFromString parseQuantity t.formattedHrsMinSec) n ↔
      0 ≤ n ∨ ∀ part ∈ [|n| / 3600, |n| % 3600 / 60, |n| % 3600 % 60], part = 0 ∨ 10 ≤ part := by
  by_cases hsign : 0 ≤ n
  · rcases Int.eq_ofNat_of_zero_le hsign with ⟨k, rfl⟩
    rw [Nat.abs_cast] at hrange
    exact ⟨fun _ => .inl hsign, fun _ => parse_formatted_of_nonneg parseQuantity h (by omega)⟩
  · -- The sign is read apart from the parts, and put on the parsed time.
    rcases Int.exists_eq_neg_ofNat (by omega : n ≤ 0) with ⟨k, rfl⟩
    rw [abs_neg, Nat.abs_cast] at hrange ⊢
    have hpos : 0 < k := by omega
    have hparse := parse_formatted_of_neg parseQuantity h hpos (by omega)
    have hparts : (∀ part ∈ [(k : ℤ) / 3600, (k : ℤ) % 3600 / 60, (k : ℤ) % 3600 % 60],
        part = 0 ∨ 10 ≤ part) ↔
        ∀ part ∈ [k / 3600, k % 3600 / 60, k % 3600 % 60], part = 0 ∨ 10 ≤ part := by
      simp only [List.forall_mem_cons, List.not_mem_nil, false_imp_iff, implies_true, and_true]
      omega
    rw [hparts, ← seconds_readParts_iff hpos, hparse]
    constructor
    · intro hback
      have hseconds := hback.seconds
      rw [seconds_setValueSameUnit_neg, Int.cast_neg, neg_inj] at hseconds
      exact .inr hseconds
    · intro hgood
      have hread := hgood.resolve_left (by omega)
      constructor
      case unit => exact unit_ofParts _ _ _
      case seconds => rw [seconds_setValueSameUnit_neg, hread, Int.cast_neg, Int.cast_natCast]

/-- Eleven hours and a half ago. -/
def elevenAndHalfHoursAgo : CTime := ⟨-41400, .s⟩

/-- It has two digits a part. -/
theorem eleven_and_half_hours_ago_comes_back :
    IsWholeSeconds (parseFromString (fun _ => ⟨0, .null⟩) elevenAndHalfHoursAgo.formattedHrsMinSec)
      (-41400) :=
  (parse_formatted_iff (fun _ => ⟨0, .null⟩) elevenAndHalfHoursAgo (-41400)
    ⟨by decide, by decide +kernel⟩ (by decide)).mpr (.inr (by decide))

/-- Five seconds ago. -/
def fiveSecondsAgo : CTime := ⟨-5, .s⟩

/-- Its text is `-00:00:-5`, from which five seconds are read that are not negative. -/
theorem five_seconds_ago_changes_sign :
    IsWholeSeconds fiveSecondsAgo (-5) ∧
    ¬ IsWholeSeconds (parseFromString (fun _ => ⟨0, .null⟩) fiveSecondsAgo.formattedHrsMinSec)
      (-5) := by
  refine ⟨⟨by decide, by decide +kernel⟩, fun h => ?_⟩
  have hread :
      (parseFromString (fun _ => ⟨0, .null⟩) fiveSecondsAgo.formattedHrsMinSec).seconds = 5 := by
    decide +kernel
  have hseconds := h.seconds
  rw [hread] at hseconds
  exact absurd hseconds (by norm_num)

end CTime

end NeoSwift.Pq
