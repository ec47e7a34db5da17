import NeoSwift.Pq.Time

/-!
# Angles

`CAngle` with its units. The default unit are degrees. An angle without a unit is null.
Numbers are exact, and the factor of the radians is that of the constant `M_PI`.

## Main definitions

* `CAngleUnit`, `CAngle`: Units and angles.
* `CAngle.valueIn`: The value in a unit.
* `CAngle.equals`: Equality up to the epsilon of the unit.
* `CAngleUnit.IsLinear`: The units in which values add up.

## Theorems

* `CAngle.valueIn_deg_add`, `CAngle.valueIn_deg_sub`: The degrees of sums and differences.
-/

namespace NeoSwift.Pq

open CMathUtils

/-- The number in double precision. -/
def M_PI : ℚ := 884279719003555 / 281474976710656

/-- The units of angles, those with minutes and seconds included. -/
inductive CAngleUnit where
  | null | rad | deg | sexagesimalDeg | sexagesimalDegMin
  deriving DecidableEq

namespace CAngleUnit

/-- To degrees. -/
def toDefault : CAngleUnit → ℚ → ℚ
  | .null, _ => 0
  | .rad, value => value * (180 / M_PI)
  | .deg, value => value
  | .sexagesimalDeg, value => CTimeUnit.subdivision2ToDefault 1 value
  | .sexagesimalDegMin, value => CTimeUnit.subdivisionToDefault 1 value

/-- `SubdivisionConverter` with a hundred for sixty. -/
def subdivisionFromDefault (factor value : ℚ) : ℚ :=
  let part1 := trunc (value / factor)
  let remaining := fmod (value / factor) 1
  part1 + remaining * 60 / 100

/-- `SubdivisionConverter2` with a hundred for sixty. -/
def subdivision2FromDefault (factor value : ℚ) : ℚ :=
  let part1 := trunc (value / factor)
  let remaining := fmod (value / factor) 1
  let part2 := trunc (remaining * 60)
  let part3 := fmod (remaining * 60) 1 * 60
  part1 + part2 / 100 + part3 / (100 * 100)

/-- A value in degrees, in the unit. -/
def fromDefault : CAngleUnit → ℚ → ℚ
  | .null, _ => 0
  | .rad, value => value / (180 / M_PI)
  | .deg, value => value
  | .sexagesimalDeg, value => subdivision2FromDefault 1 value
  | .sexagesimalDegMin, value => subdivisionFromDefault 1 value

def getEpsilon : CAngleUnit → ℚ
  | .null => 0
  | _ => 1 / 1000000000

/-- A value of another unit in this one, by way of degrees. -/
def convertFrom (unit : CAngleUnit) (value : ℚ) (other : CAngleUnit) : ℚ :=
  if unit = .null ∨ other = .null then 0
  else if unit = other then value
  else unit.fromDefault (other.toDefault value)

end CAngleUnit

/-- An angle with its unit. -/
structure CAngle where
  m_value : ℚ
  unit : CAngleUnit
  deriving DecidableEq

namespace CAngle

/-- The constructor. -/
def create (value : ℚ) (unit : CAngleUnit) : CAngle :=
  ⟨if unit = .null then 0 else value, unit⟩

def null : CAngle := create 0 .null

def isNull (a : CAngle) : Bool := a.unit = .null

/-- `value(unit)`. -/
def valueIn (a : CAngle) (unit : CAngleUnit) : ℚ := unit.convertFrom a.m_value a.unit

/-- `operator==`. -/
def equals (a other : CAngle) : Bool :=
  if a.isNull then other.isNull
  else if other.isNull then false
  else |a.m_value - other.valueIn a.unit| ≤ a.unit.getEpsilon

/-- `operator+`, in the unit of the angle on the left. -/
instance : Add CAngle where
  add a other := { a with m_value := a.m_value + other.valueIn a.unit }

/-- `operator-`, in the unit of the angle on the left. -/
instance : Sub CAngle where
  sub a other := { a with m_value := a.m_value - other.valueIn a.unit }

end CAngle

/-! ## Linear units -/

namespace CAngleUnit

/-- The units that are multiples of each other. The sexagesimal ones have their decimals in
    minutes. -/
def IsLinear (unit : CAngleUnit) : Prop := unit = .deg ∨ unit = .rad

/-- The degrees in a linear unit. -/
def factor : CAngleUnit → ℚ
  | .rad => 180 / M_PI
  | _ => 1

theorem factor_ne_zero (unit : CAngleUnit) : unit.factor ≠ 0 := by
  cases unit <;> norm_num [factor, M_PI]

theorem IsLinear.convertFrom {unit other : CAngleUnit} (h : unit.IsLinear) (hother : other.IsLinear)
    (value : ℚ) : unit.convertFrom value other = value * other.factor / unit.factor := by
  rcases h with rfl | rfl <;> rcases hother with rfl | rfl
  · simp [CAngleUnit.convertFrom, factor]
  · simp [CAngleUnit.convertFrom, factor, fromDefault, toDefault]
  · simp [CAngleUnit.convertFrom, factor, fromDefault, toDefault]
  · simp [CAngleUnit.convertFrom, factor_ne_zero .rad]

end CAngleUnit

namespace CAngle

open CAngleUnit

theorem valueIn_deg {a : CAngle} (h : a.unit.IsLinear) :
    a.valueIn .deg = a.m_value * a.unit.factor := by
  have hdeg : CAngleUnit.deg.IsLinear := .inl rfl
  have hone : CAngleUnit.deg.factor = 1 := rfl
  rw [valueIn, hdeg.convertFrom h, hone, div_one]

/-- The value of one angle in the unit of another, in degrees. -/
theorem valueIn_mul_factor {a b : CAngle} (ha : a.unit.IsLinear) (hb : b.unit.IsLinear) :
    b.valueIn a.unit * a.unit.factor = b.valueIn .deg := by
  rw [valueIn, ha.convertFrom hb, div_mul_cancel₀ _ (factor_ne_zero a.unit), valueIn_deg hb]

theorem valueIn_deg_add {a b : CAngle} (ha : a.unit.IsLinear) (hb : b.unit.IsLinear) :
    (a + b).valueIn .deg = a.valueIn .deg + b.valueIn .deg := by
  have hunit : (a + b).unit.IsLinear := ha
  rw [valueIn_deg hunit, valueIn_deg ha, ← valueIn_mul_factor ha hb, ← add_mul]
  rfl

theorem valueIn_deg_sub {a b : CAngle} (ha : a.unit.IsLinear) (hb : b.unit.IsLinear) :
    (a - b).valueIn .deg = a.valueIn .deg - b.valueIn .deg := by
  have hunit : (a - b).unit.IsLinear := ha
  rw [valueIn_deg hunit, valueIn_deg ha, ← valueIn_mul_factor ha hb, ← sub_mul]
  rfl

end CAngle

end NeoSwift.Pq
