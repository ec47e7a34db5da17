import NeoSwift.Pq.Length

/-!
# Speeds

`CSpeed` with its units. A speed without a unit is null. Numbers are exact.

## Main definitions

* `CSpeedUnit`, `CSpeed`: Units and speeds.
* `CSpeed.valueIn`: The value in a unit.
* `CSpeed.lessThan`: The order, up to the epsilon of the unit.
-/

namespace NeoSwift.Pq

/-- The units of speeds. -/
inductive CSpeedUnit where
  | null | m_s | kts | NM_h | ft_s | ft_min | km_h
  deriving DecidableEq

namespace CSpeedUnit

/-- The meters per second of one unit. -/
def factor : CSpeedUnit → ℚ
  | .null => 0
  | .m_s => 1
  | .kts => 1852 / 3600
  | .NM_h => 1852 / 3600
  | .ft_s => 3048 / 10000
  | .ft_min => 3048 / 10000 / 60
  | .km_h => 10 / 36

def getEpsilon : CSpeedUnit → ℚ
  | .null => 0
  | _ => 1 / 1000000000

/-- A value of another unit in this one. -/
def convertFrom (unit : CSpeedUnit) (value : ℚ) (other : CSpeedUnit) : ℚ :=
  if unit = .null ∨ other = .null then 0
  else if unit = other then value
  else value * other.factor / unit.factor

/-- With `qFuzzyIsNull`. -/
def isEpsilon (unit : CSpeedUnit) (value : ℚ) : Bool :=
  unit ≠ .null && (|value| ≤ 1 / 1000000000000 || |value| ≤ unit.getEpsilon)

end CSpeedUnit

/-- A speed with its unit. -/
structure CSpeed where
  m_value : ℚ
  unit : CSpeedUnit
  deriving DecidableEq

namespace CSpeed

/-- The constructor. -/
def create (value : ℚ) (unit : CSpeedUnit) : CSpeed :=
  ⟨if unit = .null then 0 else value, unit⟩

def null : CSpeed := create 0 .null

def isNull (s : CSpeed) : Bool := s.unit = .null

/-- `value(unit)`. -/
def valueIn (s : CSpeed) (unit : CSpeedUnit) : ℚ := unit.convertFrom s.m_value s.unit

def isNegativeWithEpsilonConsidered (s : CSpeed) : Bool :=
  !s.unit.isEpsilon s.m_value && s.m_value < 0

/-- `operator==`. -/
def equals (s other : CSpeed) : Bool :=
  if s.isNull then other.isNull
  else if other.isNull then false
  else |s.m_value - other.valueIn s.unit| ≤ s.unit.getEpsilon

/-- Null is greater than any speed. -/
def lessThan (s other : CSpeed) : Bool :=
  if s.equals other then false
  else if s.isNull || other.isNull then !s.isNull
  else s.m_value < other.valueIn s.unit

instance : HMul CSpeed ℚ CSpeed := ⟨fun s factor => { s with m_value := s.m_value * factor }⟩

end CSpeed

end NeoSwift.Pq
