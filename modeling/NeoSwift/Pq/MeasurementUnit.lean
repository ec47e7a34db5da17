import NeoSwift.Pq.Angle

/-!
# Units of Measurement

The unit classes as `pq/units.h` lists them. A unit has a name, a symbol, and how its values
are converted to the default unit of the class and back, and the null unit has no conversion.
A class offers its units as functions, and it has a list of them in which units are looked up.

Numbers are exact, and the factor of the radians is that of the constant `M_PI`. The functions
a unit converts with are told apart by what they are made of.

## Main definitions

* `Converter`: How a unit is converted.
* `CMeasurementUnit`: A unit.
* `UnitClass`: The units of a class.
* `PqClass`: The classes of quantities.

## Theorems

* `allUnits_offered`: What is looked up is offered.
-/

namespace NeoSwift.Pq

open CMathUtils

/-- The converters, the last two with a hundred for sixty. -/
inductive Converter where
  | identity
  | linear (factor : ℚ)
  | affine (factor offset : ℚ)
  | subdivision (factor : ℚ)
  | subdivision2 (factor : ℚ)
  deriving DecidableEq

namespace Converter

/-- A value in the default unit. -/
def toDefault : Converter → ℚ → ℚ
  | identity, value => value
  | linear factor, value => value * factor
  | affine factor offset, value => (value - offset) * factor
  | subdivision factor, value => CTimeUnit.subdivisionToDefault factor value
  | subdivision2 factor, value => CTimeUnit.subdivision2ToDefault factor value

/-- A value from the default unit. -/
def fromDefault : Converter → ℚ → ℚ
  | identity, value => value
  | linear factor, value => value / factor
  | affine factor offset, value => value / factor + offset
  | subdivision factor, value => CAngleUnit.subdivisionFromDefault factor value
  | subdivision2 factor, value => CAngleUnit.subdivision2FromDefault factor value

end Converter

/-- The data of a unit. The null unit has no converter. -/
structure CMeasurementUnit where
  name : QString
  symbol : QString
  converter : Option Converter
  displayDigits : ℕ
  epsilon : ℚ
  deriving DecidableEq

namespace CMeasurementUnit

/-- The unit of no quantity. -/
def nullUnit : CMeasurementUnit := ⟨"null", "null", none, 0, 0⟩

/-- A unit that converts, with the default for the epsilon. -/
def data (name symbol : String) (converter : Converter) (displayDigits : ℕ) : CMeasurementUnit :=
  ⟨name.toList, symbol.toList, some converter, displayDigits, 1 / 1000000000⟩

/-- Without a converter. -/
def isNull (unit : CMeasurementUnit) : Bool := unit.converter.isNone

/-- Values of another unit in this one. -/
def convertFrom (unit : CMeasurementUnit) (value : ℚ) (other : CMeasurementUnit) : ℚ :=
  match unit.converter, other.converter with
  | some own, some others =>
    if own = others then value else own.fromDefault (others.toDefault value)
  | _, _ => 0

end CMeasurementUnit

/-- A class of units. -/
structure UnitClass where
  defaultUnit : CMeasurementUnit
  /-- The public functions that return a unit. -/
  units : List CMeasurementUnit
  allUnits : List CMeasurementUnit

/-! ## The classes -/

open CMeasurementUnit

namespace CLengthUnit.Units

/-- One metre. -/
def m : CMeasurementUnit := data "meter" "m" .identity 2
/-- 1852 metres. -/
def NM : CMeasurementUnit := data "nautical mile" "NM" (.linear 1852) 3
/-- 0.3048 metres. -/
def ft : CMeasurementUnit := data "foot" "ft" (.linear (3048 / 10000)) 1
/-- 1000 metres. -/
def km : CMeasurementUnit := data "kilometer" "km" (.linear 1000) 3
/-- A hundredth of a metre. -/
def cm : CMeasurementUnit := data "centimeter" "cm" (.linear (1 / 100)) 1
/-- An international mile. -/
def mi : CMeasurementUnit := data "mile" "mi" (.linear (1609344 / 1000)) 3
/-- A mile of visibilities. -/
def SM : CMeasurementUnit := data "statute mile" "SM" (.linear (16093472 / 10000)) 3

/-- Lengths. -/
def unitClass : UnitClass where
  defaultUnit := m
  units := [m, NM, ft, km, cm, mi, SM]
  allUnits := [nullUnit, cm, ft, km, m, mi, SM, NM]

end CLengthUnit.Units

namespace CAngleUnit.Units

/-- Radians, by `M_PI`. -/
def rad : CMeasurementUnit := data "radian" "rad" (.linear (180 / M_PI)) 2
/-- Degrees. -/
def deg : CMeasurementUnit := data "degree" "deg" .identity 2
/-- Two digits each of minutes and seconds behind the degrees. -/
def sexagesimalDeg : CMeasurementUnit := data "degree, minute, second" "DMS" (.subdivision2 1) 4
/-- Two digits of minutes behind the degrees. -/
def sexagesimalDegMin : CMeasurementUnit := data "degree, minute" "MinDec" (.subdivision 1) 4

/-- Angles. -/
def unitClass : UnitClass where
  defaultUnit := deg
  units := [rad, deg, sexagesimalDeg, sexagesimalDegMin]
  allUnits := [nullUnit, deg, rad, sexagesimalDeg, sexagesimalDegMin]

end CAngleUnit.Units

namespace CFrequencyUnit.Units

/-- One a second. -/
def Hz : CMeasurementUnit := data "hertz" "Hz" .identity 2
/-- 1000 hertz. -/
def kHz : CMeasurementUnit := data "kilohertz" "kHz" (.linear 1000) 1
/-- A million hertz. -/
def MHz : CMeasurementUnit := data "megahertz" "MHz" (.linear 1000000) 2
/-- A thousand million hertz. -/
def GHz : CMeasurementUnit := data "gigahertz" "GHz" (.linear 1000000000) 2

/-- Frequencies. -/
def unitClass : UnitClass where
  defaultUnit := Hz
  units := [Hz, kHz, MHz, GHz]
  allUnits := [nullUnit, GHz, Hz, kHz, MHz]

end CFrequencyUnit.Units

namespace CMassUnit.Units

/-- One kilogram. -/
def kg : CMeasurementUnit := data "kilogram" "kg" .identity 1
/-- A thousandth of a kilogram. -/
def g : CMeasurementUnit := data "gram" "g" (.linear (1 / 1000)) 0
/-- 1000 kilograms. -/
def tonne : CMeasurementUnit := data "tonne" "t" (.linear (1 / 1000 * 1000000)) 3
/-- 2000 pounds, in grams as the source has it. -/
def shortTon : CMeasurementUnit :=
  data "short ton" "ton" (.linear (45359237 / 100000000 * 1000 * 2)) 3
/-- One pound. -/
def lb : CMeasurementUnit := data "pound" "lb" (.linear (45359237 / 100000000)) 1

/-- Masses. -/
def unitClass : UnitClass where
  defaultUnit := kg
  units := [kg, g, tonne, shortTon, lb]
  allUnits := [nullUnit, g, kg, lb, tonne, shortTon]

end CMassUnit.Units

namespace CPressureUnit.Units

/-- A hundredth of a hectopascal. -/
def Pa : CMeasurementUnit := data "pascal" "Pa" (.linear (1 / 100)) 2
/-- A hundred pascals. -/
def hPa : CMeasurementUnit := data "hectopascal" "hPa" .identity 2
/-- Pounds per square inch. -/
def psi : CMeasurementUnit := data "pound per square inch" "psi" (.linear (68948 / 1000)) 2
/-- 1000 hectopascals. -/
def bar : CMeasurementUnit := data "bar" "bar" (.linear 1000) 1
/-- One hectopascal. -/
def mbar : CMeasurementUnit := data "millibar" "mbar" .identity 1
/-- Inches of mercury. -/
def inHg : CMeasurementUnit := data "inch of mercury" "inHg" (.linear (3386389 / 100000)) 2
/-- Millimetres of mercury, by the factor of the source. -/
def mmHg : CMeasurementUnit :=
  data "millimeter of mercury" "mmHg" (.linear (860142806 / 1000000)) 2

/-- Pressures. -/
def unitClass : UnitClass where
  defaultUnit := hPa
  units := [Pa, hPa, psi, bar, mbar, inHg, mmHg]
  allUnits := [nullUnit, bar, hPa, inHg, mmHg, mbar, psi]

end CPressureUnit.Units

namespace CTemperatureUnit.Units

/-- Kelvins. -/
def K : CMeasurementUnit := data "Kelvin" "K" (.affine 1 (27315 / 100)) 2
/-- Degrees Celsius. -/
def C : CMeasurementUnit := data "centigrade" "C" .identity 2
/-- Degrees Fahrenheit. -/
def F : CMeasurementUnit := data "Fahrenheit" "F" (.affine (5 / 9) 32) 2

/-- Temperatures. -/
def unitClass : UnitClass where
  defaultUnit := C
  units := [K, C, F]
  allUnits := [nullUnit, C, F, K]

end CTemperatureUnit.Units

namespace CSpeedUnit.Units

/-- Metres a second. -/
def m_s : CMeasurementUnit := data "meter per second" "m/s" .identity 2
/-- Nautical miles an hour. -/
def kts : CMeasurementUnit := data "knot" "kts" (.linear (1852 / 3600)) 1
/-- The same as knots. -/
def NM_h : CMeasurementUnit := data "nautical mile per hour" "NM/h" (.linear (1852 / 3600)) 1
/-- Feet a second. -/
def ft_s : CMeasurementUnit := data "foot per second" "ft/s" (.linear (3048 / 10000)) 0
/-- Feet a minute. -/
def ft_min : CMeasurementUnit := data "foot per minute" "ft/min" (.linear (3048 / 10000 / 60)) 0
/-- Kilometres an hour. -/
def km_h : CMeasurementUnit := data "kilometer per hour" "km/h" (.linear (1 / (36 / 10))) 1

/-- Speeds. -/
def unitClass : UnitClass where
  defaultUnit := m_s
  units := [m_s, kts, NM_h, ft_s, ft_min, km_h]
  allUnits := [nullUnit, ft_min, ft_s, km_h, kts, m_s, NM_h]

end CSpeedUnit.Units

namespace CTimeUnit.Units

/-- Seconds. -/
def s : CMeasurementUnit := data "second" "s" .identity 1
/-- Milliseconds. -/
def ms : CMeasurementUnit := data "millisecond" "ms" (.linear (1 / 1000)) 0
/-- Hours. -/
def h : CMeasurementUnit := data "hour" "h" (.linear (60 * 60)) 1
/-- Minutes. -/
def min : CMeasurementUnit := data "minute" "min" (.linear 60) 2
/-- Days. -/
def d : CMeasurementUnit := data "day" "d" (.linear (60 * 60 * 24)) 1
/-- Two digits each of minutes and seconds behind the hours. -/
def hms : CMeasurementUnit := data "hour, minute, second" "hms" (.subdivision2 (60 * 60)) 4
/-- Two digits of minutes behind the hours. -/
def hrmin : CMeasurementUnit := data "hour, minute" "hm" (.subdivision (60 * 60)) 3
/-- Two digits of seconds behind the minutes. -/
def minsec : CMeasurementUnit := data "minute, second" "minsec" (.subdivision 60) 2

/-- Times. -/
def unitClass : UnitClass where
  defaultUnit := s
  units := [s, ms, h, min, d, hms, hrmin, minsec]
  allUnits := [nullUnit, d, h, hms, hrmin, min, ms, s]

end CTimeUnit.Units

namespace CAccelerationUnit.Units

/-- Metres a second, every second. -/
def m_s2 : CMeasurementUnit := data "meter per second per second" "m/s^2" .identity 1
/-- Feet a second, every second. -/
def ft_s2 : CMeasurementUnit :=
  data "foot per second per second" "ft/s^2" (.linear (3048 / 10000)) 0

/-- Accelerations. -/
def unitClass : UnitClass where
  defaultUnit := m_s2
  units := [m_s2, ft_s2]
  allUnits := [nullUnit, ft_s2, m_s2]

end CAccelerationUnit.Units

/-- The classes of quantities. -/
inductive PqClass where
  | angle | length | pressure | frequency | mass | temperature | speed | time | acceleration
  deriving DecidableEq

namespace PqClass

/-- The units of each class of quantities. -/
def unitClass : PqClass → UnitClass
  | angle => CAngleUnit.Units.unitClass
  | length => CLengthUnit.Units.unitClass
  | pressure => CPressureUnit.Units.unitClass
  | frequency => CFrequencyUnit.Units.unitClass
  | mass => CMassUnit.Units.unitClass
  | temperature => CTemperatureUnit.Units.unitClass
  | speed => CSpeedUnit.Units.unitClass
  | time => CTimeUnit.Units.unitClass
  | acceleration => CAccelerationUnit.Units.unitClass

end PqClass

namespace UnitClass

/-- The units of a class, and the null unit. -/
def offered (c : UnitClass) : List CMeasurementUnit := nullUnit :: c.units

end UnitClass

theorem allUnits_offered (c : PqClass) : c.unitClass.allUnits ⊆ c.unitClass.offered := by
  cases c <;> decide +kernel

theorem defaultUnit_offered (c : PqClass) : c.unitClass.defaultUnit ∈ c.unitClass.offered := by
  cases c <;> decide +kernel

end NeoSwift.Pq
