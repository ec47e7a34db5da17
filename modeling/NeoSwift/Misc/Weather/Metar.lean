import NeoSwift.Qt.Text
import NeoSwift.Pq.Length

/-!
# METAR

`CMetar`: what is known of the weather at an airport from a report. There are the wind, the
visibility, the temperature, the dew point and the altimeter, a list of what the present
weather is, and one of cloud layers.

The phenomena of a present weather are a set of bits. Their codes are not part of it; the
decoder knows them.

Quantities are a number with a unit, and two of them are the same here when both are.

## Main definitions

* `CWindLayer`, `CPresentWeather`, `CCloudLayer`: The parts of a report.
* `WeatherPhenomenon`, `WeatherPhenomenon.flag`: The phenomena and their bits.
* `CMetar`: The report.

## Theorems

* `bit_injective`: Each phenomenon has a bit of its own.
* `flags_eq_iff`: Sets of phenomena are compared by their bits.
-/

namespace NeoSwift.Misc

namespace Weather

open Pq

/-- The units of wind speeds in a METAR. -/
inductive CSpeedUnit where
  | m_s | kts | km_h
  deriving DecidableEq

structure CSpeed where
  value : ℚ := 0
  unit : CSpeedUnit := .m_s
  deriving DecidableEq

/-- The units of pressures in a METAR. -/
inductive CPressureUnit where
  | hPa | inHg
  deriving DecidableEq

structure CPressure where
  value : ℚ := 0
  unit : CPressureUnit := .hPa
  deriving DecidableEq

/-- The level is always the ground; angles are in degrees. -/
structure CWindLayer where
  m_directionMain : ℤ := 0
  m_directionFrom : ℤ := 0
  m_directionTo : ℤ := 0
  m_directionVariable : Bool := false
  m_speed : CSpeed := {}
  m_gustSpeed : CSpeed := {}
  deriving DecidableEq

/-- How strong the weather is, `moderate` if nothing is said. -/
inductive Intensity where
  | light | moderate | heavy | inVincinity
  deriving DecidableEq

/-- What kind of weather it is. -/
inductive Descriptor where
  | none | shallow | patches | partialCover | drifting | blowing | showers | thunderstorm | freezing
  deriving DecidableEq

/-- What falls or hangs in the air. -/
inductive WeatherPhenomenon where
  | drizzle | rain | snow | snowGrains | iceCrystals | icePellets | hail | snowPellets | unknown
  | mist | fog | smoke | volcanicAsh | dust | sand | haze | dustSandWhirls | squalls
  | tornadoOrWaterspout | funnelCloud | sandstorm | duststorm
  deriving DecidableEq

namespace WeatherPhenomenon

/-- The position of the bit. -/
def bit : WeatherPhenomenon → ℕ
  | .drizzle => 0
  | .rain => 1
  | .snow => 2
  | .snowGrains => 3
  | .iceCrystals => 4
  | .icePellets => 5
  | .hail => 6
  | .snowPellets => 7
  | .unknown => 8
  | .mist => 9
  | .fog => 10
  | .smoke => 11
  | .volcanicAsh => 12
  | .dust => 13
  | .sand => 14
  | .haze => 15
  | .dustSandWhirls => 16
  | .squalls => 17
  | .tornadoOrWaterspout => 18
  | .funnelCloud => 19
  | .sandstorm => 20
  | .duststorm => 21

/-- The value of the enumerator. -/
def flag (phenomenon : WeatherPhenomenon) : ℕ := 1 <<< phenomenon.bit

theorem bit_injective : Function.Injective bit := by
  intro p q h
  cases p <;> cases q <;> first | rfl | cases h

end WeatherPhenomenon

/-- The bits of some phenomena. -/
def flags (phenomena : List WeatherPhenomenon) : ℕ :=
  phenomena.foldr (fun phenomenon bits => phenomenon.flag ||| bits) 0

theorem testBit_flags (phenomena : List WeatherPhenomenon) (i : ℕ) :
    (flags phenomena).testBit i = true ↔ ∃ p ∈ phenomena, p.bit = i := by
  induction phenomena with
  | nil =>
    change Nat.testBit 0 i = true ↔ _
    simp
  | cons p phenomena ih =>
    change (p.flag ||| flags phenomena).testBit i = true ↔ _
    rw [Nat.testBit_or, Bool.or_eq_true, ih, WeatherPhenomenon.flag, Nat.one_shiftLeft,
      Nat.testBit_two_pow]
    simp

/-- Sets of phenomena are compared by their bits. -/
theorem flags_eq_iff (phenomena phenomena' : List WeatherPhenomenon) :
    flags phenomena = flags phenomena' ↔ ∀ p, p ∈ phenomena ↔ p ∈ phenomena' := by
  constructor
  · intro h p
    have hbit : ∀ phenomena, (flags phenomena).testBit p.bit = true ↔ p ∈ phenomena := by
      intro phenomena
      rw [testBit_flags]
      simp [WeatherPhenomenon.bit_injective.eq_iff]
    rw [← hbit phenomena, ← hbit phenomena', h]
  · intro h
    refine Nat.eq_of_testBit_eq fun i => Bool.eq_iff_iff.mpr ?_
    rw [testBit_flags, testBit_flags]
    simp [h]

/-- A present weather group: one intensity, one descriptor, flags of phenomena. -/
structure CPresentWeather where
  m_intensity : Intensity := .moderate
  m_descriptor : Descriptor := .none
  m_weatherPhenomena : ℕ
  deriving DecidableEq

/-- How much of the sky a layer covers. -/
inductive Coverage where
  | none | few | scattered | broken | overcast | coverageUnknown
  deriving DecidableEq

/-- The value of the enumerator. -/
def Coverage.toNat : Coverage → ℕ
  | .none => 0
  | .few => 1
  | .scattered => 2
  | .broken => 3
  | .overcast => 4
  | .coverageUnknown => 5

/-- The base is in feet above the ground, and nothing is known of the top. -/
structure CCloudLayer where
  m_base : ℤ
  m_coveragePercent : ℕ
  deriving DecidableEq

/-- The constructor, with `setCoverage`. -/
def CCloudLayer.create (base : ℤ) (coverage : Coverage) : CCloudLayer :=
  ⟨base, 100 * coverage.toNat / 4⟩

/-- A routine or a special report. -/
inductive ReportType where
  | metar | speci
  deriving DecidableEq

/-- Temperatures are in degrees Celsius. -/
structure CMetar where
  m_metarMessage : QString := []
  m_reportType : ReportType := .metar
  m_airport : QString := []
  m_reportDay : ℤ := 0
  m_reportTime : ℤ × ℤ := (0, 0)
  m_isAutomated : Bool := false
  m_windLayer : CWindLayer := {}
  m_visibility : CLength := CLength.create 10000 .km
  m_presentWeathers : List CPresentWeather := []
  m_cloudLayers : List CCloudLayer := []
  m_temperature : ℤ := 0
  m_dewPoint : ℤ := 0
  m_altimeter : CPressure := {}

namespace CMetar

/-- Ceiling and visibility OK: no weather and no clouds. -/
def setCavok (metar : CMetar) : CMetar :=
  { metar with
    m_visibility := CLength.create 10000 .km
    m_presentWeathers := []
    m_cloudLayers := [] }

def addPresentWeather (metar : CMetar) (presentWeather : CPresentWeather) : CMetar :=
  { metar with m_presentWeathers := metar.m_presentWeathers ++ [presentWeather] }

def addCloudLayer (metar : CMetar) (cloudLayer : CCloudLayer) : CMetar :=
  { metar with m_cloudLayers := metar.m_cloudLayers ++ [cloudLayer] }

def removeAllClouds (metar : CMetar) : CMetar := { metar with m_cloudLayers := [] }

end CMetar

end Weather

end NeoSwift.Misc
