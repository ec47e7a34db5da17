import NeoSwift.Misc.Weather.MetarDecoder

/-!
# METAR Reports

The groups of a report, as they are meant and as they are written. A report is a sequence of
them in a fixed order; its text has one blank between any two. All groups have a value here:
the slashes which stand for a missing one are left out, and so is an altimeter of zero.

The present weather is written in the codes of WMO table 4678, which the decoder names and
uses for the recent weather. A funnel cloud and a tornado have the same code there. A group
has an intensity, at most one descriptor and up to four phenomena, as in the expression of the
decoder.

The decoder has no place for runway visual ranges, recent weather and wind shear, so only the
other groups can be carried.

## Main definitions

* `WindGroup`, `VisibilityGroup`, `RunwayRange`, `WeatherGroup`, `SkyGroup`,
  `SignedTemperature`, `AltimeterGroup`: The groups.
* `MetarReport`, `MetarReport.text`: A report and how it is written.
* `MetarReport.Carries`: The groups are all in the decoded report.
-/

namespace NeoSwift.Misc

namespace Weather

open Pq

/-- A number with zeros in front. -/
def padded (width n : ℕ) : QString := Numeral.lastDigits width n

/-- Words with a blank behind each of them. -/
def spaced (words : List QString) : QString := words.flatMap fun word => word ++ [' ']

/-- As it is written. -/
def ReportType.text : ReportType → QString
  | .metar => "METAR"
  | .speci => "SPECI"

/-- Four capital letters or digits. -/
abbrev AirportText := { s : QString // s.length = 4 ∧ ∀ c ∈ s, c.isUpper = true ∨ c.isDigit = true }

/-- A day of the month and a time of the day. -/
structure ReportTime where
  day : ℕ
  hour : ℕ
  minute : ℕ
  day_range : 1 ≤ day ∧ day ≤ 31
  hour_le : hour ≤ 23
  minute_le : minute ≤ 59

/-- Two digits each and a `Z`. -/
def ReportTime.text (time : ReportTime) : QString :=
  padded 2 time.day ++ padded 2 time.hour ++ padded 2 time.minute ++ ['Z']

/-- Automatic, or with the indicator of a correction. -/
inductive StatusGroup where
  | auto
  | correction (indicator : { s : QString // s.length = 3 ∧ ∀ c ∈ s, c.isUpper = true })

/-- As it is written. -/
def StatusGroup.text : StatusGroup → QString
  | .auto => "AUTO"
  | .correction indicator => indicator.1

/-- Whether the report is automatic. -/
def StatusGroup.isAuto : StatusGroup → Bool
  | .auto => true
  | .correction _ => false

/-- How the speed is given. -/
inductive WindUnit where
  | kt | mps | kph | kmh

namespace WindUnit

/-- As it is written. -/
def text : WindUnit → QString
  | .kt => "KT"
  | .mps => "MPS"
  | .kph => "KPH"
  | .kmh => "KMH"

/-- As the decoder stores it. -/
def unit : WindUnit → CSpeedUnit
  | .kt => .kts
  | .mps => .m_s
  | .kph => .km_h
  | .kmh => .km_h

end WindUnit

/-- The direction is `none` where it is variable. -/
structure WindGroup where
  direction : Option (Fin 1000)
  speed : Fin 1000
  gustSpeed : Option (Fin 1000)
  unit : WindUnit

/-- Two digits, or three if required. -/
def speedText (speed : ℕ) : QString := if speed < 100 then padded 2 speed else padded 3 speed

namespace WindGroup

variable (wind : WindGroup)

/-- Three digits, or that it varies. -/
def directionText : QString :=
  match wind.direction with
  | none => "VRB"
  | some direction => padded 3 direction

/-- Behind a `G`, if there are gusts. -/
def gustText : QString :=
  match wind.gustSpeed with
  | none => []
  | some gustSpeed => 'G' :: speedText gustSpeed

/-- Direction, speed, gusts and unit. -/
def text : QString :=
  wind.directionText ++ speedText wind.speed ++ wind.gustText ++ wind.unit.text

end WindGroup

/-- Between two directions. -/
def variationText (variation : Fin 1000 × Fin 1000) : QString :=
  padded 3 variation.1 ++ 'V' :: padded 3 variation.2

/-- Of one digit each, and not zero. -/
structure Fraction where
  numerator : Fin 10
  denominator : Fin 10
  numerator_pos : 0 < numerator.val
  denominator_pos : 0 < denominator.val

namespace Fraction

/-- With a slash. -/
def text (fraction : Fraction) : QString :=
  padded 1 fraction.numerator ++ '/' :: padded 1 fraction.denominator

/-- As a number. -/
def value (fraction : Fraction) : ℚ := fraction.numerator.val / fraction.denominator.val

end Fraction

/-- One digit, or two. -/
def distanceText (distance : ℕ) : QString :=
  if distance < 10 then padded 1 distance else padded 2 distance

/-- How a distance is given. -/
inductive DistanceUnit where
  | sm | km

namespace DistanceUnit

/-- As it is written. -/
def text : DistanceUnit → QString
  | .sm => "SM"
  | .km => "KM"

/-- As the decoder stores it. -/
def unit : DistanceUnit → CLengthUnit
  | .sm => .sm
  | .km => .km

end DistanceUnit

/-- What is said about the visibility. -/
inductive VisibilityGroup where
  | cavok
  | meters (visibility : Fin 10000) (noVariation : Bool)
      (direction : Option { d : QString // d ∈ getCardinalDirections })
  | whole (distance : Fin 100) (unit : DistanceUnit)
  | fraction (below : Bool) (quotient : Fraction) (unit : DistanceUnit)
  | mixed (distance : Fin 100) (quotient : Fraction) (unit : DistanceUnit)

namespace VisibilityGroup

/-- Its words, two for a whole and a fraction. -/
def words : VisibilityGroup → List QString
  | .cavok => ["CAVOK"]
  | .meters visibility noVariation direction =>
      [padded 4 visibility ++ (if noVariation then "NDV".toList else [])
        ++ direction.elim [] Subtype.val]
  | .whole distance unit => [distanceText distance ++ unit.text]
  | .fraction below quotient unit => [(if below then ['M'] else []) ++ quotient.text ++ unit.text]
  | .mixed distance quotient unit => [distanceText distance, quotient.text ++ unit.text]

/-- `CAVOK` is what `setCavok` sets. -/
def value : VisibilityGroup → CLength
  | .cavok => CLength.create 10000 .km
  | .meters visibility _ _ => CLength.create visibility.val .m
  | .whole distance unit => CLength.create distance.val unit.unit
  | .fraction _ quotient unit => CLength.create quotient.value unit.unit
  | .mixed distance quotient unit => CLength.create (distance.val + quotient.value) unit.unit

end VisibilityGroup

/-- The side of a runway, or several. -/
abbrev RunwaySides := { s : List Char // ∀ c ∈ s, c = 'L' ∨ c = 'C' ∨ c = 'R' }

/-- Whether the range falls, stays or rises. -/
inductive RunwayTrend where
  | down | none | up

/-- Its letter. -/
def RunwayTrend.letter : RunwayTrend → Char
  | .down => 'D'
  | .none => 'N'
  | .up => 'U'

/-- The range may be more or less than what is written, and it may vary. -/
structure RunwayRange where
  runway : Fin 100
  sides : RunwaySides
  bound : Option Bool
  range : Fin 10000
  variability : Option (Fin 10000)
  feet : Bool
  trend : Option (Bool × RunwayTrend)

namespace RunwayRange

variable (range : RunwayRange)

/-- More or less than the range. -/
def boundText : QString := range.bound.elim [] fun more => if more then ['P'] else ['M']

/-- The range it varies to. -/
def variabilityText : QString := range.variability.elim [] fun variability =>
    'V' :: padded 4 variability

/-- The unit, if it is not metres. -/
def feetText : QString := if range.feet then "FT" else []

/-- With or without a slash. -/
def trendText : QString :=
  range.trend.elim [] fun trend => (if trend.1 then ['/'] else []) ++ [trend.2.letter]

/-- The runway, and its visual range behind a slash. -/
def text : QString :=
  'R' :: (padded 2 range.runway ++ range.sides.1) ++ '/' :: range.boundText
    ++ padded 4 range.range ++ range.variabilityText ++ range.feetText ++ range.trendText

end RunwayRange

/-- The sign in front. -/
def Intensity.text : Intensity → QString
  | .light => ['-']
  | .moderate => []
  | .heavy => ['+']
  | .inVincinity => ['V', 'C']

/-- The code of a descriptor in the table. -/
def Descriptor.code : Descriptor → Option QString
  | .none => Option.none
  | .shallow => some ['M', 'I']
  | .patches => some ['B', 'C']
  | .partialCover => some ['P', 'R']
  | .drifting => some ['D', 'R']
  | .blowing => some ['B', 'L']
  | .showers => some ['S', 'H']
  | .thunderstorm => some ['T', 'S']
  | .freezing => some ['F', 'Z']

/-- The code of a phenomenon in the table. -/
def WeatherPhenomenon.code : WeatherPhenomenon → QString
  | .drizzle => ['D', 'Z']
  | .rain => ['R', 'A']
  | .snow => ['S', 'N']
  | .snowGrains => ['S', 'G']
  | .iceCrystals => ['I', 'C']
  | .icePellets => ['P', 'E']
  | .hail => ['G', 'R']
  | .snowPellets => ['G', 'S']
  | .unknown => ['U', 'P']
  | .mist => ['B', 'R']
  | .fog => ['F', 'G']
  | .smoke => ['F', 'U']
  | .volcanicAsh => ['V', 'A']
  | .dust => ['D', 'U']
  | .sand => ['S', 'A']
  | .haze => ['H', 'Z']
  | .dustSandWhirls => ['P', 'O']
  | .squalls => ['S', 'Q']
  | .tornadoOrWaterspout => ['F', 'C']
  | .funnelCloud => ['F', 'C']
  | .sandstorm => ['S', 'S']
  | .duststorm => ['D', 'S']

/-- At most four phenomena, and one unless there is a descriptor. -/
structure WeatherGroup where
  intensity : Intensity
  descriptor : Descriptor
  phenomena : List WeatherPhenomenon
  phenomena_le : phenomena.length ≤ 4
  something : descriptor ≠ .none ∨ phenomena ≠ []

namespace WeatherGroup

variable (group : WeatherGroup)

/-- The descriptor and the phenomena. -/
def codes : List QString :=
  group.descriptor.code.toList ++ group.phenomena.map WeatherPhenomenon.code

/-- All of it in one word. -/
def text : QString := group.intensity.text ++ group.codes.flatten

/-- As the decoder stores it. -/
def value : CPresentWeather := ⟨group.intensity, group.descriptor, flags group.phenomena⟩

end WeatherGroup

/-- How much of the sky is covered. -/
inductive CloudAmount where
  | few | sct | bkn | ovc

namespace CloudAmount

/-- As it is written. -/
def text : CloudAmount → QString
  | .few => "FEW"
  | .sct => "SCT"
  | .bkn => "BKN"
  | .ovc => "OVC"

/-- As the decoder stores it. -/
def coverage : CloudAmount → Coverage
  | .few => .few
  | .sct => .scattered
  | .bkn => .broken
  | .ovc => .overcast

end CloudAmount

/-- The base is in hundreds of feet. -/
structure CloudGroup where
  amount : CloudAmount
  base : Fin 1000
  convective : Option { s : QString // s ∈ ["CB".toList, "TCU".toList] }

namespace CloudGroup

variable (cloud : CloudGroup)

/-- The amount, the base in hundreds of feet, and what is convective. -/
def text : QString :=
  cloud.amount.text ++ padded 3 cloud.base ++ cloud.convective.elim [] Subtype.val

/-- As the decoder stores it. -/
def value : CCloudLayer := CCloudLayer.create (cloud.base.val * 100) cloud.amount.coverage

end CloudGroup

/-- A clear sky, or layers of clouds. -/
inductive SkyGroup where
  | clear (token : { s : QString // s ∈ getClearSkyTokens })
  | layers (clouds : List CloudGroup)

namespace SkyGroup

/-- A word for each layer. -/
def words : SkyGroup → List QString
  | .clear token => [token.1]
  | .layers clouds => clouds.map CloudGroup.text

/-- Its layers. -/
def value : SkyGroup → List CCloudLayer
  | .clear _ => []
  | .layers clouds => clouds.map CloudGroup.value

end SkyGroup

/-- Three digits. -/
def verticalVisibilityText (visibility : Fin 1000) : QString := 'V' :: 'V' :: padded 3 visibility

/-- Two digits and a sign, which a zero has, too. -/
structure SignedTemperature where
  negative : Bool
  magnitude : Fin 100

namespace SignedTemperature

variable (temperature : SignedTemperature)

/-- The sign is an `M`. -/
def text : QString :=
  (if temperature.negative then ['M'] else []) ++ padded 2 temperature.magnitude

/-- As a number. -/
def value : ℤ :=
  if temperature.negative then -(temperature.magnitude.val : ℤ) else temperature.magnitude.val

end SignedTemperature

/-- Hectopascals, or hundredths of an inch. -/
structure AltimeterGroup where
  inches : Bool
  pressure : Fin 10000
  pressure_pos : 0 < pressure.val

namespace AltimeterGroup

variable (altimeter : AltimeterGroup)

/-- In hundredths of inches, or in hectopascals. -/
def text : QString := (if altimeter.inches then 'A' else 'Q') :: padded 4 altimeter.pressure

/-- As the decoder stores it. -/
def value : CPressure :=
  if altimeter.inches then ⟨altimeter.pressure.val / 100, .inHg⟩
  else ⟨altimeter.pressure.val, .hPa⟩

end AltimeterGroup

/-- On all runways, or on one. -/
inductive WindShearGroup where
  | allRunways
  | runway (designator : Fin 100) (sides : RunwaySides)

/-- On all runways, or on one. -/
def WindShearGroup.words : WindShearGroup → List QString
  | .allRunways => ["WS", "ALL", "RWY"]
  | .runway designator sides => ["WS", "RWY" ++ padded 2 designator ++ sides.1]

/-- A report. -/
structure MetarReport where
  reportType : Option ReportType
  airport : AirportText
  time : ReportTime
  status : Option StatusGroup
  wind : WindGroup
  variation : Option (Fin 1000 × Fin 1000)
  visibility : VisibilityGroup
  runwayRanges : List RunwayRange
  presentWeathers : List WeatherGroup
  sky : SkyGroup
  verticalVisibility : Option (Fin 1000)
  temperature : SignedTemperature
  dewPoint : SignedTemperature
  altimeter : AltimeterGroup
  recentWeathers : List WeatherGroup
  windShears : List WindShearGroup

namespace MetarReport

variable (report : MetarReport)

/-- What comes before the altimeter. -/
def front : List QString :=
  report.reportType.toList.map ReportType.text
    ++ ([report.airport.1]
    ++ ([report.time.text]
    ++ (report.status.toList.map StatusGroup.text
    ++ ([report.wind.text]
    ++ (report.variation.toList.map variationText
    ++ (report.visibility.words
    ++ (report.runwayRanges.map RunwayRange.text
    ++ (report.presentWeathers.map WeatherGroup.text
    ++ (report.sky.words
    ++ (report.verticalVisibility.toList.map verticalVisibilityText
    ++ [report.temperature.text ++ '/' :: report.dewPoint.text]))))))))))

/-- What comes behind the altimeter. -/
def supplement : List QString :=
  report.recentWeathers.map (fun group => 'R' :: 'E' :: group.text)
    ++ report.windShears.flatMap WindShearGroup.words

/-- All words of the report. -/
def words : List QString := report.front ++ report.altimeter.text :: report.supplement

/-- The words with blanks in between. -/
def text : QString := QString.join report.words [' ']

/-- As the decoder stores it. -/
def windValue : CWindLayer where
  m_directionMain := report.wind.direction.elim 0 fun direction => (direction.val : ℤ)
  m_directionFrom := report.variation.elim 0 fun variation => (variation.1.val : ℤ)
  m_directionTo := report.variation.elim 0 fun variation => (variation.2.val : ℤ)
  m_directionVariable := report.wind.direction.isNone
  m_speed := ⟨(report.wind.speed.val : ℤ), report.wind.unit.unit⟩
  m_gustSpeed :=
    ⟨((report.wind.gustSpeed.elim 0 fun gustSpeed => (gustSpeed.val : ℤ) : ℤ) : ℚ),
      report.wind.unit.unit⟩

/-- The groups that a decoded report has a place for are in it. -/
structure Carries (metar : CMetar) : Prop where
  reportType : metar.m_reportType = report.reportType.getD .metar
  airport : metar.m_airport = report.airport.1
  day : metar.m_reportDay = report.time.day
  time : metar.m_reportTime = ((report.time.hour : ℤ), (report.time.minute : ℤ))
  automated : metar.m_isAutomated = report.status.any StatusGroup.isAuto
  wind : metar.m_windLayer = report.windValue
  visibility : metar.m_visibility = report.visibility.value
  presentWeathers : metar.m_presentWeathers = report.presentWeathers.map WeatherGroup.value
  cloudLayers : metar.m_cloudLayers = report.sky.value
  temperature : metar.m_temperature = report.temperature.value
  dewPoint : metar.m_dewPoint = report.dewPoint.value
  altimeter : metar.m_altimeter = report.altimeter.value

end MetarReport

end Weather

end NeoSwift.Misc
