import NeoSwift.Lib.Regex
import NeoSwift.Misc.Weather.Metar

/-!
# The METAR Decoder

`CMetarDecoder`: fifteen parts take turns at a report, each of them with what the ones before
it have left. A part has a regular expression for the beginning of the rest. Where it
matches, what it has captured is set and what it has matched is removed, again and again if
the part is repeatable. Where it does not match, the next part is tried, unless the part is
mandatory. A part that finds its values invalid makes the whole report invalid.

So what no part can take stays in front of the rest, and all parts behind it find nothing.

The expression of the pressure has an alternative which is not tied to the beginning.

The lists of codes are in the order of the source, where they are hashed, so that the order
of the alternatives is not determined. It does not matter, as the codes of a list have one
length, except for the cardinal directions, behind which there is a blank.

## Main definitions

* `MetarDecoderPart`: A part of the decoder.
* `MetarDecoderPart.search`, `MetarDecoderPart.removeAll`: Matching and removing.
* `MetarDecoderPart.parse`: The loop of a part.
* `reportType` to `windShear`: The parts.
* `decode`: The parts one after the other.

## Theorems

* `parse_of_first`, `parse_of_nil`: A part with its group in front of the text, and without it.
* `parse_groups`: The loop of a repeatable part.
* `decodeParts_preserves`: What no part sets stays as it is.
-/

namespace NeoSwift.Misc

namespace Weather

open Pq

/-- The names of the groups. The status has no name, but a number. -/
inductive GroupName where
  | reporttype | airport | day | hour | minute | status | direction | speed | gustSpeed | unit
  | direction_from | direction_to | cavok | visibility | distance | numerator | denominator
  | runway | rwy_visibility | variability | trend | intensity | descriptor | wp1 | wp2 | wp3 | wp4
  | clear_sky | coverage | base | cb_tcu | vertical_visibility | temperature | dew_point
  | pressure | qfe
  deriving DecidableEq

/-- An expression for the beginning of a text, and perhaps one for any place. What is not
    valid is not set. -/
structure MetarDecoderPart where
  regExp : Regex GroupName
  anywhere : Option (Regex GroupName) := none
  isRepeatable : Bool := false
  isMandatory : Bool := false
  validateAndSet : Captures GroupName → CMetar → Option CMetar

/-- `QRegularExpressionMatch::captured`. -/
def captured (captures : Captures GroupName) (x : GroupName) : QString := captures.captured x

namespace MetarDecoderPart

variable (part : MetarDecoderPart)

/-- The match at a place of the text. -/
def matchAt (atStart : Bool) (s : QString) : Option (Captures GroupName × QString) :=
  (if atStart then part.regExp.first s else none) <|> part.anywhere.bind fun r => r.first s

/-- The first match in the text. -/
def search : Bool → QString → Option (Captures GroupName)
  | atStart, [] => (part.matchAt atStart []).map Prod.fst
  | atStart, c :: s =>
      match part.matchAt atStart (c :: s) with
      | some m => some m.1
      | none => search false s

/-- `replace` by nothing. A match that is found is skipped; none of them is empty. -/
def removeAll : Bool → ℕ → QString → QString
  | _, _, [] => []
  | _, skip + 1, _ :: s => removeAll false skip s
  | atStart, 0, c :: s =>
      match part.matchAt atStart (c :: s) with
      | some m => removeAll false (s.length - m.2.length) s
      | none => c :: removeAll false 0 s

/-- The loop of `parse`. Each match makes the text shorter. -/
def parseFrom : ℕ → Bool → QString → CMetar → Option (QString × CMetar)
  | 0, _, _, _ => none
  | fuel + 1, isValid, s, metar =>
      match part.search true s with
      | some captures =>
          match part.validateAndSet captures metar with
          | none => none
          | some metar =>
              let s := part.removeAll true 0 s
              if part.isRepeatable then parseFrom fuel true s metar else some (s, metar)
      | none => if !part.isMandatory || isValid then some (s, metar) else none

/-- Enough steps for the repetitions. -/
def parse (s : QString) (metar : CMetar) : Option (QString × CMetar) :=
  part.parseFrom (s.length + 1) false s metar

section Loop

variable {part : MetarDecoderPart} {captures : Captures GroupName} {taken rest s s' : QString}
  {metar metar' : CMetar}

theorem search_of_first (hfirst : part.regExp.first s = some (captures, rest)) :
    part.search true s = some captures := by
  have hmatch : part.matchAt true s = some (captures, rest) := by
    unfold matchAt
    rw [hfirst]
    rfl
  cases s with
  | nil => rw [search, hmatch, Option.map_some]
  | cons c s =>
    unfold search
    rw [hmatch]

/-- Behind its beginning a text is left alone. -/
theorem removeAll_later (hanywhere : part.anywhere = none) (skip : ℕ) (s : QString) :
    part.removeAll false skip s = s.drop skip := by
  induction s generalizing skip with
  | nil => rw [removeAll, List.drop_nil]
  | cons c s ih =>
    cases skip with
    | zero =>
      have hmatch : part.matchAt false (c :: s) = none := by
        unfold matchAt
        rw [hanywhere]
        rfl
      unfold removeAll
      rw [hmatch, ih 0, List.drop_zero, List.drop_zero]
    | succ skip => rw [removeAll, ih skip, List.drop_succ_cons]

theorem removeAll_of_first (hanywhere : part.anywhere = none) (hne : taken ≠ [])
    (hfirst : part.regExp.first (taken ++ rest) = some (captures, rest)) :
    part.removeAll true 0 (taken ++ rest) = rest := by
  cases taken with
  | nil => exact absurd rfl hne
  | cons c taken =>
    have hmatch : part.matchAt true (c :: (taken ++ rest)) = some (captures, rest) := by
      unfold matchAt
      rw [show c :: (taken ++ rest) = c :: taken ++ rest from rfl, hfirst]
      rfl
    rw [List.cons_append]
    unfold removeAll
    rw [hmatch]
    dsimp only
    rw [removeAll_later hanywhere, List.length_append, Nat.add_sub_cancel, List.drop_left]

theorem search_of_nil (hanywhere : part.anywhere = none) (hnone : part.regExp.attempts s = []) :
    part.search true s = none := by
  -- Behind the front an expression is only looked for where the source says so.
  have hlater : ∀ s, part.search false s = none := by
    intro s
    induction s with
    | nil =>
      unfold search matchAt
      rw [hanywhere]
      rfl
    | cons c s ih =>
      have hmatch : part.matchAt false (c :: s) = none := by
        unfold matchAt
        rw [hanywhere]
        rfl
      unfold search
      rw [hmatch, ih]
  have hmatch : part.matchAt true s = none := by
    unfold matchAt
    rw [hanywhere, Regex.first_eq_none.mpr hnone]
    rfl
  cases s with
  | nil => rw [search, hmatch, Option.map_none]
  | cons c s =>
    unfold search
    rw [hmatch]
    exact hlater s

/-- A group at the beginning is taken. -/
theorem parse_of_first (hanywhere : part.anywhere = none) (hrepeatable : part.isRepeatable = false)
    (hne : taken ≠ []) (hfirst : part.regExp.first (taken ++ rest) = some (captures, rest))
    (hset : part.validateAndSet captures metar = some metar') :
    part.parse (taken ++ rest) metar = some (rest, metar') := by
  unfold parse parseFrom
  rw [search_of_first hfirst]
  dsimp only
  rw [hset, hrepeatable]
  dsimp only
  rw [removeAll_of_first hanywhere hne hfirst, if_neg Bool.false_ne_true]

/-- A group with a blank behind it. -/
theorem parse_word (hanywhere : part.anywhere = none) (hrepeatable : part.isRepeatable = false)
    (hfirst : part.regExp.first (taken ++ ' ' :: rest) = some (captures, rest))
    (hset : part.validateAndSet captures metar = some metar') :
    part.parse (taken ++ ' ' :: rest) metar = some (rest, metar') := by
  have htaken : taken ++ ' ' :: rest = (taken ++ [' ']) ++ rest := by
    rw [List.append_assoc, List.singleton_append]
  rw [htaken] at hfirst ⊢
  exact parse_of_first hanywhere hrepeatable (List.append_ne_nil_of_right_ne_nil _ (by decide))
    hfirst hset

theorem parseFrom_of_nil (hanywhere : part.anywhere = none) (hmandatory : part.isMandatory = false)
    (hnone : part.regExp.attempts s = []) (fuel : ℕ) (isValid : Bool) :
    part.parseFrom (fuel + 1) isValid s metar = some (s, metar) := by
  unfold parseFrom
  rw [search_of_nil hanywhere hnone, hmandatory]
  exact if_pos rfl

/-- A group which is not there is no obstacle. -/
theorem parse_of_nil (hanywhere : part.anywhere = none) (hmandatory : part.isMandatory = false)
    (hnone : part.regExp.attempts s = []) : part.parse s metar = some (s, metar) :=
  parseFrom_of_nil hanywhere hmandatory hnone s.length false

/-- Groups of one kind are taken one after the other, up to what is none of them. -/
theorem parse_groups {α : Type} {text : α → QString} {set : CMetar → α → CMetar}
    (hanywhere : part.anywhere = none) (hmandatory : part.isMandatory = false)
    (hrepeatable : part.isRepeatable = true) {groups : List α} (hne : ∀ g, text g ≠ [])
    (hgroups : ∀ g ∈ groups, ∀ rest metar, ∃ captures,
      part.regExp.first (text g ++ rest) = some (captures, rest)
        ∧ part.validateAndSet captures metar = some (set metar g))
    (hrest : part.regExp.attempts rest = []) :
    part.parse (groups.flatMap text ++ rest) metar = some (rest, groups.foldl set metar) := by
  -- The fuel is more than the text that is left, and every group uses some of it up.
  suffices hfuel : ∀ fuel isValid, (groups.flatMap text ++ rest).length < fuel →
      part.parseFrom fuel isValid (groups.flatMap text ++ rest) metar
        = some (rest, groups.foldl set metar) from
    hfuel _ _ (Nat.lt_succ_self _)
  induction groups generalizing metar with
  | nil =>
    intro fuel isValid hfuel
    cases fuel with
    | zero => cases hfuel
    | succ fuel => exact parseFrom_of_nil hanywhere hmandatory hrest fuel isValid
  | cons g groups ih =>
    intro fuel isValid hfuel
    rcases hgroups g List.mem_cons_self (groups.flatMap text ++ rest) metar with
        ⟨captures, hfirst, hset⟩
    have hpos : 0 < (text g).length := List.length_pos_iff.mpr (hne g)
    rw [List.flatMap_cons, List.append_assoc] at hfuel ⊢
    rw [List.length_append] at hfuel
    cases fuel with
    | zero => cases hfuel
    | succ fuel =>
      unfold parseFrom
      rw [search_of_first hfirst]
      dsimp only
      rw [hset, hrepeatable]
      dsimp only
      rw [removeAll_of_first hanywhere (hne g) hfirst]
      exact ih (fun g hg => hgroups g (List.mem_cons_of_mem _ hg)) fuel true (by omega)

/-- What setting does not touch, a part does not touch. -/
theorem parse_preserves {β : Type} {f : CMetar → β}
    (hset : ∀ captures metar metar', part.validateAndSet captures metar = some metar' →
      f metar' = f metar) (h : part.parse s metar = some (s', metar')) : f metar' = f metar := by
  -- The fuel bounds the repetitions, so the induction is on it.
  have hfuel : ∀ fuel isValid s metar, part.parseFrom fuel isValid s metar = some (s', metar') →
      f metar' = f metar := by
    intro fuel
    induction fuel with
    | zero =>
      intro isValid s metar h
      cases h
    | succ fuel ih =>
      intro isValid s metar h
      unfold parseFrom at h
      split at h
      case h_1 captures _ =>
        split at h
        case h_1 => cases h
        case h_2 metar₁ hmetar₁ =>
          rw [← hset captures metar metar₁ hmetar₁]
          split at h
          · exact ih _ _ _ h
          · rw [(Prod.mk.inj (Option.some.inj h)).2]
      case h_2 =>
        split at h
        · rw [(Prod.mk.inj (Option.some.inj h)).2]
        · cases h
  exact hfuel _ _ _ _ h

end Loop

end MetarDecoderPart

/-! ## Pieces of the expressions -/

/-- `\d`. -/
def digit : Regex GroupName := .char Char.isDigit

/-- `\d{n}`. -/
def digits (n : ℕ) : Regex GroupName := .chars Char.isDigit n

/-- `\d{2,3}`. -/
def twoOrThreeDigits : Regex GroupName := digits 2 ++ Regex.opt digit

/-- `\d{0,2}`. -/
def upToTwoDigits : Regex GroupName := .opt (digit ++ Regex.opt digit)

/-- `\w{n}`. -/
def wordChars (n : ℕ) : Regex GroupName := .chars (fun c => c.isAlphanum || c == '_') n

/-- One blank. -/
def blank : Regex GroupName := .lit [' ']

/-- `toInt(&ok)`. -/
def toInt? (s : QString) : Option ℤ := s.toInt?.map fun n => n.toInt

/-! ## The parts -/

/-- The report types and their texts. -/
def getReportTypeHash : List (QString × ReportType) :=
  [("METAR", .metar), ("SPECI", .speci)]

/-- `METAR` or `SPECI`, if it is there. -/
def reportType : MetarDecoderPart where
  regExp := .opt (.group .reporttype (.oneOf (getReportTypeHash.map Prod.fst))) ++ blank
  validateAndSet captures metar :=
    match getReportTypeHash.lookup (captured captures .reporttype) with
    | none => none
    | some type => some { metar with m_reportType := type }

/-- `CAirportIcaoCode::unifyAirportCode`, for letters of ASCII. -/
def unifyAirportCode (icaoCode : QString) : QString :=
  let code := icaoCode.trimmed.map Char.toUpper
  if !(3 ≤ icaoCode.length && icaoCode.length ≤ 6) then []
  else if code.any fun c => !c.isAlphanum then []
  else code

/-- The four letters of the airport. -/
def airport : MetarDecoderPart where
  regExp := .group .airport (wordChars 4) ++ blank
  isMandatory := true
  validateAndSet captures metar :=
    some { metar with m_airport := unifyAirportCode (captured captures .airport) }

/-- Only the last conversion is checked. -/
def dayTime : MetarDecoderPart where
  regExp :=
    .group .day (digits 2) ++ .group .hour (digits 2) ++ .group .minute (digits 2)
      ++ Regex.lit ['Z', ' ']
  isMandatory := true
  validateAndSet captures metar :=
    let day := (captured captures .day).toInt.toInt
    let hour := (captured captures .hour).toInt.toInt
    match toInt? (captured captures .minute) with
    | none => none
    | some minute =>
        if day < 1 ∨ 31 < day then none
        else if hour < 0 ∨ 23 < hour then none
        else if minute < 0 ∨ 59 < minute then none
        else some { metar with m_reportDay := day, m_reportTime := (hour, minute) }

/-- `AUTO`, `NIL` or the indicator of a correction. -/
def status : MetarDecoderPart where
  regExp := .group .status (.char Char.isUpper ++ Regex.star Char.isUpper) ++ blank
  validateAndSet captures metar :=
    if captured captures .status = "AUTO" then some { metar with m_isAutomated := true }
    else if captured captures .status = "NIL" then some metar
    else if (captured captures .status).length = 3 then some metar
    else none

/-- The units of wind speeds. -/
def getWindUnitHash : List (QString × CSpeedUnit) :=
  [("KT", .kts), ("MPS", .m_s), ("KPH", .km_h), ("KMH", .km_h)]

/-- The direction if it is known, and whether it is variable. -/
def windDirection (direction : QString) : Option (ℤ × Bool) :=
  if direction = "VRB" then some (0, true)
  else (toInt? direction).map fun direction => (direction, false)

/-- No gust is one of no speed. -/
def windGustSpeed (gustSpeed : QString) : Option ℤ :=
  if gustSpeed = [] then some 0 else toInt? gustSpeed

/-- Direction, speed and gusts with their unit. -/
def wind : MetarDecoderPart where
  regExp :=
    .group .direction (.alt (digits 3) (.alt (.lit "VRB") (.lit "///")))
      ++ .group .speed (.alt twoOrThreeDigits (.lit "//"))
      ++ .opt (.lit ['G'] ++ .group .gustSpeed twoOrThreeDigits)
      ++ .group .unit (.oneOf (getWindUnitHash.map Prod.fst)) ++ .opt blank
  validateAndSet captures metar :=
    if captured captures .direction = "///" then some metar
    else
      match windDirection (captured captures .direction) with
      | none => none
      | some (direction, directionVariable) =>
          if captured captures .speed = "//" then some metar
          else
            match toInt? (captured captures .speed),
              windGustSpeed (captured captures .gustSpeed),
              getWindUnitHash.lookup (captured captures .unit) with
            | some speed, some gustSpeed, some unit =>
                some
                  { metar with
                    m_windLayer :=
                      { m_directionMain := direction
                        m_directionVariable := directionVariable
                        m_speed := ⟨speed, unit⟩
                        m_gustSpeed := ⟨gustSpeed, unit⟩ } }
            | _, _, _ => none

/-- Only the last conversion is checked. -/
def variationsWindDirection : MetarDecoderPart where
  regExp :=
    .group .direction_from (digits 3) ++ .lit ['V'] ++ .group .direction_to (digits 3) ++ blank
  validateAndSet captures metar :=
    match toInt? (captured captures .direction_to) with
    | none => none
    | some directionTo =>
        some
          { metar with
            m_windLayer :=
              { metar.m_windLayer with
                m_directionFrom := (captured captures .direction_from).toInt.toInt
                m_directionTo := directionTo } }

def getCardinalDirections : List QString :=
  ["N", "NE", "E", "SE", "S", "SW", "W", "NW"]

/-- The whole part of a distance, nothing where there is none. -/
def visibilityDistance (distance : QString) : Option ℚ :=
  if distance = [] then some 0 else distance.toDouble?

/-- Statute miles, unless they are kilometres. -/
def visibilityUnit (unit : QString) : CLengthUnit :=
  if unit = "KM" then CLengthUnit.km else .sm

/-- The fraction of a distance, nothing where there is none. -/
def visibilityFraction (numerator denominator : QString) : Option ℚ :=
  if numerator = [] ∨ denominator = [] then some 0
  else
    match numerator.toDouble?, denominator.toDouble? with
    | some numerator, some denominator =>
        if denominator < 1 ∨ numerator < 1 then none else some (numerator / denominator)
    | _, _ => none

/-- What comes behind the whole part of a distance. -/
def distanceRest : Regex GroupName :=
  .opt blank ++ .opt (.lit ['M'])
    ++ .opt (.group .numerator digit ++ .lit ['/'] ++ .group .denominator digit)
    ++ .group .unit (.oneOf ["SM", "KM"])

/-- `cavok`. -/
def visibilityCavok : Regex GroupName := .group .cavok (.lit "CAVOK")

/-- `visibility_eu`. -/
def visibilityEu : Regex GroupName :=
  .group .visibility (.alt (digits 4) (.lit "////")) ++ .opt (.lit "NDV")
    ++ .opt (.oneOf getCardinalDirections)

/-- `visibility_us`. -/
def visibilityUs : Regex GroupName := .group .distance upToTwoDigits ++ distanceRest

/-- CAVOK, metres, or statute miles with fractions. -/
def visibility : MetarDecoderPart where
  regExp := .alt visibilityCavok (.alt visibilityEu visibilityUs) ++ blank
  validateAndSet captures metar :=
    if captured captures .cavok ≠ [] then some metar.setCavok
    else if captured captures .visibility = "////" then some metar
    else if captured captures .visibility ≠ [] then
      match (captured captures .visibility).toDouble? with
      | none => none
      | some visibility => some { metar with m_visibility := CLength.create visibility .m }
    else
      match visibilityDistance (captured captures .distance),
        visibilityFraction (captured captures .numerator) (captured captures .denominator) with
      | some distance, some fraction =>
          some
            { metar with
              m_visibility :=
                CLength.create (distance + fraction) (visibilityUnit (captured captures .unit)) }
      | _, _ => none

/-- Nothing is set. -/
def runwayVisualRange : MetarDecoderPart where
  regExp :=
    .lit ['R'] ++ .group .runway (digits 2 ++ Regex.star fun c => c == 'L' || c == 'C' || c == 'R')
      ++ .lit ['/'] ++ .opt (.char fun c => c == 'P' || c == 'M')
      ++ .group .rwy_visibility (digits 4) ++ .opt (.lit ['V'])
      ++ .opt (.group .variability (digits 4)) ++ .opt (.group .unit (.lit "FT"))
      ++ .opt (.lit ['/']) ++ .opt (.group .trend (.char fun c => c == 'D' || c == 'N' || c == 'U'))
      ++ blank
  validateAndSet captures metar :=
    match (captured captures .rwy_visibility).toDouble? with
    | none => none
    | some _ => some metar

/-- The signs of the intensities. -/
def getIntensityHash : List (QString × Intensity) :=
  [("-", .light), ("+", .heavy), ("VC", .inVincinity)]

/-- The letters of the descriptors. -/
def getDescriptorHash : List (QString × Descriptor) :=
  [("MI", .shallow), ("BC", .patches), ("PR", .partialCover),
    ("DR", .drifting), ("BL", .blowing), ("SH", .showers),
    ("TS", .thunderstorm), ("FR", .freezing)]

/-- Of two values for a key a hash keeps the last one. -/
def getWeatherPhenomenaHash : List (QString × ℕ) :=
  [("DZ", WeatherPhenomenon.drizzle.flag), ("RA", WeatherPhenomenon.rain.flag),
    ("SN", WeatherPhenomenon.snow.flag), ("SG", WeatherPhenomenon.snowGrains.flag),
    ("IC", WeatherPhenomenon.iceCrystals.flag),
    ("PC", WeatherPhenomenon.icePellets.flag), ("GR", WeatherPhenomenon.hail.flag),
    ("GS", WeatherPhenomenon.snowPellets.flag),
    ("UP", WeatherPhenomenon.unknown.flag), ("BR", WeatherPhenomenon.mist.flag),
    ("FG", WeatherPhenomenon.fog.flag), ("FU", WeatherPhenomenon.smoke.flag),
    ("VA", WeatherPhenomenon.volcanicAsh.flag), ("DU", WeatherPhenomenon.dust.flag),
    ("SA", WeatherPhenomenon.sand.flag), ("HZ", WeatherPhenomenon.haze.flag),
    ("PO", WeatherPhenomenon.dustSandWhirls.flag),
    ("SQ", WeatherPhenomenon.squalls.flag),
    ("FC", WeatherPhenomenon.funnelCloud.flag),
    ("SS", WeatherPhenomenon.sandstorm.flag),
    ("DS", WeatherPhenomenon.duststorm.flag), ("//", 0)]

def weatherPhenomenaKeys : List QString := getWeatherPhenomenaHash.map Prod.fst

/-- The descriptor and the phenomena, as far as they are in the expression. -/
def weatherGroups : List (GroupName × List QString) :=
  [(.descriptor, getDescriptorHash.map Prod.fst), (.wp1, weatherPhenomenaKeys),
    (.wp2, weatherPhenomenaKeys), (.wp3, weatherPhenomenaKeys), (.wp4, weatherPhenomenaKeys)]

/-- `(?<intensity>[-+]|VC)?`. -/
def qualifierIntensity : Regex GroupName :=
  .opt (.group .intensity (.alt (.char fun c => c == '-' || c == '+') (.lit "VC")))

/-- Of the phenomena the first two are read. -/
def presentWeather : MetarDecoderPart where
  regExp := qualifierIntensity ++ Regex.optionals [' '] weatherGroups
  isRepeatable := true
  validateAndSet captures metar :=
    let intensity := (getIntensityHash.lookup (captured captures .intensity)).getD .moderate
    let descriptor := (getDescriptorHash.lookup (captured captures .descriptor)).getD .none
    let wp1 := (getWeatherPhenomenaHash.lookup (captured captures .wp1)).getD 0
    let wp2 := (getWeatherPhenomenaHash.lookup (captured captures .wp2)).getD 0
    some (metar.addPresentWeather ⟨intensity, descriptor, 0 ||| wp1 ||| wp2⟩)

def getClearSkyTokens : List QString :=
  ["SKC", "NSC", "CLR", "NCD"]

/-- The letters of the coverages. -/
def getCoverage : List (QString × Coverage) :=
  [("///", .none), ("FEW", .few), ("SCT", .scattered), ("BKN", .broken), ("OVC", .overcast)]

/-- A clear sky, or a layer with its coverage and base. -/
def cloud : MetarDecoderPart where
  regExp :=
    .alt (.group .clear_sky (.oneOf getClearSkyTokens))
      (.group .coverage (.oneOf (getCoverage.map Prod.fst))
        ++ .group .base (.alt (digits 3) (.lit "///"))
        ++ .opt (.group .cb_tcu (.oneOf ["CB", "TCU", "///"]))) ++ blank
  isRepeatable := true
  validateAndSet captures metar :=
    if captured captures .clear_sky ≠ [] then some metar.removeAllClouds
    else if captured captures .base = "///" then some metar
    else
      match toInt? (captured captures .base) with
      | none => none
      | some base =>
          let coverage := (getCoverage.lookup (captured captures .coverage)).getD .none
          some (metar.addCloudLayer (CCloudLayer.create (base * 100) coverage))

/-- Nothing is set. -/
def verticalVisibility : MetarDecoderPart where
  regExp :=
    .lit "VV" ++ .group .vertical_visibility (.alt (digits 3) (.lit "///")) ++ blank
  validateAndSet _ metar := some metar

/-- `M` stands for the sign. -/
def signedTemperature (s : QString) : ℤ :=
  if s.startsWith ['M'] then -(QString.toInt (s.filter fun c => c != 'M')).toInt
  else s.toInt.toInt

/-- `M?\d{2}|//`. -/
def temperatureRegExp : Regex GroupName :=
  .alt (.opt (.lit ['M']) ++ digits 2) (.lit "//")

/-- Temperature and dew point. -/
def temperature : MetarDecoderPart where
  regExp :=
    .group .temperature temperatureRegExp ++ .lit ['/'] ++ .group .dew_point temperatureRegExp
      ++ .opt blank
  validateAndSet captures metar :=
    let temperature := captured captures .temperature
    let dewPoint := captured captures .dew_point
    if temperature = [] ∨ dewPoint = [] then none
    else if temperature = "//" ∨ dewPoint = "//" then some metar
    else
      some
        { metar with
          m_temperature := signedTemperature temperature
          m_dewPoint := signedTemperature dewPoint }

/-- The letters in front of the pressure. -/
def getPressureUnits : List (QString × CPressureUnit) :=
  [("Q", .hPa), ("A", .inHg)]

/-- The alternatives are those of the whole expression. -/
def pressure : MetarDecoderPart where
  regExp :=
    .group .unit (.oneOf (getPressureUnits.map Prod.fst))
      ++ .group .pressure (.alt (digits 4) (.lit "////")) ++ .opt blank
  anywhere :=
    some (.lit "QFE " ++ .group .qfe (digit ++ Regex.star Char.isDigit)
      ++ (Regex.char fun c => c != '\n') ++ digit ++ .opt blank)
  validateAndSet captures metar :=
    let unit := captured captures .unit
    let pressure := captured captures .pressure
    if (unit = [] ∨ pressure = []) ∧ captured captures .qfe = [] then none
    else if pressure = "////" then some metar
    else if unit ≠ [] ∧ pressure ≠ [] then
      match pressure.toDouble? with
      | none => none
      | some value =>
          let unit := (getPressureUnits.lookup unit).getD .hPa
          some
            { metar with
              m_altimeter := ⟨if unit = .inHg then value / 100 else value, unit⟩ }
    else some metar

def m_descriptor : List QString :=
  ["MI", "BC", "PR", "DR", "BL", "SH", "TS", "FZ"]

def m_phenomina : List QString :=
  ["DZ", "RA", "SN", "SG", "IC", "PE", "GR",
    "GS", "BR", "FG", "FU", "VA", "IC", "DU",
    "SA", "HZ", "PY", "PO", "SQ", "FC", "SS",
    "DS"]

/-- Nothing is set. -/
def recentWeather : MetarDecoderPart where
  regExp :=
    .lit "RE" ++ qualifierIntensity
      ++ Regex.optionals [' ']
        [(.descriptor, m_descriptor), (.wp1, m_phenomina), (.wp2, m_phenomina), (.wp3, m_phenomina),
          (.wp4, m_phenomina)]
  validateAndSet _ metar := some metar

/-- Nothing is set. -/
def windShear : MetarDecoderPart where
  regExp :=
    .lit "WS "
      ++ .alt (.lit "WS ALL RWY")
        (.lit ['R'] ++ .opt (.lit ['W']) ++ .opt (.lit ['Y'])
          ++ .group .runway (digits 2 ++ Regex.star fun c => c == 'L' || c == 'C' || c == 'R'))
      ++ blank
  validateAndSet _ metar := some metar

/-! ## The decoder -/

/-- `allocateDecoders`. -/
def decoders : List MetarDecoderPart :=
  [reportType, airport, dayTime, status, wind, variationsWindDirection, visibility,
    runwayVisualRange, presentWeather, cloud, verticalVisibility, temperature, pressure,
    recentWeather, windShear]

/-- The parts one after the other. -/
def decodeParts : List MetarDecoderPart → QString → CMetar → Option CMetar
  | [], _, metar => some metar
  | part :: parts, s, metar =>
      match part.parse s metar with
      | none => none
      | some (s, metar) => decodeParts parts s metar

section Sequence

variable {part : MetarDecoderPart} {parts : List MetarDecoderPart} {s s' : QString}
  {metar metar' : CMetar}

theorem decodeParts_cons (h : part.parse s metar = some (s', metar')) :
    decodeParts (part :: parts) s metar = decodeParts parts s' metar' := by
  rw [decodeParts, h]

theorem decodeParts_preserves {β : Type} {f : CMetar → β}
    (hparts : ∀ part ∈ parts, ∀ captures metar metar',
      part.validateAndSet captures metar = some metar' → f metar' = f metar)
    (h : decodeParts parts s metar = some metar') : f metar' = f metar := by
  induction parts generalizing s metar with
  | nil => rw [Option.some.inj h]
  | cons part parts ih =>
    unfold decodeParts at h
    split at h
    case h_1 => cases h
    case h_2 s₁ metar₁ hparse =>
      rw [ih (fun p hp => hparts p (List.mem_cons_of_mem part hp)) h]
      exact MetarDecoderPart.parse_preserves (hparts part List.mem_cons_self) hparse

end Sequence

/-- The empty report if it cannot be decoded. -/
def decode (metarString : QString) : CMetar :=
  match decodeParts decoders metarString.simplified {} with
  | none => {}
  | some metar => { metar with m_metarMessage := metarString }

end Weather

end NeoSwift.Misc
