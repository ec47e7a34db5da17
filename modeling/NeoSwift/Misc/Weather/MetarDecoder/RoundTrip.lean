import NeoSwift.Misc.Weather.MetarDecoder.Sky
import NeoSwift.Misc.Weather.MetarDecoder.Visibility
import NeoSwift.Misc.Weather.MetarDecoder.Words

/-!
# Decoding a Report

What the decoder makes of the text of a report. Of the runway visual ranges it takes one, of
the present weather the groups up to the first with a code it does not know. If something of
them is left, it is stuck there, and the altimeter is not set. Otherwise everything is taken,
and what is carried depends on the groups of the present weather alone.

## Main definitions

* `MetarReport.head`, `MetarReport.body`, `MetarReport.afterWeather`: The text up to the
  visibility, behind it, and behind the present weather.
* `MetarReport.Taken`: Nothing is left of the present weather.

## Theorems

* `decodeParts_head`: The parts up to the visibility.
* `decode_of_stuck`: With something left the altimeter is not set.
* `decode_of_taken`: Otherwise this is the decoded report.
* `carries_decode_iff`: Which reports are carried.
* `freezing_rain_is_lost`: A report that is not.
-/

namespace NeoSwift.Misc

namespace Weather

open Pq

/-! ## What groups begin with -/

section Fronts

variable (rest : QString)

theorem head_cloudFronts : ∀ code ∈ cloudFronts,
    code.head? ≠ some '-' ∧ code.head? ≠ some '+' ∧ code.head? ≠ some 'R'
      ∧ code.head? ≠ some 'V' ∧ code.head? ≠ some 'M' ∧ code.all (fun c => !c.isDigit) = true := by
  decide

theorem all_weatherKeys : ∀ code ∈ weatherKeys, code.all (fun c => !c.isDigit) = true := by
  decide

/-- A runway visual range behind another one. -/
theorem range_front (range : RunwayRange) :
    Stuck (range.text ++ ' ' :: rest)
      ∧ presentWeather.regExp.attempts (range.text ++ ' ' :: rest) = [] := by
  rcases padded_eq_cons range.runway with ⟨c, d, hcons, hc, _⟩
  obtain ⟨t, ht⟩ : ∃ t, range.text ++ ' ' :: rest = 'R' :: c :: t := by
    rw [RunwayRange.text, hcons]
    exact ⟨_, rfl⟩
  rw [ht]
  refine ⟨⟨'R', c, t, rfl, fun h => (head_cloudFronts _ h).2.2.1 rfl,
    fun h => absurd h.1 (by decide), by decide, by decide, fun h => absurd h.1 (by decide),
    by decide, by decide⟩, ?_⟩
  refine attempts_presentWeather_of_not ⟨'R', c, t, rfl, by decide, by decide, by decide,
    fun h => absurd h.1 (by decide)⟩ fun h => ?_
  have hall := List.all_eq_true.mp (all_weatherKeys _ h) c
    (List.mem_cons_of_mem 'R' (List.mem_singleton_self c))
  rw [hc] at hall
  cases hall

/-- What is known of the two letters of a code. -/
structure CodeFront (a b : Char) : Prop where
  cloud : [a, b] ∉ cloudFronts
  vertical : ¬ (a = 'V' ∧ b = 'V')
  not_digit : a.isDigit = false ∧ b.isDigit = false
  not_slash : a ≠ '/'
  pressure : a ≠ 'Q' ∧ a ≠ 'A'

theorem front_of_code {group : WeatherGroup} {code : QString} (hcode : code ∈ group.codes) :
    ∃ a b, code = [a, b] ∧ CodeFront a b := by
  rcases List.mem_append.mp hcode with hcode | hcode
  · have hdescriptor := Option.mem_toList.mp hcode
    cases hd : group.descriptor with
    | none =>
      rw [hd] at hdescriptor
      cases hdescriptor
    | _ =>
      rw [hd] at hdescriptor
      cases hdescriptor
      exact ⟨_, _, rfl, by decide, by decide, by decide, by decide, by decide⟩
  · rcases List.mem_map.mp hcode with ⟨p, _, rfl⟩
    cases p <;> exact ⟨_, _, rfl, by decide, by decide, by decide, by decide, by decide⟩

/-- No part but the one of the present weather takes anything of a group of it. -/
theorem weather_front (group : WeatherGroup) :
    Stuck (group.text ++ ' ' :: rest)
      ∧ runwayVisualRange.regExp.attempts (group.text ++ ' ' :: rest) = [] := by
  rcases List.exists_cons_of_ne_nil (codes_ne_nil group) with ⟨code, others, hcodes⟩
  rcases front_of_code (hcodes ▸ List.mem_cons_self) with ⟨a, b, rfl, hfront⟩
  have htext : group.text ++ ' ' :: rest
      = group.intensity.text ++ a :: b :: (others.flatten ++ ' ' :: rest) := by
    rw [WeatherGroup.text, hcodes]
    simp
  rw [htext]
  generalize others.flatten ++ ' ' :: rest = t
  -- A sign is neither a letter nor a digit, so no other part takes it.
  have hsign : ∀ {sign : Char}, sign = '-' ∨ sign = '+' →
      Stuck (sign :: a :: b :: t) ∧
        runwayVisualRange.regExp.attempts (sign :: a :: b :: t) = [] := by
    intro sign hsign
    have hcloud : [sign, a] ∉ cloudFronts := by
      intro h
      rcases hsign with rfl | rfl
      · exact (head_cloudFronts _ h).1 rfl
      · exact (head_cloudFronts _ h).2.1 rfl
    have hletter : sign ≠ 'V' ∧ sign.isDigit = false ∧ sign ≠ '/' ∧ sign ≠ 'M' ∧ sign ≠ 'Q'
        ∧ sign ≠ 'A' ∧ sign ≠ 'R' := by
      rcases hsign with rfl | rfl <;> decide
    rcases hletter with ⟨hV, hdigit, hslash, hM, hQ, hA, hR⟩
    exact ⟨⟨sign, a, b :: t, rfl, hcloud, fun h => hV h.1, hdigit, hslash, fun h => hM h.1, hQ, hA⟩,
      attempts_runwayVisualRange (.inl hR) _⟩
  -- Without a sign the first code is in front, and with the vicinity its two letters.
  cases group.intensity with
  | light => exact hsign (.inl rfl)
  | heavy => exact hsign (.inr rfl)
  | moderate =>
    refine ⟨⟨a, b, t, rfl, hfront.cloud, hfront.vertical, hfront.not_digit.1, hfront.not_slash,
      fun h => ?_, hfront.pressure⟩, attempts_runwayVisualRange (.inr hfront.not_digit.2) _⟩
    rw [hfront.not_digit.2] at h
    exact Bool.false_ne_true h.2
  | inVincinity =>
    exact ⟨⟨'V', 'C', a :: b :: t, rfl, by decide, by decide, by decide, by decide,
      by decide, by decide, by decide⟩, attempts_runwayVisualRange (.inl (by decide)) _⟩

/-- What begins the rest of a report behind the present weather. -/
theorem attempts_of_front {a b : Char} (hkey : [a, b] ∉ weatherKeys)
    (hintensity : a ≠ '-' ∧ a ≠ '+' ∧ a ≠ ' ' ∧ ¬ (a = 'V' ∧ b = 'C'))
    (hrange : a ≠ 'R' ∨ b.isDigit = false) (t : QString) :
    presentWeather.regExp.attempts (a :: b :: t) = []
      ∧ runwayVisualRange.regExp.attempts (a :: b :: t) = [] :=
  ⟨attempts_presentWeather_of_not ⟨a, b, t, rfl, hintensity⟩ hkey,
    attempts_runwayVisualRange hrange t⟩

theorem temperature_front (t : SignedTemperature) (s : QString) :
    ∃ a b s', t.text ++ s = a :: b :: s' ∧ (a = 'M' ∨ a.isDigit = true) ∧ b.isDigit = true := by
  rcases padded_eq_cons t.magnitude with ⟨c, d, hcons, hc, hd⟩
  unfold SignedTemperature.text
  rw [hcons]
  cases t.negative with
  | true => exact ⟨'M', c, d :: s, rfl, .inl rfl, hc⟩
  | false => exact ⟨c, d, s, rfl, .inr hc, hd⟩

/-- The parts before the temperature take nothing of it. -/
theorem attempts_of_temperature (t : SignedTemperature) (s : QString) :
    (presentWeather.regExp.attempts (t.text ++ s) = []
      ∧ runwayVisualRange.regExp.attempts (t.text ++ s) = [])
      ∧ cloud.regExp.attempts (t.text ++ s) = []
      ∧ verticalVisibility.regExp.attempts (t.text ++ s) = [] := by
  rcases temperature_front t s with ⟨a, b, s', hcons, ha, hb⟩
  have hdigit : ∀ code : QString, code.all (fun c => !c.isDigit) = true → [a, b] ≠ code := by
    rintro code hall rfl
    have hnot := List.all_eq_true.mp hall b (List.mem_cons_of_mem a (List.mem_singleton_self b))
    rw [hb] at hnot
    cases hnot
  have hletter : ∀ c : Char, c.isDigit = false → c ≠ 'M' → a ≠ c := by
    rintro c hc hM rfl
    rcases ha with ha | ha
    · exact hM ha
    · exact absurd (hc.symm.trans ha) Bool.false_ne_true
  rw [hcons]
  -- No code has a digit for its second character, and none of these begins with `M`.
  refine ⟨attempts_of_front (fun h => hdigit _ (all_weatherKeys _ h) rfl)
    ⟨hletter '-' (by decide) (by decide), hletter '+' (by decide) (by decide),
      hletter ' ' (by decide) (by decide), fun h => hletter 'V' (by decide) (by decide) h.1⟩
    (.inl (hletter 'R' (by decide) (by decide))) s', ?_, ?_⟩
  · exact attempts_cloud_of_not (fun h => hdigit _ (head_cloudFronts _ h).2.2.2.2.2 rfl) s'
  · exact attempts_verticalVisibility_of_not
      (fun h => hletter 'V' (by decide) (by decide) h.1) s'

theorem attempts_of_vertical (visibility : Option (Fin 1000)) (t : SignedTemperature)
    (s : QString) :
    let text := spaced (visibility.toList.map verticalVisibilityText) ++ (t.text ++ s)
    (presentWeather.regExp.attempts text = [] ∧ runwayVisualRange.regExp.attempts text = [])
      ∧ cloud.regExp.attempts text = [] := by
  intro text
  cases visibility with
  | none =>
    rcases attempts_of_temperature t s with ⟨hweather, hcloud, _⟩
    exact ⟨hweather, hcloud⟩
  | some visibility =>
    have hcons : ∃ s', text = 'V' :: 'V' :: s' := ⟨_, rfl⟩
    rcases hcons with ⟨s', hs'⟩
    rw [hs']
    exact ⟨attempts_of_front (by decide) (by decide) (.inl (by decide)) s',
      attempts_cloud_of_not (by decide) s'⟩

/-- The letters in front of a clear sky, or of a layer. -/
structure SkyFront (a b : Char) : Prop where
  weather : [a, b] ∉ weatherKeys
  intensity : a ≠ '-' ∧ a ≠ '+' ∧ a ≠ ' ' ∧ ¬ (a = 'V' ∧ b = 'C')
  not_range : a ≠ 'R'

theorem front_of_clear {token : QString} (h : token ∈ getClearSkyTokens) :
    ∃ a b t, token = a :: b :: t ∧ SkyFront a b := by
  unfold getClearSkyTokens at h
  simp only [List.mem_cons, List.not_mem_nil, or_false] at h
  rcases h with rfl | rfl | rfl | rfl
  · exact ⟨'S', 'K', ['C'], by decide, by decide +kernel, by decide, by decide⟩
  · exact ⟨'N', 'S', ['C'], by decide, by decide +kernel, by decide, by decide⟩
  · exact ⟨'C', 'L', ['R'], by decide, by decide +kernel, by decide, by decide⟩
  · exact ⟨'N', 'C', ['D'], by decide, by decide +kernel, by decide, by decide⟩

theorem front_of_amount (amount : CloudAmount) :
    ∃ a b t, amount.text = a :: b :: t ∧ SkyFront a b := by
  cases amount with
  | few => exact ⟨'F', 'E', ['W'], by decide, by decide +kernel, by decide, by decide⟩
  | sct => exact ⟨'S', 'C', ['T'], by decide, by decide +kernel, by decide, by decide⟩
  | bkn => exact ⟨'B', 'K', ['N'], by decide, by decide +kernel, by decide, by decide⟩
  | ovc => exact ⟨'O', 'V', ['C'], by decide, by decide +kernel, by decide, by decide⟩

theorem attempts_of_sky (sky : SkyGroup) (visibility : Option (Fin 1000)) (t : SignedTemperature)
    (s : QString) :
    let text := spaced sky.words
      ++ (spaced (visibility.toList.map verticalVisibilityText) ++ (t.text ++ s))
    presentWeather.regExp.attempts text = [] ∧ runwayVisualRange.regExp.attempts text = [] := by
  intro text
  have hfront : ∀ {w : QString}, (∃ a b t, w = a :: b :: t ∧ SkyFront a b) → w <+: text →
      presentWeather.regExp.attempts text = [] ∧ runwayVisualRange.regExp.attempts text = [] := by
    rintro w ⟨a, b, t, rfl, h⟩ ⟨w', hw'⟩
    rw [← hw']
    exact attempts_of_front h.weather h.intensity (.inl h.not_range) _
  cases sky with
  | clear token => exact hfront (front_of_clear token.2) ⟨_, (spaced_cons token.1 [] _).symm⟩
  | layers clouds =>
    cases clouds with
    | nil => exact (attempts_of_vertical visibility t s).1
    | cons group clouds =>
      have hamount : group.amount.text <+: group.text :=
        (List.prefix_append _ _).trans (List.prefix_append _ _)
      exact hfront (front_of_amount group.amount)
        (hamount.trans ⟨_, (spaced_cons group.text _ _).symm⟩)

end Fronts

/-! ## The parts in turn -/

namespace MetarReport

variable (report : MetarReport)

/-- What comes behind the present weather. -/
def afterWeather (tail : QString) : QString :=
  spaced report.sky.words
    ++ (spaced (report.verticalVisibility.toList.map verticalVisibilityText)
    ++ (report.temperature.text ++ '/' :: report.dewPoint.text
      ++ ' ' :: (report.altimeter.text ++ tail)))

/-- The parts from the clouds on take all of it. -/
theorem decodeParts_afterWeather (tail : QString) (metar : CMetar)
    (hclouds : metar.m_cloudLayers = []) :
    decodeParts [cloud, Weather.verticalVisibility, Weather.temperature, pressure, recentWeather,
        windShear] (report.afterWeather tail) metar
      = some { metar with
        m_cloudLayers := report.sky.value
        m_temperature := report.temperature.value
        m_dewPoint := report.dewPoint.value
        m_altimeter := report.altimeter.value } := by
  -- The text of both temperatures begins with the first one, for which the parts in front wait.
  have htext : report.temperature.text ++ '/' :: report.dewPoint.text
      ++ ' ' :: (report.altimeter.text ++ tail) = report.temperature.text
      ++ ('/' :: report.dewPoint.text ++ ' ' :: (report.altimeter.text ++ tail)) :=
    List.append_assoc _ _ _
  rcases attempts_of_vertical report.verticalVisibility report.temperature
      ('/' :: report.dewPoint.text ++ ' ' :: (report.altimeter.text ++ tail)) with ⟨_, hcloud⟩
  rcases attempts_of_temperature report.temperature
      ('/' :: report.dewPoint.text ++ ' ' :: (report.altimeter.text ++ tail)) with ⟨_, _, hvertical⟩
  rw [← htext] at hcloud hvertical
  have hvisibility : ∀ metar, Weather.verticalVisibility.parse
      (spaced (report.verticalVisibility.toList.map verticalVisibilityText)
        ++ (report.temperature.text ++ '/' :: report.dewPoint.text
        ++ ' ' :: (report.altimeter.text ++ tail))) metar
      = some (report.temperature.text ++ '/' :: report.dewPoint.text
        ++ ' ' :: (report.altimeter.text ++ tail), metar) := by
    intro metar
    cases report.verticalVisibility with
    | none => exact MetarDecoderPart.parse_of_nil rfl rfl hvertical
    | some visibility =>
      exact (congrArg (fun s => Weather.verticalVisibility.parse s metar)
        (spaced_cons _ [] _)).trans (parse_verticalVisibility _ metar visibility)
  unfold afterWeather
  rw [decodeParts_cons (parse_cloud _ metar report.sky hcloud hclouds),
    decodeParts_cons (hvisibility _), decodeParts_cons (parse_temperature _ _ _ _)]
  obtain ⟨s₁, hpressure⟩ := parse_pressure report.altimeter tail { metar with
    m_cloudLayers := report.sky.value
    m_temperature := report.temperature.value
    m_dewPoint := report.dewPoint.value }
  -- The last two parts take what comes behind, if anything.
  rcases exists_parse (show recentWeather.isRepeatable = false from rfl) rfl
      (fun _ _ => rfl) s₁ _ with ⟨s₂, hrecent⟩
  rcases exists_parse (show windShear.isRepeatable = false from rfl) rfl (fun _ _ => rfl) s₂ _ with
      ⟨s₃, hshear⟩
  rw [decodeParts_cons hpressure, decodeParts_cons hrecent, decodeParts_cons hshear]
  rfl

/-- The groups up to the visibility. -/
def head : List QString :=
  report.reportType.toList.map ReportType.text
    ++ ([report.airport.1]
    ++ ([report.time.text]
    ++ (report.status.toList.map StatusGroup.text
    ++ ([report.wind.text]
    ++ (report.variation.toList.map variationText
    ++ report.visibility.words)))))

/-- What they set. -/
def headValue : CMetar where
  m_reportType := report.reportType.getD .metar
  m_airport := report.airport.1
  m_reportDay := report.time.day
  m_reportTime := ((report.time.hour : ℤ), (report.time.minute : ℤ))
  m_isAutomated := report.status.any StatusGroup.isAuto
  m_windLayer := report.windValue
  m_visibility := report.visibility.value

theorem spaced_append (words words' : List QString) (rest : QString) :
    spaced (words ++ words') ++ rest = spaced words ++ (spaced words' ++ rest) := by
  rw [spaced, List.flatMap_append, List.append_assoc]
  rfl

/-- The parts up to the visibility take all of it. -/
theorem decodeParts_head (rest : QString) :
    decodeParts decoders (spaced report.head ++ rest) {}
      = decodeParts [runwayVisualRange, presentWeather, cloud, Weather.verticalVisibility,
        Weather.temperature, pressure, recentWeather, windShear] rest report.headValue := by
  -- The variation of the wind is an option, and its part takes nothing without it.
  have hvariation : ∀ metar : CMetar, variationsWindDirection.parse
      (spaced (report.variation.toList.map variationText)
        ++ (spaced report.visibility.words ++ rest)) metar
      = some (spaced report.visibility.words ++ rest, { metar with
        m_windLayer := { metar.m_windLayer with
          m_directionFrom := report.variation.elim metar.m_windLayer.m_directionFrom
            fun variation => (variation.1.val : ℤ)
          m_directionTo := report.variation.elim metar.m_windLayer.m_directionTo
            fun variation => (variation.2.val : ℤ) } }) := by
    intro metar
    cases report.variation with
    | none =>
      exact MetarDecoderPart.parse_of_nil rfl rfl (attempts_variations rest report.visibility)
    | some variation =>
      exact (congrArg (fun s => variationsWindDirection.parse s metar)
        (spaced_cons _ [] _)).trans (parse_variationsWindDirection _ metar variation)
  unfold head decoders
  simp only [spaced_append, spaced_cons, spaced_nil, List.nil_append]
  rw [decodeParts_cons (parse_reportType _ _ report.reportType report.airport),
    decodeParts_cons (parse_airport _ _ report.airport),
    decodeParts_cons (parse_dayTime _ _ report.time),
    decodeParts_cons (parse_status _ _ report.status report.wind),
    decodeParts_cons (parse_wind _ _ report.wind), decodeParts_cons (hvariation _),
    decodeParts_cons (parse_visibility _ _ report.visibility rfl rfl)]
  rfl

theorem attempts_afterWeather (tail : QString) :
    presentWeather.regExp.attempts (report.afterWeather tail) = []
      ∧ runwayVisualRange.regExp.attempts (report.afterWeather tail) = [] := by
  have htext : report.afterWeather tail = spaced report.sky.words
      ++ (spaced (report.verticalVisibility.toList.map verticalVisibilityText)
      ++ (report.temperature.text
      ++ ('/' :: report.dewPoint.text ++ ' ' :: (report.altimeter.text ++ tail)))) := by
    unfold afterWeather
    rw [List.append_assoc report.temperature.text]
  rw [htext]
  exact attempts_of_sky _ _ _ _

/-- The runway visual ranges, and what comes behind the visibility. -/
def body (tail : QString) : QString :=
  spaced (report.runwayRanges.map RunwayRange.text)
    ++ (spaced (report.presentWeathers.map WeatherGroup.text) ++ report.afterWeather tail)

/-- Nothing but one runway visual range and present weather the decoder can read. -/
def Taken : Prop :=
  report.runwayRanges.length ≤ 1 ∧ ∀ group ∈ report.presentWeathers, group.Readable

theorem parse_oneRange (hone : report.runwayRanges.length ≤ 1) (tail : QString) (metar : CMetar) :
    runwayVisualRange.parse (report.body tail) metar
      = some (spaced (report.presentWeathers.map WeatherGroup.text) ++ report.afterWeather tail,
        metar) := by
  have hnone : runwayVisualRange.regExp.attempts
      (spaced (report.presentWeathers.map WeatherGroup.text) ++ report.afterWeather tail) = [] := by
    cases report.presentWeathers with
    | nil => exact (report.attempts_afterWeather tail).2
    | cons group groups =>
      rw [List.map_cons, spaced_cons]
      exact (weather_front _ group).2
  unfold body
  generalize report.runwayRanges = ranges at hone
  -- The decoder reads one range at most.
  cases ranges with
  | nil => exact MetarDecoderPart.parse_of_nil rfl rfl hnone
  | cons range others =>
    cases others with
    | nil =>
      exact (congrArg (fun s => runwayVisualRange.parse s metar)
        (spaced_cons _ [] _)).trans (parse_runwayVisualRange _ metar range)
    | cons other others =>
      rw [List.length_cons, List.length_cons] at hone
      omega

/-- All groups of the present weather are read. -/
theorem decodeParts_body (h : report.Taken) (tail : QString) (parts : List MetarDecoderPart)
    {metar : CMetar} (hweather : metar.m_presentWeathers = []) :
    decodeParts (runwayVisualRange :: presentWeather :: parts) (report.body tail) metar
      = decodeParts parts (report.afterWeather tail) { metar with
        m_presentWeathers := report.presentWeathers.map WeatherGroup.decoded } := by
  have htake : report.presentWeathers.takeWhile (fun g => decide g.Readable)
      = report.presentWeathers :=
    List.takeWhile_eq_self_iff.mpr fun group hgroup => decide_eq_true (h.2 group hgroup)
  have hdrop : report.presentWeathers.dropWhile (fun g => decide g.Readable) = [] :=
    List.dropWhile_eq_nil_iff.mpr fun group hgroup => decide_eq_true (h.2 group hgroup)
  rw [decodeParts_cons (report.parse_oneRange h.1 tail metar),
    decodeParts_cons (parse_presentWeather _ (report.attempts_afterWeather tail).1 _), htake, hdrop,
    hweather]
  rfl

/-- Otherwise the decoder is stuck. -/
theorem exists_stuck (h : ¬ report.Taken) (tail : QString) (parts : List MetarDecoderPart)
    (metar : CMetar) : ∃ s metar', Stuck s ∧ metar'.m_altimeter = metar.m_altimeter
      ∧ decodeParts (runwayVisualRange :: presentWeather :: parts) (report.body tail) metar
        = decodeParts parts s metar' := by
  by_cases hone : report.runwayRanges.length ≤ 1
  · -- stuck at the first group with a code the decoder does not know
    have hunread : ∃ group others, report.presentWeathers.dropWhile (fun g => decide g.Readable)
        = group :: others := by
      refine List.exists_cons_of_ne_nil fun hnil => h ⟨hone, fun group hgroup => ?_⟩
      exact of_decide_eq_true (List.dropWhile_eq_nil_iff.mp hnil group hgroup)
    rcases hunread with ⟨group, others, hdrop⟩
    have hparse := parse_presentWeather report.presentWeathers (report.attempts_afterWeather tail).1
      metar
    rw [hdrop, List.map_cons, spaced_cons] at hparse
    have hdecode : decodeParts (runwayVisualRange :: presentWeather :: parts) (report.body tail)
        metar = decodeParts parts _ _ :=
      (decodeParts_cons (report.parse_oneRange hone tail metar)).trans (decodeParts_cons hparse)
    refine ⟨_, _, (weather_front _ group).1, ?_, hdecode⟩
    rfl
  · -- stuck at the second range
    unfold body
    generalize report.runwayRanges = ranges at hone
    cases ranges with
    | nil => exact absurd (Nat.zero_le 1) hone
    | cons range others =>
      cases others with
      | nil => exact absurd (le_refl 1) hone
      | cons other others =>
        rw [List.map_cons, List.map_cons, spaced_cons, spaced_cons]
        rcases range_front (spaced (others.map RunwayRange.text)
            ++ (spaced (report.presentWeathers.map WeatherGroup.text) ++ report.afterWeather tail))
            other with ⟨hstuck, hweather⟩
        refine ⟨_, metar, hstuck, rfl, ?_⟩
        rw [decodeParts_cons (parse_runwayVisualRange _ metar range),
          decodeParts_cons (MetarDecoderPart.parse_of_nil rfl rfl hweather)]

/-! ## The whole report -/

theorem text_eq : report.text = spaced report.head ++ report.body report.tail := by
  rw [text_eq_spaced]
  unfold front head body afterWeather
  simp [spaced_append]

theorem decodeParts_text : decodeParts decoders report.text.simplified {}
    = decodeParts [runwayVisualRange, presentWeather, cloud, Weather.verticalVisibility,
        Weather.temperature, pressure, recentWeather, windShear] (report.body report.tail)
        report.headValue := by
  rw [simplified_text, text_eq, decodeParts_head]

/-- The decoded report where nothing is left of the present weather. -/
def takenValue : CMetar :=
  { report.headValue with
    m_metarMessage := report.text
    m_presentWeathers := report.presentWeathers.map WeatherGroup.decoded
    m_cloudLayers := report.sky.value
    m_temperature := report.temperature.value
    m_dewPoint := report.dewPoint.value
    m_altimeter := report.altimeter.value }

theorem decode_of_taken (h : report.Taken) : decode report.text = report.takenValue := by
  have hparts := report.decodeParts_text
  rw [report.decodeParts_body h report.tail _ rfl,
    report.decodeParts_afterWeather report.tail _ rfl] at hparts
  unfold decode
  rw [hparts]
  rfl

theorem decode_of_stuck (h : ¬ report.Taken) : (decode report.text).m_altimeter = {} := by
  have hparts := report.decodeParts_text
  rcases report.exists_stuck h report.tail
      [cloud, Weather.verticalVisibility, Weather.temperature, pressure, recentWeather, windShear]
      report.headValue with ⟨s, metar, hstuck, haltimeter, hbody⟩
  rw [hbody] at hparts
  unfold decode
  rw [hparts]
  cases hdecode : decodeParts [cloud, Weather.verticalVisibility, Weather.temperature, pressure,
      recentWeather, windShear] s metar with
  | none => rfl
  | some metar' => exact (altimeter_of_stuck hstuck hdecode).trans haltimeter

/-- No altimeter of a report is that of a new decoded report. -/
theorem altimeter_ne : report.altimeter.value ≠ {} := by
  have hpos : (0 : ℚ) < report.altimeter.pressure.val := by
    exact_mod_cast report.altimeter.pressure_pos
  intro h
  have hvalue : report.altimeter.value.value = 0 := congrArg CPressure.value h
  unfold AltimeterGroup.value at hvalue
  split at hvalue
  · exact absurd hvalue (ne_of_gt (div_pos hpos (by norm_num)))
  · exact absurd hvalue (ne_of_gt hpos)

/-- A report is carried if it has at most one runway visual range, and each group of its present
weather is readable, has no tornado and no phenomenon behind the first two which is not one of
them. -/
theorem carries_decode_iff (report : MetarReport) : report.Carries (decode report.text)
    ↔ report.runwayRanges.length ≤ 1 ∧ ∀ group ∈ report.presentWeathers,
      group.descriptor ≠ .freezing ∧ WeatherPhenomenon.icePellets ∉ group.phenomena
        ∧ WeatherPhenomenon.tornadoOrWaterspout ∉ group.phenomena
        ∧ group.phenomena ⊆ group.phenomena.take 2 := by
  -- All is taken or the decoder is stuck in front of the altimeter.
  by_cases htaken : report.Taken
  · have hgroups : report.presentWeathers.map WeatherGroup.decoded
        = report.presentWeathers.map WeatherGroup.value ↔ ∀ group ∈ report.presentWeathers,
          group.decoded = group.value := List.map_inj_left
    have hcarries : report.Carries report.takenValue
        ↔ ∀ group ∈ report.presentWeathers, group.decoded = group.value := by
      rw [← hgroups]
      exact ⟨fun h => h.presentWeathers,
        fun h => ⟨rfl, rfl, rfl, rfl, rfl, rfl, rfl, h, rfl, rfl, rfl, rfl⟩⟩
    rw [report.decode_of_taken htaken, hcarries]
    constructor
    · intro h
      refine ⟨htaken.1, fun group hgroup => ?_⟩
      rcases htaken.2 group hgroup with ⟨hdescriptor, hpellets⟩
      exact ⟨hdescriptor, hpellets, (decoded_eq_value group).mp (h group hgroup)⟩
    · rintro ⟨_, h⟩ group hgroup
      exact (decoded_eq_value group).mpr (h group hgroup).2.2
  · -- Without an altimeter nothing is carried, as every report has one.
    constructor
    · intro h
      exact absurd (h.altimeter.symm.trans (report.decode_of_stuck htaken)) report.altimeter_ne
    · rintro ⟨hone, h⟩
      exact absurd ⟨hone, fun group hgroup => ⟨(h group hgroup).1, (h group hgroup).2.1⟩⟩ htaken

end MetarReport

theorem upper_airport : ∀ c ∈ ['E', 'D', 'D', 'M'], c.isUpper = true ∨ c.isDigit = true :=
  fun c hc => .inl (List.all_eq_true.mp rfl c hc)

/-- Freezing rain, one degree, 1013 hPa. -/
def freezingReport : MetarReport where
  reportType := none
  airport := ⟨['E', 'D', 'D', 'M'], rfl, upper_airport⟩
  time := ⟨1, 12, 20, by decide, by decide, by decide⟩
  status := none
  wind := ⟨some 200, 5, none, .kt⟩
  variation := none
  visibility := .meters 8000 false none
  runwayRanges := []
  presentWeathers := [⟨.moderate, .freezing, [.rain], by decide, .inr (by decide)⟩]
  sky := .layers [⟨.ovc, 10, none⟩]
  verticalVisibility := none
  temperature := ⟨false, 1⟩
  dewPoint := ⟨false, 0⟩
  altimeter := ⟨false, 1013, by decide⟩
  recentWeathers := []
  windShears := []

/-- Of this one neither the rain is carried nor anything behind it. -/
theorem freezing_rain_is_lost :
    freezingReport.text = "EDDM 011220Z 20005KT 8000 FZRA OVC010 01/00 Q1013"
      ∧ ¬ freezingReport.Carries (decode freezingReport.text) := by
  have hstuck : ¬ freezingReport.Taken := fun h => (h.2 _ (List.mem_singleton_self _)).1 rfl
  refine ⟨by decide, fun h => ?_⟩
  exact absurd (h.altimeter.symm.trans (freezingReport.decode_of_stuck hstuck))
    freezingReport.altimeter_ne

end Weather

end NeoSwift.Misc
