import NeoSwift.Aviation.Altitude
import NeoSwift.Fsd.Client.Handlers

/-!
# Flight Plans

A flight plan as a client sends it, and the cruising altitude the handler of
another client reads from it. The altitude is one text of the message: a flight
level in the notation of ICAO, and feet without a unit for everything else. The
handler takes digits alone as hundreds of feet or as feet, depending on the rules
and on how many there are.

## Main definitions

* `FpAltitude`: An altitude that may stand in a flight plan.
* `CFlightPlan`, `sendFlightPlan`: A flight plan and its message.
* `ReceivedFlightPlan.cruiseAltitude`: The altitude of a plan that was received.
* `CFlightPlan.AltitudeIsKept`: When that is the altitude that was sent.

## Theorems

* `cruiseAltString_number`: How the handler reads digits alone.
* `parse_cruiseAltString_msl`: What feet without a unit are read as.
* `cruiseAltitude_kept_iff`: When the altitude arrives.
* `metric_level_is_lost`: A metric level that does not.
-/

namespace NeoSwift.Fsd

open Aviation Pq

/-- An altitude that is valid in a flight plan. Its feet are a number the `int` of
    the source holds. -/
structure FpAltitude where
  altitude : CAltitude
  valid : altitude.isValidFpAltitude.1 = true
  feet_le : altitude.valueIn .ft ≤ 2147483600

/-- `CFlightPlan::FlightRules`. -/
inductive CFlightPlan.FlightRules where
  | vfr | ifr | svfr | dvfr | unknown
  deriving DecidableEq

/-- `CFlightPlan`, as far as it is sent. Times of day are read as numbers; of the
    aircraft there are the texts in the notation of ICAO and of the FAA, which are
    never empty. -/
structure CFlightPlan where
  asIcaoString : QString
  asFaaString : QString
  originAirportIcao : QString
  destinationAirportIcao : QString
  alternateAirportIcao : QString
  takeoffTimePlanned : Int32
  takeoffTimeActual : Int32
  enrouteHours : Int32
  enrouteMinutes : Int32
  fuelHours : Int32
  fuelMinutes : Int32
  cruiseAltitude : FpAltitude
  cruiseTrueAirspeedKts : Int32
  flightRules : CFlightPlan.FlightRules
  route : QString
  remarks : QString

def getFlightType : CFlightPlan.FlightRules → FlightType
  | .ifr => .ifr
  | .vfr => .vfr
  | .svfr => .svfr
  | .dvfr => .dvfr
  | .unknown => .ifr

/-- The message of `sendFlightPlan`. -/
def sendFlightPlan (cfg : Config) (equipmentInIcaoFormat : Bool) (flightPlan : CFlightPlan) :
    FlightPlan where
  sender := cfg.ownCallsign.callsign
  receiver := "SERVER"
  flightType := getFlightType flightPlan.flightRules
  aircraftIcaoType :=
    if equipmentInIcaoFormat then flightPlan.asIcaoString else flightPlan.asFaaString
  trueCruisingSpeed := flightPlan.cruiseTrueAirspeedKts
  depAirport := flightPlan.originAirportIcao
  estimatedDepTime := flightPlan.takeoffTimePlanned
  actualDepTime := flightPlan.takeoffTimeActual
  cruiseAlt := flightPlan.cruiseAltitude.altitude.asFpVatsimAltitudeString
  destAirport := flightPlan.destinationAirportIcao
  hoursEnroute := flightPlan.enrouteHours
  minutesEnroute := flightPlan.enrouteMinutes
  fuelAvailHours := flightPlan.fuelHours
  fuelAvailMinutes := flightPlan.fuelMinutes
  altAirport := flightPlan.alternateAirportIcao
  remarks := flightPlan.remarks.filter (fun c => c != ':')
  route := flightPlan.route.filter (fun c => c != ':')

/-- The altitude `handleFlightPlan` parses. -/
def ReceivedFlightPlan.cruiseAltitude (systemToDouble : QString → Option ℚ)
    (plan : ReceivedFlightPlan) : CAltitude :=
  CAltitude.parseFromString systemToDouble plan.cruiseAlt .bestGuess

/-- A flight level in feet, or an altitude that is far enough from the levels that
    its digits are read as under the rules of the plan. -/
def CFlightPlan.AltitudeIsKept (plan : CFlightPlan) : Prop :=
  let a := plan.cruiseAltitude.altitude
  (a.isFlightLevel = true ∧ a.unit = .ft) ∨
    (a.isFlightLevel = false ∧
      ((plan.flightRules ≠ .ifr ∧ plan.flightRules ≠ .unknown) ∨
        a.valueIn .ft < 50 ∨ 950 ≤ a.valueIn .ft))

/-! ## Reading the texts -/

/-- How the handler reads digits alone. -/
theorem cruiseAltString_number {n : ℕ} (hn : n ≤ 2147483647) (rules : FlightRules) :
    cruiseAltString (QString.number n) rules
      = if rules = .ifr then
          if 1000 ≤ n then "FL" ++ QString.number (n / 100 : ℕ)
          else "FL" ++ QString.number n
        else if 5000 ≤ n then "FL" ++ QString.number (n / 100 : ℕ)
        else QString.number n ++ "ft" := by
  -- Digits are not trimmed, and are read back as the number.
  have hdigits := CPqString.mem_number n
  have htrim : (QString.number n).trimmed = QString.number n := by
    refine QString.trimmed_of_no_space (fun c hc => ?_)
    rcases hdigits c hc with ⟨d, hd, rfl⟩
    exact QString.isSpace_digitChar (by omega)
  have hne : QString.number n ≠ [] := by
    exact Numeral.natText_ne_nil 10 n
  have hall : (QString.number n).all Char.isDigit = true := by
    rw [List.all_eq_true]
    intro c hc
    rcases hdigits c hc with ⟨d, hd, rfl⟩
    exact Numeral.isDigit_digitChar hd
  have hint : (QString.number n).toInt.toInt = n := by
    rw [QString.toInt, QString.number, QString.toIntegral_numberBase (by omega) (by omega)
      (by omega) (by omega), Int32.toInt_ofInt_of_le (by omega) (by omega)]
  have htdiv : Int.tdiv (n : ℤ) 100 = ((n / 100 : ℕ) : ℤ) := by
    rfl
  unfold cruiseAltString
  rw [htrim]
  dsimp only
  rw [if_pos ⟨hne, hall⟩, hint, htdiv]
  -- The limits of the source are on integers, ours on natural numbers.
  have hthousand : (1000 : ℤ) ≤ n ↔ 1000 ≤ n := by omega
  have hfive : (5000 : ℤ) ≤ n ↔ 5000 ≤ n := by omega
  rw [if_congr hthousand rfl rfl, if_congr hfive rfl rfl]

/-- Hundreds of feet come out as they are, but under IFR those below a thousand feet
    are taken for a flight level. -/
theorem parse_cruiseAltString_msl (systemToDouble : QString → Option ℚ) {h : ℕ}
    (hh : h ≤ 21474836) (rules : FlightRules) :
    ∃ datum, CAltitude.parseFromString systemToDouble
        (cruiseAltString (QString.number (h * 100 : ℕ)) rules) .bestGuess
      = CAltitude.create ((if rules = .ifr ∧ h < 10 then h * 10000 else h * 100 : ℕ) : ℚ)
          datum .ft := by
  have hread : ∀ n : ℕ, Numeral.readNat 10 (QString.number n) = some n := by
    intro n
    exact Numeral.readNat_natText (by omega) (by omega) n
  -- The handler divides by a hundred, which gives the hundreds back.
  have hdiv : h * 100 / 100 = h := Nat.mul_div_cancel h (by omega)
  have hlevel := CAltitude.parseFromString_flightLevel systemToDouble .bestGuess (hread h)
    (CPqString.mem_number h) (by omega)
  have hkept : ¬(rules = .ifr ∧ h < 10) →
      (if rules = .ifr ∧ h < 10 then h * 10000 else h * 100) = h * 100 := fun hc => if_neg hc
  rw [cruiseAltString_number (by omega), hdiv]
  by_cases hifr : rules = .ifr
  · rw [if_pos hifr]
    by_cases hlow : h < 10
    · -- The text is read as a level of that many feet.
      have hfew := CAltitude.parseFromString_flightLevel systemToDouble .bestGuess
        (hread (h * 100)) (CPqString.mem_number (h * 100)) (by omega)
      rw [if_neg (by omega), if_pos ⟨hifr, hlow⟩, hfew, Nat.mul_assoc]
      exact ⟨.flightLevel, rfl⟩
    · rw [if_pos (by omega), hkept (fun hc => hlow hc.2), hlevel]
      exact ⟨.flightLevel, rfl⟩
  · rw [if_neg hifr, hkept (fun hc => hifr hc.1)]
    -- Under VFR low altitudes are sent in feet.
    by_cases hhigh : 5000 ≤ h * 100
    · rw [if_pos hhigh, hlevel]
      exact ⟨.flightLevel, rfl⟩
    · rw [if_neg hhigh, CAltitude.parseFromString_feet]
      exact ⟨.meanSeaLevel, rfl⟩

/-- What starts with a letter is parsed as it is. -/
theorem cruiseAltString_letter {letter : Char} {rest : QString} (rules : FlightRules)
    (hletter : letter.isDigit = false) (hspace : ∀ c ∈ letter :: rest, QString.isSpace c = false) :
    cruiseAltString (letter :: rest) rules = letter :: rest := by
  have hall : (letter :: rest).all Char.isDigit = false := by
    rw [List.all_cons, hletter, Bool.false_and]
  unfold cruiseAltString
  rw [QString.trimmed_of_no_space hspace]
  dsimp only
  rw [hall, if_neg (fun hc => absurd hc.2 Bool.false_ne_true)]

/-- The altitude the handler of another client has in the end. -/
def altitudeOnNetwork (systemToDouble : QString → Option ℚ) (plan : CFlightPlan) : CAltitude :=
  CAltitude.parseFromString systemToDouble
    (cruiseAltString plan.cruiseAltitude.altitude.asFpVatsimAltitudeString
      (flightRules (getFlightType plan.flightRules))) .bestGuess

theorem nearlyEquals_create {x : ℚ} {datum : ReferenceDatum} {sent : CAltitude} :
    (CAltitude.create x datum .ft).NearlyEquals sent ↔ |x - sent.valueIn .ft| <
      sent.roundingFt := by
  have hvalue : (CAltitude.create x datum .ft).valueIn .ft = x := by
    rfl
  exact ⟨And.right, fun h => ⟨rfl, h⟩⟩

variable (systemToDouble : QString → Option ℚ) (plan : CFlightPlan)

/-- A metric level does not arrive. -/
theorem not_nearlyEquals_metric (hlevel : plan.cruiseAltitude.altitude.isFlightLevel = true)
    (hm : plan.cruiseAltitude.altitude.unit = .m) :
    ¬(altitudeOnNetwork systemToDouble plan).NearlyEquals plan.cruiseAltitude.altitude := by
  -- A valid altitude is not negative, so the tens of meters are digits only.
  rcases CAltitude.of_isValidFpAltitude plan.cruiseAltitude.valid with ⟨-, -, hnegative, -⟩
  have hvalue := CAltitude.neg_epsilon_le hnegative
  have hmeters : 0 ≤ plan.cruiseAltitude.altitude.valueInteger .m := by
    refine qRound_nonneg ?_
    rw [CLength.valueIn, CLengthUnit.convertFrom, hm, if_neg (by decide), if_pos rfl]
    linarith
  rcases Int.eq_ofNat_of_zero_le (Int.tdiv_nonneg hmeters (by decide : (0 : ℤ) ≤ 10))
    with ⟨tens, htens⟩
  have htext : plan.cruiseAltitude.altitude.asFpVatsimAltitudeString
      = 'S' :: (Numeral.natText 10 tens).leftpad 4 '0' := by
    have hnull : plan.cruiseAltitude.altitude.isNull = false := by
      rw [CLength.isNull, hm]
      rfl
    rw [CAltitude.asFpVatsimAltitudeString, CAltitude.asFpICAOAltitudeString, hnull, hlevel, hm,
      htens]
    rfl
  -- The text of a metric level has no blanks, and is sent as it is.
  have hdigits : ∀ c ∈ (Numeral.natText 10 tens).leftpad 4 '0', ∃ d < 10, c = Nat.digitChar d :=
    fun c hc => Numeral.mem_leftpad hc
  have hspace : ∀ c ∈ 'S' :: (Numeral.natText 10 tens).leftpad 4 '0',
      QString.isSpace c = false := by
    intro c hc
    rcases List.mem_cons.mp hc with rfl | hc
    · rfl
    · rcases hdigits c hc with ⟨d, hd, rfl⟩
      exact QString.isSpace_digitChar (by omega)
  have hne : (Numeral.natText 10 tens).leftpad 4 '0' ≠ [] :=
    List.append_ne_nil_of_right_ne_nil _ (Numeral.natText_ne_nil 10 tens)
  -- On the other side it is read as null.
  have hnull := CAltitude.isNull_parseFromString_metric systemToDouble .bestGuess hne hdigits
  rintro ⟨hnot, -⟩
  rw [altitudeOnNetwork, htext, cruiseAltString_letter _ rfl hspace] at hnot
  exact absurd (hnot.symm.trans hnull) Bool.false_ne_true

/-- A flight level in feet arrives. -/
theorem nearlyEquals_flightLevel (hlevel : plan.cruiseAltitude.altitude.isFlightLevel = true)
    (hft : plan.cruiseAltitude.altitude.unit = .ft) :
    (altitudeOnNetwork systemToDouble plan).NearlyEquals plan.cruiseAltitude.altitude := by
  rcases CAltitude.of_isValidFpAltitude plan.cruiseAltitude.valid with ⟨-, hunit, hnegative, hrange⟩
  rcases hrange hlevel with ⟨hinteger, hfeet⟩
  rcases hfeet hft with ⟨hlow, hhigh⟩
  rcases Int.eq_ofNat_of_zero_le (by omega :
    0 ≤ Int.tdiv (plan.cruiseAltitude.altitude.valueInteger .ft) 100) with ⟨level, hlevelEq⟩
  have hnull : plan.cruiseAltitude.altitude.isNull = false := by
    rw [CLength.isNull, hft]
    rfl
  have htext : plan.cruiseAltitude.altitude.asFpVatsimAltitudeString
      = 'F' :: 'L' :: (Numeral.natText 10 level).leftpad 3 '0' := by
    have hmeters : ¬plan.cruiseAltitude.altitude.unit = .m := by
      rw [hft]
      decide
    rw [CAltitude.asFpVatsimAltitudeString, CAltitude.asFpICAOAltitudeString, hnull, hlevel,
      if_neg hmeters, hlevelEq]
    rfl
  have hspace : ∀ c ∈ 'F' :: 'L' :: (Numeral.natText 10 level).leftpad 3 '0',
      QString.isSpace c = false := by
    intro c hc
    rcases List.mem_cons.mp hc with rfl | hc
    · rfl
    rcases List.mem_cons.mp hc with rfl | hc
    · rfl
    · rcases Numeral.mem_leftpad hc with ⟨d, hd, rfl⟩
      exact QString.isSpace_digitChar (by omega)
  have hparse := CAltitude.parseFromString_flightLevel systemToDouble .bestGuess
    (Numeral.readNat_leftpad level 3) (fun c hc => Numeral.mem_leftpad hc) (by omega)
  have hparse' : CAltitude.parseFromString systemToDouble
      ('F' :: 'L' :: (Numeral.natText 10 level).leftpad 3 '0') .bestGuess
        = CAltitude.create ((level * 100 : ℕ) : ℚ) .flightLevel .ft := hparse
  rw [altitudeOnNetwork, htext, cruiseAltString_letter _ rfl hspace, hparse', nearlyEquals_create]
  -- The level is the integer part of the hundreds, and the feet are an integer.
  have hrounding : plan.cruiseAltitude.altitude.roundingFt = 100 := by
    rw [CAltitude.roundingFt, hft, if_neg (fun hc => absurd hc.2 (by decide))]
  have hint : |plan.cruiseAltitude.altitude.valueIn .ft
      - plan.cruiseAltitude.altitude.valueInteger .ft| ≤ 1 / 1000000000 := by
    rw [CLength.isInteger, hnull, hft, Bool.not_false, Bool.true_and, decide_eq_true_eq,
      CLength.value, hnull] at hinteger
    rw [CAltitude.valueIn_ft_of_ft hft]
    exact hinteger
  have hnonneg : 0 ≤ plan.cruiseAltitude.altitude.valueInteger .ft := by
    have hvalue := CAltitude.valueIn_ft_ge hunit hnegative
    exact qRound_nonneg (by linarith)
  rw [Int.tdiv_eq_ediv_of_nonneg hnonneg] at hlevelEq
  have hlo : level * 100 ≤ plan.cruiseAltitude.altitude.valueInteger .ft := by omega
  have hhi : plan.cruiseAltitude.altitude.valueInteger .ft ≤ level * 100 + 99 := by omega
  have hlo' : (level * 100 : ℚ) ≤ (plan.cruiseAltitude.altitude.valueInteger .ft : ℚ) := by
    exact_mod_cast hlo
  have hhi' : (plan.cruiseAltitude.altitude.valueInteger .ft : ℚ) ≤ level * 100 + 99 := by
    exact_mod_cast hhi
  rcases abs_le.mp hint with ⟨hbelow, habove⟩
  rw [abs_lt]
  push_cast
  constructor <;> linarith

/-- An altitude above mean sea level arrives, unless its feet are taken for a flight
    level. -/
theorem nearlyEquals_msl_iff (hlevel : plan.cruiseAltitude.altitude.isFlightLevel = false) :
    (altitudeOnNetwork systemToDouble plan).NearlyEquals plan.cruiseAltitude.altitude ↔
      (plan.flightRules ≠ .ifr ∧ plan.flightRules ≠ .unknown) ∨
        plan.cruiseAltitude.altitude.valueIn .ft < 50 ∨
        950 ≤ plan.cruiseAltitude.altitude.valueIn .ft := by
  rcases CAltitude.of_isValidFpAltitude plan.cruiseAltitude.valid with ⟨-, hunit, hnegative, -⟩
  have hlow := CAltitude.valueIn_ft_ge hunit hnegative
  have hhigh := plan.cruiseAltitude.feet_le
  have htext := CAltitude.asFpVatsimAltitudeString_msl hlevel hunit
  have hrounding : plan.cruiseAltitude.altitude.roundingFt = 100 := by
    rw [CAltitude.roundingFt, hlevel, if_neg (fun hc => absurd hc.1 Bool.false_ne_true)]
  -- An unknown rule is sent as IFR.
  have hifr : flightRules (getFlightType plan.flightRules) = .ifr ↔
      ¬(plan.flightRules ≠ .ifr ∧ plan.flightRules ≠ .unknown) := by
    cases plan.flightRules <;> decide
  rw [altitudeOnNetwork, htext]
  generalize hfeet : plan.cruiseAltitude.altitude.valueIn .ft = feet at hlow hhigh ⊢
  rcases abs_le.mp (abs_qRound_sub_le (feet / 100)) with ⟨hbelow, habove⟩
  rcases Int.eq_ofNat_of_zero_le (qRound_nonneg (by linarith : -1 / 2 < feet / 100)) with ⟨h, hh⟩
  -- The hundreds of feet are a natural number, and small enough to be read.
  have hmax : h ≤ 21474836 := by
    have hcast : (h : ℚ) < 21474837 := by
      have heq : ((qRound (feet / 100) : ℤ) : ℚ) = h := by rw [hh]; rfl
      linarith
    have hnat : h < 21474837 := by exact_mod_cast hcast
    omega
  -- The two limits of the source, for the rounded number and for the exact feet.
  have hten : h < 10 ↔ feet < 950 := by
    have hle := le_qRound (x := feet / 100) (n := 10) (by omega)
    rw [hh] at hle
    have hcast : (10 : ℤ) ≤ h ↔ 950 ≤ feet := by
      rw [hle]
      constructor <;> intro hx <;> linarith
    rw [← not_le, ← not_le, ← hcast]
    omega
  have hone : h = 0 ↔ feet < 50 := by
    have hle := le_qRound (x := feet / 100) (n := 1) (by omega)
    rw [hh] at hle
    have hcast : (1 : ℤ) ≤ h ↔ 50 ≤ feet := by
      rw [hle]
      constructor <;> intro hx <;> linarith
    rw [← not_le, ← hcast]
    omega
  have hnumber : (qRound (feet / 100) * 100 : ℤ) = ((h * 100 : ℕ) : ℤ) := by
    rw [hh]
    rfl
  have hround : ((qRound (feet / 100) : ℤ) : ℚ) = h := by
    rw [hh]
    rfl
  -- Rounding is off by fifty feet at most, which is what is allowed.
  rcases parse_cruiseAltString_msl systemToDouble hmax
    (flightRules (getFlightType plan.flightRules))
    with ⟨datum, hparse⟩
  rw [hnumber, hparse, nearlyEquals_create, ← hone]
  by_cases hlevels : flightRules (getFlightType plan.flightRules) = .ifr ∧ h < 10
  · -- The feet that arrive are a hundred times those that were sent.
    rw [if_pos hlevels]
    have hrules := hifr.mp hlevels.1
    have hfew : feet < 950 := hten.mp hlevels.2
    constructor
    · intro hclose
      have hupper := (abs_lt.mp hclose).2
      push_cast at hupper
      refine .inr (.inl ?_)
      by_contra hpos
      have hone' : (1 : ℚ) ≤ h := by exact_mod_cast Nat.one_le_iff_ne_zero.mpr hpos
      linarith
    · rintro (hvfr | hzero | hmany)
      · exact absurd hvfr hrules
      · subst hzero
        rw [abs_lt]
        push_cast at hbelow habove ⊢
        constructor <;> linarith
      · linarith
  · rw [if_neg hlevels]
    constructor
    · intro _
      by_cases hrules : plan.flightRules ≠ .ifr ∧ plan.flightRules ≠ .unknown
      · exact .inl hrules
      · refine .inr (.inr ?_)
        have hmany : ¬h < 10 := fun hlt => hlevels ⟨hifr.mpr hrules, hlt⟩
        rw [hten, not_lt] at hmany
        exact hmany
    · intro _
      rw [abs_lt]
      push_cast
      constructor <;> linarith

theorem altitudeOnNetwork_iff :
    (altitudeOnNetwork systemToDouble plan).NearlyEquals plan.cruiseAltitude.altitude ↔
      plan.AltitudeIsKept := by
  unfold CFlightPlan.AltitudeIsKept
  dsimp only
  rcases CAltitude.of_isValidFpAltitude plan.cruiseAltitude.valid with ⟨-, hunit, -, -⟩
  cases hlevel : plan.cruiseAltitude.altitude.isFlightLevel with
  | false =>
      rw [nearlyEquals_msl_iff systemToDouble plan hlevel]
      simp
  | true =>
      simp only [Bool.true_eq_false, true_and, false_and, or_false]
      rcases hunit with hm | hft
      · exact ⟨fun h => absurd h (not_nearlyEquals_metric systemToDouble plan hlevel hm),
          fun h => absurd (hm.symm.trans h) (by decide)⟩
      · exact ⟨fun _ => hft, fun _ => nearlyEquals_flightLevel systemToDouble plan hlevel hft⟩

/-- The handler of another client reads the message of a flight plan, and of its
    altitude it makes the one above. -/
theorem handleFlightPlan_sendFlightPlan (cfg cfg' : Config) (equipmentInIcaoFormat : Bool)
    (s : ClientState) :
    ∃ received, handleFlightPlan cfg' (toTokens (sendFlightPlan cfg equipmentInIcaoFormat plan)) s
        = .ok (s, [.emit (.flightPlanReceived received)]) ∧
      received.cruiseAltitude systemToDouble = altitudeOnNetwork systemToDouble plan := by
  have hread := FlightPlan.fromTokens_toTokens (sendFlightPlan cfg equipmentInIcaoFormat plan)
  unfold handleFlightPlan
  rw [show FlightPlan.fromTokens (toTokens (sendFlightPlan cfg equipmentInIcaoFormat plan))
    = .ok (sendFlightPlan cfg equipmentInIcaoFormat plan) from hread]
  exact ⟨_, rfl, rfl⟩

/-- A flight plan that one client sends reaches another with the altitude it has,
    exactly where it has a flight level in feet, or an altitude above mean sea level
    that is not taken for a flight level under its rules. -/
theorem cruiseAltitude_kept_iff (cfg cfg' : Config) (equipmentInIcaoFormat : Bool)
    (s : ClientState) :
    ∃ received, handleFlightPlan cfg' (toTokens (sendFlightPlan cfg equipmentInIcaoFormat plan)) s
        = .ok (s, [.emit (.flightPlanReceived received)]) ∧
      ((received.cruiseAltitude systemToDouble).NearlyEquals plan.cruiseAltitude.altitude ↔
        plan.AltitudeIsKept) := by
  rcases handleFlightPlan_sendFlightPlan systemToDouble plan cfg cfg' equipmentInIcaoFormat s
    with ⟨received, hreceived, haltitude⟩
  refine ⟨received, hreceived, ?_⟩
  rw [haltitude]
  exact altitudeOnNetwork_iff systemToDouble plan

/-- An altitude as it may stand in a flight plan of an IFR flight. -/
def planWith (altitude : FpAltitude) : CFlightPlan where
  asIcaoString := "B738/M-SDE2E3FGHIRWY/LB1"
  asFaaString := "B738/L"
  originAirportIcao := "UUEE"
  destinationAirportIcao := "ULLI"
  alternateAirportIcao := "UUDD"
  takeoffTimePlanned := 1200
  takeoffTimeActual := 1200
  enrouteHours := 1
  enrouteMinutes := 30
  fuelHours := 3
  fuelMinutes := 0
  cruiseAltitude := altitude
  cruiseTrueAirspeedKts := 420
  flightRules := .ifr
  route := "DCT"
  remarks := []

/-- The metric level S0600, which is 6000 meters. -/
def metricLevel : FpAltitude where
  altitude := CAltitude.create 6000 .flightLevel .m
  valid := by decide +kernel
  feet_le := by decide +kernel

/-- The metric level S0600 is sent as such, and the other client has no altitude. -/
theorem metric_level_is_lost :
    CAltitude.asFpVatsimAltitudeString metricLevel.altitude = "S0600" ∧
      ¬ ∃ received, handleFlightPlan classicPilot
          (toTokens (sendFlightPlan classicPilot true (planWith metricLevel))) {}
            = .ok ({}, [.emit (.flightPlanReceived received)]) ∧
        (received.cruiseAltitude (fun _ => none)).NearlyEquals metricLevel.altitude := by
  refine ⟨by decide +kernel, ?_⟩
  rintro ⟨received, hreceived, hnear⟩
  rcases handleFlightPlan_sendFlightPlan (fun _ => none) (planWith metricLevel) classicPilot
    classicPilot true {} with ⟨other, hother, haltitude⟩
  rw [hother] at hreceived
  injection hreceived with hpair
  injection hpair with _ hactions
  injection hactions with haction _
  injection haction with hevent
  injection hevent with hplan
  rw [← hplan, haltitude] at hnear
  exact not_nearlyEquals_metric _ (planWith metricLevel) (by decide +kernel) rfl hnear

end NeoSwift.Fsd
