import NeoSwift.Pq.Length

/-!
# Altitudes

`CAltitude`: a length above mean sea level, above ground or as a flight level. The
altitude of a flight plan is written in the notation of ICAO or in the one the
network expects, and `parseFromString` reads altitudes.

## Main definitions

* `CAltitude`, `ReferenceDatum`: Altitudes.
* `CAltitude.isValidFpAltitude`: What may stand in a flight plan.
* `CAltitude.asFpICAOAltitudeString`, `CAltitude.asFpVatsimAltitudeString`: The texts.
* `CAltitude.parseFromString`: The altitude in a text.
* `CAltitude.NearlyEquals`: Two altitudes that differ by less than the texts tell.

## Theorems

* `parseFromString_flightLevel`: Flight levels are read back.
* `parseFromString_feet`: So are feet with their unit.
* `isNull_parseFromString_metric`: Metric levels are not.
-/

namespace NeoSwift.Aviation

open Pq

/-- `CAltitude::ReferenceDatum`. -/
inductive ReferenceDatum where
  | meanSeaLevel | aboveGround | flightLevel
  deriving DecidableEq

/-- `CAltitude::AltitudeType`. -/
inductive AltitudeType where
  | pressureAltitude | trueAltitude
  deriving DecidableEq

structure CAltitude extends CLength where
  datum : ReferenceDatum
  altitudeType : AltitudeType := .trueAltitude
  deriving DecidableEq

/-- `CStatusMessage::validationError` and `validationWarning`. -/
inductive Validation where
  | error (text : QString)
  | warning (text : QString)
  deriving DecidableEq

namespace CAltitude

/-- The constructor. -/
def create (value : ℚ) (datum : ReferenceDatum) (unit : CLengthUnit) : CAltitude :=
  ⟨CLength.create value unit, datum, .trueAltitude⟩

variable (a : CAltitude)

def isFlightLevel : Bool := a.datum = .flightLevel

def switchedUnit (newUnit : CLengthUnit) : CAltitude :=
  if newUnit = .null ∨ a.unit = .null ∨ a.unit = newUnit then a
  else { a with toCLength := a.toCLength.switchedUnit newUnit }

/-- Whether an altitude may stand in a flight plan, and what is said about it. -/
def isValidFpAltitude : Bool × List Validation :=
  if a.isNull then (false, [.error "Altitude NULL value"])
  else if a.datum ≠ .flightLevel ∧ a.datum ≠ .meanSeaLevel then
    (false, [.error "Altitude, must be FL or MSL"])
  else if ¬(a.unit = .m ∨ a.unit = .ft) then
    (false, [.error "Altitude, valid unit must be 'ft' or 'm'"])
  else if a.isNegativeWithEpsilonConsidered then
    (false, [.error "Altitude must be positive"])
  else if a.isFlightLevel then
    if ¬a.isInteger then (false, [.error "FL needs to be positive integer"])
    else if a.unit = .ft then
      let flInt := Int.tdiv (a.valueInteger a.unit) 100
      if flInt < 10 ∨ 1000 ≤ flInt then (false, [.error "FL range is 10-999"])
      else if Int.tmod flInt 5 ≠ 0 then
        (true, [.warning "FL should end with 0 or 5"])
      else (true, [])
    else (true, [])
  else (true, [])

def asFpICAOAltitudeString : QString :=
  if a.isNull then []
  else if a.isFlightLevel then
    if a.unit = .m then
      "S" ++ QString.numberPadded (Int.tdiv (a.valueInteger a.unit) 10) 4
    else "FL" ++ QString.numberPadded (Int.tdiv (a.valueInteger .ft) 100) 3
  else if a.unit = .m then
    "M" ++ QString.numberPadded (Int.tdiv (a.valueInteger a.unit) 10) 4
  else "A" ++ QString.numberPadded (Int.tdiv (a.valueInteger .ft) 100) 3

def roundedToNearest100ft (roundDown : Bool) (altitude : CAltitude) : CAltitude :=
  let a := altitude.switchedUnit .ft
  let ft := a.valueIn .ft / 100
  { a with m_value := ((if roundDown then ⌊ft⌋ * 100 else qRound ft * 100 : ℤ) : ℚ) }

/-- Flight levels are written as for ICAO, everything else in feet. -/
def asFpVatsimAltitudeString : QString :=
  if a.isFlightLevel then a.asFpICAOAltitudeString
  else (a.roundedToNearest100ft false).valueIntegerAsString .ft

/-- The digits of a text as hundreds of feet. -/
def hundredsOfFeet (value : QString) (datum : ReferenceDatum) : CAltitude :=
  match QString.toInt? (value.filter Char.isDigit) with
  | some n => create (n * 100 : Int32).toInt datum .ft
  | none => create 0 datum .null

/-- `systemToDouble` is how the locale of the system reads a number. -/
def parseFromString (systemToDouble : QString → Option ℚ) (value : QString)
    (mode : CPqString.SeparatorMode) : CAltitude :=
  let v := value.trimmed
  if v.containsCaseless "FL" ∨ v.startsWith "F" then
    hundredsOfFeet value .flightLevel
  else if v.containsCaseless "ALT" ∨ v.startsWith "A" then
    hundredsOfFeet value .meanSeaLevel
  else if v.containsCaseless "MSL" then
    ⟨CPqString.parse systemToDouble (v.removeCaseless "MSL").trimmed mode, .meanSeaLevel,
      .trueAltitude⟩
  else if v.contains "AGL" then
    ⟨CPqString.parse systemToDouble (v.removeCaseless "AGL").trimmed mode, .aboveGround,
      .trueAltitude⟩
  else ⟨CPqString.parse systemToDouble v mode, .meanSeaLevel, .trueAltitude⟩

/-- What a text of the altitude can tell: ten meters for a metric level, and else a
    hundred feet. -/
def roundingFt : ℚ :=
  if a.isFlightLevel ∧ a.unit = .m then CLengthUnit.ft.convertFrom 10 .m else 100

/-- An altitude that was received is the one that was sent, up to rounding. -/
def NearlyEquals (received sent : CAltitude) : Prop :=
  received.isNull = false ∧ |received.valueIn .ft - sent.valueIn .ft| < sent.roundingFt

/-- What a valid altitude is. -/
theorem of_isValidFpAltitude {a : CAltitude} (h : a.isValidFpAltitude.1 = true) :
    (a.datum = .flightLevel ∨ a.datum = .meanSeaLevel) ∧ (a.unit = .m ∨ a.unit = .ft) ∧
      a.isNegativeWithEpsilonConsidered = false ∧ (a.isFlightLevel = true → a.isInteger = true ∧
        (a.unit = .ft → 10 ≤ Int.tdiv (a.valueInteger .ft) 100 ∧
          Int.tdiv (a.valueInteger .ft) 100 < 1000)) := by
  unfold isValidFpAltitude at h
  -- The checks in the order of the source, each of which ends in an error.
  by_cases hnull : a.isNull = true
  · rw [if_pos hnull] at h
    cases h
  rw [if_neg hnull] at h
  by_cases hdatum : a.datum ≠ .flightLevel ∧ a.datum ≠ .meanSeaLevel
  · rw [if_pos hdatum] at h
    cases h
  rw [if_neg hdatum] at h
  by_cases hunit : a.unit = .m ∨ a.unit = .ft
  · rw [if_neg (not_not.mpr hunit)] at h
    by_cases hnegative : a.isNegativeWithEpsilonConsidered = true
    · rw [if_pos hnegative] at h
      cases h
    rw [if_neg hnegative] at h
    refine ⟨?_, hunit, Bool.eq_false_iff.mpr hnegative, fun hlevel => ?_⟩
    · by_contra hneither
      exact hdatum (not_or.mp hneither)
    rw [if_pos hlevel] at h
    by_cases hinteger : a.isInteger = true
    · rw [if_neg (not_not.mpr hinteger)] at h
      refine ⟨hinteger, fun hft => ?_⟩
      rw [hft] at h
      -- A flight level in feet is checked in hundreds.
      by_cases hrange : Int.tdiv (a.valueInteger .ft) 100 < 10 ∨
          1000 ≤ Int.tdiv (a.valueInteger .ft) 100
      · rw [if_pos hrange] at h
        cases h
      · omega
    · rw [if_pos hinteger] at h
      cases h
  · rw [if_pos hunit] at h
    cases h

/-- What is not negative is at most an epsilon below zero. -/
theorem neg_epsilon_le {a : CAltitude} (h : a.isNegativeWithEpsilonConsidered = false) :
    -(1 / 1000000000) ≤ a.m_value := by
  unfold CLength.isNegativeWithEpsilonConsidered CLengthUnit.isEpsilon at h
  by_contra hlt
  have hneg : a.m_value < 0 := by linarith
  have habs : 1 / 1000000000 < |a.m_value| := by
    rw [abs_of_neg hneg]
    linarith
  have hfuzzy : ¬|a.m_value| ≤ 1 / 1000000000000 := by
    intro hle
    linarith
  have hepsilon : ¬|a.m_value| ≤ a.unit.getEpsilon := by
    intro hle
    have hbound := a.unit.getEpsilon_le
    linarith
  rw [decide_eq_true hneg, decide_eq_false hfuzzy, decide_eq_false hepsilon] at h
  simp at h

theorem valueIn_ft_of_ft {l : CLength} (h : l.unit = .ft) : l.valueIn .ft = l.m_value := by
  rw [CLength.valueIn, CLengthUnit.convertFrom, h, if_neg (by decide), if_pos rfl]

theorem valueIn_ft_of_m {l : CLength} (h : l.unit = .m) :
    l.valueIn .ft = l.m_value / (3048 / 10000) := by
  rw [CLength.valueIn, CLengthUnit.convertFrom, h, if_neg (by decide), if_neg (by decide),
    CLengthUnit.factor, CLengthUnit.factor, mul_one]

/-- In feet, a valid altitude is at most ten epsilons below zero. -/
theorem valueIn_ft_ge {a : CAltitude} (hunit : a.unit = .m ∨ a.unit = .ft)
    (h : a.isNegativeWithEpsilonConsidered = false) : -(1 / 100000000) ≤ a.valueIn .ft := by
  have hvalue := neg_epsilon_le h
  rcases hunit with hm | hft
  · rw [valueIn_ft_of_m hm]
    linarith
  · rw [valueIn_ft_of_ft hft]
    linarith

/-- Altitudes are rounded to hundreds of feet. -/
theorem roundedToNearest100ft_eq {a : CAltitude} (hunit : a.unit = .m ∨ a.unit = .ft) :
    (a.roundedToNearest100ft false).toCLength =
      ⟨((qRound (a.valueIn .ft / 100) * 100 : ℤ) : ℚ), .ft⟩ := by
  have hswitched : (a.switchedUnit .ft).unit = .ft ∧
      (a.switchedUnit .ft).valueIn .ft = a.valueIn .ft := by
    rcases hunit with hm | hft
    · have hne : ¬(CLengthUnit.ft = .null ∨ a.unit = .null ∨ a.unit = .ft) := by
        rw [hm]
        decide
      have hnull : ¬(a.unit = .ft ∨ a.toCLength.isNull = true) := by
        rw [CLength.isNull, hm]
        decide
      rw [switchedUnit, if_neg hne]
      rw [CLength.switchedUnit, if_neg hnull]
      exact ⟨rfl, valueIn_ft_of_ft rfl⟩
    · rw [switchedUnit, if_pos (.inr (.inr hft))]
      exact ⟨hft, rfl⟩
  unfold roundedToNearest100ft
  dsimp only
  rw [hswitched.1, hswitched.2, if_neg Bool.false_ne_true]

/-! ## The texts -/

theorem asFpVatsimAltitudeString_msl {a : CAltitude} (hdatum : a.isFlightLevel = false)
    (hunit : a.unit = .m ∨ a.unit = .ft) :
    a.asFpVatsimAltitudeString = QString.number (qRound (a.valueIn .ft / 100) * 100) := by
  rw [asFpVatsimAltitudeString, hdatum, if_neg Bool.false_ne_true, CLength.valueIntegerAsString,
    CLength.valueInteger, roundedToNearest100ft_eq hunit, valueIn_ft_of_ft rfl, qRound_intCast]

theorem hundredsOfFeet_digits {value digits : QString} {n : ℕ} (datum : ReferenceDatum)
    (hvalue : value.filter Char.isDigit = digits) (hread : Numeral.readNat 10 digits = some n)
    (hdigits : ∀ c ∈ digits, ∃ d < 10, c = Nat.digitChar d) (hn : n * 100 ≤ 2147483647) :
    hundredsOfFeet value datum = create ((n * 100 : ℕ) : ℚ) datum .ft := by
  have hint : (Int32.ofInt n * 100 : Int32).toInt = ((n * 100 : ℕ) : ℤ) := by
    have hhundred : (100 : Int32) = Int32.ofInt 100 := rfl
    rw [hhundred, ← Int32.ofInt_mul, Int32.toInt_ofInt_of_le (by omega) (by omega)]
    rfl
  rw [hundredsOfFeet, hvalue, QString.toInt?_digits hread hdigits (by omega)]
  dsimp only
  rw [hint, Int.cast_natCast]

variable (systemToDouble : QString → Option ℚ)

/-- A flight level is read as hundreds of feet. -/
theorem parseFromString_flightLevel (mode : CPqString.SeparatorMode) {digits : QString}
    {n : ℕ} (hread : Numeral.readNat 10 digits = some n)
    (hdigits : ∀ c ∈ digits, ∃ d < 10, c = Nat.digitChar d) (hn : n * 100 ≤ 2147483647) :
    parseFromString systemToDouble ("FL" ++ digits) mode
      = create ((n * 100 : ℕ) : ℚ) .flightLevel .ft := by
  have hspace : ∀ c ∈ "FL" ++ digits, QString.isSpace c = false := by
    intro c hc
    refine CPqString.isSpace_of_digits "FL" hdigits (by decide) c ?_
    exact (List.perm_append_comm.mem_iff).mp hc
  have hfilter : ("FL" ++ digits).filter Char.isDigit = digits := by
    have hkept : digits.filter Char.isDigit = digits := by
      refine List.filter_eq_self.mpr (fun c hc => ?_)
      rcases hdigits c hc with ⟨d, hd, rfl⟩
      exact Numeral.isDigit_digitChar hd
    rw [List.filter_append, hkept]
    rfl
  unfold parseFromString
  rw [QString.trimmed_of_no_space hspace]
  rw [if_pos (.inr rfl), hundredsOfFeet_digits .flightLevel hfilter hread hdigits hn]

/-- A text without the words of altitudes is read as a length. -/
theorem parseFromString_plain (mode : CPqString.SeparatorMode) {value : QString}
    (hspace : ∀ c ∈ value, QString.isSpace c = false) (hl : ∀ c ∈ value, c.toLower ≠ 'l')
    (hf : value.startsWith "F" = false) (ha : value.startsWith "A" = false) :
    parseFromString systemToDouble value mode
      = ⟨CPqString.parse systemToDouble value mode, .meanSeaLevel, .trueAltitude⟩ := by
  have hcaseless : ∀ part : QString, 'l' ∈ part.map Char.toLower →
      ¬value.containsCaseless part = true := by
    intro part hpart
    rw [QString.containsCaseless_eq_false hpart hl]
    exact Bool.false_ne_true
  have hagl : value.contains "AGL" = false :=
    QString.contains_eq_false (c := 'L') (by decide) (fun hmem => hl 'L' hmem rfl)
  unfold parseFromString
  rw [QString.trimmed_of_no_space hspace]
  rw [if_neg (not_or.mpr ⟨hcaseless _ (by decide), by rw [hf]; exact Bool.false_ne_true⟩),
    if_neg (not_or.mpr ⟨hcaseless _ (by decide), by rw [ha]; exact Bool.false_ne_true⟩),
    if_neg (hcaseless _ (by decide)), hagl, if_neg Bool.false_ne_true]

/-- A digit is no letter. -/
theorem startsWith_digits {digits rest : QString} {letter : Char} (hne : digits ≠ [])
    (hdigits : ∀ c ∈ digits, ∃ d < 10, c = Nat.digitChar d) (hletter : letter.isDigit = false) :
    (digits ++ rest).startsWith [letter] = false := by
  cases digits with
  | nil => exact absurd rfl hne
  | cons c digits =>
      rcases hdigits c (List.mem_cons_self ..) with ⟨d, hd, rfl⟩
      have hne' : letter ≠ Nat.digitChar d := by
        rintro rfl
        exact absurd (Numeral.isDigit_digitChar hd) (by rw [hletter]; exact Bool.false_ne_true)
      rw [QString.startsWith, List.cons_append, List.isPrefixOf_cons_cons,
        beq_eq_false_iff_ne.mpr hne', Bool.false_and]

theorem parseFromString_feet (n : ℕ) :
    parseFromString systemToDouble (QString.number n ++ "ft") .bestGuess
      = create n .meanSeaLevel .ft := by
  have hdigits := CPqString.mem_number n
  have hne : QString.number n ≠ [] := by
    exact Numeral.natText_ne_nil 10 n
  rw [parseFromString_plain systemToDouble .bestGuess
    (CPqString.isSpace_of_digits _ hdigits (by decide))
    (CPqString.toLower_ne_of_digits hdigits rfl (by decide))
    (startsWith_digits hne hdigits rfl) (startsWith_digits hne hdigits rfl), CPqString.parse_feet]
  rfl

/-- Metric levels are no text the parser knows. -/
theorem isNull_parseFromString_metric (mode : CPqString.SeparatorMode) {digits : QString}
    (hne : digits ≠ []) (hdigits : ∀ c ∈ digits, ∃ d < 10, c = Nat.digitChar d) :
    (parseFromString systemToDouble ("S" ++ digits) mode).isNull = true := by
  have hmem : ∀ c ∈ "S" ++ digits, c ∈ digits ++ "S" :=
    fun c hc => (List.perm_append_comm.mem_iff).mp hc
  have hisDigit : ∀ c ∈ digits, c.isDigit = true := by
    intro c hc
    rcases hdigits c hc with ⟨d, hd, rfl⟩
    exact Numeral.isDigit_digitChar hd
  rw [parseFromString_plain systemToDouble mode
    (fun c hc => CPqString.isSpace_of_digits _ hdigits (by decide) c (hmem c hc))
    (fun c hc => CPqString.toLower_ne_of_digits hdigits rfl (by decide) c (hmem c hc)) rfl rfl,
    CPqString.parse_digits systemToDouble mode hne hisDigit (List.suffix_append _ _)]
  rfl

end CAltitude

end NeoSwift.Aviation
