import NeoSwift.Aviation.Altitude
import NeoSwift.Lib.RegexLanguage

/-!
# Altitudes of Flight Plans

`CAltitude::parseFromFpAltitudeString`, which reads the altitude of a flight plan in the
notation of ICAO, and what it reads of the texts `asFpICAOAltitudeString` writes.

The parser looks for the notation anywhere in the text, and then goes by the first letter or
the unit at the end and takes all digits there are. So a text of which a part is an altitude may
be read as quite another one: `A5000`, where three digits are the most, is an altitude of
500000 feet. A text that begins with the word for visual flight rules is not read any further.

A text is written by rounding to whole feet or meters and then cutting off the last digits.
What is read again is therefore the altitude cut off, unless rounding brings it to the next
hundred feet or ten meters.

## Main definitions

* `QCharData`: What the parser asks of a character.
* `fpAltitudeRegExp`, `FpForm`, `formOf`: The notation, and the forms it has.
* `parseFromFpAltitudeString`: The parser.
* `MatchesGrammar`: The texts that are altitudes as a whole.
* `ReadAsWhole`: The texts of which no part alone is taken for an altitude.
* `Expressible`, `ComesBack`: What can be written, and what is to be read of it.

## Theorems

* `accepts_iff`: What the parser accepts.
* `form_of_matchesWhole`: The forms of the texts that match as a whole.
* `comesBack_iff`: What is read of a text that is written.
* `fp_altitude_iff`: Which texts and altitudes are read as they are to be.
* `too_many_digits_are_accepted`: A text that is not.
-/

namespace NeoSwift.Aviation

open Pq

/-- `QChar::toUpper`, `toLower`, `toCaseFolded` and `isDigit`. What is outside of ASCII is
    the concern of the Unicode database. -/
structure QCharData where
  toUpper : Char → Char
  toLower : Char → Char
  foldCase : Char → Char
  isDigit : Char → Bool
  toUpper_ascii : ∀ c, c.toNat < 128 → toUpper c = c.toUpper
  toLower_ascii : ∀ c, c.toNat < 128 → toLower c = c.toLower
  foldCase_ascii : ∀ c, c.toNat < 128 → foldCase c = c.toLower
  isDigit_ascii : ∀ c, c.toNat < 128 → isDigit c = c.isDigit

namespace QCharData

/-- A database without anything else. -/
def ascii : QCharData where
  toUpper := Char.toUpper
  toLower := Char.toLower
  foldCase := Char.toLower
  isDigit := Char.isDigit
  toUpper_ascii _ _ := rfl
  toLower_ascii := CaseFolding.ascii.ascii_law
  foldCase_ascii := CaseFolding.ascii.ascii_law
  isDigit_ascii _ _ := rfl

variable (q : QCharData)

/-- `startsWith` with `Qt::CaseInsensitive`. -/
def startsWithCaseless (s part : QString) : Bool :=
  (part.map q.foldCase).isPrefixOf (s.map q.foldCase)

end QCharData

/-- The parentheses are left out. -/
def fpAltitudeRegExp : Regex Empty :=
  .alt (.char (fun c => c == 'F' || c == 'f') ++ .opt (.char fun c => c == 'L' || c == 'l') ++
      .charsUpTo Char.isDigit 2 1)
    (.alt (.char (fun c => c == 'S' || c == 's') ++ .charsUpTo Char.isDigit 2 2)
      (.alt (.char (fun c => c == 'A' || c == 'a') ++ .charsUpTo Char.isDigit 2 1)
        (.alt (.char (fun c => c == 'M' || c == 'm') ++ .charsUpTo Char.isDigit 2 2)
          (.charsUpTo Char.isDigit 3 2 ++ .alt (.lit "ft") (.lit "m")))))

def fpAltitudeExamples : QString := "FL085, F85, S0150, A055, 1200ft, M0610, 6100m"

namespace CAltitude

/-- What the digits of a text are multiplied with, and what they are then. -/
structure FpForm where
  factor : Int32
  unit : CLengthUnit
  datum : ReferenceDatum
  deriving DecidableEq

variable (q : QCharData)

/-- The loop over the characters: the case is upper in front of the first digit and lower
    behind it. -/
def normalized : Bool → QString → QString
  | _, [] => []
  | beforeDigit, c :: v =>
    if q.isDigit c then c :: normalized false v
    else (if beforeDigit then q.toUpper c else q.toLower c) :: normalized beforeDigit v

/-- By the first letter, or else by the unit at the end. -/
def formOf (v : QString) : Option FpForm :=
  if q.startsWithCaseless v "F" then some ⟨100, .ft, .flightLevel⟩
  else if q.startsWithCaseless v "S" then some ⟨10, .m, .flightLevel⟩
  else if q.startsWithCaseless v "A" then some ⟨100, .ft, .meanSeaLevel⟩
  else if q.startsWithCaseless v "M" then some ⟨10, .m, .meanSeaLevel⟩
  else if CLengthUnit.m.getSymbol.isSuffixOf v then some ⟨1, .m, .meanSeaLevel⟩
  else if CLengthUnit.ft.getSymbol.isSuffixOf v then some ⟨1, .ft, .meanSeaLevel⟩
  else none

def numericPart (v : QString) : QString := v.filter q.isDigit

/-- The number of the digits, which is zero if they make none. -/
def numericValue (v : QString) : Int32 := (QString.toInt? (numericPart q v)).getD 0

/-- `setNull`. -/
def setNull (a : CAltitude) : CAltitude := { a with toCLength := CLength.null }

variable (self : CAltitude)

def ofForm (form : FpForm) (n : Int32) : CAltitude :=
  { self with m_value := (n * form.factor).toInt, unit := form.unit, datum := form.datum }

def needsFormat (v : QString) : Validation :=
  .error ("Altitude '" ++ v ++ "' needs to match format '" ++ fpAltitudeExamples ++
    "'")

/-- Whether the text is accepted, what the altitude is then, and what is said about it. -/
def parseFromFpAltitudeString (value : QString) : Bool × CAltitude × List Validation :=
  let v := value.trimmed
  if q.startsWithCaseless v "VFR" then (true, create 5000 .meanSeaLevel .ft, [])
  else if v.size < 3 then (false, self.setNull, [.error "Altitude empty or too short"])
  else if !fpAltitudeRegExp.hasMatch v then (false, self.setNull, [needsFormat v])
  else
    let n := normalized q true v
    if numericPart q v = [] then
      (false, self.setNull, [.error "Altitude '%1' has no numeric part"])
    else
      match formOf q n with
      | none => (false, self.setNull, [needsFormat n])
      | some form =>
        let a := ofForm self form (numericValue q v)
        let valid := a.isValidFpAltitude
        (valid.1, if valid.1 then a else a.setNull, valid.2)

/-! ## The grammar -/

def isVfr (v : QString) : Prop := v.map q.foldCase = "VFR".toList.map q.foldCase

/-- A text that is an altitude as a whole. Flight levels are from ten on. -/
def MatchesGrammar (v : QString) : Prop :=
  isVfr q v ∨ fpAltitudeRegExp.matchesWhole v = true ∧
    (q.startsWithCaseless v "F" = true → 10 ≤ (numericValue q v).toInt)

/-- The altitudes a form may have. -/
def InRange (form : FpForm) (n : Int32) : Prop :=
  0 ≤ (n * form.factor).toInt ∧
    (form.datum = .flightLevel → form.unit = .ft →
      1000 ≤ (n * form.factor).toInt ∧ (n * form.factor).toInt < 100000)

/-- A text that begins with the word is the word, and a text with an altitude in it that has a
    form and a number in range is an altitude as a whole. -/
structure ReadAsWhole (v : QString) : Prop where
  vfr : q.startsWithCaseless v "VFR" = true → isVfr q v
  whole : q.startsWithCaseless v "VFR" = false → fpAltitudeRegExp.hasMatch v = true →
    ∀ form ∈ formOf q (normalized q true v), InRange form (numericValue q v) →
      fpAltitudeRegExp.matchesWhole v = true

/-- A flight level or an altitude above mean sea level, from zero on and with as many digits as
    the notation has. -/
structure Expressible (a : CAltitude) : Prop where
  datum : a.datum = .flightLevel ∨ a.datum = .meanSeaLevel
  unit : a.unit = .m ∨ a.unit = .ft
  nonneg : 0 ≤ a.m_value
  lt : a.m_value < 100000
  level : a.datum = .flightLevel → a.unit = .ft → 1000 ≤ a.m_value

/-- A hundred feet or ten meters. -/
def fpStep (a : CAltitude) : ℤ := if a.unit = .m then 10 else 100

/-- The text of an altitude is read as the altitude without what is below the step. -/
def ComesBack (self a : CAltitude) : Prop :=
  (parseFromFpAltitudeString q self a.asFpICAOAltitudeString).1 = true ∧
    let read := (parseFromFpAltitudeString q self a.asFpICAOAltitudeString).2.1
    read.datum = a.datum ∧ read.unit = a.unit ∧
      read.m_value = ((⌊a.m_value / a.fpStep⌋ * a.fpStep : ℤ) : ℚ)

/-! ## Valid altitudes -/

/-- The value in the unit of a length. -/
theorem valueInteger_self {l : CLength} (hunit : l.unit ≠ .null) :
    l.valueInteger l.unit = qRound l.m_value := by
  rw [CLength.valueInteger, CLength.valueIn, CLengthUnit.convertFrom,
    if_neg (by rw [or_self]; exact hunit), if_pos rfl]

/-- Whole numbers differ from zero by more than an epsilon. -/
theorem isNegative_intCast {l : CLength} {k : ℤ} (hvalue : l.m_value = k) :
    l.isNegativeWithEpsilonConsidered = true ↔ k < 0 := by
  unfold CLength.isNegativeWithEpsilonConsidered CLengthUnit.isEpsilon
  rw [hvalue, Bool.and_eq_true, decide_eq_true_eq, Int.cast_lt_zero]
  refine and_iff_right_of_imp fun hneg => ?_
  have hone : (1 : ℚ) ≤ |(k : ℚ)| := by
    exact_mod_cast Int.one_le_abs (ne_of_lt hneg)
  have hepsilon := l.unit.getEpsilon_le
  have hfuzzy : ¬|(k : ℚ)| ≤ 1 / 1000000000000 := by linarith
  have hunit : ¬|(k : ℚ)| ≤ l.unit.getEpsilon := by linarith
  rw [decide_eq_false hfuzzy, decide_eq_false hunit, Bool.or_self, Bool.and_false, Bool.not_false]

theorem isInteger_intCast {l : CLength} {k : ℤ} (hvalue : l.m_value = k) (hunit : l.unit ≠ .null) :
    l.isInteger = true := by
  have hnull : l.isNull = false := decide_eq_false hunit
  have hepsilon : 0 ≤ l.unit.getEpsilon := by
    cases l.unit <;> norm_num [CLengthUnit.getEpsilon]
  unfold CLength.isInteger CLength.value
  rw [hnull, if_neg Bool.false_ne_true, valueInteger_self hunit, hvalue, qRound_intCast, sub_self,
    abs_zero, decide_eq_true hepsilon]
  rfl

/-- Which whole numbers are valid. -/
theorem isValidFpAltitude_iff {a : CAltitude} {k : ℤ} (hvalue : a.m_value = k)
    (hunit : a.unit = .m ∨ a.unit = .ft)
    (hdatum : a.datum = .flightLevel ∨ a.datum = .meanSeaLevel) :
    a.isValidFpAltitude.1 = true ↔
      0 ≤ k ∧ (a.datum = .flightLevel → a.unit = .ft → 1000 ≤ k ∧ k < 100000) := by
  have hne : a.unit ≠ .null := by
    rcases hunit with h | h <;> rw [h] <;> decide
  unfold isValidFpAltitude
  rw [if_neg (by rw [CLength.isNull, decide_eq_false hne]; exact Bool.false_ne_true),
    if_neg (fun h => hdatum.elim h.1 h.2), if_neg (not_not.mpr hunit)]
  by_cases hneg : k < 0
  · -- The checks in the order of the source: the sign, and then the range of a flight level.
    rw [if_pos ((isNegative_intCast hvalue).mpr hneg)]
    exact iff_of_false Bool.false_ne_true fun h => absurd h.1 (not_le.mpr hneg)
  rw [if_neg (mt (isNegative_intCast hvalue).mp hneg)]
  by_cases hlevel : a.isFlightLevel = true
  · have hFL : a.datum = .flightLevel := of_decide_eq_true hlevel
    rw [if_pos hlevel, if_neg (not_not.mpr (isInteger_intCast hvalue hne)), valueInteger_self hne,
      hvalue, qRound_intCast]
    by_cases hft : a.unit = .ft
    · rw [if_pos hft]
      rw [Int.tdiv_eq_ediv_of_nonneg (not_lt.mp hneg)]
      -- The range is checked in hundreds of feet.
      by_cases hrange : k / 100 < 10 ∨ 1000 ≤ k / 100
      · rw [if_pos hrange]
        refine iff_of_false Bool.false_ne_true fun h => ?_
        have hbounds := h.2 hFL hft
        omega
      · rw [if_neg hrange]
        have hvalid : 0 ≤ k ∧ (a.datum = .flightLevel → a.unit = .ft → 1000 ≤ k ∧ k < 100000) :=
          ⟨by omega, fun _ _ => ⟨by omega, by omega⟩⟩
        split
        · exact iff_of_true rfl hvalid
        · exact iff_of_true rfl hvalid
    · rw [if_neg hft]
      exact iff_of_true rfl ⟨not_lt.mp hneg, fun _ h => absurd h hft⟩
  · rw [if_neg hlevel]
    exact iff_of_true rfl ⟨not_lt.mp hneg, fun h => absurd (decide_eq_true h) hlevel⟩

/-! ## What is accepted -/

/-- A form is one of feet or meters, and of a flight level or above mean sea level. -/
theorem of_formOf {v : QString} {form : FpForm} (h : formOf q v = some form) :
    (form.unit = .m ∨ form.unit = .ft) ∧
      (form.datum = .flightLevel ∨ form.datum = .meanSeaLevel) := by
  unfold formOf at h
  split_ifs at h <;> obtain rfl := Option.some.inj h
  all_goals decide

theorem isValid_ofForm_iff {v : QString} {form : FpForm} (n : Int32) (h : formOf q v = some form) :
    (ofForm self form n).isValidFpAltitude.1 = true ↔ InRange form n :=
  isValidFpAltitude_iff rfl (of_formOf q h).1 (of_formOf q h).2

theorem length_le_size (v : QString) : v.length ≤ v.size := by
  unfold QString.size
  induction v with
  | nil => exact le_refl 0
  | cons c v ih =>
    rw [List.map_cons, List.sum_cons, List.length_cons]
    split <;> omega

/-- The altitudes of the notation. -/
inductive FpSpelling : QString → Prop where
  | level {c : Char} {l digits : QString} (hc : c = 'F' ∨ c = 'f')
      (hl : l = [] ∨ l = ['L'] ∨ l = ['l']) (hlo : 2 ≤ digits.length) (hhi : digits.length ≤ 3)
      (hdigits : ∀ d ∈ digits, d.isDigit = true) : FpSpelling (c :: l ++ digits)
  | metricLevel {c : Char} {digits : QString} (hc : c = 'S' ∨ c = 's') (hlo : 2 ≤ digits.length)
      (hhi : digits.length ≤ 4) (hdigits : ∀ d ∈ digits, d.isDigit = true) :
      FpSpelling (c :: digits)
  | altitude {c : Char} {digits : QString} (hc : c = 'A' ∨ c = 'a') (hlo : 2 ≤ digits.length)
      (hhi : digits.length ≤ 3) (hdigits : ∀ d ∈ digits, d.isDigit = true) :
      FpSpelling (c :: digits)
  | metricAltitude {c : Char} {digits : QString} (hc : c = 'M' ∨ c = 'm')
      (hlo : 2 ≤ digits.length) (hhi : digits.length ≤ 4)
      (hdigits : ∀ d ∈ digits, d.isDigit = true) : FpSpelling (c :: digits)
  | withUnit {digits unit : QString} (hunit : unit = "ft" ∨ unit = "m")
      (hlo : 3 ≤ digits.length) (hhi : digits.length ≤ 5)
      (hdigits : ∀ d ∈ digits, d.isDigit = true) : FpSpelling (digits ++ unit)

/-- A letter and digits. -/
theorem of_mem_letter {a b : Char} {lo n : ℕ} {w : QString}
    (h : w ∈ (Regex.char (fun c => c == a || c == b) ++
      Regex.charsUpTo Char.isDigit lo n : Regex Empty).language) :
    ∃ c digits, (c = a ∨ c = b) ∧ lo ≤ digits.length ∧ digits.length ≤ lo + n ∧
      (∀ d ∈ digits, d.isDigit = true) ∧ w = c :: digits := by
  rcases (Regex.mem_language_seq_char _ _ w).mp h with ⟨c, digits, hc, hdigits, rfl⟩
  rcases (Regex.mem_language_charsUpTo _ lo n digits).mp hdigits with ⟨hlo, hhi, hall⟩
  rw [Bool.or_eq_true, beq_iff_eq, beq_iff_eq] at hc
  exact ⟨c, digits, hc, hlo, hhi, hall, rfl⟩

theorem spelling_of_mem {w : QString} (h : w ∈ fpAltitudeRegExp.language) : FpSpelling w := by
  rcases h with h | h | h | h | h
  · -- A flight level, with or without an `L`.
    rcases Language.mem_mul.mp h with ⟨front, hfront, digits, hdigits, rfl⟩
    rcases (Regex.mem_language_seq_char _ _ front).mp hfront with ⟨c, l, hc, hl, rfl⟩
    rcases (Regex.mem_language_charsUpTo _ 2 1 digits).mp hdigits with ⟨hlo, hhi, hall⟩
    rw [Bool.or_eq_true, beq_iff_eq, beq_iff_eq] at hc
    refine .level hc ?_ hlo hhi hall
    rcases hl with ⟨a, ha, rfl⟩ | hnil
    · rw [Bool.or_eq_true, beq_iff_eq, beq_iff_eq] at ha
      rcases ha with rfl | rfl
      · exact .inr (.inl rfl)
      · exact .inr (.inr rfl)
    · exact .inl ((Language.mem_one l).mp hnil)
  · rcases of_mem_letter h with ⟨c, digits, hc, hlo, hhi, hall, rfl⟩
    exact .metricLevel hc hlo hhi hall
  · rcases of_mem_letter h with ⟨c, digits, hc, hlo, hhi, hall, rfl⟩
    exact .altitude hc hlo hhi hall
  · rcases of_mem_letter h with ⟨c, digits, hc, hlo, hhi, hall, rfl⟩
    exact .metricAltitude hc hlo hhi hall
  · -- Digits with a unit.
    rcases Language.mem_mul.mp h with ⟨digits, hdigits, unit, hunit, rfl⟩
    rcases (Regex.mem_language_charsUpTo _ 3 2 digits).mp hdigits with ⟨hlo, hhi, hall⟩
    refine .withUnit ?_ hlo hhi hall
    rcases hunit with hft | hm
    · exact .inl ((Regex.mem_language_lit _ unit).mp hft)
    · exact .inr ((Regex.mem_language_lit _ unit).mp hm)

/-- Every altitude of the notation has three characters, one of them a digit. -/
theorem FpSpelling.has_digit {w : QString} (h : FpSpelling w) :
    3 ≤ w.length ∧ ∃ c ∈ w, c.isDigit = true := by
  -- Every form has two digits or more, and one is enough.
  have hmem {digits : QString} (hlo : 2 ≤ digits.length)
      (hdigits : ∀ d ∈ digits, d.isDigit = true) : ∃ c ∈ digits, c.isDigit = true := by
    rcases List.exists_mem_of_length_pos (l := digits) (by omega) with ⟨c, hc⟩
    exact ⟨c, hc, hdigits c hc⟩
  cases h with
  | level hc hl hlo hhi hdigits =>
    rcases hmem hlo hdigits with ⟨c, hc, hdigit⟩
    refine ⟨?_, c, List.mem_append_right _ hc, hdigit⟩
    rw [List.length_append, List.length_cons]
    omega
  | metricLevel hc hlo hhi hdigits =>
    rcases hmem hlo hdigits with ⟨c, hc, hdigit⟩
    exact ⟨Nat.succ_le_succ hlo, c, List.mem_cons_of_mem _ hc, hdigit⟩
  | altitude hc hlo hhi hdigits =>
    rcases hmem hlo hdigits with ⟨c, hc, hdigit⟩
    exact ⟨Nat.succ_le_succ hlo, c, List.mem_cons_of_mem _ hc, hdigit⟩
  | metricAltitude hc hlo hhi hdigits =>
    rcases hmem hlo hdigits with ⟨c, hc, hdigit⟩
    exact ⟨Nat.succ_le_succ hlo, c, List.mem_cons_of_mem _ hc, hdigit⟩
  | withUnit hunit hlo hhi hdigits =>
    rcases hmem (by omega) hdigits with ⟨c, hc, hdigit⟩
    refine ⟨?_, c, List.mem_append_left _ hc, hdigit⟩
    rw [List.length_append]
    omega

/-- Where there is a match, the text is long enough and has a digit. -/
theorem of_hasMatch {v : QString} (h : fpAltitudeRegExp.hasMatch v = true) :
    3 ≤ v.size ∧ numericPart q v ≠ [] := by
  rcases (Regex.hasMatch_iff fpAltitudeRegExp v).mp h with ⟨w, hw, hinside⟩
  rcases (spelling_of_mem hw).has_digit with ⟨hlength, c, hc, hdigit⟩
  refine ⟨(hlength.trans hinside.length_le).trans (length_le_size v), ?_⟩
  refine List.ne_nil_of_mem (List.mem_filter.mpr ⟨hinside.subset hc, ?_⟩)
  rw [q.isDigit_ascii c ?_]
  · exact hdigit
  · have hhi : c.toNat ≤ 57 := (Char.isDigit_iff_toNat.mp hdigit).2
    omega

/-- What the parser does with a text in which there is a match. -/
theorem parse_of_hasMatch {value : QString}
    (hvfr : q.startsWithCaseless value.trimmed "VFR" = false)
    (hmatch : fpAltitudeRegExp.hasMatch value.trimmed = true) {form : FpForm}
    (hform : formOf q (normalized q true value.trimmed) = some form) :
    parseFromFpAltitudeString q self value =
      let a := ofForm self form (numericValue q value.trimmed)
      (a.isValidFpAltitude.1, if a.isValidFpAltitude.1 then a else a.setNull,
        a.isValidFpAltitude.2) := by
  rcases of_hasMatch q hmatch with ⟨hsize, hdigits⟩
  unfold parseFromFpAltitudeString
  dsimp only
  rw [hvfr, if_neg Bool.false_ne_true, if_neg (not_lt.mpr hsize), hmatch, if_neg (by decide),
    if_neg hdigits, hform]

/-- What the parser accepts. -/
theorem accepts_iff (value : QString) :
    (parseFromFpAltitudeString q self value).1 = true ↔
      q.startsWithCaseless value.trimmed "VFR" = true ∨
        fpAltitudeRegExp.hasMatch value.trimmed = true ∧
          ∃ form ∈ formOf q (normalized q true value.trimmed),
            InRange form (numericValue q value.trimmed) := by
  -- The forms in the order of the source: VFR, what the expression rejects, and the units.
  cases hvfr : q.startsWithCaseless value.trimmed "VFR" with
  | true =>
    unfold parseFromFpAltitudeString
    dsimp only
    rw [hvfr]
    exact iff_of_true rfl (.inl rfl)
  | false =>
    rw [or_iff_right Bool.false_ne_true]
    cases hmatch : fpAltitudeRegExp.hasMatch value.trimmed with
    | false =>
      unfold parseFromFpAltitudeString
      dsimp only
      rw [hvfr, if_neg Bool.false_ne_true, hmatch]
      refine iff_of_false ?_ fun h => Bool.false_ne_true h.1
      split
      · exact Bool.false_ne_true
      · exact Bool.false_ne_true
    | true =>
      rw [and_iff_right rfl]
      -- What matches and has no form is an error, so both sides are false.
      cases hform : formOf q (normalized q true value.trimmed) with
      | none =>
        rcases of_hasMatch q hmatch with ⟨hsize, hdigits⟩
        unfold parseFromFpAltitudeString
        dsimp only
        rw [hvfr, if_neg (not_lt.mpr hsize), hmatch, if_neg hdigits, hform]
        exact iff_of_false Bool.false_ne_true fun ⟨_, hform, _⟩ => Option.not_mem_none _ hform
      | some form =>
        rw [parse_of_hasMatch q self hvfr hmatch hform]
        rw [isValid_ofForm_iff q self _ hform]
        simp

/-! ## The forms of a text -/

/-- A letter as it is compared without its case. -/
theorem startsWithCaseless_cons {a c : Char} (ha : a.toNat < 128) (hc : c.toNat < 128)
    (part v : QString) : q.startsWithCaseless (c :: v) (a :: part) =
      (a.toLower == c.toLower && q.startsWithCaseless v part) := by
  unfold QCharData.startsWithCaseless
  rw [List.map_cons, List.map_cons, List.isPrefixOf_cons_cons, q.foldCase_ascii a ha,
    q.foldCase_ascii c hc]

theorem startsWithCaseless_letter {a c : Char} (ha : a.toNat < 128) (hc : c.toNat < 128)
    (v : QString) : q.startsWithCaseless (c :: v) [a] = (a.toLower == c.toLower) := by
  rw [startsWithCaseless_cons q ha hc]
  exact Bool.and_true _

theorem letters_of_all {w : QString}
    (h : w.all (fun c => decide (c.toNat < 128 ∧ c.isDigit = false)) = true) :
    ∀ c ∈ w, c.toNat < 128 ∧ c.isDigit = false :=
  fun c hc => of_decide_eq_true (List.all_eq_true.mp h c hc)

theorem lt_of_isDigit {c : Char} (h : c.isDigit = true) : c.toNat < 128 := by
  have hhi : c.toNat ≤ 57 := (Char.isDigit_iff_toNat.mp h).2
  omega

/-- Of a text with digits at one place, the digits are taken. -/
theorem numericPart_of_digits {front digits behind : QString}
    (hfront : ∀ c ∈ front, c.toNat < 128 ∧ c.isDigit = false)
    (hdigits : ∀ c ∈ digits, c.isDigit = true)
    (hbehind : ∀ c ∈ behind, c.toNat < 128 ∧ c.isDigit = false) :
    numericPart q (front ++ digits ++ behind) = digits := by
  have hnone {w : QString} (hw : ∀ c ∈ w, c.toNat < 128 ∧ c.isDigit = false) :
      w.filter q.isDigit = [] := by
    refine List.filter_eq_nil_iff.mpr fun c hc => ?_
    rw [q.isDigit_ascii c (hw c hc).1, (hw c hc).2]
    exact Bool.false_ne_true
  have hall : digits.filter q.isDigit = digits := by
    refine List.filter_eq_self.mpr fun c hc => ?_
    rw [q.isDigit_ascii c (lt_of_isDigit (hdigits c hc)), hdigits c hc]
  unfold numericPart
  rw [List.filter_append, List.filter_append, hnone hfront, hnone hbehind, hall, List.nil_append,
    List.append_nil]

/-- Up to five digits make a number. -/
theorem numericValue_of_digits {v digits : QString} (hv : numericPart q v = digits)
    (hne : digits ≠ []) (hlength : digits.length ≤ 5) (hdigits : ∀ c ∈ digits, c.isDigit = true) :
    ∃ n : ℕ, n < 10 ^ digits.length ∧ Numeral.readNat 10 digits = some n ∧
      numericValue q v = Int32.ofInt n := by
  have hvalues : ∀ c ∈ digits, Numeral.digitValue c < 10 :=
    fun c hc => (Numeral.digitChar_of_isDigit (hdigits c hc)).1
  have hlt := Numeral.digitsValue_lt hvalues
  have hread := Numeral.readNat_of_digits hne hvalues
  have hpow : 10 ^ digits.length ≤ 10 ^ 5 := Nat.pow_le_pow_right (by omega) hlength
  refine ⟨Numeral.digitsValue 10 digits, hlt, hread, ?_⟩
  unfold numericValue
  rw [hv, QString.toInt?_digits hread
    (fun c hc => ⟨_, Numeral.digitChar_of_isDigit (hdigits c hc)⟩) (by omega)]
  rfl

/-- A number of a form, as long as it does not overflow. -/
theorem toInt_mul {n f : ℕ} (h : n * f ≤ 2147483647) :
    (Int32.ofInt n * Int32.ofInt f).toInt = ((n * f : ℕ) : ℤ) := by
  rw [← Int32.ofInt_mul, ← Nat.cast_mul, Int32.toInt_ofInt_of_le (by omega) (by omega)]

theorem inRange_iff {form : FpForm} {n f : ℕ} (hfactor : form.factor = Int32.ofInt f)
    (h : n * f ≤ 2147483647) : InRange form (Int32.ofInt n) ↔
      (form.datum = .flightLevel → form.unit = .ft → 1000 ≤ n * f ∧ n * f < 100000) := by
  unfold InRange
  rw [hfactor, toInt_mul h, and_iff_right (by omega)]
  exact_mod_cast Iff.rfl

theorem normalized_letter {c : Char} (hc : c.toNat < 128) (hdigit : c.isDigit = false)
    (v : QString) : normalized q true (c :: v) = c.toUpper :: normalized q true v := by
  rw [normalized, q.isDigit_ascii c hc, hdigit, if_neg Bool.false_ne_true, if_pos rfl,
    q.toUpper_ascii c hc]

/-- A text that begins with a capital has the form the letter stands for. -/
theorem formOf_letter {c : Char} (hc : c.toNat < 128) (v : QString) :
    formOf q (c :: v) =
      if c.toLower = 'f' then some ⟨100, .ft, .flightLevel⟩
      else if c.toLower = 's' then some ⟨10, .m, .flightLevel⟩
      else if c.toLower = 'a' then some ⟨100, .ft, .meanSeaLevel⟩
      else if c.toLower = 'm' then some ⟨10, .m, .meanSeaLevel⟩
      else if CLengthUnit.m.getSymbol.isSuffixOf (c :: v) then some ⟨1, .m, .meanSeaLevel⟩
      else if CLengthUnit.ft.getSymbol.isSuffixOf (c :: v) then some ⟨1, .ft, .meanSeaLevel⟩
      else none := by
  have hletter {a : Char} (ha : a.toNat < 128) :
      q.startsWithCaseless (c :: v) [a] = true ↔ c.toLower = a.toLower := by
    rw [startsWithCaseless_letter q ha hc v, beq_iff_eq]
    exact eq_comm
  have hF : q.startsWithCaseless (c :: v) "F" = true ↔ c.toLower = 'f' := hletter (by decide)
  have hS : q.startsWithCaseless (c :: v) "S" = true ↔ c.toLower = 's' := hletter (by decide)
  have hA : q.startsWithCaseless (c :: v) "A" = true ↔ c.toLower = 'a' := hletter (by decide)
  have hM : q.startsWithCaseless (c :: v) "M" = true ↔ c.toLower = 'm' := hletter (by decide)
  unfold formOf
  simp only [hF, hS, hA, hM]

/-- What is read of a letter, maybe another one, and digits. -/
theorem form_of_letter {c : Char} {form : FpForm} {f : ℕ} {l digits : QString}
    (hascii : c.toNat < 128) (hdigit : c.isDigit = false) (hvfr : 'v' ≠ c.toLower)
    (hform : ∀ v, formOf q (c.toUpper :: v) = some form) (hfactor : form.factor = Int32.ofInt f)
    (hf : f ≤ 100) (hl : ∀ c ∈ l, c.toNat < 128 ∧ c.isDigit = false) (hne : digits ≠ [])
    (hlength : digits.length ≤ 5) (hdigits : ∀ c ∈ digits, c.isDigit = true) :
    q.startsWithCaseless (c :: l ++ digits) "VFR" = false ∧
      formOf q (normalized q true (c :: l ++ digits)) = some form ∧
      ∃ n : ℕ, n < 10 ^ digits.length ∧ Numeral.readNat 10 digits = some n ∧
        numericValue q (c :: l ++ digits) = Int32.ofInt n ∧
        (Int32.ofInt n * form.factor).toInt = ((n * f : ℕ) : ℤ) ∧ (InRange form (Int32.ofInt n) ↔
          (form.datum = .flightLevel → form.unit = .ft → 1000 ≤ n * f ∧ n * f < 100000)) := by
  have hfront : ∀ d ∈ c :: l, d.toNat < 128 ∧ d.isDigit = false :=
    List.forall_mem_cons.mpr ⟨⟨hascii, hdigit⟩, hl⟩
  -- The digits are all of the numeric part, as nothing in front of them is a digit.
  have hpart := numericPart_of_digits q hfront hdigits
    (nofun : ∀ d ∈ ([] : QString), _)
  rw [List.append_nil] at hpart
  rcases numericValue_of_digits q hpart hne hlength hdigits with ⟨n, hn, hread, hvalue⟩
  -- The product with the factor is an int, so it does not wrap.
  have hpow : 10 ^ digits.length ≤ 10 ^ 5 := Nat.pow_le_pow_right (by omega) hlength
  have hmul : n * f ≤ 2147483647 := by
    have hle : n * f ≤ 10 ^ 5 * 100 := Nat.mul_le_mul (by omega) hf
    omega
  refine ⟨?_, ?_, n, hn, hread, hvalue, ?_, inRange_iff hfactor hmul⟩
  · refine (startsWithCaseless_cons q (by decide) hascii _ _).trans ?_
    exact Bool.and_eq_false_imp.mpr fun h => absurd (beq_iff_eq.mp h) hvfr
  · rw [List.cons_append, normalized_letter q hascii hdigit]
    exact hform _
  · rw [hfactor, toInt_mul hmul]

/-- The forms of the four letters. -/
theorem formOf_fsam (v : QString) :
    formOf q ('F' :: v) = some ⟨100, .ft, .flightLevel⟩ ∧
      formOf q ('S' :: v) = some ⟨10, .m, .flightLevel⟩ ∧
      formOf q ('A' :: v) = some ⟨100, .ft, .meanSeaLevel⟩ ∧
      formOf q ('M' :: v) = some ⟨10, .m, .meanSeaLevel⟩ := by
  refine ⟨?_, ?_, ?_, ?_⟩
  all_goals
    rw [formOf_letter q (by decide)]
    rfl

/-- The case of digits stays, and behind them it is lower. -/
theorem normalized_digits {digits : QString} (hne : digits ≠ [])
    (hdigits : ∀ c ∈ digits, c.isDigit = true) (beforeDigit : Bool) (v : QString) :
    normalized q beforeDigit (digits ++ v) = digits ++ normalized q false v := by
  induction digits generalizing beforeDigit with
  | nil => exact absurd rfl hne
  | cons c digits ih =>
    rcases List.forall_mem_cons.mp hdigits with ⟨hc, hrest⟩
    rw [List.cons_append, normalized, q.isDigit_ascii c (lt_of_isDigit hc), hc]
    cases digits with
    | nil => rfl
    | cons d digits =>
      rw [ih (List.cons_ne_nil d digits) hrest]
      rfl

theorem toLower_ne_of_isDigit {c a : Char} (hc : c.isDigit = true) (ha : a.isDigit = false) :
    c.toLower ≠ a := by
  rintro rfl
  rcases Numeral.digitChar_of_isDigit hc with ⟨hd, hchar⟩
  rw [hchar, CPqString.toLower_digitChar hd, Numeral.isDigit_digitChar hd] at ha
  cases ha

/-- What is read of digits and a unit. -/
theorem form_of_unit {digits unit : QString} (hunit : unit = "ft" ∨ unit = "m")
    (hne : digits ≠ []) (hdigits : ∀ c ∈ digits, c.isDigit = true) :
    q.startsWithCaseless (digits ++ unit) "VFR" = false ∧
      q.startsWithCaseless (digits ++ unit) "F" = false ∧
      ∃ form, formOf q (normalized q true (digits ++ unit)) = some form ∧
        form.factor = Int32.ofInt 1 ∧ form.datum = .meanSeaLevel := by
  rcases List.exists_cons_of_ne_nil hne with ⟨c, tail, rfl⟩
  have hc : c.isDigit = true := hdigits c List.mem_cons_self
  have hascii := lt_of_isDigit hc
  -- The text starts with a digit, so it starts with none of the letters.
  have hother {a : Char} (ha : a.toNat < 128) (hletter : a.toLower.isDigit = false)
      (part : QString) : q.startsWithCaseless (c :: tail ++ unit) (a :: part) = false := by
    rw [List.cons_append, startsWithCaseless_cons q ha hascii,
      beq_eq_false_iff_ne.mpr (toLower_ne_of_isDigit hc hletter).symm, Bool.false_and]
  refine ⟨hother (by decide) (by decide) _, hother (by decide) (by decide) _, ?_⟩
  rw [normalized_digits q hne hdigits, List.cons_append, formOf_letter q hascii,
    if_neg (toLower_ne_of_isDigit hc (by decide)), if_neg (toLower_ne_of_isDigit hc (by decide)),
    if_neg (toLower_ne_of_isDigit hc (by decide)), if_neg (toLower_ne_of_isDigit hc (by decide))]
  -- The unit is in lower case already.
  have hlower {a : Char} (ha : a.toNat < 128) (hdigit : a.isDigit = false)
      (hcase : a.toLower = a) (v : QString) :
      normalized q false (a :: v) = a :: normalized q false v := by
    rw [normalized, q.isDigit_ascii a ha, hdigit, if_neg Bool.false_ne_true,
      if_neg Bool.false_ne_true, q.toLower_ascii a ha, hcase]
  have hnormal : normalized q false unit = unit := by
    rcases hunit with rfl | rfl
    · refine (hlower (by decide) (by decide) (by decide) _).trans ?_
      exact congrArg _ (hlower (by decide) (by decide) (by decide) [])
    · exact hlower (by decide) (by decide) (by decide) []
  rw [hnormal, ← List.cons_append]
  split_ifs with hm hft
  · exact ⟨_, rfl, rfl, rfl⟩
  · exact ⟨_, rfl, rfl, rfl⟩
  · rcases hunit with rfl | rfl
    · exact absurd (List.isSuffixOf_iff_suffix.mpr (List.suffix_append _ _)) hft
    · exact absurd (List.isSuffixOf_iff_suffix.mpr (List.suffix_append _ _)) hm

/-- Without a flight level there is no range. -/
theorem form_of_other_letter {c : Char} {form : FpForm} {f : ℕ} {digits : QString}
    (hascii : c.toNat < 128) (hdigit : c.isDigit = false) (hvfr : 'v' ≠ c.toLower)
    (hlevel : 'f' ≠ c.toLower) (hform : ∀ v, formOf q (c.toUpper :: v) = some form)
    (hfactor : form.factor = Int32.ofInt f) (hf : f ≤ 100)
    (hrange : ¬(form.datum = .flightLevel ∧ form.unit = .ft)) (hlo : 2 ≤ digits.length)
    (hhi : digits.length ≤ 5) (hdigits : ∀ c ∈ digits, c.isDigit = true) :
    q.startsWithCaseless (c :: digits) "VFR" = false ∧
      ∃ form, formOf q (normalized q true (c :: digits)) = some form ∧
        (InRange form (numericValue q (c :: digits)) ↔
          (q.startsWithCaseless (c :: digits) "F" = true →
            10 ≤ (numericValue q (c :: digits)).toInt)) := by
  rcases form_of_letter q hascii hdigit hvfr hform hfactor
      hf (l := []) (nofun) (List.ne_nil_of_length_pos (by omega))
      hhi hdigits with ⟨hstart, heq, n, -, -, hvalue, -, hin⟩
  rw [List.singleton_append] at hstart heq hvalue
  have hnot : q.startsWithCaseless (c :: digits) "F" = false :=
    (startsWithCaseless_letter q (by decide) hascii digits).trans (beq_eq_false_iff_ne.mpr hlevel)
  refine ⟨hstart, form, heq, ?_⟩
  rw [hvalue, hin, hnot]
  exact iff_of_true (fun hdatum hunit => absurd ⟨hdatum, hunit⟩ hrange)
    fun h => absurd h Bool.false_ne_true

/-- The form of a text that is an altitude as a whole. The range is the one of flight levels. -/
theorem form_of_matchesWhole {v : QString} (h : fpAltitudeRegExp.matchesWhole v = true) :
    q.startsWithCaseless v "VFR" = false ∧ ∃ form, formOf q (normalized q true v) = some form ∧
        (InRange form (numericValue q v) ↔
          (q.startsWithCaseless v "F" = true → 10 ≤ (numericValue q v).toInt)) := by
  cases spelling_of_mem ((Regex.matchesWhole_iff _ v).mp h) with
  | @level c l digits hc hl hlo hhi hdigits =>
    -- One of two letters and maybe another one, as the expression has them.
    have hletters : ∀ c ∈ l, c.toNat < 128 ∧ c.isDigit = false := by
      rcases hl with rfl | rfl | rfl
      all_goals exact letters_of_all (by decide)
    have hletter : c.toNat < 128 ∧ c.isDigit = false ∧ 'v' ≠ c.toLower ∧ c.toUpper = 'F' ∧
        'f' = c.toLower := by
      rcases hc with rfl | rfl
      all_goals decide
    rcases hletter with ⟨hascii, hdigit, hvfr, hupper, hlower⟩
    have hne : digits ≠ [] := List.ne_nil_of_length_pos (by omega)
    obtain ⟨hstart, hform, n, hn, -, hvalue, -, hin⟩ := form_of_letter q (f := 100) hascii hdigit
      hvfr (fun w => by rw [hupper]; exact (formOf_fsam q w).1) rfl (by omega) hletters hne
      (by omega) hdigits
    -- Up to three digits and a factor of 100: no overflow.
    have hpow : 10 ^ digits.length ≤ 10 ^ 3 := Nat.pow_le_pow_right (by omega) hhi
    have hlevel : q.startsWithCaseless (c :: l ++ digits) "F" = true :=
      (startsWithCaseless_letter q (by decide) hascii _).trans (beq_iff_eq.mpr hlower)
    refine ⟨hstart, _, hform, ?_⟩
    rw [hvalue, hin, hlevel, Int32.toInt_ofInt_of_le (by omega) (by omega)]
    constructor
    · intro h hstarts
      have hbounds := h rfl rfl
      omega
    · intro h _ _
      have hten := h rfl
      omega
  | metricLevel hc hlo hhi hdigits =>
    rcases hc with rfl | rfl
    all_goals
      exact form_of_other_letter q (f := 10) (by decide) (by decide) (by decide) (by decide)
        (fun w => (formOf_fsam q w).2.1) rfl (by omega) (by decide) hlo (by omega) hdigits
  | altitude hc hlo hhi hdigits =>
    rcases hc with rfl | rfl
    all_goals
      exact form_of_other_letter q (f := 100) (by decide) (by decide) (by decide) (by decide)
        (fun w => (formOf_fsam q w).2.2.1) rfl (by omega) (by decide) hlo (by omega) hdigits
  | metricAltitude hc hlo hhi hdigits =>
    rcases hc with rfl | rfl
    all_goals
      exact form_of_other_letter q (f := 10) (by decide) (by decide) (by decide) (by decide)
        (fun w => (formOf_fsam q w).2.2.2) rfl (by omega) (by decide) hlo (by omega) hdigits
  | @withUnit digits unit hunit hlo hhi hdigits =>
    have hne : digits ≠ [] := List.ne_nil_of_length_pos (by omega)
    rcases form_of_unit q hunit hne hdigits with ⟨hvfr, hlevel, form, hform, hfactor, hdatum⟩
    have hbehind : ∀ c ∈ unit, c.toNat < 128 ∧ c.isDigit = false := by
      rcases hunit with rfl | rfl
      all_goals exact letters_of_all (by decide)
    have hpart := numericPart_of_digits q
      (nofun : ∀ d ∈ ([] : QString), _) hdigits hbehind
    rw [List.nil_append] at hpart
    rcases numericValue_of_digits q hpart hne hhi hdigits with ⟨n, hn, -, hvalue⟩
    have hpow : 10 ^ digits.length ≤ 10 ^ 5 := Nat.pow_le_pow_right (by omega) hhi
    refine ⟨hvfr, form, hform, ?_⟩
    rw [hvalue, inRange_iff (f := 1) hfactor (by omega), hlevel, hdatum]
    exact iff_of_true (fun h => nomatch h) fun h => absurd h Bool.false_ne_true

/-- Where the parser goes wrong, a part of the text is taken for an altitude. -/
theorem accepts_iff_matchesGrammar_iff (value : QString) :
    ((parseFromFpAltitudeString q self value).1 = true ↔ MatchesGrammar q value.trimmed) ↔
      ReadAsWhole q value.trimmed := by
  rw [accepts_iff]
  have hvfr {v : QString} (h : isVfr q v) : q.startsWithCaseless v "VFR" = true := by
    unfold QCharData.startsWithCaseless
    rw [h]
    exact List.isPrefixOf_iff_prefix.mpr List.prefix_rfl
  generalize value.trimmed = v
  unfold MatchesGrammar
  cases hstart : q.startsWithCaseless v "VFR" with
  | true =>
    have hnot : ¬fpAltitudeRegExp.matchesWhole v = true := by
      intro h
      rw [(form_of_matchesWhole q h).1] at hstart
      cases hstart
    constructor
    · intro h
      have hword : isVfr q v := (h.mp (.inl rfl)).resolve_right fun hwhole => hnot hwhole.1
      exact ⟨fun _ => hword, fun h => absurd (h.symm.trans hstart) Bool.false_ne_true⟩
    · exact fun h => iff_of_true (.inl rfl) (.inl (h.vfr hstart))
  | false =>
    have hnot : ¬isVfr q v := by
      intro h
      rw [hvfr h] at hstart
      cases hstart
    rw [or_iff_right Bool.false_ne_true, or_iff_right hnot]
    cases hwhole : fpAltitudeRegExp.matchesWhole v with
    | true =>
      rcases form_of_matchesWhole q hwhole with ⟨-, form, hform, hrange⟩
      have hmatch := Regex.hasMatch_of_matchesWhole hwhole
      refine iff_of_true ?_ ⟨fun h => absurd (hstart.symm.trans h) Bool.false_ne_true,
        fun _ _ _ _ _ => hwhole⟩
      rw [and_iff_right hmatch, ← hrange, hform]
      simp
    | false =>
      -- Without a match of the whole, nothing may be accepted.
      constructor
      · intro h
        refine ⟨fun h => absurd (hstart.symm.trans h) Bool.false_ne_true,
          fun _ hmatch form hform hrange => ?_⟩
        exact hwhole.trans (h.mp ⟨hmatch, form, hform, hrange⟩).1
      · intro h
        refine iff_of_false ?_ fun hgrammar => Bool.false_ne_true hgrammar.1
        rintro ⟨hmatch, form, hform, hrange⟩
        rw [h.whole hstart hmatch form hform hrange] at hwhole
        cases hwhole

/-! ## What is written -/

/-- Digits behind a letter are found, maybe not all of them. -/
theorem hasMatch_of_letter {c : Char} {l digits : QString}
    (hc : c = 'F' ∧ l = ['L'] ∨ (c = 'S' ∨ c = 'A' ∨ c = 'M') ∧ l = [])
    (hlength : 3 ≤ digits.length) (hdigits : ∀ d ∈ digits, d.isDigit = true) :
    fpAltitudeRegExp.hasMatch (c :: l ++ digits) = true := by
  -- Three digits are a match whatever follows them.
  have htake {n : ℕ} (hn : 1 ≤ n) : digits.take 3 ∈
      (Regex.charsUpTo Char.isDigit 2 n : Regex Empty).language := by
    refine (Regex.mem_language_charsUpTo _ 2 n _).mpr ⟨?_, ?_, fun d hd => ?_⟩
    · rw [List.length_take_of_le hlength]
      omega
    · rw [List.length_take_of_le hlength]
      omega
    · exact hdigits d (List.mem_of_mem_take hd)
  have hletter {c : Char} {p : Char → Bool} {n : ℕ} (hp : p c = true) (hn : 1 ≤ n) :
      c :: digits.take 3 ∈
        (Regex.char p ++ Regex.charsUpTo Char.isDigit 2 n : Regex Empty).language :=
    (Regex.mem_language_seq_char _ _ _).mpr ⟨c, digits.take 3, hp, htake hn, rfl⟩
  refine (Regex.hasMatch_iff _ _).mpr ⟨c :: l ++ digits.take 3, ?_, ?_⟩
  · rcases hc with ⟨rfl, rfl⟩ | ⟨rfl | rfl | rfl, rfl⟩
    · refine .inl (Language.append_mem_mul ?_ (htake (by omega)))
      exact (Regex.mem_language_seq_char _ _ _).mpr ⟨'F', ['L'], rfl, .inl ⟨'L', rfl, rfl⟩, rfl⟩
    · exact .inr (.inl (hletter rfl (by omega)))
    · exact .inr (.inr (.inl (hletter rfl (by omega))))
    · exact .inr (.inr (.inr (.inl (hletter rfl (by omega)))))
  · exact ((List.prefix_append_right_inj _).mpr (List.take_prefix 3 digits)).isInfix

/-- What is read of a letter and so many hundreds of feet or tens of meters. -/
theorem comesBack_iff_of_text {a : CAltitude} (h : Expressible a) {c : Char} {l : QString}
    {f k w : ℕ} (htext : a.asFpICAOAltitudeString = c :: l ++ (Numeral.natText 10 k).leftpad w '0')
    (hc : c = 'F' ∧ l = ['L'] ∨ (c = 'S' ∨ c = 'A' ∨ c = 'M') ∧ l = [])
    (hform : ∀ v, formOf q (c :: v) = some ⟨Int32.ofInt f, a.unit, a.datum⟩)
    (hw : 3 ≤ w ∧ w ≤ 5) (hk : k < 100000) (hf : f ≤ 100) (hstep : a.fpStep = f)
    (hpos : 0 < f) (hlevel : a.datum = .flightLevel → a.unit = .ft → f = 100) :
    ComesBack q self a ↔ (k : ℤ) = ⌊a.m_value / a.fpStep⌋ := by
  generalize hdigits : (Numeral.natText 10 k).leftpad w '0' = digits at htext
  -- The digits are those of the number with zeros in front.
  have hmem : ∀ d ∈ digits, ∃ n < 10, d = Nat.digitChar n :=
    fun d hd => Numeral.mem_leftpad (hdigits ▸ hd)
  have hdigit : ∀ d ∈ digits, d.isDigit = true := by
    intro d hd
    rcases hmem d hd with ⟨n, hn, rfl⟩
    exact Numeral.isDigit_digitChar hn
  have hlength : 3 ≤ digits.length ∧ digits.length ≤ 5 := by
    have hnum : (Numeral.natText 10 k).length ≤ 5 :=
      (Nat.length_toDigits_le_iff (by omega) (by omega)).mpr hk
    rw [← hdigits, List.length_leftpad]
    omega
  have hfront : c.toNat < 128 ∧ c.isDigit = false ∧ 'v' ≠ c.toLower ∧ c.toUpper = c ∧
      (∀ d ∈ l, d.toNat < 128 ∧ d.isDigit = false) ∧ (c :: l).any QString.isSpace = false := by
    rcases hc with ⟨rfl, rfl⟩ | ⟨rfl | rfl | rfl, rfl⟩
    all_goals
      refine ⟨?_, ?_, ?_, ?_, letters_of_all ?_, ?_⟩
      all_goals decide
  rcases hfront with ⟨hascii, hnot, hvfr, hupper, hl, hspace⟩
  have htrim : QString.trimmed (c :: l ++ digits) = c :: l ++ digits := by
    refine QString.trimmed_of_no_space fun d hd => ?_
    exact CPqString.isSpace_of_digits (c :: l) hmem hspace d (List.perm_append_comm.mem_iff.mp hd)
  have hne : digits ≠ [] := List.ne_nil_of_length_pos (by omega)
  rcases form_of_letter q (f := f) hascii hnot
      hvfr (fun v => hupper.symm ▸ hform v) rfl hf hl hne hlength.2 hdigit with
      ⟨hstart, hread, n, -, hnum, hvalue, hmul, hin⟩
  -- The zeros in front do not count, so the number that is read is the one written.
  obtain rfl : n = k := by
    rw [← hdigits, Numeral.readNat_leftpad] at hnum
    exact (Option.some.inj hnum).symm
  have hmatch := hasMatch_of_letter hc hlength.1 hdigit
  rw [← htrim] at hstart hread hmatch
  have hparse := parse_of_hasMatch q self hstart hmatch hread
  have hvalid := isValid_ofForm_iff q self (Int32.ofInt n) hread
  rw [htrim, hvalue] at hparse
  unfold ComesBack
  rw [htext, hparse]
  dsimp only
  have hm_value : (ofForm self ⟨Int32.ofInt f, a.unit, a.datum⟩ (Int32.ofInt n)).m_value =
      ((n * f : ℤ) : ℚ) := by
    rw [ofForm, hmul, Nat.cast_mul]
  constructor
  · -- The text comes back as the number times the factor, so rounding has to give that number.
    rintro ⟨hok, -, -, hback⟩
    rw [if_pos hok, hm_value, Int.cast_inj, hstep] at hback
    rw [hstep]
    exact mul_right_cancel₀ (Int.natCast_ne_zero.mpr (Nat.ne_of_gt hpos)) hback
  · intro hfloor
    have hok : (ofForm self ⟨Int32.ofInt f, a.unit, a.datum⟩ (Int32.ofInt n)).isValidFpAltitude.1 =
        true := by
      refine hvalid.mpr (hin.mpr fun hdatum hunit => ?_)
      rcases hlevel hdatum hunit with rfl
      have hlow := h.level hdatum hunit
      have hhigh := h.lt
      rw [hstep] at hfloor
      -- A flight level that can be written is in the range the parser checks.
      have hlo : (10 : ℤ) ≤ n := by
        rw [hfloor, Int.le_floor]
        linarith
      have hhi : (n : ℤ) < 1000 := by
        rw [hfloor, Int.floor_lt]
        linarith
      omega
    rw [if_pos hok, hm_value, ← hfloor, hstep]
    exact ⟨hok, rfl, rfl, rfl⟩

theorem isNull_of_expressible {a : CAltitude} (h : Expressible a) : a.isNull = false := by
  rw [CLength.isNull]
  rcases h.unit with hunit | hunit
  all_goals
    rw [hunit]
    rfl

/-- An altitude comes back where rounding stays below the next step. -/
theorem comesBack_iff {a : CAltitude} (h : Expressible a) :
    ComesBack q self a ↔ qRound a.m_value / a.fpStep = ⌊a.m_value / a.fpStep⌋ := by
  -- The source writes the rounded number, which is not negative.
  have hround : 0 ≤ qRound a.m_value ∧ qRound a.m_value ≤ 100000 := by
    refine ⟨qRound_nonneg (lt_of_lt_of_le (by norm_num) h.nonneg), ?_⟩
    by_contra hover
    have hle := (le_qRound (x := a.m_value) (n := 100001) (by norm_num)).mp (by omega)
    have hlt := h.lt
    linarith
  rcases Int.eq_ofNat_of_zero_le hround.1 with ⟨r, hr⟩
  have hnull := isNull_of_expressible h
  have hlevelOf {datum : ReferenceDatum} (hdatum : a.datum = datum) :
      a.isFlightLevel = decide (datum = .flightLevel) := by
    rw [isFlightLevel, hdatum]
  rcases h.unit with hunit | hunit
  · -- Meters are written in tens, as a metric level or as an altitude.
    have hstep : a.fpStep = 10 := if_pos hunit
    have hvalue : Int.tdiv (a.valueInteger a.unit) 10 = ((r / 10 : ℕ) : ℤ) := by
      rw [valueInteger_self (by rw [hunit]; decide), hr]
      rfl
    rw [hr, show (r : ℤ) / a.fpStep = ((r / 10 : ℕ) : ℤ) by rw [hstep]; rfl]
    rcases h.datum with hdatum | hdatum
    · refine comesBack_iff_of_text q self h (f := 10) (w := 4) ?_ (.inr ⟨.inl rfl, rfl⟩) ?_
        (by omega) (by omega) (by omega) hstep (by omega) fun _ hft => ?_
      · rw [asFpICAOAltitudeString, hnull, hlevelOf hdatum, if_pos hunit, hvalue]
        rfl
      · rw [hunit, hdatum]
        exact fun v => (formOf_fsam q v).2.1
      · rw [hunit] at hft
        cases hft
    · refine comesBack_iff_of_text q self h (f := 10) (w := 4) ?_ (.inr ⟨.inr (.inr rfl), rfl⟩) ?_
        (by omega) (by omega) (by omega) hstep (by omega) fun hlevel => ?_
      · rw [asFpICAOAltitudeString, hnull, if_neg Bool.false_ne_true, hlevelOf hdatum,
          if_neg (of_decide_eq_false rfl), if_pos hunit, hvalue]
        rfl
      · rw [hunit, hdatum]
        exact fun v => (formOf_fsam q v).2.2.2
      · rw [hdatum] at hlevel
        cases hlevel
  · -- Feet are written in hundreds.
    have hmeters : a.unit ≠ .m := by
      rw [hunit]
      decide
    have hstep : a.fpStep = 100 := if_neg hmeters
    have hvalue : Int.tdiv (a.valueInteger .ft) 100 = ((r / 100 : ℕ) : ℤ) := by
      rw [← hunit, valueInteger_self (by rw [hunit]; decide), hr]
      rfl
    rw [hr, show (r : ℤ) / a.fpStep = ((r / 100 : ℕ) : ℤ) by rw [hstep]; rfl]
    rcases h.datum with hdatum | hdatum
    · refine comesBack_iff_of_text q self h (f := 100) (w := 3) ?_ (.inl ⟨rfl, rfl⟩) ?_
        (by omega) (by omega) (by omega) hstep (by omega) fun _ _ => rfl
      · rw [asFpICAOAltitudeString, hnull, hlevelOf hdatum, if_neg hmeters, hvalue]
        rfl
      · rw [hunit, hdatum]
        exact fun v => (formOf_fsam q v).1
    · refine comesBack_iff_of_text q self h (f := 100) (w := 3) ?_ (.inr ⟨.inr (.inl rfl), rfl⟩) ?_
        (by omega) (by omega) (by omega) hstep (by omega) fun _ _ => rfl
      · rw [asFpICAOAltitudeString, hnull, if_neg Bool.false_ne_true, hlevelOf hdatum,
          if_neg (of_decide_eq_false rfl), if_neg hmeters, hvalue]
        rfl
      · rw [hunit, hdatum]
        exact fun v => (formOf_fsam q v).2.2.1

/-- A text is accepted as the grammar has it exactly where no part of it is taken for an
    altitude, and what is written comes back exactly where rounding stays below the next step. -/
theorem fp_altitude_iff :
    (∀ value : QString,
      ((parseFromFpAltitudeString q self value).1 = true ↔ MatchesGrammar q value.trimmed) ↔
        ReadAsWhole q value.trimmed) ∧ ∀ a : CAltitude, Expressible a →
        (ComesBack q self a ↔ qRound a.m_value / a.fpStep = ⌊a.m_value / a.fpStep⌋) :=
  ⟨accepts_iff_matchesGrammar_iff q self, fun _ h => comesBack_iff q self h⟩

theorem expressible_level {x : ℚ} (hlo : 1000 ≤ x) (hhi : x < 100000) :
    Expressible (create x .flightLevel .ft) where
  datum := .inl rfl
  unit := .inr rfl
  nonneg := le_trans (by norm_num) hlo
  lt := hhi
  level _ _ := hlo

/-- A flight level comes back, and its text is an altitude as a whole. -/
theorem fp_altitude_iff_level :
    ((parseFromFpAltitudeString .ascii (create 0 .meanSeaLevel .ft) "FL125").1 = true ↔
        MatchesGrammar .ascii (QString.trimmed "FL125")) ∧
      ComesBack .ascii (create 0 .meanSeaLevel .ft) (create 12500 .flightLevel .ft) := by
  have h := fp_altitude_iff .ascii (create 0 .meanSeaLevel .ft)
  refine ⟨(h.1 _).mpr ⟨fun hvfr => ?_, fun _ _ _ _ _ => ?_⟩,
    (h.2 _ (expressible_level (by norm_num) (by norm_num))).mpr ?_⟩
  · cases hvfr
  · decide +kernel
  · decide +kernel

/-- Five thousand hundred feet are accepted, as the first three digits are an altitude. -/
theorem too_many_digits_are_accepted :
    ¬((parseFromFpAltitudeString .ascii (create 0 .meanSeaLevel .ft) "A5000").1 = true ↔
      MatchesGrammar .ascii (QString.trimmed "A5000")) := by
  have haccepted : (parseFromFpAltitudeString .ascii (create 0 .meanSeaLevel .ft)
      "A5000").1 = true := by
    decide +kernel
  have hvfr : ¬isVfr .ascii (QString.trimmed "A5000") := by
    unfold isVfr
    decide
  have hwhole : fpAltitudeRegExp.matchesWhole (QString.trimmed "A5000") = false := by
    decide +kernel
  intro h
  rcases h.mp haccepted with hword | ⟨hmatch, -⟩
  · exact hvfr hword
  · exact absurd (hwhole.symm.trans hmatch) Bool.false_ne_true

end CAltitude

end NeoSwift.Aviation
