import NeoSwift.Misc.Weather.MetarReport

/-!
# The Front of a Report

How the decoder takes the type of a report, the airport, the time, the status and the wind
from the front of a text. The type and the status can be missing; the airport is no type then,
and the wind no status.

The numbers of a report are digits with zeros in front, and they are read back.

## Theorems

* `toInt?_padded`, `toDouble?_padded`: Numbers are read back.
* `parse_reportType` to `parse_wind`: The parts of the decoder and their groups.
* `parse_variationsWindDirection`: The variation of the wind.
-/

namespace NeoSwift.Misc

namespace Weather

open Pq

/-! ## Numbers -/

section Padded

variable {width n : ℕ}

@[simp] theorem length_padded (width n : ℕ) : (padded width n).length = width :=
  Numeral.length_lastDigits width n

theorem isUpper_digitChar {d : ℕ} (hd : d < 10) : (Nat.digitChar d).isUpper = false := by
  have hall : ∀ d < 10, (Nat.digitChar d).isUpper = false := by decide
  exact hall d hd

theorem not_digit_ne {c a : Char} (hc : c.isDigit = true) (ha : a.isDigit = false) : c ≠ a := by
  rintro rfl
  exact Bool.eq_false_iff.mp ha hc

theorem isDigit_of_mem_padded {c : Char} (hc : c ∈ padded width n) : c.isDigit = true := by
  rcases Numeral.mem_lastDigits hc with ⟨d, hd, rfl⟩
  exact Numeral.isDigit_digitChar hd

theorem padded_ne_nil (hwidth : width ≠ 0) : padded width n ≠ [] := by
  rw [← List.length_pos_iff, length_padded]
  exact Nat.pos_of_ne_zero hwidth

theorem attempts_padded (width n : ℕ) (s : QString) :
    (digits width).attempts (padded width n ++ s) = [([], s)] :=
  Regex.attempts_chars_append (length_padded width n) (fun _ => isDigit_of_mem_padded) s

theorem attempts_digits_of_not {c : Char} (hc : c.isDigit = false) (width : ℕ) (s : QString) :
    (digits (width + 1)).attempts (c :: s) = [] :=
  Regex.attempts_seq_of_left (Regex.attempts_char_of_not hc)

theorem first_padded (width n : ℕ) (s : QString) :
    (digits width).first (padded width n ++ s) = some ([], s) :=
  Regex.first_of_attempts (attempts_padded width n s)

theorem toInt?_of_readNat {digits : QString} (hread : Numeral.readNat 10 digits = some n)
    (hdigits : ∀ c ∈ digits, ∃ d < 10, c = Nat.digitChar d) (hn : n < 2147483648) :
    toInt? digits = some (n : ℤ) := by
  unfold toInt?
  rw [QString.toInt?_digits hread hdigits (by omega), Option.map_some,
    Int32.toInt_ofInt_of_le (by omega) (by omega)]

theorem toInt?_padded (hwidth : width ≠ 0) (hn : n < 10 ^ width) (hle : n < 2147483648) :
    toInt? (padded width n) = some (n : ℤ) :=
  toInt?_of_readNat (Numeral.readNat_lastDigits hwidth hn) (fun _ => Numeral.mem_lastDigits) hle

theorem toDouble?_padded (hwidth : width ≠ 0) (hn : n < 10 ^ width) :
    (padded width n).toDouble? = some (n : ℚ) :=
  QString.toDouble?_digits (Numeral.readNat_lastDigits hwidth hn) fun _ => Numeral.mem_lastDigits

/-- What is read with a check is read without one. -/
theorem toInt_of_toInt? {s : QString} {n : ℤ} (h : toInt? s = some n) : s.toInt.toInt = n := by
  unfold toInt? QString.toInt? at h
  unfold QString.toInt QString.toIntegral
  split at h
  case h_2 => cases h
  case h_1 m hm =>
    split at h
    case isTrue hbounds =>
      rw [if_pos hbounds]
      exact Option.some.inj h
    case isFalse => cases h

end Padded

/-! ## Report type, airport, time and status -/

section Header

variable (rest : QString) (metar : CMetar)

@[simp] theorem spaced_nil : spaced [] = [] := rfl

@[simp] theorem spaced_cons (word : QString) (words : List QString) (rest : QString) :
    spaced (word :: words) ++ rest = word ++ ' ' :: (spaced words ++ rest) := by
  rw [spaced, List.flatMap_cons, List.append_assoc, List.append_assoc]
  rfl

theorem first_blank (rest : QString) : blank.first (' ' :: rest) = some ([], rest) :=
  Regex.first_lit [' '] rest

theorem attempts_blank {c : Char} (hc : c ≠ ' ') (rest : QString) :
    blank.attempts (c :: rest) = [] := Regex.attempts_lit_of_ne hc [] rest

/-- The characters of a word are none at which a text could be split. -/
theorem not_space_of_upper_or_digit {c : Char} (hc : c.isUpper = true ∨ c.isDigit = true) :
    c ≠ ' ' := by
  rintro rfl
  exact nomatch hc

theorem isUpper_iff {c : Char} : c.isUpper = true ↔ 65 ≤ c.toNat ∧ c.toNat ≤ 90 := by
  change decide (65 ≤ c.val ∧ c.val ≤ 90) = true ↔ _
  rw [decide_eq_true_eq]
  rfl

theorem isDigit_iff {c : Char} : c.isDigit = true ↔ 48 ≤ c.toNat ∧ c.toNat ≤ 57 := by
  simp only [Char.isDigit, Bool.and_eq_true, decide_eq_true_eq]
  rfl

theorem isSpace_of_range {c : Char} (hc : 40 ≤ c.toNat ∧ c.toNat ≤ 90) :
    QString.isSpace c = false := by
  unfold QString.isSpace
  simp only [Bool.or_eq_false_iff, Bool.and_eq_false_iff, beq_eq_false_iff_ne,
    decide_eq_false_iff_not]
  refine ⟨⟨⟨⟨⟨⟨⟨⟨⟨⟨?_, ?_⟩, ?_⟩, ?_⟩, ?_⟩, ?_⟩, ?_⟩, ?_⟩, ?_⟩, ?_⟩, ?_⟩ <;> omega

theorem isSpace_of_upper_or_digit {c : Char} (hc : c.isUpper = true ∨ c.isDigit = true) :
    QString.isSpace c = false := by
  rw [isUpper_iff, isDigit_iff] at hc
  exact isSpace_of_range (by omega)

theorem toUpper_of_upper_or_digit {c : Char} (hc : c.isUpper = true ∨ c.isDigit = true) :
    c.toUpper = c := by
  rw [isUpper_iff, isDigit_iff] at hc
  refine dif_neg fun h => ?_
  have hlower : 97 ≤ c.toNat := UInt32.le_iff_toNat_le.mp h.1
  omega

theorem isAlphanum_of_upper_or_digit {c : Char} (hc : c.isUpper = true ∨ c.isDigit = true) :
    c.isAlphanum = true := by
  change (c.isUpper || c.isLower || c.isDigit) = true
  rcases hc with hc | hc
  · rw [hc, Bool.true_or, Bool.true_or]
  · rw [hc, Bool.or_true]

theorem parse_reportType (type : Option ReportType) (code : AirportText) :
    reportType.parse (spaced (type.toList.map ReportType.text) ++ (code.1 ++ ' ' :: rest)) metar
      = some (code.1 ++ ' ' :: rest,
        { metar with m_reportType := type.getD metar.m_reportType }) := by
  cases type with
  | none =>
    rcases code with ⟨code, hlength, hchars⟩
    change reportType.parse (code ++ ' ' :: rest) metar = some (code ++ ' ' :: rest, metar)
    refine MetarDecoderPart.parse_of_nil rfl rfl (Regex.attempts_seq_of_right fun m hm => ?_)
    -- the airport is no type, and it does not begin with a blank
    have hcodes : (code ++ ' ' :: rest).take 5 ∉ getReportTypeHash.map Prod.fst := by
      rw [List.take_append, hlength]
      intro hmem
      have hblank : ∀ type ∈ getReportTypeHash.map Prod.fst, ' ' ∉ type := by decide
      exact hblank _ hmem (List.mem_append_right _ List.mem_cons_self)
    have hone : (Regex.oneOf (getReportTypeHash.map Prod.fst) : Regex GroupName).attempts
        (code ++ ' ' :: rest) = [] := by
      rw [Regex.attempts_oneOf (n := 5) (by decide) (by decide +kernel), if_neg hcodes]
    change m ∈ (Regex.group _ _).attempts _ ++ [([], _)] at hm
    rw [Regex.attempts_group_of_nil hone, List.nil_append, List.mem_singleton] at hm
    rw [hm]
    cases code with
    | nil => cases hlength
    | cons c code =>
      exact attempts_blank (not_space_of_upper_or_digit (hchars c List.mem_cons_self)) _
  | some type =>
    have hmem : type.text ∈ getReportTypeHash.map Prod.fst := by cases type <;> decide
    have hone : ∀ s, (Regex.oneOf (getReportTypeHash.map Prod.fst) : Regex GroupName).attempts
        (type.text ++ s) = [([], s)] :=
      Regex.attempts_oneOf_append (by decide) hmem
    have hset : reportType.validateAndSet ([(.reporttype, type.text)] ++ []) metar
        = some { metar with m_reportType := type } := by
      cases type <;> rfl
    rw [Option.toList_some, List.map_singleton, spaced_cons]
    exact MetarDecoderPart.parse_word rfl rfl
      (Regex.first_seq (Regex.first_opt (Regex.first_group (Regex.first_of_attempts (hone _))))
        (first_blank _)) hset

/-- Codes in capital letters and digits are not changed. -/
theorem unifyAirportCode_eq (code : AirportText) : unifyAirportCode code.1 = code.1 := by
  rcases code with ⟨code, hlength, hchars⟩
  have htrim : QString.trimmed code = code :=
    QString.trimmed_of_no_space fun c hc => isSpace_of_upper_or_digit (hchars c hc)
  have hupper : code.map Char.toUpper = code := by
    refine (List.map_congr_left fun c hc => ?_).trans (List.map_id code)
    exact toUpper_of_upper_or_digit (hchars c hc)
  have hany : (code.any fun c => !c.isAlphanum) = false := by
    rw [List.any_eq_false]
    intro c hc
    rw [isAlphanum_of_upper_or_digit (hchars c hc)]
    exact Bool.false_ne_true
  unfold unifyAirportCode
  simp only [htrim, hupper, hany, hlength]
  rfl

theorem parse_airport (code : AirportText) :
    airport.parse (code.1 ++ ' ' :: rest) metar =
      some (rest, { metar with m_airport := code.1 }) := by
  have hword : ∀ c ∈ code.1, (c.isAlphanum || c == '_') = true := by
    intro c hc
    rw [isAlphanum_of_upper_or_digit (code.2.2 c hc), Bool.true_or]
  have hset : airport.validateAndSet ([(.airport, code.1)] ++ []) metar
      = some { metar with m_airport := code.1 } := by
    change some { metar with m_airport := unifyAirportCode code.1 } = _
    rw [unifyAirportCode_eq]
  exact MetarDecoderPart.parse_word rfl rfl
    (Regex.first_seq (Regex.first_group (Regex.first_of_attempts
      (Regex.attempts_chars_append code.2.1 hword _))) (first_blank _)) hset

theorem parse_dayTime (time : ReportTime) :
    dayTime.parse (time.text ++ ' ' :: rest) metar
      = some (rest, { metar with
        m_reportDay := time.day, m_reportTime := (time.hour, time.minute) }) := by
  rcases time with ⟨day, hour, minute, hday, hhour, hminute⟩
  -- Numbers of two digits are read back.
  have hread : ∀ n ≤ 59, toInt? (padded 2 n) = some (n : ℤ) := fun n hn =>
    toInt?_padded (by omega) (by omega) (by omega)
  -- A day and a time that exist pass the checks of the source.
  have hset : ∀ captures, captured captures .day = padded 2 day →
      captured captures .hour = padded 2 hour → captured captures .minute = padded 2 minute →
      dayTime.validateAndSet captures metar
        = some { metar with m_reportDay := day, m_reportTime := (hour, minute) } := by
    intro captures hd hh hm
    dsimp only [dayTime]
    rw [hm, hread minute hminute]
    dsimp only
    rw [hd, hh, toInt_of_toInt? (hread day (by omega)), toInt_of_toInt? (hread hour (by omega)),
      if_neg (by omega), if_neg (by omega), if_neg (by omega)]
  have htext : padded 2 day ++ padded 2 hour ++ padded 2 minute ++ ['Z'] ++ ' ' :: rest
      = padded 2 day ++ (padded 2 hour ++ (padded 2 minute ++ (['Z', ' '] ++ rest))) := by
    rfl
  refine MetarDecoderPart.parse_word rfl rfl ?_ (hset ([(.day, padded 2 day)]
    ++ [(.hour, padded 2 hour)] ++ [(.minute, padded 2 minute)] ++ []) rfl rfl rfl)
  have hfirst : ∀ (x : GroupName) n s,
      (Regex.group x (digits 2)).first (padded 2 n ++ s) = some ([(x, padded 2 n)], s) :=
    fun x n s => Regex.first_group (first_padded 2 n s)
  exact Regex.first_seq (Regex.first_seq (Regex.first_seq (hfirst .day day _) (hfirst .hour hour _))
    (hfirst .minute minute _)) (Regex.first_lit ['Z', ' '] rest)

end Header

/-! ## Wind -/

section Wind

variable (rest : QString) (metar : CMetar)

theorem speedText_eq_cons (n : ℕ) : ∃ c s, speedText n = c :: s ∧ c.isDigit = true := by
  unfold speedText
  split
  · exact ⟨_, _, rfl, Numeral.isDigit_digitChar (Nat.mod_lt _ (by omega))⟩
  · exact ⟨_, _, rfl, Numeral.isDigit_digitChar (Nat.mod_lt _ (by omega))⟩

theorem attempts_digit {c : Char} (hc : c.isDigit = false) (s : QString) :
    digit.attempts (c :: s) = [] := Regex.attempts_char_of_not hc

/-- A third digit is taken where there is one. -/
theorem first_speedText (n : ℕ) {s : QString} (hs : ∀ c ∈ s.head?, c.isDigit = false) :
    twoOrThreeDigits.first (speedText n ++ s) = some ([], s) := by
  unfold speedText
  split
  · refine Regex.first_seq (first_padded 2 n s) (Regex.first_opt_skip ?_)
    cases s with
    | nil => rfl
    | cons c s => exact attempts_digit (hs c rfl) s
  · have htext : padded 3 n ++ s = padded 2 (n / 10) ++ ((n % 10).digitChar :: s) := by
      change (padded 2 (n / 10) ++ [(n % 10).digitChar]) ++ s = _
      rw [List.append_assoc, List.singleton_append]
    exact Regex.first_seq (first_padded 2 (n / 10) _)
      (Regex.first_opt (Regex.first_char (Numeral.isDigit_digitChar (Nat.mod_lt n (by omega)))))

theorem toInt?_speedText {n : ℕ} (hn : n < 1000) : toInt? (speedText n) = some (n : ℤ) := by
  unfold speedText
  split
  · exact toInt?_padded (by omega) (by omega) (by omega)
  · exact toInt?_padded (by omega) (by omega) (by omega)

/-- The code of the direction, and what it is read as. -/
theorem windDirection_directionText (wind : WindGroup) :
    windDirection wind.directionText
      = some (wind.direction.elim 0 fun direction =>
        (direction.val : ℤ), wind.direction.isNone) := by
  unfold WindGroup.directionText
  cases wind.direction with
  | none => rfl
  | some direction =>
    have hne : padded 3 direction.val ≠ "VRB" := by
      intro h
      have hmem : 'V' ∈ padded 3 direction.val := by rw [h]; decide
      exact absurd (isDigit_of_mem_padded hmem) (by decide)
    unfold windDirection
    rw [if_neg hne, toInt?_padded (by omega) (by omega) (by omega)]
    rfl

/-- A status consists of capital letters, which the wind does not. -/
theorem attempts_status (wind : WindGroup) :
    status.regExp.attempts (wind.text ++ ' ' :: rest) = [] := by
  rcases speedText_eq_cons wind.speed with ⟨c, tail, hspeed, hc⟩
  have hc_upper : c.isUpper = false := by
    rw [isDigit_iff] at hc
    rw [Bool.eq_false_iff, Ne, isUpper_iff]
    omega
  have hc_blank : c ≠ ' ' := not_space_of_upper_or_digit (Or.inr hc)
  have htext : wind.text ++ ' ' :: rest
      = wind.directionText ++ c ::
        (tail ++ (wind.gustText ++ (wind.unit.text ++ ' ' :: rest))) := by
    rw [WindGroup.text, hspeed, List.append_assoc, List.append_assoc, List.append_assoc,
      List.cons_append]
  rw [htext, WindGroup.directionText]
  generalize tail ++ (wind.gustText ++ (wind.unit.text ++ ' ' :: rest)) = s
  cases wind.direction with
  | none =>
    change status.regExp.attempts ('V' :: 'R' :: 'B' :: c :: s) = []
    refine Regex.attempts_seq_of_right fun m hm => ?_
    -- letters may be left, and the digit is, but there is no blank
    rcases List.mem_map.mp hm with ⟨m₁, hm₁, rfl⟩
    have hrests : Regex.starRests Char.isUpper ('R' :: 'B' :: c :: s)
        = [c :: s, 'B' :: c :: s, 'R' :: 'B' :: c :: s] := by
      simp [Regex.starRests, hc_upper]
    have hrest := Regex.mem_starRests_of_mem hm₁
    rw [hrests, List.mem_cons, List.mem_cons, List.mem_singleton] at hrest
    rcases hrest with hrest | hrest | hrest
    · rw [hrest]
      exact attempts_blank hc_blank s
    · rw [hrest]
      exact attempts_blank (by decide) _
    · rw [hrest]
      exact attempts_blank (by decide) _
  | some direction =>
    refine Regex.attempts_seq_of_left (Regex.attempts_group_of_nil (Regex.attempts_seq_of_left ?_))
    refine Regex.attempts_char_of_not ?_
    exact isUpper_digitChar (Nat.mod_lt _ (by omega))

theorem parse_status (group : Option StatusGroup) (wind : WindGroup) :
    status.parse (spaced (group.toList.map StatusGroup.text) ++ (wind.text ++ ' ' :: rest)) metar
      = some (wind.text ++ ' ' :: rest,
        { metar with m_isAutomated := metar.m_isAutomated || group.any StatusGroup.isAuto }) := by
  cases group with
  | none =>
    rw [Option.any_none, Bool.or_false]
    exact MetarDecoderPart.parse_of_nil rfl rfl (attempts_status rest wind)
  | some group =>
    rw [Option.toList_some, List.map_singleton, spaced_cons, spaced_nil, List.nil_append,
      Option.any_some]
    -- Each status is a word of letters in upper case.
    have hupper : ∃ c cs, group.text = c :: cs ∧ c.isUpper = true ∧ ∀ c ∈ cs, c.isUpper = true := by
      cases group with
      | auto => exact ⟨'A', ['U', 'T', 'O'], by decide, by decide, List.all_eq_true.mp rfl⟩
      | correction indicator =>
        rcases indicator with ⟨indicator, hlength, hchars⟩
        cases indicator with
        | nil => cases hlength
        | cons c cs =>
          exact ⟨c, cs, rfl, hchars c List.mem_cons_self,
            fun d hd => hchars d (List.mem_cons_of_mem c hd)⟩
    have hset : status.validateAndSet ([(.status, group.text)] ++ []) metar
        = some { metar with m_isAutomated := metar.m_isAutomated || group.isAuto } := by
      cases group with
      | auto => rw [StatusGroup.isAuto, Bool.or_true]; rfl
      | correction indicator =>
        rcases indicator with ⟨indicator, hlength, hchars⟩
        have hauto : indicator ≠ "AUTO" := by
          rintro rfl
          cases hlength
        rw [StatusGroup.isAuto, Bool.or_false]
        change (if indicator = "AUTO" then _ else if indicator = "NIL" then some metar
          else if indicator.length = 3 then some metar else none) = some metar
        rw [if_neg hauto]
        -- The source knows two words, and takes any other three letters for a correction.
        by_cases hnil : indicator = "NIL"
        · exact if_pos hnil
        · rw [if_neg hnil, if_pos hlength]
    rcases hupper with ⟨c, cs, htext, hc, hcs⟩
    refine MetarDecoderPart.parse_word rfl rfl ?_ hset
    refine Regex.first_seq (Regex.first_group ?_) (first_blank _)
    rw [htext, List.cons_append]
    refine Regex.first_seq (Regex.first_char hc) (Regex.first_star hcs ?_)
    intro a ha
    rw [← Option.some.inj ha]
    decide

theorem directionText_ne (wind : WindGroup) : wind.directionText ≠ "///" := by
  intro h
  have hmem : '/' ∈ wind.directionText := by rw [h]; decide
  unfold WindGroup.directionText at hmem
  split at hmem
  · exact nomatch hmem
  · exact absurd (isDigit_of_mem_padded hmem) (by decide)

theorem first_directionText (wind : WindGroup) (s : QString) :
    (Regex.alt (digits 3) (.alt (.lit "VRB") (.lit "///")) : Regex GroupName).first
      (wind.directionText ++ s) = some ([], s) := by
  unfold WindGroup.directionText
  split
  · have hdigits : (digits 3).attempts ("VRB" ++ s) = [] := by
      exact Regex.attempts_seq_of_left (Regex.attempts_char_of_not (by decide))
    rw [Regex.first_alt_right hdigits]
    exact Regex.first_alt_left (Regex.first_lit "VRB" s)
  · exact Regex.first_alt_left (first_padded 3 _ s)

theorem first_unitText (unit : WindUnit) (s : QString) :
    (Regex.oneOf (getWindUnitHash.map Prod.fst) : Regex GroupName).first (unit.text ++ s)
      = some ([], s) := by
  have hmem : unit.text ∈ getWindUnitHash.map Prod.fst := by cases unit <;> decide
  exact Regex.first_of_attempts (Regex.attempts_oneOf_append (by decide) hmem s)

/-- What comes behind a speed is no digit. -/
theorem head_gustText (wind : WindGroup) (s : QString) :
    ∀ c ∈ (wind.gustText ++ (wind.unit.text ++ s)).head?, c.isDigit = false := by
  have hunit : ∀ c ∈ (wind.unit.text ++ s).head?, c.isDigit = false := by
    cases wind.unit <;> intro c hc <;> rw [← Option.some.inj hc] <;> decide
  unfold WindGroup.gustText
  split
  · exact hunit
  · intro c hc
    rw [← Option.some.inj hc]
    decide

def gustCaptures (wind : WindGroup) : Captures GroupName :=
  wind.gustSpeed.elim [] fun gustSpeed => [(.gustSpeed, speedText gustSpeed)]

theorem first_gustText (wind : WindGroup) (s : QString) :
    (Regex.opt (.lit ['G'] ++ .group .gustSpeed twoOrThreeDigits) : Regex GroupName).first
      (wind.gustText ++ (wind.unit.text ++ s)) = some (gustCaptures wind, wind.unit.text ++ s) := by
  have hunit : ∀ c ∈ (wind.unit.text ++ s).head?, c.isDigit = false ∧ c ≠ 'G' := by
    cases wind.unit <;> intro c hc <;> rw [← Option.some.inj hc] <;> decide
  unfold WindGroup.gustText gustCaptures
  cases wind.gustSpeed with
  | none =>
    refine Regex.first_opt_skip (Regex.attempts_seq_of_left ?_)
    cases wind.unit <;> rfl
  | some gustSpeed =>
    exact Regex.first_opt (Regex.first_seq (Regex.first_lit ['G'] _)
      (Regex.first_group (first_speedText gustSpeed fun c hc => (hunit c hc).1)))

theorem validateAndSet_wind {captures : Captures GroupName} {direction speed gustSpeed : ℤ}
    {directionVariable : Bool} {unit : CSpeedUnit}
    (hknown : captured captures .direction ≠ "///")
    (hdirection : windDirection (captured captures .direction) =
      some (direction, directionVariable))
    (hmeasured : captured captures .speed ≠ "//")
    (hspeed : toInt? (captured captures .speed) = some speed)
    (hgust : windGustSpeed (captured captures .gustSpeed) = some gustSpeed)
    (hunit : getWindUnitHash.lookup (captured captures .unit) = some unit) :
    wind.validateAndSet captures metar
      = some { metar with
          m_windLayer :=
            { m_directionMain := direction
              m_directionVariable := directionVariable
              m_speed := ⟨speed, unit⟩
              m_gustSpeed := ⟨gustSpeed, unit⟩ } } := by
  unfold wind
  dsimp only
  rw [if_neg hknown, hdirection]
  dsimp only
  rw [if_neg hmeasured, hspeed, hgust, hunit]

theorem parse_wind (group : WindGroup) :
    wind.parse (group.text ++ ' ' :: rest) metar
      = some (rest,
        { metar with
          m_windLayer :=
            { m_directionMain := group.direction.elim 0 fun direction => (direction.val : ℤ)
              m_directionVariable := group.direction.isNone
              m_speed := ⟨(group.speed.val : ℤ), group.unit.unit⟩
              m_gustSpeed :=
                ⟨((group.gustSpeed.elim 0 fun gustSpeed => (gustSpeed.val : ℤ) : ℤ) : ℚ),
                  group.unit.unit⟩ } }) := by
  have htext : group.text ++ ' ' :: rest = group.directionText ++ (speedText group.speed
      ++ (group.gustText ++ (group.unit.text ++ ' ' :: rest))) := by
    rw [WindGroup.text, List.append_assoc, List.append_assoc, List.append_assoc]
  -- The groups in the order of the expression: direction, speed, gusts and unit.
  have hfirst : wind.regExp.first (group.text ++ ' ' :: rest)
      = some ([(.direction, group.directionText)] ++ [(.speed, speedText group.speed)]
        ++ gustCaptures group ++ [(.unit, group.unit.text)] ++ [], rest) := by
    rw [htext]
    refine Regex.first_seq (Regex.first_seq (Regex.first_seq (Regex.first_seq
      (Regex.first_group (first_directionText group _)) (Regex.first_group ?_))
      (first_gustText group _)) (Regex.first_group (first_unitText group.unit _)))
      (Regex.first_opt (first_blank rest))
    exact Regex.first_alt_left (first_speedText group.speed (head_gustText group _))
  refine MetarDecoderPart.parse_word rfl rfl hfirst ?_
  have hspeed_ne : speedText group.speed ≠ "//" := by
    rcases speedText_eq_cons group.speed with ⟨c, s, hspeed, hc⟩
    rw [hspeed]
    intro h
    rw [(List.cons.inj h).1] at hc
    cases hc
  have hunit : getWindUnitHash.lookup group.unit.text = some group.unit.unit := by
    cases group.unit <;> decide
  have hspeed := toInt?_speedText group.speed.isLt
  have hdirection := windDirection_directionText group
  have hdirection_ne := directionText_ne group
  unfold gustCaptures
  -- Without gusts their group is empty, and is read as zero.
  cases group.gustSpeed with
  | none => exact validateAndSet_wind metar hdirection_ne hdirection hspeed_ne hspeed rfl hunit
  | some gustSpeed =>
    have hgust : windGustSpeed (speedText gustSpeed) = some (gustSpeed.val : ℤ) := by
      rcases speedText_eq_cons gustSpeed with ⟨c, s, hcons, _⟩
      unfold windGustSpeed
      rw [if_neg (hcons ▸ List.cons_ne_nil c s), toInt?_speedText gustSpeed.isLt]
    exact validateAndSet_wind metar hdirection_ne hdirection hspeed_ne hspeed hgust hunit

theorem parse_variationsWindDirection (variation : Fin 1000 × Fin 1000) :
    variationsWindDirection.parse (variationText variation ++ ' ' :: rest) metar
      = some (rest,
        { metar with
          m_windLayer :=
            { metar.m_windLayer with
              m_directionFrom := (variation.1.val : ℤ)
              m_directionTo := (variation.2.val : ℤ) } }) := by
  have hread : ∀ n : Fin 1000, toInt? (padded 3 n) = some (n.val : ℤ) := fun n =>
    toInt?_padded (by omega) (by omega) (by omega)
  have htext : variationText variation ++ ' ' :: rest
      = padded 3 variation.1 ++ (['V'] ++ (padded 3 variation.2 ++ ([' '] ++ rest))) := by
    rfl
  -- The two directions have three digits each.
  have hfirst : variationsWindDirection.regExp.first (variationText variation ++ ' ' :: rest)
      = some ([(.direction_from, padded 3 variation.1)] ++ [] ++ [(.direction_to,
        padded 3 variation.2)] ++ [], rest) := by
    rw [htext]
    exact Regex.first_seq (Regex.first_seq (Regex.first_seq
      (Regex.first_group (first_padded 3 _ _)) (Regex.first_lit ['V'] _))
      (Regex.first_group (first_padded 3 _ _))) (first_blank rest)
  refine MetarDecoderPart.parse_word rfl rfl hfirst ?_
  have hset : ∀ captures, captured captures .direction_from = padded 3 variation.1 →
      captured captures .direction_to = padded 3 variation.2 →
      variationsWindDirection.validateAndSet captures metar = some { metar with
        m_windLayer := { metar.m_windLayer with
          m_directionFrom := (variation.1.val : ℤ)
          m_directionTo := (variation.2.val : ℤ) } } := by
    intro captures hfrom hto
    dsimp only [variationsWindDirection]
    rw [hto, hread variation.2]
    rw [hfrom, toInt_of_toInt? (hread variation.1)]
  exact hset _ rfl rfl

end Wind

end Weather

end NeoSwift.Misc
