import NeoSwift.Qt.DateTime

/-!
# Time Stamps

`parseMultipleDateTimeFormats` and `parseDateTimeStringOptimized` of `misc/stringutils.cpp`. The
first one has Qt read a text in the format that its length is the one of, as a local time, and
then takes it for a time in UTC. The second one cuts the numbers out of the text and sets the
date and the time of a date-time.

Setting a time that is invalid sets midnight. Numbers are read of the digits `0` to `9` only.
Which characters are digits, which formats are tried for other texts, and which local times there
are, are parameters.

## Main definitions

* `DateTimeParts`: A date-time that is set in parts.
* `QDateTime.fromFormat`: A text in a format.
* `parseMultipleDateTimeFormats`, `parseDateTimeStringOptimized`: The two parsers.
* `dateOf`, `timeOf`: The date and the time in the digits of a text.

## Theorems

* `parseDateTimeStringOptimized_eq`: Without a time it is midnight.
* `parseMultipleDateTimeFormats_eq`: Without a time there is nothing.
* `optimized_eq_general_iff`: Where both parsers say the same.
* `hour_25_is_midnight`: Where they do not.
-/

namespace NeoSwift

namespace QDate

/-- `QDate` for numbers of which none is negative. -/
def setDate (year month day : ℤ) : QDate :=
  if 0 ≤ month ∧ 0 ≤ day then create year month.toNat day.toNat else none

end QDate

namespace QTime

/-- `QTime` for numbers of which none is negative. -/
def setHMS (h m s ms : ℤ) : QTime :=
  if 0 ≤ h ∧ 0 ≤ m ∧ 0 ≤ s ∧ 0 ≤ ms then create h.toNat m.toNat s.toNat ms.toNat else none

def midnight : Fin msecsPerDay := ⟨0, by decide⟩

end QTime

/-- The date and the time of a `QDateTime` that need not be valid. -/
structure DateTimeParts where
  date : QDate := none
  time : QTime := none

namespace DateTimeParts

/-- A valid date has a valid time. -/
def setDateTime (date : QDate) (time : QTime) : DateTimeParts :=
  ⟨date, if time = none ∧ date ≠ none then some QTime.midnight else time⟩

def setDate (dt : DateTimeParts) (date : QDate) : DateTimeParts := setDateTime date dt.time

def setTime (dt : DateTimeParts) (time : QTime) : DateTimeParts := setDateTime dt.date time

/-- Valid if both the date and the time are. -/
def toDateTime (dt : DateTimeParts) : QDateTime :=
  match dt.date, dt.time with
  | some date, some time => some (date, time)
  | _, _ => none

end DateTimeParts

/-- A part of a format. -/
inductive FormatSection where
  | yyyy | MM | dd | HH | mm | ss | zzz
  deriving DecidableEq

namespace FormatSection

/-- How many characters a section takes. -/
def width : FormatSection → ℕ
  | yyyy => 4
  | zzz => 3
  | _ => 2

end FormatSection

namespace QDateTime

/-- The text of a section. -/
def sectionText (section' : FormatSection) : List FormatSection → QString → Option QString
  | [], _ => none
  | first :: format, s =>
    if first = section' then some (s.take first.width)
    else sectionText section' format (s.drop first.width)

/-- The number of a section, which has a default if the format has none. -/
def sectionValue (format : List FormatSection) (s : QString) (section' : FormatSection)
    (default : ℕ) : Option ℕ :=
  match sectionText section' format s with
  | none => some default
  | some text => Numeral.readNat 10 text

/-- The date of the sections, 1900-01-01 for what the format leaves out. -/
def sectionDate (format : List FormatSection) (s : QString) : QDate := do
  let year ← sectionValue format s .yyyy 1900
  let month ← sectionValue format s .MM 1
  let day ← sectionValue format s .dd 1
  QDate.create year month day

/-- The time of the sections, 0 for what the format leaves out. -/
def sectionTime (format : List FormatSection) (s : QString) : QTime := do
  let hour ← sectionValue format s .HH 0
  let minute ← sectionValue format s .mm 0
  let second ← sectionValue format s .ss 0
  let ms ← sectionValue format s .zzz 0
  QTime.create hour minute second ms

/-- A text of numbers without separators. -/
def fromFormat (s : QString) (format : List FormatSection) : QDateTime :=
  if s.length = (format.map FormatSection.width).sum then do
    let date ← sectionDate format s
    let time ← sectionTime format s
    some (date, time)
  else none

end QDateTime

namespace Misc

/-- Blanks, colons, underscores, hyphens and dots are taken out. -/
def removeDateTimeSeparators (s : QString) : QString :=
  s.filter fun c => !(c = ' ' || c = ':' || c = '_' || c = '-' || c = '.')

section

variable (isDigit : Char → Bool) (otherFormats : QString → QDateTime)
  (localTime : CalendarDate × Fin msecsPerDay → QDateTime)

def isDigitsOnlyString (s : QString) : Bool := s.all isDigit

/-- `fromStringUtc` with a format: a local time, taken for one in UTC. -/
def fromStringUtcFormat (s : QString) (format : List FormatSection) : QDateTime :=
  if s = [] ∨ format = [] then none else (QDateTime.fromFormat s format).bind localTime

/-- The formats of a text of digits. -/
def parseDigits (s : QString) : QDateTime :=
  if s.length = 17 then fromStringUtcFormat localTime s [.yyyy, .MM, .dd, .HH, .mm, .ss, .zzz]
  else if s.length = 14 then fromStringUtcFormat localTime s [.yyyy, .MM, .dd, .HH, .mm, .ss]
  else if s.length = 12 then fromStringUtcFormat localTime s [.yyyy, .MM, .dd, .HH, .mm]
  else if s.length = 8 then fromStringUtcFormat localTime s [.yyyy, .MM, .dd]
  else none

/-- The general parser: digits, digits with separators, or one of the other formats. -/
def parseMultipleDateTimeFormats (s : QString) : QDateTime :=
  if s = [] then none
  else if isDigitsOnlyString isDigit s then parseDigits localTime s
  else
    let simpleSeparatorsRemoved := removeDateTimeSeparators s
    if isDigitsOnlyString isDigit simpleSeparatorsRemoved then
      -- The second call finds digits only, or nothing.
      if simpleSeparatorsRemoved = [] then none else parseDigits localTime simpleSeparatorsRemoved
    else otherFormats s

end

/-- The fast parser of `yyyyMMddHHmmsszzz`: what is no number at its place counts as zero. -/
def parseDateTimeStringOptimized (s : QString) : QDateTime :=
  if s.length < 8 then none
  else
    let year := (QString.toInt (s.take 4)).toInt
    let month := (QString.toInt ((s.drop 4).take 2)).toInt
    let day := (QString.toInt ((s.drop 6).take 2)).toInt
    let dt := DateTimeParts.setDate {} (QDate.setDate year month day)
    if s.length < 12 then dt.toDateTime
    else
      let hour := (QString.toInt ((s.drop 8).take 2)).toInt
      let minute := (QString.toInt ((s.drop 10).take 2)).toInt
      let second := if s.length < 14 then 0 else (QString.toInt ((s.drop 12).take 2)).toInt
      let ms := if s.length < 17 then 0 else (QString.toInt (s.drop (s.length - 3))).toInt
      (dt.setTime (QTime.setHMS hour minute second ms)).toDateTime

/-! ## What the digits say -/

/-- The number in a place of the text, and zero behind the text. -/
def field (s : QString) (start width : ℕ) : Option ℕ :=
  if s.length < start + width then some 0 else Numeral.readNat 10 ((s.drop start).take width)

/-- The date at the places of the digits. -/
def dateOf (s : QString) : QDate := do
  let year ← field s 0 4
  let month ← field s 4 2
  let day ← field s 6 2
  QDate.create year month day

/-- The time at the places of the digits. -/
def timeOf (s : QString) : QTime := do
  let hour ← field s 8 2
  let minute ← field s 10 2
  let second ← field s 12 2
  let ms ← field s 14 3
  QTime.create hour minute second ms

/-- Digits are no blanks and no signs. -/
structure DigitTest (isDigit : Char → Bool) : Prop where
  isSpace : ∀ c, isDigit c = true → QString.isSpace c = false
  ne_minus : isDigit '-' = false
  ne_plus : isDigit '+' = false

theorem digitTest_isDigit : DigitTest Char.isDigit where
  isSpace c hc := by
    rcases Numeral.digitChar_of_isDigit hc with ⟨hd, hchar⟩
    rw [hchar]
    exact QString.isSpace_digitChar (by omega)
  ne_minus := by decide
  ne_plus := by decide

section Digits

variable {isDigit : Char → Bool} {s : QString}

/-- A short text of digits is read as a number, and as zero if it has other digits. -/
theorem toInt_digits (htest : DigitTest isDigit) (hs : ∀ c ∈ s, isDigit c = true)
    (hlength : s.length ≤ 4) : (QString.toInt s).toInt = ((Numeral.readNat 10 s).getD 0 : ℕ) := by
  -- Digits are no blanks and no signs, so the text is read as it is.
  have htrim : s.trimmed = s := QString.trimmed_of_no_space fun c hc => htest.isSpace c (hs c hc)
  have hhead : ∀ c ∈ s.head?, c ≠ '-' ∧ c ≠ '+' := by
    intro c hc
    have hdigit := hs c (List.mem_of_mem_head? hc)
    refine ⟨?_, ?_⟩ <;> rintro rfl
    · exact absurd (htest.ne_minus.symm.trans hdigit) Bool.false_ne_true
    · exact absurd (htest.ne_plus.symm.trans hdigit) Bool.false_ne_true
  rw [QString.toInt, QString.toIntegral, htrim, Numeral.readInt_of_head hhead]
  cases hread : Numeral.readNat 10 s with
  | none => rfl
  | some n =>
    -- Four digits are less than ten thousand, and so an int.
    have hlt : n < 10000 := by
      unfold Numeral.readNat at hread
      split_ifs at hread with hdigits
      cases hread
      have hvalues : ∀ c ∈ s, Numeral.digitValue c < 10 := by
        simpa only [List.all_eq_true, decide_eq_true_eq] using hdigits.2
      calc Numeral.digitsValue 10 s < 10 ^ s.length := Numeral.digitsValue_lt hvalues
        _ ≤ 10 ^ 4 := Nat.pow_le_pow_right (by omega) hlength
    have hbounds : (-2147483648 : ℤ) ≤ n ∧ (n : ℤ) ≤ 2147483647 := by omega
    dsimp only [Option.map_some]
    rw [if_pos hbounds]
    exact Int32.toInt_ofInt_of_le (by omega) (by omega)

/-- A number that is cut out of the text. -/
theorem toInt_field (htest : DigitTest isDigit) (hs : ∀ c ∈ s, isDigit c = true)
    {start width : ℕ} (hwidth : width ≤ 4) (hlength : start + width ≤ s.length) :
    (QString.toInt ((s.drop start).take width)).toInt = ((field s start width).getD 0 : ℕ) := by
  rw [field, if_neg (by omega)]
  refine toInt_digits htest (fun c hc => hs c (List.mem_of_mem_drop (List.mem_of_mem_take hc))) ?_
  rw [List.length_take]
  omega

theorem field_of_lt {start width : ℕ} (h : s.length < start + width) :
    field s start width = some 0 := if_pos h

/-! ## The parser that cuts -/

/-- A number that is missing makes the date invalid, as it is read as zero. -/
theorem setDate_eq (s : QString) :
    QDate.setDate ((field s 0 4).getD 0 : ℕ) ((field s 4 2).getD 0 : ℕ) ((field s 6 2).getD 0 : ℕ)
      = dateOf s := by
  have hset (year month day : ℕ) : QDate.setDate year month day = QDate.create year month day := by
    rw [QDate.setDate, if_pos ⟨Int.natCast_nonneg _, Int.natCast_nonneg _⟩, Int.toNat_natCast,
      Int.toNat_natCast]
  rw [hset, dateOf]
  cases field s 0 4 with
  | none => exact dif_neg (by simp [isValidDate])
  | some year =>
    cases field s 4 2 with
    | none => exact dif_neg (by simp [isValidDate])
    | some month =>
      cases field s 6 2 with
      | none => exact dif_neg (by simp [isValidDate])
      | some day => rfl

/-- The time with zeros for what is no number. -/
def timeWithZeros (s : QString) : QTime :=
  QTime.create ((field s 8 2).getD 0) ((field s 10 2).getD 0) ((field s 12 2).getD 0)
    ((field s 14 3).getD 0)

theorem setHMS_natCast (h m sec ms : ℕ) : QTime.setHMS h m sec ms = QTime.create h m sec ms := by
  rw [QTime.setHMS]
  simp

theorem timeWithZeros_of_timeOf {s : QString} {time : Fin msecsPerDay}
    (h : timeOf s = some time) : timeWithZeros s = some time := by
  unfold timeOf at h
  simp only [Option.bind_eq_bind, Option.bind_eq_some_iff] at h
  rcases h with ⟨hour, hhour, minute, hminute, second, hsecond, ms, hms, hcreate⟩
  rw [timeWithZeros, hhour, hminute, hsecond, hms]
  exact hcreate

/-- What is not a time is midnight. -/
theorem setTime_eq (date : QDate) (time : QTime) :
    ((DateTimeParts.setDate {} date).setTime time).toDateTime
      = date.map fun d => (d, time.getD QTime.midnight) := by
  cases date with
  | none => cases time <;> rfl
  | some d => cases time <;> rfl

/-- The lengths of the formats. -/
def HasFormat (s : QString) : Prop :=
  s.length = 17 ∨ s.length = 14 ∨ s.length = 12 ∨ s.length = 8

theorem parseDateTimeStringOptimized_eq (htest : DigitTest isDigit)
    (hs : ∀ c ∈ s, isDigit c = true) (hlength : HasFormat s) :
    parseDateTimeStringOptimized s
      = (dateOf s).map fun date => (date, (timeWithZeros s).getD QTime.midnight) := by
  unfold HasFormat at hlength
  -- The three fields of the date.
  have hdate : QDate.setDate (QString.toInt (s.take 4)).toInt
      (QString.toInt ((s.drop 4).take 2)).toInt (QString.toInt ((s.drop 6).take 2)).toInt
      = dateOf s := by
    have hyear := @toInt_field isDigit s htest hs 0 4 (by omega) (by omega)
    rw [List.drop_zero] at hyear
    rw [hyear, toInt_field htest hs (by omega) (by omega),
      toInt_field htest hs (by omega) (by omega), setDate_eq]
  unfold parseDateTimeStringOptimized
  rw [if_neg (by omega)]
  dsimp only
  rw [hdate]
  -- With twelve characters there are hours and minutes, and maybe seconds and milliseconds.
  by_cases hshort : s.length < 12
  · have hmidnight : timeWithZeros s = some QTime.midnight := by
      rw [timeWithZeros, field_of_lt (by omega), field_of_lt (by omega), field_of_lt (by omega),
        field_of_lt (by omega)]
      rfl
    rw [if_pos hshort, hmidnight]
    cases dateOf s <;> rfl
  · have hsecond : (if s.length < 14 then (0 : ℤ) else (QString.toInt ((s.drop 12).take 2)).toInt)
        = ((field s 12 2).getD 0 : ℕ) := by
      split_ifs with hlt
      · rw [field_of_lt hlt]
        rfl
      · exact toInt_field htest hs (by omega) (by omega)
    have hms : (if s.length < 17 then (0 : ℤ) else (QString.toInt (s.drop (s.length - 3))).toInt)
        = ((field s 14 3).getD 0 : ℕ) := by
      split_ifs with hlt
      · rw [field_of_lt hlt]
        rfl
      · -- The last three characters are the ones behind the seconds.
        have hlast : s.drop (s.length - 3) = (s.drop 14).take 3 := by
          rw [List.take_of_length_le (by rw [List.length_drop]; omega)]
          congr 1
          omega
        rw [hlast]
        exact toInt_field htest hs (by omega) (by omega)
    rw [if_neg hshort, hsecond, hms, toInt_field htest hs (by omega) (by omega),
      toInt_field htest hs (by omega) (by omega), setHMS_natCast, setTime_eq, timeWithZeros]

/-! ## The parser with formats -/

theorem sectionDate_eq {format : List FormatSection} (h8 : 8 ≤ s.length) :
    QDateTime.sectionDate (.yyyy :: .MM :: .dd :: format) s = dateOf s := by
  unfold QDateTime.sectionDate dateOf field
  rw [if_neg (by omega), if_neg (by omega), if_neg (by omega)]
  simp [QDateTime.sectionValue, QDateTime.sectionText, FormatSection.width]

/-- The numbers of a format are those in their places, and the others are zero. -/
theorem sectionTime_eq :
    (s.length = 17 → QDateTime.sectionTime [.yyyy, .MM, .dd, .HH, .mm, .ss, .zzz] s = timeOf s) ∧
      (s.length = 14 → QDateTime.sectionTime [.yyyy, .MM, .dd, .HH, .mm, .ss] s = timeOf s) ∧
      (s.length = 12 → QDateTime.sectionTime [.yyyy, .MM, .dd, .HH, .mm] s = timeOf s) ∧
      (s.length = 8 → QDateTime.sectionTime [.yyyy, .MM, .dd] s = timeOf s) := by
  unfold QDateTime.sectionTime timeOf field
  refine ⟨fun h => ?_, fun h => ?_, fun h => ?_, fun h => ?_⟩ <;> rw [h] <;>
    simp [QDateTime.sectionValue, QDateTime.sectionText, FormatSection.width]

section Formats

variable {localTime : CalendarDate × Fin msecsPerDay → QDateTime}

theorem fromStringUtcFormat_eq {format : List FormatSection} (h8 : 8 ≤ s.length)
    (hwidth : s.length = ((.yyyy :: .MM :: .dd :: format : List FormatSection).map
      FormatSection.width).sum)
    (htime : QDateTime.sectionTime (.yyyy :: .MM :: .dd :: format) s = timeOf s) :
    fromStringUtcFormat localTime s (.yyyy :: .MM :: .dd :: format)
      = (dateOf s).bind fun date => (timeOf s).bind fun time => localTime (date, time) := by
  have hne : s ≠ [] := by
    rintro rfl
    cases h8
  rw [fromStringUtcFormat, if_neg (not_or.mpr ⟨hne, List.cons_ne_nil _ _⟩), QDateTime.fromFormat,
    if_pos hwidth, sectionDate_eq h8, htime]
  cases dateOf s with
  | none => rfl
  | some date => cases timeOf s <;> rfl

theorem parseMultipleDateTimeFormats_eq (otherFormats : QString → QDateTime)
    (hs : ∀ c ∈ s, isDigit c = true) (hlength : HasFormat s) :
    parseMultipleDateTimeFormats isDigit otherFormats localTime s
      = (dateOf s).bind fun date => (timeOf s).bind fun time => localTime (date, time) := by
  have hne : s ≠ [] := by
    rintro rfl
    revert hlength
    unfold HasFormat
    decide
  have hdigits : isDigitsOnlyString isDigit s = true := List.all_eq_true.mpr hs
  rw [parseMultipleDateTimeFormats, if_neg hne, if_pos hdigits, parseDigits]
  rcases sectionTime_eq (s := s) with ⟨h17, h14, h12, h8⟩
  rcases hlength with h | h | h | h
  · rw [if_pos h]
    exact fromStringUtcFormat_eq (by omega) h (h17 h)
  · rw [if_neg (by omega), if_pos h]
    exact fromStringUtcFormat_eq (by omega) h (h14 h)
  · rw [if_neg (by omega), if_neg (by omega), if_pos h]
    exact fromStringUtcFormat_eq (by omega) h (h12 h)
  · rw [if_neg (by omega), if_neg (by omega), if_neg (by omega), if_pos h]
    exact fromStringUtcFormat_eq (by omega) h (h8 h)

end Formats

/-! ## Where both say the same -/

/-- The parsers say the same where the digits have no date, or have a time, and one that there is
    in local time. -/
theorem optimized_eq_general_iff (otherFormats : QString → QDateTime)
    (localTime : CalendarDate × Fin msecsPerDay → QDateTime) (htest : DigitTest isDigit)
    (hs : ∀ c ∈ s, isDigit c = true) (hlength : HasFormat s) :
    parseDateTimeStringOptimized s = parseMultipleDateTimeFormats isDigit otherFormats localTime s
      ↔ ∀ date ∈ dateOf s, ∃ time ∈ timeOf s, localTime (date, time) = some (date, time) := by
  rw [parseDateTimeStringOptimized_eq htest hs hlength,
    parseMultipleDateTimeFormats_eq otherFormats hs hlength]
  cases hdate : dateOf s with
  | none => exact iff_of_true rfl nofun
  | some date =>
    simp only [Option.mem_some_iff, forall_eq']
    cases htime : timeOf s with
    | none => exact iff_of_false nofun nofun
    | some time =>
      rw [timeWithZeros_of_timeOf htime]
      constructor
      · intro h
        exact ⟨time, rfl, h.symm⟩
      · rintro ⟨_, ⟨⟩, h⟩
        exact h.symm

theorem optimized_eq_general_of_afternoon :
    parseDateTimeStringOptimized "20170301124421"
      = parseMultipleDateTimeFormats Char.isDigit (fun _ => none) some "20170301124421" :=
  (optimized_eq_general_iff (fun _ => none) some digitTest_isDigit
    (List.all_eq_true.mp (by decide)) (Or.inr (Or.inl (by decide)))).mpr
    fun _ _ => ⟨⟨45861000, by decide⟩, by decide +kernel, rfl⟩

/-- The hour 25 of a day is its first one for one parser, and none for the other. -/
theorem hour_25_is_midnight :
    parseDateTimeStringOptimized "201703012500"
        = (QDate.create 2017 3 1).map (fun date => (date, QTime.midnight)) ∧
      parseMultipleDateTimeFormats Char.isDigit (fun _ => none) some "201703012500" = none ∧
      parseDateTimeStringOptimized "201703012500"
        ≠ parseMultipleDateTimeFormats Char.isDigit (fun _ => none) some "201703012500" := by
  decide +kernel

end Digits

end Misc

end NeoSwift
