import Mathlib.Tactic.Common
import NeoSwift.Qt.Text

/-!
# Dates and Times

`QDate`, `QTime` and `QDateTime` with their texts in `Qt::ISODate`. Invalid ones are none. A
date-time is one in UTC, which is what its text ends with.

The texts have seconds and four digits of the year. What is read back of one is the date and the
second. There is no text of a date before the first year or after the year 9999.

## Main definitions

* `CalendarDate`, `QDate`: Dates.
* `QTime`, `QDateTime`: Times of the day, and of a date.
* `QDate.toString`, `QTime.toString`, `QDateTime.toString`: The texts.
* `QDate.fromString`, `QTime.fromString`, `QDateTime.fromString`: What is read of a text.

## Theorems

* `QDate.fromString_toString_iff`, `QTime.fromString_toString_iff`,
  `QDateTime.fromString_toString_iff`: What comes back from its text.
-/

namespace NeoSwift

/-! ## Dates -/

/-- There is no year zero. -/
def isLeapYear (year : ℤ) : Bool :=
  let y := if year < 1 then year + 1 else year
  y % 4 = 0 && (y % 100 ≠ 0 || y % 400 = 0)

def daysInMonth (year : ℤ) (month : ℕ) : ℕ :=
  if month = 2 then if isLeapYear year then 29 else 28
  else if month = 4 ∨ month = 6 ∨ month = 9 ∨ month = 11 then 30
  else 31

/-- `QDate::isValid`. -/
def isValidDate (year : ℤ) (month day : ℕ) : Bool :=
  year ≠ 0 && 1 ≤ month && month ≤ 12 && 1 ≤ day && day ≤ daysInMonth year month

/-- A valid date. -/
structure CalendarDate where
  year : ℤ
  month : ℕ
  day : ℕ
  valid : isValidDate year month day = true
  deriving DecidableEq

abbrev QDate := Option CalendarDate

namespace CalendarDate

theorem bounds (date : CalendarDate) : date.month < 10 ^ 2 ∧ date.day < 10 ^ 2 := by
  have h := date.valid
  unfold isValidDate at h
  simp only [Bool.and_eq_true, decide_eq_true_eq] at h
  have hdays : daysInMonth date.year date.month ≤ 31 := by
    unfold daysInMonth
    split_ifs <;> decide
  omega

/-- `QDate::toString`. -/
def toString (date : CalendarDate) : QString :=
  if 0 ≤ date.year ∧ date.year ≤ 9999 then
    Numeral.lastDigits 4 date.year.toNat ++ '-' :: Numeral.lastDigits 2 date.month
      ++ '-' :: Numeral.lastDigits 2 date.day
  else []

end CalendarDate

namespace QDate

/-- The constructor. -/
def create (year : ℤ) (month day : ℕ) : QDate :=
  if h : isValidDate year month day = true then some ⟨year, month, day, h⟩ else none

/-- The text of an invalid date is empty. -/
def toString (date : QDate) : QString := (date.map CalendarDate.toString).getD []

/-- A text `yyyy-MM-dd`. -/
def fromString : QString → QDate
  | [y, y', y'', y''', '-', m, m', '-', d, d'] =>
    match Numeral.readNat 10 [y, y', y'', y'''], Numeral.readNat 10 [m, m'],
        Numeral.readNat 10 [d, d'] with
    | some year, some month, some day => create year month day
    | _, _, _ => none
  | _ => none

theorem fromString_digits {year month day : ℕ} (hyear : year < 10 ^ 4) (hmonth : month < 10 ^ 2)
    (hday : day < 10 ^ 2) :
    fromString (Numeral.lastDigits 4 year ++ '-' :: Numeral.lastDigits 2 month
      ++ '-' :: Numeral.lastDigits 2 day) = create year month day := by
  have hy := Numeral.readNat_lastDigits (by omega) hyear
  have hm := Numeral.readNat_lastDigits (by omega) hmonth
  have hd := Numeral.readNat_lastDigits (by omega) hday
  simp only [Numeral.lastDigits, List.nil_append, List.cons_append] at hy hm hd ⊢
  rw [fromString, hy, hm, hd]

theorem fromString_toString {date : CalendarDate} (h : 0 ≤ date.year ∧ date.year ≤ 9999) :
    fromString date.toString = some date := by
  have hbounds := date.bounds
  have hyear : ((date.year.toNat : ℕ) : ℤ) = date.year := Int.toNat_of_nonneg h.1
  unfold CalendarDate.toString
  rw [if_pos h, fromString_digits (by omega) hbounds.1 hbounds.2, hyear]
  exact dif_pos date.valid

/-- A date comes back from its text if and only if it has one. -/
theorem fromString_toString_iff (date : QDate) :
    fromString date.toString = date ↔ ∀ d ∈ date, 0 ≤ d.year ∧ d.year ≤ 9999 := by
  cases date with
  | none => exact iff_of_true rfl nofun
  | some d =>
    constructor
    · rintro h d' ⟨⟩
      by_contra hyear
      have hempty : QDate.toString (some d) = [] := if_neg hyear
      rw [hempty] at h
      cases h
    · intro h
      exact fromString_toString (h d rfl)

end QDate

/-! ## Times -/

def msecsPerDay : ℕ := 86400000

/-- The milliseconds since midnight. -/
abbrev QTime := Option (Fin msecsPerDay)

namespace QTime

theorem mds_lt {h m s ms : ℕ} (hvalid : h < 24 ∧ m < 60 ∧ s < 60 ∧ ms < 1000) :
    ((h * 60 + m) * 60 + s) * 1000 + ms < msecsPerDay := by
  unfold msecsPerDay
  omega

/-- The constructor. -/
def create (h m s ms : ℕ) : QTime :=
  if hvalid : h < 24 ∧ m < 60 ∧ s < 60 ∧ ms < 1000 then
    some ⟨((h * 60 + m) * 60 + s) * 1000 + ms, mds_lt hvalid⟩
  else none

/-- `toString` of a valid time. -/
def validToString (mds : ℕ) : QString :=
  Numeral.lastDigits 2 (mds / 3600000) ++ ':' :: Numeral.lastDigits 2 (mds / 60000 % 60)
    ++ ':' :: Numeral.lastDigits 2 (mds / 1000 % 60)

def toString (time : QTime) : QString := (time.map fun mds => validToString mds).getD []

/-- A text `HH:mm:ss`. -/
def fromString : QString → QTime
  | [h, h', ':', m, m', ':', s, s'] =>
    match Numeral.readNat 10 [h, h'], Numeral.readNat 10 [m, m'], Numeral.readNat 10 [s, s'] with
    | some hour, some minute, some second => create hour minute second 0
    | _, _, _ => none
  | _ => none

theorem fromString_digits {h m s : ℕ} (hh : h < 10 ^ 2) (hm : m < 10 ^ 2) (hs : s < 10 ^ 2) :
    fromString (Numeral.lastDigits 2 h ++ ':' :: Numeral.lastDigits 2 m
      ++ ':' :: Numeral.lastDigits 2 s) = create h m s 0 := by
  have hhour := Numeral.readNat_lastDigits (by omega) hh
  have hminute := Numeral.readNat_lastDigits (by omega) hm
  have hsecond := Numeral.readNat_lastDigits (by omega) hs
  simp only [Numeral.lastDigits, List.nil_append, List.cons_append] at hhour hminute hsecond ⊢
  rw [fromString, hhour, hminute, hsecond]

/-- What is read back is the second. -/
theorem fromString_validToString (mds : Fin msecsPerDay) :
    fromString (validToString mds)
      = some ⟨mds / 1000 * 1000, (Nat.div_mul_le_self _ _).trans_lt mds.isLt⟩ := by
  have hlt : (mds : ℕ) < 86400000 := mds.isLt
  unfold validToString
  rw [fromString_digits (by omega) (by omega) (by omega)]
  have hvalid : (mds : ℕ) / 3600000 < 24 ∧ (mds : ℕ) / 60000 % 60 < 60 ∧
      (mds : ℕ) / 1000 % 60 < 60 ∧ 0 < 1000 := by omega
  have hseconds : (((mds : ℕ) / 3600000 * 60 + mds / 60000 % 60) * 60 + mds / 1000 % 60) * 1000
      + 0 = mds / 1000 * 1000 := by omega
  unfold create
  rw [dif_pos hvalid]
  exact congrArg some (Fin.ext hseconds)

/-- A time comes back from its text if and only if it is one of a second. -/
theorem fromString_toString_iff (time : QTime) :
    fromString time.toString = time ↔ ∀ mds ∈ time, (mds : ℕ) % 1000 = 0 := by
  cases time with
  | none => exact iff_of_true rfl nofun
  | some mds =>
    change fromString (validToString mds) = some mds ↔ _
    rw [fromString_validToString, Option.some.injEq, Fin.ext_iff]
    simp only [Option.mem_some_iff, forall_eq']
    omega

end QTime

/-! ## Date-times -/

abbrev QDateTime := Option (CalendarDate × Fin msecsPerDay)

namespace QDateTime

/-- The text of a date-time in UTC, which is empty if that of the date is. -/
def toString (dateTime : QDateTime) : QString :=
  match dateTime with
  | none => []
  | some (date, mds) =>
    if date.toString.isEmpty then []
    else date.toString ++ 'T' :: QTime.validToString mds ++ ['Z']

/-- A text `yyyy-MM-ddTHH:mm:ssZ`. -/
def fromString (s : QString) : QDateTime :=
  if (s.drop 10).head? = some 'T' ∧ s.drop 19 = ['Z'] then
    match QDate.fromString (s.take 10), QTime.fromString ((s.drop 11).take 8) with
    | some date, some mds => some (date, mds)
    | _, _ => none
  else none

theorem length_validToString (mds : ℕ) : (QTime.validToString mds).length = 8 := by
  unfold QTime.validToString
  simp [Numeral.length_lastDigits]

theorem fromString_append {date time : QString} (hdate : date.length = 10)
    (htime : time.length = 8) :
    fromString (date ++ 'T' :: time ++ ['Z'])
      = match QDate.fromString date, QTime.fromString time with
        | some date, some mds => some (date, mds)
        | _, _ => none := by
  have hdrop : (date ++ 'T' :: time ++ ['Z']).drop 10 = 'T' :: (time ++ ['Z']) := by
    rw [List.append_assoc, List.drop_left' hdate, List.cons_append]
  have htake : (date ++ 'T' :: time ++ ['Z']).take 10 = date := by
    rw [List.append_assoc, List.take_left' hdate]
  have hmiddle : (date ++ 'T' :: time ++ ['Z']).drop 11 = time ++ ['Z'] := by
    rw [show 11 = 10 + 1 from rfl, ← List.drop_drop, hdrop, List.drop_succ_cons, List.drop_zero]
  have hlast : (date ++ 'T' :: time ++ ['Z']).drop 19 = ['Z'] := by
    rw [show 19 = 11 + 8 from rfl, ← List.drop_drop, hmiddle, List.drop_left' htime]
  unfold fromString
  rw [hdrop, hlast, htake, hmiddle, List.take_left' htime, if_pos ⟨rfl, rfl⟩]

/-- A date-time comes back from its text if and only if it is one of a second, and of a year of
    four digits. -/
theorem fromString_toString_iff (dateTime : QDateTime) :
    fromString dateTime.toString = dateTime
      ↔ ∀ d ∈ dateTime, (0 ≤ d.1.year ∧ d.1.year ≤ 9999) ∧ (d.2 : ℕ) % 1000 = 0 := by
  cases dateTime with
  | none => exact iff_of_true rfl nofun
  | some d =>
    rcases d with ⟨date, mds⟩
    simp only [Option.mem_some_iff, forall_eq']
    by_cases hyear : 0 ≤ date.year ∧ date.year ≤ 9999
    · -- A year of four digits makes a date of ten characters, behind which the time is read.
      have hlength : date.toString.length = 10 := by
        unfold CalendarDate.toString
        rw [if_pos hyear]
        simp [Numeral.length_lastDigits]
      have htext : toString (some (date, mds))
          = date.toString ++ 'T' :: QTime.validToString mds ++ ['Z'] := by
        refine if_neg fun hempty => ?_
        rw [List.isEmpty_iff.mp hempty] at hlength
        cases hlength
      rw [htext, fromString_append hlength (length_validToString mds),
        QDate.fromString_toString hyear, QTime.fromString_validToString]
      simp only [Option.some.injEq, Prod.mk.injEq, Fin.ext_iff, true_and]
      omega
    · have hempty : date.toString = [] := if_neg hyear
      have htext : toString (some (date, mds)) = [] := by
        unfold toString
        dsimp only
        rw [hempty]
        rfl
      rw [htext]
      exact iff_of_false nofun fun h => hyear h.1

end QDateTime

end NeoSwift
