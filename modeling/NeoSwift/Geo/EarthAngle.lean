import NeoSwift.Lib.GlobalMatch
import NeoSwift.Pq.MeasurementUnit
import NeoSwift.Pq.Sexagesimal
import NeoSwift.Qt.Codes
import NeoSwift.Qt.Words

/-!
# Latitudes and Longitudes as Text

`CEarthAngle::toWgs84` and `CEarthAngle::fromWgs84`. A latitude or a longitude is printed as
degrees, minutes, and seconds with some decimals, with a letter for the hemisphere behind. Of a text
the first three numbers are read, and the letters S and W anywhere in it are a minus.

The decimals are those of the fraction with one more decimal, which is cut off. Where the fraction
is rounded to one, the one is lost.

A text with the unit of an angle is left to `parseFromString`, which is a parameter. Names and
symbols are not translated.

## Main definitions

* `CEarthAngle.toWgs84`: The text.
* `CEarthAngle.fromWgs84`: What is read.
* `printedSeconds`: The seconds in the text, as the number its digits are.

## Theorems

* `toWgs84_eq`: The text for given parts.
* `fromWgs84_wgsText`: What is read of such a text.
-/

namespace NeoSwift

open Numeral

/-! ## Model -/

namespace Pq

open CMathUtils

namespace CMathUtils

/-- A negative width is none. -/
def fractionalPartAsString (value : ℚ) (width : ℤ) : QString :=
  let fractpart := fract value
  let prec := if 0 ≤ width then (width + 1).toNat else 10
  let f := QString.numberFixed fractpart prec
  let fInt := if f.length < 3 then "0".toList else f.drop 2
  if width < 0 then fInt
  else if width ≤ fInt.length then fInt.take width.toNat
  else fInt.rightpad width.toNat '0'

end CMathUtils

/-- With the case of the letters. -/
def CMeasurementUnit.endsStringWithNameOrSymbol (unit : CMeasurementUnit) (candidate : QString) :
    Bool :=
  let c := candidate.trimmed
  unit.name.isSuffixOf c || unit.symbol.isSuffixOf c

def DegMinSecFractionalSec.fractionalSecAsString (v : DegMinSecFractionalSec) (width : ℤ) :
    QString :=
  fractionalPartAsString v.fractionalSec width

/-- `CAngle(degrees, minutes, seconds)`. -/
def CAngle.ofDegMinSec (degrees minutes : ℤ) (seconds : ℚ) : CAngle :=
  create (degrees + minutes / 100 + seconds / 10000) .sexagesimalDeg

end Pq

namespace Geo

open Pq CMathUtils

namespace CEarthAngle

/-- Degrees, minutes and seconds, and the letter of the hemisphere behind them. -/
def toWgs84 (a : CAngle) (pos neg : Char) (fractionalDigits : ℤ) : QString :=
  let v := a.asSexagesimalDegMinSec true
  let pn := if v.sign < 0 then neg else pos
  if fractionalDigits < 1 then
    QString.number v.deg ++ "° " ++ QString.number v.min ++ "' " ++
      QString.number v.sec ++ "\" " ++ [pn]
  else
    QString.number v.deg ++ "° " ++ QString.number v.min ++ "' " ++
      QString.number v.sec ++ "." ++ v.fractionalSecAsString fractionalDigits ++
        "\" " ++ [pn]

/-- `[+-]?\d+(?:\.\d+)?`. -/
def rx : Regex Empty :=
  .opt (.char fun c => c = '+' || c = '-') ++
    (.plus Char.isDigit ++ .opt (.char (· == '.') ++ .plus Char.isDigit))

/-- A text with a unit, a plain number of degrees, or numbers with a hemisphere. -/
def fromWgs84 (parseFromString : QString → CAngle) (wgsCoordinate : QString) : CAngle :=
  let wgs := wgsCoordinate.simplified.trimmed
  if wgs = [] then .create 0 .deg
  -- support for 5deg, 1.2rad
  else if CAngleUnit.Units.deg.endsStringWithNameOrSymbol wgs ||
      CAngleUnit.Units.rad.endsStringWithNameOrSymbol wgs then parseFromString wgs
  else match wgs.toDouble? with
    | some valueDegrees => .create valueDegrees .deg
    | none =>
      let captures := rx.globalMatch wgs
      let deg := (captures[0]?).elim 0 fun cap => (QString.toInt cap).toInt
      let min := (captures[1]?).elim 0 fun cap => (QString.toInt cap).toInt
      let sec := (captures[2]?).elim 0 QString.toDouble
      if wgs.containsCaseless ['S'] || wgs.containsCaseless ['W'] then
        .ofDegMinSec (-deg) (-min) (-sec)
      else .ofDegMinSec deg min sec

end CEarthAngle

/-- An angle north or south. -/
structure CLatitude where
  angle : CAngle

/-- An angle east or west. -/
structure CLongitude where
  angle : CAngle

def CLatitude.toWgs84 (lat : CLatitude) (fractionalDigits : ℤ) : QString :=
  CEarthAngle.toWgs84 lat.angle 'N' 'S' fractionalDigits

def CLongitude.toWgs84 (lon : CLongitude) (fractionalDigits : ℤ) : QString :=
  CEarthAngle.toWgs84 lon.angle 'E' 'W' fractionalDigits

def CLatitude.fromWgs84 (parseFromString : QString → CAngle) (wgsCoordinate : QString) :
    CLatitude := ⟨CEarthAngle.fromWgs84 parseFromString wgsCoordinate⟩

def CLongitude.fromWgs84 (parseFromString : QString → CAngle) (wgsCoordinate : QString) :
    CLongitude := ⟨CEarthAngle.fromWgs84 parseFromString wgsCoordinate⟩

end Geo

/-! ## The text -/

namespace Pq.CMathUtils

/-- The fraction with one more decimal, which is cut off. -/
theorem fractionalPartAsString_eq {x : ℚ} (h0 : 0 ≤ x) (h1 : x < 1) {n : ℕ} (hn : 0 < n) :
    fractionalPartAsString x n = lastDigits n (roundHalfUp (x * 10 ^ (n + 1)) / 10) := by
  have hfract : fract x = x := by
    have hadd := fract_add (n := 0) h0 h1
    rwa [Nat.cast_zero, zero_add] at hadd
  have hpow : (0 : ℚ) < 10 ^ (n + 1) := by positivity
  have hle : roundHalfUp (x * 10 ^ (n + 1)) ≤ 10 ^ (n + 1) := by
    refine roundHalfUp_le (by positivity) ?_
    have hmul := mul_lt_mul_of_pos_right h1 hpow
    push_cast
    linarith
  generalize hw : roundHalfUp (x * 10 ^ (n + 1)) = w at hle
  have htext : QString.numberFixed x (n + 1) = digitsText (n + 1) w := by
    have hw' : roundHalfUp (|x| * 10 ^ (n + 1)) = w := by rwa [abs_of_nonneg h0]
    rw [QString.numberFixed, fixedText_eq (Nat.succ_ne_zero n) hw', if_neg (not_lt.mpr h0)]
  -- In front of the point is one digit.
  have hwhole : w / 10 ^ (n + 1) < 10 := by
    rw [Nat.div_lt_iff_lt_mul (by positivity)]
    have hpos : 0 < 10 ^ (n + 1) := by positivity
    omega
  have hdrop : (digitsText (n + 1) w).drop 2 = lastDigits n (w / 10) ++ lastDigits 1 w := by
    rw [digitsText, natText, Nat.toDigits_of_lt_base hwhole]
    rfl
  have hlength : ¬(digitsText (n + 1) w).length < 3 := by
    rw [digitsText, List.length_append, List.length_cons, length_lastDigits]
    omega
  have htake : (lastDigits n (w / 10) ++ lastDigits 1 w).take n = lastDigits n (w / 10) :=
    List.take_left' (length_lastDigits n (w / 10))
  have hprec : ((n : ℤ) + 1).toNat = n + 1 := by omega
  unfold fractionalPartAsString
  dsimp only
  rw [hfract, if_pos (Int.natCast_nonneg n), hprec, htext, if_neg hlength, hdrop,
    if_neg (by omega), Int.toNat_natCast, htake, if_pos]
  rw [List.length_append, length_lastDigits]
  omega

end Pq.CMathUtils

namespace Geo

open Pq CMathUtils

/-- The seconds in the text with `n` decimals of so many millionths: the number of its digits. -/
def printedSeconds (n micros : ℕ) : ℕ :=
  micros / 10 ^ 6 * 10 ^ n +
    roundHalfUp ((micros % 10 ^ 6 : ℕ) / 1000000 * 10 ^ (n + 1)) / 10 % 10 ^ n

/-- The text of degrees, minutes and seconds with `n` decimals, which are given by their digits. -/
def wgsText (deg min n k : ℕ) (pn : Char) : QString :=
  QString.join [natText 10 deg ++ ['°'], natText 10 min ++ ['\''], digitsText n k ++ ['\"'], [pn]]
    [' ']

theorem wgsText_eq {D P n k : ℕ} {pn : Char} :
    wgsText D P n k pn = natText 10 D ++ '°' :: ' ' :: (natText 10 P ++
      '\'' :: ' ' :: (digitsText n k ++ '\"' :: ' ' :: [pn])) := by
  simp only [wgsText, QString.join, List.intercalate_cons_cons, List.append_assoc]
  rfl

namespace CEarthAngle

theorem toWgs84_eq {a : CAngle} {sign : ℤ} {D P W n : ℕ} (hn : 0 < n) (pos neg : Char)
    (hparts : a.asSexagesimalDegMinSec true =
      { sign := sign, deg := D, min := P, sec := (W / 10 ^ 6 : ℕ),
        fractionalSec := (W % 10 ^ 6 : ℕ) / 1000000 }) :
    toWgs84 a pos neg n = wgsText D P n (printedSeconds n W) (if sign < 0 then neg else pos) := by
  have hfract0 : (0 : ℚ) ≤ (W % 10 ^ 6 : ℕ) / 1000000 := by positivity
  have hfract1 : ((W % 10 ^ 6 : ℕ) : ℚ) / 1000000 < 1 := by
    rw [div_lt_one (by norm_num)]
    exact_mod_cast Nat.mod_lt W (by omega)
  -- The whole seconds and the decimals of the number that is printed.
  have hpow : 0 < 10 ^ n := by positivity
  have hdecimals := fractionalPartAsString_eq hfract0 hfract1 hn
  have hdiv : printedSeconds n W / 10 ^ n = W / 10 ^ 6 := by
    rw [printedSeconds, Nat.mul_comm, Nat.mul_add_div hpow, Nat.div_eq_of_lt (Nat.mod_lt _ hpow),
      Nat.add_zero]
  have hmod : lastDigits n (printedSeconds n W) =
      lastDigits n (roundHalfUp ((W % 10 ^ 6 : ℕ) / 1000000 * 10 ^ (n + 1)) / 10) := by
    rw [← lastDigits_mod, printedSeconds, Nat.mul_add_mod_self_right, Nat.mod_mod, lastDigits_mod]
  unfold toWgs84
  rw [hparts]
  rw [if_neg (by omega), DegMinSecFractionalSec.fractionalSecAsString, hdecimals, ← hmod, wgsText,
    digitsText, hdiv]
  simp only [QString.join, List.intercalate_cons_cons, List.append_assoc]
  rfl

/-! ## Reading -/

section Rx

variable {c : Char} {s digits decimals : List Char}

theorem attempts_sign (hsign : (decide (c = '+' ∨ c = '-')) = false) :
    (Regex.opt (.char fun c => c = '+' || c = '-') : Regex Empty).attempts (c :: s) =
      [([], c :: s)] := by
  change (Regex.char _).attempts (c :: s) ++ [([], c :: s)] = _
  rw [Regex.attempts_char_of_not (by simpa using hsign), List.nil_append]

/-- Only a sign or a digit begins a number. -/
theorem attempts_rx (hdigit : c.isDigit = false) (hsign : (decide (c = '+' ∨ c = '-')) = false) :
    rx.attempts (c :: s) = [] := by
  refine Regex.attempts_seq_of_right fun m hm => ?_
  rw [attempts_sign hsign, List.mem_singleton] at hm
  rw [hm]
  exact Regex.attempts_seq_of_left (Regex.attempts_plus_of_not hdigit)

theorem first_rx {rest : List Char} (hne : digits ≠ []) (hdigits : ∀ c ∈ digits, c.isDigit = true)
    (hrest : (Regex.plus Char.isDigit ++ .opt (.char (· == '.') ++ .plus Char.isDigit) :
      Regex Empty).first (digits ++ s) = some ([], rest)) :
    rx.first (digits ++ s) = some ([], rest) := by
  rcases List.exists_cons_of_ne_nil hne with ⟨a, as, rfl⟩
  have hsign : (decide (a = '+' ∨ a = '-')) = false := by
    rw [decide_eq_false_iff_not]
    rintro (rfl | rfl) <;> exact absurd (hdigits _ List.mem_cons_self) (by decide)
  exact Regex.first_seq (Regex.first_of_attempts (attempts_sign hsign)) hrest

/-- A whole number ends where no digit and no point follows. -/
theorem first_rx_whole (hne : digits ≠ []) (hdigits : ∀ c ∈ digits, c.isDigit = true)
    (hc : c.isDigit = false) (hpoint : (c == '.') = false) :
    rx.first (digits ++ c :: s) = some ([], c :: s) := by
  refine first_rx hne hdigits (Regex.first_seq (c := []) (Regex.first_plus hne hdigits ?_)
    (Regex.first_opt_skip (Regex.attempts_seq_of_left (Regex.attempts_char_of_not hpoint))))
  rintro a ⟨⟩
  exact hc

/-- A number with decimals ends where no digit follows. -/
theorem first_rx_decimals (hne : digits ≠ []) (hdigits : ∀ c ∈ digits, c.isDigit = true)
    (hne' : decimals ≠ []) (hdecimals : ∀ c ∈ decimals, c.isDigit = true) (hc : c.isDigit = false) :
    rx.first (digits ++ '.' :: (decimals ++ c :: s)) = some ([], c :: s) := by
  have hpoint : (Regex.char (· == '.') ++ Regex.plus Char.isDigit : Regex Empty).first
      ('.' :: (decimals ++ c :: s)) = some ([], c :: s) := by
    refine Regex.first_seq (c := []) (Regex.first_char rfl) (Regex.first_plus hne' hdecimals ?_)
    rintro a ⟨⟩
    exact hc
  refine first_rx hne hdigits (Regex.first_seq (c := []) (Regex.first_plus hne hdigits ?_)
    (Regex.first_opt hpoint))
  rintro a ⟨⟩
  decide

end Rx

/-- The characters of a text but the blanks and the letter. -/
def isMark (c : Char) : Bool :=
  c.isDigit || c == '.' || c == '°' || c == '\'' || c == '\"'

theorem isDigit_of_mem_natText {n : ℕ} {c : Char} (hc : c ∈ natText 10 n) : c.isDigit = true := by
  rcases (natText_spec (by omega) (by omega) n).1 c hc with ⟨d, hd, rfl⟩
  exact isDigit_digitChar hd

theorem isDigit_of_mem_lastDigits {p n : ℕ} {c : Char} (hc : c ∈ lastDigits p n) :
    c.isDigit = true := by
  rcases mem_lastDigits hc with ⟨d, hd, rfl⟩
  exact isDigit_digitChar hd

/-- The three numbers of a text. -/
theorem globalMatch_wgsText {D P n k : ℕ} {pn : Char} (hn : 0 < n)
    (hpn : pn.isDigit = false ∧ decide (pn = '+' ∨ pn = '-') = false) :
    rx.globalMatch (wgsText D P n k pn) = [natText 10 D, natText 10 P, digitsText n k] := by
  have hwhole : ∀ (m : ℕ) {mark : Char} (s : QString), mark.isDigit = false →
      (mark == '.') = false → rx.first (natText 10 m ++ mark :: s) = some ([], mark :: s) :=
    fun m _ s => first_rx_whole (natText_ne_nil 10 m) (fun c hc => isDigit_of_mem_natText hc)
  have hdecimals : ∀ s, rx.first (digitsText n k ++ '\"' :: s) = some ([], '\"' :: s) := by
    intro s
    have hne : lastDigits n k ≠ [] := by
      rw [← List.length_pos_iff, length_lastDigits]
      exact hn
    rw [digitsText, List.append_assoc]
    exact first_rx_decimals (natText_ne_nil 10 (k / 10 ^ n))
      (fun c hc => isDigit_of_mem_natText hc) hne (fun c hc => isDigit_of_mem_lastDigits hc) rfl
  have hseconds : digitsText n k ≠ [] := List.append_ne_nil_of_left_ne_nil (natText_ne_nil 10 _) _
  -- Between the numbers there are two characters which begin none.
  rw [wgsText_eq, Regex.globalMatch_append (natText_ne_nil 10 D) (hwhole D _ rfl rfl),
    Regex.globalMatch_cons (attempts_rx rfl rfl), Regex.globalMatch_cons (attempts_rx rfl rfl),
    Regex.globalMatch_append (natText_ne_nil 10 P) (hwhole P _ rfl rfl),
    Regex.globalMatch_cons (attempts_rx rfl rfl), Regex.globalMatch_cons (attempts_rx rfl rfl),
    Regex.globalMatch_append hseconds (hdecimals _), Regex.globalMatch_cons (attempts_rx rfl rfl),
    Regex.globalMatch_cons (attempts_rx rfl rfl), Regex.globalMatch_cons (attempts_rx hpn.1 hpn.2)]
  rfl

theorem isMark_spec {c : Char} (h : isMark c = true) :
    QString.isSpace c = false ∧ c.toLower ≠ 's' ∧ c.toLower ≠ 'w' := by
  have hall : ∀ d < 10, QString.isSpace (Nat.digitChar d) = false ∧
      (Nat.digitChar d).toLower ≠ 's' ∧ (Nat.digitChar d).toLower ≠ 'w' := by decide
  simp only [isMark, Bool.or_eq_true, beq_iff_eq] at h
  rcases h with (((hdigit | rfl) | rfl) | rfl) | rfl
  · rcases digitChar_of_isDigit hdigit with ⟨hlt, hchar⟩
    rw [hchar]
    exact hall _ hlt
  all_goals decide

theorem isMark_of_isDigit {c : Char} (h : c.isDigit = true) : isMark c = true := by
  simp [isMark, h]

section Text

variable {D P n k : ℕ} {pn : Char}

/-- The words of a text in front of the letter. -/
theorem isMark_of_mem {w : QString} {c : Char}
    (hw : w ∈ [natText 10 D ++ ['°'], natText 10 P ++ ['\''], digitsText n k ++ ['\"']])
    (hc : c ∈ w) : isMark c = true := by
  simp only [List.mem_cons, List.not_mem_nil, or_false] at hw
  rcases hw with rfl | rfl | rfl
  · rcases List.mem_append.mp hc with hc | hc
    · exact isMark_of_isDigit (isDigit_of_mem_natText hc)
    · rw [List.mem_singleton.mp hc]
      rfl
  · rcases List.mem_append.mp hc with hc | hc
    · exact isMark_of_isDigit (isDigit_of_mem_natText hc)
    · rw [List.mem_singleton.mp hc]
      rfl
  · rcases List.mem_append.mp hc with hc | hc
    · rcases List.mem_append.mp hc with hc | hc
      · exact isMark_of_isDigit (isDigit_of_mem_natText hc)
      · rcases List.mem_cons.mp hc with rfl | hc
        · rfl
        · exact isMark_of_isDigit (isDigit_of_mem_lastDigits hc)
    · rw [List.mem_singleton.mp hc]
      rfl

variable (D P n k pn) in
theorem getLast?_wgsText : (wgsText D P n k pn).getLast? = some pn := by
  rw [wgsText_eq]
  simp [List.getLast?_cons]

theorem head?_wgsText : ∀ c ∈ (wgsText D P n k pn).head?, c.isDigit = true := by
  intro c hc
  rcases List.exists_cons_of_ne_nil (natText_ne_nil 10 D) with ⟨a, as, htext⟩
  rw [wgsText_eq, htext, List.cons_append, List.head?_cons, Option.mem_some_iff] at hc
  rw [← hc]
  exact isDigit_of_mem_natText (htext ▸ List.mem_cons_self)

theorem trimmed_wgsText (hpn : QString.isSpace pn = false) :
    (wgsText D P n k pn).trimmed = wgsText D P n k pn := by
  refine QString.trimmed_of_edges (fun c hc => ?_) (fun c hc => ?_)
  · exact (isMark_spec (isMark_of_isDigit (head?_wgsText c hc))).1
  · rw [getLast?_wgsText D P n k pn, Option.mem_some_iff] at hc
    rw [← hc, hpn]

/-- A text has no blanks that are left out. -/
theorem simplified_wgsText (hpn : QString.isSpace pn = false) :
    (wgsText D P n k pn).simplified.trimmed = wgsText D P n k pn := by
  have hspace : ∀ w ∈ [natText 10 D ++ ['°'], natText 10 P ++ ['\''], digitsText n k ++ ['\"'],
      [pn]], ∀ c ∈ w, QString.isSpace c = false := by
    intro w hw c hc
    rcases List.mem_append.mp (show w ∈ [_, _, _] ++ [[pn]] from hw) with hw | hw
    · exact (isMark_spec (isMark_of_mem hw hc)).1
    · rw [List.mem_singleton.mp hw, List.mem_singleton] at hc
      rw [hc, hpn]
  have hne : ∀ w ∈ [natText 10 D ++ ['°'], natText 10 P ++ ['\''], digitsText n k ++ ['\"'],
      [pn]], w ≠ [] := by
    simp only [List.mem_cons, List.not_mem_nil, or_false]
    rintro w (rfl | rfl | rfl | rfl)
    · exact List.concat_ne_nil _ _
    · exact List.concat_ne_nil _ _
    · exact List.concat_ne_nil _ _
    · exact List.cons_ne_nil _ _
  have hsimplified : (wgsText D P n k pn).simplified = wgsText D P n k pn :=
    QString.simplified_join hne hspace
  rw [hsimplified, trimmed_wgsText hpn]

/-- A degree sign is in no number. -/
theorem toDouble?_wgsText (hpn : QString.isSpace pn = false) :
    (wgsText D P n k pn).toDouble? = none := by
  have hdigits : ∀ c ∈ natText 10 D, (!(c == 'e' || c == 'E')) = true := by
    have hall : ∀ d < 10, (!(Nat.digitChar d == 'e' || Nat.digitChar d == 'E')) = true := by decide
    intro c hc
    rcases (natText_spec (by decide) (by decide) D).1 c hc with ⟨d, hd, rfl⟩
    exact hall d hd
  have hhead : ∀ c ∈ (wgsText D P n k pn).head?, c ≠ '-' ∧ c ≠ '+' := by
    intro c hc
    have hdigit := head?_wgsText c hc
    constructor <;> (rintro rfl; exact absurd hdigit (by decide))
  have hmantissa : readMantissa ((wgsText D P n k pn).takeWhile fun c => !(c == 'e' || c == 'E')) =
      none := by
    refine readMantissa_eq_none (c := '°') ?_ (by decide) (by decide)
    rw [wgsText_eq, List.takeWhile_append_of_pos hdigits]
    exact List.mem_append_right _ List.mem_cons_self
  rw [QString.toDouble?, trimmed_wgsText hpn, readRat_of_head hhead]
  unfold readUnsignedRat
  dsimp only
  rw [hmantissa]
  split <;> rfl

theorem mem_wgsText {c : Char} (hc : c ∈ wgsText D P n k pn) :
    c = ' ' ∨ c = pn ∨ isMark c = true := by
  rcases QString.mem_join hc with hblank | ⟨w, hw, hc⟩
  · exact .inl (List.mem_singleton.mp hblank)
  · rcases List.mem_append.mp (show w ∈ [_, _, _] ++ [[pn]] from hw) with hw | hw
    · exact .inr (.inr (isMark_of_mem hw hc))
    · rw [List.mem_singleton.mp hw] at hc
      exact .inr (.inl (List.mem_singleton.mp hc))

/-- Only the letter can be one of those that are searched. -/
theorem containsCaseless_wgsText {c : Char} (hc : c.toLower = 's' ∨ c.toLower = 'w') :
    (wgsText D P n k pn).containsCaseless [c] = decide (pn.toLower = c.toLower) := by
  by_cases hpn : pn.toLower = c.toLower
  · have hmem : c.toLower ∈ (wgsText D P n k pn).map Char.toLower :=
      List.mem_map.mpr ⟨pn, List.mem_of_getLast? (getLast?_wgsText D P n k pn), hpn⟩
    rw [decide_eq_true hpn]
    exact QString.contains_eq_true_iff.mpr ((List.singleton_infix_iff _ _).mpr hmem)
  · rw [decide_eq_false hpn]
    refine QString.containsCaseless_eq_false (List.mem_singleton_self _) fun d hd => ?_
    rcases mem_wgsText hd with rfl | rfl | hmark
    · rcases hc with hc | hc <;> rw [hc] <;> decide
    · exact hpn
    · rcases hc with hc | hc <;> rw [hc]
      · exact (isMark_spec hmark).2.1
      · exact (isMark_spec hmark).2.2

/-- A text does not end with the name of a unit. -/
theorem endsStringWithNameOrSymbol_wgsText {unit : CMeasurementUnit}
    (hpn : QString.isSpace pn = false) (hname : unit.name.getLast?.all (· != pn) = true)
    (hsymbol : unit.symbol.getLast?.all (· != pn) = true) (hne : unit.name ≠ [])
    (hne' : unit.symbol ≠ []) : unit.endsStringWithNameOrSymbol (wgsText D P n k pn) = false := by
  have hend : ∀ {part : QString}, part.getLast?.all (· != pn) = true → part ≠ [] →
      part.isSuffixOf (wgsText D P n k pn) = false := by
    intro part hpart hne
    rw [Bool.eq_false_iff]
    intro hsuffix
    rcases List.isSuffixOf_iff_suffix.mp hsuffix with ⟨front, hfront⟩
    have hlast : part.getLast? = some pn := by
      have hletter := getLast?_wgsText D P n k pn
      rw [← hfront, List.getLast?_append_of_ne_nil _ hne] at hletter
      exact hletter
    rw [hlast, Option.all_some, bne_self_eq_false] at hpart
    exact Bool.false_ne_true hpart
  unfold CMeasurementUnit.endsStringWithNameOrSymbol
  dsimp only
  rw [trimmed_wgsText hpn, hend hname hne, hend hsymbol hne', Bool.or_false]

end Text

theorem toDouble_digitsText (n k : ℕ) : (digitsText n k).toDouble = k / 10 ^ n := by
  have hchars : ∀ c ∈ digitsText n k, c = '.' ∨ ∃ d < 10, c = Nat.digitChar d := by
    intro c hc
    rcases List.mem_append.mp hc with hc | hc
    · exact .inr ((natText_spec (by omega) (by omega) _).1 c hc)
    · rcases List.mem_cons.mp hc with rfl | hc
      · exact .inl rfl
      · exact .inr (mem_lastDigits hc)
  have hsigns : ∀ c ∈ (digitsText n k).head?, c ≠ '-' ∧ c ≠ '+' := by
    intro c hc
    rcases hchars c (List.mem_of_mem_head? hc) with rfl | ⟨d, hd, rfl⟩
    · decide
    · exact ⟨(digitChar_ne_sign (by omega)).1, (digitChar_ne_sign (by omega)).2.1⟩
  have htrim : (digitsText n k).trimmed = digitsText n k := by
    refine QString.trimmed_of_no_space fun c hc => ?_
    rcases hchars c hc with rfl | ⟨d, hd, rfl⟩
    · decide
    · exact QString.isSpace_digitChar (by omega)
  rw [QString.toDouble, QString.toDouble?, htrim, readRat_of_head hsigns,
    readUnsignedRat_of_digits hchars, digitsText, readMantissa_digits, Option.getD_some]

theorem toInt_natText {n : ℕ} (hn : n ≤ 2147483647) : (QString.toInt (natText 10 n)).toInt = n :=
  CAngle.toInt_digits (readNat_natText (by omega) (by omega) n)
    (natText_spec (by omega) (by omega) n).1 hn

/-- The numbers of a text are read, with the sign of the hemisphere. -/
theorem fromWgs84_wgsText (parseFromString : QString → CAngle) {D P n k : ℕ} {pn : Char}
    (hn : 0 < n) (hD : D ≤ 2147483647) (hP : P ≤ 2147483647) (hpn : pn ∈ ['N', 'S', 'E', 'W']) :
    fromWgs84 parseFromString (wgsText D P n k pn) =
      if pn = 'S' ∨ pn = 'W' then .ofDegMinSec (-D) (-P) (-(k / 10 ^ n))
      else .ofDegMinSec D P (k / 10 ^ n) := by
  -- Each of the letters is read back, and is neither a digit nor a part of a unit.
  have hletter : QString.isSpace pn = false ∧ pn.isDigit = false ∧
      decide (pn = '+' ∨ pn = '-') = false ∧
      CAngleUnit.Units.deg.endsStringWithNameOrSymbol (wgsText D P n k pn) = false ∧
      CAngleUnit.Units.rad.endsStringWithNameOrSymbol (wgsText D P n k pn) = false ∧
      (decide (pn.toLower = 'S'.toLower) || decide (pn.toLower = 'W'.toLower)) =
        decide (pn = 'S' ∨ pn = 'W') := by
    have hne : CAngleUnit.Units.deg.name ≠ [] ∧ CAngleUnit.Units.deg.symbol ≠ [] ∧
        CAngleUnit.Units.rad.name ≠ [] ∧ CAngleUnit.Units.rad.symbol ≠ [] := by decide
    simp only [List.mem_cons, List.not_mem_nil, or_false] at hpn
    rcases hpn with rfl | rfl | rfl | rfl
    all_goals exact ⟨rfl, rfl, rfl,
      endsStringWithNameOrSymbol_wgsText rfl rfl rfl hne.1 hne.2.1,
      endsStringWithNameOrSymbol_wgsText rfl rfl rfl hne.2.2.1 hne.2.2.2, by decide⟩
  rcases hletter with ⟨hspace, hdigit, hsign, hdeg, hrad, hhemisphere⟩
  have hne : wgsText D P n k pn ≠ [] := by
    intro h
    have hlast := getLast?_wgsText D P n k pn
    rw [h] at hlast
    exact Option.some_ne_none pn hlast.symm
  unfold fromWgs84
  rw [simplified_wgsText hspace, if_neg hne, hdeg, hrad, toDouble?_wgsText hspace]
  -- The numbers are found in order: degrees, minutes, seconds with their decimals.
  rw [globalMatch_wgsText hn ⟨hdigit, hsign⟩, containsCaseless_wgsText (.inl rfl),
    containsCaseless_wgsText (.inr rfl), hhemisphere]
  simp [toInt_natText hD, toInt_natText hP, toDouble_digitsText]

end CEarthAngle

end Geo

end NeoSwift
