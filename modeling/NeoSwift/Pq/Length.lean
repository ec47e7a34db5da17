import NeoSwift.Qt.Text

/-!
# Lengths

`CLength` with its units, and `CPqString`, which reads a length from a number and
the symbol of a unit. A length without a unit is null. Numbers are exact.

How the locale of the system reads a number is a parameter.

## Main definitions

* `CLengthUnit`, `CLength`: Units and lengths.
* `CLength.valueIn`, `CLength.valueInteger`: The value in a unit.
* `CPqString.parse`: A length from its text.

## Theorems

* `qRound_intCast`, `abs_qRound_sub_le`, `le_qRound`: Rounding.
* `parse_feet`: Feet are read as they are written.
* `parse_digits`: Without a unit nothing is read.
-/

namespace NeoSwift

theorem qRound_intCast (n : ℤ) : qRound n = n := by
  unfold qRound
  split
  · norm_num
  · rw [← Int.cast_neg, Int.floor_intCast_add]
    norm_num

/-- A rounded number is at most a half away. -/
theorem abs_qRound_sub_le (x : ℚ) : |(qRound x : ℚ) - x| ≤ 1 / 2 := by
  unfold qRound
  split
  · have hlo := Int.sub_one_lt_floor (x + 1 / 2)
    have hhi := Int.floor_le (x + 1 / 2)
    rw [abs_le]
    constructor <;> linarith
  · have hlo := Int.sub_one_lt_floor (-x + 1 / 2)
    have hhi := Int.floor_le (-x + 1 / 2)
    rw [abs_le]
    push_cast
    constructor <;> linarith

theorem qRound_nonneg {x : ℚ} (h : -1 / 2 < x) : 0 ≤ qRound x := by
  have hround := (abs_le.mp (abs_qRound_sub_le x)).1
  have hlow : (-1 : ℚ) < (qRound x : ℚ) := by linarith
  have hint : -1 < qRound x := by exact_mod_cast hlow
  omega

/-- Rounding reaches a number from half below it. -/
theorem le_qRound {x : ℚ} {n : ℤ} (hn : 0 < n) : n ≤ qRound x ↔ n - 1 / 2 ≤ x := by
  have hcast : (1 : ℚ) ≤ n := by exact_mod_cast hn
  unfold qRound
  split
  · rw [Int.le_floor]
    constructor <;> intro h <;> linarith
  · have hfloor : 0 ≤ ⌊-x + 1 / 2⌋ := Int.floor_nonneg.mpr (by linarith)
    constructor
    · intro h
      omega
    · intro h
      linarith

namespace Pq

/-- `CLengthUnit`. -/
inductive CLengthUnit where
  | null | cm | ft | km | m | mi | sm | nm
  deriving DecidableEq

namespace CLengthUnit

/-- As the source lists them. -/
def allUnits : List CLengthUnit := [.null, .cm, .ft, .km, .m, .mi, .sm, .nm]

/-- As it is parsed and printed. -/
def getSymbol : CLengthUnit → QString
  | .null => "null".toList
  | .cm => "cm".toList
  | .ft => "ft".toList
  | .km => "km".toList
  | .m => "m".toList
  | .mi => "mi".toList
  | .sm => "SM".toList
  | .nm => "NM".toList

/-- The meters of one unit. -/
def factor : CLengthUnit → ℚ
  | .null => 0
  | .cm => 1 / 100
  | .ft => 3048 / 10000
  | .km => 1000
  | .m => 1
  | .mi => 1609344 / 1000
  | .sm => 16093472 / 10000
  | .nm => 1852

/-- What counts as equal. -/
def getEpsilon : CLengthUnit → ℚ
  | .null => 0
  | _ => 1 / 1000000000

theorem getEpsilon_le (unit : CLengthUnit) : unit.getEpsilon ≤ 1 / 1000000000 := by
  cases unit <;> norm_num [getEpsilon]

/-- From one unit to another one. -/
def convertFrom (unit : CLengthUnit) (value : ℚ) (other : CLengthUnit) : ℚ :=
  if unit = .null ∨ other = .null then 0
  else if unit = other then value
  else value * other.factor / unit.factor

/-- With `qFuzzyIsNull`. -/
def isEpsilon (unit : CLengthUnit) (value : ℚ) : Bool :=
  unit ≠ .null && (|value| ≤ 1 / 1000000000000 || |value| ≤ unit.getEpsilon)

/-- `unitFromSymbol`, where the symbols differ in more than case. -/
def unitFromSymbol (symbol : QString) : Option CLengthUnit :=
  allUnits.find? (fun unit => unit.getSymbol.map Char.toLower = symbol.map Char.toLower)

end CLengthUnit

/-- A value with a unit. -/
structure CLength where
  m_value : ℚ
  unit : CLengthUnit
  deriving DecidableEq

namespace CLength

/-- The constructor. -/
def create (value : ℚ) (unit : CLengthUnit) : CLength :=
  ⟨if unit = .null then 0 else value, unit⟩

def null : CLength := create 0 .null

variable (l : CLength)

/-- Without a unit. -/
def isNull : Bool := l.unit = .null

/-- `value()`. -/
def value : ℚ := if l.isNull then 0 else l.m_value

/-- `value(unit)`. -/
def valueIn (unit : CLengthUnit) : ℚ := unit.convertFrom l.m_value l.unit

/-- Rounded in the unit. -/
def valueInteger (unit : CLengthUnit) : ℤ := qRound (l.valueIn unit)

def valueIntegerAsString (unit : CLengthUnit) : QString :=
  QString.number (l.valueInteger unit)

/-- Next to a whole number. -/
def isInteger : Bool :=
  !l.isNull && |l.value - l.valueInteger l.unit| ≤ l.unit.getEpsilon

def isZeroEpsilonConsidered : Bool := l.unit.isEpsilon l.m_value

/-- `operator==`. -/
def equals (l other : CLength) : Bool :=
  if l.isNull then other.isNull
  else if other.isNull then false
  else |l.m_value - other.valueIn l.unit| ≤ l.unit.getEpsilon

def isNegativeWithEpsilonConsidered : Bool :=
  !l.unit.isEpsilon l.m_value && l.m_value < 0

def isPositiveWithEpsilonConsidered : Bool :=
  !l.unit.isEpsilon l.m_value && 0 < l.m_value

/-- The same length in another unit. -/
def switchedUnit (newUnit : CLengthUnit) : CLength :=
  if l.unit = newUnit ∨ l.isNull then l
  else if newUnit = .null then null
  else ⟨newUnit.convertFrom l.m_value l.unit, newUnit⟩

/-- The operators keep the unit of the left side, which may be null. -/
instance : Add CLength := ⟨fun l other => { l with m_value := l.m_value + other.valueIn l.unit }⟩

instance : Sub CLength := ⟨fun l other => { l with m_value := l.m_value - other.valueIn l.unit }⟩

instance : HMul CLength ℚ CLength := ⟨fun l factor => { l with m_value := l.m_value * factor }⟩

/-- `abs`. -/
def magnitude : CLength :=
  if l.isNull || (|l.m_value| ≤ 1 / 1000000000000 : Bool) || (0 ≤ l.m_value : Bool) then l
  else { l with m_value := -l.m_value }

/-- Null is behind all others. -/
def lessThan (l other : CLength) : Bool :=
  if l.equals other then false
  else if l.isNull || other.isNull then !l.isNull
  else l.m_value < other.valueIn l.unit

theorem isNull_iff {l : CLength} : l.isNull = true ↔ l.unit = .null := by
  unfold isNull
  rw [decide_eq_true_eq]

end CLength

namespace CPqString

/-- Which separators of decimals are tried. -/
inductive SeparatorMode where
  | locale | qtDefault | bestGuess
  deriving DecidableEq

variable (systemToDouble : QString → Option ℚ)

/-- By the separators. -/
def parseNumber (number : QString) : SeparatorMode → Option ℚ
  | .locale => systemToDouble number
  | .qtDefault => number.toDouble?
  | .bestGuess => number.toDouble?.or (systemToDouble number)

/-- `([-+]?[0-9]*[\.,]?[0-9]+)\s*(\D*)$` matches where there is a digit. The second
    group is what is behind the last one. -/
def capturedUnit (value : QString) : Option QString :=
  if value.any Char.isDigit then
    some (QString.trimmed (value.reverse.takeWhile (fun c => !c.isDigit)).reverse)
  else none

/-- `parseToVariant`, as far as it gives a length: no other quantity has a unit with
    the symbol of one. -/
def parseToVariant (value : QString) (mode : SeparatorMode) : Option CLength :=
  if value.trimmed.simplified = [] then none
  else
    (capturedUnit value).bind fun unit =>
      let number := value.remove unit
      if unit = [] ∨ number = [] then none
      else
        (parseNumber systemToDouble number mode).bind fun numberD =>
          (CLengthUnit.unitFromSymbol unit).map (CLength.create numberD)

/-- `parse<CLength>`. -/
def parse (value : QString) (mode : SeparatorMode) : CLength :=
  if value = [] then CLength.null
  else if value.containsCaseless "null".toList then CLength.null
  else (parseToVariant systemToDouble value mode).getD CLength.null

theorem toLower_digitChar {d : ℕ} (h : d < 10) : (Nat.digitChar d).toLower = Nat.digitChar d := by
  have hall : ∀ d < 10, (Nat.digitChar d).toLower = Nat.digitChar d := by decide
  exact hall d h

/-- A letter that neither is a digit nor stands behind the digits is not in a text. -/
theorem toLower_ne_of_digits {digits rest : QString} {c : Char}
    (hdigits : ∀ c ∈ digits, ∃ d < 10, c = Nat.digitChar d) (hc : c.isDigit = false)
    (hrest : c ∉ rest.map Char.toLower) : ∀ e ∈ digits ++ rest, e.toLower ≠ c := by
  intro e he
  rcases List.mem_append.mp he with hdigit | hmem
  · rcases hdigits e hdigit with ⟨d, hd, rfl⟩
    rw [toLower_digitChar hd]
    rintro rfl
    exact absurd (Numeral.isDigit_digitChar hd) (by rw [hc]; exact Bool.false_ne_true)
  · exact fun heq => hrest (List.mem_map.mpr ⟨e, hmem, heq⟩)

theorem isSpace_of_digits {digits : QString} (rest : QString)
    (hdigits : ∀ c ∈ digits, ∃ d < 10, c = Nat.digitChar d)
    (hrest : rest.any QString.isSpace = false) :
    ∀ c ∈ digits ++ rest, QString.isSpace c = false := by
  intro c hc
  rcases List.mem_append.mp hc with hdigit | hmem
  · rcases hdigits c hdigit with ⟨d, hd, rfl⟩
    exact QString.isSpace_digitChar (by omega)
  · exact Bool.eq_false_iff.mpr (List.any_eq_false.mp hrest c hmem)

theorem mem_number (n : ℕ) : ∀ c ∈ QString.number n, ∃ d < 10, c = Nat.digitChar d := by
  exact (Numeral.natText_spec (by omega) (by omega) n).1

/-- Behind a digit there is no unit. -/
theorem parse_digits (mode : SeparatorMode) {value digits : QString} (hne : digits ≠ [])
    (hdigits : ∀ c ∈ digits, c.isDigit = true) (hsuffix : digits <:+ value) :
    parse systemToDouble value mode = CLength.null := by
  -- The unit is what is behind the last digit.
  have hcaptured : capturedUnit value = none ∨ capturedUnit value = some [] := by
    rcases List.eq_nil_or_concat digits with rfl | ⟨front, c, rfl⟩
    · exact absurd rfl hne
    · rcases hsuffix with ⟨start, rfl⟩
      have hc : c.isDigit = true := hdigits c (by simp)
      unfold capturedUnit
      split
      · right
        rw [List.concat_eq_append, ← List.append_assoc, List.reverse_append, List.reverse_singleton,
          List.singleton_append, List.takeWhile_cons_of_neg (by simp [hc])]
        rfl
      · exact .inl rfl
  have hvariant : parseToVariant systemToDouble value mode = none := by
    unfold parseToVariant
    split
    · rfl
    · rcases hcaptured with h | h
      · rw [h, Option.bind_none]
      · rw [h, Option.bind_some]
        exact if_pos (.inl rfl)
  unfold parse
  split
  · rfl
  · split
    · rfl
    · rw [hvariant, Option.getD_none]

/-- The unit is what is behind the last digit. -/
theorem capturedUnit_feet {digits : QString} (hne : digits ≠ [])
    (hdigits : ∀ c ∈ digits, c.isDigit = true) :
    capturedUnit (digits ++ "ft".toList) = some "ft".toList := by
  rcases List.eq_nil_or_concat digits with rfl | ⟨front, c, rfl⟩
  · exact absurd rfl hne
  · have hc : c.isDigit = true := hdigits c (by simp)
    have hany : (front.concat c ++ "ft".toList).any Char.isDigit = true :=
      List.any_eq_true.mpr ⟨c, by simp, hc⟩
    rw [capturedUnit, if_pos hany, List.concat_eq_append, List.reverse_append, List.reverse_append]
    have hback : (("ft".toList.reverse ++ ([c].reverse ++ front.reverse)).takeWhile
        (fun c => !c.isDigit)) = ['t', 'f'] := by
      change List.takeWhile _ ('t' :: 'f' :: c :: front.reverse) = _
      rw [List.takeWhile_cons_of_pos (by decide), List.takeWhile_cons_of_pos (by decide),
        List.takeWhile_cons_of_neg (by simp [hc])]
    rw [hback]
    decide

/-- Feet are read as they are written. -/
theorem parse_feet (n : ℕ) :
    parse systemToDouble (QString.number n ++ "ft".toList) .bestGuess = ⟨n, .ft⟩ := by
  have hdigits := mem_number n
  have hne : QString.number n ≠ [] := by
    exact Numeral.natText_ne_nil 10 n
  have hisDigit : ∀ c ∈ QString.number n, c.isDigit = true := by
    intro c hc
    rcases hdigits c hc with ⟨d, hd, rfl⟩
    exact Numeral.isDigit_digitChar hd
  have hnull : (QString.number n ++ "ft".toList).containsCaseless "null".toList = false :=
    QString.containsCaseless_eq_false (c := 'l') (by decide)
      (toLower_ne_of_digits hdigits rfl (by decide))
  have hspace := isSpace_of_digits "ft".toList hdigits (by decide)
  have hsimplified : (QString.number n ++ "ft".toList).trimmed.simplified ≠ [] := by
    rw [QString.trimmed_of_no_space hspace, QString.simplified_of_no_space hspace]
    exact List.append_ne_nil_of_left_ne_nil hne _
  -- The unit is removed wherever it stands, and a number has no `f`.
  have hremove : (QString.number n ++ "ft".toList).remove "ft".toList = QString.number n :=
    QString.remove_append "t".toList (fun hf => by
      rcases hdigits _ hf with ⟨d, hd, heq⟩
      have hall : ∀ d < 10, 'f' ≠ Nat.digitChar d := by decide
      exact hall d hd heq)
  have hdouble : (QString.number n).toDouble? = some (n : ℚ) := QString.toDouble?_number n
  rw [parse, if_neg (List.append_ne_nil_of_left_ne_nil hne _), hnull, if_neg Bool.false_ne_true,
    parseToVariant, if_neg hsimplified, capturedUnit_feet hne hisDigit, Option.bind_some, hremove,
    if_neg (by simp only [hne, or_false]; decide), parseNumber, hdouble, Option.some_or]
  rfl

end CPqString

end Pq

end NeoSwift
