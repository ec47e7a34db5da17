import NeoSwift.Lib.Significand
import NeoSwift.Misc.JsonConversion
import NeoSwift.Qt.DateTime
import NeoSwift.Qt.Encoding

/-!
# Variants

`CVariant` with its conversions to and from JSON, for the types of their switches. Settings and
caches are stored with them.

A value goes through a number, a text or an array of JSON. Integers of 64 bits come back through
a double, bytes are written from UTF-8 and read as Latin-1, and times are written to the second.
A `char` comes back as a `QChar`, which neither switch has.

Where a double is converted to an integer that is not one of the type, the behavior is undefined.

## Main definitions

* `CVariant`: Variants of these types.
* `CVariant.toJson`, `CVariant.convertFromJson`: The conversions.
* `CVariant.FitsJson`: The values that fit what they are written to.

## Theorems

* `toLongLong_toDouble_iff`, `toULongLong_toDouble_iff`: Integers that come back from a double.
* `convertFromJson_toJson_iff`: When a variant comes back from JSON.
* `values_are_lost`: Variants that do not.
-/

namespace NeoSwift

open Significand

/-! ## Doubles -/

/-- The double of a number in JSON, which is an integer or a double already. -/
def doubleOf (x : ℚ) : ℚ := if x.den = 1 then roundInt 53 x.num else x

theorem doubleOf_intCast (n : ℤ) : doubleOf n = roundInt 53 n := by
  unfold doubleOf
  rw [Rat.den_intCast, if_pos rfl, Rat.num_intCast]

theorem doubleOf_doubleOf (x : ℚ) : doubleOf (doubleOf x) = doubleOf x := by
  by_cases hint : x.den = 1
  · have hx : doubleOf x = (roundInt 53 x.num : ℤ) := if_pos hint
    rw [hx, doubleOf_intCast, roundInt_roundInt (by omega)]
  · have hx : doubleOf x = x := if_neg hint
    rw [hx, hx]

theorem doubleOf_zero : doubleOf 0 = 0 := by decide +kernel

/-- A finite double. -/
structure Double where
  value : ℚ
  exact : doubleOf value = value
  deriving DecidableEq

namespace QJsonValue

def toDouble : QJsonValue → Double
  | .double x => ⟨doubleOf x, doubleOf_doubleOf x⟩
  | _ => ⟨0, doubleOf_zero⟩

def toString : QJsonValue → QString
  | .string s => s
  | _ => []

def toArray : QJsonValue → List QJsonValue
  | .array values => values
  | _ => []

end QJsonValue

namespace Double

/-- The cast to `qlonglong`, if it is defined. -/
def toLongLong (d : Double) : Option Int64 :=
  let n := d.value.num.tdiv d.value.den
  if -2 ^ 63 ≤ n ∧ n < 2 ^ 63 then some (Int64.ofInt n) else none

/-- The cast to `qulonglong`, if it is defined. -/
def toULongLong (d : Double) : Option UInt64 :=
  let n := d.value.num.tdiv d.value.den
  if 0 ≤ n ∧ n < 2 ^ 64 then some (UInt64.ofNat n.toNat) else none

/-- An integer is cast to itself. -/
theorem toLongLong_of_int {d : Double} {k : ℤ} (h : d.value = k) :
    d.toLongLong = if -2 ^ 63 ≤ k ∧ k < 2 ^ 63 then some (Int64.ofInt k) else none := by
  unfold toLongLong
  rw [h, Rat.den_intCast, Rat.num_intCast, Nat.cast_one, Int.tdiv_one]

theorem toULongLong_of_int {d : Double} {k : ℤ} (h : d.value = k) :
    d.toULongLong = if 0 ≤ k ∧ k < 2 ^ 64 then some (UInt64.ofNat k.toNat) else none := by
  unfold toULongLong
  rw [h, Rat.den_intCast, Rat.num_intCast, Nat.cast_one, Int.tdiv_one]

end Double

theorem value_toDouble_int (n : ℤ) : (QJsonValue.double n).toDouble.value = roundInt 53 n :=
  doubleOf_intCast n

/-- A signed integer comes back from a double if and only if it has 53 bits in front of its
    zeros. -/
theorem toLongLong_toDouble_iff (n : Int64) :
    (QJsonValue.double n.toInt).toDouble.toLongLong = some n
      ↔ Representable 53 n.toInt.natAbs := by
  have hlo := n.le_toInt
  have hhi := n.toInt_lt
  rw [Double.toLongLong_of_int (value_toDouble_int _), ← roundInt_eq_self_iff]
  constructor
  · intro h
    split at h
    case isTrue hrange =>
      have hint := congrArg Int64.toInt (Option.some.inj h)
      rwa [Int64.toInt_ofInt_of_le hrange.1 hrange.2] at hint
    case isFalse => cases h
  · intro h
    rw [h, if_pos ⟨hlo, hhi⟩, Int64.ofInt_toInt]

/-- An unsigned integer is written as a signed one. If that is negative, the cast back is not
    defined. -/
theorem toULongLong_toDouble_iff (n : UInt64) :
    (QJsonValue.double n.toInt64.toInt).toDouble.toULongLong = some n
      ↔ n.toNat < 2 ^ 63 ∧ Representable 53 n.toNat := by
  have hbits : n.toInt64.toInt
      = if 2 * n.toNat < 2 ^ 64 then (n.toNat : ℤ) else (n.toNat : ℤ) - (2 ^ 64 : ℕ) :=
    BitVec.toInt_eq_toNat_cond n.toBitVec
  have hlt := n.toNat_lt
  rw [Double.toULongLong_of_int (value_toDouble_int _), hbits]
  -- Below half of the range the bits are the number itself.
  by_cases hsmall : n.toNat < 2 ^ 63
  · have hrepresentable : roundInt 53 (n.toNat : ℤ) = n.toNat ↔ Representable 53 n.toNat :=
      roundInt_eq_self_iff
    rw [if_pos (show 2 * n.toNat < 2 ^ 64 by omega), ← hrepresentable]
    constructor
    · intro h
      split at h
      case isTrue hrange =>
        have hnat := congrArg UInt64.toNat (Option.some.inj h)
        rw [UInt64.toNat_ofNat', Nat.mod_eq_of_lt (by omega)] at hnat
        exact ⟨hsmall, by omega⟩
      case isFalse => cases h
    · intro h
      rw [h.2, if_pos (by omega), Int.toNat_natCast, UInt64.ofNat_toNat]
  · -- Above it the number is written as a negative one.
    have hneg : roundInt 53 ((n.toNat : ℤ) - (2 ^ 64 : ℕ)) < 0 :=
      roundInt_neg (by omega) (by omega)
    rw [if_neg (show ¬ 2 * n.toNat < 2 ^ 64 by omega), if_neg (by omega)]
    exact iff_of_false nofun fun h => hsmall h.1

namespace Misc

/-! ## Types -/

/-- `QMetaType::Type`, as far as the switches have it, and `QChar`. -/
inductive QMetaType where
  | unknownType | int | uint | bool | double | longLong | uLongLong | qString | char | qChar
  | qByteArray | qDateTime | qDate | qTime | qStringList
  deriving DecidableEq

namespace QMetaType

/-- The types, `unknownType` apart. -/
def all : List QMetaType :=
  [.int, .uint, .bool, .double, .longLong, .uLongLong, .qString, .char, .qChar, .qByteArray,
    .qDateTime, .qDate, .qTime, .qStringList]

/-- The name Qt gives to the type. -/
def name : QMetaType → QString
  | .unknownType => []
  | .int => "int"
  | .uint => "uint"
  | .bool => "bool"
  | .double => "double"
  | .longLong => "qlonglong"
  | .uLongLong => "qulonglong"
  | .qString => "QString"
  | .char => "char"
  | .qChar => "QChar"
  | .qByteArray => "QByteArray"
  | .qDateTime => "QDateTime"
  | .qDate => "QDate"
  | .qTime => "QTime"
  | .qStringList => "QStringList"

/-- The type of a name. -/
def fromName (name : QString) : QMetaType :=
  (all.find? fun mt => mt.name = name).getD .unknownType

theorem fromName_name (mt : QMetaType) : fromName mt.name = mt := by
  cases mt <;> decide

end QMetaType

/-- `CVariant` of such a type. -/
inductive CVariant where
  | unknown
  | int (n : Int32)
  | uint (n : UInt32)
  | bool (b : Bool)
  | double (d : Double)
  | longLong (n : Int64)
  | uLongLong (n : UInt64)
  | qString (s : QString)
  | char (c : UInt8)
  | qChar (c : UInt16)
  | qByteArray (bytes : QByteArray)
  | qDateTime (dateTime : QDateTime)
  | qDate (date : QDate)
  | qTime (time : QTime)
  | qStringList (l : QStringList)
  deriving DecidableEq

/-- Of a date-time that is in UTC, the time zone is the one that is set. -/
def fromStringUtc (dateTimeString : QString) : QDateTime :=
  if dateTimeString.isEmpty then none else QDateTime.fromString dateTimeString

namespace CVariant

/-- The type of the value that is held. -/
def metaType : CVariant → QMetaType
  | .unknown => .unknownType
  | .int _ => .int
  | .uint _ => .uint
  | .bool _ => .bool
  | .double _ => .double
  | .longLong _ => .longLong
  | .uLongLong _ => .uLongLong
  | .qString _ => .qString
  | .char _ => .char
  | .qChar _ => .qChar
  | .qByteArray _ => .qByteArray
  | .qDateTime _ => .qDateTime
  | .qDate _ => .qDate
  | .qTime _ => .qTime
  | .qStringList _ => .qStringList

/-- What is written of a value. Unsigned integers are those of the same bits. -/
def jsonValue : CVariant → QJsonValue
  | .unknown => .double 0
  | .int n => .double n.toInt
  | .uint n => .double n.toInt32.toInt
  | .bool b => .bool b
  | .double d => .double d.value
  | .longLong n => .double n.toInt
  | .uLongLong n => .double n.toInt64.toInt
  | .qString s => .string s
  | .char c => .string (QString.fromLatin1 [c])
  | .qByteArray bytes => .string (QString.fromUtf8 bytes)
  | .qDateTime dateTime => .string dateTime.toString
  | .qDate date => .string date.toString
  | .qTime time => .string time.toString
  | .qStringList l => .array (l.map .string)
  -- A type that is not listed, of which there is a text. A surrogate alone is none here.
  | .qChar c => .string [Char.ofNat c.toNat]

/-- The name of the type, and the value. -/
def toJson (v : CVariant) : QJsonObject :=
  QJsonObject.insert (QJsonObject.insert [] "type" (.string v.metaType.name))
    "value" v.jsonValue

/-- The first UTF-16 code unit of a text. -/
def firstUnit : QString → UInt16
  | [] => 0
  | c :: _ =>
    if c.toNat < 0x10000 then UInt16.ofNat c.toNat
    else UInt16.ofNat (0xd800 + (c.toNat - 0x10000) / 0x400)

/-- `QVariant::toString` of a value of an array. The text of a number is a parameter. -/
def elementText (numberText : ℚ → QString) : QJsonValue → QString
  | .string s => s
  | .bool b => if b then "true" else "false"
  | .double x => numberText x
  | _ => []

/-- What is read of a value, none where the behavior is undefined. -/
def convertValue (numberText : ℚ → QString) (scopes : QStringList) (value : QJsonValue) :
    QMetaType → Option (Except CJsonException CVariant)
  | .unknownType =>
    some (.error ⟨"Type not recognized by QMetaType", stackString scopes⟩)
  | .int => some (.ok (.int value.toInt))
  | .uint => some (.ok (.uint value.toInt.toUInt32))
  | .bool => some (.ok (.bool value.toBool))
  | .double => some (.ok (.double value.toDouble))
  | .longLong => value.toDouble.toLongLong.map fun n => .ok (.longLong n)
  | .uLongLong => value.toDouble.toULongLong.map fun n => .ok (.uLongLong n)
  | .qString => some (.ok (.qString value.toString))
  | .char => some (.ok (.qChar (firstUnit value.toString)))
  | .qByteArray => some (.ok (.qByteArray (QString.toLatin1 value.toString)))
  | .qDateTime => some (.ok (.qDateTime (fromStringUtc value.toString)))
  | .qDate => some (.ok (.qDate (QDate.fromString value.toString)))
  | .qTime => some (.ok (.qTime (QTime.fromString value.toString)))
  | .qStringList => some (.ok (.qStringList (value.toArray.map (elementText numberText))))
  -- No value object, and no converter is registered.
  | .qChar =>
    some (.error ⟨"Type not supported by convertFromJson", stackString scopes⟩)

/-- Reads the type, then the value as that type reads it. -/
def convertFromJson (numberText : ℚ → QString) (json : QJsonObject) (scopes : QStringList) :
    Option (Except CJsonException CVariant) :=
  match json.value "type" with
  | none => some (.error ⟨"Missing 'type'", stackString scopes⟩)
  | some typeValue =>
    if typeValue.toString.isEmpty then some (.ok .unknown)
    else
      match json.value "value" with
      | none => some (.error ⟨"Missing 'value'", stackString scopes⟩)
      | some value =>
        convertValue numberText scopes value (QMetaType.fromName typeValue.toString)

/-- A value fits what it is written to. -/
def FitsJson : CVariant → Prop
  | .longLong n => Representable 53 n.toInt.natAbs
  | .uLongLong n => n.toNat < 2 ^ 63 ∧ Representable 53 n.toNat
  | .char _ => False
  | .qChar _ => False
  | .qByteArray bytes => ∀ b ∈ bytes, b.toNat < 0x80
  | .qDateTime dateTime => ∀ d ∈ dateTime,
      (0 ≤ d.1.year ∧ d.1.year ≤ 9999) ∧ (d.2 : ℕ) % 1000 = 0
  | .qDate date => ∀ d ∈ date, 0 ≤ d.year ∧ d.year ≤ 9999
  | .qTime time => ∀ mds ∈ time, (mds : ℕ) % 1000 = 0
  | _ => True

section

variable {numberText : ℚ → QString} {scopes : QStringList}

/-- What is read of a variant in JSON is its type and its value. -/
theorem convertFromJson_toJson {v : CVariant} (h : v ≠ .unknown) :
    convertFromJson numberText v.toJson scopes
      = convertValue numberText scopes v.jsonValue v.metaType := by
  have htype : v.toJson.value "type" = some (.string v.metaType.name) := by
    unfold toJson
    rw [QJsonObject.value_insert, if_neg (by decide), QJsonObject.value_insert, if_pos rfl]
  have hvalue : v.toJson.value "value" = some v.jsonValue := by
    unfold toJson
    rw [QJsonObject.value_insert, if_pos rfl]
  have hname : v.metaType.name.isEmpty = false := by
    cases v with
    | unknown => exact absurd rfl h
    | _ => rfl
  have htext : (QJsonValue.string v.metaType.name).toString = v.metaType.name := rfl
  unfold convertFromJson
  rw [htype, hvalue]
  dsimp only
  rw [htext, hname, if_neg Bool.false_ne_true, QMetaType.fromName_name]

/-- A value that is read is of the variant if it is the one of the variant. -/
theorem ok_iff {α : Type*} {f : α → CVariant} (hf : Function.Injective f) {x : Option α} {y : α} :
    x.map (fun z => Except.ok (f z)) = some (Except.ok (f y) : Except CJsonException CVariant)
      ↔ x = some y := by
  cases x with
  | none => exact iff_of_false nofun nofun
  | some z =>
    rw [Option.map_some, Option.some.injEq, Except.ok.injEq, Option.some.injEq]
    exact hf.eq_iff

theorem some_ok_iff {α : Type*} {f : α → CVariant} (hf : Function.Injective f) {x y : α} :
    some (Except.ok (f x) : Except CJsonException CVariant) = some (Except.ok (f y)) ↔ x = y := by
  rw [Option.some.injEq, Except.ok.injEq]
  exact hf.eq_iff

theorem elementText_string (l : QStringList) :
    (l.map QJsonValue.string).map (elementText numberText) = l := by
  rw [List.map_map]
  exact List.map_id l

theorem toDouble_value (d : Double) : (QJsonValue.double d.value).toDouble = d := by
  rcases d with ⟨x, hx⟩
  unfold QJsonValue.toDouble
  simp [hx]

/-- The empty text is that of no date-time. -/
theorem fromStringUtc_toString (dateTime : QDateTime) :
    fromStringUtc dateTime.toString = QDateTime.fromString dateTime.toString := by
  unfold fromStringUtc
  split
  case isTrue hempty =>
    rw [List.isEmpty_iff.mp hempty]
    rfl
  case isFalse => rfl

end

/-- A variant comes back from JSON if and only if its value fits what it is written to. -/
theorem convertFromJson_toJson_iff (numberText : ℚ → QString) (scopes : QStringList)
    (v : CVariant) : convertFromJson numberText v.toJson scopes = some (.ok v) ↔ v.FitsJson := by
  by_cases hunknown : v = .unknown
  · subst hunknown
    exact iff_of_true rfl trivial
  rw [convertFromJson_toJson hunknown]
  cases v with
  | unknown => exact absurd rfl hunknown
  | int n =>
    have hread := QJsonValue.toInt_double n
    exact (some_ok_iff fun _ _ => CVariant.int.inj).trans (iff_of_true hread trivial)
  | uint n =>
    have hread := congrArg Int32.toUInt32 (QJsonValue.toInt_double n.toInt32)
    exact (some_ok_iff fun _ _ => CVariant.uint.inj).trans (iff_of_true hread trivial)
  | bool b => exact iff_of_true rfl trivial
  | double d =>
    have hread := toDouble_value d
    exact (some_ok_iff fun _ _ => CVariant.double.inj).trans (iff_of_true hread trivial)
  | longLong n => exact (ok_iff fun _ _ => CVariant.longLong.inj).trans (toLongLong_toDouble_iff n)
  | uLongLong n =>
    exact (ok_iff fun _ _ => CVariant.uLongLong.inj).trans (toULongLong_toDouble_iff n)
  | qString s => exact iff_of_true rfl trivial
  -- The type is another one, or nothing is read.
  | char c => exact iff_of_false nofun id
  | qChar c => exact iff_of_false nofun id
  | qByteArray bytes =>
    have hread := QString.toLatin1_fromUtf8_iff bytes
    exact (some_ok_iff fun _ _ => CVariant.qByteArray.inj).trans hread
  | qDateTime dateTime =>
    have hread := QDateTime.fromString_toString_iff dateTime
    rw [← fromStringUtc_toString] at hread
    exact (some_ok_iff fun _ _ => CVariant.qDateTime.inj).trans hread
  | qDate date =>
    have hread := QDate.fromString_toString_iff date
    exact (some_ok_iff fun _ _ => CVariant.qDate.inj).trans hread
  | qTime time =>
    have hread := QTime.fromString_toString_iff time
    exact (some_ok_iff fun _ _ => CVariant.qTime.inj).trans hread
  | qStringList l =>
    have hread : (l.map QJsonValue.string).map (elementText numberText) = l :=
      elementText_string l
    exact (some_ok_iff fun _ _ => CVariant.qStringList.inj).trans (iff_of_true hread trivial)

/-- The integer after two to the 53rd, the letter e with an acute, a character, and a millisecond
    after noon are read as something else. -/
theorem values_are_lost :
    let written := [longLong 9007199254740993, qByteArray [0xe9], char 0x41,
      qTime (QTime.create 12 0 0 1)]
    let read := [longLong 9007199254740992, qByteArray [0x3f], qChar 0x41,
      qTime (QTime.create 12 0 0 0)]
    written.map (fun v => convertFromJson (fun _ => []) v.toJson [])
        = read.map (fun v => some (.ok v))
      ∧ ∀ v ∈ written, convertFromJson (fun _ => []) v.toJson [] ≠ some (.ok v) := by
  decide +kernel

end CVariant

end Misc

end NeoSwift
