import Mathlib.Data.Char
import NeoSwift.Misc.Mixin.LessThan
import NeoSwift.Misc.Variant

/-!
# Metaclasses

The members of a class as `SWIFT_METACLASS` lists them: their names, how they are written to
JSON and read from it, and how they are compared. A class whose members are all in the list is
the type of a member of another one.

Characters are folded by a function for comparisons in which their case does not matter.

## Main definitions

* `MemberType`: A type of members.
* `ClassMember`: A member of a class.
* `MemberType.object`: A class by its members.
-/

namespace NeoSwift.Misc

/-- `operator<<` and `operator>>` of JSON, and `operator<`. -/
structure MemberType (β : Type) where
  write : β → QJsonValue
  read : QJsonValue → β → β
  lessOperator : LessOperator β

structure ClassMember (α : Type) where
  json : JsonMember α
  lessOperator : LessOperator α

variable {α β : Type}

def ClassMember.of (name : String) (get : α → β) (set : β → α → α) (type : MemberType β) :
    ClassMember α where
  json :=
    { name := name.toList
      write := fun a => type.write (get a)
      read := fun v a => set (type.read v (get a)) a }
  lessOperator := type.lessOperator.comap get

namespace MemberType

/-- Also an enumeration, by its value. -/
def int : MemberType Int32 where
  write n := .double n.toInt
  read v _ := v.toInt
  lessOperator := .ofKey Int32.toInt

/-- What is out of range is not defined, zero here. -/
def qint64 : MemberType Int64 where
  write n := .double n.toInt
  read v _ := v.toDouble.toLongLong.getD 0
  lessOperator := .ofKey Int64.toInt

def bool : MemberType Bool where
  write := .bool
  read v _ := v.toBool
  lessOperator := .ofKey id

def string : MemberType QString where
  write := .string
  read v _ := v.toString
  lessOperator := .ofKey id

/-- `CaseInsensitiveComparison`. -/
def caseInsensitive (foldCase : Char → Char) : MemberType QString where
  write := .string
  read v _ := v.toString
  lessOperator := .ofKey (List.map foldCase)

/-- The members of a class. -/
def object (members : List (ClassMember β)) : MemberType β where
  write b := .object (toJson (members.map ClassMember.json) b)
  read v b := convertFromJson (members.map ClassMember.json) v.toObject b
  lessOperator := .byMetaClass (members.map ClassMember.lessOperator)

end MemberType

end NeoSwift.Misc
