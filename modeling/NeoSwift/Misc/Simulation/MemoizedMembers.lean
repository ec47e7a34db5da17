import NeoSwift.Misc.Mixin.MetaClass

/-!
# The Members that are Memoized

`CAircraftIcaoCode`, `CLivery` and `CDistributor` with all members of their metaclasses, and the
classes these are of. What is no member of a metaclass, such as the IATA code of an airline, is
neither in JSON nor compared.

## Main definitions

* `CAircraftIcaoCode.metaClass`, `CLivery.metaClass`, `CDistributor.metaClass`: The metaclasses.
-/

namespace NeoSwift.Misc

namespace Memoized

open MemberType (int qint64 bool string caseInsensitive object)

variable (foldCase : Char → Char)

/-- A set of simulators as flags. -/
structure CSimulatorInfo where
  simulator : Int32 := 0
  deriving DecidableEq

/-- Its members as the metaclass lists them. -/
def CSimulatorInfo.metaClass : List (ClassMember CSimulatorInfo) :=
  [.of "simulator" simulator (fun v a => { a with simulator := v }) int]

/-- Who made a model. -/
structure CDistributor where
  dbKey : QString := []
  loadedFromDb : Bool := false
  timestampMSecsSinceEpoch : Int64 := -1
  order : Int32 := -1
  description : QString := []
  alias1 : QString := []
  alias2 : QString := []
  simulator : CSimulatorInfo := {}
  deriving DecidableEq

/-- The key is compared without case. -/
def CDistributor.metaClass : List (ClassMember CDistributor) :=
  [.of "dbKey" dbKey (fun v a => { a with dbKey := v }) (caseInsensitive foldCase),
    .of "loadedFromDb" loadedFromDb (fun v a => { a with loadedFromDb := v }) bool,
    .of "timestampMSecsSinceEpoch" timestampMSecsSinceEpoch
      (fun v a => { a with timestampMSecsSinceEpoch := v }) qint64,
    .of "order" order (fun v a => { a with order := v }) int,
    .of "description" description (fun v a => { a with description := v }) string,
    .of "alias1" alias1 (fun v a => { a with alias1 := v }) (caseInsensitive foldCase),
    .of "alias2" alias2 (fun v a => { a with alias2 := v }) (caseInsensitive foldCase),
    .of "simulator" simulator (fun v a => { a with simulator := v })
      (object CSimulatorInfo.metaClass)]

/-- The country of an airline. -/
structure CCountry where
  dbKey : QString := []
  loadedFromDb : Bool := false
  timestampMSecsSinceEpoch : Int64 := -1
  iso3 : QString := []
  name : QString := []
  simplifiedName : QString := []
  alias1 : QString := []
  alias2 : QString := []
  historic : Bool := false
  deriving DecidableEq

/-- The key is compared without case. -/
def CCountry.metaClass : List (ClassMember CCountry) :=
  [.of "dbKey" dbKey (fun v a => { a with dbKey := v }) (caseInsensitive foldCase),
    .of "loadedFromDb" loadedFromDb (fun v a => { a with loadedFromDb := v }) bool,
    .of "timestampMSecsSinceEpoch" timestampMSecsSinceEpoch
      (fun v a => { a with timestampMSecsSinceEpoch := v }) qint64,
    .of "iso3" iso3 (fun v a => { a with iso3 := v }) string,
    .of "name" name (fun v a => { a with name := v }) string,
    .of "simplifiedName" simplifiedName (fun v a => { a with simplifiedName := v }) string,
    .of "alias1" alias1 (fun v a => { a with alias1 := v }) string,
    .of "alias2" alias2 (fun v a => { a with alias2 := v }) string,
    .of "historic" historic (fun v a => { a with historic := v }) bool]

/-- An airline. -/
structure CAirlineIcaoCode where
  dbKey : Int32 := -1
  timestampMSecsSinceEpoch : Int64 := -1
  designator : QString := []
  name : QString := []
  country : CCountry := {}
  telephonyDesignator : QString := []
  groupDesignator : QString := []
  groupName : QString := []
  groupId : Int32 := -1
  isVa : Bool := false
  isOperating : Bool := true
  isMilitary : Bool := false
  deriving DecidableEq

/-- Its members as the metaclass lists them. -/
def CAirlineIcaoCode.metaClass : List (ClassMember CAirlineIcaoCode) :=
  [.of "dbKey" dbKey (fun v a => { a with dbKey := v }) int,
    .of "timestampMSecsSinceEpoch" timestampMSecsSinceEpoch
      (fun v a => { a with timestampMSecsSinceEpoch := v }) qint64,
    .of "designator" designator (fun v a => { a with designator := v }) string,
    .of "name" name (fun v a => { a with name := v }) string,
    .of "country" country (fun v a => { a with country := v })
      (object (CCountry.metaClass foldCase)),
    .of "telephonyDesignator" telephonyDesignator
      (fun v a => { a with telephonyDesignator := v }) string,
    .of "groupDesignator" groupDesignator (fun v a => { a with groupDesignator := v }) string,
    .of "groupName" groupName (fun v a => { a with groupName := v }) string,
    .of "groupId" groupId (fun v a => { a with groupId := v }) int,
    .of "isVa" isVa (fun v a => { a with isVa := v }) bool,
    .of "isOperating" isOperating (fun v a => { a with isOperating := v }) bool,
    .of "isMilitary" isMilitary (fun v a => { a with isMilitary := v }) bool]

/-- A color of a livery. -/
structure CRgbColor where
  r : Int32 := -1
  g : Int32 := -1
  b : Int32 := -1
  deriving DecidableEq

/-- Red, green and blue. -/
def CRgbColor.metaClass : List (ClassMember CRgbColor) :=
  [.of "r" r (fun v a => { a with r := v }) int, .of "g" g (fun v a => { a with g := v }) int,
    .of "b" b (fun v a => { a with b := v }) int]

/-- How an aircraft is painted. -/
structure CLivery where
  dbKey : Int32 := -1
  timestampMSecsSinceEpoch : Int64 := -1
  airline : CAirlineIcaoCode := {}
  combinedCode : QString := []
  description : QString := []
  colorFuselage : CRgbColor := {}
  colorTail : CRgbColor := {}
  military : Bool := false
  deriving DecidableEq

/-- The combined code is compared without case. -/
def CLivery.metaClass : List (ClassMember CLivery) :=
  [.of "dbKey" dbKey (fun v a => { a with dbKey := v }) int,
    .of "timestampMSecsSinceEpoch" timestampMSecsSinceEpoch
      (fun v a => { a with timestampMSecsSinceEpoch := v }) qint64,
    .of "airline" airline (fun v a => { a with airline := v })
      (object (CAirlineIcaoCode.metaClass foldCase)),
    .of "combinedCode" combinedCode (fun v a => { a with combinedCode := v })
      (caseInsensitive foldCase),
    .of "description" description (fun v a => { a with description := v }) string,
    .of "colorFuselage" colorFuselage (fun v a => { a with colorFuselage := v })
      (object CRgbColor.metaClass),
    .of "colorTail" colorTail (fun v a => { a with colorTail := v })
      (object CRgbColor.metaClass),
    .of "military" military (fun v a => { a with military := v }) bool]

/-- A category with its levels. -/
structure CAircraftCategory where
  dbKey : Int32 := -1
  timestampMSecsSinceEpoch : Int64 := -1
  name : QString := []
  l1 : Int32 := 0
  l2 : Int32 := 0
  l3 : Int32 := 0
  description : QString := []
  path : QString := []
  assignable : Bool := true
  deriving DecidableEq

/-- Its members as the metaclass lists them. -/
def CAircraftCategory.metaClass : List (ClassMember CAircraftCategory) :=
  [.of "dbKey" dbKey (fun v a => { a with dbKey := v }) int,
    .of "timestampMSecsSinceEpoch" timestampMSecsSinceEpoch
      (fun v a => { a with timestampMSecsSinceEpoch := v }) qint64,
    .of "name" name (fun v a => { a with name := v }) string,
    .of "l1" l1 (fun v a => { a with l1 := v }) int,
    .of "l2" l2 (fun v a => { a with l2 := v }) int,
    .of "l3" l3 (fun v a => { a with l3 := v }) int,
    .of "description" description (fun v a => { a with description := v }) string,
    .of "path" path (fun v a => { a with path := v }) string,
    .of "assignable" assignable (fun v a => { a with assignable := v }) bool]

/-- How much wake an aircraft leaves. -/
structure CWakeTurbulenceCategory where
  wtc : Int32 := 0
  deriving DecidableEq

/-- Its only member. -/
def CWakeTurbulenceCategory.metaClass : List (ClassMember CWakeTurbulenceCategory) :=
  [.of "wtc" wtc (fun v a => { a with wtc := v }) int]

/-- A type of aircraft. -/
structure CAircraftIcaoCode where
  dbKey : Int32 := -1
  timestampMSecsSinceEpoch : Int64 := -1
  designator : QString := []
  iataCode : QString := []
  family : QString := []
  combinedType : QString := []
  manufacturer : QString := []
  modelDescription : QString := []
  modelIataDescription : QString := []
  modelSwiftDescription : QString := []
  category : CAircraftCategory := {}
  wtc : CWakeTurbulenceCategory := {}
  military : Bool := false
  realWorld : Bool := true
  legacy : Bool := false
  rank : Int32 := 10
  deriving DecidableEq

/-- Its members as the metaclass lists them. -/
def CAircraftIcaoCode.metaClass : List (ClassMember CAircraftIcaoCode) :=
  [.of "dbKey" dbKey (fun v a => { a with dbKey := v }) int,
    .of "timestampMSecsSinceEpoch" timestampMSecsSinceEpoch
      (fun v a => { a with timestampMSecsSinceEpoch := v }) qint64,
    .of "designator" designator (fun v a => { a with designator := v }) string,
    .of "iataCode" iataCode (fun v a => { a with iataCode := v }) string,
    .of "family" family (fun v a => { a with family := v }) string,
    .of "combinedType" combinedType (fun v a => { a with combinedType := v }) string,
    .of "manufacturer" manufacturer (fun v a => { a with manufacturer := v }) string,
    .of "modelDescription" modelDescription (fun v a => { a with modelDescription := v }) string,
    .of "modelIataDescription" modelIataDescription
      (fun v a => { a with modelIataDescription := v }) string,
    .of "modelSwiftDescription" modelSwiftDescription
      (fun v a => { a with modelSwiftDescription := v }) string,
    .of "category" category (fun v a => { a with category := v })
      (object CAircraftCategory.metaClass),
    .of "wtc" wtc (fun v a => { a with wtc := v }) (object CWakeTurbulenceCategory.metaClass),
    .of "military" military (fun v a => { a with military := v }) bool,
    .of "realWorld" realWorld (fun v a => { a with realWorld := v }) bool,
    .of "legacy" legacy (fun v a => { a with legacy := v }) bool,
    .of "rank" rank (fun v a => { a with rank := v }) int]

/-- The class of a list by its metaclass, as its values are converted. -/
structure ValueClass (T : Type) where
  metaClass : List (ClassMember T)
  default : T

namespace ValueClass

variable {T : Type} (c : ValueClass T)

/-- The order of the members, one by one. -/
def lessOperator : LessOperator T := (object c.metaClass).lessOperator

/-- An object with all members. -/
def toJson (value : T) : QJsonValue := (object c.metaClass).write value

/-- `operator>>`. -/
def read (json : QJsonValue) (value : T) : T := (object c.metaClass).read json value

/-- What is not in the object stays as in the default. -/
def fromJson (json : QJsonValue) : T := c.read json c.default

/-- A value that comes back from JSON. -/
def Lossless (value : T) : Prop := c.fromJson (c.toJson value) = value

end ValueClass

/-- The class of aircraft types. -/
def aircraftIcaoCode : ValueClass CAircraftIcaoCode := ⟨CAircraftIcaoCode.metaClass, {}⟩
/-- The class of liveries. -/
def livery : ValueClass CLivery := ⟨CLivery.metaClass foldCase, {}⟩
/-- The class of distributors. -/
def distributor : ValueClass CDistributor := ⟨CDistributor.metaClass foldCase, {}⟩

end Memoized

end NeoSwift.Misc
