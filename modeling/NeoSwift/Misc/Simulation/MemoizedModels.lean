import NeoSwift.Misc.MemoTable
import NeoSwift.Misc.Simulation.MemoizedMembers
import NeoSwift.Pq.QuantityJson

/-!
# Memoized Lists of Models

`CAircraftModelList::toMemoizedJson` and `convertFromMemoizedJson`, and the plain conversions.
In the memoized form a model has indices into three tables for its aircraft, its livery and its
distributor.

## Main definitions

* `CAircraftModel`, `CAircraftModelList`: A model with its members in JSON, and a list.
* `CAircraftModelList.toMemoizedJson`, `convertFromMemoizedJson`: The memoized form.
* `CAircraftModelList.toJson`, `convertFromJson`: The plain one.

## Theorems

* `members_convertFromMemoizedJson`: What a model is read to.
-/

namespace NeoSwift.Misc

namespace Memoized

open Pq (CPhysicalQuantity PqClass CMeasurementUnit)

/-- The callsign of a model. -/
structure CCallsign where
  callsign : QString := []
  callsignAsSet : QString := []
  telephonyDesignator : QString := []
  typeHint : Int32 := 0

/-- Its members as the metaclass lists them. -/
def CCallsign.metaClass : List (JsonMember CCallsign) :=
  [(ClassMember.of "callsign" callsign (fun v a => { a with callsign := v }) .string).json,
    (ClassMember.of "callsignAsSet" callsignAsSet (fun v a => { a with callsignAsSet := v })
      .string).json,
    (ClassMember.of "telephonyDesignator" telephonyDesignator
      (fun v a => { a with telephonyDesignator := v }) .string).json,
    (ClassMember.of "typeHint" typeHint (fun v a => { a with typeHint := v }) .int).json]

/-- `CLength::null()`. -/
def nullLength : CPhysicalQuantity .length :=
  ⟨⟨0, doubleOf_zero⟩, CMeasurementUnit.nullUnit, List.mem_cons_self⟩

/-- A model with all members that are converted. -/
structure CAircraftModel where
  dbKey : Int32 := -1
  timestampMSecsSinceEpoch : Int64 := -1
  order : Int32 := -1
  callsign : CCallsign := {}
  aircraftIcao : CAircraftIcaoCode := {}
  livery : CLivery := {}
  simulator : CSimulatorInfo := {}
  distributor : CDistributor := {}
  cg : CPhysicalQuantity .length := nullLength
  supportedParts : QString := []
  modelString : QString := []
  modelStringAlias : QString := []
  name : QString := []
  description : QString := []
  fileName : QString := []
  fileTimestamp : Int64 := -1
  modelType : Int32 := 0
  modelMode : Int32 := 1

/-- `maybeMemoize` tells the three members apart by their types. Of the others, reading only the
    center of gravity may fail. -/
inductive ModelMember where
  | plain (member : JsonMember CAircraftModel)
  | aircraftIcao
  | livery
  | distributor
  | cg

/-- Neither memoized nor a quantity. -/
def ModelMember.isPlain : ModelMember → Bool
  | .plain _ => true
  | _ => false

/-- The key in the object. -/
def ModelMember.name : ModelMember → QString
  | .plain member => member.name
  | .aircraftIcao => "aircraftIcao"
  | .livery => "livery"
  | .distributor => "distributor"
  | .cg => "cg"

/-- A member that is passed through. -/
def ModelMember.of {β : Type} (name : String) (get : CAircraftModel → β)
    (set : β → CAircraftModel → CAircraftModel) (type : MemberType β) : ModelMember :=
  .plain (ClassMember.of name get set type).json

namespace CAircraftModel

/-- In the order of the metaclass. -/
def metaClass : List ModelMember :=
  [.of "dbKey" dbKey (fun v a => { a with dbKey := v }) .int,
    .of "timestampMSecsSinceEpoch" timestampMSecsSinceEpoch
      (fun v a => { a with timestampMSecsSinceEpoch := v }) .qint64,
    .of "order" order (fun v a => { a with order := v }) .int,
    .plain
      { name := "callsign"
        write := fun a => .object (Misc.toJson CCallsign.metaClass a.callsign)
        read := fun v a =>
          { a with callsign := Misc.convertFromJson CCallsign.metaClass v.toObject a.callsign } },
    .aircraftIcao,
    .livery,
    .of "simulator" simulator (fun v a => { a with simulator := v })
      (.object CSimulatorInfo.metaClass),
    .distributor,
    .cg,
    .of "supportedParts" supportedParts (fun v a => { a with supportedParts := v }) .string,
    .of "modelString" modelString (fun v a => { a with modelString := v }) .string,
    .of "modelStringAlias" modelStringAlias (fun v a => { a with modelStringAlias := v }) .string,
    .of "name" name (fun v a => { a with name := v }) .string,
    .of "description" description (fun v a => { a with description := v }) .string,
    .of "fileName" fileName (fun v a => { a with fileName := v }) .string,
    .of "fileTimestamp" fileTimestamp (fun v a => { a with fileTimestamp := v }) .qint64,
    .of "modelType" modelType (fun v a => { a with modelType := v }) .int,
    .of "modelMode" modelMode (fun v a => { a with modelMode := v }) .int]

end CAircraftModel

/-- `size_type` is an `int`. -/
structure CAircraftModelList where
  models : List CAircraftModel
  size_le : models.length ≤ 2147483647

/-- The tables while they grow. -/
structure CMemoizer where
  aircraftIcaos : CMemoTable CAircraftIcaoCode := {}
  liveries : CMemoTable CLivery := {}
  distributors : CMemoTable CDistributor := {}

/-- The tables that have been read. -/
structure CUnmemoizer where
  aircraftIcaos : List CAircraftIcaoCode
  liveries : List CLivery
  distributors : List CDistributor

/-- A scope by a literal has the zero at its end in its name. -/
def literalScope (name : String) : QString := name.toList ++ [Char.ofNat 0]

/-- An element of an array. -/
def indexScope (name : String) (index : ℕ) : QString :=
  literalScope name ++ '[' :: QString.number index ++ [']']

variable (foldCase : CaseFolding)

/-! ## The memoized form of a model -/

namespace CAircraftModel

/-- `maybeMemoize`. -/
def maybeMemoize (model : CAircraftModel) (helper : CMemoizer) :
    ModelMember → QJsonValue × CMemoizer
  | .plain member => (member.write model, helper)
  | .aircraftIcao =>
    let (index, table) :=
      helper.aircraftIcaos.getIndex aircraftIcaoCode.lessOperator model.aircraftIcao
    (.double index, { helper with aircraftIcaos := table })
  | .livery =>
    let (index, table) :=
      helper.liveries.getIndex (Memoized.livery foldCase).lessOperator model.livery
    (.double index, { helper with liveries := table })
  | .distributor =>
    let (index, table) :=
      helper.distributors.getIndex (Memoized.distributor foldCase).lessOperator model.distributor
    (.double index, { helper with distributors := table })
  | .cg => (.object model.cg.toJson, helper)

/-- One step of `forEachMember`. -/
def memoizeMember (model : CAircraftModel) (state : QJsonObject × CMemoizer)
    (member : ModelMember) : QJsonObject × CMemoizer :=
  let (maybeMemo, helper) := model.maybeMemoize foldCase state.2 member
  (state.1.insert member.name maybeMemo, helper)

/-- The model with indices. -/
def toMemoizedJson (model : CAircraftModel) (helper : CMemoizer) : QJsonObject × CMemoizer :=
  metaClass.foldl (model.memoizeMember foldCase) ([], helper)

end CAircraftModel

/-- An index into a table, which is assigned through unless it is negative. An index that is
    behind the end of the table is not defined. -/
def readMemo {T : Type} (json : QJsonObject) (name : String) (list : List T) (member : T) :
    Import T :=
  match json.value name.toList with
  | none => .ok member
  | some v =>
    let index := v.toInt.toInt
    if index < 0 then .ok member
    else
      match list[index.toNat]? with
      | some value => .ok value
      | none => .error .terminated

/-- The center of gravity is a quantity. -/
def readCg (json : QJsonObject) (scopes : QStringList) (cg : CPhysicalQuantity .length) :
    Import (CPhysicalQuantity .length) :=
  match json.value "cg" with
  | none => .ok cg
  | some v => CPhysicalQuantity.convertFromJson foldCase v.toObject scopes

/-- A member that is passed through, from its value if there is one. -/
def readPlain {α : Type} (json : QJsonObject) (member : JsonMember α) (a : α) : α :=
  ((json.value member.name).map fun v => member.read v a).getD a

namespace CAircraftModel

/-- An index is looked up in its table. -/
def unmemoizeMember (json : QJsonObject) (helper : CUnmemoizer) (scopes : QStringList)
    (model : CAircraftModel) : ModelMember → Import CAircraftModel
  | .plain member => .ok (readPlain json member model)
  | .aircraftIcao => do
    let v ← readMemo json "aircraftIcao" helper.aircraftIcaos model.aircraftIcao
    .ok { model with aircraftIcao := v }
  | .livery => do
    let v ← readMemo json "livery" helper.liveries model.livery
    .ok { model with livery := v }
  | .distributor => do
    let v ← readMemo json "distributor" helper.distributors model.distributor
    .ok { model with distributor := v }
  | .cg => do
    let v ← readCg foldCase json scopes model.cg
    .ok { model with cg := v }

/-- The model from indices. -/
def convertFromMemoizedJson (json : QJsonObject) (helper : CUnmemoizer) (scopes : QStringList) :
    Import CAircraftModel :=
  metaClass.foldlM (fun model member => unmemoizeMember foldCase json helper scopes model member) {}

/-! ## The plain form of a model -/

/-- Without indices. -/
def writeMember (model : CAircraftModel) : ModelMember → QJsonValue
  | .plain member => member.write model
  | .aircraftIcao => aircraftIcaoCode.toJson model.aircraftIcao
  | .livery => (Memoized.livery foldCase).toJson model.livery
  | .distributor => (Memoized.distributor foldCase).toJson model.distributor
  | .cg => .object model.cg.toJson

/-- The model without indices. -/
def toJson (model : CAircraftModel) : QJsonObject :=
  ofFields (metaClass.map fun member => (member.name, model.writeMember foldCase member))

def readMember (v : QJsonValue) (scopes : QStringList) (model : CAircraftModel) :
    ModelMember → Import CAircraftModel
  | .plain member => .ok (member.read v model)
  | .aircraftIcao =>
    .ok { model with aircraftIcao := aircraftIcaoCode.read v model.aircraftIcao }
  | .livery => .ok { model with livery := (Memoized.livery foldCase).read v model.livery }
  | .distributor =>
    .ok { model with distributor := (Memoized.distributor foldCase).read v model.distributor }
  | .cg => do
    let cg ← CPhysicalQuantity.convertFromJson foldCase v.toObject (scopes ++ ["cg".toList])
    .ok { model with cg := cg }

def convertMember (json : QJsonObject) (scopes : QStringList) (model : CAircraftModel)
    (member : ModelMember) : Import CAircraftModel :=
  match json.value member.name with
  | none => .ok model
  | some v => readMember foldCase v scopes model member

/-- The model without indices. -/
def convertFromJson (json : QJsonObject) (scopes : QStringList) : Import CAircraftModel :=
  metaClass.foldlM (convertMember foldCase json scopes) {}

end CAircraftModel

/-! ## Lists -/

/-- The elements of a list, each in its scope. -/
def convertModels (convert : QJsonObject → QStringList → Import CAircraftModel)
    (scopes : QStringList) : ℕ → List QJsonValue → Import (List CAircraftModel)
  | _, [] => .ok []
  | index, value :: values => do
    let model ← convert value.toObject (scopes ++ [indexScope "containerbase" index])
    let models ← convertModels convert scopes (index + 1) values
    .ok (model :: models)

namespace ValueClass

variable {T : Type} (c : ValueClass T)

/-- `toJson` of a sequence. -/
def sequenceToJson (values : List T) : QJsonObject :=
  [("containerbase", .array (values.map c.toJson))]

/-- `convertFromJson` of a sequence. -/
def sequenceFromJson (json : QJsonObject) (scopes : QStringList) : Import (List T) :=
  match json.value "containerbase" with
  | none => .error (.exception ⟨"Missing 'containerbase'", stackString scopes⟩)
  | some v => .ok (v.toArray.map c.fromJson)

end ValueClass

/-- The models one after the other. -/
def memoizeModels : List CAircraftModel → CMemoizer → List QJsonObject × CMemoizer
  | [], helper => ([], helper)
  | model :: models, helper =>
    let (json, helper) := model.toMemoizedJson foldCase helper
    let (array, helper) := memoizeModels models helper
    (json :: array, helper)

/-- What is thrown for a value that is not there. -/
def required (v : Option QJsonValue) (name : String) (scopes : QStringList) : Import QJsonValue :=
  match v with
  | none => .error (.exception ⟨("Missing '" ++ name ++ "'").toList, stackString scopes⟩)
  | some v => .ok v

namespace CAircraftModelList

def toMemoizedJson (l : CAircraftModelList) : QJsonObject :=
  let (array, helper) := memoizeModels foldCase l.models {}
  let json := QJsonObject.insert [] "containerbase" (.array (array.map .object))
  let json := json.insert "aircraftIcaos"
    (.object (aircraftIcaoCode.sequenceToJson helper.aircraftIcaos.list))
  let json := json.insert "liveries"
    (.object ((livery foldCase).sequenceToJson helper.liveries.list))
  json.insert "distributors"
    (.object ((distributor foldCase).sequenceToJson helper.distributors.list))

def toJson (l : CAircraftModelList) : QJsonObject :=
  [("containerbase", .array (l.models.map fun model => .object (model.toJson foldCase)))]

end CAircraftModelList

def convertFromJson (json : QJsonObject) (scopes : QStringList) : Import (List CAircraftModel) := do
  let value ← required (json.value "containerbase") "containerbase" scopes
  convertModels (CAircraftModel.convertFromJson foldCase) scopes 0 value.toArray

def convertFromMemoizedJson (json : QJsonObject) (fallbackToConvertToJson : Bool)
    (scopes : QStringList) : Import (List CAircraftModel) := do
  let value ← required (json.value "containerbase") "containerbase" scopes
  let aircraftIcaos := json.value "aircraftIcaos"
  let liveries := json.value "liveries"
  let distributors := json.value "distributors"
  let undefAll := aircraftIcaos.isNone && distributors.isNone && liveries.isNone
  if fallbackToConvertToJson && undefAll then convertFromJson foldCase json scopes
  else
    let aircraftIcaos ← required aircraftIcaos "aircraftIcaos" scopes
    let liveries ← required liveries "liveries" scopes
    let distributors ← required distributors "distributors" scopes
    let aircraftIcaos ← aircraftIcaoCode.sequenceFromJson aircraftIcaos.toObject
      (scopes ++ [literalScope "aircraftIcaos"])
    let liveries ← (livery foldCase).sequenceFromJson liveries.toObject
      (scopes ++ [literalScope "liveries"])
    let distributors ← (distributor foldCase).sequenceFromJson distributors.toObject
      (scopes ++ [literalScope "distributors"])
    convertModels
      (fun json scopes => CAircraftModel.convertFromMemoizedJson foldCase json
        ⟨aircraftIcaos, liveries, distributors⟩ scopes)
      scopes 0 value.toArray

/-! ## Reading a model -/

namespace CAircraftModel

/-- The members that are memoized, and the one whose reading may fail. -/
structure Members where
  aircraftIcao : CAircraftIcaoCode
  livery : CLivery
  distributor : CDistributor
  cg : CPhysicalQuantity .length

/-- What is memoized, and the center of gravity. -/
def members (model : CAircraftModel) : Members :=
  ⟨model.aircraftIcao, model.livery, model.distributor, model.cg⟩

theorem filter_metaClass : (metaClass.filter fun member => !member.isPlain)
    = [.aircraftIcao, .livery, .distributor, .cg] := rfl

/-- What is passed through leaves these alone. -/
theorem members_read_plain {member : JsonMember CAircraftModel}
    (h : ModelMember.plain member ∈ metaClass) (v : QJsonValue) (model : CAircraftModel) :
    (member.read v model).members = model.members := by
  simp only [metaClass, ModelMember.of, List.mem_cons, ModelMember.plain.injEq, reduceCtorEq,
    List.not_mem_nil, or_false, false_or] at h
  rcases h with rfl | rfl | rfl | rfl | rfl | rfl | rfl | rfl | rfl | rfl | rfl | rfl |
    rfl | rfl <;>
    rfl

theorem members_readPlain {member : JsonMember CAircraftModel}
    (h : ModelMember.plain member ∈ metaClass) (json : QJsonObject) (model : CAircraftModel) :
    (readPlain json member model).members = model.members := by
  unfold readPlain
  cases json.value member.name with
  | none => rfl
  | some v => exact members_read_plain h v model

/-- A step that reads the members from themselves. -/
def unmemoizeMembers (json : QJsonObject) (helper : CUnmemoizer) (scopes : QStringList)
    (a : Members) : ModelMember → Import Members
  | .plain _ => .ok a
  | .aircraftIcao => do
    let v ← readMemo json "aircraftIcao" helper.aircraftIcaos a.aircraftIcao
    .ok { a with aircraftIcao := v }
  | .livery => do
    let v ← readMemo json "livery" helper.liveries a.livery
    .ok { a with livery := v }
  | .distributor => do
    let v ← readMemo json "distributor" helper.distributors a.distributor
    .ok { a with distributor := v }
  | .cg => do
    let v ← readCg foldCase json scopes a.cg
    .ok { a with cg := v }

theorem members_unmemoizeMember (json : QJsonObject) (helper : CUnmemoizer) (scopes : QStringList)
    {member : ModelMember} (h : member ∈ metaClass) (model : CAircraftModel) :
    (unmemoizeMember foldCase json helper scopes model member).map members
      = unmemoizeMembers foldCase json helper scopes model.members member := by
  cases member with
  | plain member => exact congrArg Except.ok (members_readPlain h json model)
  | aircraftIcao =>
    change Except.map members ((readMemo json "aircraftIcao" _ model.aircraftIcao).bind _)
      = (readMemo json "aircraftIcao" _ model.aircraftIcao).bind _
    cases readMemo json "aircraftIcao" helper.aircraftIcaos model.aircraftIcao <;> rfl
  | livery =>
    change Except.map members ((readMemo json "livery" _ model.livery).bind _)
      = (readMemo json "livery" _ model.livery).bind _
    cases readMemo json "livery" helper.liveries model.livery <;> rfl
  | distributor =>
    change Except.map members ((readMemo json "distributor" _ model.distributor).bind _)
      = (readMemo json "distributor" _ model.distributor).bind _
    cases readMemo json "distributor" helper.distributors model.distributor <;> rfl
  | cg =>
    change Except.map members ((readCg foldCase json scopes model.cg).bind _)
      = (readCg foldCase json scopes model.cg).bind _
    cases readCg foldCase json scopes model.cg <;> rfl

/-- A fold that can be read from some members of what it works on. -/
theorem map_foldlM {ε α β μ : Type} {f : α → μ → Except ε α} {g : β → μ → Except ε β} {read : α → β}
    {l : List μ} (h : ∀ m ∈ l, ∀ a, (f a m).map read = g (read a) m) (a : α) :
    (l.foldlM f a).map read = l.foldlM g (read a) := by
  induction l generalizing a with
  | nil => rfl
  | cons m l ih =>
    rw [List.foldlM_cons, List.foldlM_cons, ← h m List.mem_cons_self a]
    cases hm : f a m with
    | error e => rfl
    | ok b => exact ih (fun m hm => h m (List.mem_cons_of_mem _ hm)) b

/-- What is passed through can be left out. -/
theorem foldlM_of_plain {step : Members → ModelMember → Import Members}
    (hplain : ∀ a member, step a (.plain member) = .ok a) (l : List ModelMember) (a : Members) :
    l.foldlM step a = (l.filter fun member => !member.isPlain).foldlM step a := by
  induction l generalizing a with
  | nil => rfl
  | cons member l ih =>
    rw [List.foldlM_cons]
    cases member with
    | plain member =>
      rw [hplain]
      exact ih a
    | _ => exact bind_congr fun a => ih a

/-- These are read independently of what is passed through, one after the other. -/
theorem members_convertFromMemoizedJson (json : QJsonObject) (helper : CUnmemoizer)
    (scopes : QStringList) :
    (convertFromMemoizedJson foldCase json helper scopes).map members = (do
      let aircraftIcao ← readMemo json "aircraftIcao" helper.aircraftIcaos {}
      let livery ← readMemo json "livery" helper.liveries {}
      let distributor ← readMemo json "distributor" helper.distributors {}
      let cg ← readCg foldCase json scopes nullLength
      .ok ⟨aircraftIcao, livery, distributor, cg⟩) := by
  unfold convertFromMemoizedJson
  rw [map_foldlM fun member h model => members_unmemoizeMember foldCase json helper scopes h model,
    foldlM_of_plain fun _ _ => rfl, filter_metaClass]
  simp only [List.foldlM_cons, unmemoizeMembers, bind_assoc]
  rfl

/-- A member that is an object, from its value if there is one. -/
def readObject {T : Type} (c : ValueClass T) (json : QJsonObject) (name : String) (value : T) : T :=
  ((json.value name.toList).map fun v => c.read v value).getD value

/-- A step of the plain form that reads the members from themselves. -/
def readMembers (json : QJsonObject) (scopes : QStringList) (a : Members) :
    ModelMember → Import Members
  | .plain _ => .ok a
  | .aircraftIcao =>
    .ok { a with aircraftIcao := readObject aircraftIcaoCode json "aircraftIcao" a.aircraftIcao }
  | .livery =>
    .ok { a with livery := readObject (Memoized.livery foldCase) json "livery" a.livery }
  | .distributor =>
    let v := readObject (Memoized.distributor foldCase) json "distributor" a.distributor
    .ok { a with distributor := v }
  | .cg => do
    let v ← readCg foldCase json (scopes ++ ["cg".toList]) a.cg
    .ok { a with cg := v }

theorem members_readMember (json : QJsonObject) (scopes : QStringList) {member : ModelMember}
    (h : member ∈ metaClass) (model : CAircraftModel) :
    (convertMember foldCase json scopes model member).map members
      = readMembers foldCase json scopes model.members member := by
  unfold convertMember
  -- A plain member is read as it is, and the others are read from an object of their own.
  cases member with
  | plain member =>
    change (match json.value member.name with
      | none => Except.ok model
      | some v => Except.ok (member.read v model) : Import CAircraftModel).map members = _
    cases json.value member.name with
    | none => rfl
    | some v => exact congrArg Except.ok (members_read_plain h v model)
  | aircraftIcao =>
    unfold readMembers readObject ModelMember.name
    cases json.value "aircraftIcao" <;> rfl
  | livery =>
    unfold readMembers readObject ModelMember.name
    cases json.value "livery" <;> rfl
  | distributor =>
    unfold readMembers readObject ModelMember.name
    cases json.value "distributor" <;> rfl
  | cg =>
    unfold readMembers readCg ModelMember.name
    cases json.value "cg" with
    | none => rfl
    | some v =>
      change ((CPhysicalQuantity.convertFromJson foldCase v.toObject
        (scopes ++ ["cg".toList])).bind _).map
        members = (CPhysicalQuantity.convertFromJson foldCase v.toObject
          (scopes ++ ["cg".toList])).bind _
      cases (CPhysicalQuantity.convertFromJson foldCase v.toObject (scopes ++ ["cg".toList]) :
        Import (CPhysicalQuantity .length)) <;> rfl

theorem members_convertFromJson (json : QJsonObject) (scopes : QStringList) :
    (convertFromJson foldCase json scopes).map members = (do
      let cg ← readCg foldCase json (scopes ++ ["cg".toList]) nullLength
      .ok ⟨readObject aircraftIcaoCode json "aircraftIcao" {},
        readObject (Memoized.livery foldCase) json "livery" {},
        readObject (Memoized.distributor foldCase) json "distributor" {}, cg⟩) := by
  unfold convertFromJson
  rw [map_foldlM fun member h model => members_readMember foldCase json scopes h model,
    foldlM_of_plain fun _ _ => rfl, filter_metaClass]
  simp only [List.foldlM_cons, readMembers, bind_assoc]
  rfl

end CAircraftModel

end Memoized

end NeoSwift.Misc
