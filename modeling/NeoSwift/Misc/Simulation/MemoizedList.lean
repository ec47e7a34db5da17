import NeoSwift.Misc.Simulation.MemoizedModels

/-!
# Memoized Lists come back

What a list of models is written to in the memoized form, and what that is read to. A distributor
is not inserted into its table where one is in it already that differs in the case of letters
only, as the two are alike. So a model may come back with another distributor than it had, while
the plain form keeps the case. A livery has such members too.

A list comes back if and only if the members in it that are alike are the same.

## Main definitions

* `Restores`: The members come back.
* `CAircraftModelList.FaithfulMembers`: Members that are alike are the same.

## Theorems

* `memoizeModels_eq`: The three tables grow independently.
* `convertModels_entries`: What the indices of a list are read to.
* `CAircraftModelList.restores_memoized_iff`: Which lists come back.
* `CAircraftModelList.letter_case_is_lost`: A list that does not.
-/

namespace NeoSwift.Misc

namespace Memoized

open Pq (CPhysicalQuantity PqClass)

variable (foldCase : CaseFolding)

/-- A field is found by its key where the keys differ. -/
theorem value_ofFields_of_mem {fields : List (QString × QJsonValue)}
    (h : (fields.map Prod.fst).Nodup) {key : QString} {v : QJsonValue} (hmem : (key, v) ∈ fields) :
    (ofFields fields).value key = some v := by
  rw [value_ofFields]
  have hnodup : (fields.reverse.map Prod.fst).Nodup := by
    rw [List.map_reverse]
    exact (List.reverse_perm _).nodup_iff.mpr h
  have hmem' : (key, v) ∈ fields.reverse := List.mem_reverse.mpr hmem
  generalize fields.reverse = l at hnodup hmem'
  induction l with
  | nil => cases hmem'
  | cons field l ih =>
    rw [List.map_cons, List.nodup_cons] at hnodup
    rw [QJsonObject.value_cons]
    rcases List.mem_cons.mp hmem' with rfl | hrest
    · exact if_pos rfl
    · have hne : key ≠ field.1 := fun heq => hnodup.1 (heq ▸ List.mem_map_of_mem hrest)
      rw [if_neg hne]
      exact ih hnodup.2 hrest

namespace CAircraftModel

/-! ## Writing a model -/

variable (model : CAircraftModel)

/-- The index of each of the members in its table. -/
def icaoIndex (helper : CMemoizer) : ℕ × CMemoTable CAircraftIcaoCode :=
  helper.aircraftIcaos.getIndex aircraftIcaoCode.lessOperator model.aircraftIcao

def liveryIndex (helper : CMemoizer) : ℕ × CMemoTable CLivery :=
  helper.liveries.getIndex (Memoized.livery foldCase).lessOperator model.livery

def distributorIndex (helper : CMemoizer) : ℕ × CMemoTable CDistributor :=
  helper.distributors.getIndex (Memoized.distributor foldCase).lessOperator model.distributor

/-- The fields that the steps insert, from the tables before them. -/
def memoizedFields (model : CAircraftModel) : List ModelMember → CMemoizer →
    List (QString × QJsonValue)
  | [], _ => []
  | member :: members, helper =>
    (member.name, (model.maybeMemoize foldCase helper member).1) ::
      memoizedFields model members (model.maybeMemoize foldCase helper member).2

theorem foldl_memoizeMember (model : CAircraftModel) (members : List ModelMember)
    (json : QJsonObject) (helper : CMemoizer) :
    members.foldl (model.memoizeMember foldCase) (json, helper)
      = ((model.memoizedFields foldCase members helper).foldl
          (fun json field => json.insert field.1 field.2) json,
        members.foldl (fun helper member => (model.maybeMemoize foldCase helper member).2)
          helper) := by
  induction members generalizing json helper with
  | nil => rfl
  | cons member members ih => exact ih _ _

/-- What is written for each of the members. -/
def writeIndices (icao livery distributor : ℕ) : ModelMember → QJsonValue
  | .plain member => member.write model
  | .aircraftIcao => .double icao
  | .livery => .double livery
  | .distributor => .double distributor
  | .cg => .object model.cg.toJson

theorem toMemoizedJson_eq (model : CAircraftModel) (helper : CMemoizer) :
    model.toMemoizedJson foldCase helper
      = (ofFields (metaClass.map fun member => (member.name, model.writeIndices
          (model.icaoIndex helper).1 (model.liveryIndex foldCase helper).1
          (model.distributorIndex foldCase helper).1 member)),
        ⟨(model.icaoIndex helper).2, (model.liveryIndex foldCase helper).2,
          (model.distributorIndex foldCase helper).2⟩) := by
  unfold toMemoizedJson
  rw [foldl_memoizeMember]
  rfl

theorem nodup_name : (metaClass.map ModelMember.name).Nodup := by decide +kernel

/-- What is written for a member is read for it. -/
theorem value_ofMembers (write : ModelMember → QJsonValue) {member : ModelMember}
    (h : member ∈ metaClass) :
    (ofFields (metaClass.map fun member => (member.name, write member))).value
      (member.name) = some (write member) := by
  refine value_ofFields_of_mem ?_ (List.mem_map_of_mem h)
  rw [List.map_map]
  exact nodup_name

theorem mem_metaClass {member : ModelMember} (h : member.isPlain = false) : member ∈ metaClass := by
  have hmem : member ∈ metaClass.filter fun member => !member.isPlain := by
    rw [filter_metaClass]
    cases member with
    | plain member => cases h
    | _ => simp
  exact List.mem_of_mem_filter hmem

theorem mem_allUnits_length (q : CPhysicalQuantity .length) :
    q.m_unit ∈ PqClass.length.unitClass.allUnits := by
  have hall : ∀ unit ∈ PqClass.length.unitClass.offered,
      unit ∈ PqClass.length.unitClass.allUnits := by decide +kernel
  exact hall _ q.offered

theorem readCg_of_value {json : QJsonObject} {model : CAircraftModel}
    (h : json.value "cg" = some (.object model.cg.toJson)) (scopes : QStringList)
    (cg : CPhysicalQuantity .length) : readCg foldCase json scopes cg = .ok model.cg := by
  unfold readCg
  rw [h]
  exact CPhysicalQuantity.convertFromJson_toJson_of_mem foldCase
    (mem_allUnits_length model.cg) scopes

/-- An index into a table that fits an `int`. -/
theorem readMemo_of_value {T : Type} {json : QJsonObject} {name : String} {list : List T} {i : ℕ}
    {v : T} (h : json.value name.toList = some (.double i)) (hi : list[i]? = some v)
    (hlist : list.length ≤ 2147483647) (member : T) : readMemo json name list member = .ok v := by
  have hlt : i < list.length := (List.getElem?_eq_some_iff.mp hi).1
  have hint : ((QJsonValue.double i).toInt).toInt = i := by
    have hexact : (QJsonValue.double i).toInt = Int32.ofInt i := by
      have hcast := QJsonValue.toInt_double (Int32.ofInt i)
      rwa [Int32.toInt_ofInt_of_le (by omega) (by omega)] at hcast
    rw [hexact, Int32.toInt_ofInt_of_le (by omega) (by omega)]
  unfold readMemo
  rw [h]
  dsimp only
  rw [hint, if_neg (by omega), Int.toNat_natCast, hi]

/-- A model with indices is read to what is in the tables there. -/
theorem members_of_indices {helper : CUnmemoizer} {a l d : ℕ}
    {aircraftIcao : CAircraftIcaoCode} {livery : CLivery} {distributor : CDistributor}
    (ha : helper.aircraftIcaos[a]? = some aircraftIcao) (hl : helper.liveries[l]? = some livery)
    (hd : helper.distributors[d]? = some distributor)
    (hsize : helper.aircraftIcaos.length ≤ 2147483647 ∧ helper.liveries.length ≤ 2147483647 ∧
      helper.distributors.length ≤ 2147483647) (scopes : QStringList) :
    (convertFromMemoizedJson foldCase
        (ofFields (metaClass.map fun member => (member.name, model.writeIndices a l d member)))
        helper scopes).map members = .ok ⟨aircraftIcao, livery, distributor, model.cg⟩ := by
  have hvalue {member : ModelMember} (hmember : member.isPlain = false) :=
    value_ofMembers (model.writeIndices a l d) (mem_metaClass hmember)
  rw [members_convertFromMemoizedJson, readMemo_of_value (@hvalue .aircraftIcao rfl) ha hsize.1,
    readMemo_of_value (@hvalue .livery rfl) hl hsize.2.1,
    readMemo_of_value (@hvalue .distributor rfl) hd hsize.2.2,
    readCg_of_value foldCase (@hvalue .cg rfl)]
  rfl

end CAircraftModel

/-! ## Reading a list -/

/-- The models with their indices. -/
def entries : List CAircraftModel → List ℕ → List ℕ → List ℕ → List QJsonObject
  | model :: models, a :: as, l :: ls, d :: ds =>
    ofFields (CAircraftModel.metaClass.map fun member =>
      (member.name, model.writeIndices a l d member)) :: entries models as ls ds
  | _, _, _, _ => []

/-- The three tables grow independently. -/
theorem memoizeModels_eq (models : List CAircraftModel) (helper : CMemoizer) :
    memoizeModels foldCase models helper = (entries models
        (memoize aircraftIcaoCode.lessOperator helper.aircraftIcaos
          (models.map CAircraftModel.aircraftIcao)).1
        (memoize (livery foldCase).lessOperator helper.liveries
          (models.map CAircraftModel.livery)).1
        (memoize (distributor foldCase).lessOperator helper.distributors
          (models.map CAircraftModel.distributor)).1,
      ⟨(memoize aircraftIcaoCode.lessOperator helper.aircraftIcaos
          (models.map CAircraftModel.aircraftIcao)).2,
        (memoize (livery foldCase).lessOperator helper.liveries
          (models.map CAircraftModel.livery)).2,
        (memoize (distributor foldCase).lessOperator helper.distributors
          (models.map CAircraftModel.distributor)).2⟩) := by
  induction models generalizing helper with
  | nil => rfl
  | cons model models ih =>
    unfold memoizeModels
    rw [CAircraftModel.toMemoizedJson_eq]
    dsimp only
    rw [ih]
    rfl

/-- The members come back. -/
def Restores (models : List CAircraftModel) (result : Import (List CAircraftModel)) : Prop :=
  ∃ imported, result = .ok imported ∧
    imported.map CAircraftModel.aircraftIcao = models.map CAircraftModel.aircraftIcao ∧
    imported.map CAircraftModel.livery = models.map CAircraftModel.livery ∧
    imported.map CAircraftModel.distributor = models.map CAircraftModel.distributor

theorem exists_of_map_eq_ok {ε α β : Type} {x : Except ε α} {f : α → β} {b : β}
    (h : x.map f = .ok b) : ∃ a, x = .ok a ∧ f a = b := by
  cases x with
  | error e => cases h
  | ok a => exact ⟨a, rfl, Except.ok.inj h⟩

/-- The indices of a list are read to what is in the tables there. -/
theorem convertModels_entries {helper : CUnmemoizer} {a : CAircraftModel → CAircraftIcaoCode}
    {l : CAircraftModel → CLivery} {d : CAircraftModel → CDistributor}
    (hsize : helper.aircraftIcaos.length ≤ 2147483647 ∧ helper.liveries.length ≤ 2147483647 ∧
      helper.distributors.length ≤ 2147483647) (scopes : QStringList) {models : List CAircraftModel}
    {as ls ds : List ℕ} (index : ℕ)
    (ha : as.map (fun i => helper.aircraftIcaos[i]?) = models.map fun model => some (a model))
    (hl : ls.map (fun i => helper.liveries[i]?) = models.map fun model => some (l model))
    (hd : ds.map (fun i => helper.distributors[i]?) = models.map fun model => some (d model)) :
    ∃ imported, convertModels
        (fun json scopes => CAircraftModel.convertFromMemoizedJson foldCase json helper scopes)
        scopes index ((entries models as ls ds).map .object) = .ok imported ∧
      imported.map CAircraftModel.aircraftIcao = models.map a ∧
      imported.map CAircraftModel.livery = models.map l ∧
      imported.map CAircraftModel.distributor = models.map d := by
  induction models generalizing as ls ds index with
  | nil => exact ⟨[], rfl, rfl, rfl, rfl⟩
  | cons model models ih =>
    -- The three indices of the model, and those of the models behind it.
    rcases List.map_eq_cons_iff.mp ha with ⟨i, as, rfl, hi, ha⟩
    rcases List.map_eq_cons_iff.mp hl with ⟨j, ls, rfl, hj, hl⟩
    rcases List.map_eq_cons_iff.mp hd with ⟨k, ds, rfl, hk, hd⟩
    rcases ih (index + 1) ha hl hd with ⟨imported, himported, hicaos, hliveries, hdistributors⟩
    have hmodel := model.members_of_indices foldCase hi hj hk hsize
      (scopes ++ [indexScope "containerbase" index])
    rcases exists_of_map_eq_ok hmodel with ⟨first, hfirst, hmembers⟩
    refine ⟨first :: imported, ?_, ?_, ?_, ?_⟩
    · rw [entries, List.map_cons, convertModels, QJsonValue.toObject_object, hfirst, himported]
      rfl
    · rw [List.map_cons, hicaos]
      exact congrArg (· :: _) (congrArg CAircraftModel.Members.aircraftIcao hmembers)
    · rw [List.map_cons, hliveries]
      exact congrArg (· :: _) (congrArg CAircraftModel.Members.livery hmembers)
    · rw [List.map_cons, hdistributors]
      exact congrArg (· :: _) (congrArg CAircraftModel.Members.distributor hmembers)

/-! ## Tables -/

namespace ValueClass

variable {T : Type} (c : ValueClass T)

/-- What a value is read to. -/
def firstOf (values : List T) (value : T) : T :=
  (firstAlike c.lessOperator values value).getD c.default

theorem firstAlike_eq_firstOf {values : List T} {value : T} (h : value ∈ values) :
    firstAlike c.lessOperator values value = some (c.firstOf values value) := by
  unfold firstOf
  cases hfirst : firstAlike c.lessOperator values value with
  | none => exact absurd (LessOperator.alike_refl value) (List.find?_eq_none.mp hfirst value h)
  | some _ => rfl

theorem memoize_firstOf (values : List T) :
    (memoize c.lessOperator {} values).1.map
        (fun i => (memoize c.lessOperator {} values).2.list[i]?)
      = values.map fun value => some (c.firstOf values value) := by
  rw [(memoize_spec CMemoTable.holds_empty values).1]
  exact List.map_congr_left fun value h => c.firstAlike_eq_firstOf h

theorem forall_firstOf_eq_iff (values : List T) :
    (∀ value ∈ values, c.firstOf values value = value) ↔ Faithful c.lessOperator values := by
  rw [← forall_firstAlike_eq_iff]
  refine forall₂_congr fun value h => ?_
  rw [c.firstAlike_eq_firstOf h, Option.some.injEq]

/-- A table comes back if its values do. -/
theorem sequenceFromJson_toJson {values : List T} (h : ∀ value ∈ values, c.Lossless value)
    (scopes : QStringList) : c.sequenceFromJson (c.sequenceToJson values) scopes = .ok values := by
  have hmap : (values.map c.toJson).map c.fromJson = values := by
    rw [List.map_map]
    exact (List.map_congr_left h).trans (List.map_id values)
  exact congrArg Except.ok hmap

theorem list_memoize_subset {values : List T} (h : ∀ value ∈ values, c.Lossless value) :
    ∀ value ∈ (memoize c.lessOperator {} values).2.list, c.Lossless value := by
  rcases list_memoize (o := c.lessOperator) {} values with ⟨added, hadded, hlist⟩
  intro value hvalue
  rw [hlist] at hvalue
  exact h value (hadded.subset hvalue)

theorem length_memoize_le (values : List T) :
    (memoize c.lessOperator {} values).2.list.length ≤ values.length := by
  rcases list_memoize (o := c.lessOperator) {} values with ⟨added, hadded, hlist⟩
  rw [hlist]
  exact hadded.length_le

end ValueClass

/-! ## Lists of models -/

namespace CAircraftModelList

variable (l : CAircraftModelList)

/-- Elements come back from JSON. -/
def Lossless : Prop :=
  (∀ model ∈ l.models, aircraftIcaoCode.Lossless model.aircraftIcao) ∧
    (∀ model ∈ l.models, (livery foldCase).Lossless model.livery) ∧
    ∀ model ∈ l.models, (distributor foldCase).Lossless model.distributor

/-- Members of the list that are alike are the same. -/
def FaithfulMembers : Prop :=
  Faithful aircraftIcaoCode.lessOperator (l.models.map CAircraftModel.aircraftIcao) ∧
    Faithful (livery foldCase).lessOperator (l.models.map CAircraftModel.livery) ∧
    Faithful (distributor foldCase).lessOperator (l.models.map CAircraftModel.distributor)

/-- The fields of the memoized form. -/
def fields (array : List QJsonObject) (helper : CMemoizer) : List (QString × QJsonValue) :=
  [("containerbase", .array (array.map .object)),
    ("aircraftIcaos",
      .object (aircraftIcaoCode.sequenceToJson helper.aircraftIcaos.list)),
    ("liveries", .object ((livery foldCase).sequenceToJson helper.liveries.list)),
    ("distributors", .object ((distributor foldCase).sequenceToJson helper.distributors.list))]

theorem toMemoizedJson_eq :
    l.toMemoizedJson foldCase = ofFields (fields foldCase (memoizeModels foldCase l.models {}).1
      (memoizeModels foldCase l.models {}).2) := rfl

theorem nodup_fields (array : List QJsonObject) (helper : CMemoizer) :
    ((fields foldCase array helper).map Prod.fst).Nodup := by
  have hnames : ["containerbase".toList, "aircraftIcaos".toList, "liveries".toList,
      "distributors".toList].Nodup := by decide
  exact hnames

/-- An object with all four fields is read with its tables. -/
theorem convertFromMemoizedJson_of_value (helper : CUnmemoizer) {json : QJsonObject}
    {array : List QJsonValue} {icaos liveries distributors : QJsonObject}
    (hcontainer : json.value "containerbase" = some (.array array))
    (hicaos : json.value "aircraftIcaos" = some (.object icaos))
    (hliveries : json.value "liveries" = some (.object liveries))
    (hdistributors : json.value "distributors" = some (.object distributors)) (scopes : QStringList)
    (ha : aircraftIcaoCode.sequenceFromJson icaos (scopes ++ [literalScope "aircraftIcaos"])
      = .ok helper.aircraftIcaos)
    (hl : (livery foldCase).sequenceFromJson liveries (scopes ++ [literalScope "liveries"])
      = .ok helper.liveries) (hd : (distributor foldCase).sequenceFromJson distributors
      (scopes ++ [literalScope "distributors"]) = .ok helper.distributors) (fallback : Bool) :
    convertFromMemoizedJson foldCase json fallback scopes
      = convertModels
          (fun json scopes => CAircraftModel.convertFromMemoizedJson foldCase json helper scopes)
          scopes 0 array := by
  unfold convertFromMemoizedJson
  -- Each of the three tables is read, and then the models with them.
  rw [hcontainer, hicaos, hliveries, hdistributors]
  simp only [Option.isNone_some, Bool.and_false]
  change (aircraftIcaoCode.sequenceFromJson icaos _).bind _ = _
  rw [ha]
  change ((livery foldCase).sequenceFromJson liveries _).bind _ = _
  rw [hl]
  change ((distributor foldCase).sequenceFromJson distributors _).bind _ = _
  rw [hd]
  rfl

/-- What the memoized form is read to. -/
theorem convertFromMemoizedJson_toMemoizedJson (hlossless : l.Lossless foldCase)
    (fallback : Bool) (scopes : QStringList) :
    ∃ imported,
      convertFromMemoizedJson foldCase (l.toMemoizedJson foldCase) fallback scopes = .ok imported ∧
      imported.map CAircraftModel.aircraftIcao = l.models.map (fun model =>
        aircraftIcaoCode.firstOf (l.models.map CAircraftModel.aircraftIcao) model.aircraftIcao) ∧
      imported.map CAircraftModel.livery = l.models.map (fun model =>
        (livery foldCase).firstOf (l.models.map CAircraftModel.livery) model.livery) ∧
      imported.map CAircraftModel.distributor = l.models.map (fun model =>
        (distributor foldCase).firstOf (l.models.map CAircraftModel.distributor)
          model.distributor) := by
  have hicaos := List.forall_mem_map.mpr hlossless.1
  have hliveries := List.forall_mem_map.mpr hlossless.2.1
  have hdistributors := List.forall_mem_map.mpr hlossless.2.2
  rw [toMemoizedJson_eq, memoizeModels_eq]
  -- The tables and indices after all models are memoized.
  set as := memoize aircraftIcaoCode.lessOperator {} (l.models.map CAircraftModel.aircraftIcao)
    with has
  set ls := memoize (livery foldCase).lessOperator {} (l.models.map CAircraftModel.livery) with hls
  set ds := memoize (distributor foldCase).lessOperator {}
    (l.models.map CAircraftModel.distributor) with hds
  have hvalue {key : QString} {v : QJsonValue} := @value_ofFields_of_mem _
    (nodup_fields foldCase (entries l.models as.1 ls.1 ds.1) ⟨as.2, ls.2, ds.2⟩) key v
  rw [convertFromMemoizedJson_of_value foldCase ⟨as.2.list, ls.2.list, ds.2.list⟩
    (hvalue (.head _)) (hvalue (.tail _ (.head _))) (hvalue (.tail _ (.tail _ (.head _))))
    (hvalue (.tail _ (.tail _ (.tail _ (.head _))))) scopes
    (aircraftIcaoCode.sequenceFromJson_toJson (aircraftIcaoCode.list_memoize_subset hicaos) _)
    ((livery foldCase).sequenceFromJson_toJson ((livery foldCase).list_memoize_subset hliveries) _)
    ((distributor foldCase).sequenceFromJson_toJson
    ((distributor foldCase).list_memoize_subset hdistributors) _)]
  -- No table has more values than there are models, so every index is an int.
  have hsize (α : Type) (f : CAircraftModel → α) : (l.models.map f).length ≤ 2147483647 := by
    rw [List.length_map]
    exact l.size_le
  refine convertModels_entries foldCase ⟨?_, ?_, ?_⟩ scopes 0 ?_ ?_ ?_
  · exact (aircraftIcaoCode.length_memoize_le _).trans (hsize _ _)
  · exact ((livery foldCase).length_memoize_le _).trans (hsize _ _)
  · exact ((distributor foldCase).length_memoize_le _).trans (hsize _ _)
  · exact (aircraftIcaoCode.memoize_firstOf _).trans List.map_map
  · exact ((livery foldCase).memoize_firstOf _).trans List.map_map
  · exact ((distributor foldCase).memoize_firstOf _).trans List.map_map

/-- The members come back if those that are alike are the same. -/
theorem restores_iff_faithful {imported : List CAircraftModel}
    (hicaos : imported.map CAircraftModel.aircraftIcao = l.models.map (fun model =>
      aircraftIcaoCode.firstOf (l.models.map CAircraftModel.aircraftIcao) model.aircraftIcao))
    (hliveries : imported.map CAircraftModel.livery = l.models.map (fun model =>
      (livery foldCase).firstOf (l.models.map CAircraftModel.livery) model.livery))
    (hdistributors : imported.map CAircraftModel.distributor =
      l.models.map (fun model =>
        (distributor foldCase).firstOf (l.models.map CAircraftModel.distributor)
          model.distributor)) :
    Restores l.models (.ok imported) ↔ l.FaithfulMembers foldCase := by
  have hmembers {T : Type} (c : ValueClass T) (f : CAircraftModel → T) :
      (l.models.map (fun model => c.firstOf (l.models.map f) (f model)) = l.models.map f) ↔
        Faithful c.lessOperator (l.models.map f) := by
    rw [List.map_inj_left, ← c.forall_firstOf_eq_iff, List.forall_mem_map]
  unfold FaithfulMembers
  rw [← hmembers, ← hmembers, ← hmembers, ← hicaos, ← hliveries, ← hdistributors]
  constructor
  · rintro ⟨_, himported, hrestored⟩
    rwa [← Except.ok.inj himported] at hrestored
  · intro h
    exact ⟨imported, rfl, h⟩

/-! ## The plain form -/

/-- A model comes back from the plain form with its members. -/
theorem members_of_toJson (model : CAircraftModel)
    (hicao : aircraftIcaoCode.Lossless model.aircraftIcao)
    (hlivery : (livery foldCase).Lossless model.livery)
    (hdistributor : (distributor foldCase).Lossless model.distributor) (scopes : QStringList) :
    (CAircraftModel.convertFromJson foldCase (model.toJson foldCase) scopes).map
      CAircraftModel.members = .ok model.members := by
  have hvalue {member : ModelMember} (hmember : member.isPlain = false) :=
    CAircraftModel.value_ofMembers (model.writeMember foldCase)
      (CAircraftModel.mem_metaClass hmember)
  have hread {T : Type} (c : ValueClass T) {name : String} {value : T} {json : QJsonObject}
      (hjson : json.value name.toList = some (c.toJson value)) (h : c.Lossless value) :
      CAircraftModel.readObject c json name c.default = value := by
    unfold CAircraftModel.readObject
    rw [hjson]
    exact h
  have hcg := CAircraftModel.readCg_of_value foldCase (@hvalue .cg rfl)
    (scopes ++ ["cg".toList]) nullLength
  have hicao' := hread aircraftIcaoCode (@hvalue .aircraftIcao rfl) hicao
  have hlivery' := hread (livery foldCase) (@hvalue .livery rfl) hlivery
  have hdistributor' := hread (distributor foldCase) (@hvalue .distributor rfl) hdistributor
  -- Each member is read back from its own place.
  rw [CAircraftModel.members_convertFromJson]
  unfold CAircraftModel.toJson
  rw [hcg]
  exact congrArg Except.ok (congr
    (congr (congr (congrArg CAircraftModel.Members.mk hicao') hlivery') hdistributor') rfl)

/-- The plain form keeps the members of all models. -/
theorem restores_toJson (hlossless : l.Lossless foldCase) (scopes : QStringList) :
    Restores l.models (convertFromJson foldCase (l.toJson foldCase) scopes) := by
  rcases hlossless with ⟨hicaos, hliveries, hdistributors⟩
  have hcontainer : (l.toJson foldCase).value "containerbase"
      = some (.array (l.models.map fun model => .object (model.toJson foldCase))) := rfl
  unfold convertFromJson
  change Restores l.models (convertModels _ scopes 0 (l.models.map _))
  generalize 0 = index
  -- The index of a model is in the scopes of errors only.
  generalize l.models = models at hicaos hliveries hdistributors ⊢
  induction models generalizing index with
  | nil => exact ⟨[], rfl, rfl, rfl, rfl⟩
  | cons model models ih =>
    rw [List.forall_mem_cons] at hicaos hliveries hdistributors
    rcases ih (index + 1) hicaos.2 hliveries.2 hdistributors.2 with ⟨imported, himported, hrestored⟩
    have hmodel := members_of_toJson foldCase model hicaos.1 hliveries.1 hdistributors.1
      (scopes ++ [indexScope "containerbase" index])
    rcases exists_of_map_eq_ok hmodel with ⟨first, hfirst, hmembers⟩
    refine ⟨first :: imported, ?_, ?_, ?_, ?_⟩
    · rw [List.map_cons, convertModels, QJsonValue.toObject_object, hfirst, himported]
      rfl
    · rw [List.map_cons, hrestored.1]
      exact congrArg (· :: _) (congrArg CAircraftModel.Members.aircraftIcao hmembers)
    · rw [List.map_cons, hrestored.2.1]
      exact congrArg (· :: _) (congrArg CAircraftModel.Members.livery hmembers)
    · rw [List.map_cons, hrestored.2.2]
      exact congrArg (· :: _) (congrArg CAircraftModel.Members.distributor hmembers)

/-- Both forms are read to models with the same members. -/
def AgreesWithPlain (fallback : Bool) (scopes : QStringList) : Prop :=
  ∃ plain, convertFromJson foldCase (l.toJson foldCase) scopes = .ok plain ∧
    Restores plain (convertFromMemoizedJson foldCase (l.toMemoizedJson foldCase) fallback scopes)

/-- A list whose elements are converted without loss comes back from the memoized form, as it
    does from the plain one, if and only if members in it that are alike are the same. -/
theorem restores_memoized_iff (hlossless : l.Lossless foldCase) (fallback : Bool)
    (scopes : QStringList) :
    (Restores l.models
        (convertFromMemoizedJson foldCase (l.toMemoizedJson foldCase) fallback scopes) ↔
      l.FaithfulMembers foldCase) ∧
    (l.AgreesWithPlain foldCase fallback scopes ↔ l.FaithfulMembers foldCase) := by
  rcases l.convertFromMemoizedJson_toMemoizedJson foldCase hlossless fallback scopes with
      ⟨imported, himported, hicaos, hliveries, hdistributors⟩
  have hrestores := l.restores_iff_faithful foldCase hicaos hliveries hdistributors
  rcases l.restores_toJson foldCase hlossless scopes with ⟨plain, hplain, hsame⟩
  rw [himported, ← hrestores]
  refine ⟨Iff.rfl, ?_⟩
  unfold AgreesWithPlain
  rw [himported, hplain]
  simp [Restores, hsame]

/-- Two models whose distributors have aliases that differ in their case. -/
def twoModels : CAircraftModelList where
  models := [{ distributor := { alias1 := "BLUE" } },
    { distributor := { alias1 := "Blue" } }]
  size_le := by decide

theorem lossless_twoModels : twoModels.Lossless .ascii := by
  unfold Lossless ValueClass.Lossless twoModels
  decide +kernel

/-- Two models that share a distributor, which is in the table once. -/
def sharedDistributor : CAircraftModelList where
  models := [{ modelString := "B738", distributor := { alias1 := "BLUE" } },
    { modelString := "A320", distributor := { alias1 := "BLUE" } }]
  size_le := by decide

theorem lossless_sharedDistributor : sharedDistributor.Lossless .ascii := by
  unfold Lossless ValueClass.Lossless sharedDistributor
  decide +kernel

theorem restores_one_distributor :
    Restores sharedDistributor.models
      (convertFromMemoizedJson .ascii (sharedDistributor.toMemoizedJson .ascii) false []) :=
  ((restores_memoized_iff .ascii sharedDistributor lossless_sharedDistributor false []).1).mpr (by
    refine ⟨?_, ?_, ?_⟩ <;> unfold Faithful sharedDistributor <;> decide +kernel)

/-- The second distributor comes back as the first one, though the elements are converted without
    loss. -/
theorem letter_case_is_lost :
    twoModels.Lossless .ascii ∧ ¬Restores twoModels.models
      (convertFromMemoizedJson .ascii (twoModels.toMemoizedJson .ascii) false []) := by
  refine ⟨lossless_twoModels, ?_⟩
  rcases twoModels.convertFromMemoizedJson_toMemoizedJson .ascii lossless_twoModels false []
      with ⟨imported, himported, hicaos, hliveries, hdistributors⟩
  rw [himported, twoModels.restores_iff_faithful .ascii hicaos hliveries hdistributors]
  rintro ⟨-, -, hfaithful⟩
  have halike := hfaithful { alias1 := "BLUE" } (by decide) { alias1 := "Blue" }
    (by decide) (by decide +kernel)
  cases halike

end CAircraftModelList

end Memoized

end NeoSwift.Misc
