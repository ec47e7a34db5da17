import NeoSwift.Fsd.Message.Position
import NeoSwift.Misc.Json
import NeoSwift.Misc.TimestampObjectList

/-!
# Aircraft Parts

`CAircraftParts` with its lights and engines, and how it is written as JSON and
read from it. Parts are sent in full once, and after that as the difference of the
JSON objects before and after a change.

Of the lights, the mark that they are null does not go through JSON; of an engine,
the number is the key it is written under. Two engines with one number are one
field, the last one of them.

## Main definitions

* `CAircraftParts`, `CAircraftEngine`: The parts.
* `CAircraftParts.toJson`, `CAircraftParts.convertFromJson`: The parts as JSON.
* `CAircraftParts.applyIncrement`: A difference arrives.
* `partsExchange`: A receiver that is sent one difference after the other.
* `lastState`: The state an engine had last.
* `Follows`: What the receiver has of the parts that were sent.

## Theorems

* `hasKinds_toJson`: The objects of all parts have the same shape.
* `followed_step`: A difference takes the receiver to the next parts.
* `receiver_follows`: The receiver has the parts of the sender, and engines the
  sender once had.
* `dropped_engine_stays`: An engine the sender no longer has.
-/

namespace NeoSwift.Aviation

open Misc (JsonMember TimestampWithOffsetBased)

open Fsd (AircraftLights)

/-- An engine: its number and whether it runs. -/
structure CAircraftEngine where
  number : Int32 := 1
  on : Bool := true
  deriving DecidableEq

/-- `CAircraftParts::PartsDetails`. -/
inductive PartsDetails where
  | notSet | fsdAircraftParts | guessedParts
  deriving DecidableEq

/-- The timestamp is not set by default. -/
structure CAircraftParts where
  lights : AircraftLights := {}
  engines : List CAircraftEngine := []
  partsDetails : PartsDetails := .notSet
  flapsPercentage : Int32 := 0
  gearDown : Bool := false
  spoilersOut : Bool := false
  isOnGround : Bool := false
  timestampMSecsSinceEpoch : ℤ := -1
  timeOffsetMs : ℤ := 0
  deriving DecidableEq

instance : TimestampWithOffsetBased CAircraftParts where
  getMSecsSinceEpoch := CAircraftParts.timestampMSecsSinceEpoch
  getTimeOffsetMs := CAircraftParts.timeOffsetMs
  setTimeOffsetMs parts os := { parts with timeOffsetMs := os }
  getMSecsSinceEpoch_set _ _ := rfl
  getTimeOffsetMs_set _ _ := rfl
  set_set _ _ _ := rfl

/-! ## JSON -/

/-- A member that is a `bool`. -/
def boolMember {α : Type} (name : QString) (get : α → Bool) (set : Bool → α → α) :
    JsonMember α where
  name := name
  write a := .bool (get a)
  read v a := set v.toBool a

/-- The JSON members of the lights. -/
def lightsMembers : List (JsonMember AircraftLights) :=
  [boolMember "strobe_on" AircraftLights.strobeOn (fun b l => { l with strobeOn := b }),
    boolMember "landing_on" AircraftLights.landingOn (fun b l => { l with landingOn := b }),
    boolMember "taxi_on" AircraftLights.taxiOn (fun b l => { l with taxiOn := b }),
    boolMember "beacon_on" AircraftLights.beaconOn (fun b l => { l with beaconOn := b }),
    boolMember "nav_on" AircraftLights.navOn (fun b l => { l with navOn := b }),
    boolMember "logo_on" AircraftLights.logoOn (fun b l => { l with logoOn := b }),
    boolMember "recognition_on" AircraftLights.recognitionOn
      (fun b l => { l with recognitionOn := b }),
    boolMember "cabin_on" AircraftLights.cabinOn (fun b l => { l with cabinOn := b }),
    boolMember "wing_on" AircraftLights.wingOn (fun b l => { l with wingOn := b })]

/-- The number of an engine is its key, not a member. -/
def engineMembers : List (JsonMember CAircraftEngine) :=
  [boolMember "on" CAircraftEngine.on (fun b e => { e with on := b })]

/-- `CAircraftEngineList::toJson`. -/
def enginesToJson (engines : List CAircraftEngine) : QJsonObject :=
  Misc.ofFields (engines.map (fun e =>
    (QString.number e.number.toInt, .object (Misc.toJson engineMembers e))))

/-- `CAircraftEngineList::convertFromJson`. -/
def enginesFromJson (json : QJsonObject) : List CAircraftEngine :=
  json.keys.map (fun e =>
    { Misc.convertFromJson engineMembers (json.child e) {} with number := e.toInt })

/-- The JSON members of the parts. -/
def partsMembers : List (JsonMember CAircraftParts) :=
  [{ name := "lights"
     write := fun p => .object (Misc.toJson lightsMembers p.lights)
     read := fun v p =>
       { p with lights := Misc.convertFromJson lightsMembers v.toObject p.lights } },
    boolMember "gear_down" CAircraftParts.gearDown (fun b p => { p with gearDown := b }),
    { name := "flaps_pct"
      write := fun p => .double p.flapsPercentage.toInt
      read := fun v p => { p with flapsPercentage := v.toInt } },
    boolMember "spoilers_out" CAircraftParts.spoilersOut
      (fun b p => { p with spoilersOut := b }),
    { name := "engines"
      write := fun p => .object (enginesToJson p.engines)
      read := fun v p => { p with engines := enginesFromJson v.toObject } },
    boolMember "on_ground" CAircraftParts.isOnGround (fun b p => { p with isOnGround := b })]

namespace CAircraftParts

variable (parts : CAircraftParts)

def toJson : QJsonObject := Misc.toJson partsMembers parts

def convertFromJson (json : QJsonObject) : CAircraftParts :=
  Misc.convertFromJson partsMembers json parts

def attributeNameIsFullJson : QString := "is_full_data"

/-- The parts as a full update, marked as one. -/
def toFullJson : QJsonObject :=
  (parts.toJson.remove attributeNameIsFullJson).insert attributeNameIsFullJson (.bool true)

/-- How an incremental object is read by the provider that has these parts. -/
def applyIncrement (json : QJsonObject) : CAircraftParts :=
  parts.convertFromJson (Misc.applyIncrementalObject parts.toJson json)

end CAircraftParts

/-- A sender and a receiver: the parts the sender has sent, and those the receiver
    has. The inputs are the parts the sender has from then on. -/
def partsExchange : Machine (CAircraftParts × CAircraftParts) CAircraftParts Empty where
  step s current :=
    ((current, s.2.applyIncrement (Misc.getIncrementalObject s.1.toJson current.toJson)), [])

/-- The exchange starts with the full JSON of the first parts. -/
def startExchange (first : CAircraftParts) : CAircraftParts × CAircraftParts :=
  (first, ({} : CAircraftParts).convertFromJson first.toFullJson)

/-- The state of the last engine with a number. -/
def engineState (engines : List CAircraftEngine) (n : Int32) : Option Bool :=
  (engines.reverse.find? (fun e => e.number = n)).map CAircraftEngine.on

/-- The state an engine had when the sender last had it. -/
def lastState (sent : List CAircraftParts) (n : Int32) : Option Bool :=
  sent.foldl (fun state parts => (engineState parts.engines n).or state) none

/-! ## The fields of the objects -/

theorem number_injective {m n : Int32} (h : QString.number m.toInt = QString.number n.toInt) :
    m = n := by
  have htext := congrArg QString.toInt h
  simpa only [QString.toInt_number] using htext

variable (parts : CAircraftParts)

/-- The fields of the parts are their members. -/
theorem value_partsToJson (key : QString) :
    parts.toJson.value key
      = QJsonObject.value [("on_ground", .bool parts.isOnGround),
          ("engines", .object (enginesToJson parts.engines)),
          ("spoilers_out", .bool parts.spoilersOut),
          ("flaps_pct", .double parts.flapsPercentage.toInt), ("gear_down", .bool parts.gearDown),
          ("lights", .object (Misc.toJson lightsMembers parts.lights))] key := by
  rw [CAircraftParts.toJson, Misc.value_toJson]
  rfl

theorem value_lights : parts.toJson.value "lights"
    = some (.object (Misc.toJson lightsMembers parts.lights)) := by
  rw [value_partsToJson]
  rfl

theorem value_engines : parts.toJson.value "engines"
    = some (.object (enginesToJson parts.engines)) := by
  rw [value_partsToJson]
  rfl

theorem value_gearDown : parts.toJson.value "gear_down" = some (.bool parts.gearDown) := by
  rw [value_partsToJson]
  rfl

theorem value_flapsPercentage :
    parts.toJson.value "flaps_pct" = some (.double parts.flapsPercentage.toInt) := by
  rw [value_partsToJson]
  rfl

theorem value_spoilersOut : parts.toJson.value "spoilers_out" = some (.bool parts.spoilersOut) := by
  rw [value_partsToJson]
  rfl

theorem value_isOnGround : parts.toJson.value "on_ground" = some (.bool parts.isOnGround) := by
  rw [value_partsToJson]
  rfl

theorem value_engineToJson (e : CAircraftEngine) (key : QString) :
    (Misc.toJson engineMembers e).value key
      = if key = "on" then some (.bool e.on) else none := by
  change QJsonObject.value [("on", .bool e.on)] key = _
  rw [QJsonObject.value_cons, QJsonObject.value_nil]

theorem value_fields_reverse (engines : List CAircraftEngine) (n : Int32) :
    QJsonObject.value (engines.map (fun e => (QString.number e.number.toInt,
        QJsonValue.object (Misc.toJson engineMembers e)))) (QString.number n.toInt)
      = (engines.find? (fun e => e.number = n)).map
          (fun e => .object (Misc.toJson engineMembers e)) := by
  induction engines with
  | nil => rfl
  | cons e engines ih =>
      rw [List.map_cons, QJsonObject.value_cons, List.find?_cons]
      by_cases hn : e.number = n
      · simp [hn]
      · have hne : QString.number n.toInt ≠ QString.number e.number.toInt :=
          fun heq => hn (number_injective heq.symm)
        simp only [hn, hne]
        exact ih

/-- The field of an engine number is that of the last engine with it. -/
theorem value_enginesToJson (engines : List CAircraftEngine) (n : Int32) :
    (enginesToJson engines).value (QString.number n.toInt)
      = (engines.reverse.find? (fun e => e.number = n)).map
          (fun e => .object (Misc.toJson engineMembers e)) := by
  rw [enginesToJson, Misc.value_ofFields, ← List.map_reverse, value_fields_reverse]

theorem mem_keys_ofFields (fields : List (QString × QJsonValue)) (key : QString)
    (h : key ∈ (Misc.ofFields fields).keys) : key ∈ fields.map Prod.fst := by
  by_contra hkey
  have hnone : QJsonObject.value fields.reverse key = none := by
    rw [QJsonObject.value_eq_none, QJsonObject.keys, List.map_reverse, List.mem_reverse]
    exact hkey
  exact QJsonObject.value_eq_none.mp ((Misc.value_ofFields fields key).trans hnone) h

variable {engines : List CAircraftEngine}

/-- Engines are written under their numbers only. -/
theorem exists_number_of_mem_keys {key : QString}
    (h : key ∈ (enginesToJson engines).keys) : ∃ n : Int32, key = QString.number n.toInt := by
  have hmem := mem_keys_ofFields _ key h
  rw [List.map_map, List.mem_map] at hmem
  rcases hmem with ⟨e, -, rfl⟩
  exact ⟨e.number, rfl⟩

/-- Every value of the engines is the object of one of them. -/
theorem exists_engine_of_value {key : QString} {v : QJsonValue}
    (h : (enginesToJson engines).value key = some v) :
    ∃ e ∈ engines, v = .object (Misc.toJson engineMembers e) := by
  have hkey : key ∈ (enginesToJson engines).keys := by
    by_contra hnot
    rw [QJsonObject.value_eq_none.mpr hnot] at h
    cases h
  rcases exists_number_of_mem_keys hkey with ⟨n, rfl⟩
  rw [value_enginesToJson, Option.map_eq_some_iff] at h
  rcases h with ⟨e, hfind, rfl⟩
  exact ⟨e, List.mem_reverse.mp (List.mem_of_find?_eq_some hfind), rfl⟩

variable (lights : AircraftLights)

/-- The fields of the lights are their lamps. -/
theorem value_lightsToJson (key : QString) :
    (Misc.toJson lightsMembers lights).value key
      = QJsonObject.value [("wing_on", .bool lights.wingOn), ("cabin_on", .bool lights.cabinOn),
          ("recognition_on", .bool lights.recognitionOn),
          ("logo_on", .bool lights.logoOn), ("nav_on", .bool lights.navOn),
          ("beacon_on", .bool lights.beaconOn), ("taxi_on", .bool lights.taxiOn),
          ("landing_on", .bool lights.landingOn), ("strobe_on", .bool lights.strobeOn)] key := by
  rw [Misc.value_toJson]
  rfl

theorem value_lamp {member : JsonMember AircraftLights} (h : member ∈ lightsMembers) :
    (Misc.toJson lightsMembers lights).value member.name = some (member.write lights) := by
  rw [value_lightsToJson]
  simp only [lightsMembers, List.mem_cons, List.not_mem_nil, or_false] at h
  rcases h with rfl | rfl | rfl | rfl | rfl | rfl | rfl | rfl | rfl <;> rfl

theorem isObject_of_value_lights {lights : AircraftLights} {key : QString} {v : QJsonValue}
    (h : (Misc.toJson lightsMembers lights).value key = some v) : v.isObject = false := by
  rw [value_lightsToJson] at h
  have hleaves : ∀ field ∈ [("wing_on".toList, QJsonValue.bool lights.wingOn),
      ("cabin_on".toList, .bool lights.cabinOn),
      ("recognition_on".toList, .bool lights.recognitionOn),
      ("logo_on".toList, .bool lights.logoOn), ("nav_on".toList, .bool lights.navOn),
      ("beacon_on".toList, .bool lights.beaconOn), ("taxi_on".toList, .bool lights.taxiOn),
      ("landing_on".toList, .bool lights.landingOn),
      ("strobe_on".toList, .bool lights.strobeOn)], field.2.isObject = false := by
    simp [QJsonValue.isObject]
  exact hleaves _ (Misc.mem_of_value h)

theorem isObject_of_value_engine {e : CAircraftEngine} {key : QString} {v : QJsonValue}
    (h : (Misc.toJson engineMembers e).value key = some v) : v.isObject = false := by
  rw [value_engineToJson] at h
  split at h
  · rw [← Option.some.inj h]
    rfl
  · cases h

/-! ## The shape of the objects -/

/-- The lights and the engines are objects, and every engine is one. -/
def partsKinds (key : QString) : QStringList → Bool
  | [] => key = "lights" || key = "engines"
  | [_] => key = "engines"
  | _ => false

theorem hasKinds_lights : Misc.HasKinds (fun _ _ => false) (Misc.toJson lightsMembers lights) :=
  Misc.hasKinds_of_leaves (fun _ _ hv => isObject_of_value_lights hv)

theorem distinctKeys_lights : Misc.DistinctKeys (Misc.toJson lightsMembers lights) :=
  Misc.distinctKeys_of_leaves (Misc.nodup_keys_toJson _ _)
    (fun _ _ hv => isObject_of_value_lights hv)

theorem hasKinds_engines (engines : List CAircraftEngine) :
    Misc.HasKinds (fun _ path => path.isEmpty) (enginesToJson engines) := by
  refine Misc.hasKinds_of_child (fun key v hv => ?_) (fun key => ?_)
  · rcases exists_engine_of_value hv with ⟨e, -, rfl⟩
    rfl
  · rcases Misc.child_cases (enginesToJson engines) key with hchild | ⟨v, hv, hchild⟩
    · rw [hchild]
      exact Misc.hasKinds_nil _
    · rcases exists_engine_of_value hv with ⟨e, -, rfl⟩
      rw [hchild]
      exact Misc.hasKinds_of_leaves (fun _ _ => isObject_of_value_engine)

theorem distinctKeys_engines (engines : List CAircraftEngine) :
    Misc.DistinctKeys (enginesToJson engines) := by
  refine Misc.distinctKeys_of_child (Misc.nodup_keys_ofFields _) (fun key => ?_)
  rcases Misc.child_cases (enginesToJson engines) key with hchild | ⟨v, hv, hchild⟩
  · rw [hchild]
    exact Misc.distinctKeys_nil
  · rcases exists_engine_of_value hv with ⟨e, -, rfl⟩
    rw [hchild]
    exact Misc.distinctKeys_of_leaves (Misc.nodup_keys_toJson _ _)
      (fun _ _ => isObject_of_value_engine)

/-- What a member of the parts is. -/
theorem member_cases {parts : CAircraftParts} {key : QString} {v : QJsonValue}
    (h : parts.toJson.value key = some v) :
    (key = "lights" ∧ v = .object (Misc.toJson lightsMembers parts.lights)) ∨
      (key = "engines" ∧ v = .object (enginesToJson parts.engines)) ∨
      (v.isObject = false ∧ key ≠ "lights" ∧ key ≠ "engines") := by
  rw [value_partsToJson] at h
  have hmem := Misc.mem_of_value h
  simp only [List.mem_cons, Prod.mk.injEq, List.not_mem_nil, or_false] at hmem
  rcases hmem with ⟨rfl, rfl⟩ | hengines | ⟨rfl, rfl⟩ | ⟨rfl, rfl⟩ | ⟨rfl, rfl⟩ | hlights
  · exact .inr (.inr ⟨rfl, by decide, by decide⟩)
  · exact .inr (.inl hengines)
  · exact .inr (.inr ⟨rfl, by decide, by decide⟩)
  · exact .inr (.inr ⟨rfl, by decide, by decide⟩)
  · exact .inr (.inr ⟨rfl, by decide, by decide⟩)
  · exact .inl hlights

/-- What is below a member of the parts. -/
theorem child_partsToJson (key : QString) :
    (key = "lights" ∧ parts.toJson.child key = Misc.toJson lightsMembers parts.lights) ∨
      (key = "engines" ∧ parts.toJson.child key = enginesToJson parts.engines) ∨
      parts.toJson.child key = [] := by
  rcases Misc.child_cases parts.toJson key with hchild | ⟨v, hv, hchild⟩
  · exact .inr (.inr hchild)
  · rcases member_cases hv with ⟨hkey, hobject⟩ | ⟨hkey, hobject⟩ | ⟨hleaf, -, -⟩
    · exact .inl ⟨hkey, by rw [hchild, hobject, QJsonValue.toObject_object]⟩
    · exact .inr (.inl ⟨hkey, by rw [hchild, hobject, QJsonValue.toObject_object]⟩)
    · exact .inr (.inr (Misc.child_of_leaf hv hleaf))

/-- The objects of all parts have the same shape. -/
theorem hasKinds_toJson : Misc.HasKinds partsKinds parts.toJson := by
  refine Misc.hasKinds_of_child (fun key v hv => ?_) (fun key => ?_)
  · rcases member_cases hv with ⟨hkey, hobject⟩ | ⟨hkey, hobject⟩ | ⟨hleaf, hlights, hengines⟩
    · rw [hobject, hkey]
      rfl
    · rw [hobject, hkey]
      rfl
    · rw [hleaf, partsKinds, decide_eq_false hlights, decide_eq_false hengines]
      rfl
  · rcases child_partsToJson parts key with ⟨hkey, hchild⟩ | ⟨hkey, hchild⟩ | hchild
    · rw [hchild]
      intro key' path v hv
      rw [hasKinds_lights parts.lights key' path v hv, hkey]
      cases path <;> rfl
    · rw [hchild]
      intro key' path v hv
      rw [hasKinds_engines parts.engines key' path v hv, hkey]
      cases path <;> rfl
    · rw [hchild]
      exact Misc.hasKinds_nil _

theorem distinctKeys_toJson : Misc.DistinctKeys parts.toJson := by
  refine Misc.distinctKeys_of_child (Misc.nodup_keys_toJson _ _) (fun key => ?_)
  rcases child_partsToJson parts key with ⟨-, hchild⟩ | ⟨-, hchild⟩ | hchild
  · rw [hchild]
    exact distinctKeys_lights parts.lights
  · rw [hchild]
    exact distinctKeys_engines parts.engines
  · rw [hchild]
    exact Misc.distinctKeys_nil

/-! ## Reading -/

theorem lightsFromJson {json : QJsonObject} {q : AircraftLights}
    (h : ∀ member ∈ lightsMembers, json.value member.name = some (member.write q))
    (lights : AircraftLights) :
    Misc.convertFromJson lightsMembers json lights = { q with isNull := lights.isNull } := by
  rw [Misc.convertFromJson_of_value h]
  rfl

/-- Reading an object that has all members of the parts. -/
theorem partsFromJson {config lights engines : QJsonObject} {q : CAircraftParts}
    (parts : CAircraftParts) (hlights : config.value "lights" = some (.object lights))
    (hgear : config.value "gear_down" = some (.bool q.gearDown))
    (hflaps : config.value "flaps_pct" = some (.double q.flapsPercentage.toInt))
    (hspoilers : config.value "spoilers_out" = some (.bool q.spoilersOut))
    (hengines : config.value "engines" = some (.object engines))
    (hground : config.value "on_ground" = some (.bool q.isOnGround)) :
    parts.convertFromJson config
      = { parts with
          lights := Misc.convertFromJson lightsMembers lights parts.lights
          gearDown := q.gearDown
          flapsPercentage := q.flapsPercentage
          spoilersOut := q.spoilersOut
          engines := enginesFromJson engines
          isOnGround := q.isOnGround } := by
  simp only [CAircraftParts.convertFromJson, Misc.convertFromJson, partsMembers, boolMember,
    List.foldl_cons, List.foldl_nil, hlights, hgear, hflaps, hspoilers, hengines, hground,
    Option.map_some, Option.getD_some, QJsonValue.toObject_object, QJsonValue.toInt_double,
    QJsonValue.toBool]

/-- Different keys are read as different engine numbers. -/
theorem nodup_numbers {json : QJsonObject} (hkeys : json.keys.Nodup)
    (hnumber : ∀ key ∈ json.keys, ∃ n : Int32, key = QString.number n.toInt) :
    ((enginesFromJson json).map CAircraftEngine.number).Nodup := by
  unfold enginesFromJson
  rw [List.map_map]
  refine hkeys.map_on fun key hkey key' hkey' heq => ?_
  rcases hnumber key hkey with ⟨n, rfl⟩
  rcases hnumber key' hkey' with ⟨m, rfl⟩
  change (QString.number n.toInt).toInt = (QString.number m.toInt).toInt at heq
  rw [QString.toInt_number, QString.toInt_number] at heq
  rw [heq]

/-- The engines that are read, where every key is an engine number and every engine
    has its state. -/
theorem mem_enginesFromJson {json : QJsonObject} (state : Int32 → Option Bool)
    (hkeys : ∀ key ∈ json.keys, ∃ n : Int32, key = QString.number n.toInt ∧
      ∃ b, state n = some b ∧ (json.child key).value "on" = some (.bool b))
    (hstate : ∀ n : Int32, state n ≠ none → QString.number n.toInt ∈ json.keys)
    (n : Int32) (b : Bool) :
    (⟨n, b⟩ : CAircraftEngine) ∈ enginesFromJson json ↔ state n = some b := by
  -- Each key is read as the engine with its number and its state.
  have hread : ∀ key ∈ json.keys, ∃ m c, key = QString.number (Int32.toInt m) ∧ state m = some c ∧
      ({ Misc.convertFromJson engineMembers (json.child key) {} with number := key.toInt } :
        CAircraftEngine) = ⟨m, c⟩ := by
    intro key hkey
    rcases hkeys key hkey with ⟨m, htext, c, hc, hon⟩
    refine ⟨m, c, htext, hc, ?_⟩
    have hmember : ∀ member ∈ engineMembers,
        (json.child key).value member.name = some (member.write ⟨m, c⟩) := by
      rw [engineMembers, List.forall_mem_singleton]
      exact hon
    rw [Misc.convertFromJson_of_value hmember, htext, QString.toInt_number]
    rfl
  unfold enginesFromJson
  rw [List.mem_map]
  constructor
  · rintro ⟨key, hkey, hengine⟩
    rcases hread key hkey with ⟨m, c, -, hc, hmc⟩
    rw [hmc, CAircraftEngine.mk.injEq] at hengine
    rw [← hengine.1, hc, hengine.2]
  · intro hb
    have hkey := hstate n (by rw [hb]; exact Option.some_ne_none b)
    refine ⟨_, hkey, ?_⟩
    rcases hread _ hkey with ⟨m, c, htext, hc, hmc⟩
    -- Two engines have different keys, so it is this engine's.
    have hmn := number_injective htext
    subst hmn
    rw [hmc, Option.some.inj (hb.symm.trans hc)]

/-! ## One difference -/

/-- What the receiver has after the parts were sent: the last of them, except for
    engines, of which it has every number in its last state. -/
structure Follows (received : CAircraftParts) (sent : List CAircraftParts) (last : CAircraftParts) :
    Prop where
  lights : received.lights = { last.lights with isNull := false }
  gearDown : received.gearDown = last.gearDown
  flapsPercentage : received.flapsPercentage = last.flapsPercentage
  spoilersOut : received.spoilersOut = last.spoilersOut
  isOnGround : received.isOnGround = last.isOnGround
  numbers : (received.engines.map CAircraftEngine.number).Nodup
  engines : ∀ n b, (⟨n, b⟩ : CAircraftEngine) ∈ received.engines ↔ lastState sent n = some b

theorem lastState_append_singleton (sent : List CAircraftParts) (current : CAircraftParts)
    (n : Int32) :
    lastState (sent ++ [current]) n = (engineState current.engines n).or (lastState sent n) := by
  unfold lastState
  rw [List.foldl_append]
  rfl

theorem mem_of_engineState {n : Int32} {b : Bool}
    (h : engineState engines n = some b) : (⟨n, b⟩ : CAircraftEngine) ∈ engines := by
  rcases Option.map_eq_some_iff.mp h with ⟨e, hfind, rfl⟩
  have hnumber := List.find?_some hfind
  rw [decide_eq_true_eq] at hnumber
  rw [← hnumber]
  exact List.mem_reverse.mp (List.mem_of_find?_eq_some hfind)

theorem engineState_eq_none {n : Int32}
    (h : engineState engines n = none) (b : Bool) : (⟨n, b⟩ : CAircraftEngine) ∉ engines := by
  unfold engineState at h
  rw [Option.map_eq_none_iff, List.find?_eq_none] at h
  intro hmem
  exact h _ (List.mem_reverse.mpr hmem) (decide_eq_true rfl)

/-- The receiver has one engine of each number. -/
theorem Follows.engineState {received last : CAircraftParts} {sent : List CAircraftParts}
    (h : Follows received sent last) (n : Int32) :
    engineState received.engines n = lastState sent n := by
  cases hstate : Aviation.engineState received.engines n with
  | some b => rw [(h.engines n b).mp (mem_of_engineState hstate)]
  | none =>
      cases hlast : lastState sent n with
      | none => rfl
      | some b => exact absurd ((h.engines n b).mpr hlast) (engineState_eq_none hstate b)

theorem leafAt_engine (engines : List CAircraftEngine) (n : Int32) :
    Misc.leafAt (enginesToJson engines) (QString.number n.toInt) ["on"]
      = (engineState engines n).map QJsonValue.bool := by
  rw [Misc.leafAt_cons]
  unfold engineState
  have hvalue := value_enginesToJson engines n
  cases hfind : engines.reverse.find? (fun e => e.number = n) with
  | none =>
      rw [hfind] at hvalue
      rw [Misc.child_of_none hvalue]
      rfl
  | some e =>
      rw [hfind] at hvalue
      rw [QJsonObject.child_of_object hvalue]
      rfl

/-- The object of the engines has a number where it has a state for it. -/
theorem value_enginesToJson_ne_none {n : Int32} :
    (enginesToJson engines).value (QString.number n.toInt) ≠ none ↔
      engineState engines n ≠ none := by
  rw [value_enginesToJson, engineState, ne_eq, ne_eq, Option.map_eq_none_iff,
    Option.map_eq_none_iff]

section Step

variable (received previous current : CAircraftParts)

/-- What the receiver reads: its own parts with the difference merged in. -/
def mergedConfig (received previous current : CAircraftParts) : QJsonObject :=
  Misc.applyIncrementalObject received.toJson
    (Misc.getIncrementalObject previous.toJson current.toJson)

theorem hasKinds_mergedConfig : Misc.HasKinds partsKinds (mergedConfig received previous current) :=
  (hasKinds_toJson received).applyIncrementalObject
    ((hasKinds_toJson previous).getIncrementalObject (hasKinds_toJson current)
      (distinctKeys_toJson previous))

/-- A leaf that all three objects have is the current one. -/
theorem leafAt_mergedConfig {key : QString} {path : QStringList} {v w : QJsonValue}
    (hplain : ∀ u, QJsonValue.equals u v = true → u = v)
    (hreceived : Misc.leafAt received.toJson key path = some v)
    (hprevious : Misc.leafAt previous.toJson key path = some v)
    (hcurrent : Misc.leafAt current.toJson key path = some w) :
    Misc.leafAt (mergedConfig received previous current) key path = some w := by
  rw [mergedConfig, Misc.leafAt_merged (hasKinds_toJson previous) (hasKinds_toJson current)
    (hasKinds_toJson received) (distinctKeys_toJson previous), hcurrent, Option.some_or]
  · intro u hu
    rw [hprevious, Option.mem_def, Option.some.injEq] at hu
    rw [← hu]
    exact hplain
  · intro u hu
    rw [hprevious] at hu
    rw [hreceived, hu]

/-- A plain member that the receiver and the sender had alike is the current one. -/
theorem value_mergedConfig {key : QString} {write : CAircraftParts → QJsonValue}
    (hkind : partsKinds key [] = false) (hwrite : ∀ parts, parts.toJson.value key =
      some (write parts))
    (hplain : ∀ parts u, QJsonValue.equals u (write parts) = true → u = write parts)
    (hsame : write received = write previous) :
    (mergedConfig received previous current).value key = some (write current) := by
  have hleaf : ∀ parts : CAircraftParts, Misc.leafAt parts.toJson key [] = some (write parts) :=
    fun parts => (Misc.leafAt_of_not_isObject (hasKinds_toJson parts) hkind).trans (hwrite parts)
  have hmerged := leafAt_mergedConfig received previous current
    (hplain previous) (hsame ▸ hleaf received) (hleaf previous) (hleaf current)
  rw [← Misc.leafAt_of_not_isObject (hasKinds_mergedConfig received previous current) hkind]
  exact hmerged

theorem child_lights (parts : CAircraftParts) :
    parts.toJson.child "lights" = Misc.toJson lightsMembers parts.lights :=
  QJsonObject.child_of_object (value_lights parts)

theorem child_engines (parts : CAircraftParts) :
    parts.toJson.child "engines" = enginesToJson parts.engines :=
  QJsonObject.child_of_object (value_engines parts)

/-- A member that the receiver has as an object stays one. -/
theorem exists_object_mergedConfig {key : QString} (hkind : partsKinds key [] = true)
    (hreceived : received.toJson.value key ≠ none) :
    ∃ fields, (mergedConfig received previous current).value key = some (.object fields) := by
  have hsome : (mergedConfig received previous current).value key ≠ none := by
    rw [mergedConfig, Misc.value_applyIncrementalObject]
    cases (Misc.getIncrementalObject previous.toJson current.toJson).value key with
    | none =>
        rw [Option.map_none, Option.none_or]
        exact hreceived
    | some v =>
        exact Option.some_ne_none _
  rcases Option.ne_none_iff_exists'.mp hsome with ⟨v, hv⟩
  have hobject : v.isObject = true :=
    (hasKinds_mergedConfig received previous current key [] v hv).trans hkind
  rcases QJsonValue.isObject_iff.mp hobject with ⟨fields, rfl⟩
  exact ⟨fields, hv⟩

/-- The lamps are those of the current lights. -/
theorem value_mergedConfig_lights
    (hlights : received.lights = { previous.lights with isNull := false }) :
    ∀ member ∈ lightsMembers, ((mergedConfig received previous current).child "lights").value
      member.name = some (member.write current.lights) := by
  have hkind : ∀ name, partsKinds "lights" [name] = false := fun _ => rfl
  have hleaf : ∀ (parts : CAircraftParts) (name : QString),
      Misc.leafAt parts.toJson "lights" [name]
        = (Misc.toJson lightsMembers parts.lights).value name := by
    intro parts name
    rw [Misc.leafAt_cons, child_lights,
      Misc.leafAt_of_not_isObject (hasKinds_lights parts.lights) rfl]
  -- The lamps are written in the same way whether the lights are null or not.
  have hbool : ∀ member ∈ lightsMembers, ∀ lights : AircraftLights,
      ∃ b, member.write lights = .bool b ∧
        member.write { lights with isNull := false } = .bool b := by
    intro member hmember lights
    simp only [lightsMembers, List.mem_cons, List.not_mem_nil, or_false] at hmember
    rcases hmember with rfl | rfl | rfl | rfl | rfl | rfl | rfl | rfl | rfl <;> exact ⟨_, rfl, rfl⟩
  intro member hmember
  rcases hbool member hmember previous.lights with ⟨b, hprevious, hreceived⟩
  have hmerged := leafAt_mergedConfig received previous current
    (fun u hu => (QJsonValue.equals_bool u b).mp hu)
    -- The lamp is what it was in both, so the merge takes the current one.
    (by rw [hleaf, value_lamp _ hmember, hlights, hreceived])
    (by rw [hleaf, value_lamp _ hmember, hprevious])
    ((hleaf current member.name).trans (value_lamp _ hmember))
  rw [Misc.leafAt_cons, Misc.leafAt_of_not_isObject
    ((hasKinds_mergedConfig received previous current).child "lights")
    (hkind member.name)] at hmerged
  exact hmerged

theorem child_engines_mergedConfig :
    (mergedConfig received previous current).child "engines"
      = Misc.applyIncrementalObject (enginesToJson received.engines)
          (Misc.getIncrementalObject (enginesToJson previous.engines)
            (enginesToJson current.engines)) := by
  rw [mergedConfig, Misc.child_applyIncrementalObject (hasKinds_toJson received)
    ((hasKinds_toJson previous).getIncrementalObject (hasKinds_toJson current)
    (distinctKeys_toJson previous)), Misc.child_getIncrementalObject (hasKinds_toJson previous)
    (hasKinds_toJson current) (distinctKeys_toJson previous), child_engines, child_engines,
    child_engines]

/-- A key comes from the engines of one of the three. -/
theorem key_mergedConfig_engines {key : QString}
    (hkey : ((mergedConfig received previous current).child "engines").value key ≠ none) :
    (enginesToJson received.engines).value key ≠ none ∨
      (enginesToJson previous.engines).value key ≠ none ∨
      (enginesToJson current.engines).value key ≠ none := by
  rw [child_engines_mergedConfig, Misc.value_applyIncrementalObject] at hkey
  by_cases hdifference : (Misc.getIncrementalObject (enginesToJson previous.engines)
      (enginesToJson current.engines)).value key = none
  · rw [hdifference] at hkey
    exact .inl hkey
  · exact .inr (Misc.value_of_getIncrementalObject hdifference)

theorem exists_number_mergedConfig {key : QString}
    (hkey : key ∈ ((mergedConfig received previous current).child "engines").keys) :
    ∃ n : Int32, key = QString.number n.toInt := by
  have hvalue : ((mergedConfig received previous current).child "engines").value key
      ≠ none := fun hnone => QJsonObject.value_eq_none.mp hnone hkey
  rcases key_mergedConfig_engines received previous current hvalue with hv | hv | hv
  all_goals exact exists_number_of_mem_keys (not_not.mp (mt QJsonObject.value_eq_none.mpr hv))

/-- The engines are those of the current parts and those the receiver has besides. -/
theorem mem_mergedConfig_engines (hprevious : ∀ n b, engineState previous.engines n = some b →
      engineState received.engines n = some b) (n : Int32) (b : Bool) :
    (⟨n, b⟩ : CAircraftEngine) ∈
        enginesFromJson ((mergedConfig received previous current).child "engines")
      ↔ (engineState current.engines n).or (engineState received.engines n) = some b := by
  have hkinds := (hasKinds_mergedConfig received previous current).child "engines"
  -- The state at a number, whichever of the objects it comes from.
  have hleaf : ∀ n : Int32, Misc.leafAt ((mergedConfig received previous current).child
        "engines") (QString.number n.toInt) ["on"]
      = ((engineState current.engines n).or (engineState received.engines n)).map
          QJsonValue.bool := by
    intro n
    rw [child_engines_mergedConfig, Misc.leafAt_merged (hasKinds_engines _) (hasKinds_engines _)
      (hasKinds_engines _) (distinctKeys_engines _), leafAt_engine, leafAt_engine]
    · cases engineState current.engines n <;> rfl
    · intro v hv
      rw [leafAt_engine] at hv
      rcases Option.map_eq_some_iff.mp hv with ⟨c, -, rfl⟩
      exact fun u hu => (QJsonValue.equals_bool u c).mp hu
    · intro v hv
      rw [leafAt_engine] at hv ⊢
      rcases Option.map_eq_some_iff.mp hv with ⟨c, hc, rfl⟩
      rw [hprevious n c hc]
      rfl
  refine mem_enginesFromJson
    (fun n => (engineState current.engines n).or (engineState received.engines n))
    (fun key hkey => ?_) (fun n hn => ?_) n b
  · have hvalue : ((mergedConfig received previous current).child "engines").value key
        ≠ none := fun hnone => QJsonObject.value_eq_none.mp hnone hkey
    rcases exists_number_mergedConfig received previous current hkey with ⟨m, rfl⟩
    refine ⟨m, rfl, ?_⟩
    have hstate : (engineState current.engines m).or (engineState received.engines m) ≠ none := by
      rw [ne_eq, Option.or_eq_none_iff, not_and_or]
      rcases key_mergedConfig_engines received previous current hvalue with hv | hv | hv
      · exact .inr (value_enginesToJson_ne_none.mp hv)
      · rcases Option.ne_none_iff_exists'.mp (value_enginesToJson_ne_none.mp hv) with ⟨c, hc⟩
        exact .inr (by rw [hprevious m c hc]; exact Option.some_ne_none c)
      · exact .inl (value_enginesToJson_ne_none.mp hv)
    rcases Option.ne_none_iff_exists'.mp hstate with ⟨c, hc⟩
    refine ⟨c, hc, ?_⟩
    have hon := hleaf m
    rw [hc, Misc.leafAt_cons, Misc.leafAt_of_not_isObject (hkinds.child _) rfl] at hon
    exact hon
  · rcases Option.ne_none_iff_exists'.mp hn with ⟨c, hc⟩
    by_contra hkey
    have hon := hleaf n
    rw [hc, Misc.leafAt_cons, Misc.child_of_none (QJsonObject.value_eq_none.mpr hkey)] at hon
    cases hon

/-- A difference takes the receiver to the next parts. -/
theorem followed_step {sent : List CAircraftParts} (h : Follows received sent previous)
    (hlast : ∀ n b, engineState previous.engines n = some b → lastState sent n = some b) :
    Follows (received.applyIncrement (Misc.getIncrementalObject previous.toJson current.toJson))
      (sent ++ [current]) current := by
  have hprevious : ∀ n b, engineState previous.engines n = some b →
      engineState received.engines n = some b := by
    intro n b hb
    rw [h.engineState, hlast n b hb]
  -- The two nested objects are there, whatever they hold.
  rcases exists_object_mergedConfig received previous current rfl
    (by rw [value_lights]; exact Option.some_ne_none _) with ⟨lights, hlights⟩
  rcases exists_object_mergedConfig received previous current rfl
    (by rw [value_engines]; exact Option.some_ne_none _) with ⟨engines, hengines⟩
  have hgear := value_mergedConfig received previous current rfl
    value_gearDown (fun parts u => (QJsonValue.equals_bool u parts.gearDown).mp)
    (congrArg QJsonValue.bool h.gearDown)
  have hflaps := value_mergedConfig received previous current rfl
    value_flapsPercentage
    (fun parts u => (QJsonValue.equals_double u parts.flapsPercentage.toInt).mp)
    (congrArg (fun n : Int32 => QJsonValue.double n.toInt) h.flapsPercentage)
  have hspoilers := value_mergedConfig received previous current rfl
    value_spoilersOut (fun parts u => (QJsonValue.equals_bool u parts.spoilersOut).mp)
    (congrArg QJsonValue.bool h.spoilersOut)
  have hground := value_mergedConfig received previous current rfl
    value_isOnGround (fun parts u => (QJsonValue.equals_bool u parts.isOnGround).mp)
    (congrArg QJsonValue.bool h.isOnGround)
  have hlamps := value_mergedConfig_lights received previous current
    h.lights
  rw [QJsonObject.child_of_object hlights] at hlamps
  have hmem := mem_mergedConfig_engines received previous current
    hprevious
  have hnumbers := nodup_numbers
    (child_engines_mergedConfig received previous current ▸
      Misc.nodup_keys_applyIncrementalObject (distinctKeys_engines received.engines).1 _)
    (fun key hkey => exists_number_mergedConfig received previous current hkey)
  rw [QJsonObject.child_of_object hengines] at hmem hnumbers
  have hread : received.applyIncrement
      (Misc.getIncrementalObject previous.toJson current.toJson) = _ :=
    partsFromJson received hlights hgear hflaps hspoilers hengines hground
  rw [hread]
  refine ⟨?_, rfl, rfl, rfl, rfl, hnumbers, fun n b => ?_⟩
  · dsimp only
    rw [lightsFromJson hlamps, h.lights]
  · dsimp only
    rw [hmem n b, lastState_append_singleton, h.engineState]

end Step

/-! ## The exchange -/

/-- The mark that JSON is full does not hide a member. -/
theorem value_toFullJson {key : QString} (h : key ≠ CAircraftParts.attributeNameIsFullJson) :
    parts.toFullJson.value key = parts.toJson.value key := by
  rw [CAircraftParts.toFullJson, QJsonObject.value_insert, if_neg h, QJsonObject.value_remove,
    if_neg h]

theorem lastState_singleton (n : Int32) :
    lastState [parts] n = engineState parts.engines n := Option.or_none

/-- Reading back the engines that were written. -/
theorem mem_enginesFromJson_enginesToJson (engines : List CAircraftEngine) (n : Int32) (b : Bool) :
    (⟨n, b⟩ : CAircraftEngine) ∈ enginesFromJson (enginesToJson engines)
      ↔ engineState engines n = some b := by
  refine mem_enginesFromJson (engineState engines) (fun key hkey => ?_) (fun m hm => ?_) n b
  · rcases exists_number_of_mem_keys hkey with ⟨m, rfl⟩
    have hstate := value_enginesToJson_ne_none.mp (fun hnone =>
      QJsonObject.value_eq_none.mp hnone hkey)
    rcases Option.ne_none_iff_exists'.mp hstate with ⟨c, hc⟩
    refine ⟨m, rfl, c, hc, ?_⟩
    have hon := leafAt_engine engines m
    rw [hc, Misc.leafAt_cons,
      Misc.leafAt_of_not_isObject ((hasKinds_engines engines).child _) rfl] at hon
    exact hon
  · by_contra hkey
    exact value_enginesToJson_ne_none.mpr hm (QJsonObject.value_eq_none.mpr hkey)

/-- The full object gives the receiver the first parts. -/
theorem follows_start (first : CAircraftParts) : Follows (startExchange first).2 [first] first := by
  have hlights : first.toFullJson.value "lights" = _ :=
    (value_toFullJson first (by decide)).trans (value_lights first)
  have hgear : first.toFullJson.value "gear_down" = _ :=
    (value_toFullJson first (by decide)).trans (value_gearDown first)
  have hflaps : first.toFullJson.value "flaps_pct" = _ :=
    (value_toFullJson first (by decide)).trans (value_flapsPercentage first)
  have hspoilers : first.toFullJson.value "spoilers_out" = _ :=
    (value_toFullJson first (by decide)).trans (value_spoilersOut first)
  have hengines : first.toFullJson.value "engines" = _ :=
    (value_toFullJson first (by decide)).trans (value_engines first)
  have hground : first.toFullJson.value "on_ground" = _ :=
    (value_toFullJson first (by decide)).trans (value_isOnGround first)
  have hread := partsFromJson {} hlights hgear hflaps hspoilers hengines hground
  unfold startExchange
  rw [hread]
  refine ⟨?_, rfl, rfl, rfl, rfl, nodup_numbers (distinctKeys_engines first.engines).1
    fun key hkey => exists_number_of_mem_keys hkey, fun n b => ?_⟩
  · dsimp only
    rw [lightsFromJson (fun member hmember => value_lamp first.lights hmember)]
  · dsimp only
    rw [mem_enginesFromJson_enginesToJson, lastState_singleton]

/-- The sender's engines are among those it has sent, in their last state. -/
theorem lastState_of_last (sent : List CAircraftParts) {current : CAircraftParts} {n : Int32}
    {b : Bool} (h : engineState current.engines n = some b) :
    lastState (sent ++ [current]) n = some b := by
  rw [lastState_append_singleton, h, Option.some_or]

/-- Every step of the exchange takes the receiver along. -/
theorem follows_run (first : CAircraftParts) (later : List CAircraftParts) :
    Follows (partsExchange.run (startExchange first) later).1.2 (first :: later)
        (later.getLastD first) ∧ ∀ n b, engineState (later.getLastD first).engines n = some b →
        lastState (first :: later) n = some b := by
  have hrun := partsExchange.run_history
    (fun later s _ => s.1 = later.getLastD first ∧ Follows s.2 (first :: later) s.1 ∧
      ∀ n b, engineState s.1.engines n = some b → lastState (first :: later) n = some b)
    (startExchange first) ⟨rfl, follows_start first, fun n b hb => by
      rw [lastState_singleton]; exact hb⟩
    (fun later s _ current h => by
      refine ⟨?_, followed_step _ _ current h.2.1 h.2.2, fun n b hb => ?_⟩
      · rw [List.getLastD_concat]
        rfl
      · exact lastState_of_last (first :: later) hb) later
  rw [← hrun.1]
  exact hrun.2

/-- No engine number that was sent is missing in the last parts. -/
def KeepsEngines (sent : List CAircraftParts) (last : CAircraftParts) : Prop :=
  ∀ parts ∈ sent, ∀ e ∈ parts.engines, ∃ e' ∈ last.engines, e'.number = e.number

/-- Two engines with one number are in the same state. -/
def OneState (engines : List CAircraftEngine) : Prop :=
  ∀ e ∈ engines, ∀ e' ∈ engines, e.number = e'.number → e.on = e'.on

theorem exists_mem_of_lastState {sent : List CAircraftParts} {n : Int32} {b : Bool}
    (h : lastState sent n = some b) :
    ∃ parts ∈ sent, (⟨n, b⟩ : CAircraftEngine) ∈ parts.engines := by
  induction sent using List.reverseRecOn with
  | nil => exact absurd h (by simp [lastState])
  | append_singleton sent current ih =>
      rw [lastState_append_singleton, Option.or_eq_some_iff] at h
      rcases h with hcurrent | ⟨-, hearlier⟩
      · exact ⟨current, by simp,
          mem_of_engineState hcurrent⟩
      · rcases ih hearlier with ⟨parts, hparts, hmem⟩
        exact ⟨parts, List.mem_append_left _ hparts, hmem⟩

theorem engineState_of_oneState (h : OneState engines)
    {e : CAircraftEngine} (he : e ∈ engines) : engineState engines e.number = some e.on := by
  cases hstate : engineState engines e.number with
  | none => exact absurd he (engineState_eq_none hstate e.on)
  | some b => rw [h e he _ (mem_of_engineState hstate) rfl]

/-- The receiver has the parts of the sender, where no engine number has gone and
    no number has two states. -/
theorem engines_of_follows {received last : CAircraftParts} {sent : List CAircraftParts}
    (h : Follows received sent last) (hlast : ∀ n b, engineState last.engines n = some b →
      lastState sent n = some b) (hkeeps : KeepsEngines sent last) (hone : OneState last.engines)
    (e : CAircraftEngine) : e ∈ received.engines ↔ e ∈ last.engines := by
  rw [show e = ⟨e.number, e.on⟩ from rfl, h.engines]
  constructor
  · intro hstate
    rcases exists_mem_of_lastState hstate with ⟨parts, hparts, hmem⟩
    rcases hkeeps parts hparts _ hmem with ⟨e', he', hnumber⟩
    -- The number is in the last parts, so its last state is the one it has there.
    have hstate' := engineState_of_oneState hone he'
    rw [hnumber] at hstate'
    rw [hlast _ _ hstate', Option.some.injEq] at hstate
    rw [← hstate, ← hnumber]
    exact he'
  · exact fun he => hlast _ _ (engineState_of_oneState hone he)

/-- After every step the receiver has the lamps, the gear, the flaps, the spoilers and
    the on-ground flag of the sender, and each engine number sent so far in its last
    state. These are the sender's engines as long as none of them has gone. -/
theorem receiver_follows (first : CAircraftParts) (later : List CAircraftParts) :
    Follows (partsExchange.run (startExchange first) later).1.2 (first :: later)
        (later.getLastD first) ∧ (KeepsEngines (first :: later) (later.getLastD first) →
        OneState (later.getLastD first).engines →
          ∀ e, e ∈ (partsExchange.run (startExchange first) later).1.2.engines
            ↔ e ∈ (later.getLastD first).engines) := by
  rcases follows_run first later with ⟨hfollows, hlast⟩
  exact ⟨hfollows, fun hkeeps hone => engines_of_follows hfollows hlast hkeeps hone⟩

/-- The sender goes from two engines to one, and the receiver keeps the second. -/
theorem dropped_engine_stays :
    (⟨2, true⟩ : CAircraftEngine) ∈
        (partsExchange.run (startExchange { engines := [⟨1, true⟩, ⟨2, true⟩] })
          [{ engines := [⟨1, true⟩] }]).1.2.engines ∧
      (⟨2, true⟩ : CAircraftEngine) ∉ [(⟨1, true⟩ : CAircraftEngine)] := by
  refine ⟨((follows_run _ _).1.engines 2 true).mpr ?_, by decide⟩
  decide

end NeoSwift.Aviation
