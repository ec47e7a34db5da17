import NeoSwift.Misc.JsonConversion
import NeoSwift.Misc.Simulation.RemoteAircraftProvider

/-!
# Parts that cannot be read

`storeAircraftParts` for a JSON object, with the exceptions of the conversion. The handler of
the exceptions writes a message and nothing else: what has been read up to then is stored like
any other parts, so that a conversion that throws would leave its half of the work behind.

No conversion of parts throws. No member of the parts, of the lights and of an engine is
required, and a value of another type than its member is read as the default of that type. An
object that makes no sense is stored as what can be read of it.

## Main definitions

* `partsMetaMembers`, `convertEngines`: The meta class of the parts.
* `partsConversion`: What is done with an incoming object.
* `storeAircraftPartsCaught`: The operation with its handler.
* `LeavesPartsIntact`: What a conversion that throws is to leave behind.

## Theorems

* `readsAs_convertEngines`, `readsAs_parts`: Nothing of the parts throws.
* `malformed_parts_leave_parts_intact`: No object throws, and the operation is the one without
  exceptions.
-/

namespace NeoSwift

namespace Aviation

open Misc (CJsonException Conversion JsonMetaMember convertByMetaClass inMember stateOf)

open Fsd (AircraftLights)

/-- A `bool` or an `int`, which is read from any value. -/
def plainMember {α : Type} (name : QString) (set : QJsonValue → α → α) : JsonMetaMember α where
  name := name
  read v _ := modify (set v)

def lightsMetaMembers : List (JsonMetaMember AircraftLights) :=
  [plainMember "strobe_on" (fun v l => { l with strobeOn := v.toBool }),
    plainMember "landing_on" (fun v l => { l with landingOn := v.toBool }),
    plainMember "taxi_on" (fun v l => { l with taxiOn := v.toBool }),
    plainMember "beacon_on" (fun v l => { l with beaconOn := v.toBool }),
    plainMember "nav_on" (fun v l => { l with navOn := v.toBool }),
    plainMember "logo_on" (fun v l => { l with logoOn := v.toBool }),
    plainMember "recognition_on" (fun v l => { l with recognitionOn := v.toBool }),
    plainMember "cabin_on" (fun v l => { l with cabinOn := v.toBool }),
    plainMember "wing_on" (fun v l => { l with wingOn := v.toBool })]

def engineMetaMembers : List (JsonMetaMember CAircraftEngine) :=
  [plainMember "on" (fun v e => { e with on := v.toBool })]

/-- The loop of `CAircraftEngineList::convertFromJson`. An engine that throws is not pushed. -/
def convertEngine (json : QJsonObject) (scopes : QStringList) :
    QStringList → Conversion (List CAircraftEngine) Unit
  | [] => pure ()
  | e :: keys => do
    (fun engines =>
      match convertByMetaClass (json.child e) (scopes ++ [e]) engineMetaMembers {} with
      | .ok _ engine => .ok () (engines ++ [{ engine with number := e.toInt }])
      | .error ex _ => .error ex engines : Conversion (List CAircraftEngine) Unit)
    convertEngine json scopes keys

/-- `CAircraftEngineList::convertFromJson`. -/
def convertEngines (json : QJsonObject) (scopes : QStringList) :
    Conversion (List CAircraftEngine) Unit := do
  set ([] : List CAircraftEngine)
  convertEngine json scopes json.keys

def partsMetaMembers : List (JsonMetaMember CAircraftParts) :=
  [{ name := "lights"
     read := fun v scopes => inMember CAircraftParts.lights (fun l p => { p with lights := l })
       (convertByMetaClass v.toObject scopes lightsMetaMembers) },
    plainMember "gear_down" (fun v p => { p with gearDown := v.toBool }),
    plainMember "flaps_pct" (fun v p => { p with flapsPercentage := v.toInt }),
    plainMember "spoilers_out" (fun v p => { p with spoilersOut := v.toBool }),
    { name := "engines"
      read := fun v scopes => inMember CAircraftParts.engines (fun e p => { p with engines := e })
        (convertEngines v.toObject scopes) },
    plainMember "on_ground" (fun v p => { p with isOnGround := v.toBool })]

theorem readsAs_plainMember {α : Type} (name : QString) (set : QJsonValue → α → α)
    (total : Misc.JsonMember α) (hname : name = total.name)
    (hread : ∀ v a, set v a = total.read v a) : (plainMember name set).ReadsAs total where
  name := hname
  optional := rfl
  read v _ a := by
    change EStateM.Result.ok () (set v a) = _
    rw [hread]

theorem readsAs_lights : List.Forall₂ JsonMetaMember.ReadsAs lightsMetaMembers lightsMembers := by
  repeat refine .cons (readsAs_plainMember _ _ _ rfl fun _ _ => rfl) ?_
  exact .nil

theorem readsAs_engine : List.Forall₂ JsonMetaMember.ReadsAs engineMetaMembers engineMembers :=
  .cons (readsAs_plainMember _ _ _ rfl fun _ _ => rfl) .nil

/-- Whatever the keys and the values are. -/
theorem readsAs_convertEngine (json : QJsonObject) (scopes keys : QStringList) :
    Misc.ReadsAs (convertEngine json scopes keys) (fun engines => engines ++ keys.map (fun e =>
        { Misc.convertFromJson engineMembers (json.child e) {} with number := e.toInt })) := by
  induction keys with
  | nil =>
    intro engines
    dsimp only
    rw [List.map_nil, List.append_nil]
    rfl
  | cons e keys ih =>
    intro engines
    unfold convertEngine
    change (EStateM.bind _ _ : Conversion (List CAircraftEngine) Unit) engines = _
    unfold EStateM.bind
    rw [Misc.readsAs_convertByMetaClass (json.child e) (scopes ++ [e]) readsAs_engine {}]
    dsimp only
    rw [ih]
    dsimp only
    rw [List.append_assoc, List.map_cons, List.singleton_append]

theorem readsAs_convertEngines (json : QJsonObject) (scopes : QStringList) :
    Misc.ReadsAs (convertEngines json scopes) (fun _ => enginesFromJson json) :=
  fun _ => readsAs_convertEngine json scopes json.keys []

theorem readsAs_parts : List.Forall₂ JsonMetaMember.ReadsAs partsMetaMembers partsMembers := by
  refine .cons ?_ (.cons (readsAs_plainMember _ _ _ rfl fun _ _ => rfl)
    (.cons (readsAs_plainMember _ _ _ rfl fun _ _ => rfl)
      (.cons (readsAs_plainMember _ _ _ rfl fun _ _ => rfl) (.cons ?_
        (.cons (readsAs_plainMember _ _ _ rfl fun _ _ => rfl) .nil)))))
  · exact
      { name := rfl
        optional := rfl
        read := fun v scopes =>
          (Misc.readsAs_convertByMetaClass v.toObject scopes readsAs_lights).inMember }
  · exact
      { name := rfl
        optional := rfl
        read := fun v scopes => (readsAs_convertEngines v.toObject scopes).inMember }

/-- `convertFromJson` of the parts. -/
def CAircraftParts.conversion (json : QJsonObject) : Conversion CAircraftParts Unit :=
  convertByMetaClass json [] partsMetaMembers

theorem CAircraftParts.readsAs_conversion (json : QJsonObject) :
    Misc.ReadsAs (CAircraftParts.conversion json) (fun parts => parts.convertFromJson json) :=
  Misc.readsAs_convertByMetaClass json [] readsAs_parts

end Aviation

namespace Misc

namespace Simulation

open Aviation

namespace RemoteAircraftProvider

section Parts

variable {S C E : Type} [TimestampWithOffsetBased S] [TimestampWithOffsetBased C]
  (lib : SituationLibrary S C E) (p : RemoteAircraftProvider S C) (callsign : Callsign)
  (jsonObject : QJsonObject) (currentOffsetMs now : ℤ)

def isFullJson : Bool :=
  ((jsonObject.value CAircraftParts.attributeNameIsFullJson).map QJsonValue.toBool).getD false

/-- What is in front of the handler. Full parts are read into new ones, and an increment into
    the latest parts. -/
def partsConversion (conversion : QJsonObject → Conversion CAircraftParts Unit) :
    EStateM.Result CJsonException CAircraftParts Unit :=
  if isFullJson jsonObject then conversion jsonObject {}
  else
    let parts := (p.remoteAircraftParts callsign).head?.getD {}
    conversion (applyIncrementalObject parts.toJson jsonObject) parts

/-- Behind the handler the parts are stored as they are. -/
def storeAircraftPartsCaught (conversion : QJsonObject → Conversion CAircraftParts Unit) :
    RemoteAircraftProvider S C :=
  match p.aircraftInRange (key callsign) with
  | none => p
  | some remoteAircraft =>
    if ¬isValidAircraftCallsign lib remoteAircraft.callsign.callsign then p
    else if ¬remoteAircraft.isPartsSynchronized ∧ ¬isFullJson jsonObject then p
    else
      let parts := { stateOf (p.partsConversion callsign jsonObject conversion) with
        timestampMSecsSinceEpoch := now
        timeOffsetMs := currentOffsetMs
        partsDetails := .fsdAircraftParts }
      (p.storeAircraftParts lib callsign parts false now).rememberPartsMessage callsign jsonObject

/-- What a conversion that throws is to leave behind: the stored parts, the messages and the
    parts of every aircraft. -/
def LeavesPartsIntact : Prop :=
  ∀ ex parts, p.partsConversion callsign jsonObject CAircraftParts.conversion = .error ex parts →
    let stored := p.storeAircraftPartsCaught lib callsign jsonObject currentOffsetMs now
      CAircraftParts.conversion
    ∀ k, stored.partsByCallsign k = p.partsByCallsign k ∧
      stored.aircraftPartsMessages k = p.aircraftPartsMessages k ∧
      (stored.aircraftInRange k).map CSimulatedAircraft.parts =
        (p.aircraftInRange k).map CSimulatedAircraft.parts

/-- Whatever conversion throws, what it has read by then is stored. -/
theorem storeAircraftPartsCaught_of_throws {conversion :
    QJsonObject → Conversion CAircraftParts Unit}
    {aircraft : CSimulatedAircraft S} {ex : CJsonException} {parts : CAircraftParts}
    (haircraft : p.aircraftInRange (key callsign) = some aircraft)
    (hvalid : isValidAircraftCallsign lib aircraft.callsign.callsign = true)
    (hsynchronized : aircraft.isPartsSynchronized = true ∨ isFullJson jsonObject = true)
    (hthrows : p.partsConversion callsign jsonObject conversion = .error ex parts) :
    p.storeAircraftPartsCaught lib callsign jsonObject currentOffsetMs now conversion =
      (p.storeAircraftParts lib callsign { parts with
        timestampMSecsSinceEpoch := now
        timeOffsetMs := currentOffsetMs
        partsDetails := .fsdAircraftParts } false now).rememberPartsMessage
          callsign jsonObject := by
  unfold storeAircraftPartsCaught
  simp only [haircraft]
  rw [if_neg (not_not.mpr hvalid), if_neg (not_and_or.mpr (hsynchronized.imp not_not.mpr
    not_not.mpr)), hthrows]
  rfl

omit [TimestampWithOffsetBased S] [TimestampWithOffsetBased C] in
/-- No incoming object throws. -/
theorem partsConversion_eq :
    p.partsConversion callsign jsonObject CAircraftParts.conversion =
      .ok () (if isFullJson jsonObject then ({} : CAircraftParts).convertFromJson jsonObject
        else ((p.remoteAircraftParts callsign).head?.getD {}).applyIncrement jsonObject) := by
  unfold partsConversion
  split
  · exact CAircraftParts.readsAs_conversion jsonObject {}
  · exact CAircraftParts.readsAs_conversion _ _

end Parts

end RemoteAircraftProvider

section Malformed

variable {S C E : Type} [TimestampWithOffsetBased S] [TimestampWithOffsetBased C]
  (lib : SituationLibrary S C E)

/-- For every provider, callsign and object, the conversion does not throw, at no depth; the
    operation is the one without exceptions; and what throws leaves the parts as they are. -/
theorem malformed_parts_leave_parts_intact (p : RemoteAircraftProvider S C) (callsign : Callsign)
    (jsonObject : QJsonObject) (currentOffsetMs now : ℤ) :
    (∃ parts, p.partsConversion callsign jsonObject CAircraftParts.conversion = .ok () parts) ∧
      p.storeAircraftPartsCaught lib callsign jsonObject currentOffsetMs now
          CAircraftParts.conversion =
        p.storeAircraftPartsJson lib callsign jsonObject currentOffsetMs now ∧
      p.LeavesPartsIntact lib callsign jsonObject currentOffsetMs now := by
  have hnormal := p.partsConversion_eq callsign jsonObject
  refine ⟨⟨_, hnormal⟩, ?_, fun ex parts hthrows => ?_⟩
  · unfold RemoteAircraftProvider.storeAircraftPartsCaught
    rw [hnormal]
    rfl
  · exact nomatch hnormal.symm.trans hthrows

end Malformed

end Simulation

end Misc

end NeoSwift
