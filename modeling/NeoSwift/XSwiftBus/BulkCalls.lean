import NeoSwift.Lib.AssocMap

/-!
# Bulk calls for planes

The calls by which positions, surfaces and transponders of many planes are set at once, and the
one that reads them. Their arguments are vectors that belong together by index, and they come
from another process.

Every vector is read at the indices of the callsigns of known planes, and an index that a vector
does not have is thrown. Only the vector of the planes on ground is compared with the callsigns
before. The call that reads returns at once if there are no callsigns or no planes, and then its
vectors are what they were.

## Main definitions

* `PlaneState`: A plane, as far as the calls read and set it.
* `setPlanesPositions`, `setPlanesSurfaces`, `setPlanesTransponders`, `getRemoteAircraftData`: The
  calls.
* `BulkCall.Safe`: What they are to do.
* `BulkCall.Covered`: Which vectors are long enough.

## Theorems

* `forCallsigns_isSome_iff`: When the loop over the callsigns does not throw.
* `positions_isSome_iff`, `surfaces_isSome_iff`, `transponder_isSome_iff`: When one of its steps
  does not.
* `describesKnown_iff`: When the planes are described as they are.
* `bulkCall_safe_iff`: Which calls do what they are to.
-/

namespace NeoSwift.XSwiftBus

/-- Doubles and floats. -/
structure PlaneArithmetic (D F : Type) where
  toFloat : D → F
  isNaN : D → Bool
  zero : D
  one : F

/-- `XPMPPlanePosition_t`. -/
structure PlanePosition (D F : Type) where
  lat : D
  lon : D
  elevation : D
  pitch : F
  roll : F
  heading : F
  offsetScale : F
  clampToGround : Bool
  deriving DecidableEq, Inhabited

/-- `XPMPPlaneSurfaces_t`, with its lights. -/
structure PlaneSurfaces (F : Type) where
  flapRatio : F
  spoilerRatio : F
  speedBrakeRatio : F
  slatRatio : F
  wingSweep : F
  thrust : F
  yokePitch : F
  yokeHeading : F
  yokeRoll : F
  landLights : Bool
  taxiLights : Bool
  bcnLights : Bool
  strbLights : Bool
  navLights : Bool
  flashPattern : ℕ
  deriving DecidableEq, Inhabited

/-- `XPMPTransponderMode`. -/
inductive TransponderMode
  | standby
  | modeC
  | modeC_Ident
  deriving DecidableEq, Inhabited

/-- `CTraffic::Plane`, as far as these calls go. The times are in ns. -/
structure PlaneState (D F : Type) where
  hasSurfaces : Bool
  isOnGround : Bool
  surfaces : PlaneSurfaces F
  targetGearPosition : F
  positionTimes : ℤ × ℤ × ℤ
  positions : PlanePosition D F × PlanePosition D F × PlanePosition D F
  surveillanceCode : ℤ
  surveillanceMode : TransponderMode
  deriving DecidableEq, Inhabited

/-- `m_planesByCallsign`. -/
abbrev PlaneRegistry (D F : Type) := AssocMap String (PlaneState D F)

/-- The vectors of `setPlanesPositions`. -/
structure PositionVectors (D : Type) where
  latitudesDeg : List D
  longitudesDeg : List D
  altitudesFt : List D
  pitchesDeg : List D
  rollsDeg : List D
  headingsDeg : List D
  onGrounds : List Bool

/-- The vectors of `setPlanesSurfaces`. -/
structure SurfaceVectors (D : Type) where
  gears : List D
  flaps : List D
  spoilers : List D
  speedBrakes : List D
  slats : List D
  wingSweeps : List D
  thrusts : List D
  elevators : List D
  rudders : List D
  ailerons : List D
  landLights : List Bool
  taxiLights : List Bool
  beaconLights : List Bool
  strobeLights : List Bool
  navLights : List Bool
  lightPatterns : List ℤ

/-- The vectors of `setPlanesTransponders`. -/
structure TransponderVectors where
  codes : List ℤ
  modeCs : List Bool
  idents : List Bool

/-- The vectors of `getRemoteAircraftData`, which are in and out. -/
structure RemoteAircraftData (D : Type) where
  callsigns : List String
  latitudesDeg : List D
  longitudesDeg : List D
  elevationsM : List D
  waterFlags : List Bool
  verticalOffsets : List D
  deriving DecidableEq

/-- The settings the calls read. -/
structure PlaneSettings where
  bundlingTaxiAndLandingLights : Bool
  terrainProbeEnabled : Bool

variable {D F : Type}

/-- The loop over the callsigns, and none if it throws. Callsigns of no plane are skipped. -/
def forCallsigns (setPlane : ℕ → PlaneState D F → Option (PlaneState D F)) :
    ℕ → List String → PlaneRegistry D F → Option (PlaneRegistry D F)
  | _, [], planes => some planes
  | i, callsign :: callsigns, planes =>
    match planes.lookup callsign with
    | none => forCallsigns setPlane (i + 1) callsigns planes
    | some plane => do
      let plane ← setPlane i plane
      forCallsigns setPlane (i + 1) callsigns (planes.insert callsign plane)

section

variable (a : PlaneArithmetic D F)

/-- Two positions are kept at intervals of one second. -/
def keepPositions (plane : PlaneState D F) : PlaneState D F :=
  if 1000000000 < plane.positionTimes.2.2 - plane.positionTimes.2.1 then
    { plane with
      positionTimes := (plane.positionTimes.2.1, plane.positionTimes.2.2, plane.positionTimes.2.2)
      positions := (plane.positions.2.1, plane.positions.2.2, plane.positions.2.2) }
  else plane

/-- A plane in `setPlanesPositions`. -/
def setPlanePosition (vectors : PositionVectors D) (setOnGround : Bool) (now : ℕ → ℤ) (i : ℕ)
    (plane : PlaneState D F) : Option (PlaneState D F) := do
  let latitudeDeg ← vectors.latitudesDeg[i]?
  let longitudeDeg ← vectors.longitudesDeg[i]?
  let altitudeFt ← vectors.altitudesFt[i]?
  let pitchDeg ← vectors.pitchesDeg[i]?
  let rollDeg ← vectors.rollsDeg[i]?
  let headingDeg ← vectors.headingsDeg[i]?
  let position : PlanePosition D F :=
    { lat := latitudeDeg
      lon := longitudeDeg
      elevation := altitudeFt
      pitch := a.toFloat pitchDeg
      roll := a.toFloat rollDeg
      heading := a.toFloat headingDeg
      offsetScale := a.one
      clampToGround := true }
  let plane := keepPositions
    { plane with
      positionTimes := (plane.positionTimes.1, plane.positionTimes.2.1, now i)
      positions := (plane.positions.1, plane.positions.2.1, position) }
  if setOnGround then (vectors.onGrounds[i]?).map fun onGround =>
    { plane with isOnGround := onGround }
  else some plane

/-- `setPlanesPositions`. -/
def setPlanesPositions (planes : PlaneRegistry D F) (callsigns : List String)
    (vectors : PositionVectors D) (now : ℕ → ℤ) : Option (PlaneRegistry D F) :=
  forCallsigns
    (setPlanePosition a vectors (vectors.onGrounds.length == callsigns.length) now) 0 callsigns
    planes

/-- The landing and the taxi lights. The taxi lights are not read where the landing lights turn
    on both. -/
def landAndTaxiLights (vectors : SurfaceVectors D) (bundleTaxiLandingLights : Bool) (i : ℕ) :
    Option (Bool × Bool) := do
  let landLight ← vectors.landLights[i]?
  if bundleTaxiLandingLights && landLight then some (true, true)
  else
    let taxiLight ← vectors.taxiLights[i]?
    some (if bundleTaxiLandingLights then taxiLight else landLight, taxiLight)

/-- A plane in `setPlanesSurfaces`. -/
def setPlaneSurfaces (vectors : SurfaceVectors D) (bundleTaxiLandingLights : Bool) (i : ℕ)
    (plane : PlaneState D F) : Option (PlaneState D F) := do
  let gear ← vectors.gears[i]?
  let flap ← vectors.flaps[i]?
  let spoiler ← vectors.spoilers[i]?
  let speedBrake ← vectors.speedBrakes[i]?
  let slat ← vectors.slats[i]?
  let wingSweep ← vectors.wingSweeps[i]?
  let thrust ← vectors.thrusts[i]?
  let elevator ← vectors.elevators[i]?
  let rudder ← vectors.rudders[i]?
  let aileron ← vectors.ailerons[i]?
  let lights ← landAndTaxiLights vectors bundleTaxiLandingLights i
  let beaconLight ← vectors.beaconLights[i]?
  let strobeLight ← vectors.strobeLights[i]?
  let navLight ← vectors.navLights[i]?
  let lightPattern ← vectors.lightPatterns[i]?
  some
    { plane with
      hasSurfaces := true
      targetGearPosition := a.toFloat gear
      surfaces :=
        { flapRatio := a.toFloat flap
          spoilerRatio := a.toFloat spoiler
          speedBrakeRatio := a.toFloat speedBrake
          slatRatio := a.toFloat slat
          wingSweep := a.toFloat wingSweep
          thrust := a.toFloat thrust
          yokePitch := a.toFloat elevator
          yokeHeading := a.toFloat rudder
          yokeRoll := a.toFloat aileron
          landLights := lights.1
          taxiLights := lights.2
          bcnLights := beaconLight
          strbLights := strobeLight
          navLights := navLight
          flashPattern := (lightPattern % 4294967296).toNat } }

/-- `setPlanesSurfaces`. -/
def setPlanesSurfaces (settings : PlaneSettings) (planes : PlaneRegistry D F)
    (callsigns : List String) (vectors : SurfaceVectors D) : Option (PlaneRegistry D F) :=
  forCallsigns (setPlaneSurfaces a vectors settings.bundlingTaxiAndLandingLights) 0 callsigns planes

/-- The mode of a transponder. Mode C is not read where it identifies. -/
def transponderMode (vectors : TransponderVectors) (i : ℕ) : Option TransponderMode := do
  let ident ← vectors.idents[i]?
  if ident then some .modeC_Ident
  else
    let modeC ← vectors.modeCs[i]?
    some (if modeC then .modeC else .standby)

/-- A plane in `setPlanesTransponders`. -/
def setPlaneTransponder (vectors : TransponderVectors) (i : ℕ) (plane : PlaneState D F) :
    Option (PlaneState D F) := do
  let code ← vectors.codes[i]?
  let mode ← transponderMode vectors i
  some { plane with surveillanceCode := code, surveillanceMode := mode }

/-- `setPlanesTransponders`. -/
def setPlanesTransponders (planes : PlaneRegistry D F) (callsigns : List String)
    (vectors : TransponderVectors) : Option (PlaneRegistry D F) :=
  forCallsigns (setPlaneTransponder vectors) 0 callsigns planes

/-- The elevation under a plane and whether there is water, by the probe of the plane. -/
def groundElevation (settings : PlaneSettings) (probe : D → D → D → String → D × Bool)
    (callsign : String) (plane : PlaneState D F) : D × Bool :=
  if settings.terrainProbeEnabled then
    let position := plane.positions.2.2
    let probed := probe position.lat position.lon position.elevation callsign
    (if a.isNaN probed.1 then a.zero else probed.1, probed.2)
  else (a.zero, false)

/-- The loop of `getRemoteAircraftData`. -/
def appendAircraft (settings : PlaneSettings) (probe : D → D → D → String → D × Bool)
    (planes : PlaneRegistry D F) : List String → RemoteAircraftData D → RemoteAircraftData D
  | [], data => data
  | callsign :: callsigns, data =>
    match planes.lookup callsign with
    | none => appendAircraft settings probe planes callsigns data
    | some plane =>
      let ground := groundElevation a settings probe callsign plane
      appendAircraft settings probe planes callsigns
        { callsigns := data.callsigns ++ [callsign]
          latitudesDeg := data.latitudesDeg ++ [plane.positions.2.2.lat]
          longitudesDeg := data.longitudesDeg ++ [plane.positions.2.2.lon]
          elevationsM := data.elevationsM ++ [ground.1]
          waterFlags := data.waterFlags ++ [ground.2]
          verticalOffsets := data.verticalOffsets ++ [a.zero] }

/-- `getRemoteAircraftData`. -/
def getRemoteAircraftData (settings : PlaneSettings) (probe : D → D → D → String → D × Bool)
    (planes : PlaneRegistry D F) (data : RemoteAircraftData D) : RemoteAircraftData D :=
  if data.callsigns.isEmpty || planes.isEmpty then data
  else appendAircraft a settings probe planes data.callsigns ⟨[], [], [], [], [], []⟩

end

/-- The calls, with their arguments. -/
inductive BulkCall (D : Type)
  | setPlanesPositions (callsigns : List String) (vectors : PositionVectors D) (now : ℕ → ℤ)
  | setPlanesSurfaces (callsigns : List String) (vectors : SurfaceVectors D)
  | setPlanesTransponders (callsigns : List String) (vectors : TransponderVectors)
  | getRemoteAircraftData (data : RemoteAircraftData D)

/-- The requested callsigns of planes, in the order of the request. -/
def knownPlanes (planes : PlaneRegistry D F) (requested : List String) :
    List (String × PlaneState D F) :=
  requested.filterMap fun callsign => (planes.lookup callsign).map fun plane => (callsign, plane)

/-- The data of planes. -/
def describe (a : PlaneArithmetic D F) (settings : PlaneSettings)
    (probe : D → D → D → String → D × Bool) (known : List (String × PlaneState D F)) :
    RemoteAircraftData D where
  callsigns := known.map fun kv => kv.1
  latitudesDeg := known.map fun kv => kv.2.positions.2.2.lat
  longitudesDeg := known.map fun kv => kv.2.positions.2.2.lon
  elevationsM := known.map fun kv => (groundElevation a settings probe kv.1 kv.2).1
  waterFlags := known.map fun kv => (groundElevation a settings probe kv.1 kv.2).2
  verticalOffsets := known.map fun _ => a.zero

/-- The call does not throw, or it describes the requested planes that are known, in order and
    in all six vectors. -/
def BulkCall.Safe (a : PlaneArithmetic D F) (settings : PlaneSettings)
    (probe : D → D → D → String → D × Bool) (planes : PlaneRegistry D F) : BulkCall D → Prop
  | .setPlanesPositions callsigns vectors now =>
    (XSwiftBus.setPlanesPositions a planes callsigns vectors now).isSome = true
  | .setPlanesSurfaces callsigns vectors =>
    (XSwiftBus.setPlanesSurfaces a settings planes callsigns vectors).isSome = true
  | .setPlanesTransponders callsigns vectors =>
    (XSwiftBus.setPlanesTransponders planes callsigns vectors).isSome = true
  | .getRemoteAircraftData data =>
    XSwiftBus.getRemoteAircraftData a settings probe planes data
      = describe a settings probe (knownPlanes planes data.callsigns)

/-- All positions have the index. -/
def PositionVectors.Covers (vectors : PositionVectors D) (i : ℕ) : Prop :=
  i < vectors.latitudesDeg.length ∧ i < vectors.longitudesDeg.length ∧
    i < vectors.altitudesFt.length ∧ i < vectors.pitchesDeg.length ∧
    i < vectors.rollsDeg.length ∧ i < vectors.headingsDeg.length

/-- All surfaces have the index, but the taxi lights only need to if they are read. -/
def SurfaceVectors.Covers (vectors : SurfaceVectors D) (bundleTaxiLandingLights : Bool) (i : ℕ) :
    Prop :=
  i < vectors.gears.length ∧ i < vectors.flaps.length ∧ i < vectors.spoilers.length ∧
    i < vectors.speedBrakes.length ∧ i < vectors.slats.length ∧ i < vectors.wingSweeps.length ∧
    i < vectors.thrusts.length ∧ i < vectors.elevators.length ∧ i < vectors.rudders.length ∧
    i < vectors.ailerons.length ∧
    (∃ landLight, vectors.landLights[i]? = some landLight ∧
      ((bundleTaxiLandingLights && landLight) = false → i < vectors.taxiLights.length)) ∧
    i < vectors.beaconLights.length ∧ i < vectors.strobeLights.length ∧
    i < vectors.navLights.length ∧ i < vectors.lightPatterns.length

/-- The codes and the identifications have the index, and mode C if it is read. -/
def TransponderVectors.Covers (vectors : TransponderVectors) (i : ℕ) : Prop :=
  i < vectors.codes.length ∧
    ∃ ident, vectors.idents[i]? = some ident ∧ (ident = false → i < vectors.modeCs.length)

/-- The vectors have the indices of the callsigns of planes. In and out, they are empty if there
    are no callsigns or no planes. -/
def BulkCall.Covered (settings : PlaneSettings) (planes : PlaneRegistry D F) : BulkCall D → Prop
  | .setPlanesPositions callsigns vectors _ => ∀ i callsign, callsigns[i]? = some callsign →
    (planes.lookup callsign).isSome = true → vectors.Covers i
  | .setPlanesSurfaces callsigns vectors => ∀ i callsign, callsigns[i]? = some callsign →
    (planes.lookup callsign).isSome = true → vectors.Covers settings.bundlingTaxiAndLandingLights i
  | .setPlanesTransponders callsigns vectors => ∀ i callsign, callsigns[i]? = some callsign →
    (planes.lookup callsign).isSome = true → vectors.Covers i
  | .getRemoteAircraftData data =>
    data.callsigns = [] ∨ planes.isEmpty = true → data = ⟨[], [], [], [], [], []⟩

/-! ## Vectors that are read -/

/-- One more vector, whose element does not matter for what is read after it. -/
theorem isSome_bind_getElem?_iff {α β : Type} {xs : List α} {i : ℕ} {f : α → Option β} {Q : Prop}
    (h : ∀ x, (f x).isSome = true ↔ Q) : (xs[i]? >>= f).isSome = true ↔ i < xs.length ∧ Q := by
  by_cases hi : i < xs.length
  · simp [h, hi]
  · simp [hi]

theorem isSome_bind_iff {α β : Type} {x : Option α} {f : α → Option β} {Q : Prop}
    (h : ∀ y, (f y).isSome = true ↔ Q) : (x >>= f).isSome = true ↔ x.isSome = true ∧ Q := by
  cases x with
  | none => simp
  | some y => simp [h y]

theorem isSome_last {α β : Type} {xs : List α} {i : ℕ} (f : α → β) :
    (xs[i]? >>= fun x => some (f x)).isSome = true ↔ i < xs.length := by
  rw [isSome_bind_getElem?_iff (Q := True) fun _ => by simp, and_true]

theorem positions_isSome_iff (a : PlaneArithmetic D F) (vectors : PositionVectors D)
    (callsigns : List String) (now : ℕ → ℤ) {i : ℕ} (hi : i < callsigns.length)
    (plane : PlaneState D F) :
    (setPlanePosition a vectors (vectors.onGrounds.length == callsigns.length) now i plane).isSome
      = true ↔ vectors.Covers i := by
  refine isSome_bind_getElem?_iff fun _ => isSome_bind_getElem?_iff fun _ =>
    isSome_bind_getElem?_iff fun _ => isSome_bind_getElem?_iff fun _ =>
    isSome_bind_getElem?_iff fun _ => ?_
  rw [← and_true (i < vectors.headingsDeg.length)]
  refine isSome_bind_getElem?_iff fun _ => ?_
  -- The planes on ground are read only if there are as many as callsigns.
  by_cases hground : vectors.onGrounds.length = callsigns.length
  · simp [hground, hi]
  · simp [hground]

theorem landAndTaxiLights_isSome_iff (vectors : SurfaceVectors D) (bundle : Bool) (i : ℕ) :
    (landAndTaxiLights vectors bundle i).isSome = true ↔
      ∃ landLight, vectors.landLights[i]? = some landLight ∧
        ((bundle && landLight) = false → i < vectors.taxiLights.length) := by
  unfold landAndTaxiLights
  cases hland : vectors.landLights[i]? with
  | none => simp
  | some landLight =>
      simp only [Option.bind_eq_bind, Option.bind_some, Option.some.injEq, exists_eq_left']
      cases hbundle : bundle && landLight with
      | true => simp
      | false =>
          simp only [forall_const]
          exact isSome_last _

theorem surfaces_isSome_iff (a : PlaneArithmetic D F) (vectors : SurfaceVectors D) (bundle : Bool)
    (i : ℕ) (plane : PlaneState D F) :
    (setPlaneSurfaces a vectors bundle i plane).isSome = true ↔ vectors.Covers bundle i := by
  unfold setPlaneSurfaces SurfaceVectors.Covers
  rw [← landAndTaxiLights_isSome_iff]
  refine isSome_bind_getElem?_iff fun _ => isSome_bind_getElem?_iff fun _ =>
    isSome_bind_getElem?_iff fun _ => isSome_bind_getElem?_iff fun _ =>
    isSome_bind_getElem?_iff fun _ => isSome_bind_getElem?_iff fun _ =>
    isSome_bind_getElem?_iff fun _ => isSome_bind_getElem?_iff fun _ =>
    isSome_bind_getElem?_iff fun _ => isSome_bind_getElem?_iff fun _ =>
    isSome_bind_iff fun _ => isSome_bind_getElem?_iff fun _ => isSome_bind_getElem?_iff fun _ =>
    isSome_bind_getElem?_iff fun _ => ?_
  exact isSome_last _

theorem transponder_isSome_iff (vectors : TransponderVectors) (i : ℕ) (plane : PlaneState D F) :
    (setPlaneTransponder vectors i plane).isSome = true ↔ vectors.Covers i := by
  have hmode : (transponderMode vectors i).isSome = true ↔
      ∃ ident, vectors.idents[i]? = some ident ∧ (ident = false → i < vectors.modeCs.length) := by
    unfold transponderMode
    cases hident : vectors.idents[i]? with
    | none => simp
    | some ident =>
        simp only [Option.some.injEq, exists_eq_left']
        cases ident with
        | true => simp
        | false =>
            simp only [forall_const]
            exact isSome_last _
  refine isSome_bind_getElem?_iff fun _ => ?_
  rw [← hmode, isSome_bind_iff (Q := True) fun _ => by simp, and_true]

/-! ## Loops -/

theorem isSome_lookup_insert {planes : PlaneRegistry D F} {callsign : String}
    (h : (planes.lookup callsign).isSome = true) (plane : PlaneState D F) (callsign' : String) :
    ((planes.insert callsign plane).lookup callsign').isSome
      = (planes.lookup callsign').isSome := by
  by_cases heq : callsign' = callsign
  · rw [heq, AList.lookup_insert, h]
    rfl
  · rw [AList.lookup_insert_ne heq]

theorem forall_getElem?_cons {α : Type} {a : α} {l : List α} {P : ℕ → α → Prop} :
    (∀ i b, (a :: l)[i]? = some b → P i b) ↔ P 0 a ∧ ∀ i b, l[i]? = some b → P (i + 1) b := by
  constructor
  · intro h
    exact ⟨h 0 a rfl, fun i b hb => h (i + 1) b hb⟩
  · rintro ⟨hfirst, hrest⟩ i b hb
    cases i with
    | zero =>
        rw [List.getElem?_cons_zero, Option.some.injEq] at hb
        exact hb ▸ hfirst
    | succ i => exact hrest i b hb

/-- The loop throws unless its steps go through at all indices of callsigns of planes. -/
theorem forCallsigns_isSome_iff {setPlane : ℕ → PlaneState D F → Option (PlaneState D F)}
    {Q : ℕ → Prop} (callsigns : List String) :
    ∀ (start : ℕ) (planes : PlaneRegistry D F),
      (∀ i < callsigns.length, ∀ plane, (setPlane (start + i) plane).isSome = true ↔
        Q (start + i)) → ((forCallsigns setPlane start callsigns planes).isSome = true ↔
        ∀ i callsign, callsigns[i]? = some callsign → (planes.lookup callsign).isSome = true →
          Q (start + i)) := by
  induction callsigns with
  | nil =>
      intro start planes _
      simp [forCallsigns]
  | cons callsign callsigns ih =>
      intro start planes hstep
      have hshift : ∀ i, start + 1 + i = start + (i + 1) := fun i => by omega
      have hrest := fun planes => ih (start + 1) planes
      simp only [hshift] at hrest
      have htail := fun planes => hrest planes fun i hi => hstep (i + 1) (Nat.succ_lt_succ hi)
      rw [forall_getElem?_cons, forCallsigns]
      cases hlookup : planes.lookup callsign with
      | none => simp [htail planes]
      | some plane =>
          -- The plane stays known, so the rest of the loop finds the planes that it would.
          have hknown : (planes.lookup callsign).isSome = true := by
            rw [hlookup]
            rfl
          have hfirst := hstep 0 (Nat.succ_pos _) plane
          simp only [Nat.add_zero] at hfirst
          simp only [Option.isSome_some, forall_const, Nat.add_zero]
          rw [← hfirst]
          refine isSome_bind_iff fun plane' => ?_
          rw [htail]
          simp [isSome_lookup_insert hknown]

/-- The loop from the first callsign on. -/
theorem forCallsigns_zero_isSome_iff {setPlane : ℕ → PlaneState D F → Option (PlaneState D F)}
    {Q : ℕ → Prop} (callsigns : List String) (planes : PlaneRegistry D F)
    (h : ∀ i < callsigns.length, ∀ plane, (setPlane i plane).isSome = true ↔ Q i) :
    (forCallsigns setPlane 0 callsigns planes).isSome = true ↔
      ∀ i callsign, callsigns[i]? = some callsign → (planes.lookup callsign).isSome = true →
        Q i := by
  have hloop := @forCallsigns_isSome_iff _ _ setPlane Q callsigns 0 planes
  simp only [Nat.zero_add] at hloop
  exact hloop h

theorem appendAircraft_eq (a : PlaneArithmetic D F) (settings : PlaneSettings)
    (probe : D → D → D → String → D × Bool) (planes : PlaneRegistry D F)
    (requested : List String) : ∀ known : List (String × PlaneState D F),
      appendAircraft a settings probe planes requested (describe a settings probe known)
        = describe a settings probe (known ++ knownPlanes planes requested) := by
  induction requested with
  | nil =>
      intro known
      rw [appendAircraft, knownPlanes, List.filterMap_nil, List.append_nil]
  | cons callsign requested ih =>
      intro known
      rw [appendAircraft]
      cases hlookup : planes.lookup callsign with
      | none =>
          -- Who is not known is left out of all vectors alike.
          have hskip : knownPlanes planes (callsign :: requested) =
            knownPlanes planes requested := by
            rw [knownPlanes, List.filterMap_cons_none (by rw [hlookup]; rfl)]
            rfl
          rw [hskip]
          exact ih known
      | some plane =>
          have hadd : known ++ knownPlanes planes (callsign :: requested)
              = known ++ [(callsign, plane)] ++ knownPlanes planes requested := by
            rw [knownPlanes, List.filterMap_cons_some (by rw [hlookup]; rfl), List.append_assoc]
            rfl
          rw [hadd, ← ih]
          simp [describe]

theorem knownPlanes_of_nothing {planes : PlaneRegistry D F} {requested : List String}
    (h : requested = [] ∨ planes.isEmpty = true) : knownPlanes planes requested = [] := by
  rcases h with rfl | h
  · rfl
  · rw [knownPlanes, List.filterMap_eq_nil_iff]
    intro callsign _
    rw [(AssocMap.isEmpty_iff_lookup planes).mp h callsign]
    rfl

/-- The planes are described as they are unless the call returns with other vectors at once. -/
theorem describesKnown_iff (a : PlaneArithmetic D F) (settings : PlaneSettings)
    (probe : D → D → D → String → D × Bool) (planes : PlaneRegistry D F)
    (data : RemoteAircraftData D) :
    getRemoteAircraftData a settings probe planes data
        = describe a settings probe (knownPlanes planes data.callsigns) ↔
      (data.callsigns = [] ∨ planes.isEmpty = true → data = ⟨[], [], [], [], [], []⟩) := by
  rw [getRemoteAircraftData]
  by_cases hnothing : data.callsigns = [] ∨ planes.isEmpty = true
  · rw [if_pos (by simpa using hnothing), knownPlanes_of_nothing hnothing]
    simp only [hnothing, forall_const]
    rfl
  · rw [if_neg (by simpa using hnothing)]
    refine iff_of_true ?_ fun h => absurd h hnothing
    exact appendAircraft_eq a settings probe planes data.callsigns []

/-! ## Calls -/

/-- A call does what it is to if and only if its vectors are long enough. -/
theorem bulkCall_safe_iff (a : PlaneArithmetic D F) (settings : PlaneSettings)
    (probe : D → D → D → String → D × Bool) (planes : PlaneRegistry D F) (call : BulkCall D) :
    call.Safe a settings probe planes ↔ call.Covered settings planes := by
  cases call with
  | setPlanesPositions callsigns vectors now =>
      exact forCallsigns_zero_isSome_iff callsigns planes fun _ hi plane =>
        positions_isSome_iff a vectors callsigns now hi plane
  | setPlanesSurfaces callsigns vectors =>
      exact forCallsigns_zero_isSome_iff callsigns planes fun i _ plane =>
        surfaces_isSome_iff a vectors settings.bundlingTaxiAndLandingLights i plane
  | setPlanesTransponders callsigns vectors =>
      exact forCallsigns_zero_isSome_iff callsigns planes fun i _ plane =>
        transponder_isSome_iff vectors i plane
  | getRemoteAircraftData data => exact describesKnown_iff a settings probe planes data

/-- Transponders of a plane without codes, and planes that are requested where there are none. -/
theorem not_safe_without_codes :
    ¬(BulkCall.setPlanesTransponders ["DLH1"] ⟨[], [], []⟩).Safe (D := ℤ) (F := ℤ)
        ⟨id, fun _ => false, 0, 1⟩ ⟨false, false⟩ (fun _ _ _ _ => (0, false))
        (AList.insert "DLH1" default ∅) ∧
      ¬(BulkCall.getRemoteAircraftData ⟨["DLH1"], [], [], [], [], []⟩).Safe (D := ℤ) (F := ℤ)
        ⟨id, fun _ => false, 0, 1⟩ ⟨false, false⟩ (fun _ _ _ _ => (0, false)) ∅ := by
  constructor
  · intro h
    rw [BulkCall.Safe] at h
    cases h
  · intro h
    rw [BulkCall.Safe] at h
    cases h

end NeoSwift.XSwiftBus
