import NeoSwift.Aviation.AircraftSituation

/-!
# The Interpolator

`CInterpolator`, what the linear and the spline interpolator share. A call of
`getInterpolation` fetches the situations of the aircraft if they have changed, asks
the derived class for an interpolant, and makes a situation of what the interpolant
gives. That becomes the last situation, unless it is null or its vector is invalid.

Each call comes with what the provider has at the time and with what is known about
the ground. The ground only decides elevations and ground flags. Parts, logging and
the invalid situations that are counted are left out.

## Main definitions

* `Interpolant`: `IInterpolant`, as the interpolator reads it.
* `GroundEnvironment`, `InterpolationCall`: What a call comes with.
* `CInterpolator`: The state, with that of the derived class.
* `initIniterpolationStepData`, `interpolate`, `getInterpolatedSituation`: The steps of
  a call.
* `interpolation`: The interpolator as a machine.
* `Timed`: Calls at times that do not go back.

## Theorems

* `interpolate_spec`: What is interpolated has the time of the interpolant.
* `isNull_of_interpolate`: It is not null.
* `interpolate_null`: Without an altitude nothing is interpolated.
-/

namespace NeoSwift.Misc

namespace Simulation

open Aviation Pq

/-- A position that is not a number is `none`. Only the unit of the altitude is read
    then. The situations are those of `pbh()`. -/
structure Interpolant where
  startSituation : CAircraftSituation
  endSituation : CAircraftSituation
  position : Option NormalVector
  altitude : CAltitude
  groundFactor : COnGroundInfo
  interpolatedTime : ℤ
  valid : Bool

/-- What is found out about the ground below a situation. The interpolated elevation
    is that between two situations, or else that of the last one. -/
structure GroundEnvironment where
  presetGroundElevation : CAircraftSituation → CAircraftSituation → CAircraftSituation → CAltitude
  interpolatedElevation :
    CAircraftSituation → CAircraftSituation → CAircraftSituation → CAircraftSituation → CAltitude
  findClosestElevationWithinRange : CAircraftSituation → CAltitude
  canLikelySkipNearGroundInterpolation : CAircraftSituation → Bool
  guessOnGround : CAircraftSituation → COnGroundInfo
  modelCG : CLength

/-- A call of `getInterpolation`, with what the provider has. -/
structure InterpolationCall where
  currentTimeSinceEpoch : ℤ
  lastModified : ℤ
  situations : List CAircraftSituation
  environment : GroundEnvironment

/-- The times of the situations that were used are kept by the derived class. -/
structure CInterpolator (D : Type) where
  m_currentTimeMsSinceEpoch : ℤ := -1
  m_situationsLastModified : ℤ := -1
  m_currentSituations : List CAircraftSituation := []
  m_lastSituation : CAircraftSituation := CAircraftSituation.null
  derived : D

namespace CInterpolator

variable {D : Type}

/-- The situations are only updated when they have changed. -/
def initIniterpolationStepData (ip : CInterpolator D) (call : InterpolationCall) :
    CInterpolator D :=
  let changedSituations := ip.m_situationsLastModified < call.lastModified
  let situations := if changedSituations then call.situations else ip.m_currentSituations
  { ip with
    m_currentTimeMsSinceEpoch := call.currentTimeSinceEpoch
    m_situationsLastModified :=
      if changedSituations then call.lastModified else ip.m_situationsLastModified
    m_currentSituations := situations
    m_lastSituation := if situations = [] then CAircraftSituation.null else ip.m_lastSituation }

/-- The last situation, or the front one if there is none yet. -/
def baseSituation (ip : CInterpolator D) : CAircraftSituation :=
  if ip.m_lastSituation.isNull then ip.m_currentSituations.headD CAircraftSituation.null
  else ip.m_lastSituation

def initInterpolatedSituation (ip : CInterpolator D) (env : GroundEnvironment)
    (oldSituation newSituation : CAircraftSituation) : CAircraftSituation :=
  { ip.baseSituation with
    groundElevation := env.presetGroundElevation oldSituation newSituation ip.baseSituation
    cg := env.modelCG }

end CInterpolator

/-- What becomes of an interpolant. An invalid vector is not counted as an invalid
    situation: the null situation is returned at once. -/
inductive Interpolation where
  | interpolated (s : CAircraftSituation)
  | invalidVector
  | invalid

/-- Whether both situations say something about the ground. -/
def interpolateGndFlag (i : Interpolant) : Bool :=
  i.endSituation.hasGroundDetailsForGndInterpolation &&
    i.startSituation.hasGroundDetailsForGndInterpolation

/-- The ground flag, the elevation and the altitude of an interpolated situation. -/
def groundInterpolated (env : GroundEnvironment) (lastSituation : CAircraftSituation)
    (i : Interpolant) (current : CAircraftSituation) : CAircraftSituation :=
  let guessed :=
    if interpolateGndFlag i then current
    else { current with onGroundInfo := env.guessOnGround current }
  let elevated :=
    { guessed with
      groundElevation :=
        env.interpolatedElevation lastSituation i.startSituation i.endSituation guessed }
  if !interpolateGndFlag i &&
      elevated.onGroundInfo.m_onGroundDetails ≠ .onGroundByGuessing then
    elevated.correctAltitude true
  else elevated

/-- The interpolated situation, before the position of the interpolant is set. -/
def presetSituation (env : GroundEnvironment) {D : Type} (ip : CInterpolator D)
    (i : Interpolant) : CAircraftSituation :=
  let base := ip.initInterpolatedSituation env i.startSituation i.endSituation
  let timed := (base.setAltitude i.altitude).setMSecsSinceEpoch i.interpolatedTime
  if interpolateGndFlag i then { timed with onGroundInfo := i.groundFactor } else timed

/-- The situation that an interpolant gives. -/
def interpolate (env : GroundEnvironment) {D : Type} (ip : CInterpolator D) (i : Interpolant) :
    Interpolation :=
  let preset := presetSituation env ip i
  if !i.valid then .invalid
  else
    match i.position with
    | none => if preset.altitude.isNull then .invalid else .invalidVector
    | some v =>
        let current := { preset with normalVector := v }
        if current.isNull then .invalid
        else if !v.isValidVector then .invalidVector
        else .interpolated (groundInterpolated env ip.m_lastSituation i current)

/-- What a call returns, and whether it was interpolated. -/
structure InterpolationResult where
  situation : CAircraftSituation
  interpolated : Bool

section Calls

variable {D : Type} (getInterpolant : GroundEnvironment → CInterpolator D → D × Interpolant)

/-- The derived class is asked for its interpolant. -/
def getInterpolatedSituation (env : GroundEnvironment) (ip : CInterpolator D) :
    CInterpolator D × InterpolationResult :=
  let answer := getInterpolant env ip
  match interpolate env ip answer.2 with
  | .interpolated s => ({ ip with derived := answer.1, m_lastSituation := s }, ⟨s, true⟩)
  | .invalidVector => ({ ip with derived := answer.1 }, ⟨CAircraftSituation.null, false⟩)
  | .invalid => ({ ip with derived := answer.1 }, ⟨ip.m_lastSituation, false⟩)

/-- `getInterpolation`. Without situations nothing is interpolated. -/
def interpolation : Machine (CInterpolator D) InterpolationCall InterpolationResult where
  step ip call :=
    let ready := ip.initIniterpolationStepData call
    if ready.m_currentSituations = [] then (ready, [])
    else
      let answer := getInterpolatedSituation getInterpolant call.environment ready
      (answer.1, [answer.2])

/-- A call at a time of the epoch that is not before the last one. -/
def InTime (ip : CInterpolator D) (call : InterpolationCall) : Prop :=
  ip.m_currentTimeMsSinceEpoch ≤ call.currentTimeSinceEpoch ∧ 0 < call.currentTimeSinceEpoch

omit getInterpolant in
/-- Calls at times that do not go back, from a time on. -/
def Timed : ℤ → List InterpolationCall → Prop
  | _, [] => True
  | now, call :: calls =>
      now ≤ call.currentTimeSinceEpoch ∧ 0 < call.currentTimeSinceEpoch ∧
        Timed call.currentTimeSinceEpoch calls

end Calls

section Interpolate

variable {D : Type} {env : GroundEnvironment} {ip : CInterpolator D} {i : Interpolant}
  {s : CAircraftSituation}

theorem presetSituation_spec :
    (presetSituation env ip i).m_timestampMSecsSinceEpoch = i.interpolatedTime ∧
      (presetSituation env ip i).m_timeOffsetMs = ip.baseSituation.m_timeOffsetMs ∧
      (presetSituation env ip i).altitude = i.altitude.switchedUnit .ft := by
  unfold presetSituation
  split <;> exact ⟨rfl, rfl, rfl⟩

/-- The ground changes neither the times nor whether a situation is null. -/
theorem groundInterpolated_spec (last current : CAircraftSituation) :
    (groundInterpolated env last i current).m_timestampMSecsSinceEpoch
        = current.m_timestampMSecsSinceEpoch ∧
      (groundInterpolated env last i current).m_timeOffsetMs = current.m_timeOffsetMs ∧
      (current.isNull = false → (groundInterpolated env last i current).isNull = false) := by
  unfold groundInterpolated
  dsimp only
  split_ifs with hflag hdetails hdetails
  · exact ⟨rfl, rfl, fun h => CAircraftSituation.isNull_correctAltitude true h⟩
  · exact ⟨rfl, rfl, fun h => h⟩
  · exact ⟨rfl, rfl, fun h => CAircraftSituation.isNull_correctAltitude true h⟩
  · exact ⟨rfl, rfl, fun h => h⟩

/-- A situation is interpolated for the time of the interpolant. Its offset is that of
    the situation it was made of. -/
theorem interpolate_spec (h : interpolate env ip i = .interpolated s) :
    s.m_timestampMSecsSinceEpoch = i.interpolatedTime ∧
      s.m_timeOffsetMs = ip.baseSituation.m_timeOffsetMs ∧ s.isNull = false := by
  unfold interpolate at h
  dsimp only at h
  split at h
  · cases h
  · split at h
    · split at h <;> cases h
    · split at h
      · cases h
      case isFalse hnull =>
        split at h
        · cases h
        · rw [Interpolation.interpolated.injEq] at h
          rw [Bool.not_eq_true] at hnull
          rw [← h]
          rcases groundInterpolated_spec ip.m_lastSituation _ with ⟨htime, hoffset, hkeep⟩
          exact ⟨htime.trans presetSituation_spec.1, hoffset.trans presetSituation_spec.2.1,
            hkeep hnull⟩

/-- Only a valid interpolant gives a situation. -/
theorem valid_of_interpolate (h : interpolate env ip i = .interpolated s) : i.valid = true := by
  unfold interpolate at h
  split at h
  · cases h
  case isFalse hvalid =>
    simpa only [Bool.not_eq_true, Bool.not_eq_false'] using hvalid

/-- Only a position that is a number gives a situation. -/
theorem position_of_interpolate (h : interpolate env ip i = .interpolated s) :
    ∃ v, i.position = some v := by
  cases hposition : i.position with
  | some v => exact ⟨v, rfl⟩
  | none =>
      unfold interpolate at h
      rw [hposition] at h
      split at h
      · cases h
      · dsimp only at h
        split at h <;> cases h

theorem switchedUnit_of_isNull {a : CAltitude} (unit : CLengthUnit) (h : a.isNull = true) :
    a.switchedUnit unit = a := by
  unfold CAltitude.switchedUnit
  rw [if_pos (Or.inr (Or.inl (CLength.isNull_iff.mp h)))]

/-- An interpolant without an altitude gives nothing. -/
theorem interpolate_null (h : i.altitude.isNull = true) : interpolate env ip i = .invalid := by
  have haltitude : (presetSituation env ip i).altitude.isNull = true := by
    rw [presetSituation_spec.2.2, switchedUnit_of_isNull .ft h]
    exact h
  unfold interpolate
  dsimp only
  split
  · rfl
  · split
    · rfl
    · rw [if_pos]
      unfold CAircraftSituation.isNull
      rw [Bool.or_eq_true]
      exact Or.inl haltitude

end Interpolate

section Steps

variable {D : Type} (getInterpolant : GroundEnvironment → CInterpolator D → D × Interpolant)
  (ip : CInterpolator D) (call : InterpolationCall)

theorem getInterpolatedSituation_spec (env : GroundEnvironment) :
    (getInterpolatedSituation getInterpolant env ip).1
      = { ip with
          derived := (getInterpolant env ip).1
          m_lastSituation := (getInterpolatedSituation getInterpolant env
            ip).1.m_lastSituation } := by
  unfold getInterpolatedSituation
  dsimp only
  split <;> rfl

/-- The last situation is the one that was interpolated, or it stays. -/
theorem lastSituation_getInterpolatedSituation (env : GroundEnvironment) :
    (∃ s, interpolate env ip (getInterpolant env ip).2 = .interpolated s ∧
        (getInterpolatedSituation getInterpolant env ip).1.m_lastSituation = s ∧
        (getInterpolatedSituation getInterpolant env ip).2 = ⟨s, true⟩) ∨
      ((getInterpolatedSituation getInterpolant env ip).1.m_lastSituation = ip.m_lastSituation ∧
        (getInterpolatedSituation getInterpolant env ip).2.interpolated = false) := by
  unfold getInterpolatedSituation
  dsimp only
  split
  case h_1 s hs => exact Or.inl ⟨s, hs, rfl, rfl⟩
  case h_2 => exact Or.inr ⟨rfl, rfl⟩
  case h_3 => exact Or.inr ⟨rfl, rfl⟩

theorem step_of_empty (h : (ip.initIniterpolationStepData call).m_currentSituations = []) :
    (interpolation getInterpolant).step ip call = (ip.initIniterpolationStepData call, []) :=
  if_pos h

theorem step_of_situations (h : (ip.initIniterpolationStepData call).m_currentSituations ≠ []) :
    (interpolation getInterpolant).step ip call
      = ((getInterpolatedSituation getInterpolant call.environment
            (ip.initIniterpolationStepData call)).1,
          [(getInterpolatedSituation getInterpolant call.environment
            (ip.initIniterpolationStepData call)).2]) :=
  if_neg h

theorem currentTime_step :
    ((interpolation getInterpolant).step ip call).1.m_currentTimeMsSinceEpoch
      = call.currentTimeSinceEpoch := by
  by_cases h : (ip.initIniterpolationStepData call).m_currentSituations = []
  · rw [step_of_empty getInterpolant ip call h]
    rfl
  · rw [step_of_situations getInterpolant ip call h, getInterpolatedSituation_spec]
    rfl

end Steps

end Simulation

end NeoSwift.Misc
