import Mathlib.Order.Interval.Set.UnorderedInterval
import Mathlib.Tactic.Linarith
import NeoSwift.Geo.ElevationPlane
import NeoSwift.Pq.Speed

/-!
# Ground Elevations of Situations

`CAircraftSituation` with the plane of its ground elevation and where that is from. An elevation
is transferred from one situation to another unless the other one has a better one, within a
radius around the plane. Between two situations with elevations it is interpolated.

The interpolation is meant to be refused where the elevations differ by more than a threshold.
The difference is that of the newer to the older one, and it is not made positive, so that it
is refused when the ground rises and never when it falls.

## Main definitions

* `SituationWithPlane`: Situations with elevation planes.
* `canTransferGroundElevation`, `transferGroundElevationToMe`: The transfer.
* `interpolatedElevation`: The interpolation.
* `Interpolates`: What is expected of it.

## Theorems

* `transfer_cases`: What a transfer does.
* `interpolates_iff`: When the interpolation does what is expected.
* `falling_ground_is_not_refused`: A pair for which it does not.
-/

namespace NeoSwift.Aviation

open Geo Pq

/-- `CAircraftSituation::GndElevationInfo`. -/
inductive GndElevationInfo where
  | noElevationInfo | test | situationChange | extrapolated | average | interpolated
  | fromCache | fromProvider
  deriving DecidableEq

/-- A situation with the members that carry ground elevations from one to another. -/
structure SituationWithPlane where
  m_timestampMSecsSinceEpoch : ℤ := -1
  m_timeOffsetMs : ℤ := 0
  m_position : CCoordinateGeodetic := {}
  m_groundElevationPlane : CElevationPlane := {}
  m_isElvInfoTransferred : Bool := false
  m_elvInfo : GndElevationInfo := .noElevationInfo
  m_onGroundInfo : COnGroundInfo := {}
  m_groundSpeed : CSpeed := CSpeed.null
  deriving DecidableEq

instance : ICoordinateGeodetic SituationWithPlane where
  normalVector s := s.m_position.m_normalVector
  geodeticHeight s := s.m_position.m_geodeticHeight
  isNull s := isNull s.m_position

namespace SituationWithPlane

variable (G : Geodesy) (s : SituationWithPlane)

/-- The height of the ground under the aircraft. -/
def getGroundElevation : CAltitude := s.m_groundElevationPlane.getAltitude

def hasGroundElevation : Bool := !s.getGroundElevation.isNull

def getGroundElevationInfo : GndElevationInfo :=
  if !s.hasGroundElevation then .noElevationInfo else s.m_elvInfo

/-- The unit of the height, feet if there is none. -/
def getAltitudeOrDefaultUnit : CLengthUnit :=
  if s.m_position.m_geodeticHeight.isNull then .ft else s.m_position.m_geodeticHeight.unit

/-- 2.5 km/h and more. -/
def isMoving : Bool := 25 / 10 ≤ s.m_groundSpeed.valueIn .km_h

def isOnGroundFromParts : Bool :=
  s.m_onGroundInfo.isOnGround && s.m_onGroundInfo.m_onGroundDetails = .inFromParts

def isOnGroundFromNetwork : Bool :=
  s.m_onGroundInfo.isOnGround && s.m_onGroundInfo.m_onGroundDetails = .inFromNetwork

/-! ## The transfer -/

/-- `setGroundElevation` with a plane. Null resets the elevation. -/
def setGroundElevation (elevationPlane : CElevationPlane) (info : GndElevationInfo)
    (transferred : Bool) : SituationWithPlane × Bool :=
  if isNull elevationPlane then
    ({ s with
        m_groundElevationPlane := CElevationPlane.null
        m_isElvInfoTransferred := false
        m_elvInfo := .noElevationInfo }, false)
  else
    ({ s with
        m_groundElevationPlane := elevationPlane.fixRadius.switchUnit s.getAltitudeOrDefaultUnit
        m_isElvInfoTransferred := transferred
        m_elvInfo := info }, true)

/-- Whether a situation within `radius` can be given this ground elevation. -/
def canTransferGroundElevation (transferToSituation : SituationWithPlane) (radius : CLength) :
    Bool :=
  if !s.hasGroundElevation then false
  else if transferToSituation.getGroundElevationInfo = .fromProvider then false
  else if s.getGroundElevationInfo ≠ .fromProvider ∧
      transferToSituation.getGroundElevationInfo = .fromCache then false
  else withinRange (calculateGreatCircleDistance G s.m_groundElevationPlane transferToSituation)
    radius

/-- Takes the ground elevation of another situation where that can be transferred. -/
def transferGroundElevationToMe (fromSituation : SituationWithPlane) (radius : CLength)
    (transferred : Bool) : SituationWithPlane × Bool :=
  if !fromSituation.canTransferGroundElevation G s radius then (s, false)
  else s.setGroundElevation fromSituation.m_groundElevationPlane
    fromSituation.getGroundElevationInfo transferred

/-- Hands its ground elevation to another situation where that can be transferred. -/
def transferGroundElevationFromMe (transferToSituation : SituationWithPlane) (radius : CLength) :
    SituationWithPlane × Bool :=
  transferToSituation.transferGroundElevationToMe G s radius true

/-- The situation apart from its elevation. -/
def withoutElevation : SituationWithPlane :=
  { s with
    m_groundElevationPlane := CElevationPlane.null
    m_isElvInfoTransferred := false
    m_elvInfo := .noElevationInfo }

/-- The situation with the elevation of another one. -/
def elevatedLike (fromSituation : SituationWithPlane) : SituationWithPlane :=
  { s with
    m_groundElevationPlane :=
      fromSituation.m_groundElevationPlane.fixRadius.switchUnit s.getAltitudeOrDefaultUnit
    m_isElvInfoTransferred := true
    m_elvInfo := fromSituation.getGroundElevationInfo }

variable {G s}

theorem canTransferGroundElevation_iff {t : SituationWithPlane} {radius : CLength} :
    s.canTransferGroundElevation G t radius = true ↔
      s.hasGroundElevation = true ∧ t.getGroundElevationInfo ≠ .fromProvider ∧
        (s.getGroundElevationInfo = .fromProvider ∨ t.getGroundElevationInfo ≠ .fromCache) ∧
        withinRange (calculateGreatCircleDistance G s.m_groundElevationPlane t) radius = true := by
  unfold canTransferGroundElevation
  cases hs : s.hasGroundElevation with
  | false => simp
  | true =>
    by_cases hprovider : t.getGroundElevationInfo = .fromProvider
    · simp
    · by_cases hcache : s.getGroundElevationInfo ≠ .fromProvider
          ∧ t.getGroundElevationInfo = .fromCache
      · rw [if_neg hprovider, if_pos hcache]
        refine iff_of_false Bool.false_ne_true fun h => ?_
        exact h.2.2.1.elim hcache.1 fun hnot => hnot hcache.2
      · simp

/-- Nothing is transferred, or an elevation is, or a null plane resets the elevation. -/
theorem transfer_cases (G : Geodesy) (s t : SituationWithPlane) (radius : CLength) :
    (s.canTransferGroundElevation G t radius = false
      ∧ s.transferGroundElevationFromMe G t radius = (t, false))
    ∨ (s.canTransferGroundElevation G t radius = true
      ∧ isNull s.m_groundElevationPlane = true
      ∧ s.transferGroundElevationFromMe G t radius = (t.withoutElevation, false))
    ∨ (s.canTransferGroundElevation G t radius = true
      ∧ isNull s.m_groundElevationPlane = false
      ∧ s.transferGroundElevationFromMe G t radius = (t.elevatedLike s, true)) := by
  unfold transferGroundElevationFromMe transferGroundElevationToMe
  cases hcan : s.canTransferGroundElevation G t radius with
  | false => exact Or.inl ⟨rfl, rfl⟩
  | true =>
    refine Or.inr ?_
    unfold setGroundElevation
    cases hplane : isNull s.m_groundElevationPlane with
    | true => exact Or.inl ⟨rfl, rfl, rfl⟩
    | false => exact Or.inr ⟨rfl, rfl, rfl⟩

/-- A transfer changes nothing but elevations. -/
theorem withoutElevation_transfer (G : Geodesy) (s t : SituationWithPlane) (radius : CLength) :
    (s.transferGroundElevationFromMe G t radius).1.withoutElevation = t.withoutElevation := by
  rcases transfer_cases G s t radius with ⟨-, h⟩ | ⟨-, -, h⟩ | ⟨-, -, h⟩ <;> rw [h] <;> rfl

theorem hasGroundElevation_of_plane (h : isNull s.m_groundElevationPlane = false) :
    s.hasGroundElevation = true := by
  have hcoordinate := (Bool.or_eq_false_iff.mp h).2
  have hheight := (Bool.or_eq_false_iff.mp hcoordinate).1
  unfold hasGroundElevation
  rw [Bool.not_eq_true']
  exact hheight

/-- The plane that is received is as null as the one that is given. -/
theorem isNull_elevatedLike (t : SituationWithPlane) (h : isNull s.m_groundElevationPlane = false) :
    isNull (t.elevatedLike s).m_groundElevationPlane = false := by
  have hradius := (Bool.or_eq_false_iff.mp h).1
  have hcoordinate := (Bool.or_eq_false_iff.mp h).2
  have hheight := (Bool.or_eq_false_iff.mp hcoordinate).1
  have hvector := (Bool.or_eq_false_iff.mp hcoordinate).2
  have hfixed : s.m_groundElevationPlane.fixRadius.m_radius.isNull = false
      ∧ s.m_groundElevationPlane.fixRadius.toCCoordinateGeodetic
        = s.m_groundElevationPlane.toCCoordinateGeodetic := by
    unfold CElevationPlane.fixRadius
    split
    · exact ⟨rfl, rfl⟩
    · exact ⟨hradius, rfl⟩
  refine Bool.or_eq_false_iff.mpr ⟨hfixed.1, Bool.or_eq_false_iff.mpr ⟨?_, ?_⟩⟩
  · refine CAltitude.isNull_switchedUnit _ ?_
    rw [hfixed.2]
    exact hheight
  · change s.m_groundElevationPlane.fixRadius.m_normalVector.isZeroEpsilonConsidered = false
    rw [hfixed.2]
    exact hvector

/-- It is as far from everything. -/
theorem distance_elevatedLike {α : Type*} [ICoordinateGeodetic α] (G : Geodesy)
    (t : SituationWithPlane) (h : isNull s.m_groundElevationPlane = false) (c : α) :
    calculateGreatCircleDistance G (t.elevatedLike s).m_groundElevationPlane c
      = calculateGreatCircleDistance G s.m_groundElevationPlane c := by
  have hvector : normalVector (t.elevatedLike s).m_groundElevationPlane
      = normalVector s.m_groundElevationPlane := by
    change s.m_groundElevationPlane.fixRadius.m_normalVector = _
    unfold CElevationPlane.fixRadius
    split <;> rfl
  unfold calculateGreatCircleDistance
  rw [isNull_elevatedLike t h, h, hvector]

theorem getGroundElevationInfo_elevatedLike (t : SituationWithPlane)
    (h : isNull s.m_groundElevationPlane = false) :
    (t.elevatedLike s).getGroundElevationInfo = s.getGroundElevationInfo := by
  conv_lhs => unfold getGroundElevationInfo
  rw [hasGroundElevation_of_plane (isNull_elevatedLike t h)]
  rfl

/-! ## The interpolation -/

variable (G)

/-- Elevations that differ by more are not interpolated. -/
def maxDeltaElevationFt : ℚ := 25

/-- The elevation between two situations, next to one of them that of the situation. -/
def interpolatedElevation (situation oldSituation newSituation : SituationWithPlane)
    (distance : CLength) : CElevationPlane :=
  if isNull oldSituation || isNull newSituation then CElevationPlane.null
  else if !oldSituation.hasGroundElevation || !newSituation.hasGroundElevation then
    CElevationPlane.null
  else if equalNormalVectorDouble oldSituation newSituation then
    newSituation.m_groundElevationPlane
  else
    let newElvFt := newSituation.getGroundElevation.valueIn .ft
    let oldElvFt := oldSituation.getGroundElevation.valueIn .ft
    let deltaElvFt := newElvFt - oldElvFt
    if deltaElvFt > maxDeltaElevationFt then CElevationPlane.null
    else if !isNull situation then
      let distanceSituationNewM :=
        (calculateGreatCircleDistance G situation newSituation).valueIn .m
      let distanceOldNewM :=
        (if distance.isNull then calculateGreatCircleDistance G oldSituation newSituation
          else distance).valueIn .m
      let distRatio := distanceSituationNewM / distanceOldNewM
      if distanceSituationNewM < 5 then newSituation.m_groundElevationPlane
      else if distanceOldNewM < 5 then oldSituation.m_groundElevationPlane
      else if distRatio < 5 / 100 then newSituation.m_groundElevationPlane
      else if distRatio > 95 / 100 then oldSituation.m_groundElevationPlane
      else CElevationPlane.ofAltitude situation (newElvFt - distRatio * deltaElvFt)
        CElevationPlane.singlePointRadius
    else CElevationPlane.ofAltitude newSituation (1 / 2 * (oldElvFt + newElvFt))
      CElevationPlane.singlePointRadius

/-- What is expected of the interpolation. -/
structure Interpolates (situation oldSituation newSituation : SituationWithPlane)
    (distance : CLength) : Prop where
  /-- It is refused if and only if the elevations are too far apart. -/
  refused_iff : isNull (interpolatedElevation G situation oldSituation newSituation distance) = true
    ↔ maxDeltaElevationFt < |newSituation.getGroundElevation.valueIn .ft
        - oldSituation.getGroundElevation.valueIn .ft|
  /-- The elevation is between the two. -/
  between : isNull (interpolatedElevation G situation oldSituation newSituation distance) = false →
    (interpolatedElevation G situation oldSituation newSituation distance).getAltitude.valueIn .ft
      ∈ Set.uIcc (oldSituation.getGroundElevation.valueIn .ft)
        (newSituation.getGroundElevation.valueIn .ft)
  /-- It is possible in both directions or in none. -/
  symmetric : isNull (interpolatedElevation G situation oldSituation newSituation distance)
    = isNull (interpolatedElevation G situation newSituation oldSituation distance)

variable {G} {situation oldSituation newSituation : SituationWithPlane}

/-- Only the altitude of an elevation at a situation's place could be null, and it is not. -/
theorem isNull_ofAltitude (h : isNull s = false) (altitudeMSLft : ℚ) :
    isNull (CElevationPlane.ofAltitude s altitudeMSLft CElevationPlane.singlePointRadius)
      = false := (Bool.or_eq_false_iff.mp h).2

/-- A part of the way back from one number to another. -/
theorem sub_mul_mem_uIcc {x y t : ℚ} (h0 : 0 ≤ t) (h1 : t ≤ 1) :
    y - t * (y - x) ∈ Set.uIcc x y := by
  rw [Set.mem_uIcc]
  rcases le_total x y with hle | hle
  · have hpos : 0 ≤ t * (y - x) := mul_nonneg h0 (by linarith)
    have hpart : 0 ≤ (1 - t) * (y - x) := mul_nonneg (by linarith) (by linarith)
    exact Or.inl ⟨by linarith, by linarith⟩
  · have hpos : 0 ≤ t * (x - y) := mul_nonneg h0 (by linarith)
    have hpart : 0 ≤ (1 - t) * (x - y) := mul_nonneg (by linarith) (by linarith)
    exact Or.inr ⟨by linarith, by linarith⟩

/-- The interpolation is refused where the ground rises by more than the threshold, unless the
    situations are at one place, and otherwise it is between the elevations. -/
theorem interpolatedElevation_cases (situation : SituationWithPlane) (distance : CLength)
    (hold : isNull oldSituation = false) (hnew : isNull newSituation = false)
    (holdPlane : isNull oldSituation.m_groundElevationPlane = false)
    (hnewPlane : isNull newSituation.m_groundElevationPlane = false) :
    (maxDeltaElevationFt < newSituation.getGroundElevation.valueIn .ft
        - oldSituation.getGroundElevation.valueIn .ft
      ∧ isNull (interpolatedElevation G situation oldSituation newSituation distance) = true)
    ∨ (isNull (interpolatedElevation G situation oldSituation newSituation distance) = false
      ∧ (interpolatedElevation G situation oldSituation newSituation
          distance).getAltitude.valueIn .ft ∈ Set.uIcc (oldSituation.getGroundElevation.valueIn .ft)
          (newSituation.getGroundElevation.valueIn .ft)) := by
  have hchecked : ¬ (!oldSituation.hasGroundElevation || !newSituation.hasGroundElevation)
      = true := by
    rw [hasGroundElevation_of_plane holdPlane, hasGroundElevation_of_plane hnewPlane]
    exact Bool.false_ne_true
  unfold interpolatedElevation
  rw [hold, hnew, Bool.or_self, if_neg Bool.false_ne_true, if_neg hchecked]
  by_cases hplace : equalNormalVectorDouble oldSituation newSituation = true
  · rw [if_pos hplace]
    exact Or.inr ⟨hnewPlane, Set.right_mem_uIcc⟩
  rw [if_neg hplace]
  dsimp only
  by_cases hdelta : newSituation.getGroundElevation.valueIn .ft
      - oldSituation.getGroundElevation.valueIn .ft > maxDeltaElevationFt
  · rw [if_pos hdelta]
    exact Or.inl ⟨hdelta, rfl⟩
  rw [if_neg hdelta]
  refine Or.inr ?_
  cases hsituation : isNull situation with
  | true =>
    refine ⟨isNull_ofAltitude hnew _, ?_⟩
    have hhalf := sub_mul_mem_uIcc (x := oldSituation.getGroundElevation.valueIn .ft)
      (y := newSituation.getGroundElevation.valueIn .ft) (t := 1 / 2) (by norm_num) (by norm_num)
    have hmean (x y : ℚ) : 1 / 2 * (x + y) = y - 1 / 2 * (y - x) := by ring
    rw [hmean]
    exact hhalf
  -- Next to one of the situations the elevation is that of it.
  | false =>
    rw [Bool.not_false, if_pos rfl]
    generalize CLength.valueIn (if distance.isNull = true then
      calculateGreatCircleDistance G oldSituation newSituation else distance) .m = distanceOldNewM
    split
    · exact ⟨hnewPlane, Set.right_mem_uIcc⟩
    split
    · exact ⟨holdPlane, Set.left_mem_uIcc⟩
    split
    · exact ⟨hnewPlane, Set.right_mem_uIcc⟩
    split
    · exact ⟨holdPlane, Set.left_mem_uIcc⟩
    case isFalse hlow hhigh =>
      refine ⟨isNull_ofAltitude hsituation _, ?_⟩
      exact sub_mul_mem_uIcc (by linarith) (by linarith)

/-- Between situations at places, with elevations, the interpolation does what is expected if
    and only if the elevations are not too far apart. -/
theorem interpolates_iff (G : Geodesy) (situation oldSituation newSituation : SituationWithPlane)
    (distance : CLength) (hold : isNull oldSituation = false) (hnew : isNull newSituation = false)
    (holdPlane : isNull oldSituation.m_groundElevationPlane = false)
    (hnewPlane : isNull newSituation.m_groundElevationPlane = false) :
    Interpolates G situation oldSituation newSituation distance
      ↔ |newSituation.getGroundElevation.valueIn .ft
        - oldSituation.getGroundElevation.valueIn .ft| ≤ maxDeltaElevationFt := by
  have hforward := interpolatedElevation_cases (G := G) situation distance hold hnew holdPlane
    hnewPlane
  have hbackward := interpolatedElevation_cases (G := G) situation distance hnew hold hnewPlane
    holdPlane
  constructor
  -- Refused in one direction and not in the other.
  · intro h
    by_contra hfar
    have hrefused := h.refused_iff.mpr (not_le.mp hfar)
    have hrefused' := h.symmetric.symm.trans hrefused
    rcases hforward with ⟨hrises, -⟩ | ⟨hnot, -⟩
    · rcases hbackward with ⟨hfalls, -⟩ | ⟨hnot, -⟩
      · have hmax : (0 : ℚ) ≤ maxDeltaElevationFt := by norm_num [maxDeltaElevationFt]
        linarith
      · exact Bool.false_ne_true (hnot.symm.trans hrefused')
    · exact Bool.false_ne_true (hnot.symm.trans hrefused)
  · intro hnear
    have hbounds := abs_le.mp hnear
    have hnot := hforward.resolve_left fun hrises => by linarith [hrises.1]
    have hnot' := hbackward.resolve_left fun hfalls => by linarith [hfalls.1]
    refine ⟨iff_of_false ?_ (not_lt.mpr hnear), fun _ => hnot.2, hnot.1.trans hnot'.1.symm⟩
    rw [hnot.1]
    exact Bool.false_ne_true

/-! ## A field and its ridge -/

/-- A situation on the equator or at the north pole, with the elevation of the ground. -/
def sampleElevated (v : NormalVector) (elevationFt : ℚ) : SituationWithPlane where
  m_position := ⟨v, .create 500 .meanSeaLevel .ft⟩
  m_groundElevationPlane := ⟨⟨v, .create elevationFt .meanSeaLevel .ft⟩, .create 50 .m⟩
  m_elvInfo := .fromProvider

/-- The arcs, to the metre, for some cosines of the angle between two places. The other places
    are a quarter of the globe apart. -/
def sampleDistances : Geodesy where
  metres v w :=
    let cosine := v.x * w.x + v.y * w.y + v.z * w.z
    some (if cosine = 1 then 0 else if cosine = 4 / 5 then 4099746
      else if cosine = 3 / 5 then 5907798 else 10007545)
  metres_comm v w := by simp [mul_comm]

/-- The ground rises by twenty feet, of which the part of the way is taken between the places. -/
theorem interpolates_sample :
    let old := sampleElevated ⟨1, 0, 0⟩ 100
    let new := sampleElevated ⟨0, 1, 0⟩ 120
    let between := sampleElevated ⟨4 / 5, 3 / 5, 0⟩ 0
    Interpolates sampleDistances between old new .null
      ∧ (interpolatedElevation sampleDistances between old new .null).getAltitude.valueIn .ft
        = 120 - 5907798 / 10007545 * 20 :=
  ⟨(interpolates_iff sampleDistances _ _ _ _ (by decide +kernel) (by decide +kernel)
    (by decide +kernel) (by decide +kernel)).mpr (by decide +kernel), by decide +kernel⟩

/-- The ground falls by a thousand feet, which is not refused, while the other direction is. -/
theorem falling_ground_is_not_refused :
    let high := sampleElevated ⟨1, 0, 0⟩ 1100
    let low := sampleElevated ⟨0, 1, 0⟩ 100
    isNull (interpolatedElevation sampleDistances {} high low .null) = false
      ∧ isNull (interpolatedElevation sampleDistances {} low high .null) = true
      ∧ ¬ Interpolates sampleDistances {} high low .null := by
  have hforward : isNull (interpolatedElevation sampleDistances {} (sampleElevated ⟨1, 0, 0⟩ 1100)
      (sampleElevated ⟨0, 1, 0⟩ 100) .null) = false := by decide +kernel
  have hbackward : isNull (interpolatedElevation sampleDistances {} (sampleElevated ⟨0, 1, 0⟩ 100)
      (sampleElevated ⟨1, 0, 0⟩ 1100) .null) = true := by decide +kernel
  refine ⟨hforward, hbackward, fun h => ?_⟩
  exact Bool.false_ne_true (hforward.symm.trans (h.symmetric.trans hbackward))

end SituationWithPlane

end NeoSwift.Aviation
