import NeoSwift.Aviation.Altitude
import NeoSwift.Misc.TimestampObjectList

/-!
# Aircraft Situations

`CAircraftSituation`: where an aircraft is at a time, with the elevation of the
ground below it, its center of gravity and whether it is on the ground. The position
is a normal vector, and its geodetic height is the altitude of the aircraft.

A situation is null when its position is, and the position is null as soon as it has
no height. The corrected altitude is the altitude unless the ground is in the way, so
it is null only where the altitude is.

Heading, pitch, bank, speeds and the callsign are left out.

## Main definitions

* `COnGroundInfo`: Whether an aircraft is on the ground, and who says so.
* `NormalVector`, `CAircraftSituation`: Positions and situations.
* `CAircraftSituation.isNull`: Situations without a position.
* `CAircraftSituation.getCorrectedAltitude`: The altitude above the ground.

## Theorems

* `isNull_getCorrectedAltitude`: An altitude is not lost by correcting it.
* `isNull_correctAltitude`: Neither is a situation.
-/

namespace NeoSwift.Aviation

open Pq Misc

/-- `COnGroundInfo::OnGroundDetails`. -/
inductive OnGroundDetails where
  | notSetGroundDetails | onGroundByInterpolation | onGroundByElevationAndCG
  | onGroundByGuessing | inFromNetwork | inFromParts | outOnGroundOwnAircraft
  deriving DecidableEq

/-- The ground factor is one on the ground, zero above it and negative if unknown. -/
structure COnGroundInfo where
  m_onGroundDetails : OnGroundDetails := .notSetGroundDetails
  m_onGroundFactor : ℚ := -1
  deriving DecidableEq

namespace COnGroundInfo

/-- The constructor from an interpolated ground factor. -/
def ofFactor (interpolatedGndFactor : ℚ) : COnGroundInfo where
  m_onGroundDetails := .onGroundByInterpolation
  m_onGroundFactor :=
    if interpolatedGndFactor < -1 / 10 then -1
    else if interpolatedGndFactor < 1 / 1000 then 0
    else if 999 / 1000 < interpolatedGndFactor then 1
    else interpolatedGndFactor

/-- `getOnGround() == OnGround`. -/
def isOnGround (info : COnGroundInfo) : Bool :=
  0 ≤ info.m_onGroundFactor &&
    if info.m_onGroundDetails = .onGroundByInterpolation then
      (95 / 100 < info.m_onGroundFactor : Bool)
    else (|info.m_onGroundFactor - 1| ≤ 1 / 1000000 : Bool)

end COnGroundInfo

/-- `std::array<double, 3>` of a normal vector. -/
structure NormalVector where
  x : ℚ
  y : ℚ
  z : ℚ
  deriving DecidableEq

namespace NormalVector

/-- `ICoordinateGeodetic::isValidVector`. -/
def isValidVector (v : NormalVector) : Bool :=
  |v.x| ≤ 100001 / 100000 && |v.y| ≤ 100001 / 100000 && |v.z| ≤ 100001 / 100000

/-- The epsilon of the numeric limits of a double. -/
def epsilon : ℚ := 1 / 2 ^ 52

/-- No component is away from zero. -/
def isZeroEpsilonConsidered (v : NormalVector) : Bool :=
  |v.x| ≤ epsilon && |v.y| ≤ epsilon && |v.z| ≤ epsilon

end NormalVector

/-- A situation: where an aircraft is, how high, on what ground, and when. -/
structure CAircraftSituation where
  m_timestampMSecsSinceEpoch : ℤ := -1
  m_timeOffsetMs : ℤ := 0
  normalVector : NormalVector := ⟨0, 0, 0⟩
  altitude : CAltitude := CAltitude.create 0 .meanSeaLevel .null
  groundElevation : CAltitude := CAltitude.create 0 .meanSeaLevel .null
  onGroundInfo : COnGroundInfo := {}
  cg : CLength := CLength.null
  deriving DecidableEq

instance : TimestampWithOffsetBased CAircraftSituation where
  getMSecsSinceEpoch := CAircraftSituation.m_timestampMSecsSinceEpoch
  getTimeOffsetMs := CAircraftSituation.m_timeOffsetMs
  setTimeOffsetMs s os := { s with m_timeOffsetMs := os }
  getMSecsSinceEpoch_set _ _ := rfl
  getTimeOffsetMs_set _ _ := rfl
  set_set _ _ _ := rfl

namespace CAircraftSituation

/-- The default situation. -/
def null : CAircraftSituation := {}

variable (s : CAircraftSituation)

/-- `isPositionNull`. -/
def isNull : Bool :=
  s.altitude.isNull || s.normalVector.isZeroEpsilonConsidered

def hasGroundElevation : Bool := !s.groundElevation.isNull

/-- On ground or not comes from the parts or the network, not from a guess. -/
def hasInboundGroundDetails : Bool :=
  s.onGroundInfo.m_onGroundDetails = .inFromParts ||
    s.onGroundInfo.m_onGroundDetails = .inFromNetwork

def hasGroundDetailsForGndInterpolation : Bool :=
  s.onGroundInfo.m_onGroundDetails ≠ .notSetGroundDetails

def isOnGround : Bool := s.onGroundInfo.isOnGround

def setMSecsSinceEpoch (msecs : ℤ) : CAircraftSituation :=
  { s with m_timestampMSecsSinceEpoch := msecs }

/-- Sets the time so that the adjusted time is the one given. -/
def setAdjustedMSecsSinceEpoch (adjustedTimeMs : ℤ) : CAircraftSituation :=
  s.setMSecsSinceEpoch (adjustedTimeMs - s.m_timeOffsetMs)

def addMsecs (ms : ℤ) : CAircraftSituation :=
  s.setMSecsSinceEpoch (s.m_timestampMSecsSinceEpoch + ms)

/-- The height of the position is in feet. -/
def setAltitude (altitude : CAltitude) : CAircraftSituation :=
  { s with altitude := altitude.switchedUnit .ft }

/-- The unit of the altitude, feet if there is none. -/
def getAltitudeOrDefaultUnit : CLengthUnit :=
  if s.altitude.isNull then .ft else s.altitude.unit

/-- What counts as near the ground: half a metre. -/
def deltaNearGround : CLength := CLength.create (1 / 2) .m

end CAircraftSituation

/-- `CAltitude::withOffset`. -/
def CAltitude.withOffset (a : CAltitude) (offset : CLength) : CAltitude :=
  if a.isNull then CAltitude.create 0 .meanSeaLevel .null
  else if !offset.isNull && !offset.isZeroEpsilonConsidered then
    { a with toCLength := a.toCLength + offset.switchedUnit a.unit }
  else a

namespace CAircraftSituation

/-- Near the ground, below it, or where the aircraft is to stay on it, the altitude is
    the elevation with the center of gravity. -/
def getCorrectedAltitude (s : CAircraftSituation) (centerOfGravity : CLength)
    (enableDragToGround : Bool) : CAltitude :=
  if !s.hasGroundElevation then s.altitude
  else if s.altitude.datum = .aboveGround then s.altitude
  else
    let groundPlusCG :=
      (s.groundElevation.withOffset centerOfGravity).switchedUnit s.getAltitudeOrDefaultUnit
    if groundPlusCG.isNull then s.altitude
    else
      let groundDistance := s.altitude.toCLength - groundPlusCG.toCLength
      if groundDistance.isNegativeWithEpsilonConsidered then groundPlusCG
      else if groundDistance.magnitude.lessThan deltaNearGround then groundPlusCG
      else if enableDragToGround && s.isOnGround && (s.hasInboundGroundDetails ||
          s.onGroundInfo.m_onGroundDetails = .onGroundByGuessing) then groundPlusCG
      else s.altitude

/-- The situation with its altitude corrected by its own centre of gravity. -/
def correctAltitude (s : CAircraftSituation) (enableDragToGround : Bool) : CAircraftSituation :=
  s.setAltitude (s.getCorrectedAltitude s.cg enableDragToGround)

/-- Only a null altitude is corrected to a null altitude. -/
theorem isNull_getCorrectedAltitude {s : CAircraftSituation} (centerOfGravity : CLength)
    (enableDragToGround : Bool) (h : s.altitude.isNull = false) :
    (s.getCorrectedAltitude centerOfGravity enableDragToGround).isNull = false := by
  unfold getCorrectedAltitude
  dsimp only
  split
  · exact h
  · split
    · exact h
    · split
      · exact h
      case isFalse hground =>
        -- what is left is the altitude or the ground, and neither is null
        rw [Bool.not_eq_true] at hground
        split_ifs <;> assumption

end CAircraftSituation

theorem CAltitude.isNull_switchedUnit {a : CAltitude} (unit : CLengthUnit)
    (h : a.isNull = false) : (a.switchedUnit unit).isNull = false := by
  unfold CAltitude.switchedUnit
  split
  · exact h
  case isFalse hunit =>
    rw [not_or, not_or] at hunit
    unfold CLength.switchedUnit
    rw [if_neg (by rw [h]; simp [hunit.2.2]),
      if_neg hunit.1]
    exact decide_eq_false hunit.1

namespace CAircraftSituation

theorem isNull_correctAltitude {s : CAircraftSituation} (enableDragToGround : Bool)
    (h : s.isNull = false) : (s.correctAltitude enableDragToGround).isNull = false := by
  unfold isNull at h ⊢
  rw [Bool.or_eq_false_iff] at h ⊢
  exact ⟨CAltitude.isNull_switchedUnit _ (isNull_getCorrectedAltitude _ _ h.1), h.2⟩

end CAircraftSituation

end NeoSwift.Aviation
