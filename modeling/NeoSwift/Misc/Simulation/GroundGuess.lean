import NeoSwift.Aviation.AircraftSituation
import NeoSwift.Misc.Simulation.AircraftModel
import NeoSwift.Misc.Simulation.RemoteAircraftProvider
import NeoSwift.Pq.Speed

/-!
# The Guess of the Ground

`CAircraftSituationChange` and its `guessOnGround`, which says whether an aircraft is on the
ground when nobody told. A change is what the situations of an aircraft have in common: that
they ascend, that all but the latest were on the ground, that the latest rotates up.

When a situation is stored, the ground is guessed for the front of the list. The list the
change is calculated from is the local copy, and that is filled only afterwards: the change is
the one of an empty list in each and every case. What is lost is all the guess would know from
the past, so the result is the one a list without a past gives.

A situation has the callsign and the motion that are left out elsewhere. Pitch and bank are
their values in degrees. A change is as far as it is read here.

## Main definitions

* `MovingSituation`: Situations with their motion.
* `CAircraftSituationChange`, `CAircraftSituationChange.ofSituations`: Changes.
* `CAircraftSituationChange.guessOnGround`: The guess.
* `groundLibrary`: What the provider is to use.
* `GuessesWithCurrentChange`: The guess with the change of the list that is stored.
* `ChangeMakesNoDifference`: The lists for which any change is as good as that one.

## Theorems

* `guessFromChange_eq_iff`: When a change says what no change says.
* `situations_storeAircraftSituation`: What is stored.
* `guesses_with_current_change_iff`: When the guess is the one with the current change.
* `second_situation_is_guessed_without_past`: One that is not.
-/

namespace NeoSwift

namespace Aviation

open Pq Misc

/-- `COnGroundInfo::IsOnGround`. -/
inductive IsOnGround where
  | notOnGround | onGround | onGroundSituationUnknown
  deriving DecidableEq

namespace COnGroundInfo

/-- The constructor from a flag. -/
def ofFlag (flag : IsOnGround) (details : OnGroundDetails) : COnGroundInfo where
  m_onGroundDetails := details
  m_onGroundFactor :=
    match flag with
    | .onGroundSituationUnknown => -1
    | .onGround => 1
    | .notOnGround => 0

/-- The constructor from the distance to the ground. Whatever the factor is set to, the last
    statement sets it to zero. -/
def ofGroundDistance (_cg _groundDistance : CLength) : COnGroundInfo where
  m_onGroundDetails := .onGroundByElevationAndCG
  m_onGroundFactor := 0

/-- Below 0 the factor says unknown. -/
def getOnGround (info : COnGroundInfo) : IsOnGround :=
  if info.m_onGroundFactor < 0 then .onGroundSituationUnknown
  else if info.isOnGround then .onGround
  else .notOnGround

end COnGroundInfo

/-- `CAircraftSituation` with its callsign and its motion. -/
structure MovingSituation extends CAircraftSituation where
  callsign : Callsign := {}
  pitch : ℚ := 0
  bank : ℚ := 0
  groundSpeed : CSpeed := CSpeed.null
  hasVelocity : Bool := false

instance : TimestampWithOffsetBased MovingSituation where
  getMSecsSinceEpoch s := s.m_timestampMSecsSinceEpoch
  getTimeOffsetMs s := s.m_timeOffsetMs
  setTimeOffsetMs s os := { s with m_timeOffsetMs := os }
  getMSecsSinceEpoch_set _ _ := rfl
  getTimeOffsetMs_set _ _ := rfl
  set_set _ _ _ := rfl

namespace MovingSituation

variable (s : MovingSituation)

/-- Only where neither parts nor network say it. -/
def shouldGuessOnGround : Bool := !s.hasInboundGroundDetails

/-- 2.5 km/h and more. -/
def isMoving : Bool := 25 / 10 ≤ s.groundSpeed.valueIn .km_h

def hasCG : Bool := !s.cg.isNull

/-- How high the centre of gravity is above the ground, null if one is not known. -/
def getGroundDistance (centerOfGravity : CLength) : CLength :=
  if centerOfGravity.isNull || !s.hasGroundElevation then CLength.null
  else s.altitude.toCLength - (s.groundElevation.withOffset centerOfGravity).toCLength

def setOnGroundInfo (info : COnGroundInfo) : MovingSituation :=
  { s with onGroundInfo := info }

/-- What a guess sets. -/
def guessed (flag : IsOnGround) : MovingSituation :=
  s.setOnGroundInfo (COnGroundInfo.ofFlag flag .onGroundByGuessing)

end MovingSituation

/-! ## The list -/

namespace CMathUtils

def mean (values : List ℚ) : ℚ := values.sum / values.length

/-- The mean square of the differences from the mean. -/
def variance (values : List ℚ) : ℚ :=
  mean (values.map (fun v => (v - mean values) * (v - mean values)))

/-- A value above the sum of the mean and the standard deviation, which is the root of the
    variance. -/
def exceedsStandardDeviation (values : List ℚ) (value : ℚ) : Bool :=
  mean values < value && variance values < (value - mean values) ^ 2

theorem mean_replicate {n : ℕ} (hn : 0 < n) (x : ℚ) : mean (List.replicate n x) = x := by
  have hne : (n : ℚ) ≠ 0 := Nat.cast_ne_zero.mpr (by omega)
  unfold mean
  rw [List.sum_replicate, List.length_replicate, nsmul_eq_mul, mul_div_cancel_left₀ x hne]

theorem variance_replicate {n : ℕ} (hn : 0 < n) (x : ℚ) : variance (List.replicate n x) = 0 := by
  unfold variance
  rw [List.map_replicate, mean_replicate hn, mean_replicate hn, sub_self, mul_zero]

end CMathUtils

namespace CAircraftSituationList

def containsNullPositionOrHeight (situations : List MovingSituation) : Bool :=
  situations.any (fun s => s.isNull)

/-- On ground in each of the situations, none of them null. -/
def isConstOnGround (situations : List MovingSituation) : Bool :=
  if situations.isEmpty then false
  else if containsNullPositionOrHeight situations then false
  else situations.all (fun s => s.isOnGround)

/-- The loop of `isConstAscending`, with the newer situation. -/
def ascendsTo (newerSituation : MovingSituation) : List MovingSituation → Bool
  | [] => true
  | situation :: situations =>
    let delta := newerSituation.altitude.toCLength - situation.altitude.toCLength
    if !newerSituation.isNull && !delta.isPositiveWithEpsilonConsidered then false
    else ascendsTo situation situations

/-- Of a list that is sorted. -/
def isConstAscending (sorted : List MovingSituation) : Bool :=
  if sorted.length < 2 then false
  else if containsNullPositionOrHeight sorted then false
  else ascendsTo {} sorted

/-- Of a list that is sorted. -/
def isRotatingUp (sorted : List MovingSituation) : Bool :=
  if sorted.length < 2 then false
  else
    let pitches := sorted.map MovingSituation.pitch
    CMathUtils.exceedsStandardDeviation pitches (pitches.headD 0)

def withoutFrontSituation (situations : List MovingSituation) : List MovingSituation :=
  situations.tail

/-- `isConstOnGround` without the front situation, of three and more. -/
def wasConstOnGround (sorted : List MovingSituation) : Bool :=
  3 ≤ sorted.length && isConstOnGround (withoutFrontSituation sorted)

end CAircraftSituationList

/-! ## The change -/

/-- `CAircraftSituationChange`, as far as the guess and the store read it. -/
structure CAircraftSituationChange where
  m_situationsCount : ℤ := -1
  m_correspondingCallsign : Callsign := {}
  m_timestampMSecsSinceEpoch : ℤ := -1
  m_timeOffsetMs : ℤ := 0
  m_constAscending : Bool := false
  m_wasOnGround : Bool := false
  m_rotateUp : Bool := false

instance : TimestampWithOffsetBased CAircraftSituationChange where
  getMSecsSinceEpoch := CAircraftSituationChange.m_timestampMSecsSinceEpoch
  getTimeOffsetMs := CAircraftSituationChange.m_timeOffsetMs
  setTimeOffsetMs change os := { change with m_timeOffsetMs := os }
  getMSecsSinceEpoch_set _ _ := rfl
  getTimeOffsetMs_set _ _ := rfl
  set_set _ _ _ := rfl

namespace CAircraftSituationChange

/-- The epsilon of degrees. -/
def degEpsilon : ℚ := 1 / 1000000000

/-- The constructor. With standard deviations the pitch is compared as an angle. -/
def ofSituations (getSortedAdjustedLatestFirst : List MovingSituation → List MovingSituation)
    (situations : List MovingSituation) (alreadySortedLatestFirst calcStdDeviations : Bool) :
    CAircraftSituationChange :=
  if situations.length < 2 then {}
  else
    let sorted :=
      if alreadySortedLatestFirst then situations else getSortedAdjustedLatestFirst situations
    let latest := sorted.headD {}
    { m_situationsCount := situations.length
      m_correspondingCallsign := latest.callsign
      m_timestampMSecsSinceEpoch := latest.m_timestampMSecsSinceEpoch
      m_timeOffsetMs := latest.m_timeOffsetMs
      m_constAscending := CAircraftSituationList.isConstAscending sorted
      m_wasOnGround := CAircraftSituationList.wasConstOnGround sorted
      m_rotateUp :=
        if calcStdDeviations then
          CMathUtils.exceedsStandardDeviation (situations.map MovingSituation.pitch)
            (latest.pitch - degEpsilon)
        else CAircraftSituationList.isRotatingUp sorted }

/-- A change needs two situations. -/
def isNull (change : CAircraftSituationChange) : Bool := change.m_situationsCount < 2

end CAircraftSituationChange

namespace CAircraftIcaoCode

/-- What is guessed for a code: the center of gravity and the rotate speed. The `break`s
    leave out what is behind the counts of engines. -/
def guessedParameters (u : UnicodeData) (icao : CAircraftIcaoCode) : CLength × CSpeed :=
  let engines := icao.getEnginesCount
  let isEngine (c : Char) : Bool := icao.getEngineType.map u.upper == some [c]
  let behind (guess : CLength × CSpeed) : CLength × CSpeed :=
    let fast :=
      if !isEngine 'J' then guess.2
      else if icao.military then guess.2 * (12 / 10 : ℚ)
      else if icao.matchesDesignator u "CONC" then CSpeed.create 199 .kts
      else guess.2
    (guess.1, if icao.isVtol then CSpeed.create 0 .kts else fast)
  if engines = 1 then
    if isEngine 'T' then (CLength.create 2 .m, CSpeed.create 70 .km_h)
    else behind (CLength.create (3 / 2) .m, CSpeed.create 70 .km_h)
  else if engines = 2 then
    if isEngine 'T' then (CLength.create 2 .m, CSpeed.create 100 .kts)
    else if isEngine 'J' then (CLength.create (5 / 2) .m, CSpeed.create 120 .kts)
    else behind (CLength.create 2 .m, CSpeed.create 100 .kts)
  else if 2 < engines then
    if isEngine 'J' then (CLength.create 6 .m, CSpeed.create 140 .kts)
    else behind (CLength.create 4 .m, CSpeed.create 70 .kts)
  else behind (CLength.create (3 / 2) .m, CSpeed.create 70 .km_h)

/-- Values that are not null are not overridden. -/
def guessModelParameters (u : UnicodeData) (icao : CAircraftIcaoCode) (guessedCGOut : CLength)
    (guessedVRotateOut : CSpeed) : CLength × CSpeed :=
  if !guessedCGOut.isNull && !guessedVRotateOut.isNull then (guessedCGOut, guessedVRotateOut)
  else
    (if guessedCGOut.isNull then (icao.guessedParameters u).1 else guessedCGOut,
      if guessedVRotateOut.isNull then (icao.guessedParameters u).2 else guessedVRotateOut)

end CAircraftIcaoCode

namespace CAircraftSituationChange

variable (u : UnicodeData) (change : CAircraftSituationChange) (icao : CAircraftIcaoCode)
  (modelCG : CLength) (situation : MovingSituation)

/-- The guessed center of gravity and the rotate speed, for a situation of a model. A rotate
    speed that makes no sense is 80 knots. -/
def guessForSituation : CLength × CSpeed :=
  let guess := icao.guessModelParameters u
    (if situation.hasCG then situation.cg else modelCG) CSpeed.null
  (guess.1,
    if guess.2.isNull then guess.2
    else if 5 < guess.2.valueIn .km_h then guess.2
    else CSpeed.create 80 .kts)

/-- The last part of the guess, for a situation that has been set to be in the air. -/
def guessFromChange (vtol : Bool) (guessedRotateSpeed : CSpeed) : MovingSituation :=
  if !change.isNull && !vtol && change.m_wasOnGround then
    if change.m_rotateUp then situation else situation.guessed .onGround
  else if !change.isNull && change.m_constAscending then situation
  else if vtol then
    situation.setOnGroundInfo
      (COnGroundInfo.ofFlag .onGroundSituationUnknown .notSetGroundDetails)
  else if !guessedRotateSpeed.isNull && situation.groundSpeed.lessThan guessedRotateSpeed then
    situation.guessed .onGround
  else situation

/-- Once it is set to be in the air, what is read of the situation is what it has been. -/
def guessOnGround : MovingSituation :=
  let vtol := icao.isVtol
  if !situation.shouldGuessOnGround then situation
  else if !vtol && situation.groundSpeed.isNegativeWithEpsilonConsidered then
    situation.guessed .onGround
  else if !vtol && !situation.isMoving then situation.guessed .onGround
  else
    let inAir := situation.guessed .notOnGround
    let guess := guessForSituation u icao modelCG situation
    let cg := guess.1
    let guessedRotateSpeed := guess.2
    let sureRotateSpeed :=
      if guessedRotateSpeed.isNull then CSpeed.create 130 .kts
      else guessedRotateSpeed * (125 / 100 : ℚ)
    if 20 < |situation.pitch| then inAir
    else if 10 < |situation.bank| then inAir
    else if sureRotateSpeed.lessThan situation.groundSpeed then inAir
    else
      let og := COnGroundInfo.ofGroundDistance cg (situation.getGroundDistance cg)
      if og.getOnGround = .onGround then
        inAir.setOnGroundInfo { og with m_onGroundDetails := .onGroundByGuessing }
      else guessFromChange change inAir vtol guessedRotateSpeed

/-- The guess comes to where the change is looked at. -/
def reachesChange : Bool :=
  let sureRotateSpeed := (guessForSituation u icao modelCG situation).2 * (125 / 100 : ℚ)
  situation.shouldGuessOnGround &&
    !(!icao.isVtol && situation.groundSpeed.isNegativeWithEpsilonConsidered) &&
    !(!icao.isVtol && !situation.isMoving) && !(20 < |situation.pitch| : Bool) &&
    !(10 < |situation.bank| : Bool) && !sureRotateSpeed.lessThan situation.groundSpeed

/-- A rotate speed is guessed for every code. -/
theorem isNull_guessForSituation :
    (guessForSituation u icao modelCG situation).2.isNull = false := by
  have hcode : (icao.guessedParameters u).2.isNull = false := by
    unfold CAircraftIcaoCode.guessedParameters
    dsimp only
    split_ifs <;> rfl
  have hmodel (cg : CLength) : (icao.guessModelParameters u cg CSpeed.null).2.isNull = false := by
    unfold CAircraftIcaoCode.guessModelParameters
    rw [if_neg (by simp [CSpeed.null, CSpeed.isNull, CSpeed.create])]
    exact hcode
  unfold guessForSituation
  dsimp only
  generalize (if situation.hasCG then situation.cg else modelCG) = cg
  rw [hmodel, if_neg Bool.false_ne_true]
  split
  · exact hmodel cg
  · rfl

/-- The distance to the ground does not settle anything. -/
theorem getOnGround_ofGroundDistance (cg groundDistance : CLength) :
    (COnGroundInfo.ofGroundDistance cg groundDistance).getOnGround = .notOnGround := by
  change COnGroundInfo.getOnGround ⟨.onGroundByElevationAndCG, 0⟩ = .notOnGround
  decide +kernel

/-- The checks before the change is looked at do not look at it. -/
theorem guessOnGround_eq :
    guessOnGround u change icao modelCG situation =
      if reachesChange u icao modelCG situation then
        guessFromChange change (situation.guessed .notOnGround) icao.isVtol
          (guessForSituation u icao modelCG situation).2
      else guessOnGround u {} icao modelCG situation := by
  unfold guessOnGround reachesChange
  dsimp only
  rw [isNull_guessForSituation, getOnGround_ofGroundDistance]
  generalize (guessForSituation u icao modelCG situation).2 = guessedRotateSpeed
  -- one check after the other
  cases hshould : situation.shouldGuessOnGround with
  | false => rfl
  | true =>
    cases hback : !icao.isVtol && situation.groundSpeed.isNegativeWithEpsilonConsidered with
    | true => rfl
    | false =>
      cases hstill : !icao.isVtol && !situation.isMoving with
      | true => rfl
      | false =>
        by_cases hpitch : 20 < |situation.pitch|
        · simp [hpitch]
        · by_cases hbank : 10 < |situation.bank|
          · simp [hbank]
          · simp only [hpitch, hbank, Bool.false_eq_true, if_false]
            cases (guessedRotateSpeed * (125 / 100 : ℚ)).lessThan situation.groundSpeed with
            | true => rfl
            | false => rfl

/-- A change says what no change says: of an aircraft that was on the ground, that it is still
    there where it is slow, and of one that ascends, that it is in the air where it is not. -/
theorem guessFromChange_eq_iff (vtol : Bool) {guessedRotateSpeed : CSpeed}
    (hspeed : guessedRotateSpeed.isNull = false) :
    guessFromChange {} (situation.guessed .notOnGround) vtol guessedRotateSpeed =
        guessFromChange change (situation.guessed .notOnGround) vtol guessedRotateSpeed ↔
      if !change.isNull && !vtol && change.m_wasOnGround then
        change.m_rotateUp = !situation.groundSpeed.lessThan guessedRotateSpeed
      else
        (!change.isNull && change.m_constAscending) = true →
          vtol = false ∧ situation.groundSpeed.lessThan guessedRotateSpeed = false := by
  have hnull : ({} : CAircraftSituationChange).isNull = true := by decide
  -- The three results of the guess differ in the factor of the ground flag.
  have hground : situation.guessed .notOnGround ≠ situation.guessed .onGround := by
    intro h
    have hfactor : (0 : ℚ) = 1 := congrArg (fun s => s.onGroundInfo.m_onGroundFactor) h
    exact absurd hfactor (by decide +kernel)
  have hunknown : (situation.guessed .notOnGround).setOnGroundInfo
      (COnGroundInfo.ofFlag .onGroundSituationUnknown .notSetGroundDetails) ≠
        situation.guessed .notOnGround := by
    intro h
    have hfactor : (-1 : ℚ) = 0 := congrArg (fun s => s.onGroundInfo.m_onGroundFactor) h
    exact absurd hfactor (by decide +kernel)
  have hagain :
      (situation.guessed .notOnGround).guessed .onGround = situation.guessed .onGround := rfl
  have hsame : (situation.guessed .notOnGround).groundSpeed = situation.groundSpeed := rfl
  unfold guessFromChange
  rw [hnull, hspeed, hagain, hsame]
  -- What is left depends on whether the aircraft is slow, and on the flags of the change.
  generalize situation.groundSpeed.lessThan guessedRotateSpeed = slow
  cases vtol with
  | true =>
    cases !change.isNull && change.m_constAscending with
    | true =>
      simp [hunknown]
    | false =>
      simp
  | false =>
    cases !change.isNull && !false && change.m_wasOnGround with
    | true =>
      cases slow <;> cases change.m_rotateUp <;>
        simp [hground, hground.symm]
    | false =>
      cases slow <;> cases !change.isNull && change.m_constAscending <;>
        simp [hground.symm]

/-! ### Of a list -/

section List

variable (sort : List MovingSituation → List MovingSituation) (situations : List MovingSituation)

/-- What the guess reads of a change, by the list. -/
theorem constAscending_ofSituations :
    (!(ofSituations sort situations true false).isNull &&
      (ofSituations sort situations true false).m_constAscending) =
        CAircraftSituationList.isConstAscending situations := by
  unfold ofSituations
  split
  case isTrue hshort =>
    unfold CAircraftSituationList.isConstAscending
    rw [if_pos hshort]
    rfl
  case isFalse hlong =>
    have hcount : ¬(situations.length : ℤ) < 2 := by omega
    simp [isNull, hcount]

theorem wasOnGround_ofSituations (vtol : Bool) :
    (!(ofSituations sort situations true false).isNull && !vtol &&
      (ofSituations sort situations true false).m_wasOnGround) =
        (!vtol && CAircraftSituationList.wasConstOnGround situations) := by
  unfold ofSituations
  split
  case isTrue hshort =>
    have hthree : ¬3 ≤ situations.length := by omega
    simp [CAircraftSituationList.wasConstOnGround, hthree]
  case isFalse hlong =>
    have hcount : ¬(situations.length : ℤ) < 2 := by omega
    simp [isNull, hcount]

theorem rotateUp_ofSituations :
    (ofSituations sort situations true false).m_rotateUp =
      CAircraftSituationList.isRotatingUp situations := by
  unfold ofSituations
  split
  case isTrue hshort =>
    unfold CAircraftSituationList.isRotatingUp
    rw [if_pos hshort]
  case isFalse hlong =>
    simp

end List

/-- For the front of the list the change of the list says what no change says: where the guess
    comes to it, an aircraft that was on the ground rotates up exactly if it is not slow, and
    one that was not and ascends is neither slow nor a VTOL. -/
def ChangeMakesNoDifference (situations : List MovingSituation) : Prop :=
  ∀ front ∈ situations.head?, reachesChange u icao modelCG front = true →
    let slow := front.groundSpeed.lessThan (guessForSituation u icao modelCG front).2
    if !icao.isVtol && CAircraftSituationList.wasConstOnGround situations then
      CAircraftSituationList.isRotatingUp situations = !slow
    else
      CAircraftSituationList.isConstAscending situations = true → icao.isVtol = false ∧ slow = false

theorem guessOnGround_eq_iff (sort : List MovingSituation → List MovingSituation)
    (front : MovingSituation) (rest : List MovingSituation) :
    guessOnGround u {} icao modelCG front =
        guessOnGround u (ofSituations sort (front :: rest) true false) icao modelCG front ↔
      ChangeMakesNoDifference u icao modelCG (front :: rest) := by
  unfold ChangeMakesNoDifference
  rw [List.head?_cons]
  simp only [Option.mem_some_iff, forall_eq']
  rw [guessOnGround_eq u (ofSituations sort (front :: rest) true false)]
  cases hreach : reachesChange u icao modelCG front with
  | false => simp
  | true =>
    rw [guessOnGround_eq, hreach, if_pos rfl, if_pos rfl,
      guessFromChange_eq_iff _ _ _ (isNull_guessForSituation u icao modelCG front),
      constAscending_ofSituations, wasOnGround_ofSituations, rotateUp_ofSituations]
    simp

end CAircraftSituationChange

end Aviation

namespace Misc

namespace Simulation

open Aviation Pq

/-! ## The provider -/

namespace RemoteAircraftProvider

section Stored

variable {S C E : Type} [TimestampWithOffsetBased S] [TimestampWithOffsetBased C]
  (lib : SituationLibrary S C E) (p : RemoteAircraftProvider S C) (situation : S)
  (allowTestAltitudeOffset : Bool) (now : ℤ)

/-- The situation, with the test altitude added where that is allowed. -/
def situationCorrected : S :=
  if allowTestAltitudeOffset then p.addTestAltitudeOffsetToSituation lib situation else situation

/-- What is stored for the callsign of a situation. -/
def storedSituations : List S := (p.situationsByCallsign (key (lib.getCallsign situation))).getD []

/-- A situation has a callsign, and it has a velocity if it comes behind one that has. -/
def IsStored : Prop :=
  (lib.getCallsign situation).isEmpty = false ∧
    ¬(¬lib.hasVelocity (p.situationCorrected lib situation allowTestAltitudeOffset) ∧
      (p.storedSituations lib situation).head?.any lib.hasVelocity)

/-- The list with the situation in it. -/
def listWithSituation : List S :=
  updatedSituations lib situation (p.situationCorrected lib situation allowTestAltitudeOffset)
    (p.storedSituations lib situation)

/-- The guess for the front situation with a change. -/
def guessFrontWith (change : C) (model : CAircraftModel) : List S → List S
  | [] => []
  | front :: rest => lib.guessOnGround change model front :: rest

/-- The list that is stored is the one with the situation in it, and where the ground is guessed
    it is guessed with the change of that list. -/
def GuessesWithCurrentChange : Prop :=
  p.IsStored lib situation allowTestAltitudeOffset → lib.hasInboundGroundDetails situation = false →
    let model := p.getAircraftInRangeModelForCallsign (lib.getCallsign situation)
    let situations := p.listWithSituation lib situation allowTestAltitudeOffset
    let change := lib.change situations
      (lib.getCG (p.situationCorrected lib situation allowTestAltitudeOffset))
        model.isVtol true false
    (p.storeAircraftSituation lib situation allowTestAltitudeOffset now).1.situationsByCallsign
        (key (lib.getCallsign situation)) =
      some (guessFrontWith lib change model situations)

theorem situationsByCallsign_updateCGFromSituation :
    (p.updateCGFromSituation lib situation).situationsByCallsign = p.situationsByCallsign := by
  unfold updateCGFromSituation
  dsimp only
  split
  · unfold updateCG updateInRange
    split <;> rfl
  · rfl

/-- What is stored. -/
theorem situations_storeAircraftSituation (h : p.IsStored lib situation allowTestAltitudeOffset) :
    (p.storeAircraftSituation lib situation allowTestAltitudeOffset now).1.situationsByCallsign
        (key (lib.getCallsign situation)) =
      some (guessFront lib situation (p.situationCorrected lib situation allowTestAltitudeOffset)
        (p.getAircraftInRangeModelForCallsign (lib.getCallsign situation))
        (p.listWithSituation lib situation allowTestAltitudeOffset)) := by
  rcases h with ⟨hcallsign, hvelocity⟩
  unfold storeAircraftSituation
  dsimp only
  rw [hcallsign]
  unfold insertSituation
  rw [situationsByCallsign_updateCGFromSituation]
  change (if ¬lib.hasVelocity (p.situationCorrected lib situation allowTestAltitudeOffset) = true ∧
    (p.storedSituations lib situation).head?.any lib.hasVelocity = true then _ else _
      : RemoteAircraftProvider S C).situationsByCallsign _ = _
  rw [if_neg hvelocity]
  exact Fsd.CallsignMap.insert_self _ _ _

end Stored

end RemoteAircraftProvider

section Ground

variable {E : Type} (u : UnicodeData) (icaoCode : CAircraftModel → CAircraftIcaoCode)
  (sort : List MovingSituation → List MovingSituation)
  (lib : SituationLibrary MovingSituation CAircraftSituationChange E)

/-- What the provider uses. The ICAO code of a model and what has nothing to do with the guess
    are parameters. -/
def groundLibrary : SituationLibrary MovingSituation CAircraftSituationChange E :=
  { lib with
    getCallsign := MovingSituation.callsign
    getCG := fun s => s.cg
    hasVelocity := MovingSituation.hasVelocity
    hasInboundGroundDetails := fun s => s.hasInboundGroundDetails
    isOnGround := fun s => s.isOnGround
    change := fun situations _ _ => CAircraftSituationChange.ofSituations sort situations
    nullChange := {}
    changeIsNull := CAircraftSituationChange.isNull
    changeCallsign := CAircraftSituationChange.m_correspondingCallsign
    guessOnGround := fun change model =>
      change.guessOnGround u (icaoCode model) model.cg }

/-- For whatever an aircraft has stored and whatever is stored next, the guess is the one with
    the current change exactly where there is no guess, or the current change makes no
    difference to it. -/
theorem guesses_with_current_change_iff
    (p : RemoteAircraftProvider MovingSituation CAircraftSituationChange)
    (situation : MovingSituation) (allowTestAltitudeOffset : Bool) (now : ℤ) :
    let library := groundLibrary u icaoCode sort lib
    p.GuessesWithCurrentChange library situation allowTestAltitudeOffset now ↔
      (p.IsStored library situation allowTestAltitudeOffset →
        situation.hasInboundGroundDetails = false →
          let model := p.getAircraftInRangeModelForCallsign situation.callsign
          CAircraftSituationChange.ChangeMakesNoDifference u (icaoCode model) model.cg
            (p.listWithSituation library situation allowTestAltitudeOffset)) := by
  intro library
  refine imp_congr_right fun hstored => imp_congr_right fun hguess => ?_
  -- The two calls of the guess differ in the change only, which is the one of the list.
  have hchange (situations : List MovingSituation) (cg : CLength) (isVtol : Bool) :
      library.change situations cg isVtol true false =
        CAircraftSituationChange.ofSituations sort situations true false := rfl
  rw [p.situations_storeAircraftSituation library situation allowTestAltitudeOffset now hstored,
    Option.some_inj, RemoteAircraftProvider.guessFront,
    if_neg (by rw [hguess]; exact Bool.false_ne_true)]
  cases p.listWithSituation library situation allowTestAltitudeOffset with
  | nil =>
    refine iff_of_true rfl fun front hfront => ?_
    exact absurd hfront (Option.not_mem_none front)
  | cons front rest =>
    change (_ :: rest = _ :: rest) ↔ _
    rw [List.cons.injEq, and_iff_left rfl]
    exact CAircraftSituationChange.guessOnGround_eq_iff u _ _ sort front rest

end Ground

/-- A small aircraft with a piston engine. -/
def sampleIcaoCode : CAircraftIcaoCode :=
  { designator := "C172", combinedType := "L1P" }

def sampleGroundLibrary : SituationLibrary MovingSituation CAircraftSituationChange Unit :=
  groundLibrary UnicodeData.ascii (fun _ => sampleIcaoCode) id
    { situationSorter := Sorter.insertion _
      partsSorter := Sorter.insertion _
      sortAdjustedLatestFirst := id
      getCallsign := MovingSituation.callsign
      getCG := fun s => s.cg
      hasVelocity := MovingSituation.hasVelocity
      hasInboundGroundDetails := fun s => s.hasInboundGroundDetails
      isOnGround := fun s => s.isOnGround
      addMsecs := fun ms s =>
        { s with m_timestampMSecsSinceEpoch := s.m_timestampMSecsSinceEpoch + ms }
      withAltitudeOffset := fun _ s => s
      setOnGroundDetailsOf := fun _ s => s
      transferElevationForward := id
      adjustGroundFlag := fun _ l => (l, 0)
      elevationIsNull := fun _ => true
      setGroundElevationChecked := fun _ _ s => (s, false)
      setSituationOfAircraft := fun callsign _ s => { s with callsign }
      change := fun _ _ _ _ _ => {}
      nullChange := {}
      changeIsNull := CAircraftSituationChange.isNull
      changeCallsign := CAircraftSituationChange.m_correspondingCallsign
      guessOnGround := fun _ _ s => s
      isUpper := Char.isUpper
      isDigit := Char.isDigit
      foldCase := CaseFolding.ascii }

/-- A situation of an aircraft that goes along the ground. -/
def sampleMovingSituation (msecs : ℤ) (info : COnGroundInfo) : MovingSituation where
  m_timestampMSecsSinceEpoch := msecs
  m_timeOffsetMs := 5000
  normalVector := ⟨1, 0, 0⟩
  altitude := CAltitude.create 300 .meanSeaLevel .ft
  onGroundInfo := info
  callsign := sampleCallsign
  groundSpeed := CSpeed.create 40 .kts

/-- The first situation comes with its ground flag, as from the network. -/
def sampleGroundHistory : List (ProviderAction MovingSituation CAircraftSituationChange Unit) :=
  [.addNewAircraftInRange { callsign := sampleCallsign, situation := {} },
    .storeAircraftSituation
      (sampleMovingSituation 10000 (COnGroundInfo.ofFlag .onGround .inFromNetwork)) true 10000]

/-- The second one comes without the flag: it should stay on the ground until it rotates up,
    and is guessed to be in the air. -/
theorem second_situation_is_guessed_without_past :
    ¬RemoteAircraftProvider.GuessesWithCurrentChange sampleGroundLibrary
      ((remoteAircraftProvider sampleGroundLibrary).run {} sampleGroundHistory).1
      (sampleMovingSituation 15000 {}) true 15000 := by
  intro h
  have hstored : RemoteAircraftProvider.IsStored sampleGroundLibrary
      ((remoteAircraftProvider sampleGroundLibrary).run {} sampleGroundHistory).1
      (sampleMovingSituation 15000 {}) true := ⟨by decide +kernel, by decide +kernel⟩
  have hfactor := congrArg
    (fun stored => (stored.bind List.head?).map (fun s => s.onGroundInfo.m_onGroundFactor))
    (h hstored (by decide +kernel))
  exact absurd hfactor (by decide +kernel)

end Simulation

end Misc

end NeoSwift
