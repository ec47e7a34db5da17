import NeoSwift.Geo.CoordinateGeodetic
import NeoSwift.Misc.Simulation.GroundGuess

/-!
# Scenery Deviations

`CAircraftSituationChange` with the deviation of the scenery it guesses, and the interpolator
that lowers an aircraft by it.

The distance to the ground of an aircraft that is on the ground is that of its center of
gravity. Where it is another one, and always the same, the scenery of the simulator is not that
of the network. So an aircraft has to have been on the ground for a guess. The hint is even that
it was. But what is asked for is whether it was not: an aircraft in level flight over flat ground
has a deviation of its whole height, and is drawn on the ground.

A standard deviation is represented by the variance.

## Main definitions

* `SceneryChange`, `SceneryChange.ofSituations`: Changes with scenery deviations.
* `SceneryChange.guessSceneryDeviation`: The guess.
* `remoteAircraftSituationsAndChange`: The interpolator's situations.
* `DeviatesOnGroundOnly`: What is expected of the guess.

## Theorems

* `hasSceneryDeviation_ofSituations`: When there is a deviation.
* `deviatesOnGroundOnly_iff`: When it is from the ground.
* `level_flight_is_lowered`: A flight that is lowered.
-/

namespace NeoSwift

namespace Aviation

open Pq Misc Geo

/-! ## The list -/

namespace CAircraftSituationList

/-- Not on ground in each of the situations, none of them null. -/
def isConstNotOnGround (situations : List MovingSituation) : Bool :=
  if situations.isEmpty then false
  else if containsNullPositionOrHeight situations then false
  else situations.all fun s => s.onGroundInfo.getOnGround = .notOnGround

/-- In feet, of those that have one. -/
def altitudeValues (situations : List MovingSituation) : List ℚ :=
  situations.filterMap fun s =>
    if s.altitude.isNull then none else some (s.altitude.valueIn .ft)

/-- The ground elevations that are known, in feet. -/
def elevationValues (situations : List MovingSituation) : List ℚ :=
  situations.filterMap fun s =>
    if s.groundElevation.isNull then none else some (s.groundElevation.valueIn .ft)

/-- `isConstNotOnGround` without the front situation, of three and more. -/
def wasConstNotOnGround (sorted : List MovingSituation) : Bool :=
  3 ≤ sorted.length && isConstNotOnGround (withoutFrontSituation sorted)

/-- The oldest one is first and the list is then turned around. -/
def getSortedAdjustedLatestFirst (S : LibrarySort MovingSituation)
    (situations : List MovingSituation) : List MovingSituation :=
  (S.sortBy (fun s => (getAdjustedMSecsSinceEpoch s : ℚ)) situations).reverse

/-- All altitudes are moved by the offset. -/
def addAltitudeOffset (situations : List MovingSituation) (offset : CLength) :
    List MovingSituation :=
  if offset.isNull || situations.isEmpty then situations
  else situations.map fun s => { s with
    toCAircraftSituation := s.toCAircraftSituation.setAltitude (s.altitude.withOffset offset) }

theorem isOnGround_of_isConstOnGround {situations : List MovingSituation}
    (h : isConstOnGround situations = true) : ∀ s ∈ situations, s.isOnGround = true := by
  unfold isConstOnGround at h
  split at h
  · cases h
  split at h
  · cases h
  · exact List.all_eq_true.mp h

theorem ne_nil_of_isConstOnGround {situations : List MovingSituation}
    (h : isConstOnGround situations = true) : situations ≠ [] := by
  rintro rfl
  exact Bool.false_ne_true h

/-- What is not on the ground is not on the ground, while the opposite does not hold: it may be
    unknown. -/
theorem isOnGround_of_isConstNotOnGround {situations : List MovingSituation}
    (h : isConstNotOnGround situations = true) :
    situations ≠ [] ∧ ∀ s ∈ situations, s.isOnGround = false := by
  unfold isConstNotOnGround at h
  split at h
  · cases h
  case isFalse hempty =>
    split at h
    · cases h
    · refine ⟨fun hnil => hempty (List.isEmpty_iff.mpr hnil), fun s hs => ?_⟩
      have hflag := of_decide_eq_true (List.all_eq_true.mp h s hs)
      unfold COnGroundInfo.getOnGround at hflag
      split at hflag
      · cases hflag
      split at hflag
      · cases hflag
      case isFalse hground => exact Bool.not_eq_true _ ▸ hground

end CAircraftSituationList

/-! ## The change -/

/-- `CAircraftSituationChange::GuessedSceneryDeviation`. -/
inductive GuessedSceneryDeviation where
  | noDeviationInfo | allOnGround | wasOnGround | smallAGLDeviationNearGround
  deriving DecidableEq

/-- `CAircraftSituationChange` with the scenery deviation. None of a variance is a standard
    deviation of null. -/
structure SceneryChange extends CAircraftSituationChange where
  m_constOnGround : Bool := false
  m_constNotOnGround : Bool := false
  m_wasNotOnGround : Bool := false
  m_altVariance : Option ℚ := none
  m_gndDistVariance : Option ℚ := none
  m_gndDistMean : CLength := CLength.null
  m_maxGroundDistance : CLength := CLength.null
  m_guessedSceneryDeviation : CLength := CLength.null
  m_guessedSceneryDeviationCG : CLength := CLength.null
  m_guessedSceneryDeviationHint : GuessedSceneryDeviation := .noDeviationInfo

namespace SceneryChange

def null : SceneryChange := {}

def hasSceneryDeviation (change : SceneryChange) : Bool :=
  !change.m_guessedSceneryDeviation.isNull

/-- A standard deviation is at most two feet, which is with the epsilon of feet. -/
def isSmallDeviation (variance : ℚ) : Bool := variance ≤ (2 + CLengthUnit.ft.getEpsilon) ^ 2

/-- The deviation with the hint where it comes from. -/
def setSceneryDeviation (change : SceneryChange) (deviation cg : CLength)
    (hint : GuessedSceneryDeviation) : SceneryChange :=
  { change with
    m_guessedSceneryDeviation := deviation
    m_guessedSceneryDeviationCG := if cg.isNull then CLength.null else deviation - cg
    m_guessedSceneryDeviationHint := hint }

/-- The mean distance to the ground, if that varies little. -/
def guessSceneryDeviation (change : SceneryChange) (cg : CLength) : SceneryChange :=
  let change := { change with
    m_guessedSceneryDeviation := CLength.null
    m_guessedSceneryDeviationHint := .noDeviationInfo }
  if change.m_gndDistVariance.isNone then change
  else if change.m_gndDistMean.isNull then change
  else if change.m_gndDistVariance.any isSmallDeviation then
    if change.m_constOnGround then
      change.setSceneryDeviation change.m_gndDistMean cg .allOnGround
    else if change.m_wasNotOnGround then
      change.setSceneryDeviation change.m_gndDistMean cg .wasOnGround
    else if change.m_altVariance.any isSmallDeviation then
      if !change.m_maxGroundDistance.isNull && change.m_maxGroundDistance.lessThan cg then
        if change.m_constOnGround then
          change.setSceneryDeviation change.m_gndDistMean cg .smallAGLDeviationNearGround
        else change
      else change
    else change
  else change

open CAircraftSituationList

/-- What is of the altitudes and the elevations. -/
def calculateStdDeviations (change : SceneryChange) (situations : List MovingSituation)
    (cg : CLength) : SceneryChange :=
  if situations.isEmpty then change
  else
    let altValues := altitudeValues situations
    let elvValues := elevationValues situations
    let change :=
      if altValues.length = situations.length then
        { change with m_altVariance := some (CMathUtils.variance altValues) }
      else change
    if elvValues.length = situations.length then
      if altValues.length = situations.length then
        let gndDistance := List.zipWith (· - ·) altValues elvValues
        guessSceneryDeviation { change with
          m_gndDistVariance := some (CMathUtils.variance gndDistance)
          m_gndDistMean := .create (CMathUtils.mean gndDistance) .ft
          m_maxGroundDistance := .create (gndDistance.max?.getD 0) .ft } cg
      else change
    else change

/-- The situations of a change, the latest one first. -/
def sortedSituations (S : LibrarySort MovingSituation) (situations : List MovingSituation)
    (alreadySortedLatestFirst : Bool) : List MovingSituation :=
  if alreadySortedLatestFirst then situations else getSortedAdjustedLatestFirst S situations

/-- The constructor. -/
def ofSituations (S : LibrarySort MovingSituation) (situations : List MovingSituation)
    (cg : CLength) (alreadySortedLatestFirst calcStdDeviations : Bool) : SceneryChange :=
  if situations.length < 2 then null
  else
    let sorted := sortedSituations S situations alreadySortedLatestFirst
    let change : SceneryChange :=
      { toCAircraftSituationChange := CAircraftSituationChange.ofSituations
          (getSortedAdjustedLatestFirst S) situations alreadySortedLatestFirst calcStdDeviations
        m_constOnGround := isConstOnGround sorted
        m_constNotOnGround := isConstNotOnGround sorted
        m_wasNotOnGround := wasConstNotOnGround sorted }
    if calcStdDeviations then change.calculateStdDeviations situations cg else change

/-- All situations have an altitude and an elevation, and the distance to the ground is the
    same. -/
def isConstGroundDistance (situations : List MovingSituation) : Bool :=
  (altitudeValues situations).length = situations.length &&
    (elevationValues situations).length = situations.length &&
    isSmallDeviation (CMathUtils.variance
      (List.zipWith (· - ·) (altitudeValues situations) (elevationValues situations)))

section

variable {change : SceneryChange} {cg : CLength}

/-- With a small deviation, the flags decide. The last branch asks again for what the first one
    has ruled out. -/
theorem hasSceneryDeviation_guessSceneryDeviation {variance : ℚ}
    (hvariance : change.m_gndDistVariance = some variance)
    (hmean : change.m_gndDistMean.isNull = false) :
    (change.guessSceneryDeviation cg).hasSceneryDeviation
      = (isSmallDeviation variance && (change.m_constOnGround || change.m_wasNotOnGround)) := by
  have hset (hint : GuessedSceneryDeviation) (change' : SceneryChange) :
      (change'.setSceneryDeviation change.m_gndDistMean cg hint).hasSceneryDeviation = true := by
    unfold hasSceneryDeviation setSceneryDeviation
    rw [Bool.not_eq_true']
    exact hmean
  unfold guessSceneryDeviation
  dsimp only
  rw [hvariance, hmean, Option.isNone_some, if_neg Bool.false_ne_true, if_neg Bool.false_ne_true,
    Option.any_some]
  -- The branches of the source, in order.
  cases isSmallDeviation variance with
  | false => rfl
  | true =>
    rw [if_pos rfl]
    cases change.m_constOnGround with
    | true =>
      exact hset _ _
    | false =>
      cases change.m_wasNotOnGround with
      | true =>
        exact hset _ _
      | false =>
        rw [if_neg Bool.false_ne_true, if_neg Bool.false_ne_true]
        split
        · split <;> rfl
        · rfl

theorem hasSceneryDeviation_calculateStdDeviations {situations : List MovingSituation}
    (hne : situations ≠ []) (hnone : change.hasSceneryDeviation = false) :
    (change.calculateStdDeviations situations cg).hasSceneryDeviation
      = (isConstGroundDistance situations
        && (change.m_constOnGround || change.m_wasNotOnGround)) := by
  have hempty : ¬ situations.isEmpty = true := fun h => hne (List.isEmpty_iff.mp h)
  unfold calculateStdDeviations isConstGroundDistance
  dsimp only
  rw [if_neg hempty]
  by_cases halt : (altitudeValues situations).length = situations.length
  · rw [if_pos halt, if_pos halt, decide_eq_true halt, Bool.true_and]
    by_cases helv : (elevationValues situations).length = situations.length
    · rw [if_pos helv, decide_eq_true helv]
      exact hasSceneryDeviation_guessSceneryDeviation rfl rfl
    · rw [if_neg helv, decide_eq_false helv]
      exact hnone
  · rw [if_neg halt, if_neg halt, decide_eq_false halt, ite_self]
    exact hnone

end

/-- A change has a deviation if the distance to the ground is the same while all situations are
    on the ground, or all but the latest are not. -/
theorem hasSceneryDeviation_ofSituations (S : LibrarySort MovingSituation)
    (situations : List MovingSituation) (cg : CLength)
    (alreadySortedLatestFirst calcStdDeviations : Bool) :
    (ofSituations S situations cg alreadySortedLatestFirst calcStdDeviations).hasSceneryDeviation
      = (decide (2 ≤ situations.length) && calcStdDeviations && isConstGroundDistance situations
        && (isConstOnGround (sortedSituations S situations alreadySortedLatestFirst)
          || wasConstNotOnGround (sortedSituations S situations alreadySortedLatestFirst))) := by
  unfold ofSituations
  by_cases hshort : situations.length < 2
  · rw [if_pos hshort, decide_eq_false (not_le.mpr hshort)]
    rfl
  · have hne : situations ≠ [] := by
      rintro rfl
      exact hshort (by decide)
    rw [if_neg hshort, decide_eq_true (not_lt.mp hshort)]
    cases calcStdDeviations with
    | false => rfl
    | true =>
      exact hasSceneryDeviation_calculateStdDeviations hne rfl

end SceneryChange

end Aviation

namespace Misc

namespace Simulation

open Aviation Pq Geo

/-! ## The interpolator -/

/-- The situations of an aircraft and its current scenery offset. -/
def remoteAircraftSituationsAndChange (isFixingSceneryOffset : Bool) (modelCG : CLength)
    (validSituations : List MovingSituation) (changes : List SceneryChange) :
    List MovingSituation × CLength :=
  let pastSituationsChange := changes[1]?.getD SceneryChange.null
  if isFixingSceneryOffset && pastSituationsChange.hasSceneryDeviation && !modelCG.isNull then
    let os := pastSituationsChange.m_guessedSceneryDeviationCG
    (if !os.isNull then
        CAircraftSituationList.addAltitudeOffset validSituations (os * (-1 : ℚ))
      else validSituations,
      os)
  else (validSituations, CLength.null)

/-- What is expected of the guess. -/
structure DeviatesOnGroundOnly (S : LibrarySort MovingSituation)
    (situations : List MovingSituation) (cg : CLength)
    (alreadySortedLatestFirst calcStdDeviations : Bool) : Prop where
  /-- There is a deviation only if all situations are on the ground, or all but the latest. -/
  from_ground : (SceneryChange.ofSituations S situations cg alreadySortedLatestFirst
      calcStdDeviations).hasSceneryDeviation = true →
    (∀ s ∈ situations, s.isOnGround = true)
    ∨ ∀ s ∈ (SceneryChange.sortedSituations S situations alreadySortedLatestFirst).tail,
      s.isOnGround = true
  /-- An aircraft that is in the air in all situations is not lowered or lifted. -/
  airborne_unshifted : (∀ s ∈ situations, s.isOnGround = false) →
    ∀ isFixingSceneryOffset modelCG validSituations latest older,
      (remoteAircraftSituationsAndChange isFixingSceneryOffset modelCG validSituations
        (latest :: SceneryChange.ofSituations S situations cg alreadySortedLatestFirst
          calcStdDeviations :: older)).1 = validSituations

section

open SceneryChange

theorem sortedSituations_perm (S : LibrarySort MovingSituation)
    (situations : List MovingSituation) (alreadySortedLatestFirst : Bool) :
    (sortedSituations S situations alreadySortedLatestFirst).Perm situations := by
  cases alreadySortedLatestFirst with
  | true => exact List.Perm.refl situations
  | false => exact (List.reverse_perm _).trans (S.perm _ _)

/-- Without a deviation the situations are those of the provider. -/
theorem remoteAircraftSituationsAndChange_of_none {changes : List SceneryChange}
    (h : (changes[1]?.getD SceneryChange.null).hasSceneryDeviation = false)
    (isFixingSceneryOffset : Bool) (modelCG : CLength) (validSituations : List MovingSituation) :
    remoteAircraftSituationsAndChange isFixingSceneryOffset modelCG validSituations changes
      = (validSituations, CLength.null) := by
  unfold remoteAircraftSituationsAndChange
  dsimp only
  rw [h, Bool.and_false, Bool.false_and, if_neg Bool.false_ne_true]

end

/-- A deviation is from the ground, and an aircraft in the air is left alone, unless the distance
    to the ground is the same in three or more situations that all but the latest are not on
    the ground. -/
theorem deviatesOnGroundOnly_iff (S : LibrarySort MovingSituation)
    (situations : List MovingSituation) (cg : CLength)
    (alreadySortedLatestFirst calcStdDeviations : Bool) :
    DeviatesOnGroundOnly S situations cg alreadySortedLatestFirst calcStdDeviations
      ↔ ¬ (calcStdDeviations = true ∧ SceneryChange.isConstGroundDistance situations = true
        ∧ CAircraftSituationList.wasConstNotOnGround
          (SceneryChange.sortedSituations S situations alreadySortedLatestFirst) = true) := by
  have hperm := sortedSituations_perm S situations alreadySortedLatestFirst
  have hdeviation := SceneryChange.hasSceneryDeviation_ofSituations S situations cg
    alreadySortedLatestFirst calcStdDeviations
  constructor
  · rintro h ⟨rfl, hconst, hair⟩
    rcases Bool.and_eq_true_iff.mp hair with ⟨hlength, htail⟩
    rcases CAircraftSituationList.isOnGround_of_isConstNotOnGround htail with ⟨hne, hnot⟩
    have hthree : 3 ≤ situations.length := hperm.length_eq ▸ of_decide_eq_true hlength
    have htwo : decide (2 ≤ situations.length) = true := decide_eq_true (by omega)
    rw [hconst, hair, htwo, Bool.or_true] at hdeviation
    -- The situations behind the latest one are both on the ground and not.
    rcases List.exists_mem_of_ne_nil _ hne with ⟨s, hs⟩
    have hground : s.isOnGround = true := by
      rcases h.from_ground hdeviation with hall | hwas
      · exact hall s (hperm.subset (List.mem_of_mem_tail hs))
      · exact hwas s hs
    exact Bool.false_ne_true ((hnot s hs).symm.trans hground)
  · intro hnot
    have hconst (h : (SceneryChange.ofSituations S situations cg alreadySortedLatestFirst
        calcStdDeviations).hasSceneryDeviation = true) :
        CAircraftSituationList.isConstOnGround
          (SceneryChange.sortedSituations S situations alreadySortedLatestFirst) = true := by
      rw [hdeviation, Bool.and_eq_true_iff, Bool.and_eq_true_iff, Bool.and_eq_true_iff,
        Bool.or_eq_true_iff] at h
      rcases h with ⟨⟨⟨-, hcalc⟩, hdistance⟩, hground⟩
      exact hground.resolve_right fun hair => hnot ⟨hcalc, hdistance, hair⟩
    refine ⟨fun h => Or.inl fun s hs => ?_, fun hair isFixing modelCG valid latest older => ?_⟩
    · exact CAircraftSituationList.isOnGround_of_isConstOnGround (hconst h) s (hperm.mem_iff.mpr hs)
    · rw [remoteAircraftSituationsAndChange_of_none]
      refine Bool.eq_false_iff.mpr fun h => ?_
      rcases List.exists_mem_of_ne_nil _
          (CAircraftSituationList.ne_nil_of_isConstOnGround (hconst h)) with ⟨s, hs⟩
      have hground := CAircraftSituationList.isOnGround_of_isConstOnGround (hconst h) s hs
      exact Bool.false_ne_true ((hair s (hperm.mem_iff.mp hs)).symm.trans hground)

/-- A flight at five thousand feet over ground of a hundred feet. -/
def sampleLevel (msecs : ℤ) : MovingSituation where
  m_timestampMSecsSinceEpoch := msecs
  normalVector := ⟨1, 0, 0⟩
  altitude := .create 5000 .meanSeaLevel .ft
  groundElevation := .create 100 .meanSeaLevel .ft
  onGroundInfo := ⟨.inFromNetwork, 0⟩
  cg := .create 10 .ft

/-- The aircraft is drawn at a hundred and ten feet, with its wheels on the ground. -/
theorem level_flight_is_lowered :
    let situations := [sampleLevel 3000, sampleLevel 2000, sampleLevel 1000]
    let S := LibrarySort.insertion MovingSituation
    let cg := CLength.create 10 .ft
    let change := SceneryChange.ofSituations S situations cg true true
    situations.map (fun s => s.isOnGround) = [false, false, false]
      ∧ change.hasSceneryDeviation = true
      ∧ (remoteAircraftSituationsAndChange true cg situations [change, change]).1.map
        (fun s => s.altitude.m_value) = [110, 110, 110]
      ∧ ¬ DeviatesOnGroundOnly S situations cg true true := by
  have hdeviation : (SceneryChange.ofSituations (LibrarySort.insertion MovingSituation)
      [sampleLevel 3000, sampleLevel 2000, sampleLevel 1000] (CLength.create 10 .ft) true
      true).hasSceneryDeviation = true := by decide +kernel
  have hair (msecs : ℤ) : (sampleLevel msecs).isOnGround = false := by
    change COnGroundInfo.isOnGround ⟨.inFromNetwork, 0⟩ = false
    decide +kernel
  refine ⟨by decide +kernel, hdeviation, by decide +kernel, fun h => ?_⟩
  rcases h.from_ground hdeviation with hall | hwas
  · exact Bool.false_ne_true ((hair 3000).symm.trans (hall _ List.mem_cons_self))
  · exact Bool.false_ne_true ((hair 2000).symm.trans (hwas _ List.mem_cons_self))

end Simulation

end Misc

end NeoSwift
