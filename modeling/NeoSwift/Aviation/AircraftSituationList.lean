import Mathlib.Data.List.Chain
import NeoSwift.Aviation.GroundElevation
import NeoSwift.Misc.Simulation.GroundGuess

/-!
# Elevations in Lists of Situations

Two functions of `CAircraftSituationList`. One transfers elevations from older to newer
situations of one aircraft, the other one averages the elevations under the aircraft that taxi
near a reference.

The first goes from the newest to the oldest situation. What is transferred in a step is
looked at by none of the later ones, so an elevation moves by one situation in a pass, and the
next pass moves it on. One that is neither from a provider nor from the cache is transferred
again in each pass.

The second selects the situations in range, counts them, and then goes over those of the whole
list. An aircraft at the other end of the world counts.

## Main definitions

* `transferElevationForward`: The pass over neighbours.
* `ReachesFixedPoint`: What is expected of it.
* `Settles`: The lists for which it is so.
* `averageElevationOfTaxiingOnGroundAircraft`: The average.
* `UsesOnlyNearby`: What is expected of that.

## Theorems

* `idle_pair_iff`: What one more pass would do to a pair of neighbours.
* `reachesFixedPoint_iff`: When one pass is enough.
* `elevation_moves_once_a_pass`: A list for which it is not.
* `usesOnlyNearby_iff`: When the average is one of the situations in range.
* `distant_aircraft_counts`: A list for which it is not.
-/

namespace NeoSwift.Aviation

open Geo Pq SituationWithPlane

namespace CAircraftSituationList

/-! ## The transfer -/

/-- The latest situation is first. The loop has changed the newer situation of a pair when it
    comes to the next one, and not the older one. -/
def transferElevationForward (G : Geodesy) (radius : CLength) :
    List SituationWithPlane → List SituationWithPlane × ℤ
  | newSituation :: oldSituation :: situations =>
    let transferred := oldSituation.transferGroundElevationFromMe G newSituation radius
    let others := transferElevationForward G radius (oldSituation :: situations)
    (transferred.1 :: others.1, (if transferred.2 then 1 else 0) + others.2)
  | situations => (situations, 0)

/-- An elevation can't be transferred from the older to the newer situation. -/
def Idle (G : Geodesy) (radius : CLength) (newer older : SituationWithPlane) : Prop :=
  older.canTransferGroundElevation G newer radius = false

/-- What is expected of the transfer. -/
structure ReachesFixedPoint (G : Geodesy) (radius : CLength) (l : List SituationWithPlane) :
    Prop where
  /-- No situation without an elevation could have that of its older neighbour. -/
  nothing_left : (transferElevationForward G radius l).1.IsChain fun newer older =>
    newer.hasGroundElevation = false → Idle G radius newer older
  /-- Once more does nothing. -/
  again : transferElevationForward G radius (transferElevationForward G radius l).1
    = ((transferElevationForward G radius l).1, 0)
  /-- Only elevations are changed. -/
  only_elevations : (transferElevationForward G radius l).1.map withoutElevation
    = l.map withoutElevation

/-- Two neighbours are done with in one pass. If the older one gets an elevation itself, it must
    not be one the newer one could have. Otherwise its own must be one that is not transferred
    again once it has been. -/
def SettlesPair (G : Geodesy) (radius : CLength) (newer older : SituationWithPlane) :
    Option SituationWithPlane → Prop
  | none => older.canTransferGroundElevation G newer radius = true →
      isNull older.m_groundElevationPlane = false
        ∧ (older.getGroundElevationInfo = .fromProvider
          ∨ older.getGroundElevationInfo = .fromCache)
  | some oldest =>
    if oldest.canTransferGroundElevation G older radius then
      isNull oldest.m_groundElevationPlane = false →
        oldest.canTransferGroundElevation G newer radius = false
    else older.canTransferGroundElevation G newer radius = true →
      isNull older.m_groundElevationPlane = false
        ∧ (older.getGroundElevationInfo = .fromProvider
          ∨ older.getGroundElevationInfo = .fromCache)

/-- All neighbours are. -/
def Settles (G : Geodesy) (radius : CLength) : List SituationWithPlane → Prop
  | newer :: older :: situations =>
    SettlesPair G radius newer older situations.head? ∧ Settles G radius (older :: situations)
  | _ => True

section Transfer

variable {G : Geodesy} {radius : CLength}

theorem transferElevationForward_cons (newer older : SituationWithPlane)
    (situations : List SituationWithPlane) :
    transferElevationForward G radius (newer :: older :: situations)
      = ((older.transferGroundElevationFromMe G newer radius).1
          :: (transferElevationForward G radius (older :: situations)).1,
        (if (older.transferGroundElevationFromMe G newer radius).2 then 1 else 0)
          + (transferElevationForward G radius (older :: situations)).2) := rfl

/-- The situation after a pass, by its older neighbour. -/
def afterPass (G : Geodesy) (radius : CLength) (situation : SituationWithPlane) :
    Option SituationWithPlane → SituationWithPlane
  | none => situation
  | some older => (older.transferGroundElevationFromMe G situation radius).1

/-- A pass changes the front by the situation behind it. -/
theorem transferElevationForward_front (situation : SituationWithPlane)
    (situations : List SituationWithPlane) :
    ∃ rest, (transferElevationForward G radius (situation :: situations)).1
      = afterPass G radius situation situations.head? :: rest := by
  cases situations with
  | nil => exact ⟨[], rfl⟩
  | cons older situations => exact ⟨_, rfl⟩

theorem transferElevationForward_count (l : List SituationWithPlane) :
    0 ≤ (transferElevationForward G radius l).2 := by
  induction l with
  | nil => exact le_refl 0
  | cons newer l ih =>
    cases l with
    | nil => exact le_refl 0
    | cons older situations =>
      refine add_nonneg ?_ ih
      split <;> decide

/-- A pass changes nothing but elevations, whatever the list is. -/
theorem withoutElevation_transferElevationForward (l : List SituationWithPlane) :
    (transferElevationForward G radius l).1.map withoutElevation = l.map withoutElevation := by
  induction l with
  | nil => rfl
  | cons newer l ih =>
    cases l with
    | nil => rfl
    | cons older situations =>
      rw [transferElevationForward_cons, List.map_cons, withoutElevation_transfer, ih]
      rfl

/-- A pass over idle neighbours does nothing. -/
theorem transferElevationForward_of_idle {l : List SituationWithPlane}
    (h : l.IsChain (Idle G radius)) : transferElevationForward G radius l = (l, 0) := by
  induction l with
  | nil => rfl
  | cons newer l ih =>
    cases l with
    | nil => rfl
    | cons older situations =>
      rw [List.isChain_cons_cons] at h
      have hpair : older.transferGroundElevationFromMe G newer radius = (newer, false) := by
        unfold transferGroundElevationFromMe transferGroundElevationToMe
        rw [show older.canTransferGroundElevation G newer radius = false from h.1,
          Bool.not_false, if_pos rfl]
      rw [transferElevationForward_cons, ih h.2, hpair]
      rfl

/-- A pass that does nothing goes over idle neighbours, unless a situation without an elevation
    could have got one. A null plane would otherwise reset the elevation of a neighbour. -/
theorem idle_of_transferElevationForward {l : List SituationWithPlane}
    (hleft : l.IsChain fun newer older =>
      newer.hasGroundElevation = false → Idle G radius newer older)
    (h : transferElevationForward G radius l = (l, 0)) : l.IsChain (Idle G radius) := by
  induction l with
  | nil => exact List.IsChain.nil
  | cons newer l ih =>
    cases l with
    | nil => exact List.IsChain.singleton newer
    | cons older situations =>
      rw [List.isChain_cons_cons] at hleft ⊢
      rw [transferElevationForward_cons, Prod.mk.injEq, List.cons.injEq] at h
      rcases h with ⟨⟨hnewer, hothers⟩, hcount⟩
      -- Nothing is counted here and nothing behind, as no count is negative.
      have hnonneg : 0 ≤ (transferElevationForward G radius (older :: situations)).2 :=
        transferElevationForward_count _
      have hnone : (transferElevationForward G radius (older :: situations)).2 = 0
          ∧ (older.transferGroundElevationFromMe G newer radius).2 = false := by
        cases hflag : (older.transferGroundElevationFromMe G newer radius).2 with
        | true =>
          rw [hflag, if_pos rfl] at hcount
          omega
        | false =>
          rw [hflag, if_neg Bool.false_ne_true, zero_add] at hcount
          exact ⟨hcount, rfl⟩
      refine ⟨?_, ih hleft.2 (Prod.ext hothers hnone.1)⟩
      -- It was idle, or it was reset, which only changes what has no elevation, or it was set.
      rcases transfer_cases G older newer radius with ⟨hcan, -⟩ | ⟨-, -, hreset⟩ | ⟨-, -, hset⟩
      · exact hcan
      · rw [hreset] at hnewer
        exact hleft.1 (by rw [← hnewer]; rfl)
      · rw [hset] at hnone
        exact nomatch hnone.2

/-- Once a situation has the elevation of another one, it is a matter of rank whether it could
    have it again. -/
theorem idle_own_iff (newer older : SituationWithPlane) :
    Idle G radius (older.transferGroundElevationFromMe G newer radius).1 older
      ↔ (older.canTransferGroundElevation G newer radius = true →
        isNull older.m_groundElevationPlane = false
          ∧ (older.getGroundElevationInfo = .fromProvider
            ∨ older.getGroundElevationInfo = .fromCache)) := by
  unfold Idle
  rcases transfer_cases G older newer radius with ⟨hcan, h⟩ | ⟨hcan, hnull, h⟩ | ⟨hcan, hset, h⟩
  · rw [h, hcan]
    exact iff_of_true rfl fun hnot => absurd hnot Bool.false_ne_true
  -- What is reset can be reset again.
  · rw [h, hcan, hnull]
    have hparts := canTransferGroundElevation_iff.mp hcan
    have hagain : older.canTransferGroundElevation G newer.withoutElevation radius = true :=
      canTransferGroundElevation_iff.mpr ⟨hparts.1, nofun, Or.inr nofun, hparts.2.2.2⟩
    rw [hagain]
    exact iff_of_false Bool.false_ne_true.symm fun hnot => Bool.false_ne_true.symm (hnot rfl).1
  · rw [h, hcan, hset, ← Bool.not_eq_true, canTransferGroundElevation_iff,
      getGroundElevationInfo_elevatedLike newer hset]
    rcases canTransferGroundElevation_iff.mp hcan with ⟨helevation, -, -, hwithin⟩
    have hplace : withinRange (calculateGreatCircleDistance G older.m_groundElevationPlane
        (newer.elevatedLike older)) radius = true := hwithin
    rw [helevation, hplace]
    -- What is not from a provider is transferred again unless both are from the cache.
    by_cases hprovider : older.getGroundElevationInfo = .fromProvider
    · exact iff_of_true (fun h => h.2.1 hprovider) fun _ => ⟨rfl, Or.inl hprovider⟩
    · by_cases hcache : older.getGroundElevationInfo = .fromCache
      · exact iff_of_true (fun h => h.2.2.1.elim hprovider fun hnot => hnot hcache)
          fun _ => ⟨rfl, Or.inr hcache⟩
      · exact iff_of_false (fun h => h ⟨rfl, hprovider, Or.inr hcache, rfl⟩)
          fun h => (h rfl).2.elim hprovider hcache

/-- An elevation that has been received is given on as it would be by the situation it is from,
    whether or not the newer situation has meanwhile got the one that was there before. -/
theorem idle_received_iff (newer older oldest : SituationWithPlane)
    (hcan : oldest.canTransferGroundElevation G older radius = true)
    (hset : isNull oldest.m_groundElevationPlane = false) :
    Idle G radius (older.transferGroundElevationFromMe G newer radius).1 (older.elevatedLike oldest)
      ↔ Idle G radius newer oldest := by
  unfold Idle
  rw [← Bool.not_eq_true, ← Bool.not_eq_true, not_iff_not, canTransferGroundElevation_iff,
    canTransferGroundElevation_iff, getGroundElevationInfo_elevatedLike older hset,
    distance_elevatedLike G older hset, hasGroundElevation_of_plane hset,
    hasGroundElevation_of_plane (isNull_elevatedLike older hset)]
  rcases canTransferGroundElevation_iff.mp hcan with ⟨-, holder, hranked, -⟩
  rcases transfer_cases G older newer radius with ⟨-, h⟩ | ⟨hnewer, hnull, h⟩ | ⟨hnewer, hplane, h⟩
  · rw [h]
  -- Neither the elevation before nor the one after is of a higher rank.
  · rcases canTransferGroundElevation_iff.mp hnewer with ⟨-, hprovider, hcache, -⟩
    rw [h]
    refine and_congr_right fun _ => and_congr (iff_of_true nofun hprovider) ?_
    exact and_congr (iff_of_true (Or.inr nofun) (Or.inr (hcache.resolve_left holder))) Iff.rfl
  · rcases canTransferGroundElevation_iff.mp hnewer with ⟨-, hprovider, hcache, -⟩
    rw [h, getGroundElevationInfo_elevatedLike newer hplane]
    refine and_congr_right fun _ => and_congr (iff_of_true holder hprovider) ?_
    exact and_congr (iff_of_true hranked (Or.inr (hcache.resolve_left holder))) Iff.rfl

/-- After a pass, the older of two neighbours could give the newer one an elevation unless the
    pair is settled. -/
theorem idle_pair_iff (newer older : SituationWithPlane) (oldest : Option SituationWithPlane) :
    Idle G radius (older.transferGroundElevationFromMe G newer radius).1
        (afterPass G radius older oldest)
      ↔ SettlesPair G radius newer older oldest := by
  cases oldest with
  | none => exact idle_own_iff newer older
  | some oldest =>
    unfold afterPass SettlesPair
    dsimp only
    rcases transfer_cases G oldest older radius with ⟨hcan, h⟩ | ⟨hcan, hnull, h⟩ | ⟨hcan, hset, h⟩
    · rw [h, hcan]
      exact idle_own_iff newer older
    · rw [h, hcan, hnull]
      exact iff_of_true rfl fun hnot => absurd hnot.symm Bool.false_ne_true
    · rw [h, hcan, hset, idle_received_iff newer older oldest hcan hset]
      exact ⟨fun hidle _ => hidle, fun hidle => hidle rfl⟩

/-- Neighbours are idle after a pass if and only if the list settles. -/
theorem idle_after_pass_iff (l : List SituationWithPlane) :
    (transferElevationForward G radius l).1.IsChain (Idle G radius) ↔ Settles G radius l := by
  induction l with
  | nil => exact iff_of_true List.IsChain.nil trivial
  | cons newer l ih =>
    cases l with
    | nil => exact iff_of_true (List.IsChain.singleton newer) trivial
    | cons older situations =>
      obtain ⟨rest, hrest⟩ : ∃ rest, (transferElevationForward G radius (older :: situations)).1
          = afterPass G radius older situations.head? :: rest :=
        transferElevationForward_front older situations
      rw [transferElevationForward_cons, hrest, List.isChain_cons_cons, ← hrest, ih, idle_pair_iff]
      rfl

end Transfer

/-- One pass is enough if and only if the list settles. -/
theorem reachesFixedPoint_iff (G : Geodesy) (radius : CLength) (l : List SituationWithPlane) :
    ReachesFixedPoint G radius l ↔ Settles G radius l := by
  rw [← idle_after_pass_iff]
  constructor
  · intro h
    exact idle_of_transferElevationForward h.nothing_left h.again
  · intro h
    exact ⟨h.imp fun newer older hidle _ => hidle, transferElevationForward_of_idle h,
      withoutElevation_transferElevationForward l⟩

/-- A situation of an aircraft that stands still. -/
def sampleStanding (msecs : ℤ) : SituationWithPlane where
  m_timestampMSecsSinceEpoch := msecs
  m_position := ⟨⟨1, 0, 0⟩, .create 500 .meanSeaLevel .ft⟩

/-- A second before, it had an elevation. -/
def sampleOldest : SituationWithPlane :=
  { sampleElevated ⟨1, 0, 0⟩ 100 with m_timestampMSecsSinceEpoch := 1000 }

/-- The elevation of the oldest situation comes to the next one, and with a second pass to the
    latest one. -/
theorem elevation_moves_once_a_pass :
    let radius := CElevationPlane.singlePointRadius
    let situations := [sampleStanding 3000, sampleStanding 2000, sampleOldest]
    let once := transferElevationForward sampleDistances radius situations
    let twice := transferElevationForward sampleDistances radius once.1
    once.1.map (·.hasGroundElevation) = [false, true, true]
      ∧ twice.1.map (·.hasGroundElevation) = [true, true, true]
      ∧ twice.2 = 1
      ∧ ¬ ReachesFixedPoint sampleDistances radius situations := by
  have htwice : (transferElevationForward sampleDistances CElevationPlane.singlePointRadius
      (transferElevationForward sampleDistances CElevationPlane.singlePointRadius
        [sampleStanding 3000, sampleStanding 2000, sampleOldest]).1).2 = 1 := by
    decide +kernel
  refine ⟨by decide +kernel, by decide +kernel, htwice, fun h => ?_⟩
  exact absurd (htwice.symm.trans (congrArg Prod.snd h.again)) (by decide)

/-! ## The average -/

def allowedAltitudeDeviation : CLength := .create 3 .ft

/-- The elevation is from a provider, and the aircraft taxis or stands. -/
def canUse (situation : SituationWithPlane) : Bool :=
  situation.getGroundElevationInfo = .fromProvider &&
    (!situation.isMoving || (situation.isOnGroundFromNetwork || situation.isOnGroundFromParts))

/-- The loop over the situations, until there are enough values. -/
def valuesInFt (sufficientValues : ℤ) : List ℚ → List SituationWithPlane → List ℚ
  | values, [] => values
  | values, situation :: situations =>
    if !canUse situation then valuesInFt sufficientValues values situations
    else
      let values := values ++ [situation.m_groundElevationPlane.getAltitude.valueIn .ft]
      if sufficientValues ≤ values.length then values
      else valuesInFt sufficientValues values situations

/-- None where the mean is the one of no values, which is not a number. A standard deviation is
    greater than the allowed one if the variance is greater than its square. -/
def averageElevationOfTaxiingOnGroundAircraft (G : Geodesy) (S : LibrarySort SituationWithPlane)
    (l : List SituationWithPlane) (reference : SituationWithPlane) (range : CLength)
    (minValues sufficientValues : ℤ) : Option CElevationPlane :=
  if (l.length : ℤ) < minValues then some CElevationPlane.null
  else
    let sorted := sortedByEuclideanDistanceSquared S
      (findWithinRange G (findWithGeodeticMSLHeight l) reference range) reference
    if (sorted.length : ℤ) < minValues then some CElevationPlane.null
    else
      let values := valuesInFt sufficientValues [] l
      if (values.length : ℤ) < minValues then some CElevationPlane.null
      else if values.isEmpty then none
      else if allowedAltitudeDeviation.valueIn .ft ^ 2 < CMathUtils.variance values then
        some CElevationPlane.null
      else some (CElevationPlane.ofAltitude reference (CMathUtils.mean values)
        CElevationPlane.singlePointRadius)

/-- The situations whose elevations are the values. -/
def contributing (sufficientValues : ℤ) (l : List SituationWithPlane) : List SituationWithPlane :=
  (l.filter canUse).take (max sufficientValues.toNat 1)

/-- What is expected of the average. -/
structure UsesOnlyNearby (G : Geodesy) (S : LibrarySort SituationWithPlane)
    (l : List SituationWithPlane) (reference : SituationWithPlane) (range : CLength)
    (minValues sufficientValues : ℤ) : Prop where
  /-- Another list with the same situations in range has the same average. -/
  only_nearby : ∀ l', findWithinRange G l' reference range = findWithinRange G l reference range →
    averageElevationOfTaxiingOnGroundAircraft G S l' reference range minValues sufficientValues
      = averageElevationOfTaxiingOnGroundAircraft G S l reference range minValues sufficientValues
  /-- It is not null only if enough situations in range have contributed. -/
  enough : (∀ p ∈ averageElevationOfTaxiingOnGroundAircraft G S l reference range minValues
        sufficientValues, isNull p = true)
    ∨ minValues ≤ ((findWithinRange G (contributing sufficientValues l) reference range).length : ℤ)

section Average

variable {G : Geodesy} {S : LibrarySort SituationWithPlane} {l : List SituationWithPlane}
  {reference : SituationWithPlane} {range : CLength} {minValues sufficientValues : ℤ}

/-- The loop takes values until it has enough of them, and at least one. -/
theorem valuesInFt_eq (l : List SituationWithPlane) (values : List ℚ)
    (h : values.length < max sufficientValues.toNat 1) :
    valuesInFt sufficientValues values l = values ++
      ((l.filter canUse).take (max sufficientValues.toNat 1 - values.length)).map
        fun situation => situation.m_groundElevationPlane.getAltitude.valueIn .ft := by
  induction l generalizing values with
  | nil => rw [List.filter_nil, List.take_nil, List.map_nil, List.append_nil]; rfl
  | cons situation l ih =>
    unfold valuesInFt
    by_cases huse : canUse situation = true
    · obtain ⟨n, hn⟩ : ∃ n, max sufficientValues.toNat 1 - values.length = n + 1 :=
        ⟨max sufficientValues.toNat 1 - values.length - 1, by omega⟩
      rw [huse, Bool.not_true, if_neg Bool.false_ne_true, List.filter_cons_of_pos huse, hn,
        List.take_succ_cons, List.map_cons]
      dsimp only
      rw [List.length_append, List.length_singleton]
      split
      -- The loop is left with the last value.
      case isTrue henough =>
        have hlast : n = 0 := by omega
        rw [hlast, List.take_zero, List.map_nil]
      case isFalse hmore =>
        rw [ih _ (by rw [List.length_append, List.length_singleton]; omega), List.length_append,
          List.length_singleton, List.append_assoc, List.singleton_append,
          show max sufficientValues.toNat 1 - (values.length + 1) = n by omega]
    · rw [Bool.not_eq_true] at huse
      rw [huse, Bool.not_false, if_pos rfl, ih values h,
        List.filter_cons_of_neg (by rw [huse]; exact Bool.false_ne_true)]

theorem valuesInFt_contributing (l : List SituationWithPlane) :
    valuesInFt sufficientValues [] l = (contributing sufficientValues l).map
      fun situation => situation.m_groundElevationPlane.getAltitude.valueIn .ft :=
  valuesInFt_eq l [] (by rw [List.length_nil]; omega)

/-- How many situations are in range only depends on the situations in range. -/
theorem nearby_eq (l : List SituationWithPlane) :
    findWithinRange G (findWithGeodeticMSLHeight l) reference range
      = findWithGeodeticMSLHeight (findWithinRange G l reference range) := by
  unfold findWithinRange findWithGeodeticMSLHeight
  rw [List.filter_filter, List.filter_filter]
  exact List.filter_congr fun situation _ => Bool.and_comm _ _

theorem length_sorted (l : List SituationWithPlane) :
    (sortedByEuclideanDistanceSquared S
      (findWithinRange G (findWithGeodeticMSLHeight l) reference range) reference).length
      = (findWithGeodeticMSLHeight (findWithinRange G l reference range)).length := by
  unfold sortedByEuclideanDistanceSquared
  rw [(S.perm _ _).length_eq, nearby_eq]

theorem isNull_of_mem_null : ∀ p ∈ some CElevationPlane.null, isNull p = true := by
  rintro p ⟨⟩
  rfl

theorem average_of_few (hfew : ((findWithGeodeticMSLHeight
      (findWithinRange G l reference range)).length : ℤ) < minValues) :
    averageElevationOfTaxiingOnGroundAircraft G S l reference range minValues sufficientValues
      = some CElevationPlane.null := by
  unfold averageElevationOfTaxiingOnGroundAircraft
  dsimp only
  rw [length_sorted, if_pos hfew, ite_self]

/-- With enough situations in range, the values decide. -/
theorem average_of_enough (henough : minValues ≤ ((findWithGeodeticMSLHeight
      (findWithinRange G l reference range)).length : ℤ)) :
    averageElevationOfTaxiingOnGroundAircraft G S l reference range minValues sufficientValues
      = if ((valuesInFt sufficientValues [] l).length : ℤ) < minValues then
          some CElevationPlane.null
        else if (valuesInFt sufficientValues [] l).isEmpty then none
        else if allowedAltitudeDeviation.valueIn .ft ^ 2
            < CMathUtils.variance (valuesInFt sufficientValues [] l) then
          some CElevationPlane.null
        else some (CElevationPlane.ofAltitude reference
          (CMathUtils.mean (valuesInFt sufficientValues [] l))
          CElevationPlane.singlePointRadius) := by
  have hnearby : (findWithGeodeticMSLHeight (findWithinRange G l reference range)).length
      ≤ l.length :=
    (List.length_filter_le _ _).trans (List.length_filter_le _ _)
  unfold averageElevationOfTaxiingOnGroundAircraft
  dsimp only
  rw [length_sorted, if_neg (by omega), if_neg (not_lt.mpr henough)]

theorem isNull_of_mem_average_of_less
    (hless : ((valuesInFt sufficientValues [] l).length : ℤ) < minValues) :
    ∀ p ∈ averageElevationOfTaxiingOnGroundAircraft G S l reference range minValues
      sufficientValues, isNull p = true := by
  rcases lt_or_ge ((findWithGeodeticMSLHeight
    (findWithinRange G l reference range)).length : ℤ) minValues with hfew | henough
  · rw [average_of_few hfew]
    exact isNull_of_mem_null
  · rw [average_of_enough henough, if_pos hless]
    exact isNull_of_mem_null

theorem length_valuesInFt_le (l : List SituationWithPlane) :
    ((valuesInFt sufficientValues [] l).length : ℤ) ≤ max sufficientValues 1 := by
  have hle := List.length_take_le (max sufficientValues.toNat 1) (l.filter canUse)
  rw [valuesInFt_contributing, List.length_map]
  unfold contributing
  omega

/-- More values are asked for than are looked at. -/
theorem average_of_insufficient (h : max sufficientValues 1 < minValues) :
    averageElevationOfTaxiingOnGroundAircraft G S l reference range minValues sufficientValues
      = some CElevationPlane.null := by
  rcases lt_or_ge ((findWithGeodeticMSLHeight
    (findWithinRange G l reference range)).length : ℤ) minValues with hfew | henough
  · exact average_of_few hfew
  · have hle : ((valuesInFt sufficientValues [] l).length : ℤ) ≤ max sufficientValues 1 :=
      length_valuesInFt_le l
    rw [average_of_enough henough, if_pos (by omega)]

/-! ### Aircraft that are far away -/

/-- Every situation is in a range that is null. -/
theorem findWithinRange_null (hrange : range.isNull = true) (l : List SituationWithPlane) :
    findWithinRange G l reference range = l := by
  refine List.filter_eq_self.mpr fun situation _ => ?_
  unfold withinRange
  unfold CLength.lessThan
  split
  · rfl
  · rw [hrange]
    rfl

/-- A situation without a position is in no range, and has the elevation it was given. -/
def distant (elevationFt : ℚ) : SituationWithPlane :=
  { sampleElevated ⟨1, 0, 0⟩ elevationFt with m_position := {} }

theorem findWithinRange_distant (hrange : range.isNull = false) (n : ℕ) (elevationFt : ℚ)
    (l : List SituationWithPlane) :
    findWithinRange G (List.replicate n (distant elevationFt) ++ l) reference range
      = findWithinRange G l reference range := by
  have hdistance : calculateGreatCircleDistance G (distant elevationFt) reference = .null := rfl
  have hout : withinRange CLength.null range = false := by
    unfold withinRange CLength.lessThan CLength.equals
    rw [hrange]
    rfl
  unfold findWithinRange
  rw [List.filter_append, List.filter_replicate_of_neg, List.nil_append]
  rw [hdistance, hout]
  exact Bool.false_ne_true

theorem valuesInFt_distant (elevationFt : ℚ) (l : List SituationWithPlane) :
    valuesInFt sufficientValues []
        (List.replicate (max sufficientValues.toNat 1) (distant elevationFt) ++ l)
      = List.replicate (max sufficientValues.toNat 1) elevationFt := by
  have hspeed : CSpeed.null.valueIn .km_h = 0 := by decide +kernel
  have hmoving : (distant elevationFt).isMoving = false := by
    change decide (25 / 10 ≤ CSpeed.null.valueIn .km_h) = false
    decide +kernel
  have huse : canUse (distant elevationFt) = true := by
    unfold canUse
    rw [hmoving]
    rfl
  rw [valuesInFt_contributing]
  unfold contributing
  rw [List.filter_append, List.filter_replicate_of_pos huse,
    List.take_left' List.length_replicate, List.map_replicate]
  rfl

/-- Enough of them are averaged, whoever is near. -/
theorem average_distant (elevationFt : ℚ) (hrange : range.isNull = false)
    (henough : minValues ≤ ((findWithGeodeticMSLHeight
      (findWithinRange G l reference range)).length : ℤ))
    (hsufficient : minValues ≤ max sufficientValues 1) :
    averageElevationOfTaxiingOnGroundAircraft G S
        (List.replicate (max sufficientValues.toNat 1) (distant elevationFt) ++ l) reference range
        minValues sufficientValues
      = some (CElevationPlane.ofAltitude reference elevationFt
        CElevationPlane.singlePointRadius) := by
  have hpos : 0 < max sufficientValues.toNat 1 := by omega
  rw [average_of_enough (by rw [findWithinRange_distant hrange]; exact henough),
    valuesInFt_distant, CMathUtils.variance_replicate hpos, CMathUtils.mean_replicate hpos,
    List.length_replicate, if_neg (by omega),
      if_neg (by rw [List.isEmpty_replicate, decide_eq_true_eq]; omega),
    if_neg (not_lt.mpr (sq_nonneg _))]

end Average

/-- The average is one of the situations in range if and only if all situations are in it, or the
    result is null anyway. -/
theorem usesOnlyNearby_iff (G : Geodesy) (S : LibrarySort SituationWithPlane)
    (l : List SituationWithPlane) (reference : SituationWithPlane) (range : CLength)
    (minValues sufficientValues : ℤ) :
    UsesOnlyNearby G S l reference range minValues sufficientValues
      ↔ range.isNull = true
        ∨ ((findWithGeodeticMSLHeight (findWithinRange G l reference range)).length : ℤ)
          < minValues
        ∨ max sufficientValues 1 < minValues := by
  constructor
  -- Aircraft far away could have any elevation.
  · intro h
    by_contra hnot
    rw [not_or, not_or, Bool.not_eq_true, not_lt, not_lt] at hnot
    rcases hnot with ⟨hrange, henough, hsufficient⟩
    have hany (elevationFt : ℚ) :
        some (CElevationPlane.ofAltitude reference elevationFt CElevationPlane.singlePointRadius)
          = averageElevationOfTaxiingOnGroundAircraft G S l reference range minValues
            sufficientValues :=
      (average_distant elevationFt hrange henough hsufficient).symm.trans
        (h.only_nearby _ (findWithinRange_distant hrange _ _ _))
    have hplane := Option.some.inj ((hany 0).trans (hany 1).symm)
    have hsame : (0 : ℚ) = 1 := congrArg (fun p : CElevationPlane => p.getAltitude.m_value) hplane
    cases hsame
  · rintro (hrange | hfew | hinsufficient)
    · refine ⟨fun l' hl' => ?_, ?_⟩
      · rw [findWithinRange_null hrange, findWithinRange_null hrange] at hl'
        rw [hl']
      · rw [findWithinRange_null hrange, ← List.length_map
          fun situation => situation.m_groundElevationPlane.getAltitude.valueIn .ft,
          ← valuesInFt_contributing]
        rcases lt_or_ge ((valuesInFt sufficientValues [] l).length : ℤ) minValues with hless | hle
        · exact Or.inl (isNull_of_mem_average_of_less hless)
        · exact Or.inr hle
    · have hnull : averageElevationOfTaxiingOnGroundAircraft G S l reference range minValues
          sufficientValues = some CElevationPlane.null := average_of_few hfew
      refine ⟨fun l' hl' => ?_, Or.inl ?_⟩
      · rw [average_of_few (by rw [hl']; exact hfew), hnull]
      · rw [hnull]
        exact isNull_of_mem_null
    · refine ⟨fun l' _ => ?_, Or.inl ?_⟩
      · rw [average_of_insufficient hinsufficient, average_of_insufficient hinsufficient]
      · rw [average_of_insufficient hinsufficient]
        exact isNull_of_mem_null

/-- An aircraft with a provider's elevation of a thousand feet at the north pole. The average at
    the equator is a hundred feet without it. -/
theorem distant_aircraft_counts :
    let near := sampleElevated ⟨1, 0, 0⟩ 100
    let far := sampleElevated ⟨0, 0, 1⟩ 1000
    let range := CLength.create 10 .km
    let average := fun l => averageElevationOfTaxiingOnGroundAircraft sampleDistances
      (.insertion SituationWithPlane) l near range 1 1
    findWithinRange sampleDistances [far, near] near range = [near]
      ∧ (average [near]).map (·.getAltitude.m_value) = some 100
      ∧ (average [far, near]).map (·.getAltitude.m_value) = some 1000
      ∧ ¬ UsesOnlyNearby sampleDistances (.insertion SituationWithPlane) [near] near range 1 1 := by
  have hnear : findWithinRange sampleDistances [sampleElevated ⟨0, 0, 1⟩ 1000,
      sampleElevated ⟨1, 0, 0⟩ 100] (sampleElevated ⟨1, 0, 0⟩ 100) (CLength.create 10 .km)
        = [sampleElevated ⟨1, 0, 0⟩ 100] := by decide +kernel
  have halone : findWithinRange sampleDistances [sampleElevated ⟨1, 0, 0⟩ 100]
      (sampleElevated ⟨1, 0, 0⟩ 100) (CLength.create 10 .km)
        = [sampleElevated ⟨1, 0, 0⟩ 100] := by decide +kernel
  refine ⟨hnear, by decide +kernel, by decide +kernel, fun h => ?_⟩
  have hsame := h.only_nearby _ (hnear.trans halone.symm)
  exact absurd hsame (by decide +kernel)

end CAircraftSituationList

end NeoSwift.Aviation
