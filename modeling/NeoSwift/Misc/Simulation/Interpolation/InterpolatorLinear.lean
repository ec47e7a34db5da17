import NeoSwift.Misc.Simulation.Interpolation.Interpolator

/-!
# The Linear Interpolator

`CInterpolatorLinear`: between two situations the position is on the line from one to
the other. The two are the ones around the current time, or the latest two when none is
newer. Where there are not two, one situation is to be held. The pair is kept until the
situations change or the current time is past the second one.

The interpolant of a situation to hold has only its start. Its end is the default
situation, whose time is before all others and whose altitude is null. So the next call
finds the two in the wrong order, and the altitude that is calculated from the two is
null. The pair of the latest two may have one adjusted time, too, and then the fraction
is calculated with an interval of zero.

A fraction that is not a number is `none`.

## Main definitions

* `CInterpolatorLinear.CInterpolant`: The interpolant, with its constructors.
* `samples`: The situations to interpolate between, or the one to hold.
* `CInterpolatorLinear.getInterpolant`: The interpolant of a call.
* `OrderedAndHeld`: What the calls of a run are to do.
* `KeepsToPairs`: The calls that do.

## Theorems

* `samples_cons_cons`: How a pair is found.
* `altitude_hold`: The altitude of a situation that is held is lost.
* `ordered_and_held_iff`: When the calls of a run do what they are to do.
* `hold_breaks_order`: A run where they do not.
-/

namespace NeoSwift.Misc

namespace Simulation

open Aviation Pq

/-- `m_pbh`, as far as its situations are concerned. -/
structure CInterpolatorLinearPbh where
  m_startSituation : CAircraftSituation := CAircraftSituation.null
  m_endSituation : CAircraftSituation := CAircraftSituation.null
  deriving DecidableEq

/-- `clampValidTimeFraction`. -/
def clampValidTimeFraction (timeFraction : ℚ) : ℚ :=
  if 1 < timeFraction then 1 else if timeFraction < 0 then 0 else timeFraction

namespace CInterpolatorLinear

structure CInterpolant where
  m_startSituation : CAircraftSituation := CAircraftSituation.null
  m_endSituation : CAircraftSituation := CAircraftSituation.null
  m_simulationTimeFraction : Option ℚ := some 0
  m_pbh : CInterpolatorLinearPbh := {}
  m_interpolatedTime : ℤ := -1
  deriving DecidableEq

namespace CInterpolant

/-- The constructor from one situation. -/
def ofStart (startSituation : CAircraftSituation) : CInterpolant :=
  { m_startSituation := startSituation, m_pbh := ⟨startSituation, startSituation⟩ }

/-- The constructor from two situations. -/
def ofStartAndEnd (startSituation endSituation : CAircraftSituation) (timeFraction : Option ℚ)
    (interpolatedTime : ℤ) : CInterpolant where
  m_startSituation := startSituation
  m_endSituation := endSituation
  m_simulationTimeFraction := timeFraction
  m_pbh := ⟨startSituation, endSituation⟩
  m_interpolatedTime := interpolatedTime

/-- The position of `interpolatePositionAndAltitude`. -/
def interpolatePosition (i : CInterpolant) : Option NormalVector :=
  i.m_simulationTimeFraction.map fun fraction =>
    let startVec := i.m_startSituation.normalVector
    let endVec := i.m_endSituation.normalVector
    let tf := clampValidTimeFraction fraction
    ⟨(endVec.x - startVec.x) * tf + startVec.x, (endVec.y - startVec.y) * tf + startVec.y,
      (endVec.z - startVec.z) * tf + startVec.z⟩

/-- The altitude of `interpolatePositionAndAltitude`. Without a fraction its value is not
    a number. -/
def interpolateAltitude (i : CInterpolant) : CAltitude :=
  let oldAlt := i.m_startSituation.getCorrectedAltitude i.m_startSituation.cg true
  let newAlt := i.m_endSituation.getCorrectedAltitude i.m_endSituation.cg true
  let tf := (i.m_simulationTimeFraction.map clampValidTimeFraction).getD 0
  { toCLength := (newAlt.toCLength - oldAlt.toCLength) * tf + oldAlt.toCLength
    datum := oldAlt.datum }

/-- Where the two do not agree, the factors are interpolated. -/
def interpolateGroundFactor (i : CInterpolant) : COnGroundInfo :=
  let startGroundFactor := i.m_startSituation.onGroundInfo.m_onGroundFactor
  let endGroundFactor := i.m_endSituation.onGroundInfo.m_onGroundFactor
  if |startGroundFactor| ≤ NormalVector.epsilon ∧ |endGroundFactor| ≤ NormalVector.epsilon then
    ⟨.onGroundByInterpolation, 0⟩
  else if |1 - startGroundFactor| ≤ NormalVector.epsilon ∧
      |1 - endGroundFactor| ≤ NormalVector.epsilon then ⟨.onGroundByInterpolation, 1⟩
  else
    let tf := (i.m_simulationTimeFraction.map clampValidTimeFraction).getD 0
    COnGroundInfo.ofFactor ((endGroundFactor - startGroundFactor) * tf + startGroundFactor)

/-- It is always valid. -/
def toInterpolant (i : CInterpolant) : Interpolant where
  startSituation := i.m_pbh.m_startSituation
  endSituation := i.m_pbh.m_endSituation
  position := i.interpolatePosition
  altitude := i.interpolateAltitude
  groundFactor := i.interpolateGroundFactor
  interpolatedTime := i.m_interpolatedTime
  valid := true

end CInterpolant

end CInterpolatorLinear

structure CInterpolatorLinear where
  m_situationsLastModifiedUsed : ℤ := -1
  m_interpolant : CInterpolatorLinear.CInterpolant := {}

/-- What a call finds among the situations. -/
inductive Samples where
  | hold (s : CAircraftSituation)
  | between (startSituation endSituation : CAircraftSituation)
  deriving DecidableEq

/-- The list is parted at the first situation that is not later than the current time. -/
def samples (now : ℤ) (situations : List CAircraftSituation) : Samples :=
  let situationsNewer := situations.takeWhile fun s => now < getAdjustedMSecsSinceEpoch s
  let situationsOlder := situations.dropWhile fun s => now < getAdjustedMSecsSinceEpoch s
  match situationsNewer.getLast?, situationsOlder with
  | newest, [] => .hold (newest.getD CAircraftSituation.null)
  | none, [s] => .hold s
  | none, endSituation :: startSituation :: _ => .between startSituation endSituation
  | some endSituation, startSituation :: _ => .between startSituation endSituation

namespace CInterpolatorLinear

/-- A floating-point division, so that an interval of zero gives an infinite value or
    one that is not a number. -/
def timeFraction (now : ℤ) (startSituation endSituation : CAircraftSituation) : Option ℚ :=
  let sampleDeltaTimeMs :=
    getAdjustedMSecsSinceEpoch endSituation - getAdjustedMSecsSinceEpoch startSituation
  let distanceToSplitTimeMs := getAdjustedMSecsSinceEpoch endSituation - now
  if sampleDeltaTimeMs = 0 then
    if distanceToSplitTimeMs = 0 then none
    else if distanceToSplitTimeMs < 0 then some 1
    else some 0
  else
    let fraction : ℚ := max (1 - (distanceToSplitTimeMs : ℚ) / sampleDeltaTimeMs) 0
    some (if 1 ≤ fraction then 1 else fraction)

/-- The conversion of `qRound`: what is not an `int` becomes the least one. -/
def toInt (n : ℤ) : ℤ := if -2 ^ 31 ≤ n ∧ n < 2 ^ 31 then n else -2 ^ 31

def interpolatedTime (startSituation endSituation : CAircraftSituation)
    (fraction : Option ℚ) : ℤ :=
  let sampleDeltaTimeMs :=
    getAdjustedMSecsSinceEpoch endSituation - getAdjustedMSecsSinceEpoch startSituation
  getMSecsSinceEpoch startSituation
    + (fraction.map fun f => toInt (qRound (sampleDeltaTimeMs * f))).getD (-2 ^ 31)

/-- The interpolant between two situations at the current time. -/
def interpolantAt (now : ℤ) (startSituation endSituation : CAircraftSituation) : CInterpolant :=
  let fraction := timeFraction now startSituation endSituation
  .ofStartAndEnd startSituation endSituation fraction
    (interpolatedTime startSituation endSituation fraction)

/-- An elevation is looked for where there is none. -/
def adjustGround (env : GroundEnvironment) (s : CAircraftSituation) : CAircraftSituation :=
  if !env.canLikelySkipNearGroundInterpolation s && !s.hasGroundElevation then
    { s with groundElevation := env.findClosestElevationWithinRange s }
  else s

/-- Whether the situations are looked at again. -/
def recalculates (ip : CInterpolator CInterpolatorLinear) : Bool :=
  ip.derived.m_situationsLastModifiedUsed < ip.m_situationsLastModified ||
    getAdjustedMSecsSinceEpoch ip.derived.m_interpolant.m_endSituation
      < ip.m_currentTimeMsSinceEpoch

/-- The interpolant of a call, which the next call starts from. -/
def nextInterpolant (env : GroundEnvironment) (ip : CInterpolator CInterpolatorLinear) :
    CInterpolant :=
  let old := ip.derived.m_interpolant
  if recalculates ip then
    match samples ip.m_currentTimeMsSinceEpoch ip.m_currentSituations with
    | .hold s => .ofStart s
    | .between startSituation endSituation =>
        interpolantAt ip.m_currentTimeMsSinceEpoch (adjustGround env startSituation)
          (adjustGround env endSituation)
  else interpolantAt ip.m_currentTimeMsSinceEpoch old.m_startSituation old.m_endSituation

def getInterpolant (env : GroundEnvironment) (ip : CInterpolator CInterpolatorLinear) :
    CInterpolatorLinear × Interpolant :=
  let next := nextInterpolant env ip
  ({ m_situationsLastModifiedUsed :=
      if recalculates ip then ip.m_situationsLastModified
      else ip.derived.m_situationsLastModifiedUsed
     m_interpolant := next }, next.toInterpolant)

/-- A new interpolator. -/
def create : CInterpolator CInterpolatorLinear := { derived := {} }

/-- The interpolator as it is called. -/
def linear : Machine (CInterpolator CInterpolatorLinear) InterpolationCall InterpolationResult :=
  interpolation getInterpolant

end CInterpolatorLinear

theorem samples_singleton (now : ℤ) (s : CAircraftSituation) : samples now [s] = .hold s := by
  unfold samples
  by_cases h : now < getAdjustedMSecsSinceEpoch s
  · simp [h]
  · simp [h]

/-- The first two are the pair as soon as the current time is not before both. -/
theorem samples_cons_cons (now : ℤ) (x y : CAircraftSituation) (l : List CAircraftSituation) :
    samples now (x :: y :: l)
      = if now < getAdjustedMSecsSinceEpoch x ∧ now < getAdjustedMSecsSinceEpoch y then
          samples now (y :: l)
        else .between y x := by
  by_cases hx : now < getAdjustedMSecsSinceEpoch x
  · by_cases hy : now < getAdjustedMSecsSinceEpoch y
    · simp [samples, hx, hy]
    · simp [samples, hx, hy]
  · simp [samples, hx]

/-- The pair is in order, and the current time is not before it. -/
theorem le_of_samples {now : ℤ} {l : List CAircraftSituation} {s e : CAircraftSituation}
    (hsorted : LatestFirst getAdjustedMSecsSinceEpoch l) (h : samples now l = .between s e) :
    getAdjustedMSecsSinceEpoch s ≤ getAdjustedMSecsSinceEpoch e ∧
      getAdjustedMSecsSinceEpoch s ≤ now := by
  induction l with
  | nil => exact absurd h (by simp [samples])
  | cons x l ih =>
      cases l with
      | nil =>
          rw [samples_singleton] at h
          cases h
      | cons y l =>
          rw [samples_cons_cons] at h
          have hle : getAdjustedMSecsSinceEpoch y ≤ getAdjustedMSecsSinceEpoch x :=
            hsorted.le_head (List.mem_cons_of_mem x List.mem_cons_self)
          split at h
          · exact ih hsorted.tail h
          case isFalse hnow =>
            rcases h with ⟨rfl, rfl⟩
            exact ⟨hle, by omega⟩

/-- Once there is a pair, later times find one, too. -/
theorem between_of_le {now now' : ℤ} {l : List CAircraftSituation} {s e : CAircraftSituation}
    (hle : now ≤ now') (h : samples now l = .between s e) :
    ∃ s' e', samples now' l = .between s' e' := by
  induction l with
  | nil => exact absurd h (by simp [samples])
  | cons x l ih =>
      cases l with
      | nil =>
          rw [samples_singleton] at h
          cases h
      | cons y l =>
          rw [samples_cons_cons] at h ⊢
          by_cases hnow : now' < getAdjustedMSecsSinceEpoch x ∧ now' < getAdjustedMSecsSinceEpoch y
          · rw [if_pos (by omega)] at h
            rw [if_pos hnow]
            exact ih h
          · rw [if_neg hnow]
            exact ⟨y, x, rfl⟩

namespace CInterpolatorLinear

@[simp] theorem getMSecsSinceEpoch_adjustGround (env : GroundEnvironment) (s : CAircraftSituation) :
    getMSecsSinceEpoch (adjustGround env s) = getMSecsSinceEpoch s := by
  unfold adjustGround
  split <;> rfl

@[simp] theorem getTimeOffsetMs_adjustGround (env : GroundEnvironment) (s : CAircraftSituation) :
    getTimeOffsetMs (adjustGround env s) = getTimeOffsetMs s := by
  unfold adjustGround
  split <;> rfl

@[simp] theorem getAdjustedMSecsSinceEpoch_adjustGround (env : GroundEnvironment)
    (s : CAircraftSituation) :
    getAdjustedMSecsSinceEpoch (adjustGround env s) = getAdjustedMSecsSinceEpoch s := by
  unfold getAdjustedMSecsSinceEpoch
  rw [getMSecsSinceEpoch_adjustGround, getTimeOffsetMs_adjustGround]

/-- With an interval the fraction is a fraction. -/
theorem timeFraction_of_ne {now : ℤ} {s e : CAircraftSituation}
    (h : getAdjustedMSecsSinceEpoch s ≠ getAdjustedMSecsSinceEpoch e) :
    ∃ f, timeFraction now s e = some f ∧ 0 ≤ f ∧ f ≤ 1 := by
  unfold timeFraction
  rw [if_neg (by omega)]
  refine ⟨_, rfl, ?_, ?_⟩
  · split
    · exact zero_le_one
    · exact le_max_right _ _
  · split
    · exact le_refl 1
    case isFalse h => exact le_of_lt (lt_of_not_ge h)

/-- The position of a situation that is held is its own. -/
theorem position_hold (s : CAircraftSituation) :
    (CInterpolant.ofStart s).interpolatePosition = some s.normalVector := by
  have hclamp : clampValidTimeFraction 0 = 0 := by
    unfold clampValidTimeFraction
    rw [if_neg (by norm_num), if_neg (by norm_num)]
  simp [CInterpolant.interpolatePosition, CInterpolant.ofStart, hclamp]

/-- Its altitude is lost, since the calculation starts from the altitude of the default
    situation, which has no unit. -/
theorem altitude_hold (s : CAircraftSituation) :
    (CInterpolant.ofStart s).interpolateAltitude.isNull = true :=
  CLength.isNull_iff.mpr rfl

/-- What a call does with its time, its fraction and a situation it holds. -/
structure CallOrderedAndHeld (env : GroundEnvironment) (ip : CInterpolator CInterpolatorLinear) :
    Prop where
  /-- The assertion at the start of the call. -/
  ordered : getAdjustedMSecsSinceEpoch ip.derived.m_interpolant.m_startSituation
    ≤ getAdjustedMSecsSinceEpoch ip.derived.m_interpolant.m_endSituation
  fraction : (¬∃ s, samples ip.m_currentTimeMsSinceEpoch ip.m_currentSituations = .hold s) →
    let next := nextInterpolant env ip
    getAdjustedMSecsSinceEpoch next.m_startSituation
        ≠ getAdjustedMSecsSinceEpoch next.m_endSituation ∧
      ∃ f, next.m_simulationTimeFraction = some f ∧ 0 ≤ f ∧ f ≤ 1
  held : ∀ s, samples ip.m_currentTimeMsSinceEpoch ip.m_currentSituations = .hold s →
    let next := nextInterpolant env ip
    let altitude := s.getCorrectedAltitude s.cg true
    next.interpolatePosition = some s.normalVector ∧
      next.interpolateAltitude.equals altitude.toCLength = true ∧
      next.interpolateAltitude.datum = altitude.datum

/-- The same, of a call that asks for an interpolant. -/
def OrderedAndHeld (ip : CInterpolator CInterpolatorLinear) (call : InterpolationCall) : Prop :=
  (ip.initIniterpolationStepData call).m_currentSituations ≠ [] →
    CallOrderedAndHeld call.environment (ip.initIniterpolationStepData call)

/-- No call before held a situation, the two latest situations have two adjusted times
    where they are needed, and a situation that is held has no altitude. -/
structure CallKeepsToPairs (ip : CInterpolator CInterpolatorLinear) : Prop where
  notAfterHold : ∀ s, ip.derived.m_interpolant = .ofStart s → getAdjustedMSecsSinceEpoch s < 0
  apart : ∀ s e, recalculates ip = true →
    samples ip.m_currentTimeMsSinceEpoch ip.m_currentSituations = .between s e →
      getAdjustedMSecsSinceEpoch s ≠ getAdjustedMSecsSinceEpoch e
  noAltitude : ∀ s, samples ip.m_currentTimeMsSinceEpoch ip.m_currentSituations = .hold s →
    (s.getCorrectedAltitude s.cg true).isNull = true

def KeepsToPairs (ip : CInterpolator CInterpolatorLinear) (call : InterpolationCall) : Prop :=
  (ip.initIniterpolationStepData call).m_currentSituations ≠ [] →
    CallKeepsToPairs (ip.initIniterpolationStepData call)

/-- What the interpolant of the last call is. A pair whose situations have not changed
    is found at its time. -/
structure Carries (ip : CInterpolator CInterpolatorLinear) : Prop where
  used : ip.derived.m_situationsLastModifiedUsed ≤ ip.m_situationsLastModified
  sorted : LatestFirst getAdjustedMSecsSinceEpoch ip.m_currentSituations
  interpolant : (∃ s, ip.derived.m_interpolant = .ofStart s) ∨
    getAdjustedMSecsSinceEpoch ip.derived.m_interpolant.m_startSituation
        < getAdjustedMSecsSinceEpoch ip.derived.m_interpolant.m_endSituation ∧
      (ip.m_situationsLastModified ≤ ip.derived.m_situationsLastModifiedUsed →
        ∃ s e, samples ip.m_currentTimeMsSinceEpoch ip.m_currentSituations = .between s e)

theorem carries_create : Carries create where
  used := le_refl _
  sorted := List.Pairwise.nil
  interpolant := Or.inl ⟨CAircraftSituation.null, rfl⟩

section Step

variable {ip : CInterpolator CInterpolatorLinear} {call : InterpolationCall}

theorem carries_init (h : Carries ip) (htime : InTime ip call)
    (hsorted : LatestFirst getAdjustedMSecsSinceEpoch call.situations) :
    Carries (ip.initIniterpolationStepData call) := by
  unfold CInterpolator.initIniterpolationStepData
  have hused := h.used
  -- A new list is sorted, and an old one is still that of the interpolant.
  by_cases hchanged : ip.m_situationsLastModified < call.lastModified
  · simp only [hchanged]
    constructor
    case used => exact le_of_lt (lt_of_le_of_lt hused hchanged)
    case sorted => exact hsorted
    case interpolant =>
      refine h.interpolant.imp id (fun hpair => ⟨hpair.1, fun hle => ?_⟩)
      exact absurd (show call.lastModified ≤ ip.derived.m_situationsLastModifiedUsed from hle)
        (by omega)
  · simp only [hchanged]
    constructor
    case used => exact hused
    case sorted => exact h.sorted
    case interpolant =>
      refine h.interpolant.imp id (fun hpair => ⟨hpair.1, fun hle => ?_⟩)
      rcases hpair.2 hle with ⟨s, e, hsamples⟩
      exact between_of_le htime.1 hsamples

/-- Where a situation is to be held, the situations are looked at again. -/
theorem recalculates_of_hold (h : Carries ip) (hnow : 0 < ip.m_currentTimeMsSinceEpoch)
    (hhold : ∃ s, samples ip.m_currentTimeMsSinceEpoch ip.m_currentSituations = .hold s) :
    recalculates ip = true := by
  unfold recalculates
  rw [Bool.or_eq_true, decide_eq_true_eq, decide_eq_true_eq]
  rcases h.interpolant with ⟨s, hs⟩ | ⟨_, hpair⟩
  · right
    rw [hs]
    exact lt_trans (show (-1 : ℤ) < 0 by norm_num) hnow
  · left
    by_contra hle
    rcases hpair (not_lt.mp hle) with ⟨s, e, hbetween⟩
    rcases hhold with ⟨t, ht⟩
    rw [ht] at hbetween
    cases hbetween

theorem nextInterpolant_of_hold (env : GroundEnvironment) (hre : recalculates ip = true)
    {s : CAircraftSituation}
    (hhold : samples ip.m_currentTimeMsSinceEpoch ip.m_currentSituations = .hold s) :
    nextInterpolant env ip = .ofStart s := by
  unfold nextInterpolant
  rw [if_pos hre, hhold]

theorem nextInterpolant_of_between (env : GroundEnvironment) (hre : recalculates ip = true)
    {s e : CAircraftSituation}
    (hbetween : samples ip.m_currentTimeMsSinceEpoch ip.m_currentSituations = .between s e) :
    nextInterpolant env ip
      = interpolantAt ip.m_currentTimeMsSinceEpoch (adjustGround env s) (adjustGround env e) := by
  unfold nextInterpolant
  rw [if_pos hre, hbetween]

theorem nextInterpolant_of_kept (env : GroundEnvironment) (hre : recalculates ip = false) :
    nextInterpolant env ip
      = interpolantAt ip.m_currentTimeMsSinceEpoch ip.derived.m_interpolant.m_startSituation
          ip.derived.m_interpolant.m_endSituation := by
  unfold nextInterpolant
  rw [if_neg (by rw [hre]; exact Bool.false_ne_true)]

/-- A pair that is kept is in order. -/
theorem lt_of_kept (h : Carries ip) (hnow : 0 < ip.m_currentTimeMsSinceEpoch)
    (hre : recalculates ip = false) :
    getAdjustedMSecsSinceEpoch ip.derived.m_interpolant.m_startSituation
      < getAdjustedMSecsSinceEpoch ip.derived.m_interpolant.m_endSituation := by
  unfold recalculates at hre
  rw [Bool.or_eq_false_iff, decide_eq_false_iff_not, decide_eq_false_iff_not] at hre
  rcases h.interpolant with ⟨s, hs⟩ | ⟨hlt, _⟩
  · rw [hs] at hre
    exact absurd (lt_trans (show (-1 : ℤ) < 0 by norm_num) hnow) hre.2
  · exact hlt

/-- The altitude of an interpolant that holds a situation without one is right. -/
theorem altitude_hold_iff (s : CAircraftSituation) :
    ((CInterpolant.ofStart s).interpolateAltitude.equals
        (s.getCorrectedAltitude s.cg true).toCLength = true ∧
      (CInterpolant.ofStart s).interpolateAltitude.datum = (s.getCorrectedAltitude s.cg true).datum)
      ↔ (s.getCorrectedAltitude s.cg true).isNull = true := by
  unfold CLength.equals
  exact and_iff_left rfl

/-- A call does what it is to do just where it is asked for a pair. -/
theorem callOrderedAndHeld_iff (h : Carries ip) (hnow : 0 < ip.m_currentTimeMsSinceEpoch)
    (env : GroundEnvironment) : CallOrderedAndHeld env ip ↔ CallKeepsToPairs ip := by
  constructor
  · intro hsound
    constructor
    case notAfterHold =>
      intro s hs
      have hordered := hsound.ordered
      rw [hs] at hordered
      exact lt_of_le_of_lt hordered (show (-1 : ℤ) < 0 by norm_num)
    case apart =>
      intro s e hre hbetween
      have hapart := (hsound.fraction (fun ⟨t, ht⟩ => by
        rw [ht] at hbetween
        exact absurd hbetween (by simp))).1
      rw [nextInterpolant_of_between env hre hbetween] at hapart
      simpa only [interpolantAt, CInterpolant.ofStartAndEnd,
        getAdjustedMSecsSinceEpoch_adjustGround] using hapart
    case noAltitude =>
      intro s hs
      have hre := recalculates_of_hold h hnow ⟨s, hs⟩
      have hheld := (hsound.held s hs).2
      rw [nextInterpolant_of_hold env hre hs] at hheld
      exact (altitude_hold_iff s).mp hheld
  · intro hcond
    constructor
    case ordered =>
      rcases h.interpolant with ⟨s, hs⟩ | ⟨hlt, _⟩
      · have hold := hcond.notAfterHold s hs
        rw [hs]
        exact Int.le_sub_one_of_lt hold
      · exact le_of_lt hlt
    case fraction =>
      intro hpair
      cases hre : recalculates ip with
      | false =>
          -- the pair of an earlier call
          rw [nextInterpolant_of_kept env hre]
          have hne := ne_of_lt (lt_of_kept h hnow hre)
          exact ⟨hne, timeFraction_of_ne hne⟩
      | true =>
          cases hsamples : samples ip.m_currentTimeMsSinceEpoch ip.m_currentSituations with
          | hold s => exact absurd ⟨s, hsamples⟩ hpair
          | between s e =>
              rw [nextInterpolant_of_between env hre hsamples]
              have hne : getAdjustedMSecsSinceEpoch (adjustGround env s)
                  ≠ getAdjustedMSecsSinceEpoch (adjustGround env e) := by
                simpa only [getAdjustedMSecsSinceEpoch_adjustGround]
                  using hcond.apart s e hre hsamples
              exact ⟨hne, timeFraction_of_ne hne⟩
    case held =>
      intro s hs
      rw [nextInterpolant_of_hold env (recalculates_of_hold h hnow ⟨s, hs⟩) hs]
      exact ⟨position_hold s, (altitude_hold_iff s).mpr (hcond.noAltitude s hs)⟩

/-- The interpolant of such a call is one the next call can start from. -/
theorem carries_getInterpolant (h : Carries ip) (hnow : 0 < ip.m_currentTimeMsSinceEpoch)
    (hcond : CallKeepsToPairs ip) (env : GroundEnvironment) (last : CAircraftSituation) :
    Carries { ip with derived := (getInterpolant env ip).1, m_lastSituation := last } := by
  constructor
  case used =>
    change (if recalculates ip = true then ip.m_situationsLastModified
      else ip.derived.m_situationsLastModifiedUsed) ≤ ip.m_situationsLastModified
    split
    · exact le_refl _
    · exact h.used
  case sorted => exact h.sorted
  case interpolant =>
    change (∃ s, nextInterpolant env ip = .ofStart s) ∨
      getAdjustedMSecsSinceEpoch (nextInterpolant env ip).m_startSituation
          < getAdjustedMSecsSinceEpoch (nextInterpolant env ip).m_endSituation ∧
        (ip.m_situationsLastModified ≤ (getInterpolant env ip).1.m_situationsLastModifiedUsed →
          ∃ s e, samples ip.m_currentTimeMsSinceEpoch ip.m_currentSituations = .between s e)
    -- The interpolant is kept, or it is made from the samples of the call.
    cases hre : recalculates ip with
    | false =>
        right
        rw [nextInterpolant_of_kept env hre]
        refine ⟨lt_of_kept h hnow hre, fun _ => ?_⟩
        cases hsamples : samples ip.m_currentTimeMsSinceEpoch ip.m_currentSituations with
        | hold s =>
            have hfound := recalculates_of_hold h hnow ⟨s, hsamples⟩
            rw [hre] at hfound
            cases hfound
        | between s e => exact ⟨s, e, rfl⟩
    | true =>
        cases hsamples : samples ip.m_currentTimeMsSinceEpoch ip.m_currentSituations with
        | hold s => exact Or.inl ⟨s, nextInterpolant_of_hold env hre hsamples⟩
        | between s e =>
            right
            rw [nextInterpolant_of_between env hre hsamples]
            refine ⟨?_, fun _ => ⟨s, e, rfl⟩⟩
            -- The two samples of a pair are apart by the condition on the call.
            have hle := (le_of_samples h.sorted hsamples).1
            have hlt := lt_of_le_of_ne hle (hcond.apart s e hre hsamples)
            simpa only [interpolantAt, CInterpolant.ofStartAndEnd,
              getAdjustedMSecsSinceEpoch_adjustGround] using hlt

/-- One call of a run, and the next one. -/
theorem orderedAndHeld_step (h : Carries ip) (htime : InTime ip call)
    (hsorted : LatestFirst getAdjustedMSecsSinceEpoch call.situations) :
    (OrderedAndHeld ip call ↔ KeepsToPairs ip call) ∧
      (KeepsToPairs ip call → Carries (linear.step ip call).1) := by
  have hready := carries_init h htime hsorted
  have hnow : 0 < (ip.initIniterpolationStepData call).m_currentTimeMsSinceEpoch := htime.2
  constructor
  · exact imp_congr_right fun _ => callOrderedAndHeld_iff hready hnow call.environment
  · intro hcond
    unfold linear
    by_cases hempty : (ip.initIniterpolationStepData call).m_currentSituations = []
    · rw [step_of_empty getInterpolant ip call hempty]
      exact hready
    · rw [step_of_situations getInterpolant ip call hempty, getInterpolatedSituation_spec]
      exact carries_getInterpolant hready hnow (hcond hempty) call.environment _

end Step

/-- In calls at times that do not go back, over situations that are sorted by their
    adjusted times, the start and the end are in order, the interval is not zero and a
    situation is held as it is just where every call keeps to pairs. -/
theorem ordered_and_held_iff (calls : List InterpolationCall) (htimed : Timed (-1) calls)
    (hsorted : ∀ call ∈ calls, LatestFirst getAdjustedMSecsSinceEpoch call.situations) :
    linear.AllSteps OrderedAndHeld create calls ↔ linear.AllSteps KeepsToPairs create calls := by
  suffices hall : ∀ ip : CInterpolator CInterpolatorLinear, Carries ip →
      Timed ip.m_currentTimeMsSinceEpoch calls →
        (linear.AllSteps OrderedAndHeld ip calls ↔ linear.AllSteps KeepsToPairs ip calls) from
    hall create carries_create htimed
  clear htimed
  induction calls with
  | nil => exact fun ip _ _ => Iff.rfl
  | cons call calls ih =>
      intro ip h htimed
      rcases orderedAndHeld_step h ⟨htimed.1, htimed.2.1⟩
        (hsorted call List.mem_cons_self) with ⟨hiff, hnext⟩
      have hrest := ih fun c hc => hsorted c (List.mem_cons_of_mem call hc)
      -- either way the call keeps to pairs, and the next one starts from what it leaves
      have htail (hcond : KeepsToPairs ip call) := hrest (linear.step ip call).1 (hnext hcond) (by
        rw [linear, currentTime_step]
        exact htimed.2.2)
      constructor
      · intro hall
        have hcond := hiff.mp hall.1
        exact ⟨hcond, (htail hcond).mp hall.2⟩
      · intro hall
        exact ⟨hiff.mpr hall.1, (htail hall.1).mpr hall.2⟩

/-- Ground that is not known anywhere. -/
def unknownGround : GroundEnvironment where
  presetGroundElevation _ _ s := s.groundElevation
  interpolatedElevation _ _ _ s := s.groundElevation
  findClosestElevationWithinRange s := s.groundElevation
  canLikelySkipNearGroundInterpolation _ := false
  guessOnGround s := s.onGroundInfo
  modelCG := CLength.null

/-- A situation of an aircraft at 3000 feet. -/
def sampleSituation (msecs offset : ℤ) (x : ℚ) : CAircraftSituation where
  m_timestampMSecsSinceEpoch := msecs
  m_timeOffsetMs := offset
  normalVector := ⟨x, 0, 0⟩
  altitude := CAltitude.create 3000 .meanSeaLevel .ft

/-- A call while the provider has the situations, which were modified at a time. -/
def sampleCall (now lastModified : ℤ) (situations : List CAircraftSituation) :
    InterpolationCall where
  currentTimeSinceEpoch := now
  lastModified := lastModified
  situations := situations
  environment := unknownGround

/-- Two situations around the current time. -/
def pairCall : InterpolationCall :=
  sampleCall 8000 7000 [sampleSituation 6000 6000 1, sampleSituation 1000 6000 (1 / 2)]

theorem ordered_and_held_sample : linear.AllSteps OrderedAndHeld create [pairCall] := by
  refine (ordered_and_held_iff [pairCall] ⟨by decide, by decide, trivial⟩ ?_).mpr ⟨?_, trivial⟩
  · intro call hcall
    rw [List.mem_singleton.mp hcall]
    decide
  · intro _
    have hsamples : samples 8000 pairCall.situations
        = .between (sampleSituation 1000 6000 (1 / 2)) (sampleSituation 6000 6000 1) := by
      decide +kernel
    constructor
    case notAfterHold =>
      intro s hs
      have hstart : CAircraftSituation.null = s := congrArg CInterpolant.m_startSituation hs
      rw [← hstart]
      decide
    case apart =>
      intro s e _ hbetween
      rcases Samples.between.inj (hsamples.symm.trans hbetween) with ⟨rfl, rfl⟩
      decide
    case noAltitude =>
      intro s hs
      exact absurd (hsamples.symm.trans hs) (by simp)

/-- One situation, and two calls after it. -/
def holdCalls : List InterpolationCall :=
  [sampleCall 8000 7000 [sampleSituation 1000 6000 1],
    sampleCall 8020 7000 [sampleSituation 1000 6000 1]]

/-- The second call starts from a default situation that is before the one that is held,
    and the altitude of that one is lost. -/
theorem hold_breaks_order :
    Timed (-1) holdCalls ∧
      (∀ call ∈ holdCalls, LatestFirst getAdjustedMSecsSinceEpoch call.situations) ∧
      ¬linear.AllSteps OrderedAndHeld create holdCalls ∧
      ¬OrderedAndHeld create (sampleCall 8000 7000 [sampleSituation 1000 6000 1]) := by
  refine ⟨⟨by decide, by decide, by decide, by decide, trivial⟩, ?_, fun h => ?_, fun h => ?_⟩
  · intro call hcall
    rcases List.mem_pair.mp hcall with rfl | rfl <;> decide
  · have hordered := (h.2.1 (by decide +kernel)).ordered
    exact absurd hordered (by decide +kernel)
  · have hheld := ((h (by decide +kernel)).held (sampleSituation 1000 6000 1) (by
      decide +kernel)).2.1
    exact absurd hheld (by decide +kernel)

end CInterpolatorLinear

end Simulation

end NeoSwift.Misc
