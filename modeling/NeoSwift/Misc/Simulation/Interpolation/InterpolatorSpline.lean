import NeoSwift.Misc.Simulation.Interpolation.InterpolatorLinear
import NeoSwift.Misc.Simulation.Interpolation.Spline

/-!
# The Spline Interpolator

`CInterpolatorSpline`: the position is on a cubic spline through three situations. The
middle one is the last interpolated situation, where there is one. The newest is the latest
that was received, and the oldest one that was received before the middle one; where there
is no such situation, the middle one is moved forwards or backwards in time.

Between two calls the three are kept, unless the situations have changed or the newest of
them is no longer ahead. What carries the order of the three from call to call is that the
last interpolated situation is not ahead of the current time. In exact arithmetic it is just
at the time of the call that interpolated it: its time is counted from the middle sample,
and its offset is that of the situation it was made of, which is the one of the middle
sample.

A result that is not a number is `none`.

## Main definitions

* `Array3`: `std::array` of three.
* `CInterpolatorSpline.PosArray`, `CInterpolatorSpline.CInterpolant`: The interpolant.
* `CInterpolatorSpline.fillSituationsArray`: The three situations.
* `CInterpolatorSpline.getInterpolant`: The interpolant of a call.
* `CInterpolatorSpline.Ahead`: What is carried from call to call.
* `CInterpolatorSpline.WindowInOrder`: What a call is to do.

## Theorems

* `fillSituationsArray_spec`: The three situations are in order.
* `adjusted_interpolated`: What is interpolated is at the current time.
* `spline_window_in_order`: All calls of a run do what they are to do.
-/

namespace NeoSwift.Misc

namespace Simulation

open Aviation Pq

/-- `std::array<T, 3>`. -/
structure Array3 (α : Type) where
  s0 : α
  s1 : α
  s2 : α
  deriving DecidableEq

namespace Array3

variable {α β : Type}

def map (f : α → β) (s : Array3 α) : Array3 β := ⟨f s.s0, f s.s1, f s.s2⟩

def ofList : List α → Option (Array3 α)
  | [a, b, c] => some ⟨a, b, c⟩
  | _ => none

end Array3

/-- `m_s`, oldest first. -/
abbrev Situations := Array3 CAircraftSituation

namespace CInterpolatorSpline

/-- `getDerivatives` for three knots. -/
def derivatives (t y : Array3 ℚ) : Option (Array3 ℚ) :=
  (getDerivatives [⟨t.s0, y.s0⟩, ⟨t.s1, y.s1⟩, ⟨t.s2, y.s2⟩]).bind Array3.ofList

/-- The values at the three situations of a spline, and their derivatives. -/
structure PosArray where
  x : Array3 ℚ
  y : Array3 ℚ
  z : Array3 ℚ
  a : Array3 ℚ
  gnd : Array3 ℚ
  t : Array3 ℚ
  dx : Option (Array3 ℚ)
  dy : Option (Array3 ℚ)
  dz : Option (Array3 ℚ)
  da : Option (Array3 ℚ)
  dgnd : Option (Array3 ℚ)
  deriving DecidableEq

namespace PosArray

def zeroPosArray : PosArray :=
  let zero : Array3 ℚ := ⟨0, 0, 0⟩
  ⟨zero, zero, zero, zero, zero, zero, some zero, some zero, some zero, some zero, some zero⟩

/-- The positions of three situations, whose elevations have been updated meanwhile. -/
def ofSituations (cg : CLength) (s updated : Situations) : PosArray :=
  let x := s.map fun situation => situation.normalVector.x
  let y := s.map fun situation => situation.normalVector.y
  let z := s.map fun situation => situation.normalVector.z
  let t := s.map fun situation => (getAdjustedMSecsSinceEpoch situation : ℚ)
  let a := updated.map fun situation =>
    (situation.getCorrectedAltitude (cg.switchedUnit .ft) true).toCLength.valueIn .ft
  let gnd := updated.map fun situation => situation.onGroundInfo.m_onGroundFactor
  ⟨x, y, z, a, gnd, t, derivatives t x, derivatives t y, derivatives t z, derivatives t a,
    derivatives t gnd⟩

/-- The value at a time between the last two samples. -/
def eval (pa : PosArray) (now : ℤ) (y : Array3 ℚ) (dy : Option (Array3 ℚ)) : Option ℚ :=
  dy.bind fun k => evalSplineInterval now pa.t.s1 pa.t.s2 y.s1 y.s2 k.s1 k.s2

end PosArray

/-- With the time fraction of `m_pbh`. -/
structure CInterpolant where
  m_pa : PosArray := PosArray.zeroPosArray
  m_altitudeUnit : CLengthUnit := .m
  m_currentTimeMsSinceEpoc : ℤ := -1
  m_pbh : CInterpolatorLinearPbh := {}
  m_simulationTimeFraction : Option ℚ := some 0
  m_interpolatedTime : ℤ := -1
  m_isValid : Bool := true
  deriving DecidableEq

namespace CInterpolant

variable (i : CInterpolant)

/-- The current time is between the last two samples. -/
def isInTime : Bool :=
  i.m_pa.t.s1 < i.m_pa.t.s2 && i.m_pa.t.s1 ≤ i.m_currentTimeMsSinceEpoc &&
    i.m_currentTimeMsSinceEpoc < i.m_pa.t.s2

/-- `isValidVector` of three values. -/
def isValidVector (v : Array3 ℚ) : Bool := NormalVector.isValidVector ⟨v.s0, v.s1, v.s2⟩

/-- The default position and the default altitude. -/
def nothing : Option NormalVector × CAltitude :=
  (some ⟨0, 0, 0⟩, CAltitude.create 0 .meanSeaLevel .null)

/-- Position and altitude at the current time, nothing outside of the interval. -/
def interpolatePositionAndAltitude : Option NormalVector × CAltitude :=
  if !i.isInTime then nothing
  else
    let pa := i.m_pa
    let now := i.m_currentTimeMsSinceEpoc
    let position : Option NormalVector := do
      let newX ← pa.eval now pa.x pa.dx
      let newY ← pa.eval now pa.y pa.dy
      let newZ ← pa.eval now pa.z pa.dz
      return ⟨newX, newY, newZ⟩
    if !(isValidVector pa.x && isValidVector pa.y && isValidVector pa.z) then nothing
    else if !position.any NormalVector.isValidVector then nothing
    else
      (position, CAltitude.create ((pa.eval now pa.a pa.da).getD 0) .meanSeaLevel i.m_altitudeUnit)

/-- On ground or not where both situations agree, and the spline in between. -/
def interpolateGroundFactor : COnGroundInfo :=
  if !i.isInTime then {}
  else
    let pa := i.m_pa
    let gnd1 := pa.gnd.s1
    let gnd2 := pa.gnd.s2
    if |gnd1| ≤ NormalVector.epsilon ∧ |gnd2| ≤ NormalVector.epsilon then
      ⟨.onGroundByInterpolation, 0⟩
    else if |1 - gnd1| ≤ NormalVector.epsilon ∧ |1 - gnd2| ≤ NormalVector.epsilon then
      ⟨.onGroundByInterpolation, 1⟩
    else COnGroundInfo.ofFactor ((pa.eval i.m_currentTimeMsSinceEpoc pa.gnd pa.dgnd).getD 0)

/-- Sets the current time, the fraction and the time that is interpolated. -/
def setTimes (currentTimeMs : ℤ) (timeFraction : Option ℚ) (interpolatedTimeMs : ℤ) :
    CInterpolant :=
  { i with
    m_currentTimeMsSinceEpoc := currentTimeMs
    m_interpolatedTime := interpolatedTimeMs
    m_simulationTimeFraction := timeFraction.map clampValidTimeFraction }

/-- What the interpolant says when it is asked. -/
def toInterpolant : Interpolant where
  startSituation := i.m_pbh.m_startSituation
  endSituation := i.m_pbh.m_endSituation
  position := i.interpolatePositionAndAltitude.1
  altitude := i.interpolatePositionAndAltitude.2
  groundFactor := i.interpolateGroundFactor
  interpolatedTime := i.m_interpolatedTime
  valid := i.m_isValid

end CInterpolant

end CInterpolatorSpline

/-- The spline interpolator between two calls. -/
structure CInterpolatorSpline where
  m_situationsLastModifiedUsed : ℤ := -1
  m_prevSampleAdjustedTime : ℤ := 0
  m_nextSampleAdjustedTime : ℤ := 0
  m_prevSampleTime : ℤ := 0
  m_interpolant : CInterpolatorSpline.CInterpolant := {}

/-- `std::max_element`, from the largest so far. -/
def maxElementFrom (largest : CAircraftSituation) : List CAircraftSituation → CAircraftSituation
  | [] => largest
  | s :: situations =>
      maxElementFrom
        (if getAdjustedMSecsSinceEpoch largest < getAdjustedMSecsSinceEpoch s then s else largest)
        situations

/-- In a sorted list that is the first one. -/
def latestAdjustedObject : List CAircraftSituation → CAircraftSituation
  | [] => CAircraftSituation.null
  | s :: situations => maxElementFrom s situations

/-- The latest situation whose adjusted time is before the one given. -/
def findObjectBeforeAdjustedOrDefault (msSinceEpoch : ℤ) (situations : List CAircraftSituation) :
    CAircraftSituation :=
  latestAdjustedObject (situations.filter fun s => getAdjustedMSecsSinceEpoch s < msSinceEpoch)

/-- The offset of interim positions. -/
def c_interimPositionTimeOffsetMsec : ℤ := 1500

namespace CInterpolatorSpline

/-- The sample to start from: the last situation, or the latest one as of now. -/
def middleSituation (ip : CInterpolator CInterpolatorSpline) : CAircraftSituation :=
  if ip.m_lastSituation.isNull then
    (ip.m_currentSituations.headD CAircraftSituation.null).setAdjustedMSecsSinceEpoch
      ip.m_currentTimeMsSinceEpoch
  else ip.m_lastSituation

/-- The oldest sample, which is not to be too close, or else just before the middle one. -/
def oldestSituation (situations : List CAircraftSituation) (os : ℤ) (s0 s1 : CAircraftSituation) :
    CAircraftSituation :=
  let currentAdjusted := getAdjustedMSecsSinceEpoch s1
  let osNotTooClose := qRound (4 / 5 * os)
  let older := findObjectBeforeAdjustedOrDefault (currentAdjusted - osNotTooClose) situations
  let closeOlder := findObjectBeforeAdjustedOrDefault currentAdjusted situations
  if !older.isNull then older
  else if !closeOlder.isNull then closeOlder
  else s0

/-- The three samples, and whether there is one ahead of the current time. -/
def fillSituationsArray (ip : CInterpolator CInterpolatorSpline) : Situations × Bool :=
  if ip.m_lastSituation.isNull && ip.m_currentSituations.isEmpty then
    (⟨CAircraftSituation.null, CAircraftSituation.null, CAircraftSituation.null⟩, false)
  else
    let s1 := middleSituation ip
    let os := max c_interimPositionTimeOffsetMsec (getTimeOffsetMs s1)
    let s0 := s1.addMsecs (-os)
    let s2 := s1.addMsecs os
    match ip.m_currentSituations with
    | [] => (⟨s0, s1, s2⟩, false)
    | latest :: _ =>
        let s2 :=
          if getAdjustedMSecsSinceEpoch s1 < getAdjustedMSecsSinceEpoch latest then latest else s2
        (⟨oldestSituation ip.m_currentSituations os s0 s1, s1, s2⟩,
          decide (ip.m_currentTimeMsSinceEpoch < getAdjustedMSecsSinceEpoch s2))

/-- At a new step, or when the situations were modified. -/
def recalculate (ip : CInterpolator CInterpolatorSpline) : Bool :=
  ip.derived.m_nextSampleAdjustedTime ≤ ip.m_currentTimeMsSinceEpoch ||
    ip.derived.m_situationsLastModifiedUsed < ip.m_situationsLastModified

/-- The samples are calculated again. The elevations are only looked for where they are
    likely to matter. -/
def recalculated (env : GroundEnvironment) (ip : CInterpolator CInterpolatorSpline) :
    CInterpolatorSpline :=
  let s := (fillSituationsArray ip).1
  let updated := s.map (CInterpolatorLinear.adjustGround env)
  { m_situationsLastModifiedUsed := ip.m_situationsLastModified
    m_prevSampleAdjustedTime := getAdjustedMSecsSinceEpoch updated.s1
    m_nextSampleAdjustedTime := getAdjustedMSecsSinceEpoch updated.s2
    m_prevSampleTime := getMSecsSinceEpoch updated.s1
    m_interpolant :=
      { m_pa := PosArray.ofSituations env.modelCG s updated
        m_altitudeUnit := .ft
        m_pbh := ⟨updated.s1, updated.s2⟩ } }

/-- There are no samples. -/
def invalidated (ip : CInterpolator CInterpolatorSpline) : CInterpolatorSpline :=
  { ip.derived with
    m_situationsLastModifiedUsed := ip.m_situationsLastModified
    m_interpolant := { ip.derived.m_interpolant with m_isValid := false } }

/-- The fraction before it is clamped. -/
def timeFraction (d : CInterpolatorSpline) (now : ℤ) : Option ℚ :=
  checkedDiv ((now - d.m_prevSampleAdjustedTime : ℤ) : ℚ)
    ((d.m_nextSampleAdjustedTime - d.m_prevSampleAdjustedTime : ℤ) : ℚ)

/-- The part of the adjusted interval that has passed, from the start's own time on. -/
def interpolatedTime (d : CInterpolatorSpline) (fraction : Option ℚ) : ℤ :=
  let dt2 : ℚ := ((d.m_nextSampleAdjustedTime - d.m_prevSampleAdjustedTime : ℤ) : ℚ)
  d.m_prevSampleTime + (fraction.map fun f => qRound (f * dt2)).getD (-2 ^ 63)

/-- The interpolant at the current time. -/
def atTime (d : CInterpolatorSpline) (now : ℤ) : CInterpolatorSpline :=
  let fraction := timeFraction d now
  { d with
    m_interpolant :=
      d.m_interpolant.setTimes now fraction
        (interpolatedTime d (fraction.map clampValidTimeFraction)) }

/-- Whether the call comes to the fraction. -/
def hasSamples (ip : CInterpolator CInterpolatorSpline) : Bool :=
  !recalculate ip || (fillSituationsArray ip).2

/-- The interpolator after a call, recalculated if there are new situations. -/
def nextDerived (env : GroundEnvironment) (ip : CInterpolator CInterpolatorSpline) :
    CInterpolatorSpline :=
  if recalculate ip then
    if !(fillSituationsArray ip).2 then invalidated ip
    else atTime (recalculated env ip) ip.m_currentTimeMsSinceEpoch
  else atTime ip.derived ip.m_currentTimeMsSinceEpoch

/-- The interpolant of a call, with the interpolator after it. -/
def getInterpolant (env : GroundEnvironment) (ip : CInterpolator CInterpolatorSpline) :
    CInterpolatorSpline × Interpolant :=
  (nextDerived env ip, (nextDerived env ip).m_interpolant.toInterpolant)

/-- A new interpolator. -/
def create : CInterpolator CInterpolatorSpline := { derived := {} }

/-- The interpolator as it is called. -/
def spline : Machine (CInterpolator CInterpolatorSpline) InterpolationCall InterpolationResult :=
  interpolation getInterpolant

end CInterpolatorSpline

theorem maxElementFrom_mem (largest : CAircraftSituation) (l : List CAircraftSituation) :
    maxElementFrom largest l ∈ largest :: l := by
  induction l generalizing largest with
  | nil => exact List.mem_cons_self
  | cons s l ih =>
    unfold maxElementFrom
    split
    · exact List.mem_cons_of_mem largest (ih s)
    · have hmem := ih largest
      rw [List.mem_cons] at hmem ⊢
      exact hmem.imp id (List.mem_cons_of_mem s)

/-- What is found before a time is before it. -/
theorem lt_of_findObjectBefore {t : ℤ} {l : List CAircraftSituation}
    (h : (findObjectBeforeAdjustedOrDefault t l).isNull = false) :
    getAdjustedMSecsSinceEpoch (findObjectBeforeAdjustedOrDefault t l) < t := by
  unfold findObjectBeforeAdjustedOrDefault at h ⊢
  cases hbefore : l.filter fun s => getAdjustedMSecsSinceEpoch s < t with
  | nil =>
    rw [hbefore] at h
    cases h
  | cons s before =>
    have hmem : maxElementFrom s before ∈ l.filter fun s => getAdjustedMSecsSinceEpoch s < t := by
      rw [hbefore]
      exact maxElementFrom_mem s before
    exact of_decide_eq_true (List.mem_filter.mp hmem).2

@[simp] theorem getAdjustedMSecsSinceEpoch_addMsecs (s : CAircraftSituation) (ms : ℤ) :
    getAdjustedMSecsSinceEpoch (s.addMsecs ms) = getAdjustedMSecsSinceEpoch s + ms :=
  add_right_comm _ _ _

@[simp] theorem getAdjustedMSecsSinceEpoch_setAdjustedMSecsSinceEpoch (s : CAircraftSituation)
    (t : ℤ) : getAdjustedMSecsSinceEpoch (s.setAdjustedMSecsSinceEpoch t) = t :=
  sub_add_cancel _ _

namespace CInterpolatorSpline

section Samples

variable {ip : CInterpolator CInterpolatorSpline}

/-- The middle sample is not ahead of the current time if the last situation is not. -/
theorem middleSituation_le
    (hlast : getAdjustedMSecsSinceEpoch ip.m_lastSituation ≤ ip.m_currentTimeMsSinceEpoch) :
    getAdjustedMSecsSinceEpoch (middleSituation ip) ≤ ip.m_currentTimeMsSinceEpoch := by
  unfold middleSituation
  split
  · rw [getAdjustedMSecsSinceEpoch_setAdjustedMSecsSinceEpoch]
  · exact hlast

/-- Its offset is that of the situation the interpolated one will be made of. -/
theorem getTimeOffsetMs_middleSituation :
    getTimeOffsetMs (middleSituation ip) = getTimeOffsetMs ip.baseSituation := by
  unfold middleSituation CInterpolator.baseSituation
  split <;> rfl

theorem oldestSituation_lt {situations : List CAircraftSituation} {os : ℤ}
    {s0 s1 : CAircraftSituation} (hos : 0 ≤ os)
    (h : getAdjustedMSecsSinceEpoch s0 < getAdjustedMSecsSinceEpoch s1) :
    getAdjustedMSecsSinceEpoch (oldestSituation situations os s0 s1)
      < getAdjustedMSecsSinceEpoch s1 := by
  have hclose : 0 ≤ qRound (4 / 5 * (os : ℚ)) := by
    have hcast : (0 : ℚ) ≤ os := by exact_mod_cast hos
    exact qRound_nonneg (by linarith)
  unfold oldestSituation
  dsimp only
  split
  case isTrue holder =>
    have hlt := lt_of_findObjectBefore (by simpa only [Bool.not_eq_true'] using holder)
    omega
  case isFalse =>
    split
    case isTrue hcloseOlder => 
      exact lt_of_findObjectBefore (by simpa only [Bool.not_eq_true'] using hcloseOlder)
    case isFalse => exact h

/-- The three situations are in order, and the current time is between the last two. -/
theorem fillSituationsArray_spec (hfill : (fillSituationsArray ip).2 = true) :
    (fillSituationsArray ip).1.s1 = middleSituation ip ∧
      getAdjustedMSecsSinceEpoch (fillSituationsArray ip).1.s0
        < getAdjustedMSecsSinceEpoch (middleSituation ip) ∧ ip.m_currentTimeMsSinceEpoch
        < getAdjustedMSecsSinceEpoch (fillSituationsArray ip).1.s2 := by
  have hos : 0 < max c_interimPositionTimeOffsetMsec (getTimeOffsetMs (middleSituation ip)) :=
    lt_max_of_lt_left (by decide)
  unfold fillSituationsArray at hfill ⊢
  split at hfill
  · cases hfill
  case isFalse hsome =>
    rw [if_neg hsome]
    cases hsituations : ip.m_currentSituations with
    | nil =>
      rw [hsituations] at hfill
      cases hfill
    -- That the filling succeeds says where the current time is.
    | cons latest rest =>
      rw [hsituations] at hfill
      refine ⟨rfl, oldestSituation_lt hos.le ?_, of_decide_eq_true hfill⟩
      rw [getAdjustedMSecsSinceEpoch_addMsecs]
      omega

end Samples

/-! ## The samples of a valid interpolant -/

/-- The samples are in order, the middle one is not ahead of a time, and a time counted from
    it is adjusted by an offset. -/
structure Sampled (d : CInterpolatorSpline) (now offset : ℤ) : Prop where
  oldest : d.m_interpolant.m_pa.t.s0 < d.m_interpolant.m_pa.t.s1
  middle : d.m_interpolant.m_pa.t.s1 = d.m_prevSampleAdjustedTime
  latest : d.m_interpolant.m_pa.t.s2 = d.m_nextSampleAdjustedTime
  ordered : d.m_prevSampleAdjustedTime < d.m_nextSampleAdjustedTime
  notAhead : d.m_prevSampleAdjustedTime ≤ now
  adjusted : d.m_prevSampleTime + offset = d.m_prevSampleAdjustedTime
  derivatives : d.m_interpolant.m_pa.dx.isSome ∧ d.m_interpolant.m_pa.dy.isSome ∧
    d.m_interpolant.m_pa.dz.isSome ∧ d.m_interpolant.m_pa.da.isSome ∧
    d.m_interpolant.m_pa.dgnd.isSome

theorem isSome_derivatives {t : Array3 ℚ} (h0 : t.s0 < t.s1) (h1 : t.s1 < t.s2) (y : Array3 ℚ) :
    (derivatives t y).isSome = true := by
  rcases @exists_getDerivatives ⟨t.s0, y.s0⟩ ⟨t.s1, y.s1⟩ [⟨t.s2, y.s2⟩]
      (List.isChain_cons_cons.mpr ⟨h0, List.isChain_cons_cons.mpr ⟨h1, List.isChain_singleton _⟩⟩)
      with ⟨ks, hks, hlength⟩
  rcases List.length_eq_three.mp hlength with ⟨a, b, c, rfl⟩
  unfold derivatives
  rw [hks]
  rfl

section Times

variable {d : CInterpolatorSpline} {now offset : ℤ}

theorem Sampled.mono (h : Sampled d now offset) {now' : ℤ} (hle : now ≤ now') :
    Sampled d now' offset :=
  { h with notAhead := h.notAhead.trans hle }

/-- Between the samples the fraction is that of the interval. -/
theorem timeFraction_spec (h : Sampled d now offset) (hnow : now < d.m_nextSampleAdjustedTime) :
    ∃ f, timeFraction d now = some f ∧ 0 ≤ f ∧ f ≤ 1 ∧
      f * ((d.m_nextSampleAdjustedTime - d.m_prevSampleAdjustedTime : ℤ) : ℚ)
        = ((now - d.m_prevSampleAdjustedTime : ℤ) : ℚ) := by
  have hpos : (0 : ℚ) < ((d.m_nextSampleAdjustedTime - d.m_prevSampleAdjustedTime : ℤ) : ℚ) := by
    exact_mod_cast sub_pos.mpr h.ordered
  have hnonneg : (0 : ℚ) ≤ ((now - d.m_prevSampleAdjustedTime : ℤ) : ℚ) := by
    exact_mod_cast sub_nonneg.mpr h.notAhead
  have hle : ((now - d.m_prevSampleAdjustedTime : ℤ) : ℚ)
      ≤ ((d.m_nextSampleAdjustedTime - d.m_prevSampleAdjustedTime : ℤ) : ℚ) := by
    exact_mod_cast sub_le_sub_right hnow.le d.m_prevSampleAdjustedTime
  refine ⟨_, checkedDiv_of_ne hpos.ne', div_nonneg hnonneg hpos.le, ?_, ?_⟩
  · exact (div_le_one hpos).mpr hle
  · exact div_mul_cancel₀ _ hpos.ne'

theorem clampValidTimeFraction_of_mem {f : ℚ} (h0 : 0 ≤ f) (h1 : f ≤ 1) :
    clampValidTimeFraction f = f := by
  unfold clampValidTimeFraction
  rw [if_neg (not_lt.mpr h1), if_neg (not_lt.mpr h0)]

/-- The interpolated time is as far behind the middle sample as the current time is. -/
theorem interpolatedTime_atTime (h : Sampled d now offset)
    (hnow : now < d.m_nextSampleAdjustedTime) :
    (atTime d now).m_interpolant.m_interpolatedTime + offset = now := by
  rcases timeFraction_spec h hnow with ⟨f, hf, h0, h1, hmul⟩
  have htime : (atTime d now).m_interpolant.m_interpolatedTime
      = d.m_prevSampleTime + (now - d.m_prevSampleAdjustedTime) := by
    change interpolatedTime d ((timeFraction d now).map clampValidTimeFraction) = _
    unfold interpolatedTime
    dsimp only
    rw [hf, Option.map_some, clampValidTimeFraction_of_mem h0 h1, Option.map_some, Option.getD_some,
      hmul, qRound_intCast]
  have hadjusted := h.adjusted
  omega

/-- The samples stay what they are. -/
theorem Sampled.atTime (h : Sampled d now offset) : Sampled (atTime d now) now offset :=
  { h with }

end Times

/-! ## From call to call -/

/-- What is carried from call to call. The last situation is not ahead of the current time,
    and unless there is something to calculate, the samples are those of a valid
    interpolant. -/
structure Ahead (ip : CInterpolator CInterpolatorSpline) : Prop where
  used : ip.derived.m_situationsLastModifiedUsed ≤ ip.m_situationsLastModified
  ordered : ip.derived.m_prevSampleAdjustedTime < ip.derived.m_nextSampleAdjustedTime ∨
    ip.derived.m_nextSampleAdjustedTime ≤ 0
  last : getAdjustedMSecsSinceEpoch ip.m_lastSituation ≤ ip.m_currentTimeMsSinceEpoch
  kept : ip.m_currentSituations ≠ [] →
    ip.m_situationsLastModified ≤ ip.derived.m_situationsLastModifiedUsed →
    ip.derived.m_interpolant.m_isValid = true →
    ip.derived.Sampled ip.m_currentTimeMsSinceEpoch (getTimeOffsetMs ip.baseSituation)

/-- What a call is to do that comes to an interpolant. -/
structure WindowInOrder (env : GroundEnvironment) (ip : CInterpolator CInterpolatorSpline) :
    Prop where
  /-- The three sample times of a valid interpolant. -/
  samples : (getInterpolant env ip).2.valid = true →
    (getInterpolant env ip).1.m_interpolant.m_pa.t.s0
        < (getInterpolant env ip).1.m_interpolant.m_pa.t.s1 ∧
      (getInterpolant env ip).1.m_interpolant.m_pa.t.s1
        < (getInterpolant env ip).1.m_interpolant.m_pa.t.s2 ∧
      (getInterpolant env ip).1.m_interpolant.m_pa.t.s1 ≤ ip.m_currentTimeMsSinceEpoch ∧
      ip.m_currentTimeMsSinceEpoch < (getInterpolant env ip).1.m_interpolant.m_pa.t.s2
  /-- No derivative is divided by zero. -/
  derivatives : (getInterpolant env ip).2.valid = true →
    (getInterpolant env ip).1.m_interpolant.m_pa.dx.isSome ∧
      (getInterpolant env ip).1.m_interpolant.m_pa.dy.isSome ∧
      (getInterpolant env ip).1.m_interpolant.m_pa.dz.isSome ∧
      (getInterpolant env ip).1.m_interpolant.m_pa.da.isSome ∧
      (getInterpolant env ip).1.m_interpolant.m_pa.dgnd.isSome
  /-- The fraction before it is clamped. -/
  fraction : (getInterpolant env ip).2.valid = true →
    ∃ f, timeFraction (getInterpolant env ip).1 ip.m_currentTimeMsSinceEpoch = some f ∧
      0 ≤ f ∧ f ≤ 1
  /-- The assertion, which is also about the denominator of the fraction. -/
  timeOrder : hasSamples ip = true →
    (getInterpolant env ip).1.m_prevSampleAdjustedTime
      < (getInterpolant env ip).1.m_nextSampleAdjustedTime

theorem ahead_create : Ahead create where
  used := le_refl _
  ordered := Or.inr (le_refl _)
  last := by decide
  kept h := absurd rfl h

section Step

variable {ip : CInterpolator CInterpolatorSpline} {call : InterpolationCall}
  (env : GroundEnvironment)

theorem ahead_init (h : Ahead ip) (htime : InTime ip call) :
    Ahead (ip.initIniterpolationStepData call) := by
  have hlast := h.last.trans htime.1
  have hused := h.used
  have hnull : getAdjustedMSecsSinceEpoch CAircraftSituation.null ≤ call.currentTimeSinceEpoch :=
    (show (-1 : ℤ) ≤ 0 by omega).trans htime.2.le
  constructor
  case used =>
    change ip.derived.m_situationsLastModifiedUsed ≤ ite _ _ _
    split <;> omega
  case ordered => exact h.ordered
  case last =>
    have hor : (ip.initIniterpolationStepData call).m_lastSituation = CAircraftSituation.null ∨
        (ip.initIniterpolationStepData call).m_lastSituation = ip.m_lastSituation :=
      ite_eq_or_eq _ _ _
    rcases hor with heq | heq
    · rw [heq]
      exact hnull
    · rw [heq]
      exact hlast
  case kept =>
    -- situations that have changed are yet to be used
    unfold CInterpolator.initIniterpolationStepData
    intro hsituations hmodified hvalid
    by_cases hchanged : ip.m_situationsLastModified < call.lastModified
    · simp only [hchanged, if_true] at hmodified
      omega
    · simp only [hchanged, if_false] at hsituations hmodified ⊢
      have hkept := (h.kept hsituations hmodified hvalid).mono htime.1
      simp only [hsituations]
      exact hkept

theorem sampled_recalculated (h : Ahead ip) (hfill : (fillSituationsArray ip).2 = true) :
    Sampled (recalculated env ip) ip.m_currentTimeMsSinceEpoch
      (getTimeOffsetMs ip.baseSituation) := by
  -- The three situations that are filled in are the samples of the spline.
  rcases fillSituationsArray_spec hfill with ⟨hmiddle, holdest, hlatest⟩
  have hle := middleSituation_le h.last
  have h01 : (recalculated env ip).m_interpolant.m_pa.t.s0
      < (recalculated env ip).m_interpolant.m_pa.t.s1 := by
    change ((_ : ℤ) : ℚ) < ((getAdjustedMSecsSinceEpoch (fillSituationsArray ip).1.s1 : ℤ) : ℚ)
    rw [hmiddle]
    exact_mod_cast holdest
  have h12 : (recalculated env ip).m_interpolant.m_pa.t.s1
      < (recalculated env ip).m_interpolant.m_pa.t.s2 := by
    change ((getAdjustedMSecsSinceEpoch (fillSituationsArray ip).1.s1 : ℤ) : ℚ) < ((_ : ℤ) : ℚ)
    rw [hmiddle]
    exact_mod_cast hle.trans_lt hlatest
  -- The ground does not change the times of the samples.
  have hprev : (recalculated env ip).m_prevSampleAdjustedTime
      = getAdjustedMSecsSinceEpoch (middleSituation ip) := by
    rw [← hmiddle]
    exact CInterpolatorLinear.getAdjustedMSecsSinceEpoch_adjustGround env _
  have hnext : (recalculated env ip).m_nextSampleAdjustedTime
      = getAdjustedMSecsSinceEpoch (fillSituationsArray ip).1.s2 :=
    CInterpolatorLinear.getAdjustedMSecsSinceEpoch_adjustGround env _
  constructor
  case oldest => exact h01
  case middle =>
    rw [hprev, ← hmiddle]
    rfl
  case latest =>
    rw [hnext]
    rfl
  case ordered =>
    rw [hprev, hnext]
    exact hle.trans_lt hlatest
  case notAhead =>
    rw [hprev]
    exact hle
  case adjusted =>
    rw [hprev, ← getTimeOffsetMs_middleSituation, ← hmiddle]
    change getMSecsSinceEpoch (CInterpolatorLinear.adjustGround env _) + _ = _
    rw [CInterpolatorLinear.getMSecsSinceEpoch_adjustGround]
    rfl
  case derivatives =>
    exact ⟨isSome_derivatives h01 h12 _, isSome_derivatives h01 h12 _,
      isSome_derivatives h01 h12 _, isSome_derivatives h01 h12 _, isSome_derivatives h01 h12 _⟩

/-- A call leaves samples around the current time, or no valid interpolant. -/
theorem nextDerived_spec (h : Ahead ip) (hnow : 0 < ip.m_currentTimeMsSinceEpoch)
    (hsituations : ip.m_currentSituations ≠ []) :
    (nextDerived env ip).m_situationsLastModifiedUsed = ip.m_situationsLastModified ∧
      ((nextDerived env ip).m_interpolant.m_isValid = true →
        Sampled (nextDerived env ip) ip.m_currentTimeMsSinceEpoch
            (getTimeOffsetMs ip.baseSituation) ∧
          ip.m_currentTimeMsSinceEpoch < (nextDerived env ip).m_nextSampleAdjustedTime ∧
          (nextDerived env ip).m_interpolant.m_interpolatedTime
            + getTimeOffsetMs ip.baseSituation = ip.m_currentTimeMsSinceEpoch) ∧
      (hasSamples ip = true → (nextDerived env ip).m_prevSampleAdjustedTime
        < (nextDerived env ip).m_nextSampleAdjustedTime) ∧
      ((nextDerived env ip).m_prevSampleAdjustedTime
          < (nextDerived env ip).m_nextSampleAdjustedTime ∨
        (nextDerived env ip).m_nextSampleAdjustedTime ≤ 0) := by
  unfold nextDerived hasSamples
  cases hre : recalculate ip with
  | true =>
    cases hfill : (fillSituationsArray ip).2 with
    | false =>
      refine ⟨rfl, fun hvalid => ?_, fun hsamples => ?_, h.ordered⟩
      · cases hvalid
      · cases hsamples
    | true =>
      have hsampled := sampled_recalculated env h hfill
      have hnext : ip.m_currentTimeMsSinceEpoch
          < (recalculated env ip).m_nextSampleAdjustedTime := by
        change _ < getAdjustedMSecsSinceEpoch (CInterpolatorLinear.adjustGround env _)
        rw [CInterpolatorLinear.getAdjustedMSecsSinceEpoch_adjustGround]
        exact (fillSituationsArray_spec hfill).2.2
      exact ⟨rfl, fun _ => ⟨hsampled.atTime, hnext, interpolatedTime_atTime hsampled hnext⟩,
        fun _ => hsampled.ordered, Or.inl hsampled.ordered⟩
  | false =>
    unfold recalculate at hre
    rw [Bool.or_eq_false_iff, decide_eq_false_iff_not, decide_eq_false_iff_not, not_le,
      not_lt] at hre
    -- the newest sample is ahead, so there have been samples
    have hordered : ip.derived.m_prevSampleAdjustedTime < ip.derived.m_nextSampleAdjustedTime := by
      have hor := h.ordered
      omega
    refine ⟨le_antisymm h.used hre.2, fun hvalid => ?_, fun _ => hordered, Or.inl hordered⟩
    have hkept := h.kept hsituations hre.2 hvalid
    exact ⟨hkept.atTime, hre.1, interpolatedTime_atTime hkept hre.1⟩

theorem windowInOrder (h : Ahead ip) (hnow : 0 < ip.m_currentTimeMsSinceEpoch)
    (hsituations : ip.m_currentSituations ≠ []) : WindowInOrder env ip := by
  rcases nextDerived_spec env h hnow hsituations with ⟨-, hvalid, horder, -⟩
  constructor
  -- With a valid interpolant the current time is in the middle of the samples.
  case samples =>
    intro hv
    rcases hvalid hv with ⟨hsampled, hnext, -⟩
    have hmiddle := hsampled.middle
    have hlatest := hsampled.latest
    refine ⟨hsampled.oldest, ?_, ?_, ?_⟩
    · change (nextDerived env ip).m_interpolant.m_pa.t.s1
        < (nextDerived env ip).m_interpolant.m_pa.t.s2
      rw [hmiddle, hlatest]
      exact_mod_cast hsampled.ordered
    · change (nextDerived env ip).m_interpolant.m_pa.t.s1 ≤ _
      rw [hmiddle]
      exact_mod_cast hsampled.notAhead
    · change _ < (nextDerived env ip).m_interpolant.m_pa.t.s2
      rw [hlatest]
      exact_mod_cast hnext
  case derivatives => exact fun hv => (hvalid hv).1.derivatives
  case fraction =>
    intro hv
    rcases hvalid hv with ⟨hsampled, hnext, -⟩
    rcases timeFraction_spec hsampled hnext with ⟨f, hf, h0, h1, -⟩
    exact ⟨f, hf, h0, h1⟩
  case timeOrder => exact horder

/-- What is interpolated is at the current time, with the offset it was made with. -/
theorem adjusted_interpolated (h : Ahead ip) (hnow : 0 < ip.m_currentTimeMsSinceEpoch)
    (hsituations : ip.m_currentSituations ≠ []) {s : CAircraftSituation}
    (hs : interpolate env ip (getInterpolant env ip).2 = .interpolated s) :
    getAdjustedMSecsSinceEpoch s = ip.m_currentTimeMsSinceEpoch ∧
      getTimeOffsetMs s = getTimeOffsetMs ip.baseSituation ∧ s.isNull = false := by
  rcases nextDerived_spec env h hnow hsituations with ⟨-, hvalid, -, -⟩
  rcases interpolate_spec hs with ⟨htime, hoffset, hnull⟩
  rcases hvalid (valid_of_interpolate hs) with ⟨-, -, hadjusted⟩
  refine ⟨?_, hoffset, hnull⟩
  change s.m_timestampMSecsSinceEpoch + s.m_timeOffsetMs = _
  rw [htime, hoffset]
  exact hadjusted

theorem ahead_getInterpolatedSituation (h : Ahead ip) (hnow : 0 < ip.m_currentTimeMsSinceEpoch)
    (hsituations : ip.m_currentSituations ≠ []) :
    Ahead (getInterpolatedSituation getInterpolant env ip).1 := by
  rcases nextDerived_spec env h hnow hsituations with ⟨hused, hvalid, -, hordered⟩
  -- the last situation is at the current time, or what it was; its offset is what it was
  have hlast : getAdjustedMSecsSinceEpoch
        (getInterpolatedSituation getInterpolant env ip).1.m_lastSituation
          ≤ ip.m_currentTimeMsSinceEpoch ∧
      getTimeOffsetMs (getInterpolatedSituation getInterpolant env ip).1.baseSituation
        = getTimeOffsetMs ip.baseSituation := by
    rw [getInterpolatedSituation_spec]
    rcases lastSituation_getInterpolatedSituation getInterpolant ip env with
      ⟨s, hs, heq, -⟩ | ⟨heq, -⟩
    · rcases adjusted_interpolated env h hnow hsituations hs with ⟨hadjusted, hoffset, hnull⟩
      rw [heq]
      refine ⟨hadjusted.le, ?_⟩
      unfold CInterpolator.baseSituation
      rw [if_neg (by rw [hnull]; exact Bool.false_ne_true)]
      exact hoffset
    · rw [heq]
      exact ⟨h.last, rfl⟩
  rw [getInterpolatedSituation_spec] at hlast ⊢
  constructor
  case used => exact hused.le
  case ordered => exact hordered
  case last => exact hlast.1
  case kept =>
    intro _ _ hv
    rw [hlast.2]
    exact (hvalid hv).1

end Step

/-- What a call is to do. What it interpolates is not ahead of its own time, and so not of
    that of the next call. -/
def CallInOrder (ip : CInterpolator CInterpolatorSpline) (call : InterpolationCall) : Prop :=
  ((ip.initIniterpolationStepData call).m_currentSituations ≠ [] →
      WindowInOrder call.environment (ip.initIniterpolationStepData call)) ∧
    getAdjustedMSecsSinceEpoch (spline.step ip call).1.m_lastSituation
      ≤ call.currentTimeSinceEpoch

theorem callInOrder_step {ip : CInterpolator CInterpolatorSpline} {call : InterpolationCall}
    (h : Ahead ip) (htime : InTime ip call) :
    CallInOrder ip call ∧ Ahead (spline.step ip call).1 := by
  have hready := ahead_init h htime
  have hnow : 0 < (ip.initIniterpolationStepData call).m_currentTimeMsSinceEpoch := htime.2
  have hnext : Ahead (spline.step ip call).1 := by
    unfold spline
    by_cases hempty : (ip.initIniterpolationStepData call).m_currentSituations = []
    · rw [step_of_empty getInterpolant ip call hempty]
      exact hready
    · rw [step_of_situations getInterpolant ip call hempty]
      exact ahead_getInterpolatedSituation call.environment hready hnow hempty
  refine ⟨⟨fun hsituations => windowInOrder call.environment hready hnow hsituations, ?_⟩, hnext⟩
  have hlast := hnext.last
  rw [spline, currentTime_step] at hlast
  exact hlast

/-- In calls at times that do not go back, whatever situations there are, the samples of a
    valid interpolant are in order around the current time, nothing is divided by zero, and
    the last situation is never ahead. -/
theorem spline_window_in_order (calls : List InterpolationCall) (htimed : Timed (-1) calls) :
    spline.AllSteps CallInOrder create calls := by
  suffices hall : ∀ ip : CInterpolator CInterpolatorSpline, Ahead ip →
      Timed ip.m_currentTimeMsSinceEpoch calls → spline.AllSteps CallInOrder ip calls from
    hall create ahead_create htimed
  clear htimed
  induction calls with
  | nil => exact fun ip _ _ => trivial
  | cons call calls ih =>
    intro ip h htimed
    rcases callInOrder_step h ⟨htimed.1, htimed.2.1⟩ with ⟨hcall, hnext⟩
    refine ⟨hcall, ih _ hnext ?_⟩
    rw [spline, currentTime_step]
    exact htimed.2.2

/-- Two calls while there are situations around the current time. -/
def pairCalls : List InterpolationCall :=
  [CInterpolatorLinear.pairCall,
    { CInterpolatorLinear.pairCall with currentTimeSinceEpoch := 8100 }]

/-- The interpolant of the first of them is valid. -/
theorem spline_window_in_order_sample :
    spline.AllSteps CallInOrder create pairCalls ∧ (getInterpolant CInterpolatorLinear.unknownGround
        (create.initIniterpolationStepData CInterpolatorLinear.pairCall)).2.valid = true :=
  ⟨spline_window_in_order pairCalls ⟨by decide, by decide, by decide, by decide, trivial⟩,
    by decide +kernel⟩

end CInterpolatorSpline

end Simulation

end NeoSwift.Misc
