import Mathlib.Logic.Relation
import NeoSwift.Misc.Simulation.Interpolation.InterpolatorLinear

/-!
# Interpolated Times

The time of what the linear interpolator returns. Situations arrive in order: each is at
least as late as those before it, by its timestamp and with its offset. The fraction of a
pair is calculated from the adjusted times, but it is applied to the timestamps. So the
time of an interpolated situation is the current time less the offset of the start, and
where the end has the larger offset it can be past the timestamp of the end. When the
next pair starts at that end, the time goes back.

As long as the time stays between the timestamps of each pair, it does not go back. A
pair that is found later starts at the end of the earlier one or after it, or it is the
same one.

## Main definitions

* `Arrives`, `Stream`: Situations in order, and calls while they arrive.
* `Passed`: The pairs that are found after one.
* `timeAt`: The time between two situations.
* `NeverBackwards`: What the results of a run are to be.
* `StaysBetween`: The calls that keep to that.

## Theorems

* `arrives_push`: The list of the provider grows like this.
* `passed_samples`: A pair is one of those that are found after it.
* `le_timeAt`: The time of a later pair is not earlier.
* `never_backwards_iff`: When time does not go back.
* `time_runs_backwards`: A run where it does.
-/

namespace NeoSwift.Misc

namespace Simulation

open Aviation Pq

/-- A situation that is not earlier than those in the list, by either time, is put in
    front of them. It takes the place of one with its timestamp, and the list may lose
    some at its end. -/
inductive Arrives : List CAircraftSituation → List CAircraftSituation → Prop
  | first (l : List CAircraftSituation) (hne : l ≠ [])
      (hmsecs : LatestFirst getMSecsSinceEpoch l)
      (hadjusted : LatestFirst getAdjustedMSecsSinceEpoch l) : Arrives [] l
  | front (value x : CAircraftSituation) (l rest : List CAircraftSituation)
      (hinitial : rest <+: x :: l) (hmsecs : getMSecsSinceEpoch x ≤ getMSecsSinceEpoch value)
      (hadjusted : getAdjustedMSecsSinceEpoch x ≤ getAdjustedMSecsSinceEpoch value) :
      Arrives (x :: l) (value :: rest)
  | replace (value x : CAircraftSituation) (l rest : List CAircraftSituation)
      (hinitial : rest <+: l) (hmsecs : getMSecsSinceEpoch x = getMSecsSinceEpoch value)
      (hadjusted : getAdjustedMSecsSinceEpoch x ≤ getAdjustedMSecsSinceEpoch value) :
      Arrives (x :: l) (value :: rest)

/-- Calls while situations arrive, from a list on. -/
def Stream : List CAircraftSituation → List InterpolationCall → Prop
  | _, [] => True
  | l, call :: calls =>
      Relation.ReflTransGen Arrives l call.situations ∧ Stream call.situations calls

/-- Both orders of a list. -/
def InOrder (l : List CAircraftSituation) : Prop :=
  LatestFirst getMSecsSinceEpoch l ∧ LatestFirst getAdjustedMSecsSinceEpoch l

theorem inOrder_cons {value x : CAircraftSituation} {l rest : List CAircraftSituation}
    (h : InOrder (x :: l)) (hsublist : rest.Sublist (x :: l))
    (hmsecs : getMSecsSinceEpoch x ≤ getMSecsSinceEpoch value)
    (hadjusted : getAdjustedMSecsSinceEpoch x ≤ getAdjustedMSecsSinceEpoch value) :
    InOrder (value :: rest) := by
  constructor
  · refine List.pairwise_cons.mpr ⟨fun y hy => ?_, h.1.sublist hsublist⟩
    exact le_trans (h.1.le_head (hsublist.subset hy)) hmsecs
  · refine List.pairwise_cons.mpr ⟨fun y hy => ?_, h.2.sublist hsublist⟩
    exact le_trans (h.2.le_head (hsublist.subset hy)) hadjusted

theorem inOrder_arrives {l l' : List CAircraftSituation} (harrives : Arrives l l')
    (h : InOrder l) : InOrder l' := by
  cases harrives with
  | first l hne hmsecs hadjusted => exact ⟨hmsecs, hadjusted⟩
  | front value x l rest hinitial hmsecs hadjusted =>
      exact inOrder_cons h hinitial.sublist hmsecs hadjusted
  | replace value x l rest hinitial hmsecs hadjusted =>
      exact inOrder_cons h (hinitial.sublist.trans (List.sublist_cons_self x l)) (le_of_eq hmsecs)
        hadjusted

theorem inOrder_stream {l l' : List CAircraftSituation}
    (hstream : Relation.ReflTransGen Arrives l l') (h : InOrder l) : InOrder l' := by
  induction hstream with
  | refl => exact h
  | tail _ harrives ih => exact inOrder_arrives harrives ih

/-- The adjustment of the front object does not take it back. -/
theorem adjustFront_cons (value : CAircraftSituation) (rest : List CAircraftSituation) :
    ∃ value', adjustFront (value :: rest) = value' :: rest ∧
      getMSecsSinceEpoch value' = getMSecsSinceEpoch value ∧
      getAdjustedMSecsSinceEpoch value ≤ getAdjustedMSecsSinceEpoch value' := by
  cases rest with
  | nil => exact ⟨value, rfl, rfl, le_refl _⟩
  | cons second rest =>
      unfold adjustFront
      by_cases hnewer : isNewerThanAdjusted value second
      · exact ⟨value, if_pos hnewer, rfl, le_refl _⟩
      · refine ⟨_, if_neg hnewer, TimestampWithOffsetBased.getMSecsSinceEpoch_set _ _, ?_⟩
        exact le_trans (not_lt.mp hnewer) (le_of_lt (isNewerThanAdjusted_set value second))

theorem kept_isInitial (call : Push CAircraftSituation) (c : List CAircraftSituation) :
    call.kept c <+: if call.replaces c then c.tail else c := by
  unfold Push.kept
  dsimp only
  split
  · exact List.take_prefix _ _
  · exact List.prefix_refl _

/-- The list of the provider grows like this when a situation is not earlier than its
    front one, whether it is replaced or not. -/
theorem arrives_push (S : Sorter CAircraftSituation) (call : Push CAircraftSituation)
    {x : CAircraftSituation} {l : List CAircraftSituation}
    (hmsecs : getMSecsSinceEpoch x ≤ getMSecsSinceEpoch call.value)
    (hadjusted : getAdjustedMSecsSinceEpoch x ≤ getAdjustedMSecsSinceEpoch call.value) :
    Arrives (x :: l) (pushFrontKeepLatestFirstAdjustOffset S call (x :: l)) := by
  rcases adjustFront_cons call.value (call.kept (x :: l)) with ⟨value, hvalue, hsame, hle⟩
  have hkept := kept_isInitial call (x :: l)
  unfold pushFrontKeepLatestFirstAdjustOffset
  -- The front situation is replaced if it has the same timestamp, and otherwise kept.
  cases hreplaces : call.replaces (x :: l) with
  | true =>
      rw [pushFrontKeepLatestFirst_of_replaces S call _ hreplaces, hvalue]
      rw [if_pos hreplaces] at hkept
      unfold Push.replaces at hreplaces
      rw [Bool.and_eq_true, List.head?_cons, Option.any_some, decide_eq_true_eq] at hreplaces
      exact Arrives.replace value x l _ hkept (hreplaces.2.trans hsame.symm)
        (le_trans hadjusted hle)
  | false =>
      have hhead : (call.kept (x :: l)).head?.any (fun front => isOlderThan call.value front)
          = false := by
        rw [call.head_kept (x :: l) hreplaces, List.head?_cons, Option.any_some]
        exact decide_eq_false (not_lt.mpr hmsecs)
      rw [pushFrontKeepLatestFirst_of_not_replaces S call _ hreplaces, hhead,
        if_neg Bool.false_ne_true, hvalue]
      rw [if_neg (by rw [hreplaces]; exact Bool.false_ne_true)] at hkept
      exact Arrives.front value x l _ hkept (le_trans hmsecs (le_of_eq hsame.symm))
        (le_trans hadjusted hle)

/-- The lists in which the pair of `s` and `e` is passed: what is in front of the pair is
    not earlier than `e`, and the pair is still there, maybe with another one in the place
    of `e`, or cut off. -/
inductive Passed (s e : CAircraftSituation) : List CAircraftSituation → Prop
  | last (x : CAircraftSituation) (hlate : getMSecsSinceEpoch e ≤ getMSecsSinceEpoch x) :
      Passed s e [x]
  | pair (x y : CAircraftSituation) (l : List CAircraftSituation)
      (hlate : getMSecsSinceEpoch e ≤ getMSecsSinceEpoch x)
      (hadjusted : getAdjustedMSecsSinceEpoch e ≤ getAdjustedMSecsSinceEpoch x)
      (hmsecs : getMSecsSinceEpoch y = getMSecsSinceEpoch s)
      (hoffset : getTimeOffsetMs y = getTimeOffsetMs s) : Passed s e (x :: y :: l)
  | later (x y : CAircraftSituation) (l : List CAircraftSituation)
      (hlate : getMSecsSinceEpoch e ≤ getMSecsSinceEpoch x) (hrest : Passed s e (y :: l)) :
      Passed s e (x :: y :: l)

section Passed

variable {s e : CAircraftSituation}

theorem Passed.le_head {x : CAircraftSituation} {l : List CAircraftSituation}
    (h : Passed s e (x :: l)) : getMSecsSinceEpoch e ≤ getMSecsSinceEpoch x := by
  cases h with
  | last _ hlate => exact hlate
  | pair _ y l hlate => exact hlate
  | later _ y l hlate => exact hlate

/-- One in front of a list where the pair is passed. -/
theorem Passed.cons {value : CAircraftSituation} {rest : List CAircraftSituation}
    (hlate : getMSecsSinceEpoch e ≤ getMSecsSinceEpoch value)
    (hrest : rest ≠ [] → Passed s e rest) : Passed s e (value :: rest) := by
  cases rest with
  | nil => exact Passed.last value hlate
  | cons y l => exact Passed.later value y l hlate (hrest (List.cons_ne_nil y l))

theorem Passed.of_initial {l rest : List CAircraftSituation} (h : Passed s e l)
    (hinitial : rest <+: l) (hne : rest ≠ []) : Passed s e rest := by
  induction h generalizing rest with
  | last x hlate =>
      rcases List.prefix_cons_iff.mp hinitial with rfl | ⟨t, rfl, ht⟩
      · exact absurd rfl hne
      · exact Passed.cons hlate fun hne => absurd (List.prefix_nil.mp ht) hne
  | pair x y l hlate hadjusted hmsecs hoffset =>
      rcases List.prefix_cons_iff.mp hinitial with rfl | ⟨t, rfl, ht⟩
      · exact absurd rfl hne
      · rcases List.prefix_cons_iff.mp ht with rfl | ⟨t, rfl, ht⟩
        · exact Passed.last x hlate
        · exact Passed.pair x y t hlate hadjusted hmsecs hoffset
  | later x y l hlate hrest ih =>
      rcases List.prefix_cons_iff.mp hinitial with rfl | ⟨t, rfl, ht⟩
      · exact absurd rfl hne
      · exact Passed.cons hlate fun hne => ih ht hne

/-- A pair that is passed stays so. -/
theorem Passed.arrives {l l' : List CAircraftSituation} (h : Passed s e l)
    (harrives : Arrives l l') : Passed s e l' := by
  cases harrives with
  | first l => cases h
  | front value x l rest hinitial hmsecs hadjusted =>
      exact Passed.cons (le_trans h.le_head hmsecs) (h.of_initial hinitial)
  | replace value x l rest hinitial hmsecs hadjusted =>
      have hlate := le_trans h.le_head (le_of_eq hmsecs)
      cases h with
      | last =>
          exact Passed.cons hlate fun hne => absurd (List.prefix_nil.mp hinitial) hne
      | pair _ y l _ hend hstart hoffset =>
          -- the pair has another end, which is not earlier
          rcases List.prefix_cons_iff.mp hinitial with rfl | ⟨t, rfl, _⟩
          · exact Passed.last value hlate
          · exact Passed.pair value y t hlate (le_trans hend hadjusted) hstart hoffset
      | later _ y l _ hrest =>
          exact Passed.cons hlate fun hne => hrest.of_initial hinitial hne

theorem Passed.stream {l l' : List CAircraftSituation} (h : Passed s e l)
    (hstream : Relation.ReflTransGen Arrives l l') : Passed s e l' := by
  induction hstream with
  | refl => exact h
  | tail _ harrives ih => exact ih.arrives harrives

end Passed

/-- A pair that is found is passed in its list. -/
theorem passed_samples {now : ℤ} {l : List CAircraftSituation} {s e : CAircraftSituation}
    (horder : InOrder l) (h : samples now l = .between s e) : Passed s e l := by
  induction l with
  | nil => exact absurd h (by simp [samples])
  | cons x l ih =>
      cases l with
      | nil =>
          rw [samples_singleton] at h
          cases h
      | cons y l =>
          rw [samples_cons_cons] at h
          split at h
          · have hrest := ih ⟨horder.1.tail, horder.2.tail⟩ h
            have hle : getMSecsSinceEpoch y ≤ getMSecsSinceEpoch x :=
              horder.1.le_head (List.mem_cons_of_mem x List.mem_cons_self)
            exact Passed.later x y l (le_trans hrest.le_head hle) hrest
          · rw [Samples.between.injEq] at h
            rcases h with ⟨rfl, rfl⟩
            exact Passed.pair x y l (le_refl _) (le_refl _) rfl rfl

/-- The time between two situations, which is not stopped by the timestamp of the end. -/
def timeAt (s e : CAircraftSituation) (now : ℤ) : ℤ :=
  min now (getAdjustedMSecsSinceEpoch e) - getTimeOffsetMs s

theorem timeAt_mono {s e : CAircraftSituation} {now now' : ℤ} (h : now ≤ now') :
    timeAt s e now ≤ timeAt s e now' := by
  unfold timeAt
  omega

/-- A pair that is found once another one is passed has a later start, or is that one. -/
theorem le_timeAt {s e s' e' : CAircraftSituation} {now t : ℤ} {l : List CAircraftSituation}
    (horder : LatestFirst getAdjustedMSecsSinceEpoch l) (hpassed : Passed s e l)
    (hstart : getAdjustedMSecsSinceEpoch s ≤ now) (htime : t ≤ timeAt s e now)
    (hend : t ≤ getMSecsSinceEpoch e) (h : samples now l = .between s' e') :
    t ≤ timeAt s' e' now := by
  -- It is enough that the new pair starts where the old one ends.
  have hlater (hmsecs : getMSecsSinceEpoch e ≤ getMSecsSinceEpoch s') : t ≤ timeAt s' e' now := by
    have hle := le_of_samples horder h
    unfold timeAt getAdjustedMSecsSinceEpoch at *
    omega
  -- The old pair is found again, or a later one is found first.
  induction hpassed with
  | last x hlate =>
      rw [samples_singleton] at h
      cases h
  | pair x y l hlate hadjusted hmsecs hoffset =>
      have hy : getAdjustedMSecsSinceEpoch y = getAdjustedMSecsSinceEpoch s := by
        unfold getAdjustedMSecsSinceEpoch
        rw [hmsecs, hoffset]
      rw [samples_cons_cons, if_neg (by omega)] at h
      rcases h with ⟨rfl, rfl⟩
      unfold timeAt at *
      omega
  | later x y l hlate hrest ih =>
      rw [samples_cons_cons] at h
      split at h
      · exact ih horder.tail h
      · rcases h with ⟨rfl, rfl⟩
        exact hlater hrest.le_head

namespace CInterpolatorLinear

section Pair

variable {s e : CAircraftSituation} {now : ℤ}

theorem toInt_iff {n k : ℤ} (hn : 0 ≤ n) : (0 ≤ toInt n ∧ toInt n ≤ k) ↔ n < 2 ^ 31 ∧ n ≤ k := by
  unfold toInt
  split <;> omega

/-- The fraction of the interval is the current time, or the adjusted time of the end. -/
theorem delta_mul_fraction {f : ℚ} (hle : getAdjustedMSecsSinceEpoch s ≤
    getAdjustedMSecsSinceEpoch e)
    (hnow : getAdjustedMSecsSinceEpoch s ≤ now) (hf : timeFraction now s e = some f) :
    ((getAdjustedMSecsSinceEpoch e - getAdjustedMSecsSinceEpoch s : ℤ) : ℚ) * f
      = ((min now (getAdjustedMSecsSinceEpoch e) - getAdjustedMSecsSinceEpoch s : ℤ) : ℚ) := by
  unfold timeFraction at hf
  generalize getAdjustedMSecsSinceEpoch e = b at *
  generalize getAdjustedMSecsSinceEpoch s = a at *
  by_cases hzero : b - a = 0
  · -- an interval of zero leaves no time, whatever the fraction is
    rw [hzero, show min now b - a = 0 by omega, Int.cast_zero, zero_mul]
  · -- In an interval that is not empty the fraction is the part of it that has passed, up to one.
    rw [if_neg hzero, Option.some.injEq] at hf
    have hpos : (0 : ℚ) < ((b - a : ℤ) : ℚ) := by exact_mod_cast (show 0 < b - a by omega)
    have hquot : 1 - ((b - now : ℤ) : ℚ) / ((b - a : ℤ) : ℚ)
        = ((now - a : ℤ) : ℚ) / ((b - a : ℤ) : ℚ) := by
      rw [eq_div_iff (ne_of_gt hpos), sub_mul, div_mul_cancel₀ _ (ne_of_gt hpos)]
      push_cast
      ring
    have hmax : max (((now - a : ℤ) : ℚ) / ((b - a : ℤ) : ℚ)) 0
        = ((now - a : ℤ) : ℚ) / ((b - a : ℤ) : ℚ) :=
      max_eq_left (div_nonneg (by exact_mod_cast (show 0 ≤ now - a by omega)) (le_of_lt hpos))
    rw [hquot, hmax] at hf
    rw [← hf]
    split
    case isTrue hone =>
      rw [le_div_iff₀ hpos, one_mul] at hone
      have hend : b - a ≤ now - a := by exact_mod_cast hone
      rw [mul_one, min_eq_right (by omega)]
    case isFalse hone =>
      rw [le_div_iff₀ hpos, one_mul, not_le] at hone
      have hstart : now - a < b - a := by exact_mod_cast hone
      rw [mul_div_cancel₀ _ (ne_of_gt hpos), min_eq_left (by omega)]

/-- The time of an interpolant is that between its situations, unless it is no `int`. -/
theorem interpolatedTime_eq {f : ℚ} (hle : getAdjustedMSecsSinceEpoch s ≤
    getAdjustedMSecsSinceEpoch e)
    (hnow : getAdjustedMSecsSinceEpoch s ≤ now) (hf : timeFraction now s e = some f) :
    interpolatedTime s e (some f)
      = getMSecsSinceEpoch s
        + toInt (min now (getAdjustedMSecsSinceEpoch e) - getAdjustedMSecsSinceEpoch s) := by
  have hround := delta_mul_fraction hle hnow hf
  simp only [interpolatedTime, Option.map_some, Option.getD_some, hround, qRound_intCast]

/-- The interval so far fits an `int`, and the time less the offset of the start is not
    past the timestamp of the end. -/
def WithinPair (now : ℤ) (s e : CAircraftSituation) : Prop :=
  min now (getAdjustedMSecsSinceEpoch e) - getAdjustedMSecsSinceEpoch s < 2 ^ 31 ∧
    min now (getAdjustedMSecsSinceEpoch e) ≤ getMSecsSinceEpoch e + getTimeOffsetMs s

/-- That is when the time is between the timestamps. -/
theorem between_iff {f : ℚ} (hle : getAdjustedMSecsSinceEpoch s ≤ getAdjustedMSecsSinceEpoch e)
    (hnow : getAdjustedMSecsSinceEpoch s ≤ now) (hf : timeFraction now s e = some f) :
    (getMSecsSinceEpoch s ≤ interpolatedTime s e (some f) ∧
      interpolatedTime s e (some f) ≤ getMSecsSinceEpoch e) ↔ WithinPair now s e := by
  have hint := toInt_iff (n :=
    min now (getAdjustedMSecsSinceEpoch e) - getAdjustedMSecsSinceEpoch s)
    (k := getMSecsSinceEpoch e - getMSecsSinceEpoch s) (by omega)
  rw [interpolatedTime_eq hle hnow hf]
  unfold WithinPair
  unfold getAdjustedMSecsSinceEpoch at *
  constructor
  · intro h
    omega
  · intro h
    omega

theorem interpolatedTime_of_withinPair {f : ℚ}
    (hle : getAdjustedMSecsSinceEpoch s ≤ getAdjustedMSecsSinceEpoch e)
    (hnow : getAdjustedMSecsSinceEpoch s ≤ now) (hf : timeFraction now s e = some f)
    (hwithin : WithinPair now s e) : interpolatedTime s e (some f) = timeAt s e now := by
  rw [interpolatedTime_eq hle hnow hf]
  unfold toInt
  rw [if_pos ⟨by omega, hwithin.1⟩]
  unfold timeAt getAdjustedMSecsSinceEpoch
  omega

end Pair

/-- The times of the situations that a run interpolates. -/
def interpolatedTimes (results : List InterpolationResult) : List ℤ :=
  (results.filter (·.interpolated)).map (fun r => getMSecsSinceEpoch r.situation)

/-- The interpolant a call works with. -/
def usedInterpolant (ip : CInterpolator CInterpolatorLinear) (call : InterpolationCall) :
    CInterpolant :=
  nextInterpolant call.environment (ip.initIniterpolationStepData call)

/-- An interpolated situation has a time between those of the two it is interpolated from. -/
def BetweenTimestamps (ip : CInterpolator CInterpolatorLinear) (call : InterpolationCall) :
    Prop :=
  ∀ r ∈ (linear.step ip call).2, r.interpolated = true →
    getMSecsSinceEpoch (usedInterpolant ip call).m_startSituation ≤ getMSecsSinceEpoch r.situation ∧
      getMSecsSinceEpoch r.situation ≤ getMSecsSinceEpoch (usedInterpolant ip call).m_endSituation

/-- The times of a run do not go back and are between those of the pairs. -/
def NeverBackwards (calls : List InterpolationCall) : Prop :=
  (interpolatedTimes (linear.run create calls).2).Pairwise (· ≤ ·) ∧
    linear.AllSteps BetweenTimestamps create calls

/-- Where a call interpolates, it keeps within its pair. -/
def StaysBetween (ip : CInterpolator CInterpolatorLinear) (call : InterpolationCall) : Prop :=
  (∃ r ∈ (linear.step ip call).2, r.interpolated = true) →
    WithinPair call.currentTimeSinceEpoch (usedInterpolant ip call).m_startSituation
      (usedInterpolant ip call).m_endSituation

/-- A pair that is in order and has begun, that is passed in the situations and that has
    not been before a time. -/
structure PairFound (ip : CInterpolator CInterpolatorLinear) (t : Option ℤ)
    (s e : CAircraftSituation) : Prop where
  le : getAdjustedMSecsSinceEpoch s ≤ getAdjustedMSecsSinceEpoch e
  begun : getAdjustedMSecsSinceEpoch s ≤ ip.m_currentTimeMsSinceEpoch
  passed : Passed s e ip.m_currentSituations
  time : ∀ t0 ∈ t, t0 ≤ timeAt s e ip.m_currentTimeMsSinceEpoch

/-- The state after a time was the last one. That time is the one of a pair that is
    passed, so it is not before any pair that will be found. -/
structure Follows (ip : CInterpolator CInterpolatorLinear) (t : Option ℤ) : Prop where
  used : ip.derived.m_situationsLastModifiedUsed ≤ ip.m_situationsLastModified
  order : InOrder ip.m_currentSituations
  carried : (∃ s, ip.derived.m_interpolant = .ofStart s) ∨
    (ip.m_situationsLastModified ≤ ip.derived.m_situationsLastModifiedUsed →
      PairFound ip t ip.derived.m_interpolant.m_startSituation
        ip.derived.m_interpolant.m_endSituation)
  ahead : ∀ t0 ∈ t, ∃ s e, Passed s e ip.m_currentSituations ∧
    getAdjustedMSecsSinceEpoch s ≤ ip.m_currentTimeMsSinceEpoch ∧
      t0 ≤ timeAt s e ip.m_currentTimeMsSinceEpoch ∧ t0 ≤ getMSecsSinceEpoch e

theorem follows_create : Follows create none where
  used := le_refl _
  order := ⟨List.Pairwise.nil, List.Pairwise.nil⟩
  carried := Or.inl ⟨CAircraftSituation.null, rfl⟩
  ahead := fun t0 ht => absurd ht (by simp)

section Step

variable {ip : CInterpolator CInterpolatorLinear} {call : InterpolationCall} {t : Option ℤ}

/-- A call may bring newer situations, and it brings a time that is not earlier. -/
theorem follows_init (h : Follows ip t) (htime : InTime ip call)
    (hstream : Relation.ReflTransGen Arrives ip.m_currentSituations call.situations) :
    Follows (ip.initIniterpolationStepData call) t := by
  have hused := h.used
  -- Situations that arrive leave every pair that was passed a pair that is passed.
  have hahead (l : List CAircraftSituation)
      (hl : Relation.ReflTransGen Arrives ip.m_currentSituations l) :
        ∀ t0 ∈ t, ∃ s e, Passed s e l ∧
        getAdjustedMSecsSinceEpoch s ≤ call.currentTimeSinceEpoch ∧
          t0 ≤ timeAt s e call.currentTimeSinceEpoch ∧ t0 ≤ getMSecsSinceEpoch e := by
    intro t0 ht
    rcases h.ahead t0 ht with ⟨s, e, hpassed, hbegun, hle, hend⟩
    exact ⟨s, e, hpassed.stream hl, le_trans hbegun htime.1, le_trans hle (timeAt_mono htime.1),
      hend⟩
  unfold CInterpolator.initIniterpolationStepData
  -- What is new is taken over only with a later timestamp.
  by_cases hchanged : ip.m_situationsLastModified < call.lastModified
  · simp only [hchanged]
    constructor
    case used => exact le_of_lt (lt_of_le_of_lt hused hchanged)
    case order => exact inOrder_stream hstream h.order
    case carried =>
      refine h.carried.imp id (fun _ hle => ?_)
      exact absurd (show call.lastModified ≤ ip.derived.m_situationsLastModifiedUsed from hle)
        (by omega)
    case ahead => exact hahead _ hstream
  · simp only [hchanged]
    constructor
    case used => exact hused
    case order => exact h.order
    case carried =>
      refine h.carried.imp id (fun hpair hle => ?_)
      have hfound := hpair hle
      exact ⟨hfound.le, le_trans hfound.begun htime.1, hfound.passed,
        fun t0 ht => le_trans (hfound.time t0 ht) (timeAt_mono htime.1)⟩
    case ahead => exact hahead _ Relation.ReflTransGen.refl

theorem passed_congr {s e s' e' : CAircraftSituation} {l : List CAircraftSituation}
    (h : Passed s e l) (hs : getMSecsSinceEpoch s' = getMSecsSinceEpoch s)
    (hs' : getTimeOffsetMs s' = getTimeOffsetMs s)
    (he : getMSecsSinceEpoch e' = getMSecsSinceEpoch e)
    (he' : getAdjustedMSecsSinceEpoch e' = getAdjustedMSecsSinceEpoch e) : Passed s' e' l := by
  induction h with
  | last x hlate => exact Passed.last x (he ▸ hlate)
  | pair x y l hlate hadjusted hmsecs hoffset =>
      exact Passed.pair x y l (he ▸ hlate) (he' ▸ hadjusted) (hmsecs.trans hs.symm)
        (hoffset.trans hs'.symm)
  | later x y l hlate _ ih => exact Passed.later x y l (he ▸ hlate) ih

/-- A call holds a situation, or its pair is not before the last time. -/
theorem nextInterpolant_cases (h : Follows ip t) (hnow : 0 < ip.m_currentTimeMsSinceEpoch)
    (env : GroundEnvironment) :
    (∃ s, nextInterpolant env ip = .ofStart s) ∨
      ∃ s e, nextInterpolant env ip = interpolantAt ip.m_currentTimeMsSinceEpoch s e ∧
        PairFound ip t s e := by
  -- The pair is kept as long as nothing is new and its end has not come.
  cases hre : recalculates ip with
  | false =>
      right
      have hkept := hre
      unfold recalculates at hkept
      rw [Bool.or_eq_false_iff, decide_eq_false_iff_not, decide_eq_false_iff_not] at hkept
      refine ⟨_, _, nextInterpolant_of_kept env hre, ?_⟩
      rcases h.carried with ⟨s, hs⟩ | hpair
      · rw [hs] at hkept
        exact absurd (lt_trans (show (-1 : ℤ) < 0 by norm_num) hnow) hkept.2
      · exact hpair (not_lt.mp hkept.1)
  | true =>
      cases hsamples : samples ip.m_currentTimeMsSinceEpoch ip.m_currentSituations with
      | hold s => exact Or.inl ⟨s, nextInterpolant_of_hold env hre hsamples⟩
      | between s e =>
          right
          refine ⟨_, _, nextInterpolant_of_between env hre hsamples, ?_⟩
          have hle := le_of_samples h.order.2 hsamples
          constructor
          case le => simpa only [getAdjustedMSecsSinceEpoch_adjustGround] using hle.1
          case begun => simpa only [getAdjustedMSecsSinceEpoch_adjustGround] using hle.2
          case passed =>
            exact passed_congr (passed_samples h.order hsamples)
              (getMSecsSinceEpoch_adjustGround env s) (getTimeOffsetMs_adjustGround env s)
              (getMSecsSinceEpoch_adjustGround env e)
              (getAdjustedMSecsSinceEpoch_adjustGround env e)
          -- The pair that is found now is not before the one of the last time.
          case time =>
            intro t0 ht
            rcases h.ahead t0 ht with ⟨s0, e0, hpassed, hbegun, htime, hend⟩
            have hlater := le_timeAt h.order.2 hpassed hbegun htime hend hsamples
            simpa only [timeAt, getAdjustedMSecsSinceEpoch_adjustGround,
              getTimeOffsetMs_adjustGround] using hlater

/-- What a call interpolates has the time of the interpolant, which is no held one and
    has a fraction. -/
theorem spec_of_interpolated {s : CAircraftSituation} (env : GroundEnvironment)
    (h : interpolate env ip (getInterpolant env ip).2 = .interpolated s) :
    getMSecsSinceEpoch s = (nextInterpolant env ip).m_interpolatedTime ∧
      (¬∃ held, nextInterpolant env ip = .ofStart held) ∧
      ∃ f, (nextInterpolant env ip).m_simulationTimeFraction = some f := by
  refine ⟨(interpolate_spec h).1, ?_, ?_⟩
  · rintro ⟨held, hheld⟩
    have hnull : (getInterpolant env ip).2.altitude.isNull = true := by
      change (nextInterpolant env ip).interpolateAltitude.isNull = true
      rw [hheld]
      exact altitude_hold held
    rw [interpolate_null hnull] at h
    cases h
  · rcases position_of_interpolate h with ⟨v, hv⟩
    change (nextInterpolant env ip).interpolatePosition = some v at hv
    rcases Option.map_eq_some_iff.mp hv with ⟨f, hf, _⟩
    exact ⟨f, hf⟩

/-- A pair and its time after a call, when it was interpolated and when it was not. -/
theorem follows_getInterpolant (h : Follows ip t) (hnow : 0 < ip.m_currentTimeMsSinceEpoch)
    (env : GroundEnvironment) (last : CAircraftSituation) :
    Follows { ip with derived := (getInterpolant env ip).1, m_lastSituation := last } t := by
  constructor
  case used =>
    change (if recalculates ip = true then ip.m_situationsLastModified
      else ip.derived.m_situationsLastModifiedUsed) ≤ ip.m_situationsLastModified
    split
    · exact le_refl _
    · exact h.used
  case order => exact h.order
  case carried =>
    rcases nextInterpolant_cases h hnow env with hhold | ⟨s, e, hnext, hpair⟩
    · exact Or.inl hhold
    · right
      intro _
      change PairFound _ t (nextInterpolant env ip).m_startSituation
        (nextInterpolant env ip).m_endSituation
      rw [hnext]
      exact ⟨hpair.le, hpair.begun, hpair.passed, hpair.time⟩
  case ahead => exact h.ahead

/-- The time of an interpolated situation takes the place of the last one. -/
theorem follows_interpolated {s e : CAircraftSituation} (h : Follows ip t)
    (hcarried : ip.derived.m_interpolant = interpolantAt ip.m_currentTimeMsSinceEpoch s e)
    (hpair : PairFound ip t s e) (hend : timeAt s e ip.m_currentTimeMsSinceEpoch ≤
      getMSecsSinceEpoch e) :
    Follows ip (some (timeAt s e ip.m_currentTimeMsSinceEpoch)) where
  used := h.used
  order := h.order
  carried := by
    right
    intro _
    rw [hcarried]
    refine ⟨hpair.le, hpair.begun, hpair.passed, fun t0 ht => ?_⟩
    rw [← Option.some.inj ht]
    exact le_refl _
  ahead := by
    intro t0 ht
    rw [← Option.some.inj ht]
    exact ⟨s, e, hpair.passed, hpair.begun, le_refl _, hend⟩

theorem usedInterpolant_cases (h : Follows (ip.initIniterpolationStepData call) t)
    (htime : InTime ip call) :
    (∃ s, usedInterpolant ip call = .ofStart s) ∨
      ∃ s e, usedInterpolant ip call = interpolantAt call.currentTimeSinceEpoch s e ∧
        PairFound (ip.initIniterpolationStepData call) t s e :=
  nextInterpolant_cases h htime.2 call.environment

/-- A call that interpolates nothing leaves the last time. -/
theorem step_of_not_interpolated (h : Follows (ip.initIniterpolationStepData call) t)
    (htime : InTime ip call) (hnone : ∀ r ∈ (linear.step ip call).2, r.interpolated = false) :
    interpolatedTimes (linear.step ip call).2 = [] ∧ Follows (linear.step ip call).1 t := by
  constructor
  · unfold interpolatedTimes
    rw [List.filter_eq_nil_iff.mpr (fun r hr => by rw [hnone r hr]; exact Bool.false_ne_true),
      List.map_nil]
  · unfold linear
    by_cases hempty : (ip.initIniterpolationStepData call).m_currentSituations = []
    · rw [step_of_empty getInterpolant ip call hempty]
      exact h
    · rw [step_of_situations getInterpolant ip call hempty, getInterpolatedSituation_spec]
      exact follows_getInterpolant h htime.2 call.environment _

/-- A call that interpolates keeps between the timestamps just where it keeps within its
    pair, and then its time is the last one. -/
theorem step_of_interpolated (h : Follows (ip.initIniterpolationStepData call) t)
    (htime : InTime ip call) {s : CAircraftSituation}
    (hempty : (ip.initIniterpolationStepData call).m_currentSituations ≠ [])
    (hs : interpolate call.environment (ip.initIniterpolationStepData call)
      (getInterpolant call.environment (ip.initIniterpolationStepData call)).2 = .interpolated s)
    (hlast : (getInterpolatedSituation getInterpolant call.environment
      (ip.initIniterpolationStepData call)).2 = ⟨s, true⟩) :
    (BetweenTimestamps ip call ↔ StaysBetween ip call) ∧ (StaysBetween ip call →
        ∃ t', interpolatedTimes (linear.step ip call).2 = [t'] ∧ (∀ t0 ∈ t, t0 ≤ t') ∧
          Follows (linear.step ip call).1 (some t')) := by
  have hstep : linear.step ip call = ((getInterpolatedSituation getInterpolant call.environment
      (ip.initIniterpolationStepData call)).1, [⟨s, true⟩]) := by
    rw [← hlast]
    exact step_of_situations getInterpolant ip call hempty
  rcases spec_of_interpolated call.environment hs with ⟨htimeOf, hheld, f, hf⟩
  -- A pair is held only if nothing was interpolated.
  rcases usedInterpolant_cases h htime with hhold | ⟨start, fin, hused, hpair⟩
  · exact absurd hhold hheld
  · change getMSecsSinceEpoch s = (usedInterpolant ip call).m_interpolatedTime at htimeOf
    change (usedInterpolant ip call).m_simulationTimeFraction = some f at hf
    have hbegun : getAdjustedMSecsSinceEpoch start ≤ call.currentTimeSinceEpoch := hpair.begun
    rw [hused] at htimeOf hf
    change timeFraction call.currentTimeSinceEpoch start fin = some f at hf
    change getMSecsSinceEpoch s
      = interpolatedTime start fin (timeFraction call.currentTimeSinceEpoch start fin) at htimeOf
    rw [hf] at htimeOf
    -- What stays between is the time within the pair.
    have hwithin : StaysBetween ip call ↔ WithinPair call.currentTimeSinceEpoch start fin := by
      unfold StaysBetween
      rw [hused, hstep]
      exact ⟨fun himp => himp ⟨⟨s, true⟩, List.mem_singleton_self _, rfl⟩, fun hpair _ => hpair⟩
    refine ⟨?_, fun hstays => ?_⟩
    · rw [hwithin, ← between_iff hpair.le hbegun hf, ← htimeOf]
      unfold BetweenTimestamps
      rw [hused, hstep]
      constructor
      · intro hall
        exact hall ⟨s, true⟩ (List.mem_singleton_self _) rfl
      · intro hbetween r hr _
        rw [List.mem_singleton.mp hr]
        exact hbetween
    · have hkeeps := hwithin.mp hstays
      have htimeAt := htimeOf.trans
        (interpolatedTime_of_withinPair hpair.le hbegun hf hkeeps)
      refine ⟨timeAt start fin call.currentTimeSinceEpoch, ?_, hpair.time, ?_⟩
      · rw [hstep, ← htimeAt]
        rfl
      · have hend := hkeeps.2
        rw [hstep, getInterpolatedSituation_spec]
        have hnext := follows_getInterpolant h htime.2 call.environment
          (getInterpolatedSituation getInterpolant call.environment
            (ip.initIniterpolationStepData call)).1.m_lastSituation
        refine follows_interpolated hnext hused ⟨hpair.le, hpair.begun, hpair.passed, hpair.time⟩ ?_
        change min call.currentTimeSinceEpoch (getAdjustedMSecsSinceEpoch fin)
          - getTimeOffsetMs start ≤ getMSecsSinceEpoch fin
        omega

/-- The calls of a run, one by one. -/
theorem call_step (h : Follows ip t) (htime : InTime ip call)
    (hstream : Relation.ReflTransGen Arrives ip.m_currentSituations call.situations) :
    (BetweenTimestamps ip call ↔ StaysBetween ip call) ∧ (StaysBetween ip call →
        (interpolatedTimes (linear.step ip call).2 = [] ∧ Follows (linear.step ip call).1 t) ∨
          ∃ t', interpolatedTimes (linear.step ip call).2 = [t'] ∧ (∀ t0 ∈ t, t0 ≤ t') ∧
            Follows (linear.step ip call).1 (some t')) := by
  have hready := follows_init h htime hstream
  -- A call without an interpolated situation leaves the last time as it is.
  have hnone (hno : ∀ r ∈ (linear.step ip call).2, r.interpolated = false) :
      (BetweenTimestamps ip call ↔ StaysBetween ip call) ∧
        (StaysBetween ip call →
          (interpolatedTimes (linear.step ip call).2 = [] ∧ Follows (linear.step ip call).1 t) ∨
            ∃ t', interpolatedTimes (linear.step ip call).2 = [t'] ∧ (∀ t0 ∈ t, t0 ≤ t') ∧
              Follows (linear.step ip call).1 (some t')) := by
    refine ⟨⟨fun _ hr => ?_, fun _ r hr htrue => ?_⟩,
      fun _ => Or.inl (step_of_not_interpolated hready htime hno)⟩
    · rcases hr with ⟨r, hr, htrue⟩
      rw [hno r hr] at htrue
      cases htrue
    · rw [hno r hr] at htrue
      cases htrue
  by_cases hempty : (ip.initIniterpolationStepData call).m_currentSituations = []
  · refine hnone fun r hr => ?_
    rw [linear, step_of_empty getInterpolant ip call hempty] at hr
    cases hr
  · rcases lastSituation_getInterpolatedSituation getInterpolant
        (ip.initIniterpolationStepData call) call.environment with ⟨s, hs, _, hresult⟩ |
          ⟨_, hresult⟩
    · rcases step_of_interpolated hready htime hempty hs hresult with ⟨hiff, hnext⟩
      exact ⟨hiff, fun hstays => Or.inr (hnext hstays)⟩
    · refine hnone fun r hr => ?_
      rw [linear, step_of_situations getInterpolant ip call hempty] at hr
      rw [List.mem_singleton.mp hr]
      exact hresult

/-- The situations a call leaves are those it was given, or earlier ones. -/
theorem stream_step
    (hstream : Relation.ReflTransGen Arrives ip.m_currentSituations call.situations) :
    Relation.ReflTransGen Arrives (linear.step ip call).1.m_currentSituations call.situations := by
  have hready : Relation.ReflTransGen Arrives
      (ip.initIniterpolationStepData call).m_currentSituations call.situations := by
    unfold CInterpolator.initIniterpolationStepData
    dsimp only
    split
    · exact Relation.ReflTransGen.refl
    · exact hstream
  unfold linear
  by_cases hempty : (ip.initIniterpolationStepData call).m_currentSituations = []
  · rw [step_of_empty getInterpolant ip call hempty]
    exact hready
  · rw [step_of_situations getInterpolant ip call hempty, getInterpolatedSituation_spec]
    exact hready

end Step

theorem interpolatedTimes_append (rs rs' : List InterpolationResult) :
    interpolatedTimes (rs ++ rs') = interpolatedTimes rs ++ interpolatedTimes rs' := by
  unfold interpolatedTimes
  rw [List.filter_append, List.map_append]

/-- The run from a state after a time, while situations arrive. -/
theorem run_times (calls : List InterpolationCall) (ip : CInterpolator CInterpolatorLinear)
    (t : Option ℤ) (l : List CAircraftSituation) (h : Follows ip t)
    (htimed : Timed ip.m_currentTimeMsSinceEpoch calls)
    (hl : Relation.ReflTransGen Arrives ip.m_currentSituations l) (hstream : Stream l calls) :
    (linear.AllSteps BetweenTimestamps ip calls ↔ linear.AllSteps StaysBetween ip calls) ∧
      (linear.AllSteps StaysBetween ip calls →
        (t.toList ++ interpolatedTimes (linear.run ip calls).2).Pairwise (· ≤ ·)) := by
  induction calls generalizing ip t l with
  | nil =>
      refine ⟨Iff.rfl, fun _ => ?_⟩
      cases t with
      | none => exact List.Pairwise.nil
      | some t0 => exact List.pairwise_singleton _ _
  | cons call calls ih =>
      have hfirst := hl.trans hstream.1
      rcases call_step h ⟨htimed.1, htimed.2.1⟩ hfirst with ⟨hiff, hnext⟩
      have htimed' : Timed (linear.step ip call).1.m_currentTimeMsSinceEpoch calls := by
        rw [linear, currentTime_step]
        exact htimed.2.2
      have hrun (t' : Option ℤ) (hfollows : Follows (linear.step ip call).1 t') :=
        ih (linear.step ip call).1 t' call.situations hfollows htimed'
          (stream_step hfirst) hstream.2
      -- Each call meets the condition if and only if it keeps between the timestamps.
      constructor
      · constructor
        · intro hall
          have hstays := hiff.mp hall.1
          rcases hnext hstays with ⟨_, hfollows⟩ | ⟨t', _, _, hfollows⟩
          · exact ⟨hstays, (hrun t hfollows).1.mp hall.2⟩
          · exact ⟨hstays, (hrun (some t') hfollows).1.mp hall.2⟩
        · intro hall
          rcases hnext hall.1 with ⟨_, hfollows⟩ | ⟨t', _, _, hfollows⟩
          · exact ⟨hiff.mpr hall.1, (hrun t hfollows).1.mpr hall.2⟩
          · exact ⟨hiff.mpr hall.1, (hrun (some t') hfollows).1.mpr hall.2⟩
      · intro hall
        -- A call that interpolates has a time that is not before the last one.
        rw [Machine.run_cons, interpolatedTimes_append]
        rcases hnext hall.1 with ⟨htimes, hfollows⟩ | ⟨t', htimes, hlast, hfollows⟩
        · rw [htimes]
          exact (hrun t hfollows).2 hall.2
        · rw [htimes]
          have hafter := (hrun (some t') hfollows).2 hall.2
          cases t with
          | none => exact hafter
          | some t0 =>
              have hle : t0 ≤ t' := hlast t0 rfl
              refine List.pairwise_cons.mpr ⟨fun u hu => ?_, hafter⟩
              rcases List.mem_cons.mp hu with rfl | hmem
              · exact hle
              · exact le_trans hle ((List.pairwise_cons.mp hafter).1 u hmem)

/-- In calls at times that do not go back, while situations arrive in order, the times of
    what is interpolated do not go back and are between those of the pairs just where
    every call that interpolates keeps within its pair. -/
theorem never_backwards_iff (calls : List InterpolationCall) (htimed : Timed (-1) calls)
    (hstream : Stream [] calls) :
    NeverBackwards calls ↔ linear.AllSteps StaysBetween create calls := by
  have hrun := run_times calls create none [] follows_create htimed
    Relation.ReflTransGen.refl hstream
  constructor
  · intro h
    exact hrun.1.mp h.2
  · intro h
    exact ⟨hrun.2 h, hrun.1.mpr h⟩

instance (now : ℤ) (s e : CAircraftSituation) : Decidable (WithinPair now s e) :=
  inferInstanceAs (Decidable (_ ∧ _))

/-- Calls at two times, with the same situations. -/
def twoCalls (now now' : ℤ) (situations : List CAircraftSituation) : List InterpolationCall :=
  [sampleCall now 7000 situations, sampleCall now' 7000 situations]

/-- Situations with one offset. -/
def steadySituations : List CAircraftSituation :=
  [sampleSituation 11000 6000 1, sampleSituation 6000 6000 (3 / 4),
    sampleSituation 1000 6000 (1 / 2)]

theorem never_backwards_sample : NeverBackwards (twoCalls 8000 13000 steadySituations) := by
  refine (never_backwards_iff (twoCalls 8000 13000 steadySituations) ?_ ?_).mpr ?_
  · exact ⟨by decide, by decide, by decide, by decide, trivial⟩
  · exact ⟨Relation.ReflTransGen.single (Arrives.first _ (by decide) (by decide) (by decide)),
      Relation.ReflTransGen.refl, trivial⟩
  · exact ⟨fun _ => by decide +kernel, fun _ => by decide +kernel, trivial⟩

/-- A fast position, and two that are expected later. -/
def mixedSituations : List CAircraftSituation :=
  [sampleSituation 7000 6000 1, sampleSituation 2000 6000 (3 / 4),
    sampleSituation 1000 1500 (1 / 2)]

/-- The first pair is left at 6400, and the second one begins at 2020. -/
theorem time_runs_backwards :
    Timed (-1) (twoCalls 7900 8020 mixedSituations) ∧
      Stream [] (twoCalls 7900 8020 mixedSituations) ∧
      interpolatedTimes (linear.run create (twoCalls 7900 8020 mixedSituations)).2 = [6400, 2020] ∧
      ¬NeverBackwards (twoCalls 7900 8020 mixedSituations) := by
  have htimes : interpolatedTimes (linear.run create (twoCalls 7900 8020 mixedSituations)).2
      = [6400, 2020] := by decide +kernel
  refine ⟨⟨by decide, by decide, by decide, by decide, trivial⟩, ?_, htimes, fun h => ?_⟩
  · exact ⟨Relation.ReflTransGen.single (Arrives.first _ (by decide) (by decide) (by decide)),
      Relation.ReflTransGen.refl, trivial⟩
  · have hpairwise := h.1
    rw [htimes] at hpairwise
    exact nomatch hpairwise

end CInterpolatorLinear

end Simulation

end NeoSwift.Misc
