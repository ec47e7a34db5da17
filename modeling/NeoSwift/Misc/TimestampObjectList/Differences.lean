import Mathlib.Algebra.Order.BigOperators.Group.List
import Mathlib.Algebra.Order.Group.Abs
import Mathlib.Data.List.Pairwise
import Mathlib.Tactic.Ring
import NeoSwift.Misc.TimestampObjectList

/-!
# Differences of Timestamps

`getTimestampDifferenceMinMaxMean`: the least and the greatest difference of two
neighbours of a list and their mean. The loop counts the objects, one more than there are
differences, and divides by that count. So the mean comes out too small as soon as the
differences add up to enough.

In a list that is sorted the differences add up to the time from the oldest to the
latest object, so what comes out depends on that time and the length alone.

## Main definitions

* `TimestampObjectList`: A list with its sort hint, which says how it is sorted.
* `timeDifferences`: The differences of neighbours.
* `getTimestampDifferenceMinMaxMean`: What the loop makes of a list.
* `DifferenceStatistics`: What it is to make of it.
* `MeanSurvives`: When the divisor does not matter.

## Theorems

* `foldl_accumulate`: The loop, in terms of the differences.
* `sum_timeDifferences`: The sum of the differences of a sorted list.
* `statistics_perm`: The order of the list does not matter.
* `div_succ_eq_iff`: When dividing by one more gives the same.
* `difference_statistics_iff`: When the mean is the mean.
* `mean_below_minimum`: A list where it is not.
-/

namespace NeoSwift.Misc

/-- `HintTimestampSort`. -/
inductive HintTimestampSort where
  | noTimestampSortHint | timestampLatestFirst | timestampLatestLast
  deriving DecidableEq

/-- `MillisecondsMinMaxMean`. The mean is the quotient of two integers. -/
structure MillisecondsMinMaxMean where
  min : ℤ := -1
  max : ℤ := -1
  mean : ℤ := -1
  deriving DecidableEq, Repr

variable {α : Type*} [TimestampWithOffsetBased α]

/-- How a hint says a list is sorted. -/
def SortedAs (l : List α) : HintTimestampSort → Prop
  | .noTimestampSortHint => True
  | .timestampLatestFirst => LatestFirst getMSecsSinceEpoch l
  | .timestampLatestLast => l.Pairwise (fun a b => getMSecsSinceEpoch a ≤ getMSecsSinceEpoch b)

/-- A list with its sort hint. The differences fit the type of a difference. -/
structure TimestampObjectList (α : Type*) [TimestampWithOffsetBased α] where
  objects : List α
  hint : HintTimestampSort := .noTimestampSortHint
  sorted : SortedAs objects hint
  representable : ∀ a ∈ objects, ∀ b ∈ objects,
    |getMSecsSinceEpoch a - getMSecsSinceEpoch b| < 2 ^ 63

/-- What the loop keeps. -/
structure Accumulated (α : Type*) where
  c : ℤ := 0
  last : Option α := none
  max : ℤ := -2 ^ 63
  min : ℤ := 2 ^ 63 - 1
  mean : ℤ := 0

/-- One round. There is a last object from the second round on. -/
def accumulate (acc : Accumulated α) (object : α) : Accumulated α :=
  match acc.last with
  | none => { acc with c := acc.c + 1, last := some object }
  | some l =>
      let diff := |getMSecsSinceEpoch l - getMSecsSinceEpoch object|
      { c := acc.c + 1
        last := some object
        max := Max.max diff acc.max
        min := Min.min diff acc.min
        mean := acc.mean + diff }

def getTimestampDifferenceMinMaxMean (S : Sorter α) (list : TimestampObjectList α) :
    MillisecondsMinMaxMean :=
  if list.objects.length < 2 then {}
  else
    let objects := if list.hint = .noTimestampSortHint then sortLatestFirst S list.objects
      else list.objects
    let acc := objects.foldl accumulate {}
    { min := acc.min, max := acc.max, mean := Int.tdiv acc.mean acc.c }

/-- The differences of neighbours. -/
def timeDifferences : List ℤ → List ℤ
  | a :: b :: ts => |a - b| :: timeDifferences (b :: ts)
  | _ => []

@[simp] theorem timeDifferences_cons_cons (a b : ℤ) (ts : List ℤ) :
    timeDifferences (a :: b :: ts) = |a - b| :: timeDifferences (b :: ts) := rfl

theorem length_timeDifferences (a : ℤ) (ts : List ℤ) :
    (timeDifferences (a :: ts)).length = ts.length := by
  induction ts generalizing a with
  | nil => rfl
  | cons b ts ih => rw [timeDifferences_cons_cons, List.length_cons, ih, List.length_cons]

theorem timeDifferences_nonneg (ts : List ℤ) : ∀ d ∈ timeDifferences ts, 0 ≤ d := by
  induction ts with
  | nil => exact nofun
  | cons a ts ih =>
      cases ts with
      | nil => exact nofun
      | cons b ts =>
          intro d hd
          rcases List.mem_cons.mp hd with rfl | hmem
          · exact abs_nonneg _
          · exact ih d hmem

/-- A difference is one of two elements. -/
theorem exists_of_mem_timeDifferences {ts : List ℤ} :
    ∀ d ∈ timeDifferences ts, ∃ a ∈ ts, ∃ b ∈ ts, d = |a - b| := by
  induction ts with
  | nil => exact nofun
  | cons a ts ih =>
      cases ts with
      | nil => exact nofun
      | cons b ts =>
          intro d hd
          rcases List.mem_cons.mp hd with rfl | hmem
          · exact ⟨a, List.mem_cons_self, b, List.mem_cons_of_mem _ List.mem_cons_self, rfl⟩
          · rcases ih d hmem with ⟨x, hx, y, hy, hdiff⟩
            exact ⟨x, List.mem_cons_of_mem _ hx, y, List.mem_cons_of_mem _ hy, hdiff⟩

/-- The loop from the second round on. -/
theorem foldl_accumulate (l : List α) (acc : Accumulated α) (a : α) (hlast : acc.last = some a) :
    (l.foldl accumulate acc).c = acc.c + l.length ∧ (l.foldl accumulate acc).max
        = (timeDifferences ((a :: l).map getMSecsSinceEpoch)).foldl Max.max acc.max ∧
      (l.foldl accumulate acc).min
        = (timeDifferences ((a :: l).map getMSecsSinceEpoch)).foldl Min.min acc.min ∧
      (l.foldl accumulate acc).mean
        = acc.mean + (timeDifferences ((a :: l).map getMSecsSinceEpoch)).sum := by
  induction l generalizing acc a with
  | nil =>
      refine ⟨?_, rfl, rfl, ?_⟩
      · rw [List.foldl_nil, List.length_nil, Int.natCast_zero, add_zero]
      · exact (add_zero acc.mean).symm
  | cons b l ih =>
      -- From here on there is a last object, so the round is one of differences.
      have hround : (accumulate acc b).last = some b := by
        unfold accumulate
        rw [hlast]
      rcases ih (accumulate acc b) b hround with ⟨hc, hmax, hmin, hmean⟩
      have hstep : accumulate acc b
          = { c := acc.c + 1
              last := some b
              max := Max.max |getMSecsSinceEpoch a - getMSecsSinceEpoch b| acc.max
              min := Min.min |getMSecsSinceEpoch a - getMSecsSinceEpoch b| acc.min
              mean := acc.mean + |getMSecsSinceEpoch a - getMSecsSinceEpoch b| } := by
        unfold accumulate
        rw [hlast]
      rw [hstep] at hc hmax hmin hmean
      rw [List.foldl_cons, hstep, List.map_cons, List.map_cons, timeDifferences_cons_cons,
        ← List.map_cons, List.foldl_cons, List.foldl_cons, List.sum_cons, List.length_cons]
      refine ⟨?_, ?_, ?_, ?_⟩
      · rw [hc]
        push_cast
        ring
      · rw [hmax, max_comm acc.max]
      · rw [hmin, min_comm acc.min]
      · rw [hmean, add_assoc]

/-- What comes out of a list of timestamps. -/
def statistics (ts : List ℤ) : MillisecondsMinMaxMean :=
  { min := (timeDifferences ts).foldl Min.min (2 ^ 63 - 1)
    max := (timeDifferences ts).foldl Max.max (-2 ^ 63)
    mean := Int.tdiv (timeDifferences ts).sum ts.length }

/-- The whole loop. -/
theorem foldl_accumulate_eq (l : List α) (h : l ≠ []) :
    { min := (l.foldl accumulate {}).min
      max := (l.foldl accumulate {}).max
      mean := Int.tdiv (l.foldl accumulate {}).mean (l.foldl accumulate {}).c }
      = statistics (l.map getMSecsSinceEpoch) := by
  cases l with
  | nil => exact absurd rfl h
  | cons a l =>
      have hfirst : accumulate {} a = { c := 1, last := some a } := rfl
      rcases foldl_accumulate l { c := 1, last := some a } a rfl with ⟨hc, hmax, hmin, hmean⟩
      unfold statistics
      rw [List.foldl_cons, hfirst, hc, hmax, hmin, hmean, zero_add, List.length_map,
        List.length_cons]
      push_cast
      rw [add_comm]

/-! ## The order of the list -/

theorem timeDifferences_append (ts : List ℤ) (b a : ℤ) :
    timeDifferences (ts ++ [b, a]) = timeDifferences (ts ++ [b]) ++ [|b - a|] := by
  induction ts with
  | nil => rfl
  | cons c ts ih =>
      cases ts with
      | nil => rfl
      | cons d ts =>
          rw [List.cons_append, List.cons_append, timeDifferences_cons_cons, ← List.cons_append,
            ih, List.cons_append, List.cons_append, List.cons_append, timeDifferences_cons_cons,
            List.cons_append]

/-- Read backwards the list has the same differences. -/
theorem timeDifferences_reverse (ts : List ℤ) :
    timeDifferences ts.reverse = (timeDifferences ts).reverse := by
  induction ts with
  | nil => rfl
  | cons a ts ih =>
      cases ts with
      | nil => rfl
      | cons b ts =>
          rw [timeDifferences_cons_cons, List.reverse_cons (a := |a - b|), ← ih, List.reverse_cons,
            List.reverse_cons, List.append_assoc, List.singleton_append, timeDifferences_append,
            abs_sub_comm]

theorem statistics_reverse (ts : List ℤ) : statistics ts.reverse = statistics ts := by
  have hperm : (timeDifferences ts.reverse).Perm (timeDifferences ts) := by
    rw [timeDifferences_reverse]
    exact List.reverse_perm _
  unfold statistics
  rw [List.length_reverse, hperm.sum_eq]
  rw [hperm.foldl_eq, hperm.foldl_eq]

/-- Latest first, the timestamps of a list are determined. -/
theorem map_eq_of_perm {l l' : List α} (hl : LatestFirst getMSecsSinceEpoch l)
    (hl' : LatestFirst getMSecsSinceEpoch l')
    (hperm : (l.map getMSecsSinceEpoch).Perm (l'.map getMSecsSinceEpoch)) :
    l.map getMSecsSinceEpoch = l'.map getMSecsSinceEpoch := by
  rw [latestFirst_iff_map] at hl hl'
  exact hperm.eq_of_pairwise (fun a b _ _ hba hab => le_antisymm hab hba) hl hl'

/-- The timestamps, latest first. -/
def sortedTimestamps (S : Sorter α) (l : List α) : List ℤ :=
  (sortLatestFirst S l).map getMSecsSinceEpoch

theorem length_sortedTimestamps (S : Sorter α) (l : List α) :
    (sortedTimestamps S l).length = l.length := by
  rw [sortedTimestamps, List.length_map, (sortLatestFirst_perm S l).length_eq]

theorem sortedTimestamps_of_latestFirst (S : Sorter α) {l : List α}
    (h : LatestFirst getMSecsSinceEpoch l) : sortedTimestamps S l = l.map getMSecsSinceEpoch :=
  map_eq_of_perm (latestFirst_sortLatestFirst S l) h ((sortLatestFirst_perm S l).map _)

/-- Whatever the hint, what comes out is that of the sorted timestamps. -/
theorem getTimestampDifferenceMinMaxMean_eq (S : Sorter α) (list : TimestampObjectList α)
    (h : 2 ≤ list.objects.length) :
    getTimestampDifferenceMinMaxMean S list = statistics (sortedTimestamps S list.objects) := by
  have hnotempty : ∀ l : List α, l.length = list.objects.length → l ≠ [] := by
    intro l hlen hnil
    rw [hnil, List.length_nil] at hlen
    omega
  have hsorted := list.sorted
  unfold getTimestampDifferenceMinMaxMean
  rw [if_neg (by omega)]
  cases hhint : list.hint with
  | noTimestampSortHint =>
      exact foldl_accumulate_eq _ (hnotempty _ (sortLatestFirst_perm S list.objects).length_eq)
  | timestampLatestFirst =>
      rw [hhint] at hsorted
      rw [if_neg (by decide), foldl_accumulate_eq _ (hnotempty _ rfl),
        sortedTimestamps_of_latestFirst S hsorted]
  | timestampLatestLast =>
      rw [hhint] at hsorted
      -- Read backwards the list is sorted latest first.
      have hreverse : LatestFirst getMSecsSinceEpoch list.objects.reverse :=
        List.pairwise_reverse.mpr hsorted
      rw [if_neg (by decide), foldl_accumulate_eq _ (hnotempty _ rfl), ← statistics_reverse,
        ← List.map_reverse, ← sortedTimestamps_of_latestFirst S hreverse]
      refine congrArg statistics (map_eq_of_perm (latestFirst_sortLatestFirst S _)
        (latestFirst_sortLatestFirst S _) (List.Perm.map _ ?_))
      exact (sortLatestFirst_perm S _).trans
        ((List.reverse_perm _).trans (sortLatestFirst_perm S _).symm)

/-- The order of the list does not matter. -/
theorem statistics_perm (S : Sorter α) (list other : TimestampObjectList α)
    (h : 2 ≤ list.objects.length)
    (hsame : sortedTimestamps S other.objects = sortedTimestamps S list.objects) :
    getTimestampDifferenceMinMaxMean S other = getTimestampDifferenceMinMaxMean S list := by
  have hlen : 2 ≤ other.objects.length := by
    rw [← length_sortedTimestamps S, hsame, length_sortedTimestamps]
    exact h
  rw [getTimestampDifferenceMinMaxMean_eq S other hlen,
    getTimestampDifferenceMinMaxMean_eq S list h, hsame]

/-! ## The extremes -/

/-- A fold that chooses the better of two has one in the end that none is better than. -/
theorem foldl_choice {f : ℤ → ℤ → ℤ} {r : ℤ → ℤ → Prop} [IsPreorder ℤ r]
    (hchoice : ∀ a b, f a b = a ∨ f a b = b) (hleft : ∀ a b, r (f a b) a)
    (hright : ∀ a b, r (f a b) b) (ds : List ℤ) (m : ℤ) :
    (ds.foldl f m = m ∨ ds.foldl f m ∈ ds) ∧ r (ds.foldl f m) m ∧ ∀ d ∈ ds, r (ds.foldl f m) d := by
  induction ds generalizing m with
  | nil => exact ⟨Or.inl rfl, refl_of r m, nofun⟩
  | cons d ds ih =>
      rcases ih (f m d) with ⟨hmem, hle, hall⟩
      rw [List.foldl_cons]
      refine ⟨?_, trans_of r hle (hleft m d), ?_⟩
      · rcases hmem with heq | hmem
        · rcases hchoice m d with hm | hd
          · exact Or.inl (heq.trans hm)
          · rw [heq, hd]
            exact Or.inr List.mem_cons_self
        · exact Or.inr (List.mem_cons_of_mem _ hmem)
      · intro e he
        rcases List.mem_cons.mp he with rfl | hrest
        · exact trans_of r hle (hright m e)
        · exact hall e hrest

/-- A sentinel that is not better than any of them does not matter. -/
theorem foldl_choice_mem {f : ℤ → ℤ → ℤ} {r : ℤ → ℤ → Prop} [IsPartialOrder ℤ r]
    (hchoice : ∀ a b, f a b = a ∨ f a b = b) (hleft : ∀ a b, r (f a b) a)
    (hright : ∀ a b, r (f a b) b) {ds : List ℤ} {m : ℤ} (hne : ds ≠ []) (hm : ∀ d ∈ ds, r d m) :
    ds.foldl f m ∈ ds ∧ ∀ d ∈ ds, r (ds.foldl f m) d := by
  rcases foldl_choice hchoice hleft hright ds m with ⟨hsentinel | hmem, -, hall⟩
  · rcases List.exists_mem_of_ne_nil ds hne with ⟨d, hd⟩
    have heq : ds.foldl f m = d := by
      refine antisymm_of r (hall d hd) ?_
      rw [hsentinel]
      exact hm d hd
    exact ⟨heq ▸ hd, hall⟩
  · exact ⟨hmem, hall⟩

theorem foldl_min_mem {ds : List ℤ} (hne : ds ≠ []) (hm : ∀ d ∈ ds, d < 2 ^ 63) :
    ds.foldl Min.min (2 ^ 63 - 1) ∈ ds ∧ ∀ d ∈ ds, ds.foldl Min.min (2 ^ 63 - 1) ≤ d :=
  foldl_choice_mem (r := (· ≤ ·)) min_choice min_le_left min_le_right hne
    fun d hd => Int.le_sub_one_of_lt (hm d hd)

theorem foldl_max_mem {ds : List ℤ} (hne : ds ≠ []) (hm : ∀ d ∈ ds, 0 ≤ d) :
    ds.foldl Max.max (-2 ^ 63) ∈ ds ∧ ∀ d ∈ ds, d ≤ ds.foldl Max.max (-2 ^ 63) :=
  foldl_choice_mem (r := (· ≥ ·)) max_choice le_max_left le_max_right hne
    fun d hd => le_trans (by omega) (hm d hd)

/-! ## The mean -/

/-- In a sorted list the differences add up to the time between its ends. -/
theorem sum_timeDifferences (a : ℤ) (ts : List ℤ) (h : (a :: ts).Pairwise (fun a b => b ≤ a)) :
    (timeDifferences (a :: ts)).sum = a - (a :: ts).getLast (List.cons_ne_nil a ts) := by
  induction ts generalizing a with
  | nil => exact (sub_self a).symm
  | cons b ts ih =>
      have hle : b ≤ a := (List.pairwise_cons.mp h).1 b List.mem_cons_self
      rw [timeDifferences_cons_cons, List.sum_cons, ih b h.of_cons,
        List.getLast_cons (List.cons_ne_nil b ts), abs_of_nonneg (by omega)]
      ring

/-- A sum lies between as many times the least and the greatest of what it adds. -/
theorem sum_between {ds : List ℤ} {lo hi : ℤ} (hlo : ∀ d ∈ ds, lo ≤ d) (hhi : ∀ d ∈ ds, d ≤ hi) :
    lo * ds.length ≤ ds.sum ∧ ds.sum ≤ hi * ds.length := by
  induction ds with
  | nil => exact ⟨le_of_eq (mul_zero lo), le_of_eq (mul_zero hi).symm⟩
  | cons d ds ih =>
      rcases ih (fun e he => hlo e (List.mem_cons_of_mem _ he))
        (fun e he => hhi e (List.mem_cons_of_mem _ he)) with ⟨hge, hle⟩
      have hd := hlo d List.mem_cons_self
      have hd' := hhi d List.mem_cons_self
      rw [List.sum_cons, List.length_cons]
      push_cast
      constructor
      · rw [mul_add]
        omega
      · rw [mul_add]
        omega

/-- Dividing by one more gives the same where the remainder makes up for it. -/
theorem div_succ_eq_iff {s d : ℤ} (hs : 0 ≤ s) (hd : 0 < d) :
    s / (d + 1) = s / d ↔ s / d ≤ s % d := by
  have hsplit : d * (s / d) + s % d = s := Int.mul_ediv_add_emod s d
  have hrem : s % d < d := Int.emod_lt_of_pos s hd
  have hmul : s / d * (d + 1) = d * (s / d) + s / d := by ring
  have hq : 0 ≤ s / d := Int.ediv_nonneg hs (le_of_lt hd)
  rw [Int.ediv_eq_iff_of_pos (by omega)]
  omega

/-- The result has the extreme differences, their mean, and no trace of the order. -/
structure DifferenceStatistics (S : Sorter α) (list : TimestampObjectList α) : Prop where
  min : (getTimestampDifferenceMinMaxMean S list).min
      ∈ timeDifferences (sortedTimestamps S list.objects) ∧
    ∀ d ∈ timeDifferences (sortedTimestamps S list.objects),
      (getTimestampDifferenceMinMaxMean S list).min ≤ d
  max : (getTimestampDifferenceMinMaxMean S list).max
      ∈ timeDifferences (sortedTimestamps S list.objects) ∧
    ∀ d ∈ timeDifferences (sortedTimestamps S list.objects),
      d ≤ (getTimestampDifferenceMinMaxMean S list).max
  /-- The integral quotient, as the code divides two integers and keeps a double. -/
  mean : (getTimestampDifferenceMinMaxMean S list).mean
    = (timeDifferences (sortedTimestamps S list.objects)).sum
      / (timeDifferences (sortedTimestamps S list.objects)).length
  min_le_mean : (getTimestampDifferenceMinMaxMean S list).min
    ≤ (getTimestampDifferenceMinMaxMean S list).mean
  mean_le_max : (getTimestampDifferenceMinMaxMean S list).mean
    ≤ (getTimestampDifferenceMinMaxMean S list).max
  order : ∀ other : TimestampObjectList α,
    sortedTimestamps S other.objects = sortedTimestamps S list.objects →
      getTimestampDifferenceMinMaxMean S other = getTimestampDifferenceMinMaxMean S list

/-- The time between the oldest and the latest object is so short that its remainder by
    the number of differences is at least its quotient. -/
def MeanSurvives (l : List α) : Prop :=
  ∃ latest ∈ l, ∃ oldest ∈ l,
    (∀ x ∈ l, getMSecsSinceEpoch oldest ≤ getMSecsSinceEpoch x ∧
      getMSecsSinceEpoch x ≤ getMSecsSinceEpoch latest) ∧
    (getMSecsSinceEpoch latest - getMSecsSinceEpoch oldest) / ((l.length : ℤ) - 1)
      ≤ (getMSecsSinceEpoch latest - getMSecsSinceEpoch oldest) % ((l.length : ℤ) - 1)

section Statistics

variable (S : Sorter α) (list : TimestampObjectList α)

theorem length_differences (h : 2 ≤ list.objects.length) :
    (timeDifferences (sortedTimestamps S list.objects)).length + 1 = list.objects.length := by
  have hlen := length_sortedTimestamps S list.objects
  cases hts : sortedTimestamps S list.objects with
  | nil =>
      rw [hts, List.length_nil] at hlen
      omega
  | cons a ts => rw [length_timeDifferences, ← hlen, hts, List.length_cons]

/-- The differences of a list are those of its objects. -/
theorem lt_of_mem_differences :
    ∀ d ∈ timeDifferences (sortedTimestamps S list.objects), d < 2 ^ 63 := by
  intro d hd
  rcases exists_of_mem_timeDifferences d hd with ⟨t, ht, t', ht', rfl⟩
  rcases List.mem_map.mp ht with ⟨a, ha, rfl⟩
  rcases List.mem_map.mp ht' with ⟨b, hb, rfl⟩
  exact list.representable a ((sortLatestFirst_perm S _).mem_iff.mp ha) b
    ((sortLatestFirst_perm S _).mem_iff.mp hb)

/-- The ends of the sorted list are its latest and its oldest object. -/
theorem sum_differences {latest oldest : α} (hlatest : latest ∈ list.objects)
    (holdest : oldest ∈ list.objects)
    (hends : ∀ x ∈ list.objects, getMSecsSinceEpoch oldest ≤ getMSecsSinceEpoch x ∧
      getMSecsSinceEpoch x ≤ getMSecsSinceEpoch latest) :
    (timeDifferences (sortedTimestamps S list.objects)).sum
      = getMSecsSinceEpoch latest - getMSecsSinceEpoch oldest := by
  have hmem : ∀ x, x ∈ sortLatestFirst S list.objects ↔ x ∈ list.objects :=
    fun x => (sortLatestFirst_perm S _).mem_iff
  -- Sorted latest first, the differences add up to that of the ends.
  have hsorted := (latestFirst_iff_map _ _).mp (latestFirst_sortLatestFirst S list.objects)
  have hto : ∀ x ∈ list.objects, getMSecsSinceEpoch x ∈ sortedTimestamps S list.objects :=
    fun x hx => List.mem_map_of_mem ((hmem x).mpr hx)
  have hfrom : ∀ t ∈ sortedTimestamps S list.objects,
      getMSecsSinceEpoch oldest ≤ t ∧ t ≤ getMSecsSinceEpoch latest := by
    intro t ht
    rcases List.mem_map.mp ht with ⟨x, hx, rfl⟩
    exact hends x ((hmem x).mp hx)
  change (sortedTimestamps S list.objects).Pairwise _ at hsorted
  cases hts : sortedTimestamps S list.objects with
  | nil => exact absurd (hto latest hlatest) (by rw [hts]; exact List.not_mem_nil)
  | cons a ts =>
      rw [hts] at hsorted hto hfrom
      rw [sum_timeDifferences a ts hsorted]
      have hlast := List.getLast_mem (List.cons_ne_nil a ts)
      -- The first of the sorted timestamps is the latest, and the last one the oldest.
      have ha : a = getMSecsSinceEpoch latest := by
        refine le_antisymm (hfrom a List.mem_cons_self).2 ?_
        rcases List.mem_cons.mp (hto latest hlatest) with heq | hrest
        · exact le_of_eq heq
        · exact (List.pairwise_cons.mp hsorted).1 _ hrest
      have hb : (a :: ts).getLast (List.cons_ne_nil a ts) = getMSecsSinceEpoch oldest := by
        refine le_antisymm ?_ (hfrom _ hlast).1
        exact hsorted.rel_getLast_of_rel_getLast_getLast (hto oldest holdest) (le_refl _)
      rw [hb, ha]

/-- The condition is on the sum of the differences and their number. -/
theorem meanSurvives_iff (h : 2 ≤ list.objects.length) :
    MeanSurvives list.objects ↔ (timeDifferences (sortedTimestamps S list.objects)).sum
          / (timeDifferences (sortedTimestamps S list.objects)).length
        ≤ (timeDifferences (sortedTimestamps S list.objects)).sum
          % (timeDifferences (sortedTimestamps S list.objects)).length := by
  have hlen := length_differences S list h
  -- There is one difference less than there are objects.
  have hcount : (list.objects.length : ℤ) - 1
      = (timeDifferences (sortedTimestamps S list.objects)).length := by omega
  have hsorted := latestFirst_sortLatestFirst S list.objects
  constructor
  · rintro ⟨latest, hlatest, oldest, holdest, hends, hle⟩
    rw [sum_differences S list hlatest holdest hends, ← hcount]
    exact hle
  · intro hle
    have hmem : ∀ x, x ∈ sortLatestFirst S list.objects ↔ x ∈ list.objects :=
      fun x => (sortLatestFirst_perm S _).mem_iff
    have hne : sortLatestFirst S list.objects ≠ [] := by
      intro hnil
      have hperm := (sortLatestFirst_perm S list.objects).length_eq
      rw [hnil, List.length_nil] at hperm
      omega
    -- The ends of the sorted list are the latest and the oldest object.
    have hends : ∀ x ∈ list.objects,
        getMSecsSinceEpoch ((sortLatestFirst S list.objects).getLast hne) ≤ getMSecsSinceEpoch x ∧
          getMSecsSinceEpoch x ≤ getMSecsSinceEpoch
            ((sortLatestFirst S list.objects).head hne) := by
      intro x hx
      refine ⟨hsorted.rel_getLast_of_rel_getLast_getLast ((hmem x).mpr hx) (le_refl _), ?_⟩
      exact hsorted.rel_head_of_rel_head_head ((hmem x).mpr hx) (le_refl _)
    have hlatest := (hmem _).mp (List.head_mem hne)
    have holdest := (hmem _).mp (List.getLast_mem hne)
    refine ⟨_, hlatest, _, holdest, hends, ?_⟩
    rw [hcount, ← sum_differences S list hlatest holdest hends]
    exact hle

/-- The mean is the mean of the differences as long as dividing by one more does not
    matter; all else always holds. -/
theorem difference_statistics_iff (h : 2 ≤ list.objects.length) :
    DifferenceStatistics S list ↔ MeanSurvives list.objects := by
  have hlen := length_differences S list h
  have hlen' := length_sortedTimestamps S list.objects
  have heq := getTimestampDifferenceMinMaxMean_eq S list h
  have hnonneg := timeDifferences_nonneg (sortedTimestamps S list.objects)
  have hne : timeDifferences (sortedTimestamps S list.objects) ≠ [] := by
    intro hnil
    rw [hnil, List.length_nil] at hlen
    omega
  have hsum : 0 ≤ (timeDifferences (sortedTimestamps S list.objects)).sum :=
    List.sum_nonneg hnonneg
  have hpos : (0 : ℤ) < (timeDifferences (sortedTimestamps S list.objects)).length := by omega
  -- The source divides by the number of objects, and not by that of the differences.
  have hmean : (getTimestampDifferenceMinMaxMean S list).mean
      = (timeDifferences (sortedTimestamps S list.objects)).sum
        / ((timeDifferences (sortedTimestamps S list.objects)).length + 1) := by
    have hcount : ((sortedTimestamps S list.objects).length : ℤ)
        = (timeDifferences (sortedTimestamps S list.objects)).length + 1 := by omega
    rw [heq]
    unfold statistics
    rw [Int.tdiv_eq_ediv_of_nonneg hsum, hcount]
  rw [meanSurvives_iff S list h, ← div_succ_eq_iff hsum hpos, ← hmean]
  constructor
  · exact fun hstatistics => hstatistics.mean
  · intro hmean'
    -- The smallest and the largest difference are right in any case.
    have hmin : (getTimestampDifferenceMinMaxMean S list).min
          ∈ timeDifferences (sortedTimestamps S list.objects) ∧
        ∀ d ∈ timeDifferences (sortedTimestamps S list.objects),
          (getTimestampDifferenceMinMaxMean S list).min ≤ d := by
      rw [heq]
      exact foldl_min_mem hne (lt_of_mem_differences S list)
    have hmax : (getTimestampDifferenceMinMaxMean S list).max
          ∈ timeDifferences (sortedTimestamps S list.objects) ∧
        ∀ d ∈ timeDifferences (sortedTimestamps S list.objects),
          d ≤ (getTimestampDifferenceMinMaxMean S list).max := by
      rw [heq]
      exact foldl_max_mem hne hnonneg
    have hbetween := sum_between hmin.2 hmax.2
    refine ⟨hmin, hmax, hmean', ?_, ?_, fun other hsame => statistics_perm S list other h hsame⟩
    · rw [hmean']
      exact (Int.le_ediv_iff_mul_le hpos).mpr hbetween.1
    · rw [hmean']
      exact Int.ediv_le_of_le_mul hpos hbetween.2

end Statistics

/-- Three objects within a millisecond. -/
def withinMillisecond : TimestampObjectList Timestamped where
  objects := [⟨0, 0⟩, ⟨1, 0⟩, ⟨1, 0⟩]
  hint := .noTimestampSortHint
  sorted := trivial
  representable := by decide

/-- Their differences are one and zero, and both means are zero. -/
theorem difference_statistics_withinMillisecond :
    DifferenceStatistics (Sorter.insertion Timestamped) withinMillisecond :=
  (difference_statistics_iff _ withinMillisecond (by decide)).mpr
    ⟨⟨1, 0⟩, by decide, ⟨0, 0⟩, by decide, by decide, by decide⟩

/-- Two objects ten milliseconds apart. -/
def tenApart : TimestampObjectList Timestamped where
  objects := [⟨0, 0⟩, ⟨10, 0⟩]
  hint := .noTimestampSortHint
  sorted := trivial
  representable := by decide

/-- Their only difference is ten milliseconds, and the mean is said to be five. -/
theorem mean_below_minimum :
    getTimestampDifferenceMinMaxMean (Sorter.insertion Timestamped) tenApart
        = { min := 10, max := 10, mean := 5 } ∧
      ¬DifferenceStatistics (Sorter.insertion Timestamped) tenApart := by
  have hresult : getTimestampDifferenceMinMaxMean (Sorter.insertion Timestamped) tenApart
      = { min := 10, max := 10, mean := 5 } := by decide
  refine ⟨hresult, fun hstatistics => ?_⟩
  have hle := hstatistics.min_le_mean
  cases hle

end NeoSwift.Misc
