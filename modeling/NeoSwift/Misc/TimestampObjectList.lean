import Mathlib.Data.List.Sort
import Mathlib.Tactic.Linarith
import NeoSwift.Lib.Machine

/-!
# Lists of Timestamped Objects

`misc/timestampobjectlist.h`: the lists the simulation keeps its situations and
parts in, latest first. An object has a message timestamp and an offset, and the
two together are the adjusted timestamp the interpolators work with.

`push_frontKeepLatestFirstAdjustOffset` puts a new object in front, sorts by
message timestamp when the object is late, and then raises the offset of the
front object until its adjusted timestamp is past the second one's. Nothing else
is adjusted. An object that arrives in order ends up in front, so both orders
hold afterwards. A late one ends up behind the front, with whatever offset it
came with, and the adjusted order then depends on its neighbours there.

Milliseconds are integers: their sums in the source are signed 64-bit, whose
overflow has no defined result.

## Main definitions

* `TimestampWithOffsetBased`: An object with a timestamp and an offset.
* `Sorter`: What the list relies on when it sorts.
* `pushFrontKeepLatestFirst`, `pushFrontKeepLatestFirstAdjustOffset`: The two
  insertions.
* `PushedInOrder`: What an insertion is to leave behind.
* `StaysInAdjustedOrder`: The values that keep the adjusted order.

## Theorems

* `latestFirst_pushFrontKeepLatestFirst`: The timestamp order is always kept.
* `latestFirst_adjustFront_iff`: What the adjustment of the front settles.
* `latestFirst_adjusted_push`: One insertion keeps the adjusted order.
* `pushed_in_order`: Runs of insertions keep both orders under the condition.
* `late_value_breaks_adjusted_order`: A late value that breaks it.
-/

namespace NeoSwift.Misc

/-- `ITimestampWithOffsetBased`. -/
class TimestampWithOffsetBased (α : Type*) where
  getMSecsSinceEpoch : α → ℤ
  getTimeOffsetMs : α → ℤ
  setTimeOffsetMs : α → ℤ → α
  getMSecsSinceEpoch_set : ∀ a os, getMSecsSinceEpoch (setTimeOffsetMs a os) = getMSecsSinceEpoch a
  getTimeOffsetMs_set : ∀ a os, getTimeOffsetMs (setTimeOffsetMs a os) = os
  set_set : ∀ a os os', setTimeOffsetMs (setTimeOffsetMs a os) os' = setTimeOffsetMs a os'

export TimestampWithOffsetBased (getMSecsSinceEpoch getTimeOffsetMs setTimeOffsetMs)

attribute [simp] TimestampWithOffsetBased.getMSecsSinceEpoch_set
  TimestampWithOffsetBased.getTimeOffsetMs_set TimestampWithOffsetBased.set_set

/-- An object that is its two times and nothing else. -/
structure Timestamped where
  msecs : ℤ
  offset : ℤ
  deriving DecidableEq, Repr

instance : TimestampWithOffsetBased Timestamped where
  getMSecsSinceEpoch := Timestamped.msecs
  getTimeOffsetMs := Timestamped.offset
  setTimeOffsetMs a os := { a with offset := os }
  getMSecsSinceEpoch_set _ _ := rfl
  getTimeOffsetMs_set _ _ := rfl
  set_set _ _ _ := rfl

/-- The elements stand in descending order of the key. -/
def LatestFirst {α : Type*} (key : α → ℤ) (l : List α) : Prop :=
  l.Pairwise (fun a b => key b ≤ key a)

instance {α : Type*} (key : α → ℤ) (l : List α) : Decidable (LatestFirst key l) :=
  inferInstanceAs (Decidable (l.Pairwise _))

theorem LatestFirst.tail {α : Type*} {key : α → ℤ} {l : List α} (h : LatestFirst key l) :
    LatestFirst key l.tail :=
  h.sublist (List.tail_sublist l)

theorem LatestFirst.le_head {α : Type*} {key : α → ℤ} {a b : α} {l : List α}
    (h : LatestFirst key (a :: l)) (hb : b ∈ a :: l) : key b ≤ key a := by
  rcases List.mem_cons.mp hb with rfl | hmem
  · exact le_refl _
  · exact (List.pairwise_cons.mp h).1 b hmem

theorem LatestFirst.cons_head {α : Type*} {key : α → ℤ} {a b : α} {l : List α}
    (h : LatestFirst key (b :: l)) (hb : key b ≤ key a) : LatestFirst key (a :: b :: l) := by
  refine List.pairwise_cons.mpr ⟨fun c hc => ?_, h⟩
  exact le_trans (h.le_head hc) hb

theorem latestFirst_iff_map {α : Type*} (key : α → ℤ) (l : List α) :
    LatestFirst key l ↔ (l.map key).Pairwise (fun a b => b ≤ a) := by
  unfold LatestFirst
  rw [List.pairwise_map]

variable {α : Type*} [TimestampWithOffsetBased α]

def getAdjustedMSecsSinceEpoch (a : α) : ℤ := getMSecsSinceEpoch a + getTimeOffsetMs a

def isOlderThan (a b : α) : Prop := getMSecsSinceEpoch a < getMSecsSinceEpoch b

def isNewerThanAdjusted (a b : α) : Prop :=
  getAdjustedMSecsSinceEpoch b < getAdjustedMSecsSinceEpoch a

instance (a b : α) : Decidable (isOlderThan a b) := inferInstanceAs (Decidable (_ < _))

instance (a b : α) : Decidable (isNewerThanAdjusted a b) := inferInstanceAs (Decidable (_ < _))

/-- The object without its offset. -/
def forgetOffset (a : α) : α := setTimeOffsetMs a 0

@[simp] theorem forgetOffset_set (a : α) (os : ℤ) :
    forgetOffset (setTimeOffsetMs a os) = forgetOffset a :=
  TimestampWithOffsetBased.set_set a os 0

/-- `CSequence::sort` by timestamp. The library's sort is not stable, so objects
    with one timestamp may come out in any order. -/
structure Sorter (α : Type*) [TimestampWithOffsetBased α] where
  sortOldestFirst : List α → List α
  perm : ∀ l, (sortOldestFirst l).Perm l
  sorted : ∀ l, (sortOldestFirst l).Pairwise
    (fun a b => getMSecsSinceEpoch a ≤ getMSecsSinceEpoch b)

/-- Insertion sort is such a sort. -/
def Sorter.insertion (α : Type*) [TimestampWithOffsetBased α] : Sorter α where
  sortOldestFirst := List.insertionSort (fun a b => getMSecsSinceEpoch a ≤ getMSecsSinceEpoch b)
  perm l := List.perm_insertionSort _ l
  sorted l := by
    exact List.pairwise_insertionSort _ l

/-- The reverse of what is sorted oldest first. -/
def sortLatestFirst (S : Sorter α) (l : List α) : List α := (S.sortOldestFirst l).reverse

theorem sortLatestFirst_perm (S : Sorter α) (l : List α) : (sortLatestFirst S l).Perm l :=
  (List.reverse_perm _).trans (S.perm l)

theorem latestFirst_sortLatestFirst (S : Sorter α) (l : List α) :
    LatestFirst getMSecsSinceEpoch (sortLatestFirst S l) := by
  unfold LatestFirst sortLatestFirst
  rw [List.pairwise_reverse]
  exact S.sorted l

/-- `CSequence::truncate`, where a maximum is given. -/
def truncate (maxElements : ℤ) (l : List α) : List α :=
  if 0 < maxElements then l.take maxElements.toNat else l

/-- The arguments of one insertion, with the assertion on the maximum. -/
structure Push (α : Type*) where
  value : α
  replaceSameTimestamp : Bool := true
  maxElements : ℤ := -1
  valid : maxElements < 0 ∨ 1 < maxElements := by decide

/-- The new object takes the place of the front one. -/
def Push.replaces (call : Push α) (c : List α) : Bool :=
  call.replaceSameTimestamp &&
    c.head?.any (fun front => getMSecsSinceEpoch front = getMSecsSinceEpoch call.value)

/-- What stays of the list besides the new object. -/
def Push.kept (call : Push α) (c : List α) : List α :=
  let others := if call.replaces c then c.tail else c
  if 0 < call.maxElements then others.take (call.maxElements - 1).toNat else others

/-- Puts a value in front, in place of one with its time if asked for, and sorts a late one in. -/
def pushFrontKeepLatestFirst (S : Sorter α) (call : Push α) (c : List α) : List α :=
  if call.replaces c then truncate call.maxElements (call.value :: c.tail)
  else
    let c := if 0 < call.maxElements then c.take (call.maxElements - 1).toNat else c
    if c.head?.any (fun front => isOlderThan call.value front) then
      sortLatestFirst S (call.value :: c)
    else call.value :: c

/-- The offset the front object is given: past the second one, and at least the
    average of the two. -/
def adjustedOffset (front second : α) : ℤ :=
  let minReqOs := getAdjustedMSecsSinceEpoch second - getMSecsSinceEpoch front
  let avgOs := (getTimeOffsetMs front + getTimeOffsetMs second).tdiv 2
  max (minReqOs + 1) avgOs

/-- The front value is given an offset by which it comes after the second one. -/
def adjustFront : List α → List α
  | front :: second :: rest =>
      if isNewerThanAdjusted front second then front :: second :: rest
      else setTimeOffsetMs front (adjustedOffset front second) :: second :: rest
  | c => c

/-- As above, with the offset of the front value adjusted. -/
def pushFrontKeepLatestFirstAdjustOffset (S : Sorter α) (call : Push α) (c : List α) : List α :=
  adjustFront (pushFrontKeepLatestFirst S call c)

/-- A list that only insertions change. -/
def pushes (S : Sorter α) : Machine (List α) (Push α) Empty where
  step c call := (pushFrontKeepLatestFirstAdjustOffset S call c, [])

/-! ## One insertion -/

/-- A replacement leaves the same objects as the other branch would. -/
theorem pushFrontKeepLatestFirst_of_replaces (S : Sorter α) (call : Push α) (c : List α)
    (h : call.replaces c = true) :
    pushFrontKeepLatestFirst S call c = call.value :: call.kept c := by
  unfold pushFrontKeepLatestFirst Push.kept truncate
  rw [if_pos h, if_pos h]
  by_cases hmax : 0 < call.maxElements
  · have hsucc : call.maxElements.toNat = (call.maxElements - 1).toNat + 1 := by omega
    simp only [hmax, if_true, hsucc, List.take_succ_cons]
  · simp [hmax]

theorem pushFrontKeepLatestFirst_of_not_replaces (S : Sorter α) (call : Push α) (c : List α)
    (h : call.replaces c = false) :
    pushFrontKeepLatestFirst S call c
      = if (call.kept c).head?.any (fun front => isOlderThan call.value front) then
          sortLatestFirst S (call.value :: call.kept c)
        else call.value :: call.kept c := by
  simp [pushFrontKeepLatestFirst, Push.kept, h]

/-- An insertion adds the new object to what stays, in whatever order. -/
theorem pushFrontKeepLatestFirst_perm (S : Sorter α) (call : Push α) (c : List α) :
    (pushFrontKeepLatestFirst S call c).Perm (call.value :: call.kept c) := by
  by_cases h : call.replaces c = true
  · rw [pushFrontKeepLatestFirst_of_replaces S call c h]
  · rw [pushFrontKeepLatestFirst_of_not_replaces S call c
      (by simpa only [Bool.not_eq_true] using h)]
    split
    · exact sortLatestFirst_perm S _
    · exact List.Perm.refl _

/-- What stays is part of the list, in its order. -/
theorem Push.kept_sublist (call : Push α) (c : List α) : (call.kept c).Sublist c := by
  have hothers : (if call.replaces c then c.tail else c).Sublist c := by
    split
    · exact List.tail_sublist c
    · exact List.Sublist.refl c
  unfold Push.kept
  dsimp only
  split
  · exact (List.take_sublist _ _).trans hothers
  · exact hothers

theorem Push.length_kept (call : Push α) (c : List α) (h : 0 < call.maxElements) :
    ((call.kept c).length : ℤ) ≤ call.maxElements - 1 := by
  have hlen := List.length_take_le (call.maxElements - 1).toNat
    (if call.replaces c then c.tail else c)
  simp only [Push.kept, h, if_true]
  omega

/-- What stays is in front of what does not. -/
theorem Push.head_kept (call : Push α) (c : List α) (h : call.replaces c = false) :
    (call.kept c).head? = c.head? := by
  rcases call.valid with hneg | hpos
  · simp [Push.kept, h, show ¬ 0 < call.maxElements by omega]
  · have hsucc : (call.maxElements - 1).toNat ≠ 0 := by omega
    simp only [Push.kept, h, show 0 < call.maxElements by omega, Bool.false_eq_true, if_false,
      if_true, List.head?_take, hsucc]

/-- The timestamp order is kept whatever arrives. -/
theorem latestFirst_pushFrontKeepLatestFirst (S : Sorter α) (call : Push α) (c : List α)
    (hc : LatestFirst getMSecsSinceEpoch c) :
    LatestFirst getMSecsSinceEpoch (pushFrontKeepLatestFirst S call c) := by
  have hkept : LatestFirst getMSecsSinceEpoch (call.kept c) := hc.sublist (call.kept_sublist c)
  by_cases h : call.replaces c = true
  · -- The object replaced had the same timestamp, so its followers stay behind.
    rw [pushFrontKeepLatestFirst_of_replaces S call c h]
    refine List.pairwise_cons.mpr ⟨fun b hb => ?_, hkept⟩
    simp only [Push.replaces, Bool.and_eq_true, Option.any_eq_true, decide_eq_true_eq] at h
    rcases h.2 with ⟨front, hfront, hsame⟩
    rcases c with _ | ⟨a, rest⟩
    · cases hfront
    · rw [List.head?_cons, Option.some.injEq] at hfront
      rw [← hsame, ← hfront]
      exact hc.le_head ((call.kept_sublist _).subset hb)
  · rw [pushFrontKeepLatestFirst_of_not_replaces S call c
      (by simpa only [Bool.not_eq_true] using h)]
    split
    · exact latestFirst_sortLatestFirst S _
    · rename_i hold
      rcases hk : call.kept c with _ | ⟨front, rest⟩
      · exact List.pairwise_singleton _ _
      · rw [hk] at hold hkept
        refine hkept.cons_head ?_
        rw [List.head?_cons, Option.any_some, decide_eq_true_eq] at hold
        exact not_lt.mp hold

/-! ## The adjustment of the front -/

theorem tail_adjustFront (c : List α) : (adjustFront c).tail = c.tail := by
  rcases c with _ | ⟨front, _ | ⟨second, rest⟩⟩
  · rfl
  · rfl
  · simp only [adjustFront]
    split <;> rfl

theorem map_forgetOffset_adjustFront (c : List α) :
    (adjustFront c).map forgetOffset = c.map forgetOffset := by
  rcases c with _ | ⟨front, _ | ⟨second, rest⟩⟩
  · rfl
  · rfl
  · simp only [adjustFront]
    split
    · rfl
    · simp

theorem length_adjustFront (c : List α) : (adjustFront c).length = c.length := by
  simpa only [List.length_map] using congrArg List.length (map_forgetOffset_adjustFront c)

/-- No timestamp changes. -/
theorem map_getMSecsSinceEpoch_adjustFront (c : List α) :
    (adjustFront c).map getMSecsSinceEpoch = c.map getMSecsSinceEpoch := by
  rcases c with _ | ⟨front, _ | ⟨second, rest⟩⟩
  · rfl
  · rfl
  · simp only [adjustFront]
    split
    · rfl
    · simp

theorem latestFirst_adjustFront (c : List α) (h : LatestFirst getMSecsSinceEpoch c) :
    LatestFirst getMSecsSinceEpoch (adjustFront c) := by
  rw [latestFirst_iff_map, map_getMSecsSinceEpoch_adjustFront, ← latestFirst_iff_map]
  exact h

/-- The offset given to the front takes it past the second object. -/
theorem isNewerThanAdjusted_set (front second : α) :
    isNewerThanAdjusted (setTimeOffsetMs front (adjustedOffset front second)) second := by
  have hle : getAdjustedMSecsSinceEpoch second - getMSecsSinceEpoch front + 1
      ≤ adjustedOffset front second := le_max_left _ _
  have hset : getAdjustedMSecsSinceEpoch (setTimeOffsetMs front (adjustedOffset front second))
      = getMSecsSinceEpoch front + adjustedOffset front second := by
    simp [getAdjustedMSecsSinceEpoch]
  unfold isNewerThanAdjusted
  omega

/-- The adjustment puts the front object where it belongs and leaves the order
    of the others as it is. -/
theorem latestFirst_adjustFront_iff (c : List α) :
    LatestFirst getAdjustedMSecsSinceEpoch (adjustFront c)
      ↔ LatestFirst getAdjustedMSecsSinceEpoch c.tail := by
  constructor
  · intro h
    rw [← tail_adjustFront]
    exact h.tail
  · intro h
    rcases c with _ | ⟨front, _ | ⟨second, rest⟩⟩
    · exact List.Pairwise.nil
    · exact List.pairwise_singleton _ _
    · simp only [adjustFront]
      split
      · rename_i hnewer
        exact LatestFirst.cons_head h (le_of_lt hnewer)
      · exact LatestFirst.cons_head h (le_of_lt (isNewerThanAdjusted_set front second))

/-! ## Runs of insertions -/

/-- What an insertion is to leave behind: both orders, no more elements than the
    maximum, and of the elements that were there, those not truncated or replaced
    as they were, up to an offset. -/
structure PushedInOrder (call : Push α) (c c' : List α) : Prop where
  latest_first : LatestFirst getMSecsSinceEpoch c'
  adjusted_latest_first : LatestFirst getAdjustedMSecsSinceEpoch c'
  size : 0 < call.maxElements → (c'.length : ℤ) ≤ call.maxElements
  timestamps : (c'.map forgetOffset).Perm ((call.value :: call.kept c).map forgetOffset)

/-- The two timestamps of two objects point the same way. -/
def SameDirection (a b : α) : Prop :=
  (getMSecsSinceEpoch a < getMSecsSinceEpoch b →
      getAdjustedMSecsSinceEpoch a ≤ getAdjustedMSecsSinceEpoch b) ∧
    (getMSecsSinceEpoch b < getMSecsSinceEpoch a →
      getAdjustedMSecsSinceEpoch b ≤ getAdjustedMSecsSinceEpoch a) ∧
    (getMSecsSinceEpoch a = getMSecsSinceEpoch b →
      getAdjustedMSecsSinceEpoch a = getAdjustedMSecsSinceEpoch b)

/-- A value that keeps the adjusted order: it is not older than the front, or,
    whichever of the newest objects leads, the two timestamps of the others point
    the same way. -/
def StaysInAdjustedOrder (c : List α) (call : Push α) : Prop :=
  (∀ front ∈ c.head?, getMSecsSinceEpoch front ≤ getMSecsSinceEpoch call.value) ∨
    ∀ newest others, (newest :: others).Perm (call.value :: call.kept c) →
      (∀ other ∈ others, getMSecsSinceEpoch other ≤ getMSecsSinceEpoch newest) →
      others.Pairwise SameDirection

theorem LatestFirst.adjusted_of_sameDirection {l : List α} (h : LatestFirst getMSecsSinceEpoch l)
    (hsame : l.Pairwise SameDirection) : LatestFirst getAdjustedMSecsSinceEpoch l := by
  refine List.Pairwise.imp ?_ (h.and hsame)
  rintro a b ⟨hle, -, hlt, heq⟩
  rcases lt_or_eq_of_le hle with hba | hba
  · exact hlt hba
  · exact le_of_eq (heq hba.symm).symm

/-- A value that is not older than the front is put in front. -/
theorem tail_pushFrontKeepLatestFirst_of_newest (S : Sorter α) (call : Push α) (c : List α)
    (h : ∀ front ∈ c.head?, getMSecsSinceEpoch front ≤ getMSecsSinceEpoch call.value) :
    (pushFrontKeepLatestFirst S call c).tail = call.kept c := by
  by_cases hrep : call.replaces c = true
  · rw [pushFrontKeepLatestFirst_of_replaces S call c hrep, List.tail_cons]
  · have hrep : call.replaces c = false := by simpa only [Bool.not_eq_true] using hrep
    have hold : (call.kept c).head?.any (fun front => decide (isOlderThan call.value front))
        = false := by
      rw [call.head_kept c hrep, Option.any_eq_false]
      intro front hfront
      exact decide_eq_false (not_lt.mpr (h front hfront))
    rw [pushFrontKeepLatestFirst_of_not_replaces S call c hrep, hold]
    simp

/-- One insertion of a value that meets the condition keeps the adjusted order. -/
theorem latestFirst_adjusted_push (S : Sorter α) (call : Push α) (c : List α)
    (hc : LatestFirst getMSecsSinceEpoch c) (hadj : LatestFirst getAdjustedMSecsSinceEpoch c)
    (h : StaysInAdjustedOrder c call) :
    LatestFirst getAdjustedMSecsSinceEpoch (pushFrontKeepLatestFirstAdjustOffset S call c) := by
  unfold pushFrontKeepLatestFirstAdjustOffset
  rw [latestFirst_adjustFront_iff]
  rcases h with hnew | hothers
  · rw [tail_pushFrontKeepLatestFirst_of_newest S call c hnew]
    exact hadj.sublist (call.kept_sublist c)
  · -- Behind the front the list is in timestamp order, which the offsets follow.
    have hsorted := latestFirst_pushFrontKeepLatestFirst S call c hc
    have hperm := pushFrontKeepLatestFirst_perm S call c
    rcases hres : pushFrontKeepLatestFirst S call c with _ | ⟨newest, others⟩
    · exact List.Pairwise.nil
    · rw [hres] at hsorted hperm
      have hle : ∀ other ∈ others, getMSecsSinceEpoch other ≤ getMSecsSinceEpoch newest :=
        fun other hmem => hsorted.le_head (List.mem_cons_of_mem _ hmem)
      exact hsorted.tail.adjusted_of_sameDirection (hothers newest others hperm hle)

theorem pushedInOrder_push (S : Sorter α) (call : Push α) (c : List α)
    (hc : LatestFirst getMSecsSinceEpoch c) (hadj : LatestFirst getAdjustedMSecsSinceEpoch c)
    (h : StaysInAdjustedOrder c call) :
    PushedInOrder call c (pushFrontKeepLatestFirstAdjustOffset S call c) where
  latest_first := latestFirst_adjustFront _ (latestFirst_pushFrontKeepLatestFirst S call c hc)
  adjusted_latest_first := latestFirst_adjusted_push S call c hc hadj h
  size hmax := by
    have hlen := call.length_kept c hmax
    have hperm := (pushFrontKeepLatestFirst_perm S call c).length_eq
    rw [pushFrontKeepLatestFirstAdjustOffset, length_adjustFront, hperm, List.length_cons]
    omega
  timestamps := by
    rw [pushFrontKeepLatestFirstAdjustOffset, map_forgetOffset_adjustFront]
    exact (pushFrontKeepLatestFirst_perm S call c).map _

/-- In a run of insertions whose values all meet the condition, each insertion
    leaves both orders, the size and the timestamps as they are to be. -/
theorem pushed_in_order (S : Sorter α) (calls : List (Push α)) (call : Push α)
    (h : (pushes S).AllSteps StaysInAdjustedOrder [] (calls ++ [call])) :
    PushedInOrder call ((pushes S).run [] calls).1 ((pushes S).run [] (calls ++ [call])).1 := by
  rcases ((pushes S).allSteps_append _ _ _ _).mp h with ⟨hinit, hlast, -⟩
  have hsorted : LatestFirst getMSecsSinceEpoch ((pushes S).run [] calls).1 ∧
      LatestFirst getAdjustedMSecsSinceEpoch ((pushes S).run [] calls).1 := by
    refine (pushes S).run_invariant_of StaysInAdjustedOrder
      (fun c _ => LatestFirst getMSecsSinceEpoch c ∧ LatestFirst getAdjustedMSecsSinceEpoch c)
      ?_ calls [] [] hinit ⟨List.Pairwise.nil, List.Pairwise.nil⟩
    rintro c out next hnext ⟨hc, hadj⟩
    have hpushed := pushedInOrder_push S next c hc hadj hnext
    exact ⟨hpushed.latest_first, hpushed.adjusted_latest_first⟩
  rw [Machine.run_append]
  exact pushedInOrder_push S call _ hsorted.1 hsorted.2 hlast

theorem SameDirection.symm {a b : α} (h : SameDirection a b) : SameDirection b a :=
  ⟨h.2.1, h.1, fun heq => (h.2.2 heq.symm).symm⟩

/-- The front of two objects leads them and a late one between them, and the other two point the
    same way. -/
theorem staysInAdjustedOrder_between : StaysInAdjustedOrder [(⟨20, 5⟩ : Timestamped), ⟨0, 5⟩]
    ⟨⟨10, 4⟩, true, 6, by decide⟩ := by
  refine .inr fun newest others hperm hnewest => ?_
  change (newest :: others).Perm [⟨10, 4⟩, ⟨20, 5⟩, ⟨0, 5⟩] at hperm
  have hfront : newest = ⟨20, 5⟩ := by
    by_contra hne
    have hmem := (List.mem_cons.mp (hperm.symm.subset (by decide : ⟨20, 5⟩ ∈ _))).resolve_left
      (Ne.symm hne)
    have hle : (20 : ℤ) ≤ newest.msecs := hnewest _ hmem
    have hin := hperm.subset List.mem_cons_self
    simp only [List.mem_cons, List.not_mem_nil, or_false] at hin
    rcases hin with rfl | rfl | rfl
    · cases hle
    · exact hne rfl
    · cases hle
  rw [hfront] at hperm
  have hothers := (hperm.trans (List.Perm.swap _ _ _)).cons_inv
  exact (hothers.pairwise_iff SameDirection.symm).mpr (by simp [SameDirection]; decide)

/-- Two objects in order and a late one with a smaller offset. -/
theorem pushed_in_order_between :
    PushedInOrder ⟨⟨10, 4⟩, true, 6, by decide⟩ [(⟨20, 5⟩ : Timestamped), ⟨0, 5⟩]
      [⟨20, 5⟩, ⟨10, 4⟩, ⟨0, 5⟩] :=
  pushed_in_order (Sorter.insertion Timestamped)
    [⟨⟨0, 5⟩, true, 6, by decide⟩, ⟨⟨20, 5⟩, true, 6, by decide⟩] ⟨⟨10, 4⟩, true, 6, by decide⟩
    ⟨.inl (by decide), .inl (by decide), staysInAdjustedOrder_between, trivial⟩

/-- Three objects five milliseconds behind their timestamps and a late one twenty
    behind: it is sorted in behind the second and its adjusted time is that of the
    front. -/
theorem late_value_breaks_adjusted_order :
    let call : Push Timestamped := ⟨⟨5, 20⟩, true, 6, by decide⟩
    let calls : List (Push Timestamped) := [⟨⟨0, 5⟩, true, 6, by decide⟩,
      ⟨⟨10, 5⟩, true, 6, by decide⟩, ⟨⟨20, 5⟩, true, 6, by decide⟩]
    ((pushes (Sorter.insertion Timestamped)).run [] (calls ++ [call])).1
        = [⟨20, 5⟩, ⟨10, 5⟩, ⟨5, 20⟩, ⟨0, 5⟩] ∧
      ¬ PushedInOrder call ((pushes (Sorter.insertion Timestamped)).run [] calls).1
        ((pushes (Sorter.insertion Timestamped)).run [] (calls ++ [call])).1 := by
  refine ⟨by decide, fun h => ?_⟩
  exact nomatch h.adjusted_latest_first

end NeoSwift.Misc
