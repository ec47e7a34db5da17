import Mathlib.Data.List.DropRight
import NeoSwift.Lib.IntCast

/-!
# Pushing with a Maximum

`CSequence::push_frontMaxElements` and `push_backMaxElements` of `misc/sequence.h`, which make
room for a value at the one end of a sequence by erasing elements at the other. Both are to keep
as many elements as the maximum says.

In front this works: the sequence is truncated to one less, and the value comes in front of that.
At the back elements are popped as long as there are one less or more, so that two less are left,
and the value makes it one less than the maximum. A sequence is therefore kept complete only as
long as that is not reached.

The assertion on the maximum is part of some builds only. Where it is not, a maximum of one keeps
the value alone in front, and at the back the loop goes on to pop an empty sequence, which is none
here. The size of a sequence is an int.

## Main definitions

* `pushFrontMaxElements`, `pushBackMaxElements`: The two functions.
* `KeepsLast`: What the second one is to keep.

## Theorems

* `popWhileFull_eq`: What the loop leaves.
* `pushFrontMaxElements_eq`, `pushBackMaxElements_eq`: What is kept.
* `keepsLast_iff`: When it is as many elements as the maximum says.
* `pushMaxElements_histories`: Histories that are kept so.
-/

namespace NeoSwift.Misc

namespace CSequence

universe u

variable {α β : Type u}

/-- `size`, an int. -/
def size (l : List α) : ℤ := castLength l.length

/-- `Q_ASSERT` in front of a computation, in a build that checks it or one that does not. -/
def qAssert (checked : Bool) (p : Prop) [Decidable p] (x : Option β) : Option β :=
  if checked ∧ ¬p then none else x

/-- `truncate`. Before the beginning there is nothing to erase from. -/
def truncate (maxSize : ℤ) (l : List α) : Option (List α) :=
  if maxSize < size l then
    if 0 ≤ maxSize then some (l.take maxSize.toNat) else none
  else some l

/-- `push_frontMaxElements`. -/
def pushFrontMaxElements (checked : Bool) (maxElements : Int32) (l : List α) (value : α) :
    Option (List α) :=
  qAssert checked (1 < maxElements.toInt) <|
    (if maxElements.toInt - 1 ≤ size l then truncate (maxElements.toInt - 1) l else some l).map
      (value :: ·)

/-- The loop of `push_backMaxElements`. There is no `pop_front` of an empty sequence. -/
def popWhileFull (limit : ℤ) : List α → Option (List α)
  | [] => if limit ≤ size ([] : List α) then none else some []
  | a :: rest => if limit ≤ size (a :: rest) then popWhileFull limit rest else some (a :: rest)

/-- `push_backMaxElements`. -/
def pushBackMaxElements (checked : Bool) (maxElements : Int32) (l : List α) (value : α) :
    Option (List α) :=
  qAssert checked (1 < maxElements.toInt) <|
    (popWhileFull (maxElements.toInt - 1) l).map (· ++ [value])

/-- The last elements of the sequence and the value, as many as the maximum says, which mirrors
    what the other end does with the reversed sequence. -/
def KeepsLast (checked : Bool) (maxElements : Int32) (l : List α) (value : α) : Prop :=
  pushBackMaxElements checked maxElements l value =
      some ((l ++ [value]).rtake (min (l.length + 1) maxElements.toInt.toNat)) ∧
    pushBackMaxElements checked maxElements l value =
      (pushFrontMaxElements checked maxElements l.reverse value).map List.reverse

instance [DecidableEq α] (checked : Bool) (maxElements : Int32) (l : List α) (value : α) :
    Decidable (KeepsLast checked maxElements l value) :=
  inferInstanceAs (Decidable (_ ∧ _))

/-! ## What is kept -/

theorem qAssert_of_holds {p : Prop} [Decidable p] (h : p) (checked : Bool) (x : Option β) :
    qAssert checked p x = x :=
  if_neg fun hnot => hnot.2 h

theorem of_qAssert_eq_some {checked : Bool} {p : Prop} [Decidable p] {x : Option β} {y : β}
    (h : qAssert checked p x = some y) : x = some y := by
  unfold qAssert at h
  split at h
  · cases h
  · exact h

variable {l : List α}

theorem rtake_of_length_le {n : ℕ} (h : l.length ≤ n) : l.rtake n = l := by
  rw [List.rtake, Nat.sub_eq_zero_of_le h, List.drop_zero]

theorem size_of_lt (h : l.length < 2 ^ 31) : size l = l.length := castLength_of_lt h

/-- The loop ends below the limit. -/
theorem size_lt_of_popWhileFull {limit : ℤ} {l kept : List α}
    (h : popWhileFull limit l = some kept) : size kept < limit := by
  induction l with
  | nil =>
    unfold popWhileFull at h
    split at h
    case isTrue => cases h
    case isFalse hroom => exact Option.some.inj h ▸ not_le.mp hroom
  | cons a rest ih =>
    unfold popWhileFull at h
    split at h
    case isTrue => exact ih h
    case isFalse hroom => exact Option.some.inj h ▸ not_le.mp hroom

theorem popWhileFull_of_room {limit : ℤ} (h : size l < limit) : popWhileFull limit l = some l := by
  cases l with
  | nil => exact if_neg (not_le.mpr h)
  | cons a rest => exact if_neg (not_le.mpr h)

/-- One element less than the limit is left. -/
theorem popWhileFull_eq {limit : ℤ} (hlimit : 0 < limit) (hint : l.length < 2 ^ 31) :
    popWhileFull limit l = some (l.rtake (limit - 1).toNat) := by
  induction l with
  | nil =>
    have hroom : size ([] : List α) < limit := by rwa [size_of_lt hint]
    rw [popWhileFull_of_room hroom, List.rtake_nil]
  | cons a rest ih =>
    have hsize := size_of_lt hint
    rw [List.length_cons] at hint hsize
    by_cases hroom : size (a :: rest) < limit
    · rw [popWhileFull_of_room hroom, rtake_of_length_le (by rw [List.length_cons]; omega)]
    · -- what is popped is not among the last ones
      have hpop : popWhileFull limit (a :: rest) = popWhileFull limit rest :=
        if_pos (not_lt.mp hroom)
      have hdrop : rest.length + 1 - (limit - 1).toNat = rest.length - (limit - 1).toNat + 1 := by
        omega
      rw [hpop, ih (by omega), List.rtake, List.rtake, List.length_cons, hdrop,
        List.drop_succ_cons]

variable {maxElements : Int32}

/-- In front the maximum is what is kept. -/
theorem pushFrontMaxElements_eq (hmax : 1 < maxElements.toInt)
    (checked : Bool) (hint : l.length < 2 ^ 31) (value : α) :
    pushFrontMaxElements checked maxElements l value =
      some ((value :: l).take maxElements.toInt.toNat) := by
  have hsize := size_of_lt hint
  have hsucc : maxElements.toInt.toNat = (maxElements.toInt - 1).toNat + 1 := by omega
  rw [pushFrontMaxElements, qAssert_of_holds hmax, hsucc, List.take_succ_cons]
  by_cases hcut : maxElements.toInt - 1 < size l
  · rw [if_pos hcut.le, truncate, if_pos hcut, if_pos (by omega), Option.map_some]
  · have hall : l.take (maxElements.toInt - 1).toNat = l := List.take_of_length_le (by omega)
    rw [truncate, if_neg hcut, ite_self, Option.map_some, hall]

/-- At the back it is one less. -/
theorem pushBackMaxElements_eq (hmax : 1 < maxElements.toInt)
    (checked : Bool) (hint : l.length < 2 ^ 31) (value : α) :
    pushBackMaxElements checked maxElements l value =
      some ((l ++ [value]).rtake (maxElements.toInt - 1).toNat) := by
  have hsucc : (maxElements.toInt - 1).toNat = (maxElements.toInt - 1 - 1).toNat + 1 := by omega
  rw [pushBackMaxElements, qAssert_of_holds hmax, popWhileFull_eq (by omega) hint,
    Option.map_some, hsucc, List.rtake_concat_succ]

/-- The maximum is never what is kept at the back, of whatever sequence. -/
theorem length_ne_of_pushBackMaxElements {checked : Bool} {l kept : List α}
    {value : α} (h : pushBackMaxElements checked maxElements l value = some kept) :
    (kept.length : ℤ) ≠ maxElements.toInt := by
  have hlt := maxElements.toInt_lt
  rcases Option.map_eq_some_iff.mp (of_qAssert_eq_some h) with ⟨rest, hrest, rfl⟩
  have hroom := size_lt_of_popWhileFull hrest
  intro hlength
  rw [List.length_append, List.length_singleton] at hlength
  rw [size_of_lt (by omega)] at hroom
  omega

/-- Below the maximum everything is kept. -/
theorem pushBackMaxElements_eq_append
    (hroom : (l.length : ℤ) + 1 < maxElements.toInt) (checked : Bool) (value : α) :
    pushBackMaxElements checked maxElements l value = some (l ++ [value]) := by
  have hlt := maxElements.toInt_lt
  rw [pushBackMaxElements_eq (by omega) checked (by omega),
    rtake_of_length_le (by rw [List.length_append, List.length_singleton]; omega)]

/-! ## Histories -/

/-- A history that each push brings up to date. -/
theorem foldlM_of_push {push : List α → α → Option (List α)} (held : List α → List α)
    (hstart : held [] = []) (hpush : ∀ values value, push (held values) value =
      some (held (values ++ [value]))) (values : List α) :
    values.foldlM push [] = some (held values) := by
  induction values using List.reverseRecOn with
  | nil => rw [hstart]; rfl
  | append_singleton values value ih =>
    rw [List.foldlM_append, ih]
    simp only [Option.bind_eq_bind, Option.bind_some, List.foldlM_cons, hpush]
    rfl

/-- The last values pushed in front, as many as the maximum says. -/
theorem foldlM_pushFrontMaxElements (hmax : 1 < maxElements.toInt)
    (checked : Bool) (values : List α) :
    values.foldlM (pushFrontMaxElements checked maxElements) [] =
      some (values.reverse.take maxElements.toInt.toNat) := by
  refine foldlM_of_push (fun values => values.reverse.take maxElements.toInt.toNat)
    List.take_nil ?_ values
  intro values value
  have hlt := maxElements.toInt_lt
  have hsucc : maxElements.toInt.toNat = (maxElements.toInt - 1).toNat + 1 := by omega
  rw [pushFrontMaxElements_eq hmax checked (by rw [List.length_take]; omega),
    List.reverse_append, List.reverse_singleton, List.singleton_append, hsucc, List.take_succ_cons,
    List.take_succ_cons, List.take_take, Nat.min_eq_left (Nat.le_succ _)]

/-- The last values pushed at the back, one less than that. -/
theorem foldlM_pushBackMaxElements (hmax : 1 < maxElements.toInt)
    (checked : Bool) (values : List α) :
    values.foldlM (pushBackMaxElements checked maxElements) [] =
      some (values.rtake (maxElements.toInt - 1).toNat) := by
  refine foldlM_of_push (fun values => values.rtake (maxElements.toInt - 1).toNat)
    (List.rtake_nil _) ?_ values
  intro values value
  have hlt := maxElements.toInt_lt
  have hsucc : (maxElements.toInt - 1).toNat = (maxElements.toInt - 2).toNat + 1 := by omega
  rw [pushBackMaxElements_eq hmax checked (by rw [List.rtake, List.length_drop]; omega), hsucc]
  simp [List.rtake_eq_reverse_take_reverse, List.take_take]

/-- Whatever is pushed one after the other onto an empty sequence, the latest are kept: in front
    as many as the maximum says, and at the back one less. -/
theorem pushMaxElements_histories (hmax : 1 < maxElements.toInt)
    (checked : Bool) (values : List α) :
    values.foldlM (pushFrontMaxElements checked maxElements) [] =
        some (values.reverse.take maxElements.toInt.toNat) ∧
      values.foldlM (pushBackMaxElements checked maxElements) [] =
        some (values.rtake (maxElements.toInt - 1).toNat) :=
  ⟨foldlM_pushFrontMaxElements hmax checked values, foldlM_pushBackMaxElements hmax checked values⟩

theorem pushMaxElements_histories_three :
    [1, 2, 3, 4].foldlM (pushFrontMaxElements true 3) [] =
        some ([1, 2, 3, 4].reverse.take (3 : Int32).toInt.toNat) ∧
      [1, 2, 3, 4].foldlM (pushBackMaxElements true 3) [] =
        some ([1, 2, 3, 4].rtake ((3 : Int32).toInt - 1).toNat) :=
  pushMaxElements_histories (by decide) true [1, 2, 3, 4]

/-- What is kept is what is to be kept as long as the sequence with the value stays below the
    maximum. -/
theorem keepsLast_iff (checked : Bool) (maxElements : Int32) (l : List α) (value : α)
    (hmax : 1 ≤ maxElements.toInt) :
    KeepsLast checked maxElements l value ↔ (l.length : ℤ) + 1 < maxElements.toInt := by
  have hlt := maxElements.toInt_lt
  constructor
  · rintro ⟨hkept, _⟩
    have hne := length_ne_of_pushBackMaxElements hkept
    rw [List.rtake, List.length_drop, List.length_append, List.length_singleton] at hne
    omega
  · intro hroom
    have hint : l.length < 2 ^ 31 := by omega
    have hback := pushBackMaxElements_eq_append hroom checked value
    have hmore : 1 < maxElements.toInt := by omega
    have hfront := pushFrontMaxElements_eq hmore checked (l := l.reverse)
      (by rwa [List.length_reverse]) value
    refine ⟨?_, ?_⟩
    · rw [hback, rtake_of_length_le (by rw [List.length_append, List.length_singleton]; omega)]
    · rw [hback, hfront, List.take_of_length_le
        (by rw [List.length_cons, List.length_reverse]; omega), Option.map_some,
        List.reverse_cons, List.reverse_reverse]

/-- Two elements and one more, where four are the maximum. -/
theorem keepsLast_room : 1 ≤ (4 : Int32).toInt ∧
    (KeepsLast true 4 [1, 2] 3 ↔ (([1, 2] : List ℕ).length : ℤ) + 1 < (4 : Int32).toInt) :=
  ⟨by decide, keepsLast_iff true 4 [1, 2] 3 (by decide)⟩

/-- Two elements and one more, where three are the maximum: only two of them are kept. -/
theorem not_keepsLast_full : ¬KeepsLast true 3 [1, 2] 3 ∧ ¬KeepsLast false 3 [1, 2] 3 := by
  decide

end CSequence

end NeoSwift.Misc
