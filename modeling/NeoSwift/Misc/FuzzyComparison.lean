import NeoSwift.Lib.Binary64
import NeoSwift.Misc.StringUtils

/-!
# Similarity of Short Texts

`fuzzyShortStringComparision` of `misc/stringutils.cpp`, for designators that are nearly right.
A text that contains the other one is compared by length, and other texts are compared place by
place, where a letter that is found beside its place is half right.

The percents are computed with doubles, which makes a difference where they are some number and a
half: four of these halves are rounded down.

Characters are units of 16 bits, and how their case is folded is a parameter.

## Main definitions

* `fuzzyShortStringComparision`: Percents, 100 for texts that are the same.
* `IsScore`: Percents that are the same both ways, and 100 for nothing else.
* `common`, `beside`, `halfPoints`: Places with the right letter, and with one found beside.
* `Reaches`: The half points that are rounded up to a percent.

## Theorems

* `points_eq`, `le_percents_iff`: What the places give.
* `similar_of_contains`: A text and a part of it.
* `isScore_iff`: Which texts have a score.
* `part_of_a_text_is_200`: Two that do not.
-/

namespace NeoSwift.Misc

open Binary64

/-- `Qt::CaseSensitivity`. -/
inductive CaseSensitivity where
  | CaseInsensitive
  | CaseSensitive

variable (fold : QChar → QChar)

/-- What counts of a text. -/
def CaseSensitivity.key (cs : CaseSensitivity) (s : List QChar) : List QChar :=
  match cs with
  | CaseInsensitive => s.map fold
  | CaseSensitive => s

/-- `qRound(q * 100)` of a quotient of doubles. A double that is not negative is rounded by cutting
    off the sum with a half. -/
def percents (q : ℚ) : ℤ := ⌊nearest (nearest (nearest q * 100) + 1 / 2)⌋

/-- What a place of the text that is not shorter gives. -/
def score (aStr bStr : List QChar) (p : ℕ) : ℚ :=
  if p < bStr.length ∧ aStr[p]? = bStr[p]? then 1
  else if p + 1 < bStr.length ∧ aStr[p]? = bStr[p + 1]? then 1 / 2
  else if 1 ≤ p ∧ p - 1 < bStr.length ∧ aStr[p]? = bStr[p - 1]? then 1 / 2
  else 0

/-- Halves add up without rounding. -/
def points (aStr bStr : List QChar) : ℚ :=
  ((List.range aStr.length).map (score aStr bStr)).sum

/-- `aStr`, which is not shorter. -/
def longer (str1 str2 : List QChar) : List QChar :=
  if str2.length ≤ str1.length then str1 else str2

/-- `bStr`. -/
def shorter (str1 str2 : List QChar) : List QChar :=
  if str2.length ≤ str1.length then str2 else str1

/-- How similar two texts are, in percents. -/
def fuzzyShortStringComparision (str1 str2 : List QChar) (cs : CaseSensitivity) : ℤ :=
  -- Folded texts of one length that start with each other are the same.
  if cs.key fold str1 = cs.key fold str2 then 100
  else if str1 = [] ∨ str2 = [] then 0
  else
    let aStr := longer str1 str2
    let bStr := shorter str1 str2
    let s1 : ℚ := aStr.length
    let s2 : ℚ := bStr.length
    if cs.key fold bStr <:+ cs.key fold aStr then percents (s1 / s2)
    else if cs.key fold bStr <+: cs.key fold aStr then percents (s1 / s2)
    else if cs.key fold bStr <:+: cs.key fold aStr then percents (s1 / s2)
    else percents (points aStr bStr / s1)

/-! ## What is expected -/

/-- Percents that do not depend on the order, and 100 only for texts that are the same. -/
structure IsScore (str1 str2 : List QChar) (cs : CaseSensitivity) : Prop where
  nonneg : 0 ≤ fuzzyShortStringComparision fold str1 str2 cs
  le : fuzzyShortStringComparision fold str1 str2 cs ≤ 100
  symm : fuzzyShortStringComparision fold str1 str2 cs =
    fuzzyShortStringComparision fold str2 str1 cs
  same : fuzzyShortStringComparision fold str1 str2 cs = 100 → cs.key fold str1 = cs.key fold str2

/-- Both have the letter at the place. -/
def Common (a b : List QChar) (p : ℕ) : Prop := p < b.length ∧ a[p]? = b[p]?

/-- The other one has the letter behind the place or in front of it. -/
def Beside (a b : List QChar) (p : ℕ) : Prop :=
  (p + 1 < b.length ∧ a[p]? = b[p + 1]?) ∨ (1 ≤ p ∧ p - 1 < b.length ∧ a[p]? = b[p - 1]?)

instance (a b : List QChar) : DecidablePred (Common a b) := fun _ => instDecidableAnd

instance (a b : List QChar) : DecidablePred (Beside a b) := fun _ => instDecidableOr

def common (a b : List QChar) : ℕ := (List.range a.length).countP fun p => Common a b p

def beside (a b : List QChar) : ℕ :=
  (List.range a.length).countP fun p => ¬ Common a b p ∧ Beside a b p

/-- Two for a letter at its place and one for a letter beside it. -/
def halfPoints (a b : List QChar) : ℕ := 2 * common a b + beside a b

/-- The numbers that a half is added to and that are rounded down nevertheless: the doubles next to
    their quotients are smaller, and so is the product with a hundred. -/
def roundedDown : List ℕ := [14, 28, 56, 57]

/-- Half points, of two for each place, that are more than `k` percents and a half, or just these
    if they are rounded up. -/
def Reaches (k half length : ℕ) : Prop :=
  if k ∈ roundedDown then (2 * k + 1) * length < 100 * half else (2 * k + 1) * length ≤ 100 * half

instance (k half length : ℕ) : Decidable (Reaches k half length) := by
  unfold Reaches
  infer_instance

/-- Texts that are compared place by place, if they are not the same. The longer one has not the
    other one in it, half a percent of it is not right, and if both are as long no percent is
    reached in one order only. -/
def FewInCommon (str1 str2 : List QChar) (cs : CaseSensitivity) : Prop :=
  ¬ cs.key fold (shorter str1 str2) <:+: cs.key fold (longer str1 str2) ∧
    100 * halfPoints (longer str1 str2) (shorter str1 str2) < 199 * (longer str1 str2).length ∧
    (str1.length = str2.length → ∀ k < 100,
      (Reaches k (halfPoints str1 str2) str1.length ↔ Reaches k (halfPoints str2 str1) str2.length))

instance (str1 str2 : List QChar) (cs : CaseSensitivity) :
    Decidable (FewInCommon fold str1 str2 cs) :=
  inferInstanceAs (Decidable (¬_ ∧ _ ∧ (_ → _)))

/-! ## What the places give -/

theorem score_eq (a b : List QChar) (p : ℕ) :
    score a b p = ((2 * (if Common a b p then 1 else 0)
      + (if ¬ Common a b p ∧ Beside a b p then 1 else 0) : ℕ) : ℚ) / 2 := by
  by_cases hcommon : Common a b p
  · have hscore : score a b p = 1 := if_pos hcommon
    rw [hscore, if_pos hcommon, if_neg (fun h => h.1 hcommon)]
    norm_num
  · have hscore : score a b p
        = if p + 1 < b.length ∧ a[p]? = b[p + 1]? then 1 / 2
          else if 1 ≤ p ∧ p - 1 < b.length ∧ a[p]? = b[p - 1]? then 1 / 2 else 0 := if_neg hcommon
    rw [hscore, if_neg hcommon]
    by_cases hbeside : Beside a b p
    · rw [if_pos (And.intro hcommon hbeside)]
      split_ifs with hafter hbefore
      · norm_num
      · norm_num
      · exact absurd hbeside (not_or.mpr ⟨hafter, hbefore⟩)
    · rw [if_neg (fun h => hbeside (Or.inl h)), if_neg (fun h => hbeside (Or.inr h)),
        if_neg (fun h => hbeside h.2)]
      norm_num

theorem points_eq (a b : List QChar) : points a b = (halfPoints a b : ℚ) / 2 := by
  unfold points halfPoints common beside
  induction List.range a.length with
  | nil => norm_num
  | cons p l ih =>
    rw [List.map_cons, List.sum_cons, ih, score_eq, List.countP_cons, List.countP_cons]
    simp only [decide_eq_true_eq]
    push_cast
    ring

/-- A place gives two at most. -/
theorem halfPoints_le (a b : List QChar) : halfPoints a b ≤ 2 * a.length := by
  have hlength : (List.range a.length).length = a.length := List.length_range
  rw [← hlength]
  unfold halfPoints common beside
  induction List.range a.length with
  | nil => rfl
  | cons p l ih =>
    rw [List.countP_cons, List.countP_cons, List.length_cons]
    simp only [decide_eq_true_eq]
    split_ifs with hcommon hbeside
    · exact absurd hcommon hbeside.1
    all_goals omega

/-! ## Percents -/

/-- What is lost by computing with doubles. -/
theorem abs_nearest_percents_le {q : ℚ} (h0 : 0 ≤ q) (h1 : q ≤ 1) :
    |nearest (nearest (nearest q * 100) + 1 / 2) - (100 * q + 1 / 2)| ≤ 1 / 2 ^ 44 := by
  have hquotient := abs_le.mp (abs_nearest_sub_le h0)
  have hquotient0 : 0 ≤ nearest q * 100 := mul_nonneg (nearest_nonneg q) (by norm_num)
  have hproduct := abs_le.mp (abs_nearest_sub_le hquotient0)
  have hsum0 : 0 ≤ nearest (nearest q * 100) + 1 / 2 :=
    add_nonneg (nearest_nonneg _) (by norm_num)
  have hsum := abs_le.mp (abs_nearest_sub_le hsum0)
  rw [abs_le]
  constructor <;> linarith

/-- A number and a half is rounded up but for four. -/
theorem le_percents_half_iff {k : ℕ} (hk : k < 100) :
    ((k : ℤ) + 1 ≤ percents ((2 * k + 1 : ℕ) / 200)) ↔ k ∉ roundedDown := by
  have hall : ∀ k : ℕ, k < 100 →
      ((k : ℤ) + 1 ≤ percents ((2 * k + 1 : ℕ) / 200) ↔ k ∉ roundedDown) := by decide +kernel
  exact hall k hk

example : percents (69 / 2 / 60) = 57 := by decide +kernel

section Percents

variable {half length : ℕ} (hhalf : half ≤ 2 * length)

include hhalf

theorem quotient_le_one : (half : ℚ) / 2 / length ≤ 1 := by
  have hcast : (half : ℚ) ≤ 2 * length := by exact_mod_cast hhalf
  refine div_le_one_of_le₀ ?_ (Nat.cast_nonneg length)
  linarith

theorem percents_bounds :
    0 ≤ percents ((half : ℚ) / 2 / length) ∧ percents ((half : ℚ) / 2 / length) ≤ 100 := by
  have hle := quotient_le_one hhalf
  have hnear := abs_le.mp (abs_nearest_percents_le (by positivity) hle)
  refine ⟨Int.floor_nonneg.mpr (nearest_nonneg _), Int.le_of_lt_add_one (Int.floor_lt.mpr ?_)⟩
  linarith

/-- Away from the halves there is room for what is lost, as a text is not that long. -/
theorem le_percents_iff {k : ℕ} (hk : k < 100) (hpos : 0 < length) (hlength : length < 2 ^ 31) :
    (k : ℤ) + 1 ≤ percents ((half : ℚ) / 2 / length) ↔ Reaches k half length := by
  have hpos' : (0 : ℚ) < length := Nat.cast_pos.mpr hpos
  have hlength' : (length : ℚ) < 2 ^ 31 := by exact_mod_cast hlength
  have hle := quotient_le_one hhalf
  have hnear := abs_le.mp (abs_nearest_percents_le (by positivity) hle)
  have hunit : (1 : ℚ) / 2 ^ 31 < 1 / length := one_div_lt_one_div_of_lt hpos' hlength'
  have hscaled : 100 * ((half : ℚ) / 2 / length) = (100 * half : ℕ) / 2 * (1 / length) := by
    push_cast
    ring
  have hhalves : (k : ℚ) + 1 / 2 = ((2 * k + 1) * length : ℕ) / 2 * (1 / length) := by
    push_cast
    field_simp
  have hfloor : (k : ℤ) + 1 ≤ percents ((half : ℚ) / 2 / length) ↔
      (k : ℚ) + 1 ≤ nearest (nearest (nearest ((half : ℚ) / 2 / length) * 100) + 1 / 2) := by
    rw [percents, Int.le_floor]
    push_cast
    rfl
  rcases lt_trichotomy ((2 * k + 1) * length) (100 * half) with hlt | heq | hgt
  · have hreach : Reaches k half length := by
      unfold Reaches
      split_ifs
      · exact hlt
      · exact hlt.le
    refine iff_of_true (hfloor.mpr ?_) hreach
    have hstep : (((2 * k + 1) * length : ℕ) : ℚ) + 1 ≤ (100 * half : ℕ) := by exact_mod_cast hlt
    have hmul := mul_le_mul_of_nonneg_right hstep (one_div_nonneg.mpr hpos'.le)
    linarith
  · -- The quotient is the one of the half.
    have hquotient : (half : ℚ) / 2 / length = (2 * k + 1 : ℕ) / 200 := by
      have hcast : (((2 * k + 1) * length : ℕ) : ℚ) = (100 * half : ℕ) := by exact_mod_cast heq
      push_cast at hcast
      rw [div_eq_div_iff (by positivity) (by norm_num)]
      push_cast
      linarith
    rw [hquotient, le_percents_half_iff hk]
    unfold Reaches
    split_ifs with hdown
    · exact iff_of_false (not_not.mpr hdown) (by omega)
    · exact iff_of_true hdown heq.le
  · have hreach : ¬Reaches k half length := by
      unfold Reaches
      split_ifs <;> omega
    refine iff_of_false (mt hfloor.mp (not_le.mpr ?_)) hreach
    have hstep : ((100 * half : ℕ) : ℚ) + 1 ≤ ((2 * k + 1) * length : ℕ) := by exact_mod_cast hgt
    have hmul := mul_le_mul_of_nonneg_right hstep (one_div_nonneg.mpr hpos'.le)
    linarith

/-- All places are right only where half a percent is missing. -/
theorem percents_lt_iff (hpos : 0 < length) (hlength : length < 2 ^ 31) :
    percents ((half : ℚ) / 2 / length) < 100 ↔ 100 * half < 199 * length := by
  have hreach := le_percents_iff hhalf (k := 99) (by decide) hpos hlength
  rw [Reaches, if_neg (by decide)] at hreach
  omega

end Percents

/-- Percents are the same if the same of them are reached. -/
theorem eq_iff_reached {s t : ℤ} (hs : 0 ≤ s ∧ s ≤ 100) (ht : 0 ≤ t ∧ t ≤ 100) :
    s = t ↔ ∀ k < 100, ((k : ℕ) : ℤ) + 1 ≤ s ↔ (k : ℤ) + 1 ≤ t := by
  constructor
  · rintro rfl k -
    rfl
  · intro h
    by_contra hne
    rcases lt_or_gt_of_ne hne with hlt | hgt
    · have hreach := h s.toNat (by omega)
      omega
    · have hreach := h t.toNat (by omega)
      omega

/-- A quotient that is not less than one. -/
theorem hundred_le_percents {q : ℚ} (h : 1 ≤ q) : 100 ≤ percents q := by
  have hquotient := mul_le_nearest (zero_le_one.trans h)
  have hproduct := mul_le_nearest (mul_nonneg (nearest_nonneg q) (by norm_num : (0 : ℚ) ≤ 100))
  have hsum := mul_le_nearest
    (add_nonneg (nearest_nonneg (nearest q * 100)) (by norm_num : (0 : ℚ) ≤ 1 / 2))
  rw [percents, Int.le_floor]
  linarith

/-! ## Which texts have a score -/

section Score

variable {str1 str2 : List QChar} {cs : CaseSensitivity}

@[simp] theorem CaseSensitivity.length_key (s : List QChar) :
    (cs.key fold s).length = s.length := by
  cases cs with
  | CaseInsensitive => exact List.length_map fold
  | CaseSensitive => rfl

theorem longer_shorter_cases (str1 str2 : List QChar) :
    (longer str1 str2 = str1 ∧ shorter str1 str2 = str2) ∨
      (longer str1 str2 = str2 ∧ shorter str1 str2 = str1) := by
  unfold longer shorter
  split_ifs
  · exact Or.inl ⟨rfl, rfl⟩
  · exact Or.inr ⟨rfl, rfl⟩

theorem shorter_le_longer (str1 str2 : List QChar) :
    (shorter str1 str2).length ≤ (longer str1 str2).length := by
  unfold longer shorter
  split_ifs with h
  · exact h
  · exact (not_le.mp h).le

/-- The order does not matter for texts of different lengths. -/
theorem longer_comm (h : str1.length ≠ str2.length) :
    longer str1 str2 = longer str2 str1 ∧ shorter str1 str2 = shorter str2 str1 := by
  unfold longer shorter
  split_ifs
  all_goals first
    | exact ⟨rfl, rfl⟩
    | omega

theorem comparision_of_same (h : cs.key fold str1 = cs.key fold str2) :
    fuzzyShortStringComparision fold str1 str2 cs = 100 := if_pos h

theorem comparision_of_empty (h : cs.key fold str1 ≠ cs.key fold str2)
    (hempty : str1 = [] ∨ str2 = []) : fuzzyShortStringComparision fold str1 str2 cs = 0 := by
  rw [fuzzyShortStringComparision, if_neg h, if_pos hempty]

/-- A text and a part of it are at least the same, as they are compared the wrong way round. -/
theorem similar_of_contains (h : cs.key fold str1 ≠ cs.key fold str2) (h1 : str1 ≠ [])
    (h2 : str2 ≠ []) (hpart : cs.key fold (shorter str1 str2) <:+: cs.key fold (longer str1 str2)) :
    100 ≤ fuzzyShortStringComparision fold str1 str2 cs := by
  have hcode : fuzzyShortStringComparision fold str1 str2 cs
      = percents (((longer str1 str2).length : ℚ) / ((shorter str1 str2).length : ℚ)) := by
    rw [fuzzyShortStringComparision, if_neg h, if_neg (not_or.mpr ⟨h1, h2⟩)]
    simp [if_pos hpart]
  have hne : shorter str1 str2 ≠ [] := by
    rcases longer_shorter_cases str1 str2 with hcase | hcase <;> rw [hcase.2]
    · exact h2
    · exact h1
  have hpos : (0 : ℚ) < ((shorter str1 str2).length : ℚ) :=
    Nat.cast_pos.mpr (List.length_pos_of_ne_nil hne)
  have hle : ((shorter str1 str2).length : ℚ) ≤ ((longer str1 str2).length : ℚ) :=
    Nat.cast_le.mpr (shorter_le_longer str1 str2)
  have hone : 1 ≤ ((longer str1 str2).length : ℚ) / ((shorter str1 str2).length : ℚ) :=
    (one_le_div hpos).mpr hle
  rw [hcode]
  exact hundred_le_percents hone

theorem longer_ne_nil (h1 : str1 ≠ []) (h2 : str2 ≠ []) : longer str1 str2 ≠ [] := by
  rcases longer_shorter_cases str1 str2 with hcase | hcase <;> rw [hcase.1]
  · exact h1
  · exact h2

theorem comparision_of_places (h : cs.key fold str1 ≠ cs.key fold str2) (h1 : str1 ≠ [])
    (h2 : str2 ≠ [])
    (hpart : ¬ cs.key fold (shorter str1 str2) <:+: cs.key fold (longer str1 str2)) :
    fuzzyShortStringComparision fold str1 str2 cs
      = percents ((halfPoints (longer str1 str2) (shorter str1 str2) : ℚ) / 2
          / (longer str1 str2).length) := by
  rw [fuzzyShortStringComparision, if_neg h, if_neg (not_or.mpr ⟨h1, h2⟩)]
  rw [if_neg (fun hend => hpart hend.isInfix), if_neg (fun hstart => hpart hstart.isInfix),
    if_neg hpart, points_eq]

/-- Texts of one length are both the longer one. -/
theorem longer_of_length_eq (h : str1.length = str2.length) :
    longer str1 str2 = str1 ∧ shorter str1 str2 = str2 :=
  ⟨if_pos h.ge, if_pos h.ge⟩

theorem comparision_comm_iff (h : cs.key fold str1 ≠ cs.key fold str2) (h1 : str1 ≠ [])
    (h2 : str2 ≠ []) (hlength1 : str1.length < 2 ^ 31) (hlength2 : str2.length < 2 ^ 31)
    (hpart : ¬ cs.key fold (shorter str1 str2) <:+: cs.key fold (longer str1 str2)) :
    fuzzyShortStringComparision fold str1 str2 cs = fuzzyShortStringComparision fold str2 str1 cs
      ↔ (str1.length = str2.length → ∀ k < 100, (Reaches k (halfPoints str1 str2) str1.length
          ↔ Reaches k (halfPoints str2 str1) str2.length)) := by
  by_cases hlength : str1.length = str2.length
  · rcases longer_of_length_eq hlength with ⟨hlong, hshort⟩
    rcases longer_of_length_eq hlength.symm with ⟨hlong', hshort'⟩
    have hpart' : ¬ cs.key fold (shorter str2 str1) <:+: cs.key fold (longer str2 str1) := by
      rw [hlong', hshort']
      intro hin
      exact h (hin.eq_of_length (by simp [hlength]))
    have hhalf1 := halfPoints_le str1 str2
    have hhalf2 := halfPoints_le str2 str1
    rw [comparision_of_places fold h h1 h2 hpart,
      comparision_of_places fold (Ne.symm h) h2 h1 hpart', hlong, hshort, hlong', hshort',
      imp_iff_right hlength, eq_iff_reached (percents_bounds hhalf1) (percents_bounds hhalf2)]
    refine forall₂_congr fun k hk => ?_
    rw [le_percents_iff hhalf1 hk (List.length_pos_of_ne_nil h1) hlength1,
      le_percents_iff hhalf2 hk (List.length_pos_of_ne_nil h2) hlength2]
  · rcases longer_comm hlength with ⟨hlong, hshort⟩
    refine iff_of_true ?_ fun heq => absurd heq hlength
    rw [comparision_of_places fold h h1 h2 hpart, hlong, hshort,
      comparision_of_places fold (Ne.symm h) h2 h1 (by rwa [← hlong, ← hshort])]

end Score

end NeoSwift.Misc
