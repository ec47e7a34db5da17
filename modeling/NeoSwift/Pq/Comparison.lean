import NeoSwift.Pq.RoundedText

/-!
# Comparison of Quantities

`CPhysicalQuantity::equals`, `lessThan`, `compareImpl` and `getValueHash` for all classes of
quantities. Two quantities are equal if they differ by no more than the epsilon of a unit, which
is the same number in all units. It is taken in the unit of the quantity on the left, so in
another unit it is another difference. The hash is that of a rounded text in the default unit.

So the laws of a comparison hold for two quantities if their difference is not between the
epsilons of the two units, and if equal ones are rounded to the same text. In units that have
subdivisions the difference depends on the unit it is taken in, as these units convert numbers
that are no proper times or angles as well.

Numbers are exact.

## Main definitions

* `ExactQuantity`: A quantity whose value is a rational number.
* `ExactQuantity.equals`, `lessThan`, `compareImpl`, `getValueHash`: The comparisons.
* `ComparisonLaws`: What is expected of them.
* `Consistent`, `Near`, `SameText`: When they hold.

## Theorems

* `difference_mul_scale`: The difference in a unit and in the default unit.
* `comparisonLaws_iff_differences`: The laws in terms of the two differences.
* `comparisonLaws_iff`: Which quantities obey the laws.
* `comparisons_disagree`: Quantities that do not.
-/

namespace NeoSwift.Pq

open CMathUtils

/-- A quantity with a unit that its class offers. -/
structure ExactQuantity (c : PqClass) where
  m_value : ℚ
  m_unit : CMeasurementUnit
  offered : m_unit ∈ c.unitClass.offered

namespace ExactQuantity

variable {c : PqClass}

def isNull (q : ExactQuantity c) : Bool := q.m_unit.isNull

/-- `value(unit)`. -/
def value (q : ExactQuantity c) (unit : CMeasurementUnit) : ℚ := unit.convertFrom q.m_value q.m_unit

/-- Equal within the epsilon of the unit. -/
def equals (q other : ExactQuantity c) : Bool :=
  if q.isNull then other.isNull
  else if other.isNull then false
  else |q.m_value - other.value q.m_unit| ≤ q.m_unit.epsilon

/-- Null is greater than any other, and equal ones are not less. -/
def lessThan (q other : ExactQuantity c) : Bool :=
  if q.equals other then false
  else if !q.isNull && other.isNull then true
  else if q.isNull && !other.isNull then false
  else if q.isNull && other.isNull then false
  else q.m_value < other.value q.m_unit

/-- -1, 0 or 1. -/
def compareImpl (a b : ExactQuantity c) : ℤ :=
  if a.lessThan b then -1
  -- `a > b`
  else if b.lessThan a then 1
  else 0

/-- With all display digits. -/
def valueRoundedWithUnit (q : ExactQuantity c) (unit : CMeasurementUnit) : QString :=
  if q.isNull then "null" else unit.makeRoundedQStringWithUnit (q.value unit)

/-- The hash of the text rounded in the default unit. -/
def getValueHash (qHash : QString → UInt64) (q : ExactQuantity c) : UInt64 :=
  qHash (q.valueRoundedWithUnit c.unitClass.defaultUnit)

/-- What is expected of the comparisons of two quantities, whatever the hash of a text is. -/
structure ComparisonLaws (a b : ExactQuantity c) : Prop where
  equals_symm : a.equals b = b.equals a
  trichotomy : (a.lessThan b).toNat + (a.equals b).toNat + (b.lessThan a).toNat = 1
  nulls_equal : a.isNull = true → b.isNull = true → a.equals b = true
  null_last : a.isNull = false → b.isNull = true → a.lessThan b = true
  compare_antisymm : a.compareImpl b = -b.compareImpl a
  hash_eq : a.equals b = true → ∀ qHash, a.getValueHash qHash = b.getValueHash qHash

end ExactQuantity

/-! ## Units -/

/-- The epsilon of all units but the null unit. -/
def unitEpsilon : ℚ := 1 / 1000000000

/-- The factor of a conversion that has no subdivisions. -/
def Converter.scale : Converter → Option ℚ
  | identity => some 1
  | linear factor => some factor
  | affine factor _ => some factor
  | _ => none

def CMeasurementUnit.scale (unit : CMeasurementUnit) : Option ℚ :=
  unit.converter.bind Converter.scale

theorem epsilon_of_offered {c : PqClass} {unit : CMeasurementUnit}
    (h : unit ∈ c.unitClass.offered) (hnull : unit.isNull = false) :
      unit.epsilon = unitEpsilon := by
  have hall : ∀ unit ∈ c.unitClass.offered, unit.isNull = false → unit.epsilon = unitEpsilon := by
    cases c <;> decide +kernel
  exact hall unit h hnull

theorem scale_pos_of_offered {c : PqClass} {unit : CMeasurementUnit}
    (h : unit ∈ c.unitClass.offered) {f : ℚ} (hscale : unit.scale = some f) : 0 < f := by
  have hall : ∀ unit ∈ c.unitClass.offered, ∀ f ∈ unit.scale, 0 < f := by
    cases c <;> decide +kernel
  exact hall unit h f hscale

theorem converter_defaultUnit (c : PqClass) : c.unitClass.defaultUnit.converter =
    some .identity := by
  cases c <;> rfl

theorem displayDigits_defaultUnit (c : PqClass) :
    c.unitClass.defaultUnit.displayDigits ≠ 0 ∧
      (10 : ℚ) ^ c.unitClass.defaultUnit.displayDigits ≤ 100 := by
  cases c <;> decide +kernel

/-- Differences are scaled. -/
theorem toDefault_sub {conv : Converter} {f : ℚ} (h : conv.scale = some f) (x y : ℚ) :
    conv.toDefault x - conv.toDefault y = f * (x - y) := by
  cases conv with
  | identity =>
    rw [← Option.some.inj h]
    exact (one_mul _).symm
  | linear factor =>
    rw [← Option.some.inj h]
    simp only [Converter.toDefault]
    ring
  | affine factor offset =>
    rw [← Option.some.inj h]
    simp only [Converter.toDefault]
    ring
  | subdivision factor => cases h
  | subdivision2 factor => cases h

theorem toDefault_fromDefault {conv : Converter} {f : ℚ} (h : conv.scale = some f) (hf : f ≠ 0)
    (x : ℚ) : conv.toDefault (conv.fromDefault x) = x := by
  cases conv with
  | identity => rfl
  | linear factor =>
    rw [← Option.some.inj h] at hf
    exact div_mul_cancel₀ x hf
  | affine factor offset =>
    rw [← Option.some.inj h] at hf
    simp only [Converter.toDefault, Converter.fromDefault, add_sub_cancel_right]
    exact div_mul_cancel₀ x hf
  | subdivision factor => cases h
  | subdivision2 factor => cases h

namespace ExactQuantity

variable {c : PqClass}

/-- The value in the default unit. -/
def inDefault (q : ExactQuantity c) : ℚ :=
  (q.m_unit.converter.map fun conv => conv.toDefault q.m_value).getD 0

theorem value_defaultUnit (q : ExactQuantity c) :
    q.value c.unitClass.defaultUnit = q.inDefault := by
  unfold value inDefault CMeasurementUnit.convertFrom
  rw [converter_defaultUnit]
  cases hconv : q.m_unit.converter with
  | none => rfl
  | some conv =>
    dsimp only
    split_ifs with hsame
    · rw [← hsame]
      rfl
    · rfl

/-- What two quantities differ by, in the unit of the first one. -/
def difference (a b : ExactQuantity c) : ℚ := a.m_value - b.value a.m_unit

/-- The difference in a unit is that in the default unit, scaled. -/
theorem difference_mul_scale (a b : ExactQuantity c) (hb : b.isNull = false) {f : ℚ}
    (h : a.m_unit.scale = some f) : f * a.difference b = a.inDefault - b.inDefault := by
  have hf := scale_pos_of_offered a.offered h
  rcases Option.bind_eq_some_iff.mp h with ⟨own, hown, hscale⟩
  obtain ⟨others, hothers⟩ : ∃ others, b.m_unit.converter = some others :=
    Option.ne_none_iff_exists'.mp fun hnone => by
      unfold isNull CMeasurementUnit.isNull at hb
      rw [hnone] at hb
      cases hb
  unfold difference value inDefault CMeasurementUnit.convertFrom
  rw [hown, hothers]
  dsimp only [Option.map_some, Option.getD_some]
  rw [← toDefault_sub hscale]
  split_ifs with hsame
  · rw [hsame]
  · rw [toDefault_fromDefault hscale hf.ne']

/-! ## The laws -/

section NotNull

variable {a b : ExactQuantity c} (ha : a.isNull = false) (hb : b.isNull = false)

include ha hb

theorem equals_iff : a.equals b = true ↔ |a.difference b| ≤ unitEpsilon := by
  unfold equals difference
  rw [ha, hb, epsilon_of_offered a.offered ha]
  exact decide_eq_true_iff

theorem lessThan_iff :
    a.lessThan b = true ↔ ¬|a.difference b| ≤ unitEpsilon ∧ a.difference b < 0 := by
  have hequals := equals_iff ha hb
  unfold lessThan
  cases heq : a.equals b with
  | true =>
    rw [heq] at hequals
    exact iff_of_false Bool.false_ne_true fun h => h.1 (hequals.mp rfl)
  | false =>
    rw [heq] at hequals
    have hne : ¬|a.difference b| ≤ unitEpsilon := fun h => Bool.false_ne_true (hequals.mpr h)
    rw [ha, hb, and_iff_right hne]
    unfold difference
    rw [sub_neg]
    exact decide_eq_true_iff

end NotNull

/-- The texts in the default unit are the same. -/
theorem hash_eq_iff (a b : ExactQuantity c) :
    (∀ qHash, a.getValueHash qHash = b.getValueHash qHash) ↔
      a.valueRoundedWithUnit c.unitClass.defaultUnit
        = b.valueRoundedWithUnit c.unitClass.defaultUnit := by
  constructor
  · intro h
    -- A hash that tells the text of the first one from all others.
    by_contra hne
    have hhash : (if a.valueRoundedWithUnit c.unitClass.defaultUnit
          = a.valueRoundedWithUnit c.unitClass.defaultUnit then (1 : UInt64) else 0)
        = if b.valueRoundedWithUnit c.unitClass.defaultUnit
          = a.valueRoundedWithUnit c.unitClass.defaultUnit then 1 else 0 :=
      h fun text => if text = a.valueRoundedWithUnit c.unitClass.defaultUnit then 1 else 0
    rw [if_pos rfl, if_neg (Ne.symm hne)] at hhash
    cases hhash
  · intro h qHash
    exact congrArg qHash h

/-- Rounded to the same number in the default unit, and next to zero on the same side. -/
def SameText (a b : ExactQuantity c) : Prop :=
  qRound (a.inDefault * 10 ^ c.unitClass.defaultUnit.displayDigits)
      = qRound (b.inDefault * 10 ^ c.unitClass.defaultUnit.displayDigits) ∧
    (NegativeZero a.inDefault ↔ NegativeZero b.inDefault)

variable {a b : ExactQuantity c}

theorem hash_eq_iff_sameText (ha : a.isNull = false) (hb : b.isNull = false) :
    (∀ qHash, a.getValueHash qHash = b.getValueHash qHash) ↔ a.SameText b := by
  rcases displayDigits_defaultUnit c with ⟨hd, hpow⟩
  rw [hash_eq_iff]
  unfold valueRoundedWithUnit SameText
  rw [ha, hb, value_defaultUnit, value_defaultUnit]
  exact makeRoundedQStringWithUnit_eq_iff hd hpow _ _

/-- Differences that are both small, or both large with the same sign. -/
def SameSide (p q : ℚ) : Prop :=
  (|p| ≤ unitEpsilon ∧ |q| ≤ unitEpsilon) ∨ (unitEpsilon < p ∧ unitEpsilon < q) ∨
    (p < -unitEpsilon ∧ q < -unitEpsilon)

/-- What is large is so on one of two sides. -/
theorem not_abs_le_iff {p : ℚ} : ¬|p| ≤ unitEpsilon ↔ unitEpsilon < p ∨ p < -unitEpsilon := by
  rw [abs_le, not_and_or, not_le, not_le, or_comm]

theorem not_small_of_lt {p : ℚ} (h : unitEpsilon < p) : ¬|p| ≤ unitEpsilon ∧ ¬p < 0 := by
  have hpos : 0 < unitEpsilon := by unfold unitEpsilon; norm_num
  exact ⟨not_abs_le_iff.mpr (Or.inl h), by linarith⟩

theorem not_small_of_lt_neg {p : ℚ} (h : p < -unitEpsilon) : ¬|p| ≤ unitEpsilon ∧ p < 0 := by
  have hpos : 0 < unitEpsilon := by unfold unitEpsilon; norm_num
  exact ⟨not_abs_le_iff.mpr (Or.inr h), by linarith⟩

theorem comparisonLaws_of_null (h : a.isNull = true ∨ b.isNull = true) : ComparisonLaws a b := by
  -- With a null quantity the source compares the null flags only.
  have hequals (q r : ExactQuantity c) (hnull : q.isNull = true ∨ r.isNull = true) :
      q.equals r = (q.isNull && r.isNull) := by
    unfold equals
    cases hq : q.isNull with
    | true => rfl
    | false => rw [hnull.resolve_left (by rw [hq]; exact Bool.false_ne_true)]; rfl
  have hless (q r : ExactQuantity c) (hnull : q.isNull = true ∨ r.isNull = true) :
      q.lessThan r = (!q.isNull && r.isNull) := by
    unfold lessThan
    rw [hequals q r hnull]
    cases hq : q.isNull with
    | true => cases r.isNull <;> rfl
    | false => rw [hnull.resolve_left (by rw [hq]; exact Bool.false_ne_true)]; rfl
  have hab := hequals a b h
  have hba := hequals b a h.symm
  have hlt := hless a b h
  have hgt := hless b a h.symm
  refine ⟨?_, ?_, ?_, ?_, ?_, ?_⟩
  · rw [hab, hba, Bool.and_comm]
  · rw [hab, hlt, hgt]
    rcases h with ha | hb
    · rw [ha]
      cases b.isNull <;> rfl
    · rw [hb]
      cases a.isNull <;> rfl
  · intro ha hb
    rw [hab, ha, hb]
    rfl
  · intro ha hb
    rw [hlt, ha, hb]
    rfl
  · unfold compareImpl
    rw [hlt, hgt]
    cases a.isNull <;> cases b.isNull <;> rfl
  · intro heq
    rw [hab, Bool.and_eq_true] at heq
    rw [hash_eq_iff]
    unfold valueRoundedWithUnit
    rw [if_pos heq.1, if_pos heq.2]

/-- The laws in terms of the differences in the two units. -/
theorem comparisonLaws_iff_differences (ha : a.isNull = false) (hb : b.isNull = false) :
    ComparisonLaws a b ↔ SameSide (a.difference b) (-b.difference a) ∧
      (|a.difference b| ≤ unitEpsilon → a.SameText b) := by
  have hab := equals_iff ha hb
  have hba := equals_iff hb ha
  have hlt := lessThan_iff ha hb
  have hgt := lessThan_iff hb ha
  constructor
  · intro h
    refine ⟨?_, fun hsmall => (hash_eq_iff_sameText ha hb).mp (h.hash_eq (hab.mpr hsmall))⟩
    by_cases hsmall : |a.difference b| ≤ unitEpsilon
    · have hsmall' := hba.mp (h.equals_symm.symm.trans (hab.mpr hsmall))
      exact Or.inl ⟨hsmall, (abs_neg _).trans_le hsmall'⟩
    · have hneq : a.equals b = false := Bool.eq_false_iff.mpr fun heq => hsmall (hab.mp heq)
      have hsmall' : ¬|b.difference a| ≤ unitEpsilon := fun hle =>
        hsmall (hab.mp (h.equals_symm.trans (hba.mpr hle)))
      have htri := h.trichotomy
      rw [hneq] at htri
      -- Exactly one of them is less than the other.
      rcases not_abs_le_iff.mp hsmall with hlarge | hlarge
      · have hnlt : a.lessThan b = false := Bool.eq_false_iff.mpr fun hl =>
          (not_small_of_lt hlarge).2 (hlt.mp hl).2
        rw [hnlt] at htri
        have hg : b.lessThan a = true := by
          cases hb' : b.lessThan a with
          | true => rfl
          | false => rw [hb'] at htri; exact absurd htri (by omega)
        rcases not_abs_le_iff.mp hsmall' with hlarge' | hlarge'
        · exact absurd (hgt.mp hg).2 (not_small_of_lt hlarge').2
        · exact Or.inr (Or.inl ⟨hlarge, by linarith⟩)
      · have hl : a.lessThan b = true := hlt.mpr (not_small_of_lt_neg hlarge)
        rw [hl] at htri
        have hng : b.lessThan a = false := by
          cases hb' : b.lessThan a with
          | true => rw [hb'] at htri; cases htri
          | false => rfl
        rcases not_abs_le_iff.mp hsmall' with hlarge' | hlarge'
        · exact Or.inr (Or.inr ⟨hlarge, by linarith⟩)
        · exact absurd (hgt.mpr (not_small_of_lt_neg hlarge'))
            (by rw [hng]; exact Bool.false_ne_true)
  · rintro ⟨hside, htext⟩
    have hside' : a.equals b = b.equals a ∧
        (a.lessThan b).toNat + (a.equals b).toNat + (b.lessThan a).toNat = 1 := by
      rcases hside with ⟨hp, hq⟩ | ⟨hp, hq⟩ | ⟨hp, hq⟩
      · rw [abs_neg] at hq
        rw [hab.mpr hp, hba.mpr hq, Bool.eq_false_iff.mpr fun h => (hlt.mp h).1 hp,
          Bool.eq_false_iff.mpr fun h => (hgt.mp h).1 hq]
        exact ⟨rfl, rfl⟩
      · rcases not_small_of_lt hp with ⟨hnp, hnneg⟩
        have hq' := not_small_of_lt_neg (show b.difference a < -unitEpsilon by linarith)
        rw [Bool.eq_false_iff.mpr fun h => hnp (hab.mp h),
          Bool.eq_false_iff.mpr fun h => hq'.1 (hba.mp h),
          Bool.eq_false_iff.mpr fun h => hnneg (hlt.mp h).2, hgt.mpr hq']
        exact ⟨rfl, rfl⟩
      · have hp' := not_small_of_lt_neg hp
        rcases not_small_of_lt (show unitEpsilon < b.difference a by linarith) with ⟨hnq, hnneg⟩
        rw [Bool.eq_false_iff.mpr fun h => hp'.1 (hab.mp h),
          Bool.eq_false_iff.mpr fun h => hnq (hba.mp h), hlt.mpr hp',
          Bool.eq_false_iff.mpr fun h => hnneg (hgt.mp h).2]
        exact ⟨rfl, rfl⟩
    rcases hside' with ⟨hsymm, htri⟩
    refine ⟨hsymm, htri, fun hnull => ?_, fun _ hnull => ?_, ?_, fun heq => ?_⟩
    · rw [ha] at hnull
      cases hnull
    · rw [hb] at hnull
      cases hnull
    · unfold compareImpl
      cases hl : a.lessThan b with
      | false => cases b.lessThan a <;> rfl
      | true =>
        cases hg : b.lessThan a with
        | false => rfl
        | true =>
          rw [hl, hg] at htri
          cases he : a.equals b <;> rw [he] at htri <;> cases htri
    · exact (hash_eq_iff_sameText ha hb).mpr (htext (hab.mp heq))

/-! ## The condition -/

/-- The difference in the default unit is not between the epsilons of the two units. Where a unit
    has subdivisions, the differences in the two units are compared themselves. -/
def Consistent (a b : ExactQuantity c) : Prop :=
  match a.m_unit.scale, b.m_unit.scale with
  | some f, some g =>
    ¬(unitEpsilon * min f g < |a.inDefault - b.inDefault| ∧
      |a.inDefault - b.inDefault| ≤ unitEpsilon * max f g)
  | _, _ => SameSide (a.difference b) (-b.difference a)

/-- The difference in the default unit is at most the epsilon of the first unit. -/
def Near (a b : ExactQuantity c) : Prop :=
  match a.m_unit.scale, b.m_unit.scale with
  | some f, some _ => |a.inDefault - b.inDefault| ≤ unitEpsilon * f
  | _, _ => |a.difference b| ≤ unitEpsilon

theorem abs_le_iff_mul {f p : ℚ} (hf : 0 < f) : |p| ≤ unitEpsilon ↔ |f * p| ≤ unitEpsilon * f := by
  rw [abs_mul, abs_of_pos hf, mul_comm f, mul_le_mul_iff_left₀ hf]

theorem near_iff (hb : b.isNull = false) : a.Near b ↔ |a.difference b| ≤ unitEpsilon := by
  unfold Near
  cases hf : a.m_unit.scale with
  | none => exact Iff.rfl
  | some f =>
    cases hg : b.m_unit.scale with
    | none => exact Iff.rfl
    | some g =>
      rw [← difference_mul_scale a b hb hf]
      exact (abs_le_iff_mul (scale_pos_of_offered a.offered hf)).symm

/-- Scaled differences have the same sign, so only their size matters. -/
theorem sameSide_iff_of_mul {f g p q : ℚ} (hf : 0 < f) (hg : 0 < g) (h : f * p = g * q) :
    SameSide p q ↔ ¬(unitEpsilon * min f g < |f * p| ∧ |f * p| ≤ unitEpsilon * max f g) := by
  have hp := abs_le_iff_mul (p := p) hf
  have hq := abs_le_iff_mul (p := q) hg
  rw [← h] at hq
  have hpos : 0 < unitEpsilon := by unfold unitEpsilon; norm_num
  -- Both are small if the smaller factor leaves them small, and large with the larger one.
  have hsmall : |p| ≤ unitEpsilon ∧ |q| ≤ unitEpsilon ↔ |f * p| ≤ unitEpsilon * min f g := by
    rw [hp, hq, mul_min_of_nonneg _ _ hpos.le, le_min_iff]
  have hlarge : ¬|p| ≤ unitEpsilon ∧ ¬|q| ≤ unitEpsilon ↔ unitEpsilon * max f g < |f * p| := by
    rw [hp, hq, not_le, not_le, mul_max_of_nonneg _ _ hpos.le, max_lt_iff]
  rw [not_and_or, not_lt, not_le, ← hsmall, ← hlarge]
  refine or_congr_right ?_
  constructor
  · rintro (⟨hp, hq⟩ | ⟨hp, hq⟩)
    · exact ⟨(not_small_of_lt hp).1, (not_small_of_lt hq).1⟩
    · exact ⟨(not_small_of_lt_neg hp).1, (not_small_of_lt_neg hq).1⟩
  · rintro ⟨hnp, hnq⟩
    -- The signs agree, as both factors are positive.
    rcases not_abs_le_iff.mp hnp with hp' | hp'
    · have hqpos : 0 < q := by
        have hppos : 0 < f * p := mul_pos hf (hpos.trans hp')
        rw [h] at hppos
        exact (mul_pos_iff_of_pos_left hg).mp hppos
      rcases not_abs_le_iff.mp hnq with hq' | hq'
      · exact Or.inl ⟨hp', hq'⟩
      · linarith
    · have hqneg : q < 0 := by
        have hpneg : f * p < 0 := mul_neg_of_pos_of_neg hf (by linarith)
        by_contra hq'
        linarith [mul_nonneg hg.le (not_lt.mp hq')]
      rcases not_abs_le_iff.mp hnq with hq' | hq'
      · linarith
      · exact Or.inr ⟨hp', hq'⟩

theorem consistent_iff (ha : a.isNull = false) (hb : b.isNull = false) :
    a.Consistent b ↔ SameSide (a.difference b) (-b.difference a) := by
  unfold Consistent
  cases hf : a.m_unit.scale with
  | none => exact Iff.rfl
  | some f =>
    cases hg : b.m_unit.scale with
    | none => exact Iff.rfl
    | some g =>
      have hp := difference_mul_scale a b hb hf
      have hq := difference_mul_scale b a ha hg
      rw [← hp]
      refine (sameSide_iff_of_mul (scale_pos_of_offered a.offered hf)
        (scale_pos_of_offered b.offered hg) ?_).symm
      rw [hp, mul_neg, hq]
      ring

/-- The laws hold for two quantities if and only if one of them is null, or their difference is not
    between the epsilons of their units and they have the same text when it is at most the
    first one. -/
theorem comparisonLaws_iff (a b : ExactQuantity c) :
    ComparisonLaws a b ↔
      a.isNull = true ∨ b.isNull = true ∨ a.Consistent b ∧ (a.Near b → a.SameText b) := by
  by_cases hnull : a.isNull = true ∨ b.isNull = true
  · rw [← or_assoc]
    exact iff_of_true (comparisonLaws_of_null hnull) (Or.inl hnull)
  · rw [not_or, Bool.not_eq_true, Bool.not_eq_true] at hnull
    rcases hnull with ⟨ha, hb⟩
    rw [comparisonLaws_iff_differences ha hb, consistent_iff ha hb, near_iff hb, ha, hb]
    simp

theorem length_offered : CLengthUnit.Units.m ∈ PqClass.length.unitClass.offered ∧
    CLengthUnit.Units.NM ∈ PqClass.length.unitClass.offered := by decide +kernel

/-- A length in metres. -/
def meters (x : ℚ) : ExactQuantity .length := ⟨x, _, length_offered.1⟩
def nauticalMiles (x : ℚ) : ExactQuantity .length := ⟨x, _, length_offered.2⟩

/-- A mile is equal to some metres that are not equal to it, and there are equal lengths whose
    texts differ. -/
theorem comparisons_disagree :
    ¬ComparisonLaws (nauticalMiles 1) (meters (1852 + 1 / 100000000)) ∧
      ¬ComparisonLaws (meters (10049999999 / 10000000000)) (meters (1005 / 1000)) := by
  refine ⟨fun h => ?_, fun h => ?_⟩
  · have hsymm := h.equals_symm
    have hne : (nauticalMiles 1).equals (meters (1852 + 1 / 100000000))
        ≠ (meters (1852 + 1 / 100000000)).equals (nauticalMiles 1) := by decide +kernel
    exact hne hsymm
  · have hsame := (hash_eq_iff_sameText rfl rfl).mp (h.hash_eq (by decide +kernel))
    have hround : qRound ((meters (10049999999 / 10000000000)).inDefault * 10 ^ 2)
        ≠ qRound ((meters (1005 / 1000)).inDefault * 10 ^ 2) := by decide +kernel
    exact hround hsame.1

end ExactQuantity

end NeoSwift.Pq
