import Mathlib.Tactic.Ring
import NeoSwift.Fsd.Pbh

/-!
# Precision of Pitch, Bank and Heading

How far what is unpacked is from what was packed. The heading and the ground flag lose
nothing but the part of a step, and the heading starts over at 360 degrees.

Pitch and bank are rounded twice. The number of steps is rounded when they are packed,
which gives an angle up to a step above, and that angle is rounded down to a whole degree
when it is unpacked. So whole degrees come back as they were, and other angles are off by
up to a degree, which is almost three steps. For the same reason most words are not the
same when what is unpacked is packed again: there are more steps than whole degrees.

## Main definitions

* `oneStep`: The step of all three angles.
* `wholeAngle`, `stepHeading`: What becomes of an angle and of a heading.
* `AttitudeKept`: What comes back of an attitude.

## Theorems

* `unpackPBH_packPBH_eq`: What is unpacked, for any attitude.
* `wholeAngle_between`, `stepHeading_between`: How far it is off.
* `packPBH_unpackPBH_iff`: The words that are packed again as they were.
* `attitude_kept`: What comes back of any attitude in range.
* `off_by_two_steps`: A pitch and a word that do not.
-/

namespace NeoSwift.Fsd

/-- 360 degrees in ten bits. -/
def oneStep : ℚ := 360 / 1024

/-- What becomes of a pitch or a bank. -/
def wholeAngle (x : ℚ) : ℚ :=
  ⌊(ofSignedField (toField ⌊x * -(128 / 45)⌋) : ℚ) / -(128 / 45)⌋

/-- What becomes of a heading. -/
def stepHeading (x : ℚ) : ℚ :=
  (toField (Int.tdiv (x * headingMultiplier).num (x * headingMultiplier).den) : ℚ)
    / headingMultiplier

theorem pitchMultiplier_eq : pitchMultiplier = 128 / 45 := by norm_num [pitchMultiplier]

theorem bankMultiplier_eq : bankMultiplier = 128 / 45 := by norm_num [bankMultiplier]

/-- Every field is unpacked on its own. -/
theorem unpackPBH_packPBH_eq (a : Attitude) :
    unpackPBH (packPBH a)
      = { pitch := wholeAngle a.pitch
          bank := wholeAngle a.bank
          heading := stepHeading a.heading
          onGround := a.onGround } := by
  have hground : (if a.onGround then 2 else 0) < 4 := by split <;> decide
  have hpitch := toField_lt ⌊a.pitch * -pitchMultiplier⌋
  have hbank := toField_lt ⌊a.bank * -bankMultiplier⌋
  have hheading := toField_lt (Int.tdiv (a.heading * headingMultiplier).num
    (a.heading * headingMultiplier).den)
  -- The word as a sum, with each field below its limit.
  have hword := fields_of_word hground hheading hbank hpitch
  unfold unpackPBH packPBH
  rw [hword]
  rw [pitchMultiplier_eq] at hpitch ⊢
  rw [bankMultiplier_eq] at hbank ⊢
  unfold wholeAngle stepHeading
  -- Only the limits of the fields matter for taking the word apart.
  generalize toField ⌊a.pitch * -(128 / 45)⌋ = p at hpitch ⊢
  generalize toField ⌊a.bank * -(128 / 45)⌋ = b at hbank ⊢
  generalize toField (Int.tdiv (a.heading * headingMultiplier).num
    (a.heading * headingMultiplier).den) = h at hheading ⊢
  have hp : ((if a.onGround then 2 else 0) + 4 * h + 4096 * b + 4194304 * p) /
    4194304 % 1024 = p := by
    split <;> omega
  have hb : ((if a.onGround then 2 else 0) + 4 * h + 4096 * b + 4194304 * p) / 4096 % 1024 = b := by
    split <;> omega
  have hh : ((if a.onGround then 2 else 0) + 4 * h + 4096 * b + 4194304 * p) / 4 % 1024 = h := by
    split <;> omega
  rw [hp, hb, hh]
  congr 1
  cases a.onGround with
  | false =>
      rw [if_neg (by decide), beq_eq_false_iff_ne]
      omega
  | true =>
      rw [if_pos rfl, beq_iff_eq]
      omega

/-! ## How far it is off -/

/-- An angle comes back less than a degree below and less than a step above. -/
theorem wholeAngle_between {x : ℚ} (hlo : -180 < x) (hhi : x ≤ 180) :
    x - 1 < wholeAngle x ∧ wholeAngle x < x + oneStep := by
  have hle := Int.floor_le (x * -(128 / 45))
  have hlt := Int.lt_floor_add_one (x * -(128 / 45))
  unfold wholeAngle oneStep
  generalize ⌊x * -(128 / 45)⌋ = n at hle hlt ⊢
  have hnlo : -512 ≤ n := by
    have hq : (-513 : ℚ) < n := by linarith
    have hz : (-513 : ℤ) < n := by exact_mod_cast hq
    omega
  have hnhi : n < 512 := by
    have hq : (n : ℚ) < 512 := by linarith
    exact_mod_cast hq
  have hdiv : (n : ℚ) / -(128 / 45) = -(n * (45 / 128)) := by
    field_simp
  rw [ofSignedField_toField hnlo hnhi, hdiv]
  have hfloor := Int.floor_le (-((n : ℚ) * (45 / 128)))
  have hnext := Int.lt_floor_add_one (-((n : ℚ) * (45 / 128)))
  constructor
  · linarith
  · linarith

/-- Whole degrees come back. -/
theorem wholeAngle_intCast {p : ℤ} (hlo : -180 < p) (hhi : p ≤ 180) : wholeAngle p = p := by
  unfold wholeAngle
  rw [angle_roundTrip hlo hhi]

/-- Truncated, a number that is not negative is rounded down. -/
theorem tdiv_num_den {x : ℚ} (h : 0 ≤ x) : Int.tdiv x.num x.den = ⌊x⌋ := by
  rw [Int.tdiv_eq_ediv_of_nonneg (Rat.num_nonneg.mpr h), Rat.floor_def']

/-- A heading comes back less than a step below, modulo 360 degrees. -/
theorem stepHeading_between {x : ℚ} (hlo : 0 ≤ x) :
    ∃ turns : ℤ, x - oneStep < stepHeading x + 360 * turns ∧ stepHeading x + 360 * turns ≤ x := by
  have hmul : 0 ≤ x * headingMultiplier :=
    mul_nonneg hlo (by norm_num [headingMultiplier])
  have hle := Int.floor_le (x * headingMultiplier)
  have hlt := Int.lt_floor_add_one (x * headingMultiplier)
  unfold stepHeading toField oneStep
  rw [tdiv_num_den hmul]
  unfold headingMultiplier at hle hlt ⊢
  generalize ⌊x * (1024 / 360)⌋ = n at hle hlt ⊢
  have hcast : (((n % 1024).toNat : ℕ) : ℤ) = n % 1024 := by omega
  -- What the ten bits lose are whole turns.
  have hsplit : ((n % 1024 : ℤ) : ℚ) + 1024 * (n / 1024 : ℤ) = n := by
    exact_mod_cast Int.emod_add_mul_ediv n 1024
  have hfield : (((n % 1024).toNat : ℕ) : ℚ) = ((n % 1024 : ℤ) : ℚ) := by exact_mod_cast hcast
  refine ⟨n / 1024, ?_⟩
  rw [hfield]
  have hsteps : ((n % 1024 : ℤ) : ℚ) / (1024 / 360) + 360 * ((n / 1024 : ℤ) : ℚ)
      = n * (360 / 1024) := by
    rw [← hsplit]
    ring
  constructor
  · linarith
  · linarith

/-! ## Packing again -/

/-- Bounds of a field as it is unpacked. -/
theorem ofSignedField_bounds {m : ℕ} (h : m < 1024) :
    -512 ≤ ofSignedField m ∧ ofSignedField m < 512 := by
  unfold ofSignedField
  split
  · omega
  · omega

/-- Half a turn to the other side is the one whole angle that does not come back. -/
theorem wholeAngle_neg_oneEighty : wholeAngle (-180) = 180 := by
  have hfloor : ⌊(-180 : ℚ) * -(128 / 45)⌋ = 512 := by
    norm_num
  have hback : ⌊((-512 : ℤ) : ℚ) / -(128 / 45)⌋ = 180 := by
    norm_num
  unfold wholeAngle
  rw [hfloor]
  have hfield : ofSignedField (toField 512) = -512 := by decide
  rw [hfield, hback]
  rfl

/-- What is unpacked from a field is half a turn at most, and the other side only where it
    does not come back. -/
theorem exists_whole_of_unpacked {m : ℕ} (hm : m < 1024)
    (hback : wholeAngle ⌊(ofSignedField m : ℚ) / -(128 / 45)⌋
      = ⌊(ofSignedField m : ℚ) / -(128 / 45)⌋) :
    ∃ p : ℤ, ((⌊(ofSignedField m : ℚ) / -(128 / 45)⌋ : ℤ) : ℚ) = p ∧ -180 < p ∧ p ≤ 180 := by
  rcases ofSignedField_bounds hm with ⟨hnlo, hnhi⟩
  generalize ofSignedField m = n at hback hnlo hnhi ⊢
  -- The negative divisor turns the interval around.
  have hdiv : (n : ℚ) / -(128 / 45) = -(n * (45 / 128)) := by
    field_simp
  rw [hdiv] at hback ⊢
  have hlo : (-512 : ℚ) ≤ n := by exact_mod_cast hnlo
  have hhi : (n : ℚ) < 512 := by exact_mod_cast hnhi
  have hle : ⌊-((n : ℚ) * (45 / 128))⌋ ≤ 180 := by
    rw [Int.floor_le_iff]
    norm_num
    linarith
  have hge : -180 ≤ ⌊-((n : ℚ) * (45 / 128))⌋ := by
    rw [Int.le_floor]
    norm_num
    linarith
  generalize ⌊-((n : ℚ) * (45 / 128))⌋ = p at hback hle hge ⊢
  refine ⟨p, rfl, ?_, hle⟩
  -- The lower end is unpacked to the other side, and so does not come back.
  by_contra hnot
  have hp : p = -180 := by omega
  rw [hp] at hback
  have hother := wholeAngle_neg_oneEighty.symm.trans hback
  norm_num at hother

/-- A word is packed again as it was exactly where it was packed from whole degrees of pitch
    and bank. -/
theorem packPBH_unpackPBH_iff (w : UInt32) :
    packPBH (unpackPBH w) = w ↔ ∃ a : Attitude, a.Representable ∧ packPBH a = w := by
  constructor
  · intro hsame
    refine ⟨unpackPBH w, ?_, hsame⟩
    have hback := unpackPBH_packPBH_eq (unpackPBH w)
    rw [hsame] at hback
    have hpitch := congrArg Attitude.pitch hback
    have hbank := congrArg Attitude.bank hback
    unfold unpackPBH at hpitch hbank
    rw [pitchMultiplier_eq] at hpitch
    rw [bankMultiplier_eq] at hbank
    unfold Attitude.Representable unpackPBH
    rw [pitchMultiplier_eq, bankMultiplier_eq]
    refine ⟨exists_whole_of_unpacked (by omega) hpitch.symm,
      exists_whole_of_unpacked (by omega) hbank.symm, w.toNat / 4 % 1024, by omega, ?_⟩
    unfold headingMultiplier
    field_simp
  · rintro ⟨a, hwhole, rfl⟩
    rw [unpackPBH_packPBH hwhole]

/-- What comes back of an attitude: the flag, pitch and bank as whole degrees, less than a degree
    below and less than a step above and as they were where they are whole, the heading less than
    a step below up to whole turns, and each no matter what the others are. -/
structure AttitudeKept (a : Attitude) : Prop where
  onGround : (unpackPBH (packPBH a)).onGround = a.onGround
  pitch : a.pitch - 1 < (unpackPBH (packPBH a)).pitch ∧
    (unpackPBH (packPBH a)).pitch < a.pitch + oneStep
  bank : a.bank - 1 < (unpackPBH (packPBH a)).bank ∧ (unpackPBH (packPBH a)).bank < a.bank + oneStep
  integers : (∃ p : ℤ, (unpackPBH (packPBH a)).pitch = p) ∧
    ∃ b : ℤ, (unpackPBH (packPBH a)).bank = b
  wholePitch : ∀ p : ℤ, a.pitch = p → (unpackPBH (packPBH a)).pitch = a.pitch
  wholeBank : ∀ b : ℤ, a.bank = b → (unpackPBH (packPBH a)).bank = a.bank
  heading : ∃ turns : ℤ, a.heading - oneStep < (unpackPBH (packPBH a)).heading + 360 * turns ∧
    (unpackPBH (packPBH a)).heading + 360 * turns ≤ a.heading
  alone : ∀ b : Attitude,
    (b.pitch = a.pitch → (unpackPBH (packPBH b)).pitch = (unpackPBH (packPBH a)).pitch) ∧
    (b.bank = a.bank → (unpackPBH (packPBH b)).bank = (unpackPBH (packPBH a)).bank) ∧
    (b.heading = a.heading → (unpackPBH (packPBH b)).heading = (unpackPBH (packPBH a)).heading) ∧
    (b.onGround = a.onGround → (unpackPBH (packPBH b)).onGround = (unpackPBH (packPBH a)).onGround)

/-- This much comes back of every attitude in range; and the words that are packed again as
    they were are those packed from whole degrees. -/
theorem attitude_kept (a : Attitude) (hpitch : -90 ≤ a.pitch ∧ a.pitch ≤ 90)
    (hbank : -180 < a.bank ∧ a.bank ≤ 180) (hheading : 0 ≤ a.heading ∧ a.heading ≤ 360) :
    AttitudeKept a ∧ ∀ w : UInt32, packPBH (unpackPBH w) = w ↔ ∃ b : Attitude, b.Representable ∧
        packPBH b = w := by
  refine ⟨?_, packPBH_unpackPBH_iff⟩
  have hlo : -180 < a.pitch := by linarith [hpitch.1]
  have hhi : a.pitch ≤ 180 := by linarith [hpitch.2]
  have heq := unpackPBH_packPBH_eq a
  constructor
  case onGround => rw [heq]
  case pitch =>
    rw [heq]
    exact wholeAngle_between hlo hhi
  case bank =>
    rw [heq]
    exact wholeAngle_between hbank.1 hbank.2
  case integers =>
    exact ⟨⟨_, rfl⟩, ⟨_, rfl⟩⟩
  -- A whole number of degrees is its own floor, in range or not.
  case wholePitch =>
    intro p hp
    rw [heq]
    rw [hp] at hlo hhi ⊢
    exact wholeAngle_intCast (by exact_mod_cast hlo) (by exact_mod_cast hhi)
  case wholeBank =>
    intro b hb
    rw [heq]
    rw [hb] at hbank ⊢
    exact wholeAngle_intCast (by exact_mod_cast hbank.1) (by exact_mod_cast hbank.2)
  case heading =>
    rw [heq]
    exact stepHeading_between hheading.1
  case alone =>
    intro b
    rw [heq, unpackPBH_packPBH_eq b]
    exact ⟨congrArg wholeAngle, congrArg wholeAngle, congrArg stepHeading, id⟩

/-- A climb to the right, almost through north. -/
def climb : Attitude := { pitch := -17 / 10, bank := 45, heading := 3599 / 10, onGround := true }

theorem attitude_kept_climb : AttitudeKept climb := by
  refine (attitude_kept climb ?_ ?_ ?_).1
  · unfold climb
    norm_num
  · unfold climb
    norm_num
  · unfold climb
    norm_num

/-- A pitch of 1.7 degrees comes back as one degree, two steps off however often it turns. And
    the word with a pitch of one step is packed again as zero. -/
theorem off_by_two_steps :
    ((unpackPBH (packPBH { pitch := 17 / 10 })).pitch = 1 ∧
      ∀ turns : ℤ, oneStep < |(1 : ℚ) - 17 / 10 + 360 * turns|) ∧
    ((4290772992 : UInt32).toNat % 2 = 0 ∧ packPBH (unpackPBH 4290772992) = 0) := by
  refine ⟨⟨by decide +kernel, fun turns => ?_⟩, by decide +kernel, by decide +kernel⟩
  unfold oneStep
  by_cases hpositive : 0 < turns
  · have hcast : (1 : ℚ) ≤ turns := by exact_mod_cast hpositive
    exact lt_abs.mpr (Or.inl (by linarith))
  · have hcast : (turns : ℚ) ≤ 0 := by exact_mod_cast not_lt.mp hpositive
    exact lt_abs.mpr (Or.inr (by linarith))

end NeoSwift.Fsd
