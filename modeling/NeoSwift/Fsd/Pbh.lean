import Mathlib.Algebra.Order.Floor.Ring
import Mathlib.Algebra.Order.Field.Rat
import Mathlib.Data.Rat.Floor
import Mathlib.Tactic.Common
import Mathlib.Tactic.FieldSimp
import Mathlib.Tactic.Linarith

/-!
# Pitch, Bank and Heading

The three attitude angles and the ground flag packed into 32 bits: from the
lowest bit up an unused bit, the flag, ten bits of heading and ten bits each of
bank and pitch, the last two signed and inverted. Packing rounds the angles to
the steps of their fields, and unpacking rounds pitch and bank again to whole
degrees, so what comes back are whole degrees and headings that are a multiple
of the step.

## Main definitions

* `packPBH`, `unpackPBH`: The two directions.
* `Attitude.Representable`: The angles that come back.

## Theorems

* `unpackPBH_packPBH`: Representable angles come back.
-/

namespace NeoSwift.Fsd

/-- Pitch, bank, heading and the ground flag. -/
structure Attitude where
  pitch : ℚ := 0
  bank : ℚ := 0
  heading : ℚ := 0
  onGround : Bool := false
  deriving DecidableEq

def pitchMultiplier : ℚ := 256 / 90

def bankMultiplier : ℚ := 512 / 180

def headingMultiplier : ℚ := 1024 / 360

/-- The ten bits of a number. -/
def toField (n : ℤ) : ℕ := (n % 1024).toNat

/-- The number in a signed field of ten bits. -/
def ofSignedField (m : ℕ) : ℤ := if m < 512 then m else m - 1024

/-- `packPBH`. -/
def packPBH (a : Attitude) : UInt32 :=
  let pitch := toField ⌊a.pitch * -pitchMultiplier⌋
  let bank := toField ⌊a.bank * -bankMultiplier⌋
  let hdg := toField (Int.tdiv (a.heading * headingMultiplier).num
    (a.heading * headingMultiplier).den)
  UInt32.ofNat ((if a.onGround then 2 else 0) + 4 * hdg + 4096 * bank + 4194304 * pitch)

/-- `unpackPBH`. -/
def unpackPBH (pbh : UInt32) : Attitude where
  pitch := ⌊(ofSignedField (pbh.toNat / 4194304 % 1024) : ℚ) / -pitchMultiplier⌋
  bank := ⌊(ofSignedField (pbh.toNat / 4096 % 1024) : ℚ) / -bankMultiplier⌋
  heading := (pbh.toNat / 4 % 1024 : ℕ) / headingMultiplier
  onGround := pbh.toNat / 2 % 2 == 1

/-- Whole degrees of pitch and bank, and a heading on a step of its field. -/
def Attitude.Representable (a : Attitude) : Prop :=
  (∃ p : ℤ, a.pitch = p ∧ -180 < p ∧ p ≤ 180) ∧ (∃ b : ℤ, a.bank = b ∧ -180 < b ∧ b ≤ 180) ∧
    ∃ h : ℕ, h < 1024 ∧ a.heading = h * (360 / 1024)

theorem toField_lt (n : ℤ) : toField n < 1024 := by
  rw [toField]
  omega

theorem ofSignedField_toField {n : ℤ} (hlo : -512 ≤ n) (hhi : n < 512) :
    ofSignedField (toField n) = n := by
  rw [ofSignedField, toField]
  split <;> omega

/-- The fields are read back from the word they are packed into. -/
theorem fields_of_word {g h b p : ℕ} (hg : g < 4) (hh : h < 1024) (hb : b < 1024) (hp : p < 1024) :
    (UInt32.ofNat (g + 4 * h + 4096 * b + 4194304 * p)).toNat
      = g + 4 * h + 4096 * b + 4194304 * p := by
  rw [UInt32.toNat_ofNat']
  omega

/-- A whole angle survives the two roundings of its signed field. -/
theorem angle_roundTrip {p : ℤ} (hlo : -180 < p) (hhi : p ≤ 180) :
    ⌊(ofSignedField (toField ⌊(p : ℚ) * -(128 / 45)⌋) : ℚ) / -(128 / 45)⌋ = p := by
  have hle := Int.floor_le ((p : ℚ) * -(128 / 45))
  have hlt := Int.lt_floor_add_one ((p : ℚ) * -(128 / 45))
  generalize hn : ⌊(p : ℚ) * -(128 / 45)⌋ = n at hle hlt
  have hlo' : (-180 : ℚ) < p := by exact_mod_cast hlo
  have hhi' : (p : ℚ) ≤ 180 := by exact_mod_cast hhi
  have hnlo : -512 ≤ n := by
    have hq : (-513 : ℚ) < n := by linarith
    have hz : (-513 : ℤ) < n := by exact_mod_cast hq
    omega
  have hnhi : n < 512 := by
    have hq : (n : ℚ) < 512 := by linarith
    exact_mod_cast hq
  rw [ofSignedField_toField hnlo hnhi, Int.floor_eq_iff]
  have hdiv : (n : ℚ) / -(128 / 45) = -(n * (45 / 128)) := by
    field_simp
  constructor <;> linarith

theorem unpackPBH_packPBH {a : Attitude} (h : a.Representable) : unpackPBH (packPBH a) = a := by
  rcases h with ⟨⟨p, hp, hplo, hphi⟩, ⟨b, hb, hblo, hbhi⟩, ⟨d, hd, hheading⟩⟩
  have hpm : pitchMultiplier = 128 / 45 := by norm_num [pitchMultiplier]
  have hbm : bankMultiplier = 128 / 45 := by norm_num [bankMultiplier]
  -- Whole steps of the heading are not truncated.
  have hsteps : a.heading * headingMultiplier = (d : ℚ) := by
    rw [hheading, headingMultiplier]
    field_simp
  have htrunc : Int.tdiv (a.heading * headingMultiplier).num
      (a.heading * headingMultiplier).den = d := by
    rw [hsteps]
    simp
  have hhdg : toField (d : ℤ) = d := by
    rw [toField]
    omega
  have hground : (if a.onGround then 2 else 0) < 4 := by split <;> decide
  -- The word is the sum of its fields, so division and remainder give each of them back.
  have hword := fields_of_word hground (h := d) (by omega)
    (toField_lt ⌊a.bank * -bankMultiplier⌋) (toField_lt ⌊a.pitch * -pitchMultiplier⌋)
  have hpitchField := toField_lt ⌊a.pitch * -pitchMultiplier⌋
  have hbankField := toField_lt ⌊a.bank * -bankMultiplier⌋
  have hpitch : (packPBH a).toNat / 4194304 % 1024 = toField ⌊a.pitch * -pitchMultiplier⌋ := by
    simp only [packPBH, htrunc, hhdg]
    omega
  have hbank : (packPBH a).toNat / 4096 % 1024 = toField ⌊a.bank * -bankMultiplier⌋ := by
    simp only [packPBH, htrunc, hhdg]
    omega
  have hhead : (packPBH a).toNat / 4 % 1024 = d := by
    simp only [packPBH, htrunc, hhdg]
    omega
  have hflag : ((packPBH a).toNat / 2 % 2 == 1) = a.onGround := by
    simp only [packPBH, htrunc, hhdg, hword]
    cases a.onGround
    · simp only [Bool.false_eq_true, if_false, beq_eq_false_iff_ne]
      omega
    · simp only [if_true, beq_iff_eq]
      omega
  simp only [unpackPBH, hpitch, hbank, hhead, hflag]
  -- What is left is to undo the scaling of the three angles.
  have hback : (d : ℚ) / headingMultiplier = a.heading := by
    rw [← hsteps, headingMultiplier]
    field_simp
  have hpback := angle_roundTrip hplo hphi
  have hbback := angle_roundTrip hblo hbhi
  rw [hp, hb, hpm, hbm, hpback, hbback, hback, ← hp, ← hb]

end NeoSwift.Fsd
