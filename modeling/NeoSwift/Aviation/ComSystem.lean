import Mathlib.Algebra.Order.Group.Abs
import Mathlib.Algebra.Order.Group.Int

/-!
# COM Frequencies and 8.33 kHz Channels

`aviation/comsystem.cpp`: the bands of COM frequencies and the channels of the 8.33 kHz
spacing. A channel is named by a number of kHz that is a multiple of five and does not end in
20, 45, 70 or 95. What is no channel is rounded to the closest one, upwards between two, and
then clamped to the civil band.

The military band is all above the civil one. There a channel is left as it is, and whatever
is none becomes the upper end of the civil band.

Frequencies are their integer kHz values here, which is what the checks compare.

## Main definitions

* `isValidCivilAviationFrequency`, `isValidMilitaryFrequency`: The bands.
* `isValid8_33kHzChannel`, `round8_33kHzChannel`: The channels and rounding to them.
* `RoundsInBand`: What rounding is to do.

## Theorems

* `lowerChannel_spec`, `upperChannel_spec`: The candidates are channels.
* `closestChannel_spec`: The closer of the two, before it is clamped.
* `round8_33kHzChannel_of_civil`, `round8_33kHzChannel_of_military`: The two bands.
* `rounds_in_band_iff`: When rounding does what it is to do.
* `military_frequency_leaves_band`: A frequency it moves to the other band.
-/

namespace NeoSwift.Aviation

/-- The civil band, in kHz. -/
def isValidCivilAviationFrequency (fr : ℤ) : Bool := fr ≥ 118000 ∧ fr ≤ 136990

/-- The military band, in kHz. -/
def isValidMilitaryFrequency (fr : ℤ) : Bool := fr ≥ 220000 ∧ fr ≤ 399950

def isValidComFrequency (fr : ℤ) : Bool :=
  isValidCivilAviationFrequency fr || isValidMilitaryFrequency fr

/-- The remainders of the source take the sign of the dividend. -/
def isValid8_33kHzChannel (fKHz : ℤ) : Bool :=
  let lastDigits := fKHz.tmod 100
  fKHz.tmod 5 = 0 ∧ lastDigits ≠ 20 ∧ lastDigits ≠ 45 ∧ lastDigits ≠ 70 ∧ lastDigits ≠ 95

/-- The valid channel below the frequency. -/
def lowerChannel (fKHz : ℤ) : ℤ :=
  let lower := fKHz - fKHz.tmod 5
  if !isValid8_33kHzChannel lower then lower - 5 else lower

/-- The valid channel above the frequency. -/
def upperChannel (fKHz : ℤ) : ℤ :=
  let upper := fKHz + (5 - fKHz.tmod 5)
  if !isValid8_33kHzChannel upper then upper + 5 else upper

/-- The nearer of both, the upper one if they are equally near. -/
def closestChannel (fKHz : ℤ) : ℤ :=
  let lowerDiff := |fKHz - lowerChannel fKHz|
  let upperDiff := |fKHz - upperChannel fKHz|
  if lowerDiff < upperDiff then lowerChannel fKHz else upperChannel fKHz

/-- `std::clamp`. -/
def clamp (v lo hi : ℤ) : ℤ := if v < lo then lo else if hi < v then hi else v

/-- A channel stays, and anything else becomes the closest one in the civil band. -/
def round8_33kHzChannel (fKHz : ℤ) : ℤ :=
  if !isValid8_33kHzChannel fKHz then clamp (closestChannel fKHz) 118000 136990 else fKHz

/-- What rounding is to do: the result is a channel, of the same band and close by, and
    rounding it again changes nothing, nor does rounding what is a channel. -/
structure RoundsInBand (fKHz : ℤ) : Prop where
  valid : isValid8_33kHzChannel (round8_33kHzChannel fKHz)
  civil : isValidCivilAviationFrequency fKHz →
    isValidCivilAviationFrequency (round8_33kHzChannel fKHz)
  military : isValidMilitaryFrequency fKHz → isValidMilitaryFrequency (round8_33kHzChannel fKHz)
  within : |round8_33kHzChannel fKHz - fKHz| ≤ 10
  idempotent : round8_33kHzChannel (round8_33kHzChannel fKHz) = round8_33kHzChannel fKHz
  unchanged : isValid8_33kHzChannel fKHz → round8_33kHzChannel fKHz = fKHz

theorem isValid8_33kHzChannel_iff {fKHz : ℤ} (h : 0 ≤ fKHz) : isValid8_33kHzChannel fKHz ↔
    fKHz % 5 = 0 ∧ fKHz % 100 ≠ 20 ∧ fKHz % 100 ≠ 45 ∧ fKHz % 100 ≠ 70 ∧ fKHz % 100 ≠ 95 := by
  unfold isValid8_33kHzChannel
  rw [Int.tmod_eq_emod_of_nonneg h, Int.tmod_eq_emod_of_nonneg h]
  exact decide_eq_true_iff

theorem round8_33kHzChannel_of_valid {fKHz : ℤ} (h : isValid8_33kHzChannel fKHz) :
    round8_33kHzChannel fKHz = fKHz := by
  rw [round8_33kHzChannel, if_neg (by simp [h])]

/-- Of two multiples of five in a row one is a channel. The lower candidate is the last channel
    in front. -/
theorem lowerChannel_spec {fKHz : ℤ} (h : 10 ≤ fKHz) :
    isValid8_33kHzChannel (lowerChannel fKHz) ∧ fKHz - 9 ≤ lowerChannel fKHz ∧
      lowerChannel fKHz ≤ fKHz := by
  have hdown : 0 ≤ fKHz - fKHz % 5 := by omega
  unfold lowerChannel
  rw [Int.tmod_eq_emod_of_nonneg (by omega)]
  by_cases hvalid : isValid8_33kHzChannel (fKHz - fKHz % 5)
  · rw [if_neg (by simp [hvalid])]
    exact ⟨hvalid, by omega, by omega⟩
  · rw [if_pos (by simpa only [Bool.not_eq_true', Bool.not_eq_true] using hvalid),
      isValid8_33kHzChannel_iff (by omega)]
    rw [isValid8_33kHzChannel_iff hdown] at hvalid
    omega

/-- The upper candidate is the next channel behind. -/
theorem upperChannel_spec {fKHz : ℤ} (h : 0 ≤ fKHz) :
    isValid8_33kHzChannel (upperChannel fKHz) ∧ fKHz < upperChannel fKHz ∧
      upperChannel fKHz ≤ fKHz + 10 := by
  have hup : 0 ≤ fKHz + (5 - fKHz % 5) := by omega
  unfold upperChannel
  rw [Int.tmod_eq_emod_of_nonneg h]
  by_cases hvalid : isValid8_33kHzChannel (fKHz + (5 - fKHz % 5))
  · rw [if_neg (by simp [hvalid])]
    exact ⟨hvalid, by omega, by omega⟩
  · rw [if_pos (by simpa only [Bool.not_eq_true', Bool.not_eq_true] using hvalid),
      isValid8_33kHzChannel_iff (by omega)]
    rw [isValid8_33kHzChannel_iff hup] at hvalid
    omega

/-- The closer one of the two is a channel close by, wherever the frequency is. -/
theorem closestChannel_spec {fKHz : ℤ} (h : 10 ≤ fKHz) :
    isValid8_33kHzChannel (closestChannel fKHz) ∧ fKHz - 9 ≤ closestChannel fKHz ∧
      closestChannel fKHz ≤ fKHz + 10 := by
  have hlower := lowerChannel_spec h
  have hupper := upperChannel_spec (show 0 ≤ fKHz by omega)
  unfold closestChannel
  dsimp only
  split
  · exact ⟨hlower.1, by omega, by omega⟩
  · exact ⟨hupper.1, by omega, by omega⟩

/-- The clamp changes nothing in the civil band, whose ends are channels. -/
theorem round8_33kHzChannel_of_civil {fKHz : ℤ} (h : isValidCivilAviationFrequency fKHz) :
    isValid8_33kHzChannel (round8_33kHzChannel fKHz) ∧
      isValidCivilAviationFrequency (round8_33kHzChannel fKHz) ∧
      |round8_33kHzChannel fKHz - fKHz| ≤ 10 := by
  have hrange := of_decide_eq_true h
  by_cases hvalid : isValid8_33kHzChannel fKHz
  · rw [round8_33kHzChannel_of_valid hvalid, sub_self]
    exact ⟨hvalid, h, by decide⟩
  have hlowest : isValid8_33kHzChannel 118000 := by decide
  have hhighest : isValid8_33kHzChannel 136990 := by decide
  rcases closestChannel_spec (show 10 ≤ fKHz by omega) with ⟨hclosest, hlo, hhi⟩
  unfold round8_33kHzChannel clamp
  rw [if_pos (by simpa only [Bool.not_eq_true', Bool.not_eq_true] using hvalid), abs_le]
  split
  · exact ⟨hlowest, by decide, by omega, by omega⟩
  split
  · exact ⟨hhighest, by decide, by omega, by omega⟩
  · exact ⟨hclosest, decide_eq_true ⟨by omega, by omega⟩, by omega, by omega⟩

/-- In the military band all that is no channel becomes the end of the civil one. -/
theorem round8_33kHzChannel_of_military {fKHz : ℤ} (h : isValidMilitaryFrequency fKHz)
    (hvalid : ¬ isValid8_33kHzChannel fKHz) : round8_33kHzChannel fKHz = 136990 := by
  have hrange := of_decide_eq_true h
  rcases closestChannel_spec (show 10 ≤ fKHz by omega) with ⟨_, hlo, _⟩
  unfold round8_33kHzChannel clamp
  rw [if_pos (by simpa only [Bool.not_eq_true', Bool.not_eq_true] using hvalid), if_neg (by omega),
    if_pos (by omega)]

/-- Rounding a COM frequency does what it is to do if it is a civil one or a channel. -/
theorem rounds_in_band_iff (fKHz : ℤ) (h : isValidComFrequency fKHz) :
    RoundsInBand fKHz ↔ isValidCivilAviationFrequency fKHz ∨ isValid8_33kHzChannel fKHz := by
  constructor
  · intro hrounds
    rcases Bool.or_eq_true_iff.mp h with hcivil | hmilitary
    · exact .inl hcivil
    · refine .inr ?_
      by_contra hvalid
      have hband := hrounds.military hmilitary
      rw [round8_33kHzChannel_of_military hmilitary hvalid] at hband
      cases hband
  · intro hgood
    by_cases hvalid : isValid8_33kHzChannel fKHz
    · have hsame := round8_33kHzChannel_of_valid hvalid
      constructor
      case valid => rwa [hsame]
      case civil => rw [hsame]; exact id
      case military => rw [hsame]; exact id
      case within => rw [hsame, sub_self]; decide
      case idempotent => rw [hsame, hsame]
      case unchanged => exact fun _ => hsame
    · have hcivil := hgood.resolve_right hvalid
      rcases round8_33kHzChannel_of_civil hcivil with ⟨hround, hband, hwithin⟩
      constructor
      case valid => exact hround
      case civil => exact fun _ => hband
      case military =>
        -- the bands have nothing in common
        intro hmilitary
        have hlo := (of_decide_eq_true hmilitary).1
        have hhi := (of_decide_eq_true hcivil).2
        omega
      case within => exact hwithin
      case idempotent => exact round8_33kHzChannel_of_valid hround
      case unchanged => exact fun h => absurd h hvalid

/-- A civil frequency between two channels. -/
theorem rounds_in_band_118022 :
    RoundsInBand 118022 ↔ isValidCivilAviationFrequency 118022 ∨ isValid8_33kHzChannel 118022 :=
  rounds_in_band_iff 118022 (by decide)

/-- A military frequency that is no channel comes out far below the band it is in. -/
theorem military_frequency_leaves_band : isValidComFrequency 225021 ∧ ¬ RoundsInBand 225021 := by
  refine ⟨by decide, fun h => ?_⟩
  have hband := h.military (by decide)
  cases hband

end NeoSwift.Aviation
