import NeoSwift.Geo.CoordinateGeodetic

/-!
# Elevation Planes

`CElevationPlane`, a coordinate with the elevation as its height and a radius in which it is
valid. A plane without a radius is null, whatever its coordinate is. So it has no distance to
anything.

## Main definitions

* `CElevationPlane`: Elevation planes.
* `CElevationPlane.fixRadius`: At least the radius of a single point.
* `minRange`: The same for a range.

## Theorems

* `metres_of_not_withinRange`: What is outside of such a range is farther than that radius.
-/

namespace NeoSwift.Geo

open Aviation Pq

structure CElevationPlane extends CCoordinateGeodetic where
  m_radius : CLength := .null
  deriving DecidableEq

instance : ICoordinateGeodetic CElevationPlane where
  normalVector p := p.m_normalVector
  geodeticHeight p := p.m_geodeticHeight
  isNull p := p.m_radius.isNull || isNull p.toCCoordinateGeodetic

namespace CElevationPlane

def null : CElevationPlane := {}

def singlePointRadius : CLength := .create 50 .m

def getAltitude (p : CElevationPlane) : CAltitude := p.m_geodeticHeight

def fixRadius (p : CElevationPlane) : CElevationPlane :=
  if p.m_radius.isNull || p.m_radius.lessThan singlePointRadius then
    { p with m_radius := singlePointRadius }
  else p

/-- `switchUnit`, of the height. -/
def switchUnit (p : CElevationPlane) (unit : CLengthUnit) : CElevationPlane :=
  { p with m_geodeticHeight := p.m_geodeticHeight.switchedUnit unit }

/-- The constructor from a coordinate and an altitude in feet. -/
def ofAltitude {α : Type*} [ICoordinateGeodetic α] (coordinate : α) (altitudeMSLft : ℚ)
    (radius : CLength) : CElevationPlane where
  m_normalVector := normalVector coordinate
  m_geodeticHeight := CAltitude.create altitudeMSLft .meanSeaLevel .ft
  m_radius := radius

end CElevationPlane

/-- `ISimulationEnvironmentProvider::minRange`. -/
def minRange (range : CLength) : CLength :=
  if range.isNull || range.lessThan CElevationPlane.singlePointRadius then
    CElevationPlane.singlePointRadius
  else range

/-! ## Distances beyond a range -/

theorem factor_pos {unit : CLengthUnit} (h : unit ≠ .null) : 0 < unit.factor := by
  cases unit with
  | null => exact absurd rfl h
  | _ => norm_num [CLengthUnit.factor]

theorem valueIn_metres_lt_iff {unit : CLengthUnit} (h : unit ≠ .null) (x y : ℚ) :
    (CLength.create x .m).valueIn unit < (CLength.create y .m).valueIn unit ↔ x < y := by
  have hfactor := factor_pos h
  have hmetre : 0 < CLengthUnit.m.factor := factor_pos (by decide)
  by_cases hm : unit = .m
  · subst hm
    exact Iff.rfl
  · have hvalue (z : ℚ) : (CLength.create z .m).valueIn unit
        = z * CLengthUnit.m.factor / unit.factor := by
      unfold CLength.valueIn CLengthUnit.convertFrom CLength.create
      simp [h, hm]
    rw [hvalue, hvalue, div_lt_div_iff_of_pos_right hfactor, mul_lt_mul_iff_left₀ hmetre]

/-- Lengths that are not null compare by their values with the epsilon of the unit. -/
theorem lessThan_iff {l other : CLength} (hl : l.isNull = false) (hother : other.isNull = false) :
    l.lessThan other = true ↔ l.m_value + l.unit.getEpsilon < other.valueIn l.unit := by
  have heps : 0 ≤ l.unit.getEpsilon := by
    cases l.unit <;> norm_num [CLengthUnit.getEpsilon]
  have hequals : l.equals other
      = decide (|l.m_value - other.valueIn l.unit| ≤ l.unit.getEpsilon) := by
    unfold CLength.equals
    rw [hl, hother]
    rfl
  unfold CLength.lessThan
  rw [hequals, hl, hother]
  by_cases hclose : |l.m_value - other.valueIn l.unit| ≤ l.unit.getEpsilon
  · rw [decide_eq_true hclose]
    refine iff_of_false Bool.false_ne_true ?_
    have hbounds := abs_le.mp hclose
    linarith
  · rw [decide_eq_false hclose, if_neg Bool.false_ne_true, Bool.or_self,
      if_neg Bool.false_ne_true, decide_eq_true_eq]
    refine ⟨fun hlt => ?_, fun hlt => by linarith⟩
    by_contra hle
    exact hclose (abs_le.mpr ⟨by linarith, by linarith⟩)

/-- A length that is outside of a range of at least the radius of a single point. -/
theorem metres_of_not_withinRange {range : CLength} {d : ℚ}
    (h : withinRange (.create d .m) (minRange range) = false) : 50 < d := by
  have hless : (minRange range).lessThan (.create d .m) = true := by
    rwa [withinRange, Bool.not_eq_false'] at h
  unfold minRange at hless
  by_cases hsingle : (range.isNull || range.lessThan CElevationPlane.singlePointRadius) = true
  · rw [if_pos hsingle] at hless
    have hlt : (50 : ℚ) + CLengthUnit.m.getEpsilon < d := (lessThan_iff rfl rfl).mp hless
    have heps : (0 : ℚ) ≤ CLengthUnit.m.getEpsilon := by norm_num [CLengthUnit.getEpsilon]
    linarith
  -- The epsilon of the range's unit is on both sides.
  · rw [if_neg hsingle] at hless
    rw [Bool.or_eq_true, not_or, Bool.not_eq_true, Bool.not_eq_true] at hsingle
    rcases hsingle with ⟨hnull, hge⟩
    have hunit : range.unit ≠ .null := of_decide_eq_false hnull
    have hlt := (lessThan_iff hnull rfl).mp hless
    have hle := (not_congr (lessThan_iff hnull rfl)).mp (Bool.not_eq_true _ ▸ hge)
    exact (valueIn_metres_lt_iff hunit 50 d).mp (lt_of_le_of_lt (not_lt.mp hle) hlt)

end NeoSwift.Geo
