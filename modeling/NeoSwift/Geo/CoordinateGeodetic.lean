import Mathlib.Data.List.Sort
import NeoSwift.Aviation.AircraftSituation

/-!
# Coordinates and Lists of Objects with Coordinates

`ICoordinateGeodetic`, which aircraft situations and elevations implement, and the functions of
`IGeoObjectList` that select by distance.

The great circle distance is computed with trigonometric functions in single precision. It is a
parameter, of which only is used that it does not depend on the direction. With a null
coordinate, or where the result is not a number, the distance is null. A null distance is
outside of every range, as null is greater than any length.

The Euclidean distance squared is exact.

## Main definitions

* `ICoordinateGeodetic`: Objects with a coordinate.
* `Geodesy`: The great circle distance of normal vectors.
* `calculateGreatCircleDistance`: That of objects.
* `LibrarySort`: The sort of the standard library, by a key.

## Theorems

* `calculateGreatCircleDistance_comm`: Either direction.
* `removeInsideRange_sublist`, `removeOutsideRange_sublist`: What is kept was there before.
* `LibrarySort.take_le_drop`: The first ones of a sorted list have the least keys.
-/

namespace NeoSwift.Geo

open Aviation Pq

/-- Null is by the object's own notion of it. -/
class ICoordinateGeodetic (α : Type*) where
  normalVector : α → NormalVector
  geodeticHeight : α → CAltitude
  isNull : α → Bool

export ICoordinateGeodetic (normalVector geodeticHeight isNull)

section

variable {α β : Type*} [ICoordinateGeodetic α] [ICoordinateGeodetic β]

/-- `hasMeanSeaLevelValue` of the height. -/
def hasMSLGeodeticHeight (c : α) : Bool :=
  (geodeticHeight c).datum = .meanSeaLevel && !(geodeticHeight c).isNull

/-- By the epsilon of the numeric limits of a double. -/
def equalNormalVectorDouble (c : α) (other : β) : Bool :=
  let v := normalVector c
  let w := normalVector other
  |v.x - w.x| ≤ NormalVector.epsilon && |v.y - w.y| ≤ NormalVector.epsilon &&
    |v.z - w.z| ≤ NormalVector.epsilon

/-- The square of the chord between two normal vectors. -/
def calculateEuclideanDistanceSquared (c : α) (other : β) : ℚ :=
  let v := normalVector c
  let w := normalVector other
  (v.x - w.x) ^ 2 + (v.y - w.y) ^ 2 + (v.z - w.z) ^ 2

/-- The great circle distance in meters, if it is a number. -/
structure Geodesy where
  metres : NormalVector → NormalVector → Option ℚ
  metres_comm : ∀ v w, metres v w = metres w v

/-- Null if one of the coordinates is. -/
def calculateGreatCircleDistance (G : Geodesy) (c : α) (other : β) : CLength :=
  if isNull c || isNull other then .null
  else match G.metres (normalVector c) (normalVector other) with
    | none => .null
    | some d => .create d .m

theorem calculateGreatCircleDistance_comm (G : Geodesy) (c : α) (other : β) :
    calculateGreatCircleDistance G c other = calculateGreatCircleDistance G other c := by
  unfold calculateGreatCircleDistance
  rw [Bool.or_comm, G.metres_comm]

end

/-- A coordinate: the normal vector of a place, and a height. -/
structure CCoordinateGeodetic where
  m_normalVector : NormalVector := ⟨0, 0, 0⟩
  m_geodeticHeight : CAltitude := CAltitude.create 0 .meanSeaLevel .null
  deriving DecidableEq

instance : ICoordinateGeodetic CCoordinateGeodetic where
  normalVector := CCoordinateGeodetic.m_normalVector
  geodeticHeight := CCoordinateGeodetic.m_geodeticHeight
  isNull c := c.m_geodeticHeight.isNull || c.m_normalVector.isZeroEpsilonConsidered

/-- The constructor from another object with a coordinate. -/
def CCoordinateGeodetic.ofCoordinate {α : Type*} [ICoordinateGeodetic α] (c : α) :
    CCoordinateGeodetic := ⟨normalVector c, geodeticHeight c⟩

instance : ICoordinateGeodetic CAircraftSituation where
  normalVector := CAircraftSituation.normalVector
  geodeticHeight := CAircraftSituation.altitude
  isNull := CAircraftSituation.isNull

/-! ## Ranges -/

/-- `operator<=` of a distance and a range. -/
def withinRange (distance range : CLength) : Bool := !range.lessThan distance

section

variable {α β : Type*} [ICoordinateGeodetic α] [ICoordinateGeodetic β] (G : Geodesy)

/-- What is within the range of the coordinate. -/
def findWithinRange (l : List α) (coordinate : β) (range : CLength) : List α :=
  l.filter fun geoObj => withinRange (calculateGreatCircleDistance G geoObj coordinate) range

def findOutsideRange (l : List α) (coordinate : β) (range : CLength) : List α :=
  l.filter fun geoObj => range.lessThan (calculateGreatCircleDistance G geoObj coordinate)

/-- Of `findFirstWithinRangeOrDefault`, without the default. -/
def findFirstWithinRange (l : List α) (coordinate : β) (range : CLength) : Option α :=
  l.find? fun geoObj => withinRange (calculateGreatCircleDistance G geoObj coordinate) range

def findWithGeodeticMSLHeight (l : List α) : List α := l.filter hasMSLGeodeticHeight

/-- With the number of objects that are removed. -/
def removeInsideRange (l : List α) (coordinate : β) (range : CLength) : List α × ℤ :=
  let copy := findOutsideRange G l coordinate range
  let d : ℤ := l.length - copy.length
  (if d > 0 then copy else l, d)

/-- What is within the range, and how many are not. -/
def removeOutsideRange (l : List α) (coordinate : β) (range : CLength) : List α × ℤ :=
  let copy := findWithinRange G l coordinate range
  let d : ℤ := l.length - copy.length
  (if d > 0 then copy else l, d)

theorem removeInsideRange_sublist (l : List α) (coordinate : β) (range : CLength) :
    (removeInsideRange G l coordinate range).1.Sublist l := by
  unfold removeInsideRange
  dsimp only
  split
  · exact List.filter_sublist
  · exact List.Sublist.refl l

theorem removeOutsideRange_sublist (l : List α) (coordinate : β) (range : CLength) :
    (removeOutsideRange G l coordinate range).1.Sublist l := by
  unfold removeOutsideRange
  dsimp only
  split
  · exact List.filter_sublist
  · exact List.Sublist.refl l

end

/-! ## Sorting -/

/-- `std::sort` by a key, which is not stable. -/
structure LibrarySort (α : Type*) where
  sortBy : (α → ℚ) → List α → List α
  perm : ∀ key l, (sortBy key l).Perm l
  sorted : ∀ key l, (sortBy key l).Pairwise fun a b => key a ≤ key b

/-- Insertion sort is such a sort. -/
def LibrarySort.insertion (α : Type*) : LibrarySort α where
  sortBy key l := l.insertionSort fun a b => key a ≤ key b
  perm key l := List.perm_insertionSort _ l
  sorted key l := by
    exact List.pairwise_insertionSort _ l

/-- The first ones of a sorted list have the least keys. -/
theorem LibrarySort.take_le_drop {α : Type*} (S : LibrarySort α) (key : α → ℚ) (l : List α)
    (n : ℕ) : ∀ a ∈ (S.sortBy key l).take n, ∀ b ∈ (S.sortBy key l).drop n, key a ≤ key b := by
  have hsorted := S.sorted key l
  rw [← List.take_append_drop n (S.sortBy key l), List.pairwise_append] at hsorted
  exact hsorted.2.2

/-- What is next to the coordinate comes first. -/
def sortedByEuclideanDistanceSquared {α β : Type*} [ICoordinateGeodetic α]
    [ICoordinateGeodetic β] (S : LibrarySort α) (l : List α) (coordinate : β) : List α :=
  S.sortBy (fun c => calculateEuclideanDistanceSquared c coordinate) l

end NeoSwift.Geo
