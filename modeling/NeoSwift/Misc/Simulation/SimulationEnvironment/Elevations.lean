import NeoSwift.Geo.ElevationPlane
import NeoSwift.Lib.AssocMap
import NeoSwift.Lib.Machine

/-!
# Remembered Elevations

The elevations that `ISimulationEnvironmentProvider` remembers: a list of all kinds of values
with a maximum that can be set, and one of values on the ground with a fixed one. A value is
not remembered where one of either list is near.

A list is truncated when it is already larger than its maximum, so that it grows to one more.
Setting a smaller maximum leaves the list as it is. A plane without a radius is null and near
nothing, so it is remembered next to another value. And the clean-up collects the coordinates
closest to a reference from both lists, but writes them to one of them and leaves the other as
it was.

Found values that are suspiciously far in height are only logged.

## Main definitions

* `ElevationProvider`: The lists.
* `elevationMachine`: The operations on them.
* `Bounded`, `OnlyClosest`: What is expected of the lists, and of the clean-up.
* `StaysBounded`: The operations that do it.

## Theorems

* `kept_iff`: They do it, and no others.
* `elevations_bounded`: The same together with what follows for runs.
-/

namespace NeoSwift.Misc.Simulation

open Aviation Geo Pq

/-- The members for elevations, and requests by the unified texts of callsigns. -/
structure ElevationProvider where
  m_maxElevations : ℤ := 100
  m_maxElevationsGnd : ℤ := 400
  m_elvCoordinates : List CCoordinateGeodetic := []
  m_elvCoordinatesGnd : List CCoordinateGeodetic := []
  m_pendingElevationRequests : AssocMap QString ℤ := ∅
  m_statsMaxElevRequestTimeMs : ℤ := -1
  m_statsCurrentElevRequestTimeMs : ℤ := -1
  m_enableElevation : Bool := true

namespace ElevationProvider

variable (G : Geodesy) (S : LibrarySort CCoordinateGeodetic) (p : ElevationProvider)

/-- A list in which a coordinate is found near by. -/
def foundInRange {α : Type*} [ICoordinateGeodetic α] (l : List CCoordinateGeodetic)
    (elevationCoordinate : α) (range : CLength) : Bool :=
  match findFirstWithinRange G l elevationCoordinate range with
  | some found => !isNull found
  | none => false

/-- The latest is in front. -/
def pushFront (l : List CCoordinateGeodetic) (maxElevations : ℤ) (c : CCoordinateGeodetic) :
    List CCoordinateGeodetic :=
  c :: (if (l.length : ℤ) > maxElevations then l.dropLast else l)

/-- The statistics of a request that is answered. -/
def answerRequest (requestedForCallsign : QString) (now : ℤ) : ElevationProvider :=
  match p.m_pendingElevationRequests.lookup requestedForCallsign with
  | none => p
  | some startedMs =>
    { p with
      m_pendingElevationRequests := p.m_pendingElevationRequests.erase requestedForCallsign
      m_statsCurrentElevRequestTimeMs := now - startedMs
      m_statsMaxElevRequestTimeMs := max p.m_statsMaxElevRequestTimeMs (now - startedMs) }

/-- The checks before a value is remembered. -/
def accepts {α : Type*} [ICoordinateGeodetic α] (elevationCoordinate : α) (epsilon : CLength) :
    Bool :=
  hasMSLGeodeticHeight elevationCoordinate && p.m_enableElevation
    && !foundInRange G p.m_elvCoordinatesGnd elevationCoordinate (minRange epsilon)
    && !foundInRange G p.m_elvCoordinates elevationCoordinate (minRange epsilon)

/-- Puts an accepted coordinate in front of one of the lists. -/
def rememberGroundElevation {α : Type*} [ICoordinateGeodetic α] (requestedForCallsign : QString)
    (likelyOnGroundElevation : Bool) (elevationCoordinate : α) (epsilon : CLength) (now : ℤ) :
    ElevationProvider × Bool :=
  if !p.accepts G elevationCoordinate epsilon then (p, false)
  else
    let c := CCoordinateGeodetic.ofCoordinate elevationCoordinate
    let remembered :=
      if likelyOnGroundElevation then
        { p with m_elvCoordinatesGnd := pushFront p.m_elvCoordinatesGnd p.m_maxElevationsGnd c }
      else { p with m_elvCoordinates := pushFront p.m_elvCoordinates p.m_maxElevations c }
    (remembered.answerRequest requestedForCallsign now, true)

/-- `rememberGroundElevation` for a plane. -/
def rememberGroundElevationPlane (requestedForCallsign : QString)
    (likelyOnGroundElevation : Bool) (elevationPlane : CElevationPlane) (now : ℤ) :
    ElevationProvider × Bool :=
  if !hasMSLGeodeticHeight elevationPlane then (p, false)
  else p.rememberGroundElevation G requestedForCallsign likelyOnGroundElevation elevationPlane
    elevationPlane.m_radius now

/-- Those on ground first. -/
def getAllElevationCoordinates : List CCoordinateGeodetic :=
  p.m_elvCoordinatesGnd ++ p.m_elvCoordinates

/-- The number of coordinates that the clean-up is to leave. -/
def cleanUpNumber (maxNumber : ℤ) : ℤ := if maxNumber < 0 then p.m_maxElevations else maxNumber

/-- Keeps those next to the reference, if there are too many. -/
def cleanUpElevations (referenceCoordinate : CCoordinateGeodetic) (maxNumber : ℤ) :
    ElevationProvider × ℤ :=
  let coordinates := p.getAllElevationCoordinates
  let number := p.cleanUpNumber maxNumber
  if coordinates.length ≤ number then (p, 0)
  else
    let truncated :=
      (sortedByEuclideanDistanceSquared S coordinates referenceCoordinate).take number.toNat
    ({ p with m_elvCoordinates := truncated }, coordinates.length - truncated.length)

/-- At least 50. -/
def setMaxElevationsRemembered (max : ℤ) : ElevationProvider × ℤ :=
  let newMax := if max < 50 then 50 else max
  ({ p with m_maxElevations := newMax }, newMax)

/-- Removes the values on ground within the range of the reference. -/
def removeElevationValues (reference : CAircraftSituation) (removeRange : CLength) :
    ElevationProvider × ℤ :=
  let r := removeInsideRange G p.m_elvCoordinatesGnd reference removeRange
  ({ p with m_elvCoordinatesGnd := r.1 }, r.2)

/-- One of the lists, with whether something is removed. -/
def cleanedValues (l : List CCoordinateGeodetic) (maxElevations : ℤ)
    (reference : CAircraftSituation) (r : CLength) (forced : Bool) :
    List CCoordinateGeodetic × Bool :=
  let maxReached : Bool := (l.length : ℤ) ≥ maxElevations
  if !l.isEmpty && (forced || maxReached) then
    let cleanedKept := removeOutsideRange G l reference r
    if cleanedKept.2 > 0 then (cleanedKept.1, true) else (l, false)
  else (l, false)

/-- Removes what is beyond the range from each list that is full, or if `forced` from both. -/
def cleanElevationValues (reference : CAircraftSituation) (keptRange : CLength) (forced : Bool) :
    ElevationProvider × Bool :=
  if isNull reference || keptRange.isNull then (p, false)
  else
    let r := minRange keptRange
    let cleaned := cleanedValues G p.m_elvCoordinates p.m_maxElevations reference r forced
    let cleanedGnd := cleanedValues G p.m_elvCoordinatesGnd p.m_maxElevationsGnd reference r forced
    ({ p with m_elvCoordinates := cleaned.1, m_elvCoordinatesGnd := cleanedGnd.1 },
      cleaned.2 || cleanedGnd.2)

/-- Forgets coordinates, requests and statistics. -/
def clearElevations : ElevationProvider :=
  { p with
    m_elvCoordinates := []
    m_elvCoordinatesGnd := []
    m_pendingElevationRequests := ∅
    m_statsCurrentElevRequestTimeMs := -1
    m_statsMaxElevRequestTimeMs := -1 }

end ElevationProvider

/-- The operations. The time is that at which a value is remembered. -/
inductive ElevationCall where
  | rememberGroundElevation (requestedForCallsign : QString) (likelyOnGroundElevation : Bool)
      (elevationCoordinate : CCoordinateGeodetic) (epsilon : CLength) (now : ℤ)
  | rememberGroundElevationPlane (requestedForCallsign : QString) (likelyOnGroundElevation : Bool)
      (elevationPlane : CElevationPlane) (now : ℤ)
  | setMaxElevationsRemembered (max : ℤ)
  | cleanElevationValues (reference : CAircraftSituation) (keptRange : CLength) (forced : Bool)
  | removeElevationValues (reference : CAircraftSituation) (removeRange : CLength)
  | cleanUpElevations (referenceCoordinate : CCoordinateGeodetic) (maxNumber : ℤ)
  | clearElevations

section

variable (G : Geodesy) (S : LibrarySort CCoordinateGeodetic)

def ElevationProvider.call (p : ElevationProvider) : ElevationCall → ElevationProvider
  | .rememberGroundElevation requestedForCallsign likelyOnGroundElevation elevationCoordinate
      epsilon now => (p.rememberGroundElevation G requestedForCallsign likelyOnGroundElevation
        elevationCoordinate epsilon now).1
  | .rememberGroundElevationPlane requestedForCallsign likelyOnGroundElevation elevationPlane
      now => (p.rememberGroundElevationPlane G requestedForCallsign likelyOnGroundElevation
        elevationPlane now).1
  | .setMaxElevationsRemembered max => (p.setMaxElevationsRemembered max).1
  | .cleanElevationValues reference keptRange forced =>
      (p.cleanElevationValues G reference keptRange forced).1
  | .removeElevationValues reference removeRange =>
      (p.removeElevationValues G reference removeRange).1
  | .cleanUpElevations referenceCoordinate maxNumber =>
      (p.cleanUpElevations S referenceCoordinate maxNumber).1
  | .clearElevations => p.clearElevations

/-- The provider as a machine, call after call. -/
def elevationMachine : Machine ElevationProvider ElevationCall Empty where
  step p c := (p.call G S c, [])

/-! ## What is expected -/

/-- The great circle distance is more than the radius of a single point, or there is none. -/
def Apart (c other : CCoordinateGeodetic) : Prop :=
  let distance := calculateGreatCircleDistance G c other
  distance.isNull = true ∨ 50 < distance.valueIn .m

namespace ElevationProvider

/-- The lists keep to their maximums, and their entries are apart. -/
structure Bounded (p : ElevationProvider) : Prop where
  length_le : (p.m_elvCoordinates.length : ℤ) ≤ p.m_maxElevations
  length_le_gnd : (p.m_elvCoordinatesGnd.length : ℤ) ≤ p.m_maxElevationsGnd
  apart : p.m_elvCoordinates.Pairwise (Apart G)
  apart_gnd : p.m_elvCoordinatesGnd.Pairwise (Apart G)

/-- Of the coordinates before, those remembered are the closest to a reference, each of
    them once, as many as there were or as were asked for. -/
def OnlyClosest (p q : ElevationProvider) (reference : CCoordinateGeodetic) (number : ℤ) : Prop :=
  (q.getAllElevationCoordinates.length : ℤ) = min number p.getAllElevationCoordinates.length
    ∧ ∃ forgotten, (q.getAllElevationCoordinates ++ forgotten).Perm p.getAllElevationCoordinates
      ∧ ∀ c ∈ q.getAllElevationCoordinates, ∀ other ∈ forgotten,
        calculateEuclideanDistanceSquared c reference
          ≤ calculateEuclideanDistanceSquared other reference

/-- What is expected of an operation. -/
def Kept (p : ElevationProvider) (c : ElevationCall) : Prop :=
  (p.call G S c).Bounded G
    ∧ ∀ reference maxNumber, c = .cleanUpElevations reference maxNumber →
      p.OnlyClosest (p.call G S c) reference (p.cleanUpNumber maxNumber)

/-- The list to which a value is added, and its maximum. -/
def listFor (p : ElevationProvider) (likelyOnGroundElevation : Bool) :
    List CCoordinateGeodetic × ℤ :=
  if likelyOnGroundElevation then (p.m_elvCoordinatesGnd, p.m_maxElevationsGnd)
  else (p.m_elvCoordinates, p.m_maxElevations)

/-- The operations that do what is expected. -/
def StaysBounded (p : ElevationProvider) : ElevationCall → Prop
  | .rememberGroundElevation _ likelyOnGroundElevation elevationCoordinate epsilon _ =>
      p.accepts G elevationCoordinate epsilon = true →
        ((p.listFor likelyOnGroundElevation).1.length : ℤ) < (p.listFor likelyOnGroundElevation).2
  | .rememberGroundElevationPlane _ likelyOnGroundElevation elevationPlane _ =>
      p.accepts G elevationPlane elevationPlane.m_radius = true →
        ((p.listFor likelyOnGroundElevation).1.length : ℤ) < (p.listFor likelyOnGroundElevation).2
          ∧ (elevationPlane.m_radius.isNull = true → ∀ c ∈ (p.listFor likelyOnGroundElevation).1,
            Apart G elevationPlane.toCCoordinateGeodetic c)
  | .setMaxElevationsRemembered max =>
      (p.m_elvCoordinates.length : ℤ) ≤ if max < 50 then 50 else max
  | .cleanUpElevations _ maxNumber =>
      (p.getAllElevationCoordinates.length : ℤ) ≤ p.cleanUpNumber maxNumber
        ∨ p.m_elvCoordinatesGnd = []
  | _ => True

end ElevationProvider

/-! ## Apart -/

variable {G S}

theorem Apart.symm {c other : CCoordinateGeodetic} (h : Apart G c other) : Apart G other c := by
  unfold Apart at h ⊢
  rwa [calculateGreatCircleDistance_comm]

/-- A distance is null or in meters. -/
theorem distance_cases {α β : Type*} [ICoordinateGeodetic α] [ICoordinateGeodetic β] (c : α)
    (other : β) : calculateGreatCircleDistance G c other = .null
      ∨ ∃ d, calculateGreatCircleDistance G c other = .create d .m := by
  unfold calculateGreatCircleDistance
  split
  · exact Or.inl rfl
  · cases G.metres (normalVector c) (normalVector other) with
    | none => exact Or.inl rfl
    | some d => exact Or.inr ⟨d, rfl⟩

/-- No range of at least the radius of a single point has a null distance. -/
theorem not_withinRange_null (range : CLength) : withinRange .null (minRange range) = false := by
  have hnull : (minRange range).isNull = false := by
    unfold minRange
    split
    · rfl
    case isFalse h =>
      rw [Bool.or_eq_true, not_or, Bool.not_eq_true] at h
      exact h.1
  unfold withinRange CLength.lessThan CLength.equals
  rw [hnull]
  rfl

/-- What is not within the range that is searched is apart, unless it is null by more than its
    coordinate. -/
theorem apart_of_not_withinRange {α : Type*} [ICoordinateGeodetic α] {c : CCoordinateGeodetic}
    {source : α} {range : CLength}
    (hnull : isNull (CCoordinateGeodetic.ofCoordinate source) = isNull source)
    (h : withinRange (calculateGreatCircleDistance G c source) (minRange range) = false) :
    Apart G (CCoordinateGeodetic.ofCoordinate source) c := by
  have hsame : calculateGreatCircleDistance G (CCoordinateGeodetic.ofCoordinate source) c
      = calculateGreatCircleDistance G c source := by
    rw [calculateGreatCircleDistance_comm]
    unfold calculateGreatCircleDistance
    rw [hnull]
    rfl
  unfold Apart
  rw [hsame]
  rcases distance_cases c source with hdist | ⟨d, hdist⟩
  · exact Or.inl (by rw [hdist]; rfl)
  · rw [hdist] at h ⊢
    exact Or.inr (metres_of_not_withinRange h)

namespace ElevationProvider

variable {p : ElevationProvider}

theorem apart_of_not_found {α : Type*} [ICoordinateGeodetic α] {l : List CCoordinateGeodetic}
    {source : α} {range : CLength}
    (hnull : isNull (CCoordinateGeodetic.ofCoordinate source) = isNull source)
    (h : foundInRange G l source (minRange range) = false) :
    ∀ c ∈ l, Apart G (CCoordinateGeodetic.ofCoordinate source) c := by
  intro c hc
  have hfar : withinRange (calculateGreatCircleDistance G c source) (minRange range) = false := by
    unfold foundInRange findFirstWithinRange at h
    cases hfind : l.find? fun geoObj =>
        withinRange (calculateGreatCircleDistance G geoObj source) (minRange range) with
    | none => exact Bool.eq_false_of_not_eq_true (List.find?_eq_none.mp hfind c hc)
    -- A null coordinate is not found.
    | some found =>
      rw [hfind] at h
      have hwithin := List.find?_some hfind
      have hfound : calculateGreatCircleDistance G found source = .null := by
        unfold calculateGreatCircleDistance
        rw [Bool.not_eq_eq_eq_not.mp h]
        rfl
      rw [hfound, not_withinRange_null] at hwithin
      cases hwithin
  exact apart_of_not_withinRange hnull hfar

/-! ## Each operation -/

theorem bounded_answerRequest (requestedForCallsign : QString) (now : ℤ) :
    (p.answerRequest requestedForCallsign now).Bounded G ↔ p.Bounded G := by
  unfold answerRequest
  cases p.m_pendingElevationRequests.lookup requestedForCallsign with
  | none => exact Iff.rfl
  | some startedMs => exact ⟨fun h => ⟨h.1, h.2, h.3, h.4⟩, fun h => ⟨h.1, h.2, h.3, h.4⟩⟩

/-- What is left of a list when a value is added to it. -/
theorem pushFront_bounded_iff {l : List CCoordinateGeodetic} {maxElevations : ℤ}
    {c : CCoordinateGeodetic} (hlength : (l.length : ℤ) ≤ maxElevations)
    (hapart : l.Pairwise (Apart G)) :
    ((pushFront l maxElevations c).length : ℤ) ≤ maxElevations
        ∧ (pushFront l maxElevations c).Pairwise (Apart G)
      ↔ (l.length : ℤ) < maxElevations ∧ ∀ other ∈ l, Apart G c other := by
  unfold pushFront
  rw [if_neg (by omega), List.length_cons, List.pairwise_cons]
  refine and_congr ?_ ⟨fun h => h.1, fun h => ⟨h, hapart⟩⟩
  omega

theorem bounded_remember_iff {α : Type*} [ICoordinateGeodetic α] (h : p.Bounded G)
    (requestedForCallsign : QString) (likelyOnGroundElevation : Bool) {source : α}
    {epsilon : CLength} (now : ℤ) (haccepts : p.accepts G source epsilon = true) :
    (p.rememberGroundElevation G requestedForCallsign likelyOnGroundElevation source epsilon
        now).1.Bounded G
      ↔ ((p.listFor likelyOnGroundElevation).1.length : ℤ) < (p.listFor likelyOnGroundElevation).2
        ∧ ∀ c ∈ (p.listFor likelyOnGroundElevation).1,
          Apart G (CCoordinateGeodetic.ofCoordinate source) c := by
  unfold rememberGroundElevation
  rw [haccepts, Bool.not_true, if_neg Bool.false_ne_true]
  rw [bounded_answerRequest]
  cases likelyOnGroundElevation with
  | false =>
    refine Iff.trans ?_ (pushFront_bounded_iff h.length_le h.apart)
    exact ⟨fun hq => ⟨hq.length_le, hq.apart⟩, fun hq => ⟨hq.1, h.length_le_gnd, hq.2, h.apart_gnd⟩⟩
  | true =>
    refine Iff.trans ?_ (pushFront_bounded_iff h.length_le_gnd h.apart_gnd)
    exact ⟨fun hq => ⟨hq.length_le_gnd, hq.apart_gnd⟩, fun hq => ⟨h.length_le, hq.1, h.apart, hq.2⟩⟩

theorem remember_of_not_accepts {α : Type*} [ICoordinateGeodetic α]
    (requestedForCallsign : QString) (likelyOnGroundElevation : Bool) {source : α}
    {epsilon : CLength} (now : ℤ) (haccepts : ¬ p.accepts G source epsilon = true) :
    p.rememberGroundElevation G requestedForCallsign likelyOnGroundElevation source epsilon now
      = (p, false) := by
  unfold rememberGroundElevation
  rw [Bool.eq_false_of_not_eq_true haccepts]
  rfl

/-- A plane is a coordinate with its radius for the range. -/
theorem rememberGroundElevationPlane_eq (p : ElevationProvider) (requestedForCallsign : QString)
    (likelyOnGroundElevation : Bool) (elevationPlane : CElevationPlane) (now : ℤ) :
    p.rememberGroundElevationPlane G requestedForCallsign likelyOnGroundElevation elevationPlane now
      = p.rememberGroundElevation G requestedForCallsign likelyOnGroundElevation elevationPlane
        elevationPlane.m_radius now := by
  unfold rememberGroundElevationPlane
  by_cases hheight : hasMSLGeodeticHeight elevationPlane = true
  · rw [hheight]
    rfl
  · have haccepts : ¬ p.accepts G elevationPlane elevationPlane.m_radius = true := by
      unfold accepts
      rw [Bool.eq_false_of_not_eq_true hheight]
      exact Bool.false_ne_true
    rw [Bool.eq_false_of_not_eq_true hheight, remember_of_not_accepts _ _ _ haccepts]
    rfl

theorem bounded_of_not_accepts {α : Type*} [ICoordinateGeodetic α] (h : p.Bounded G)
    (requestedForCallsign : QString) (likelyOnGroundElevation : Bool) {source : α}
    {epsilon : CLength} (now : ℤ) (haccepts : ¬ p.accepts G source epsilon = true) :
    (p.rememberGroundElevation G requestedForCallsign likelyOnGroundElevation source epsilon
      now).1.Bounded G := by
  rw [remember_of_not_accepts _ _ _ haccepts]
  exact h

/-- A value that is accepted is apart from those of both lists. -/
theorem apart_of_accepts {α : Type*} [ICoordinateGeodetic α] {source : α} {epsilon : CLength}
    (hnull : isNull (CCoordinateGeodetic.ofCoordinate source) = isNull source)
    (haccepts : p.accepts G source epsilon = true) (likelyOnGroundElevation : Bool) :
    ∀ c ∈ (p.listFor likelyOnGroundElevation).1,
      Apart G (CCoordinateGeodetic.ofCoordinate source) c := by
  unfold accepts at haccepts
  rw [Bool.and_eq_true, Bool.and_eq_true, Bool.not_eq_true', Bool.not_eq_true'] at haccepts
  cases likelyOnGroundElevation with
  | false => exact apart_of_not_found hnull haccepts.2
  | true => exact apart_of_not_found hnull haccepts.1.2

/-- Lists that lose entries. -/
theorem Bounded.of_sublist {q : ElevationProvider} (h : p.Bounded G)
    (hmax : q.m_maxElevations = p.m_maxElevations)
    (hmaxGnd : q.m_maxElevationsGnd = p.m_maxElevationsGnd)
    (hl : q.m_elvCoordinates.Sublist p.m_elvCoordinates)
    (hgnd : q.m_elvCoordinatesGnd.Sublist p.m_elvCoordinatesGnd) : q.Bounded G where
  length_le := by
    have := h.length_le
    have := hl.length_le
    omega
  length_le_gnd := by
    have := h.length_le_gnd
    have := hgnd.length_le
    omega
  apart := h.apart.sublist hl
  apart_gnd := h.apart_gnd.sublist hgnd

theorem cleanedValues_sublist (l : List CCoordinateGeodetic) (maxElevations : ℤ)
    (reference : CAircraftSituation) (r : CLength) (forced : Bool) :
    (cleanedValues G l maxElevations reference r forced).1.Sublist l := by
  unfold cleanedValues
  dsimp only
  split
  · split
    · exact removeOutsideRange_sublist G l reference r
    · exact List.Sublist.refl l
  · exact List.Sublist.refl l

theorem bounded_cleanElevationValues (h : p.Bounded G) (reference : CAircraftSituation)
    (keptRange : CLength) (forced : Bool) :
    (p.cleanElevationValues G reference keptRange forced).1.Bounded G := by
  unfold cleanElevationValues
  split
  · exact h
  · exact h.of_sublist rfl rfl (cleanedValues_sublist _ _ _ _ _) (cleanedValues_sublist _ _ _ _ _)

/-! ## The clean-up -/

/-- Nothing is to be forgotten. -/
theorem onlyClosest_self {number : ℤ} (reference : CCoordinateGeodetic)
    (h : (p.getAllElevationCoordinates.length : ℤ) ≤ number) :
    p.OnlyClosest p reference number := by
  refine ⟨(min_eq_right h).symm, [], ?_, fun _ _ _ hnil => absurd hnil List.not_mem_nil⟩
  rw [List.append_nil]

theorem cleanUpNumber_nonneg (h : p.Bounded G) (maxNumber : ℤ) : 0 ≤ p.cleanUpNumber maxNumber := by
  have hmax := h.length_le
  unfold cleanUpNumber
  split <;> omega

theorem kept_cleanUp_iff (h : p.Bounded G) (reference : CCoordinateGeodetic) (maxNumber : ℤ) :
    (p.cleanUpElevations S reference maxNumber).1.Bounded G
        ∧ p.OnlyClosest (p.cleanUpElevations S reference maxNumber).1 reference
          (p.cleanUpNumber maxNumber)
      ↔ (p.getAllElevationCoordinates.length : ℤ) ≤ p.cleanUpNumber maxNumber
        ∨ p.m_elvCoordinatesGnd = [] := by
  have hnumber := cleanUpNumber_nonneg h maxNumber
  unfold cleanUpElevations
  generalize p.cleanUpNumber maxNumber = number at hnumber ⊢
  by_cases hle : (p.getAllElevationCoordinates.length : ℤ) ≤ number
  · rw [if_pos hle]
    exact iff_of_true ⟨h, onlyClosest_self reference hle⟩ (Or.inl hle)
  rw [if_neg hle]
  have hperm := S.perm (fun c => calculateEuclideanDistanceSquared c reference)
    p.getAllElevationCoordinates
  have hclosest := S.take_le_drop (fun c => calculateEuclideanDistanceSquared c reference)
    p.getAllElevationCoordinates number.toNat
  unfold sortedByEuclideanDistanceSquared
  generalize S.sortBy (fun c => calculateEuclideanDistanceSquared c reference)
    p.getAllElevationCoordinates = sorted at hperm hclosest ⊢
  have hlength : ((sorted.take number.toNat).length : ℤ) = number := by
    rw [List.length_take, hperm.length_eq]
    omega
  refine ⟨fun hkept => Or.inr ?_, fun hor => ?_⟩
  -- The list that is left as it was is counted in addition.
  · have hcount := hkept.2.1
    unfold getAllElevationCoordinates at hcount hle
    rw [List.length_append] at hcount
    push_cast at hcount
    exact List.length_eq_zero_iff.mp (by omega)
  · have hgnd : p.m_elvCoordinatesGnd = [] := hor.resolve_left hle
    have hall : p.getAllElevationCoordinates = p.m_elvCoordinates := by
      rw [getAllElevationCoordinates, hgnd, List.nil_append]
    rw [hall] at hperm hle
    refine ⟨⟨?_, h.length_le_gnd, ?_, h.apart_gnd⟩, ?_⟩
    · have hmax := h.length_le
      dsimp only
      omega
    · exact ((hperm.pairwise_iff Apart.symm).mpr h.apart).sublist (List.take_sublist _ _)
    · unfold OnlyClosest
      rw [hall]
      have hafter : ElevationProvider.getAllElevationCoordinates
          { p with m_elvCoordinates := sorted.take number.toNat } = sorted.take number.toNat := by
        rw [getAllElevationCoordinates, hgnd, List.nil_append]
      rw [hafter, hlength]
      refine ⟨(min_eq_left (by omega)).symm, sorted.drop number.toNat, ?_, hclosest⟩
      rw [List.take_append_drop]
      exact hperm

/-! ## All of them -/

/-- An operation does what is expected if and only if it stays within the bounds. -/
theorem kept_iff (h : p.Bounded G) (c : ElevationCall) : p.Kept G S c ↔ p.StaysBounded G c := by
  have hother (hno : ∀ reference maxNumber, c ≠ .cleanUpElevations reference maxNumber) :
      p.Kept G S c ↔ (p.call G S c).Bounded G :=
    and_iff_left fun reference maxNumber heq => absurd heq (hno reference maxNumber)
  cases c with
  | rememberGroundElevation requestedForCallsign likelyOnGroundElevation elevationCoordinate
      epsilon now =>
    rw [hother fun _ _ => nofun]
    by_cases haccepts : p.accepts G elevationCoordinate epsilon = true
    · refine (bounded_remember_iff h _ _ now haccepts).trans ?_
      exact ⟨fun hk _ => hk.1, fun hs => ⟨hs haccepts, apart_of_accepts rfl haccepts _⟩⟩
    · exact iff_of_true (bounded_of_not_accepts h _ _ now haccepts) fun hs => absurd hs haccepts
  | rememberGroundElevationPlane requestedForCallsign likelyOnGroundElevation elevationPlane now =>
    have hcall : p.call G S (.rememberGroundElevationPlane requestedForCallsign
        likelyOnGroundElevation elevationPlane now) = (p.rememberGroundElevation G
          requestedForCallsign likelyOnGroundElevation elevationPlane elevationPlane.m_radius
          now).1 := congrArg Prod.fst (rememberGroundElevationPlane_eq _ _ _ _ _)
    rw [hother fun _ _ => nofun, hcall]
    by_cases haccepts : p.accepts G elevationPlane elevationPlane.m_radius = true
    · refine (bounded_remember_iff h _ _ now haccepts).trans ?_
      refine ⟨fun hk _ => ⟨hk.1, fun _ => hk.2⟩, fun hs => ⟨(hs haccepts).1, ?_⟩⟩
      -- With a radius, the plane is null if and only if its coordinate is.
      cases hradius : elevationPlane.m_radius.isNull with
      | true => exact (hs haccepts).2 hradius
      | false =>
        refine apart_of_accepts ?_ haccepts _
        exact (congrArg (· || isNull elevationPlane.toCCoordinateGeodetic) hradius).symm
    · exact iff_of_true (bounded_of_not_accepts h _ _ now haccepts) fun hs => absurd hs haccepts
  | setMaxElevationsRemembered max =>
    rw [hother fun _ _ => nofun]
    exact ⟨fun hq => hq.length_le, fun hq => ⟨hq, h.length_le_gnd, h.apart, h.apart_gnd⟩⟩
  | cleanElevationValues reference keptRange forced =>
    rw [hother fun _ _ => nofun]
    exact iff_of_true (bounded_cleanElevationValues h reference keptRange forced) trivial
  | removeElevationValues reference removeRange =>
    rw [hother fun _ _ => nofun]
    exact iff_of_true (h.of_sublist rfl rfl (List.Sublist.refl _)
      (removeInsideRange_sublist _ _ _ _)) trivial
  | cleanUpElevations referenceCoordinate maxNumber =>
    refine Iff.trans ?_ (kept_cleanUp_iff (S := S) h referenceCoordinate maxNumber)
    refine and_congr_right fun _ => ⟨fun hq => hq _ _ rfl, ?_⟩
    rintro hq _ _ ⟨⟩
    exact hq
  | clearElevations =>
    rw [hother fun _ _ => nofun]
    exact iff_of_true (h.of_sublist rfl rfl (List.nil_sublist _) (List.nil_sublist _)) trivial

theorem bounded_init : ({} : ElevationProvider).Bounded G :=
  ⟨by decide, by decide, List.Pairwise.nil, List.Pairwise.nil⟩

/-- The operations that stay within the bounds do what is expected, and no others do. In a run
    of such operations, all of them do. -/
theorem elevations_bounded (G : Geodesy) (S : LibrarySort CCoordinateGeodetic) :
    (∀ p : ElevationProvider, p.Bounded G → ∀ c, p.Kept G S c ↔ p.StaysBounded G c)
    ∧ ∀ calls : List ElevationCall,
      (elevationMachine G S).AllSteps (fun q c => q.StaysBounded G c) {} calls →
        ((elevationMachine G S).run {} calls).1.Bounded G
          ∧ (elevationMachine G S).AllSteps (fun q c => q.Kept G S c) {} calls := by
  refine ⟨fun p h c => kept_iff h c, fun calls hall => ?_⟩
  have hstep (q : ElevationProvider) (c : ElevationCall) (hq : q.Bounded G)
      (hc : q.StaysBounded G c) : q.Kept G S c ∧ (q.call G S c).Bounded G := by
    have hkept := (kept_iff (S := S) hq c).mpr hc
    exact ⟨hkept, hkept.1⟩
  constructor
  · exact (elevationMachine G S).run_invariant_of (fun q c => q.StaysBounded G c)
      (fun q _ => q.Bounded G) (fun q _ c hc hq => (hstep q c hq hc).2) calls {} [] hall
      bounded_init
  · exact (elevationMachine G S).allSteps_of_invariant hstep calls {} bounded_init hall

end ElevationProvider

/-! ## A quarter of the globe -/

/-- Coordinates that are the same or a quarter of the globe apart. -/
def sampleGeodesy : Geodesy where
  metres v w := if v = w then some 0 else some 10007543
  metres_comm v w := by
    by_cases h : v = w
    · rw [if_pos h, if_pos h.symm]
    · rw [if_neg h, if_neg (Ne.symm h)]

/-- An elevation on the equator or at the north pole. -/
def sampleElevation (v : NormalVector) : CCoordinateGeodetic := ⟨v, .create 10 .meanSeaLevel .ft⟩

def sampleSort : LibrarySort CCoordinateGeodetic := .insertion _

/-- One elevation on the ground and two others, and a clean-up. -/
def sampleElevationCalls (maxNumber : ℤ) : List ElevationCall :=
  [.rememberGroundElevation [] true (sampleElevation ⟨1, 0, 0⟩) .null 0,
    .rememberGroundElevation [] false (sampleElevation ⟨0, 1, 0⟩) .null 0,
    .rememberGroundElevation [] false (sampleElevation ⟨0, 0, 1⟩) .null 0,
    .cleanUpElevations (sampleElevation ⟨1, 0, 0⟩) maxNumber]

/-- Nothing is to be forgotten. -/
theorem elevations_bounded_sample :
    ((elevationMachine sampleGeodesy sampleSort).run {} (sampleElevationCalls 5)).1.Bounded
      sampleGeodesy := by
  refine ((ElevationProvider.elevations_bounded sampleGeodesy sampleSort).2
    (sampleElevationCalls 5) ?_).1
  refine ⟨fun _ => ?_, fun _ => ?_, fun _ => ?_, Or.inl ?_, trivial⟩
  all_goals decide +kernel

/-- The closest one is to be left. It is remembered twice. -/
theorem closest_is_remembered_twice :
    ((elevationMachine sampleGeodesy sampleSort).run {}
        (sampleElevationCalls 1)).1.getAllElevationCoordinates
        = [sampleElevation ⟨1, 0, 0⟩, sampleElevation ⟨1, 0, 0⟩]
      ∧ ¬ ∀ calls : List ElevationCall, (elevationMachine sampleGeodesy sampleSort).AllSteps
        (fun p c => p.Kept sampleGeodesy sampleSort c) {} calls := by
  refine ⟨by decide +kernel, fun h => ?_⟩
  have hcount := ((h (sampleElevationCalls 1)).2.2.2.1.2 _ _ rfl).1
  exact absurd hcount (by decide +kernel)

end

end NeoSwift.Misc.Simulation
