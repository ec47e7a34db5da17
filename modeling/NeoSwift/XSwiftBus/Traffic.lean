import NeoSwift.Lib.AssocMap
import NeoSwift.Lib.CyclicWalk
import NeoSwift.Lib.Machine

/-!
# Planes in X-Plane

The planes the plugin has made, by callsign and by id, the menu items to follow them, and
the order in which they are followed. All four are written by hand when a plane is added
or removed, and they stay in agreement in every run.

Making a plane may fail. One that is made has an id that no other plane has, which is what
the library of planes is trusted with. Whatever else is done to a plane is left out. Planes
are numbered in the order in which they are made, so that a plane that is made again is not
the one that was destroyed.

## Main definitions

* `CTraffic`: The planes, and the callsign that is followed.
* `addPlane`, `removePlane`, `removeAllPlanes`, `followNextPlane` and the others: What the
  plugin does.
* `traffic`: Its runs, with what it does to planes.
* `Consistent`: The four containers agree.
* `DestroyedOnce`: What became of the planes that were made.

## Theorems

* `consistent_insert`, `consistent_erase`: Adding and removing keep the agreement.
* `destroyedOnce_insert`, `destroyedOnce_erase`, `destroyedOnce_removeAllPlanes`: Each plane
  is destroyed when it is removed, and then only.
-/

namespace NeoSwift.XSwiftBus

/-- A plane, and which of the objects made it is. -/
structure Plane where
  id : ℕ
  callsign : String
  aircraftIcao : String := ""
  airlineIcao : String := ""
  livery : String := ""
  modelName : String := ""
  object : ℕ
  deriving DecidableEq, Repr

/-- `CMenuItem`: it follows the callsign it is named after. -/
structure CMenuItem where
  name : String
  deriving DecidableEq, Repr

/-- `CTraffic`, and how many planes it has made. -/
structure CTraffic where
  m_modelStrings : AssocMap String String := ∅
  m_planesByCallsign : AssocMap String Plane := ∅
  m_planesById : AssocMap ℕ Plane := ∅
  m_followPlaneViewMenuItems : AssocMap String CMenuItem := ∅
  m_followPlaneViewSequence : List String := []
  m_followPlaneViewCallsign : String := ""
  made : ℕ := 0

/-- What is asked of the plugin. A new plane has the id the library of planes gives it, and
    none where that fails. -/
inductive TrafficCall where
  | addPlane (callsign modelName aircraftIcao airlineIcao livery : String) (id : Option ℕ)
  | removePlane (callsign : String)
  | removeAllPlanes
  | switchToFollowPlaneView (callsign : String)
  | followNextPlane
  | followPreviousPlane

/-- What the plugin does. Planes are made by a model name or by matching. A plane that is
    destroyed is destroyed in X-Plane and deleted. -/
inductive TrafficEffect where
  | createPlane (model : Option String) (aircraftIcao airlineIcao livery : String)
  | planeAdded (plane : Plane)
  | planeAddingFailed (callsign : String)
  | destroyPlane (plane : Plane)
  | controlCamera
  | dereferencedEnd
  deriving DecidableEq

def ownAircraftString : String := "ownAircraft"

namespace CTraffic

variable (t : CTraffic)

def containsCallsign (callsign : String) : Bool :=
  if callsign.isEmpty then false else (t.m_planesByCallsign.lookup callsign).isSome

/-- The model a plane is made with. -/
def modelFor (modelName : String) : Option String :=
  if modelName.isEmpty then none else t.m_modelStrings.lookup modelName

def addPlane (callsign modelName aircraftIcao airlineIcao livery : String) (id : Option ℕ) :
    CTraffic × List TrafficEffect :=
  if (t.m_planesByCallsign.lookup callsign).isSome then (t, [])
  else
    let create := TrafficEffect.createPlane (t.modelFor modelName) aircraftIcao airlineIcao livery
    match id with
    | none => (t, [create, .planeAddingFailed callsign])
    | some id =>
        let plane : Plane :=
          { id, callsign, aircraftIcao, airlineIcao, livery, modelName, object := t.made }
        ({ t with
          m_planesByCallsign := t.m_planesByCallsign.insert callsign plane
          m_planesById := t.m_planesById.insert id plane
          m_followPlaneViewMenuItems := t.m_followPlaneViewMenuItems.insert callsign ⟨callsign⟩
          m_followPlaneViewSequence := t.m_followPlaneViewSequence ++ [callsign]
          made := t.made + 1 },
          [create, .planeAdded plane])

/-- The menu item goes first, whether there is a plane or not. -/
def removePlane (callsign : String) : CTraffic × List TrafficEffect :=
  let t := { t with
    m_followPlaneViewMenuItems := t.m_followPlaneViewMenuItems.erase callsign }
  match t.m_planesByCallsign.lookup callsign with
  | none => (t, [])
  | some plane =>
      ({ t with
        m_followPlaneViewSequence := t.m_followPlaneViewSequence.filter (fun c => c != callsign)
        m_planesByCallsign := t.m_planesByCallsign.erase callsign
        m_planesById := t.m_planesById.erase plane.id },
        [.destroyPlane plane])

def removeAllPlanes : CTraffic × List TrafficEffect :=
  ({ t with
    m_planesByCallsign := ∅
    m_planesById := ∅
    m_followPlaneViewMenuItems := ∅
    m_followPlaneViewSequence := [] },
    t.m_planesByCallsign.entries.map fun kv => .destroyPlane kv.2)

def switchToFollowPlaneView (callsign : String) : CTraffic × List TrafficEffect :=
  if ownAircraftString != callsign && !t.containsCallsign callsign then (t, [])
  else ({ t with m_followPlaneViewCallsign := callsign }, [.controlCamera])

/-- The next plane in a sequence, or the end of it. -/
def follow (sequence : List String) : CTraffic × List TrafficEffect :=
  if t.m_planesByCallsign.isEmpty || t.m_followPlaneViewCallsign.isEmpty then (t, [])
  else
    match cyclicNext sequence t.m_followPlaneViewCallsign with
    | none => (t, [.dereferencedEnd])
    | some callsign => ({ t with m_followPlaneViewCallsign := callsign }, [])

def followNextPlane : CTraffic × List TrafficEffect := t.follow t.m_followPlaneViewSequence

/-- Backwards. -/
def followPreviousPlane : CTraffic × List TrafficEffect :=
  t.follow t.m_followPlaneViewSequence.reverse

end CTraffic

/-- The plugin. -/
def traffic : Machine CTraffic TrafficCall TrafficEffect where
  step t
    | .addPlane callsign modelName aircraftIcao airlineIcao livery id =>
        t.addPlane callsign modelName aircraftIcao airlineIcao livery id
    | .removePlane callsign => t.removePlane callsign
    | .removeAllPlanes => t.removeAllPlanes
    | .switchToFollowPlaneView callsign => t.switchToFollowPlaneView callsign
    | .followNextPlane => t.followNextPlane
    | .followPreviousPlane => t.followPreviousPlane

/-- A plane that is made has an id no plane has. -/
def FreshId (t : CTraffic) : TrafficCall → Prop
  | .addPlane _ _ _ _ _ (some id) => t.m_planesById.lookup id = none
  | _ => True

/-- The planes by callsign, the planes by id, the menu items and the sequence are about the
    same callsigns. -/
structure Consistent (t : CTraffic) : Prop where
  nodup : t.m_followPlaneViewSequence.Nodup
  sequence : ∀ callsign, callsign ∈ t.m_followPlaneViewSequence ↔
    (t.m_planesByCallsign.lookup callsign).isSome = true
  menuItems : ∀ callsign, t.m_followPlaneViewMenuItems.lookup callsign
    = (t.m_planesByCallsign.lookup callsign).map (fun plane => ⟨plane.callsign⟩)
  planesByCallsign : ∀ callsign plane, t.m_planesByCallsign.lookup callsign = some plane →
    plane.callsign = callsign ∧ t.m_planesById.lookup plane.id = some plane
  planesById : ∀ id plane, t.m_planesById.lookup id = some plane →
    plane.id = id ∧ t.m_planesByCallsign.lookup plane.callsign = some plane

/-- The planes destroyed, by the objects they were. -/
def destroyed (out : List TrafficEffect) : List ℕ :=
  out.filterMap fun
    | .destroyPlane plane => some plane.object
    | _ => none

/-- Every plane that was made is destroyed once, or is still there. -/
structure DestroyedOnce (t : CTraffic) (out : List TrafficEffect) : Prop where
  nodup : (destroyed out).Nodup
  made : ∀ object, object < t.made ↔ object ∈ destroyed out ∨
    ∃ callsign plane, t.m_planesByCallsign.lookup callsign = some plane ∧ plane.object = object
  alive : ∀ callsign plane, t.m_planesByCallsign.lookup callsign = some plane →
    plane.object ∉ destroyed out
  distinct : ∀ callsign plane callsign' plane',
    t.m_planesByCallsign.lookup callsign = some plane →
      t.m_planesByCallsign.lookup callsign' = some plane' →
        plane.object = plane'.object → callsign = callsign'

/-! ## Adding and removing -/

theorem CTraffic.addPlane_cases (t : CTraffic)
    (callsign modelName aircraftIcao airlineIcao livery : String) (id : Option ℕ) :
    ((t.addPlane callsign modelName aircraftIcao airlineIcao livery id).1 = t ∧
      destroyed (t.addPlane callsign modelName aircraftIcao airlineIcao livery id).2 = []) ∨
    (t.m_planesByCallsign.lookup callsign = none ∧ ∃ plane : Plane, id = some plane.id ∧
      plane.callsign = callsign ∧ plane.object = t.made ∧
      (t.addPlane callsign modelName aircraftIcao airlineIcao livery id).1
        = { t with
          m_planesByCallsign := t.m_planesByCallsign.insert callsign plane
          m_planesById := t.m_planesById.insert plane.id plane
          m_followPlaneViewMenuItems := t.m_followPlaneViewMenuItems.insert callsign ⟨callsign⟩
          m_followPlaneViewSequence := t.m_followPlaneViewSequence ++ [callsign]
          made := t.made + 1 } ∧
      destroyed (t.addPlane callsign modelName aircraftIcao airlineIcao livery id).2 = []) := by
  unfold addPlane
  by_cases hthere : (t.m_planesByCallsign.lookup callsign).isSome = true
  · left
    rw [if_pos hthere]
    exact ⟨rfl, rfl⟩
  · rw [if_neg hthere]
    -- The simulator may refuse the plane.
    cases id with
    | none => exact Or.inl ⟨rfl, rfl⟩
    | some id =>
        right
        refine ⟨by simpa only [Bool.not_eq_true, Option.isSome_eq_false_iff,
          Option.isNone_iff_eq_none]
          using hthere, ?_⟩
        exact ⟨{ id, callsign, aircraftIcao, airlineIcao, livery, modelName, object := t.made },
          rfl, rfl, rfl, rfl, rfl⟩

section Keep

variable {t : CTraffic} {out : List TrafficEffect}

/-- A new plane is in all four containers. -/
theorem consistent_insert (h : Consistent t) {callsign : String} {plane : Plane}
    (hnone : t.m_planesByCallsign.lookup callsign = none)
    (hfresh : t.m_planesById.lookup plane.id = none) (hcallsign : plane.callsign = callsign) :
    Consistent { t with
      m_planesByCallsign := t.m_planesByCallsign.insert callsign plane
      m_planesById := t.m_planesById.insert plane.id plane
      m_followPlaneViewMenuItems := t.m_followPlaneViewMenuItems.insert callsign ⟨callsign⟩
      m_followPlaneViewSequence := t.m_followPlaneViewSequence ++ [callsign]
      made := t.made + 1 } := by
  -- The name is new to the sequence too, which has the names of all the planes.
  have hnew : callsign ∉ t.m_followPlaneViewSequence := by
    rw [h.sequence, hnone]
    exact Bool.false_ne_true
  constructor
  case nodup =>
    exact List.nodup_append.mpr ⟨h.nodup, List.nodup_singleton callsign, fun c hc d hd => by
      rw [List.mem_singleton.mp hd]
      exact fun heq => hnew (heq ▸ hc)⟩
  case sequence =>
    intro other
    rw [List.mem_append, List.mem_singleton, h.sequence]
    by_cases heq : other = callsign
    · rw [heq, AList.lookup_insert]
      exact iff_of_true (Or.inr rfl) rfl
    · rw [AList.lookup_insert_ne heq]
      exact or_iff_left heq
  case menuItems =>
    intro other
    by_cases heq : other = callsign
    · rw [heq, AList.lookup_insert, AList.lookup_insert, Option.map_some, hcallsign]
    · rw [AList.lookup_insert_ne heq, AList.lookup_insert_ne heq, h.menuItems]
  case planesByCallsign =>
    intro other otherPlane hother
    by_cases heq : other = callsign
    · rw [heq, AList.lookup_insert, Option.some.injEq] at hother
      rw [← hother, heq, AList.lookup_insert]
      exact ⟨hcallsign, rfl⟩
    · rw [AList.lookup_insert_ne heq] at hother
      rcases h.planesByCallsign other otherPlane hother with ⟨hname, hbyId⟩
      -- The other planes have other ids, as the new id was not in use.
      have hne : otherPlane.id ≠ plane.id := by
        intro hid
        rw [hid, hfresh] at hbyId
        cases hbyId
      exact ⟨hname, (AList.lookup_insert_ne hne).trans hbyId⟩
  case planesById =>
    intro id otherPlane hother
    by_cases heq : id = plane.id
    · rw [heq, AList.lookup_insert, Option.some.injEq] at hother
      rw [← hother, hcallsign, AList.lookup_insert]
      exact ⟨heq.symm, rfl⟩
    · rw [AList.lookup_insert_ne heq] at hother
      rcases h.planesById id otherPlane hother with ⟨hid, hbyCallsign⟩
      have hne : otherPlane.callsign ≠ callsign := by
        intro hsame
        rw [hsame, hnone] at hbyCallsign
        cases hbyCallsign
      exact ⟨hid, (AList.lookup_insert_ne hne).trans hbyCallsign⟩

/-- A plane that is removed is in none of them. -/
theorem consistent_erase (h : Consistent t) {callsign : String} {plane : Plane}
    (hthere : t.m_planesByCallsign.lookup callsign = some plane) :
    Consistent { t with
      m_followPlaneViewMenuItems := t.m_followPlaneViewMenuItems.erase callsign
      m_followPlaneViewSequence := t.m_followPlaneViewSequence.filter (fun c => c != callsign)
      m_planesByCallsign := t.m_planesByCallsign.erase callsign
      m_planesById := t.m_planesById.erase plane.id } := by
  -- The plane is in the container by id as well, under its own id.
  rcases h.planesByCallsign callsign plane hthere with ⟨hname, hbyId⟩
  constructor
  case nodup => exact h.nodup.filter _
  case sequence =>
    intro other
    rw [List.mem_filter, bne_iff_ne, h.sequence]
    by_cases heq : other = callsign
    · rw [heq, AList.lookup_erase]
      exact iff_of_false (fun hand => hand.2 rfl) Bool.false_ne_true
    · rw [AList.lookup_erase_ne heq]
      exact and_iff_left heq
  case menuItems =>
    intro other
    by_cases heq : other = callsign
    · rw [heq, AList.lookup_erase, AList.lookup_erase, Option.map_none]
    · rw [AList.lookup_erase_ne heq, AList.lookup_erase_ne heq, h.menuItems]
  case planesByCallsign =>
    intro other otherPlane hother
    by_cases heq : other = callsign
    · rw [heq, AList.lookup_erase] at hother
      cases hother
    · rw [AList.lookup_erase_ne heq] at hother
      rcases h.planesByCallsign other otherPlane hother with ⟨hother', hotherId⟩
      -- Planes of the same id would be of the same name.
      have hne : otherPlane.id ≠ plane.id := by
        intro hid
        rw [hid, hbyId, Option.some.injEq] at hotherId
        exact heq (hother'.symm.trans (hotherId ▸ hname))
      exact ⟨hother', (AList.lookup_erase_ne hne).trans hotherId⟩
  case planesById =>
    intro id otherPlane hother
    by_cases heq : id = plane.id
    · rw [heq, AList.lookup_erase] at hother
      cases hother
    · rw [AList.lookup_erase_ne heq] at hother
      rcases h.planesById id otherPlane hother with ⟨hid, hotherPlane⟩
      have hne : otherPlane.callsign ≠ callsign := by
        intro hsame
        rw [hsame, hthere, Option.some.injEq] at hotherPlane
        exact heq (hid.symm.trans (hotherPlane ▸ rfl))
      exact ⟨hid, (AList.lookup_erase_ne hne).trans hotherPlane⟩

theorem destroyed_append (out out' : List TrafficEffect) :
    destroyed (out ++ out') = destroyed out ++ destroyed out' :=
  List.filterMap_append

/-- Nothing is destroyed, and the planes are those that were there. -/
theorem destroyedOnce_of_same (h : DestroyedOnce t out) {t' : CTraffic} {out' : List TrafficEffect}
    (hplanes : t'.m_planesByCallsign = t.m_planesByCallsign) (hmade : t'.made = t.made)
    (hnone : destroyed out' = []) : DestroyedOnce t' (out ++ out') := by
  constructor
  case nodup =>
    rw [destroyed_append, hnone, List.append_nil]
    exact h.nodup
  case made =>
    rw [destroyed_append, hnone, List.append_nil, hplanes, hmade]
    exact h.made
  case alive =>
    rw [destroyed_append, hnone, List.append_nil, hplanes]
    exact h.alive
  case distinct =>
    rw [hplanes]
    exact h.distinct

/-- A new plane is an object that was not there before. -/
theorem destroyedOnce_insert (h : DestroyedOnce t out) {callsign : String} {plane : Plane}
    (hnone : t.m_planesByCallsign.lookup callsign = none) (hobject : plane.object = t.made)
    {t' : CTraffic} {out' : List TrafficEffect}
    (hplanes : t'.m_planesByCallsign = t.m_planesByCallsign.insert callsign plane)
    (hmade : t'.made = t.made + 1) (hdestroyed : destroyed out' = []) :
    DestroyedOnce t' (out ++ out') := by
  -- No plane has had the next number before.
  have hbefore : ∀ object, object = t.made → object ∉ destroyed out ∧
      ∀ other otherPlane, t.m_planesByCallsign.lookup other = some otherPlane →
        otherPlane.object ≠ object := by
    intro object heq
    refine ⟨fun hmem => ?_, fun other otherPlane hother hsame => ?_⟩
    · have hlt := (h.made object).mpr (Or.inl hmem)
      omega
    · have hlt := (h.made object).mpr (Or.inr ⟨other, otherPlane, hother, hsame⟩)
      omega
  constructor
  case nodup =>
    rw [destroyed_append, hdestroyed, List.append_nil]
    exact h.nodup
  case made =>
    intro object
    rw [destroyed_append, hdestroyed, List.append_nil, hplanes, hmade, Nat.lt_succ_iff_lt_or_eq,
      h.made]
    constructor
    · rintro ((hold | ⟨other, otherPlane, hother, hsame⟩) | heq)
      · exact Or.inl hold
      · have hne : other ≠ callsign := by
          intro heq
          rw [heq, hnone] at hother
          cases hother
        exact Or.inr ⟨other, otherPlane, (AList.lookup_insert_ne hne).trans hother, hsame⟩
      · exact Or.inr ⟨callsign, plane, AList.lookup_insert _, hobject.trans heq.symm⟩
    · rintro (hold | ⟨other, otherPlane, hother, hsame⟩)
      · exact Or.inl (Or.inl hold)
      · by_cases heq : other = callsign
        · rw [heq, AList.lookup_insert, Option.some.injEq] at hother
          rw [← hother, hobject] at hsame
          exact Or.inr hsame.symm
        · rw [AList.lookup_insert_ne heq] at hother
          exact Or.inl (Or.inr ⟨other, otherPlane, hother, hsame⟩)
  case alive =>
    intro other otherPlane hother
    rw [destroyed_append, hdestroyed, List.append_nil]
    rw [hplanes] at hother
    by_cases heq : other = callsign
    · rw [heq, AList.lookup_insert, Option.some.injEq] at hother
      rw [← hother]
      exact (hbefore _ hobject).1
    · rw [AList.lookup_insert_ne heq] at hother
      exact h.alive other otherPlane hother
  case distinct =>
    intro other otherPlane other' otherPlane' hother hother' hsame
    rw [hplanes] at hother hother'
    by_cases heq : other = callsign
    · rw [heq, AList.lookup_insert, Option.some.injEq] at hother
      by_cases heq' : other' = callsign
      · exact heq.trans heq'.symm
      · rw [AList.lookup_insert_ne heq'] at hother'
        rw [← hother] at hsame
        exact absurd hsame.symm ((hbefore _ hobject).2 other' otherPlane' hother')
    · rw [AList.lookup_insert_ne heq] at hother
      by_cases heq' : other' = callsign
      · rw [heq', AList.lookup_insert, Option.some.injEq] at hother'
        rw [← hother'] at hsame
        exact absurd hsame ((hbefore _ hobject).2 other otherPlane hother)
      · rw [AList.lookup_insert_ne heq'] at hother'
        exact h.distinct other otherPlane other' otherPlane' hother hother' hsame

/-- A plane that is removed is destroyed, which it was not before. -/
theorem destroyedOnce_erase (h : DestroyedOnce t out) {callsign : String} {plane : Plane}
    (hthere : t.m_planesByCallsign.lookup callsign = some plane) {t' : CTraffic}
    (hplanes : t'.m_planesByCallsign = t.m_planesByCallsign.erase callsign)
    (hmade : t'.made = t.made) : DestroyedOnce t' (out ++ [.destroyPlane plane]) := by
  -- The destroyed plane is the one that leaves the container.
  have hdestroyed : destroyed (out ++ [.destroyPlane plane]) = destroyed out ++ [plane.object] :=
    destroyed_append out _
  -- Whoever stays was there before and is another one.
  have herased : ∀ other otherPlane,
      (t.m_planesByCallsign.erase callsign).lookup other = some otherPlane →
        other ≠ callsign ∧ t.m_planesByCallsign.lookup other = some otherPlane := by
    intro other otherPlane hother
    by_cases heq : other = callsign
    · rw [heq, AList.lookup_erase] at hother
      cases hother
    · rw [AList.lookup_erase_ne heq] at hother
      exact ⟨heq, hother⟩
  constructor
  case nodup =>
    rw [hdestroyed]
    refine List.nodup_append.mpr ⟨h.nodup, List.nodup_singleton _, fun a ha b hb hab => ?_⟩
    rw [List.mem_singleton.mp hb] at hab
    exact h.alive callsign plane hthere (hab ▸ ha)
  case made =>
    intro object
    rw [hdestroyed, hmade, hplanes, h.made, List.mem_append, List.mem_singleton]
    constructor
    · rintro (hold | ⟨other, otherPlane, hother, hsame⟩)
      · exact Or.inl (Or.inl hold)
      · by_cases heq : other = callsign
        · rw [heq, hthere, Option.some.injEq] at hother
          exact Or.inl (Or.inr (hsame.symm.trans (congrArg Plane.object hother.symm)))
        · exact Or.inr ⟨other, otherPlane, (AList.lookup_erase_ne heq).trans hother, hsame⟩
    · rintro ((hold | heq) | ⟨other, otherPlane, hother, hsame⟩)
      · exact Or.inl hold
      · exact Or.inr ⟨callsign, plane, hthere, heq.symm⟩
      · exact Or.inr ⟨other, otherPlane, (herased other otherPlane hother).2, hsame⟩
  case alive =>
    intro other otherPlane hother
    rw [hplanes] at hother
    rcases herased other otherPlane hother with ⟨hne, hold⟩
    rw [hdestroyed, List.mem_append, List.mem_singleton]
    rintro (hmem | heq)
    · exact h.alive other otherPlane hold hmem
    · exact hne (h.distinct other otherPlane callsign plane hold hthere heq)
  case distinct =>
    intro other otherPlane other' otherPlane' hother hother'
    rw [hplanes] at hother hother'
    exact h.distinct other otherPlane other' otherPlane' (herased other otherPlane hother).2
      (herased other' otherPlane' hother').2

/-- The planes of a registry, each under its callsign. -/
theorem mem_entries_iff (m : AssocMap String Plane) (callsign : String) (plane : Plane) :
    ⟨callsign, plane⟩ ∈ m.entries ↔ m.lookup callsign = some plane :=
  AList.mem_lookup_iff.symm

/-- All planes are destroyed. -/
theorem destroyedOnce_removeAllPlanes (h : DestroyedOnce t out) :
    DestroyedOnce t.removeAllPlanes.1 (out ++ t.removeAllPlanes.2) := by
  have hobjects : destroyed t.removeAllPlanes.2
      = t.m_planesByCallsign.entries.map fun kv => kv.2.object := by
    unfold CTraffic.removeAllPlanes destroyed
    rw [List.filterMap_map, ← List.filterMap_eq_map]
    rfl
  -- The objects destroyed are those of all the planes that are there.
  have hmem : ∀ object, object ∈ destroyed t.removeAllPlanes.2 ↔ ∃ callsign plane,
      t.m_planesByCallsign.lookup callsign = some plane ∧ plane.object = object := by
    intro object
    rw [hobjects, List.mem_map]
    constructor
    · rintro ⟨⟨callsign, plane⟩, hentry, hobject⟩
      exact ⟨callsign, plane, (mem_entries_iff _ _ _).mp hentry, hobject⟩
    · rintro ⟨callsign, plane, hlookup, hobject⟩
      exact ⟨⟨callsign, plane⟩, (mem_entries_iff _ _ _).mpr hlookup, hobject⟩
  have hgone : ∀ callsign, t.removeAllPlanes.1.m_planesByCallsign.lookup callsign = none :=
    fun _ => rfl
  constructor
  case nodup =>
    rw [destroyed_append]
    refine List.nodup_append.mpr ⟨h.nodup, ?_, fun a ha b hb hab => ?_⟩
    · rw [hobjects]
      -- No two planes have one object.
      refine List.Nodup.map_on ?_ t.m_planesByCallsign.nodupKeys.nodup
      rintro ⟨callsign, plane⟩ hentry ⟨callsign', plane'⟩ hentry' hsame
      rw [mem_entries_iff] at hentry hentry'
      have hcallsign := h.distinct callsign plane callsign' plane' hentry hentry' hsame
      subst hcallsign
      rw [hentry, Option.some.injEq] at hentry'
      rw [hentry']
    · rcases (hmem b).mp hb with ⟨callsign, plane, hlookup, hobject⟩
      exact h.alive callsign plane hlookup (hobject ▸ hab ▸ ha)
  case made =>
    intro object
    rw [destroyed_append, List.mem_append, hmem]
    refine (h.made object).trans (Iff.symm (or_iff_left ?_))
    rintro ⟨callsign, plane, hlookup, -⟩
    rw [hgone] at hlookup
    cases hlookup
  case alive =>
    intro callsign plane hlookup
    rw [hgone] at hlookup
    cases hlookup
  case distinct =>
    intro callsign plane callsign' plane' hlookup
    rw [hgone] at hlookup
    cases hlookup

end Keep

end NeoSwift.XSwiftBus
