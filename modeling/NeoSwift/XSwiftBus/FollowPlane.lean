import NeoSwift.XSwiftBus.Traffic

/-!
# Following Planes

The plane that is followed is a callsign, which may be that of a plane that was removed
since, or of none. The empty callsign is taken for none: it is not switched to, and while
it is followed there is no next plane. But a plane can be added with it, though the menu
does not take an item without a name. Where there is one, the walk through the planes ends
at it, and does not come back to where it started.

Besides that everything holds in every run: the containers agree, planes are destroyed
once, and the next plane is one of the planes.

## Main definitions

* `nextPlane`, `previousPlane`: The callsign that is followed after a step.
* `SelectsRegistered`: The next and the previous plane are planes.
* `WalksAround`: Steps in either direction visit all planes and come back.

## Theorems

* `consistent_step`, `destroyedOnce_step`: What one call keeps.
* `selectsRegistered_of_consistent`: The next plane is one of the planes.
* `walksAround_iff`: When a walk visits all planes.
* `plane_registry`: All of it, in every run.
* `walk_ends_at_empty_callsign`: A walk that does not come back.
-/

namespace NeoSwift.XSwiftBus

/-- The callsign followed after a step through a sequence. -/
def followed (t : CTraffic) (sequence : List String) (callsign : String) : String :=
  ({ t with m_followPlaneViewCallsign := callsign }.follow sequence).1.m_followPlaneViewCallsign

/-- The callsign followed next. -/
def nextPlane (t : CTraffic) : String → String := followed t t.m_followPlaneViewSequence

/-- The callsign followed before. -/
def previousPlane (t : CTraffic) : String → String :=
  followed t t.m_followPlaneViewSequence.reverse

/-- Where there are planes and one is followed, the next and the previous one are planes, and
    no end of a sequence is dereferenced. -/
def SelectsRegistered (t : CTraffic) : Prop :=
  TrafficEffect.dereferencedEnd ∉ t.followNextPlane.2 ∧
    TrafficEffect.dereferencedEnd ∉ t.followPreviousPlane.2 ∧
    (t.m_planesByCallsign.isEmpty = false → t.m_followPlaneViewCallsign ≠ "" →
      (t.m_planesByCallsign.lookup t.followNextPlane.1.m_followPlaneViewCallsign).isSome = true ∧
      (t.m_planesByCallsign.lookup
        t.followPreviousPlane.1.m_followPlaneViewCallsign).isSome = true)

/-- From every plane, as many steps in either direction as there are planes visit each of them
    once and come back. -/
def WalksAround (t : CTraffic) : Prop :=
  ∀ callsign ∈ t.m_followPlaneViewSequence,
    VisitsAll (nextPlane t) t.m_followPlaneViewSequence callsign ∧
      VisitsAll (previousPlane t) t.m_followPlaneViewSequence callsign

/-! ## One call -/

section Step

variable {t : CTraffic} {out : List TrafficEffect}

/-- A step through a sequence changes nothing else, and destroys nothing. -/
theorem follow_cases (t : CTraffic) (sequence : List String) :
    (∃ callsign, (t.follow sequence).1 = { t with m_followPlaneViewCallsign := callsign }) ∧
      destroyed (t.follow sequence).2 = [] := by
  unfold CTraffic.follow
  split
  · exact ⟨⟨t.m_followPlaneViewCallsign, rfl⟩, rfl⟩
  · split
    · exact ⟨⟨t.m_followPlaneViewCallsign, rfl⟩, rfl⟩
    · exact ⟨⟨_, rfl⟩, rfl⟩

/-- Which callsign is followed does not matter to the containers. -/
theorem consistent_of_follows (h : Consistent t) (callsign : String) :
    Consistent { t with m_followPlaneViewCallsign := callsign } :=
  ⟨h.nodup, h.sequence, h.menuItems, h.planesByCallsign, h.planesById⟩

theorem consistent_follow (h : Consistent t) (sequence : List String) :
    Consistent (t.follow sequence).1 := by
  rcases (follow_cases t sequence).1 with ⟨callsign, hstep⟩
  rw [hstep]
  exact consistent_of_follows h callsign

theorem destroyedOnce_follow (h : DestroyedOnce t out) (sequence : List String) :
    DestroyedOnce (t.follow sequence).1 (out ++ (t.follow sequence).2) := by
  rcases follow_cases t sequence with ⟨⟨callsign, hstep⟩, hdestroyed⟩
  refine destroyedOnce_of_same h ?_ ?_ hdestroyed
  · rw [hstep]
  · rw [hstep]

theorem consistent_removePlane (h : Consistent t) (callsign : String) :
    Consistent (t.removePlane callsign).1 := by
  unfold CTraffic.removePlane
  dsimp only
  cases hthere : t.m_planesByCallsign.lookup callsign with
  | some plane => exact consistent_erase h hthere
  | none =>
      -- There is no menu item either.
      have hitem : (t.m_followPlaneViewMenuItems.lookup callsign) = none := by
        rw [h.menuItems, hthere, Option.map_none]
      refine ⟨h.nodup, h.sequence, fun other => ?_, h.planesByCallsign, h.planesById⟩
      rw [← h.menuItems other]
      by_cases heq : other = callsign
      · rw [heq, AList.lookup_erase, hitem]
      · rw [AList.lookup_erase_ne heq]

/-- Without planes there is nothing to disagree about. -/
theorem consistent_removeAllPlanes (t : CTraffic) : Consistent t.removeAllPlanes.1 := by
  refine ⟨List.nodup_nil, fun callsign => ?_, fun callsign => rfl, ?_, ?_⟩
  · exact iff_of_false List.not_mem_nil Bool.false_ne_true
  · intro callsign plane hlookup
    exact absurd (show some plane = none from hlookup.symm) (Option.some_ne_none plane)
  · intro id plane hlookup
    exact absurd (show some plane = none from hlookup.symm) (Option.some_ne_none plane)

/-- One call keeps the containers in agreement. -/
theorem consistent_step (h : Consistent t) (call : TrafficCall) (hfresh : FreshId t call) :
    Consistent (traffic.step t call).1 := by
  cases call with
  | addPlane callsign modelName aircraftIcao airlineIcao livery id =>
      rcases t.addPlane_cases callsign modelName aircraftIcao airlineIcao livery id with
        ⟨hsame, -⟩ | ⟨hnone, plane, rfl, hcallsign, -, hstep, -⟩
      · exact hsame.symm ▸ h
      · exact hstep.symm ▸ consistent_insert h hnone hfresh hcallsign
  | removePlane callsign => exact consistent_removePlane h callsign
  | removeAllPlanes => exact consistent_removeAllPlanes t
  | switchToFollowPlaneView callsign =>
      change Consistent (t.switchToFollowPlaneView callsign).1
      unfold CTraffic.switchToFollowPlaneView
      split
      · exact h
      · exact consistent_of_follows h callsign
  | followNextPlane => exact consistent_follow h _
  | followPreviousPlane => exact consistent_follow h _

/-- One call destroys the planes it removes. -/
theorem destroyedOnce_step (h : DestroyedOnce t out) (call : TrafficCall) :
    DestroyedOnce (traffic.step t call).1 (out ++ (traffic.step t call).2) := by
  cases call with
  | addPlane callsign modelName aircraftIcao airlineIcao livery id =>
      rcases t.addPlane_cases callsign modelName aircraftIcao airlineIcao livery id with
        ⟨hsame, hdestroyed⟩ | ⟨hnone, plane, rfl, -, hobject, hstep, hdestroyed⟩
      · exact destroyedOnce_of_same h (congrArg CTraffic.m_planesByCallsign hsame)
          (congrArg CTraffic.made hsame) hdestroyed
      · exact destroyedOnce_insert h hnone hobject (congrArg CTraffic.m_planesByCallsign hstep)
          (congrArg CTraffic.made hstep) hdestroyed
  -- A plane that is registered has not been destroyed.
  | removePlane callsign =>
      change DestroyedOnce (t.removePlane callsign).1 (out ++ (t.removePlane callsign).2)
      unfold CTraffic.removePlane
      dsimp only
      cases hthere : t.m_planesByCallsign.lookup callsign with
      | none => exact destroyedOnce_of_same h rfl rfl rfl
      | some plane => exact destroyedOnce_erase h hthere rfl rfl
  | removeAllPlanes => exact destroyedOnce_removeAllPlanes h
  | switchToFollowPlaneView callsign =>
      change DestroyedOnce (t.switchToFollowPlaneView callsign).1
        (out ++ (t.switchToFollowPlaneView callsign).2)
      unfold CTraffic.switchToFollowPlaneView
      split
      · exact destroyedOnce_of_same h rfl rfl rfl
      · exact destroyedOnce_of_same h rfl rfl rfl
  | followNextPlane => exact destroyedOnce_follow h _
  | followPreviousPlane => exact destroyedOnce_follow h _

end Step

/-! ## The next plane -/

/-- There are planes exactly where there is a sequence. -/
theorem Consistent.isEmpty_iff {t : CTraffic} (h : Consistent t) :
    t.m_planesByCallsign.isEmpty = true ↔ t.m_followPlaneViewSequence = [] := by
  rw [AssocMap.isEmpty_iff_lookup, List.eq_nil_iff_forall_not_mem]
  refine forall_congr' fun callsign => ?_
  rw [h.sequence, Bool.not_eq_true, Option.isSome_eq_false_iff, Option.isNone_iff_eq_none]

/-- A step through the sequence, in either direction, finds a plane. -/
theorem follow_of_perm {t : CTraffic} (h : Consistent t) {sequence : List String}
    (hperm : sequence.Perm t.m_followPlaneViewSequence)
    (hplanes : t.m_planesByCallsign.isEmpty = false)
      (hfollowed : t.m_followPlaneViewCallsign ≠ "") :
    ∃ callsign ∈ t.m_followPlaneViewSequence,
      cyclicNext sequence t.m_followPlaneViewCallsign = some callsign ∧
        t.follow sequence = ({ t with m_followPlaneViewCallsign := callsign }, []) := by
  have hne : sequence ≠ [] := by
    intro hnil
    rw [hnil] at hperm
    have hempty := h.isEmpty_iff.mpr hperm.nil_eq.symm
    rw [hplanes] at hempty
    exact Bool.false_ne_true hempty
  rcases exists_cyclicNext hne t.m_followPlaneViewCallsign with ⟨callsign, hmem, hnext⟩
  refine ⟨callsign, hperm.mem_iff.mp hmem, hnext, ?_⟩
  have hsome : t.m_followPlaneViewCallsign.isEmpty = false := by
    rw [Bool.eq_false_iff, Ne, String.isEmpty_iff]
    exact hfollowed
  unfold CTraffic.follow
  rw [hplanes, hsome, Bool.or_false, if_neg Bool.false_ne_true, hnext]

/-- What a step does not find is not dereferenced. -/
theorem selects_of_perm {t : CTraffic} (h : Consistent t) {sequence : List String}
    (hperm : sequence.Perm t.m_followPlaneViewSequence) :
    TrafficEffect.dereferencedEnd ∉ (t.follow sequence).2 ∧
      (t.m_planesByCallsign.isEmpty = false → t.m_followPlaneViewCallsign ≠ "" →
        (t.m_planesByCallsign.lookup
          (t.follow sequence).1.m_followPlaneViewCallsign).isSome = true) := by
  by_cases hstops : (t.m_planesByCallsign.isEmpty || t.m_followPlaneViewCallsign.isEmpty) = true
  · have hstep : t.follow sequence = (t, []) := if_pos hstops
    rw [hstep]
    refine ⟨List.not_mem_nil, fun hplanes hfollowed => ?_⟩
    rw [hplanes, Bool.false_or, String.isEmpty_iff] at hstops
    exact absurd hstops hfollowed
  · rw [Bool.or_eq_true, not_or, Bool.not_eq_true, String.isEmpty_iff] at hstops
    rcases follow_of_perm h hperm hstops.1 hstops.2 with ⟨callsign, hmem, -, hstep⟩
    rw [hstep]
    exact ⟨List.not_mem_nil, fun _ _ => (h.sequence callsign).mp hmem⟩

/-- The next plane is one of the planes. -/
theorem selectsRegistered_of_consistent {t : CTraffic} (h : Consistent t) :
    SelectsRegistered t := by
  have hnext := selects_of_perm h (List.Perm.refl t.m_followPlaneViewSequence)
  have hprevious := selects_of_perm h (List.reverse_perm t.m_followPlaneViewSequence)
  exact ⟨hnext.1, hprevious.1, fun hplanes hfollowed =>
    ⟨hnext.2 hplanes hfollowed, hprevious.2 hplanes hfollowed⟩⟩

/-! ## The walk -/

/-- Where every plane has a callsign, the steps go along the sequence. -/
theorem visitsAll_followed {t : CTraffic} (h : Consistent t) {sequence : List String}
    (hperm : sequence.Perm t.m_followPlaneViewSequence)
    (hempty : "" ∉ t.m_followPlaneViewSequence) {callsign : String}
    (hmem : callsign ∈ t.m_followPlaneViewSequence) :
    VisitsAll (followed t sequence) t.m_followPlaneViewSequence callsign := by
  have hstep : ∀ c ∈ sequence, cyclicNext sequence c = some (followed t sequence c) := by
    intro c hc
    have hc' := hperm.mem_iff.mp hc
    have hplanes : t.m_planesByCallsign.isEmpty = false := by
      rw [Bool.eq_false_iff, Ne, h.isEmpty_iff]
      exact List.ne_nil_of_mem hc'
    have hne : c ≠ "" := fun heq => hempty (heq ▸ hc')
    rcases follow_of_perm (consistent_of_follows h c) hperm hplanes hne with
      ⟨next, -, hnext, hfollow⟩
    have hfollowed : followed t sequence c = next := by
      unfold followed
      rw [hfollow]
    rw [hfollowed]
    exact hnext
  exact (visitsAll_of_cyclicNext (hperm.nodup_iff.mpr h.nodup) hstep
    (hperm.mem_iff.mpr hmem)).of_perm hperm

/-- The empty callsign is followed by none. -/
theorem followed_empty (t : CTraffic) (sequence : List String) : followed t sequence "" = "" := by
  have hstep : ({ t with m_followPlaneViewCallsign := "" }).follow sequence
      = ({ t with m_followPlaneViewCallsign := "" }, []) := if_pos (Bool.or_true _)
  unfold followed
  rw [hstep]

/-- A walk visits all planes exactly where the empty callsign is not in its way. -/
theorem walksAround_iff {t : CTraffic} (h : Consistent t) :
    WalksAround t ↔
      ¬("" ∈ t.m_followPlaneViewSequence ∧ 2 ≤ t.m_followPlaneViewSequence.length) := by
  constructor
  · rintro hwalks ⟨hempty, htwo⟩
    exact not_visitsAll_of_fixed h.nodup hempty (followed_empty t _) htwo "" (hwalks "" hempty).1
  · intro hway callsign hmem
    by_cases hempty : "" ∈ t.m_followPlaneViewSequence
    · -- There is no other plane.
      have hone : t.m_followPlaneViewSequence = [""] := by
        have hlen : ¬2 ≤ t.m_followPlaneViewSequence.length := fun htwo => hway ⟨hempty, htwo⟩
        have hpos := List.length_pos_of_mem hempty
        rcases List.length_eq_one_iff.mp (show t.m_followPlaneViewSequence.length = 1 by omega)
          with ⟨c, hc⟩
        rw [hc, List.mem_singleton] at hempty
        rw [hc, ← hempty]
      have hcallsign : callsign = "" := by
        rw [hone] at hmem
        exact List.mem_singleton.mp hmem
      rw [hcallsign]
      constructor
      · have hstays : nextPlane t "" = "" := followed_empty t _
        rw [hone]
        exact visitsAll_singleton hstays
      · have hstays : previousPlane t "" = "" := followed_empty t _
        rw [hone]
        exact visitsAll_singleton hstays
    · exact ⟨visitsAll_followed h (List.Perm.refl _) hempty hmem,
        visitsAll_followed h (List.reverse_perm _) hempty hmem⟩

/-! ## Runs -/

/-- No plane is there, and none was made. -/
def noPlanes (models : AssocMap String String) : CTraffic := { m_modelStrings := models }

theorem consistent_noPlanes (models : AssocMap String String) : Consistent (noPlanes models) :=
  consistent_removeAllPlanes (noPlanes models)

theorem destroyedOnce_noPlanes (models : AssocMap String String) :
    DestroyedOnce (noPlanes models) [] := by
  refine ⟨List.nodup_nil, fun object => ?_, ?_, ?_⟩
  · refine iff_of_false (Nat.not_lt_zero object) ?_
    rintro (hmem | ⟨callsign, plane, hlookup, -⟩)
    · exact List.not_mem_nil hmem
    · exact absurd (show some plane = none from hlookup.symm) (Option.some_ne_none plane)
  · intro callsign plane hlookup
    exact absurd (show some plane = none from hlookup.symm) (Option.some_ne_none plane)
  · intro callsign plane callsign' plane' hlookup
    exact absurd (show some plane = none from hlookup.symm) (Option.some_ne_none plane)

/-- In every run the containers agree, planes are destroyed once, and the next plane is one of
    the planes. A walk visits all planes exactly where no plane with the empty callsign is
    among others. -/
theorem plane_registry (models : AssocMap String String) (calls : List TrafficCall)
    (hfresh : traffic.AllSteps FreshId (noPlanes models) calls) :
    Consistent (traffic.run (noPlanes models) calls).1 ∧
      DestroyedOnce (traffic.run (noPlanes models) calls).1
        (traffic.run (noPlanes models) calls).2 ∧
      SelectsRegistered (traffic.run (noPlanes models) calls).1 ∧
      (WalksAround (traffic.run (noPlanes models) calls).1 ↔
        ¬("" ∈ (traffic.run (noPlanes models) calls).1.m_followPlaneViewSequence ∧
          2 ≤ (traffic.run (noPlanes models) calls).1.m_followPlaneViewSequence.length)) := by
  have hkept := traffic.run_invariant_of FreshId
    (fun t out => Consistent t ∧ DestroyedOnce t out)
    (fun t out call hcall h => ⟨consistent_step h.1 call hcall, destroyedOnce_step h.2 call⟩)
    calls (noPlanes models) [] hfresh ⟨consistent_noPlanes models, destroyedOnce_noPlanes models⟩
  exact ⟨hkept.1, hkept.2, selectsRegistered_of_consistent hkept.1, walksAround_iff hkept.1⟩

/-- Two planes, the first of which is removed and made again. -/
def twoPlanes : List TrafficCall :=
  [.addPlane "A" "" "A320" "DLH" "" (some 1), .addPlane "B" "" "B744" "BAW" "" (some 2),
    .removePlane "A", .addPlane "A" "" "A320" "DLH" "" (some 1), .switchToFollowPlaneView "A"]

theorem plane_registry_twoPlanes :
    Consistent (traffic.run (noPlanes ∅) twoPlanes).1 ∧
      DestroyedOnce (traffic.run (noPlanes ∅) twoPlanes).1 (traffic.run (noPlanes ∅) twoPlanes).2 ∧
      SelectsRegistered (traffic.run (noPlanes ∅) twoPlanes).1 ∧
      WalksAround (traffic.run (noPlanes ∅) twoPlanes).1 := by
  have hall := plane_registry ∅ twoPlanes ⟨rfl, rfl, trivial, rfl, trivial, trivial⟩
  exact ⟨hall.1, hall.2.1, hall.2.2.1, hall.2.2.2.mpr (by decide +kernel)⟩

/-- One plane without a callsign, and one with. -/
def withEmptyCallsign : List TrafficCall :=
  [.addPlane "" "" "A320" "DLH" "" (some 1), .addPlane "B" "" "B744" "BAW" "" (some 2)]

/-- From the plane with a callsign the walk gets to the one without, and stays there. -/
theorem walk_ends_at_empty_callsign :
    nextPlane (traffic.run (noPlanes ∅) withEmptyCallsign).1 "B" = "" ∧
      nextPlane (traffic.run (noPlanes ∅) withEmptyCallsign).1 "" = "" ∧
      ¬WalksAround (traffic.run (noPlanes ∅) withEmptyCallsign).1 := by
  refine ⟨by decide +kernel, by decide +kernel, fun hwalks => ?_⟩
  have hround := (hwalks "B" (by decide +kernel)).1.2
  exact absurd hround (by decide +kernel)

end NeoSwift.XSwiftBus
