import NeoSwift.Core.AirspaceMonitor.Monitor
import NeoSwift.Lib.Machine

/-!
# Range Signals

A simulator keeps its aircraft by the signals of the monitor alone. Here is what a
listener makes of them, and when that is what the monitor has in range.

Most inputs are quiet: they neither bring an aircraft into range nor out of it, and have
no such signal. Where the two go together, the listener follows. The one place where they
do not is a position beyond the hysteresis range, with which the aircraft is removed and
nobody is told.

## Main definitions

* `callsigns`: Who is in range.
* `Listener`: What the signals tell.
* `observedMonitor`: The monitor with a listener.
* `Quiet`: An input that leaves alone who is in range.
* `LeavesByDistance`: A removal without a signal.

## Theorems

* `callsigns_storeAircraftSituation`: Storing a position is quiet.
* `mirrors_step`: A step keeps the listener up to date.
* `onAircraftUpdateReceived_inRange`: Who is in range after a position.
* `range_signals_mirror`: The listener knows who is in range.
-/

namespace NeoSwift

namespace Misc

namespace Simulation

namespace RemoteAircraftProvider

open Aviation

open Fsd (CallsignMap)

variable {S C E : Type}

/-- Who is in range. -/
def callsigns (p : RemoteAircraftProvider S C) : CallsignMap Callsign :=
  fun k => (p.aircraftInRange k).map CSimulatedAircraft.callsign

theorem isSome_callsigns (p : RemoteAircraftProvider S C) (k : QString) :
    (p.callsigns k).isSome = p.aircraftInRange.contains k := by
  rw [callsigns, Option.isSome_map]
  rfl

theorem callsigns_updateInRange (p : RemoteAircraftProvider S C) (callsign : Callsign)
    (f : CSimulatedAircraft S → CSimulatedAircraft S)
    (hf : ∀ aircraft, (f aircraft).callsign = aircraft.callsign) :
    (p.updateInRange callsign f).1.callsigns = p.callsigns := by
  unfold updateInRange
  cases haircraft : p.aircraftInRange (key callsign) with
  | none => rfl
  | some aircraft =>
    funext k
    unfold callsigns
    by_cases hk : k = key callsign
    · rw [hk]
      simp [hf, haircraft]
    · simp [CallsignMap.insert_of_ne _ _ _ hk]

theorem callsigns_removeAircraft (p : RemoteAircraftProvider S C) (callsign : Callsign) :
    (p.removeAircraft callsign).1.callsigns = p.callsigns.remove (key callsign) := by
  funext k
  unfold removeAircraft callsigns
  by_cases hk : k = key callsign
  · rw [hk]
    simp
  · simp [CallsignMap.remove_of_ne _ _ hk]

theorem callsigns_addNewAircraftInRange (p : RemoteAircraftProvider S C)
    (aircraft : CSimulatedAircraft S) (h : p.isAircraftInRange aircraft.callsign = false) :
    (p.addNewAircraftInRange aircraft).1.callsigns =
      p.callsigns.insert (key aircraft.callsign) aircraft.callsign := by
  unfold addNewAircraftInRange
  rw [h]
  funext k
  unfold callsigns
  by_cases hk : k = key aircraft.callsign
  · rw [hk]
    simp
  · simp [CallsignMap.insert_of_ne _ _ _ hk]

section Situations

variable [TimestampWithOffsetBased S] [TimestampWithOffsetBased C] (lib : SituationLibrary S C E)

theorem callsigns_storeAircraftSituation (p : RemoteAircraftProvider S C) (situation : S)
    (allowTestAltitudeOffset : Bool) (now : ℤ) :
    (p.storeAircraftSituation lib situation allowTestAltitudeOffset now).1.callsigns =
      p.callsigns := by
  have hinsert (p : RemoteAircraftProvider S C) (situation corrected : S)
      (model : CAircraftModel) :
      (p.insertSituation lib situation corrected model now).callsigns = p.callsigns := by
    unfold insertSituation
    dsimp only
    split <;> rfl
  unfold storeAircraftSituation
  dsimp only
  split
  · rfl
  · rw [hinsert]
    unfold updateCGFromSituation
    dsimp only
    split
    · refine callsigns_updateInRange _ _ _ fun aircraft => ?_
      unfold CSimulatedAircraft.setCG
      split <;> rfl
    · rfl

theorem callsigns_storeAircraftPartsJson (p : RemoteAircraftProvider S C) (callsign : Callsign)
    (jsonObject : QJsonObject) (currentOffsetMs now : ℤ) :
    (p.storeAircraftPartsJson lib callsign jsonObject currentOffsetMs now).callsigns =
      p.callsigns := by
  -- Parts change an aircraft in place, and none of the three updates adds one.
  have hremember (p : RemoteAircraftProvider S C) :
      (p.rememberPartsMessage callsign jsonObject).callsigns = p.callsigns := by
    unfold rememberPartsMessage
    split <;> rfl
  have hadjust (p : RemoteAircraftProvider S C) (parts : CAircraftParts) :
      (p.adjustGroundFlagOfSituations lib callsign parts now).callsigns = p.callsigns := by
    unfold adjustGroundFlagOfSituations
    split <;> rfl
  have hstore (parts : CAircraftParts) :
      (p.storeAircraftParts lib callsign parts false now).callsigns = p.callsigns := by
    have hupdate (q : RemoteAircraftProvider S C) :=
      callsigns_updateInRange q callsign (fun aircraft =>
        { aircraft with parts := parts, isPartsSynchronized := true }) (fun _ => rfl)
    unfold storeAircraftParts
    split
    · rfl
    · exact (hupdate _).trans (hadjust _ parts)
  unfold storeAircraftPartsJson
  dsimp only
  split
  · rfl
  · split
    · rfl
    · split
      · rfl
      · rw [hremember, hstore]

end Situations

end RemoteAircraftProvider

end Simulation

end Misc

namespace Core

open Aviation Pq Misc Misc.Simulation

open Fsd (CallsignMap AtcStation)

open RemoteAircraftProvider (key)

/-- What the signals tell: who is in range, and when each of them was ready to be matched
    since it is there. -/
structure Listener where
  inRange : QString → Bool := fun _ => false
  sent : QString → List ℕ := fun _ => []

variable {S C E : Type}

/-- The latest time comes first. -/
def Listener.take (now : ℕ) (l : Listener) : MonitorSignal S → Listener
  | .addedAircraft aircraft =>
    { inRange := Function.update l.inRange (key aircraft.callsign) true
      sent := Function.update l.sent (key aircraft.callsign) [] }
  | .removedAircraft callsign =>
    { l with inRange := Function.update l.inRange (key callsign) false }
  | .removedEachAircraft inRange => { l with inRange := fun k => l.inRange k && !inRange k }
  | .readyForModelMatching aircraft =>
    let k := key aircraft.callsign
    { l with sent := Function.update l.sent k (now :: l.sent k) }
  | _ => l

def Listener.listen (now : ℕ) (l : Listener) (signals : List (MonitorSignal S)) : Listener :=
  signals.foldl (Listener.take now) l

theorem Listener.listen_append (now : ℕ) (l : Listener) (first second : List (MonitorSignal S)) :
    l.listen now (first ++ second) = (l.listen now first).listen now second :=
  List.foldl_append

/-- A signal about who is in range. -/
def MonitorSignal.isRange : MonitorSignal S → Bool
  | .addedAircraft _ | .removedAircraft _ | .removedEachAircraft _ => true
  | _ => false

theorem Listener.inRange_listen (now : ℕ) (l : Listener) (signals : List (MonitorSignal S))
    (h : ∀ signal ∈ signals, signal.isRange = false) :
    (l.listen now signals).inRange = l.inRange := by
  induction signals generalizing l with
  | nil => rfl
  | cons signal signals ih =>
    refine (ih (l.take now signal) fun s hs => h s (List.mem_cons_of_mem _ hs)).trans ?_
    have hsignal := h signal List.mem_cons_self
    cases signal with
    | addedAircraft | removedAircraft | removedEachAircraft =>
      cases hsignal
    | _ => rfl

namespace CAirspaceMonitor

/-- The range within which aircraft come, and beyond which they go. -/
def ranges (m : CAirspaceMonitor S C) : ℤ × ℤ := (m.maxDistanceNM, m.maxDistanceNMHysteresis)

/-- What leaves alone who is in range, and what that is. -/
structure Quiet (m : CAirspaceMonitor S C)
    (r : CAirspaceMonitor S C × List (MonitorSignal S)) : Prop where
  ranges : r.1.ranges = m.ranges
  callsigns : r.1.provider.callsigns = m.provider.callsigns
  signals : ∀ signal ∈ r.2, signal.isRange = false

/-- The listener knows who is in range. -/
def Mirrors (m : CAirspaceMonitor S C) (l : Listener) : Prop :=
  ∀ k, l.inRange k = m.provider.aircraftInRange.contains k

variable {m : CAirspaceMonitor S C}

theorem quiet_of_callsigns {m' : CAirspaceMonitor S C} (hranges : m'.ranges = m.ranges)
    (h : m'.provider.callsigns = m.provider.callsigns) : Quiet m (m', []) :=
  ⟨hranges, h, fun _ h => absurd h List.not_mem_nil⟩

theorem quiet_refl : Quiet m (m, []) := quiet_of_callsigns rfl rfl

theorem Quiet.after {m' : CAirspaceMonitor S C}
    {r : CAirspaceMonitor S C × List (MonitorSignal S)} (h' : Quiet m' r)
    (h : Quiet m (m', [])) : Quiet m r :=
  ⟨h'.ranges.trans h.ranges, h'.callsigns.trans h.callsigns, h'.signals⟩

variable [TimestampWithOffsetBased S] [TimestampWithOffsetBased C] (lib : AirspaceLibrary S C E)
  (env : MonitorEnv S)

variable (callsign : Callsign)

theorem quiet_sendReadyForModelMatching (rf : MatchingReadinessFlag) :
    Quiet m (m.sendReadyForModelMatching lib env callsign rf) := by
  unfold sendReadyForModelMatching
  dsimp only
  split_ifs
  · exact quiet_refl
  · exact quiet_of_callsigns rfl rfl
  · split
    · exact quiet_of_callsigns rfl rfl
    · split_ifs
      · exact quiet_of_callsigns rfl rfl
      · refine ⟨rfl, rfl, fun signal hsignal => ?_⟩
        rw [List.mem_singleton.mp hsignal]
        rfl

theorem quiet_addOrUpdateAircraftInRange (aircraftIcao airlineIcao livery modelString : QString) :
    Quiet m (m.addOrUpdateAircraftInRange lib env callsign aircraftIcao airlineIcao livery
      modelString, []) := by
  unfold addOrUpdateAircraftInRange
  split
  · exact quiet_refl
  · exact quiet_of_callsigns rfl
      (RemoteAircraftProvider.callsigns_updateInRange _ _ _ fun _ => rfl)

theorem quiet_onCustomFSInnPacketReceived
    (airlineIcao aircraftIcao combinedType modelString : QString) :
    Quiet m (m.onCustomFSInnPacketReceived lib env callsign airlineIcao aircraftIcao combinedType
      modelString) := by
  unfold onCustomFSInnPacketReceived
  dsimp only
  split_ifs
  · exact quiet_refl
  · exact quiet_of_callsigns rfl rfl
  · exact ((quiet_sendReadyForModelMatching lib env callsign _).after
      (quiet_addOrUpdateAircraftInRange lib env callsign aircraftIcao airlineIcao [] _)).after
        (quiet_of_callsigns rfl rfl)
  · exact (quiet_sendReadyForModelMatching lib env callsign _).after (quiet_of_callsigns rfl rfl)
  · exact quiet_of_callsigns rfl rfl

theorem quiet_checkAgain (rf : MatchingReadinessFlag) :
    Quiet m (m.checkAgain lib env callsign rf) := by
  unfold checkAgain recallFsInnPacket
  split_ifs
  · exact quiet_refl
  · exact quiet_sendReadyForModelMatching lib env callsign _
  · cases m.tempFsInnPackets (key callsign) with
    | none => exact quiet_sendReadyForModelMatching lib env callsign _
    | some packet =>
      exact (quiet_onCustomFSInnPacketReceived lib env callsign packet.airlineIcaoDesignator
        packet.aircraftIcaoDesignator packet.combinedCode packet.modelString).after
          (quiet_of_callsigns rfl rfl)

omit [TimestampWithOffsetBased S] in
theorem quiet_sendInitialPilotQueries (withIcaoQuery withFsInn : Bool) :
    ∀ signal ∈ sendInitialPilotQueries env callsign withIcaoQuery withFsInn,
      signal.isRange = false := by
  unfold sendInitialPilotQueries
  intro signal hsignal
  split_ifs at hsignal
  · rw [List.mem_singleton.mp hsignal]
    rfl
  · cases hsignal

theorem quiet_verifyReceivedIcaoData (addition : ℕ) :
    Quiet m (m.verifyReceivedIcaoData lib env callsign addition) := by
  unfold verifyReceivedIcaoData
  dsimp only
  split_ifs
  · exact quiet_refl
  · exact quiet_of_callsigns rfl rfl
  · exact (quiet_sendReadyForModelMatching lib env callsign _).after (quiet_of_callsigns rfl rfl)
  · exact ⟨rfl, rfl, quiet_sendInitialPilotQueries env callsign true true⟩
  · exact (quiet_sendReadyForModelMatching lib env callsign _).after (quiet_of_callsigns rfl rfl)

theorem quiet_onIcaoCodesReceived (aircraftIcao airlineIcao livery : QString) :
    Quiet m (m.onIcaoCodesReceived lib env callsign aircraftIcao airlineIcao livery) := by
  unfold onIcaoCodesReceived
  split_ifs
  · exact quiet_refl
  · have hsent := (quiet_sendReadyForModelMatching lib env callsign .receivedIcaoCodes).after
      (quiet_addOrUpdateAircraftInRange lib env (m := m) callsign aircraftIcao airlineIcao livery
        ((m.clients (key callsign)).getD []))
    refine ⟨hsent.ranges, hsent.callsigns, fun signal hsignal => ?_⟩
    rcases List.mem_append.mp hsignal with hsignal | hsignal
    · exact hsent.signals signal hsignal
    · rw [List.mem_singleton.mp hsignal]
      rfl

theorem quiet_storeAircraftSituation (situation : S) :
    Quiet m (m.storeAircraftSituation lib env situation, []) :=
  quiet_of_callsigns rfl (RemoteAircraftProvider.callsigns_storeAircraftSituation ..)

theorem quiet_onAircraftInterimUpdateReceived (situation : S) (samePosition : S → Bool) :
    Quiet m (m.onAircraftInterimUpdateReceived lib env situation samePosition, []) := by
  unfold onAircraftInterimUpdateReceived
  dsimp only
  split_ifs
  · exact quiet_refl
  · split
    · exact quiet_refl
    · refine Quiet.after ?_ (quiet_storeAircraftSituation lib env situation)
      split_ifs
      · exact quiet_refl
      · exact quiet_of_callsigns rfl
          (RemoteAircraftProvider.callsigns_updateInRange _ _ _ fun _ => rfl)

theorem quiet_onAircraftConfigReceived (jsonObject : QJsonObject) (currentOffsetMs : ℤ) :
    Quiet m (m.onAircraftConfigReceived lib env callsign jsonObject currentOffsetMs, []) := by
  unfold onAircraftConfigReceived
  split_ifs
  · exact quiet_refl
  · exact quiet_of_callsigns rfl (RemoteAircraftProvider.callsigns_storeAircraftPartsJson ..)

omit [TimestampWithOffsetBased S] [TimestampWithOffsetBased C] in
theorem quiet_onAtcPositionUpdate (station : AtcStation) :
    Quiet m (m.onAtcPositionUpdate env station) := by
  unfold onAtcPositionUpdate
  dsimp only
  split_ifs
  · exact quiet_refl
  · exact quiet_of_callsigns rfl rfl
  · exact ⟨rfl, rfl, List.forall_mem_singleton.mpr rfl⟩
  · exact ⟨rfl, rfl, List.forall_mem_singleton.mpr rfl⟩

omit [TimestampWithOffsetBased S] [TimestampWithOffsetBased C] in
theorem quiet_onAtcControllerDisconnected :
    Quiet m (m.onAtcControllerDisconnected env callsign) := by
  unfold onAtcControllerDisconnected
  dsimp only
  split_ifs
  · exact quiet_refl
  · split
    · exact quiet_of_callsigns rfl rfl
    · exact ⟨rfl, rfl, List.forall_mem_cons.mpr ⟨rfl, List.forall_mem_singleton.mpr rfl⟩⟩

/-! ## Who comes and goes -/

/-- What keeps the listener up to date. -/
structure Follows (m : CAirspaceMonitor S C) (r : CAirspaceMonitor S C × List (MonitorSignal S)) :
    Prop where
  ranges : r.1.ranges = m.ranges
  mirrors : ∀ now l, Mirrors m l → Mirrors r.1 (l.listen now r.2)

section

omit [TimestampWithOffsetBased S] [TimestampWithOffsetBased C]

theorem mirrors_iff {l : Listener} :
    Mirrors m l ↔ ∀ k, l.inRange k = (m.provider.callsigns k).isSome := by
  simp [Mirrors, RemoteAircraftProvider.isSome_callsigns]

theorem Quiet.follows {r : CAirspaceMonitor S C × List (MonitorSignal S)} (h : Quiet m r) :
    Follows m r := by
  refine ⟨h.ranges, fun now l hl => ?_⟩
  rw [mirrors_iff] at hl ⊢
  intro k
  rw [Listener.inRange_listen now l r.2 h.signals, h.callsigns]
  exact hl k

theorem Follows.append {first second : CAirspaceMonitor S C × List (MonitorSignal S)}
    (h : Follows m first) (h' : Follows first.1 second) :
    Follows m (second.1, first.2 ++ second.2) := by
  refine ⟨h'.ranges.trans h.ranges, fun now l hl => ?_⟩
  rw [Listener.listen_append]
  exact h'.mirrors now _ (h.mirrors now l hl)

/-- After something quiet. -/
theorem Follows.after {m' : CAirspaceMonitor S C}
    {r : CAirspaceMonitor S C × List (MonitorSignal S)} (h' : Follows m' r)
    (h : Quiet m (m', [])) : Follows m r := h.follows.append h'

/-- An aircraft is added, or is there. -/
theorem addNewAircraftInRange_cases (aircraft : CSimulatedAircraft S) :
    (m.provider.isAircraftInRange aircraft.callsign = true ∧
      m.addNewAircraftInRange env aircraft = (m, [])) ∨
    (m.provider.isAircraftInRange aircraft.callsign = false ∧
      (m.addNewAircraftInRange env aircraft).1.provider.callsigns =
        m.provider.callsigns.insert (key aircraft.callsign) aircraft.callsign ∧
      ∃ added : CSimulatedAircraft S, added.callsign = aircraft.callsign ∧
        (m.addNewAircraftInRange env aircraft).2 = [.addedAircraft added]) := by
  unfold addNewAircraftInRange
  dsimp only
  generalize hnew : ({ aircraft with
    isRendered := false
    relativeDistance := env.relativeDistance aircraft.situation
    relativeBearing := env.relativeBearing aircraft.situation } : CSimulatedAircraft S) =
      newAircraft
  have hcallsign : newAircraft.callsign = aircraft.callsign := by rw [← hnew]
  rw [← hcallsign]
  -- The provider adds the aircraft only if it is not there.
  have hadded : (m.provider.addNewAircraftInRange newAircraft).2 =
      !m.provider.isAircraftInRange newAircraft.callsign := by
    unfold RemoteAircraftProvider.addNewAircraftInRange
    cases m.provider.isAircraftInRange newAircraft.callsign <;> rfl
  rw [hadded]
  cases hrange : m.provider.isAircraftInRange newAircraft.callsign with
  | true => exact Or.inl ⟨rfl, rfl⟩
  | false =>
    refine Or.inr ⟨rfl, ?_, newAircraft, rfl, rfl⟩
    refine Eq.trans ?_
      (RemoteAircraftProvider.callsigns_addNewAircraftInRange m.provider newAircraft hrange)
    rw [if_neg (by decide)]
    split <;> rfl

theorem ranges_addNewAircraftInRange (aircraft : CSimulatedAircraft S) :
    (m.addNewAircraftInRange env aircraft).1.ranges = m.ranges := by
  unfold addNewAircraftInRange
  dsimp only
  split <;> rfl

theorem follows_addNewAircraftInRange (aircraft : CSimulatedAircraft S) :
    Follows m (m.addNewAircraftInRange env aircraft) := by
  refine ⟨ranges_addNewAircraftInRange env aircraft, ?_⟩
  rcases addNewAircraftInRange_cases env (m := m) aircraft with
    ⟨-, hstep⟩ | ⟨-, hcallsigns, added, hadded, hsignals⟩
  · rw [hstep]
    exact quiet_refl.follows.mirrors
  · intro now l hl
    rw [mirrors_iff] at hl ⊢
    intro k
    rw [hcallsigns, hsignals]
    change Function.update l.inRange (key added.callsign) true k = _
    rw [hadded]
    by_cases hk : k = key aircraft.callsign
    · rw [hk, Function.update_self, CallsignMap.insert_self]
      rfl
    · rw [Function.update_of_ne hk, CallsignMap.insert_of_ne _ _ _ hk]
      exact hl k

theorem follows_removeAllAircraftInRange : Follows m m.removeAllAircraftInRange := by
  refine ⟨rfl, fun now l hl k => ?_⟩
  change (l.inRange k && !m.provider.aircraftInRange.contains k) = false
  rw [hl k, Bool.and_not_self]

theorem follows_clear : Follows m m.clear :=
  ⟨rfl, follows_removeAllAircraftInRange.mirrors⟩

theorem follows_reInitializeAllAircraft (order : List QString) :
    Follows m (m.reInitializeAllAircraft env order) :=
  ⟨rfl, follows_removeAllAircraftInRange.mirrors⟩

theorem follows_onPilotDisconnected (callsign : Callsign) :
    Follows m (m.onPilotDisconnected callsign) := by
  -- Purging comes first and announces nothing.
  have hpurged : Quiet m (if callsign.isEmpty then m else { m with
      readiness := m.readiness.remove (key callsign)
      provider := m.provider.removeReverseLookupMessages callsign }, []) := by
    split
    · exact quiet_refl
    · exact quiet_of_callsigns rfl rfl
  unfold onPilotDisconnected
  generalize (if callsign.isEmpty then m else { m with
      readiness := m.readiness.remove (key callsign)
      provider := m.provider.removeReverseLookupMessages callsign }) = purged at hpurged ⊢
  have hafter {r : CAirspaceMonitor S C × List (MonitorSignal S)} (h : Follows purged r) :
      Follows m r := h.after hpurged
  refine hafter ⟨rfl, fun now l hl => ?_⟩
  rw [mirrors_iff] at hl ⊢
  dsimp only
  intro k
  rw [RemoteAircraftProvider.callsigns_removeAircraft]
  have hremoved : (purged.provider.removeAircraft callsign).2 =
      (purged.provider.callsigns (key callsign)).isSome :=
    (RemoteAircraftProvider.isSome_callsigns _ _).symm
  -- The listener is told about this callsign only, and only if it was there.
  by_cases hk : k = key callsign
  · rw [hk, CallsignMap.remove_self, hremoved, ← hl (key callsign)]
    cases hin : l.inRange (key callsign) with
    | true => exact Function.update_self ..
    | false => exact hin
  · rw [CallsignMap.remove_of_ne _ _ hk, ← hl k]
    split_ifs
    · exact Function.update_of_ne hk ..
    · rfl

end

theorem follows_reInitialize (aircraft : CSimulatedAircraft S) :
    Follows m (m.reInitialize lib env aircraft) := by
  refine (follows_addNewAircraftInRange env aircraft).append ?_
  exact (quiet_sendReadyForModelMatching lib env aircraft.callsign .receivedAll).follows.after
    (quiet_of_callsigns rfl rfl)

theorem follows_fire (shot : SingleShot S) : Follows m (m.fire lib env shot) := by
  cases shot with
  | checkAgain callsign rf => exact (quiet_checkAgain lib env callsign rf).follows
  | verifyReceivedIcaoData callsign addition =>
    exact (quiet_verifyReceivedIcaoData lib env callsign addition).follows
  | reInitialize aircraft => exact follows_reInitialize lib env aircraft

theorem follows_onTimeout (timer : ℕ) : Follows m (m.onTimeout lib env timer) := by
  unfold onTimeout
  split
  · exact quiet_refl.follows
  · split_ifs
    · exact quiet_refl.follows
    · exact (follows_fire lib env _).after (quiet_of_callsigns rfl rfl)

/-! ## Positions -/

variable {lib env}

/-- A position the monitor looks at. -/
def Handled (lib : AirspaceLibrary S C E) (env : MonitorEnv S) (situation : S) : Prop :=
  env.isConnectedAndNotShuttingDown = true ∧
    env.isCopilotAircraft (lib.getCallsign situation) = false ∧ lib.isNull situation = false

/-- An aircraft in range is beyond the hysteresis range. -/
def LeavesByDistance (lib : AirspaceLibrary S C E) (env : MonitorEnv S)
    (m : CAirspaceMonitor S C) (situation : S) : Prop :=
  Handled lib env situation ∧ 0 ≤ m.maxDistanceNM ∧
    m.maxDistanceNMHysteresis < env.distanceNM situation ∧
    m.provider.aircraftInRange.contains (key (lib.getCallsign situation)) = true

/-- Only an aircraft in range can be removed. -/
theorem quiet_handleMaxRange {situation : S} (hconnected : env.isConnectedAndNotShuttingDown = true)
    (hcopilot : env.isCopilotAircraft (lib.getCallsign situation) = false)
    (h : ¬LeavesByDistance lib env m situation) :
    Quiet m ((m.handleMaxRange lib env situation).1, []) := by
  unfold handleMaxRange
  split_ifs with hnull hoff hfar
  · exact quiet_refl
  · exact quiet_refl
  · refine quiet_of_callsigns rfl ?_
    rw [RemoteAircraftProvider.callsigns_removeAircraft]
    funext k
    by_cases hk : k = key (lib.getCallsign situation)
    · rw [hk, CallsignMap.remove_self, eq_comm, ← Option.isNone_iff_eq_none, ← Option.not_isSome,
        RemoteAircraftProvider.isSome_callsigns, Bool.not_eq_true', ← Bool.not_eq_true]
      exact fun hin => h ⟨⟨hconnected, hcopilot, Bool.not_eq_true _ ▸ hnull⟩, not_lt.mp hoff, hfar,
        hin⟩
    · rw [CallsignMap.remove_of_ne _ _ hk]
  · exact quiet_refl

theorem follows_onAircraftUpdateReceived {situation : S}
    (h : ¬LeavesByDistance lib env m situation) :
    Follows m (m.onAircraftUpdateReceived lib env situation) := by
  unfold onAircraftUpdateReceived
  dsimp only
  -- The cases of the source: ignored, out of range, new, and known.
  by_cases hignored : (!env.isConnectedAndNotShuttingDown ||
      env.isCopilotAircraft (lib.getCallsign situation)) = true
  · rw [if_pos hignored]
    exact quiet_refl.follows
  rw [if_neg hignored]
  rw [Bool.not_eq_true, Bool.or_eq_false_iff, Bool.not_eq_false'] at hignored
  have hrange := quiet_handleMaxRange hignored.1 hignored.2 h
  have hstored := (quiet_storeAircraftSituation lib env situation).after hrange
  generalize (m.handleMaxRange lib env situation).1.storeAircraftSituation lib env
    situation = stored
    at hstored ⊢
  split_ifs
  · exact hrange.follows
  · have hadded := follows_addNewAircraftInRange env (m := stored)
      { callsign := lib.getCallsign situation, situation := situation }
    generalize stored.addNewAircraftInRange env
      { callsign := lib.getCallsign situation, situation := situation } = added at hadded ⊢
    -- The queries for a new aircraft are not announced.
    have hqueries (withFsInn : Bool) : Follows added.1 (added.1,
        sendInitialPilotQueries env (lib.getCallsign situation) true withFsInn) :=
      Quiet.follows ⟨rfl, rfl, quiet_sendInitialPilotQueries env _ _ _⟩
    exact (hadded.after hstored).append (hqueries _)
  · have hupdated := RemoteAircraftProvider.callsigns_updateInRange stored.provider
      (lib.getCallsign situation) (fun aircraft =>
        { aircraft with
          situation
          relativeDistance := env.relativeDistance situation
          relativeBearing := env.relativeBearing situation }) (fun _ => rfl)
    refine Quiet.follows (Quiet.after ?_ hstored)
    exact quiet_of_callsigns rfl hupdated

variable (lib env m) in
/-- What comes after the position in a simulator data update announces nothing. -/
theorem exists_rest_onAircraftSimDataUpdateReceived (situation : S) (parts : QJsonObject)
    (currentOffsetMs : ℤ) (aircraftIcao airlineIcao : QString) :
    ∃ rest, Follows (m.onAircraftUpdateReceived lib env situation).1 rest ∧
      m.onAircraftSimDataUpdateReceived lib env situation parts currentOffsetMs aircraftIcao
        airlineIcao = (rest.1, (m.onAircraftUpdateReceived lib env situation).2 ++ rest.2) := by
  unfold onAircraftSimDataUpdateReceived
  dsimp only
  generalize m.onAircraftUpdateReceived lib env situation = updated
  generalize ((updated.1.provider.aircraftInRange (key (lib.getCallsign situation))).map
    CSimulatedAircraft.networkModel).getD {} = model
  -- Codes that differ and the parts come after the position.
  have hcodes : Quiet updated.1 (if env.differsFromNetworkModel model aircraftIcao then
      updated.1.onIcaoCodesReceived lib env (lib.getCallsign situation) aircraftIcao airlineIcao
        airlineIcao
      else (updated.1, [])) := by
    split_ifs
    · exact quiet_onIcaoCodesReceived lib env _ _ _ _
    · exact quiet_refl
  generalize (if env.differsFromNetworkModel model aircraftIcao then
      updated.1.onIcaoCodesReceived lib env (lib.getCallsign situation) aircraftIcao airlineIcao
        airlineIcao
      else (updated.1, [])) = codes at hcodes ⊢
  have hconfig := quiet_onAircraftConfigReceived lib env (m := codes.1) (lib.getCallsign situation)
    parts currentOffsetMs
  exact ⟨(codes.1.onAircraftConfigReceived lib env (lib.getCallsign situation) parts
    currentOffsetMs, codes.2), Quiet.follows ⟨hconfig.ranges.trans hcodes.ranges,
    hconfig.callsigns.trans hcodes.callsigns, hcodes.signals⟩, rfl⟩

theorem follows_onAircraftSimDataUpdateReceived {situation : S}
    (h : ¬LeavesByDistance lib env m situation) (parts : QJsonObject) (currentOffsetMs : ℤ)
    (aircraftIcao airlineIcao : QString) :
    Follows m (m.onAircraftSimDataUpdateReceived lib env situation parts currentOffsetMs
      aircraftIcao airlineIcao) := by
  rcases exists_rest_onAircraftSimDataUpdateReceived m lib env situation parts currentOffsetMs
    aircraftIcao airlineIcao with ⟨rest, hrest, hresult⟩
  rw [hresult]
  exact (follows_onAircraftUpdateReceived h).append hrest

/-! ## Runs -/

/-- The hysteresis range is the larger one. -/
def RangesOrdered (m : CAirspaceMonitor S C) : Prop := 0 ≤ m.ranges.1 → m.ranges.1 ≤ m.ranges.2

theorem le_hysteresis (n : ℤ) (h : 0 ≤ n) : n ≤ qRound (11 / 10 * n) := by
  rcases h.eq_or_lt with hzero | hpos
  · rw [← hzero]
    norm_num [qRound]
  · rw [le_qRound hpos]
    have hcast : (0 : ℚ) < n := by exact_mod_cast hpos
    linarith

/-- What a step keeps: the order of the ranges and the listener. -/
structure Keeps (m : CAirspaceMonitor S C) (r : CAirspaceMonitor S C × List (MonitorSignal S)) :
    Prop where
  ordered : RangesOrdered m → RangesOrdered r.1
  mirrors : ∀ now l, Mirrors m l → Mirrors r.1 (l.listen now r.2)

section

omit [TimestampWithOffsetBased S] [TimestampWithOffsetBased C]

theorem Follows.keeps {r : CAirspaceMonitor S C × List (MonitorSignal S)} (h : Follows m r) :
    Keeps m r where
  ordered hm := by
    unfold RangesOrdered at hm ⊢
    rw [h.ranges]
    exact hm
  mirrors := h.mirrors

theorem keeps_setMaxRange (range : CLength) : Keeps m (m.setMaxRange range, []) := by
  unfold setMaxRange
  split_ifs
  · exact ⟨fun _ _ => le_refl _, fun _ _ hl => hl⟩
  · exact ⟨fun _ => le_hysteresis _, fun _ _ hl => hl⟩

theorem keeps_onConnectionStatusChanged (newStatus : Fsd.ConnectionStatus) (maxRange : CLength) :
    Keeps m (m.onConnectionStatusChanged newStatus maxRange) := by
  unfold onConnectionStatusChanged
  have hranged : Keeps m (if newStatus = .connecting then m.setMaxRange maxRange else m, []) := by
    split_ifs
    · exact keeps_setMaxRange maxRange
    · exact quiet_refl.follows.keeps
  generalize (if newStatus = .connecting then m.setMaxRange maxRange else m) = ranged
    at hranged ⊢
  split_ifs
  · have hclear := (follows_clear (m := ranged)).keeps
    exact ⟨fun hm => hclear.ordered (hranged.ordered hm),
      fun now l hl => hclear.mirrors now l (hranged.mirrors now l hl)⟩
  · exact hranged

end

/-- No aircraft leaves by distance. -/
def StaysAnnounced (lib : AirspaceLibrary S C E) (s : CAirspaceMonitor S C × Listener)
    (input : MonitorEnv S × MonitorAction S) : Prop :=
  match input.2 with
  | .onAircraftUpdateReceived situation => ¬LeavesByDistance lib input.1 s.1 situation
  | .onAircraftSimDataUpdateReceived situation _ _ _ _ =>
    ¬LeavesByDistance lib input.1 s.1 situation
  | _ => True

/-- One step, an action at a time. -/
theorem keeps_step {s : CAirspaceMonitor S C × Listener}
    {input : MonitorEnv S × MonitorAction S} (h : StaysAnnounced lib s input) :
    Keeps s.1 (s.1.step lib input.1 input.2) := by
  rcases input with ⟨env, action⟩
  -- Leaving the range is announced by the action itself, or none leaves.
  cases action with
  | onAircraftUpdateReceived situation => exact (follows_onAircraftUpdateReceived h).keeps
  | onAircraftInterimUpdateReceived situation samePosition =>
    exact (quiet_onAircraftInterimUpdateReceived lib env situation samePosition).follows.keeps
  | onAircraftSimDataUpdateReceived situation parts currentOffsetMs aircraftIcao airlineIcao =>
    exact (follows_onAircraftSimDataUpdateReceived h parts currentOffsetMs aircraftIcao
      airlineIcao).keeps
  | onIcaoCodesReceived callsign aircraftIcao airlineIcao livery =>
    exact (quiet_onIcaoCodesReceived lib env callsign aircraftIcao airlineIcao
      livery).follows.keeps
  | onCustomFSInnPacketReceived callsign airlineIcao aircraftIcao combinedType modelString =>
    exact (quiet_onCustomFSInnPacketReceived lib env callsign airlineIcao aircraftIcao combinedType
      modelString).follows.keeps
  | onAircraftConfigReceived callsign jsonObject currentOffsetMs =>
    exact (quiet_onAircraftConfigReceived lib env callsign jsonObject
      currentOffsetMs).follows.keeps
  | onPilotDisconnected callsign => exact (follows_onPilotDisconnected callsign).keeps
  | onAtcPositionUpdate station => exact (quiet_onAtcPositionUpdate env station).follows.keeps
  | onAtcControllerDisconnected callsign =>
    exact (quiet_onAtcControllerDisconnected env callsign).follows.keeps
  | onConnectionStatusChanged newStatus maxRange =>
    exact keeps_onConnectionStatusChanged newStatus maxRange
  | setMaxRange range => exact keeps_setMaxRange range
  | clear => exact follows_clear.keeps
  | reInitializeAllAircraft order => exact (follows_reInitializeAllAircraft env order).keeps
  | timeout timer => exact (follows_onTimeout lib env timer).keeps

variable (env) in
theorem handleMaxRange_cases {situation : S} (hnull : lib.isNull situation = false) :
    (0 ≤ m.maxDistanceNM ∧ m.maxDistanceNMHysteresis < env.distanceNM situation ∧
      m.handleMaxRange lib env situation =
        ({ m with provider := (m.provider.removeAircraft (lib.getCallsign situation)).1 }, false)) ∨
    ((m.maxDistanceNM < 0 ∨ env.distanceNM situation ≤ m.maxDistanceNMHysteresis) ∧
      m.handleMaxRange lib env situation =
        (m, decide (m.maxDistanceNM < 0 ∨ env.distanceNM situation ≤ m.maxDistanceNM))) := by
  unfold handleMaxRange
  rw [hnull, if_neg Bool.false_ne_true]
  split_ifs with hoff hfar
  · exact Or.inr ⟨Or.inl hoff, by rw [decide_eq_true (Or.inl hoff)]⟩
  · exact Or.inl ⟨not_lt.mp hoff, hfar, rfl⟩
  · refine Or.inr ⟨Or.inr (not_lt.mp hfar), ?_⟩
    rw [decide_eq_decide.mpr (or_iff_right hoff)]

omit [TimestampWithOffsetBased S] [TimestampWithOffsetBased C] in
theorem contains_of_isAircraftInRange {p : RemoteAircraftProvider S C} {callsign : Callsign}
    (h : p.isAircraftInRange callsign = true) : p.aircraftInRange.contains (key callsign) = true :=
  (Bool.and_eq_true_iff.mp h).2

omit [TimestampWithOffsetBased S] [TimestampWithOffsetBased C] in
/-- Whoever is to be added is in range then. -/
theorem contains_addNewAircraftInRange (env : MonitorEnv S) (aircraft : CSimulatedAircraft S) :
    (m.addNewAircraftInRange env aircraft).1.provider.aircraftInRange.contains
      (key aircraft.callsign) = true := by
  rcases addNewAircraftInRange_cases env (m := m) aircraft with
    ⟨hrange, hstep⟩ | ⟨-, hcallsigns, -⟩
  · rw [hstep]
    exact contains_of_isAircraftInRange hrange
  · rw [← RemoteAircraftProvider.isSome_callsigns, hcallsigns, CallsignMap.insert_self]
    rfl

/-- An aircraft that leaves is removed, and not added again. -/
theorem onAircraftUpdateReceived_of_far {situation : S} (h : Handled lib env situation)
    (hlimited : 0 ≤ m.maxDistanceNM) (hfar : m.maxDistanceNMHysteresis < env.distanceNM situation) :
    (m.onAircraftUpdateReceived lib env situation).1 =
      { m with provider := (m.provider.removeAircraft (lib.getCallsign situation)).1 } := by
  rcases h with ⟨hconnected, hcopilot, hnull⟩
  have hexists : (m.provider.removeAircraft (lib.getCallsign situation)).1.isAircraftInRange
      (lib.getCallsign situation) = false := by
    rw [RemoteAircraftProvider.isAircraftInRange, ← RemoteAircraftProvider.isSome_callsigns,
      RemoteAircraftProvider.callsigns_removeAircraft, CallsignMap.remove_self]
    exact Bool.and_false _
  have hrange : m.handleMaxRange lib env situation =
      ({ m with provider := (m.provider.removeAircraft (lib.getCallsign situation)).1 },
        false) := by
    unfold handleMaxRange
    rw [hnull, if_neg Bool.false_ne_true, if_neg (not_lt.mpr hlimited), if_pos hfar]
  unfold onAircraftUpdateReceived
  dsimp only
  rw [hconnected, hcopilot, if_neg (by decide), hrange]
  dsimp only
  rw [hexists, if_pos (by decide)]

theorem ranges_onAircraftUpdateReceived (situation : S) :
    (m.onAircraftUpdateReceived lib env situation).1.ranges = m.ranges := by
  by_cases h : LeavesByDistance lib env m situation
  · rw [onAircraftUpdateReceived_of_far h.1 h.2.1 h.2.2.1]
    rfl
  · exact (follows_onAircraftUpdateReceived h).ranges

/-- The order of the ranges is kept by every step. -/
theorem ordered_step {s : CAirspaceMonitor S C × Listener}
    (input : MonitorEnv S × MonitorAction S) (hordered : RangesOrdered s.1) :
    RangesOrdered (s.1.step lib input.1 input.2).1 := by
  by_cases h : StaysAnnounced lib s input
  · exact (keeps_step h).ordered hordered
  · rcases input with ⟨env, action⟩
    have hranges : (s.1.step lib env action).1.ranges = s.1.ranges := by
      cases action with
      | onAircraftUpdateReceived situation => exact ranges_onAircraftUpdateReceived situation
      | onAircraftSimDataUpdateReceived situation parts currentOffsetMs aircraftIcao airlineIcao =>
        rcases exists_rest_onAircraftSimDataUpdateReceived s.1 lib env situation
          parts currentOffsetMs aircraftIcao airlineIcao with ⟨rest, hrest, hresult⟩
        change (s.1.onAircraftSimDataUpdateReceived lib env situation parts currentOffsetMs
          aircraftIcao airlineIcao).1.ranges = s.1.ranges
        rw [hresult]
        exact hrest.ranges.trans (ranges_onAircraftUpdateReceived situation)
      | _ => exact absurd trivial h
    unfold RangesOrdered at hordered ⊢
    rw [hranges]
    exact hordered

/-- After a position the aircraft is in range if that is unlimited, if it is close enough, or
    if it was in range and is not too far. -/
theorem onAircraftUpdateReceived_inRange {situation : S} (h : Handled lib env situation)
    (hordered : RangesOrdered m) :
    (m.onAircraftUpdateReceived lib env situation).1.provider.aircraftInRange.contains
        (key (lib.getCallsign situation)) = true ↔
      m.maxDistanceNM < 0 ∨ env.distanceNM situation ≤ m.maxDistanceNM ∨
        (m.provider.aircraftInRange.contains (key (lib.getCallsign situation)) = true ∧
          env.distanceNM situation ≤ m.maxDistanceNMHysteresis) := by
  rcases handleMaxRange_cases (m := m) env h.2.2 with
    ⟨hlimited, hfar, -⟩ | ⟨hnear, hrange⟩
  · have hle : m.maxDistanceNM ≤ m.maxDistanceNMHysteresis := hordered hlimited
    rw [onAircraftUpdateReceived_of_far h hlimited hfar]
    refine iff_of_false ?_ (by omega)
    rw [← RemoteAircraftProvider.isSome_callsigns,
      RemoteAircraftProvider.callsigns_removeAircraft, CallsignMap.remove_self]
    exact Bool.false_ne_true
  · rcases h with ⟨hconnected, hcopilot, -⟩
    unfold onAircraftUpdateReceived
    dsimp only
    rw [hconnected, hcopilot, if_neg (by decide), hrange]
    have hstored := quiet_storeAircraftSituation lib env (m := m) situation
    generalize m.storeAircraftSituation lib env situation = stored at hstored ⊢
    have hsame : stored.provider.aircraftInRange.contains (key (lib.getCallsign situation)) =
        m.provider.aircraftInRange.contains (key (lib.getCallsign situation)) := by
      rw [← RemoteAircraftProvider.isSome_callsigns, ← RemoteAircraftProvider.isSome_callsigns,
        hstored.callsigns]
    -- A known aircraft may be within the hysteresis, a new one may not.
    cases hexists : m.provider.isAircraftInRange (lib.getCallsign situation) with
    | true =>
      have hin := contains_of_isAircraftInRange hexists
      rw [Bool.not_true, Bool.and_false, if_neg Bool.false_ne_true, if_neg Bool.false_ne_true]
      have hupdated := RemoteAircraftProvider.callsigns_updateInRange stored.provider
        (lib.getCallsign situation) (fun aircraft =>
          { aircraft with
            situation
            relativeDistance := env.relativeDistance situation
            relativeBearing := env.relativeBearing situation }) (fun _ => rfl)
      rw [← RemoteAircraftProvider.isSome_callsigns, hupdated,
        RemoteAircraftProvider.isSome_callsigns, hsame]
      refine iff_of_true hin ?_
      rcases hnear with hoff | hnear
      · exact Or.inl hoff
      · exact Or.inr (Or.inr ⟨hin, hnear⟩)
    | false =>
      rw [Bool.not_false, Bool.and_true, if_pos rfl]
      split_ifs with hinvalid
      · -- too far to be added
        rw [Bool.not_eq_true', decide_eq_false_iff_not] at hinvalid
        rcases hnear with hoff | hnear
        · exact absurd (Or.inl hoff) hinvalid
        · constructor
          · exact fun hin => Or.inr (Or.inr ⟨hin, hnear⟩)
          · rintro (hoff | hclose | ⟨hin, -⟩)
            · exact absurd (Or.inl hoff) hinvalid
            · exact absurd (Or.inr hclose) hinvalid
            · exact hin
      · refine iff_of_true (contains_addNewAircraftInRange env _) ?_
        rw [Bool.not_eq_true', Bool.not_eq_false, decide_eq_true_iff] at hinvalid
        rcases hinvalid with hoff | hclose
        · exact Or.inl hoff
        · exact Or.inr (Or.inl hclose)

end CAirspaceMonitor

open CAirspaceMonitor

/-- The monitor with a listener. -/
def observedMonitor {S C E : Type} [TimestampWithOffsetBased S] [TimestampWithOffsetBased C]
    (lib : AirspaceLibrary S C E) :
    Machine (CAirspaceMonitor S C × Listener) (MonitorEnv S × MonitorAction S) (MonitorSignal S)
    where
  step s input :=
    let r := (airspaceMonitor lib).step s.1 input
    ((r.1, s.2.listen input.1.now r.2), r.2)

variable [TimestampWithOffsetBased S] [TimestampWithOffsetBased C]

/-- As long as no aircraft leaves by distance, the listener knows who is in range; and who is
    in range after a position depends on the ranges alone, in every run. -/
theorem range_signals_mirror (lib : AirspaceLibrary S C E)
    (history : List (MonitorEnv S × MonitorAction S)) :
    let s := ((observedMonitor lib).run ({}, {}) history).1
    ((observedMonitor lib).AllSteps (StaysAnnounced lib) ({}, {}) history →
        ∀ k, s.2.inRange k = s.1.provider.aircraftInRange.contains k) ∧
      ∀ env situation, Handled lib env situation →
        let k := key (lib.getCallsign situation)
        (((s.1.step lib env (.onAircraftUpdateReceived
          situation)).1.provider.aircraftInRange.contains
            k = true) ↔
          s.1.maxDistanceNM < 0 ∨ env.distanceNM situation ≤ s.1.maxDistanceNM ∨
            (s.1.provider.aircraftInRange.contains k = true ∧
              env.distanceNM situation ≤ s.1.maxDistanceNMHysteresis)) := by
  intro s
  constructor
  · intro hsteps
    exact (observedMonitor lib).run_invariant_of (StaysAnnounced lib)
      (fun s _ => Mirrors s.1 s.2) (fun s out input h hs => (keeps_step h).mirrors _ _ hs) history
      ({}, {}) [] hsteps fun k => rfl
  · -- The hysteresis range is the larger one in every state reached.
    have hordered := (observedMonitor lib).run_invariant (fun s _ => RangesOrdered s.1)
      (fun s out input hs => ordered_step input hs) history ({}, {}) [] ?_
    · exact fun env situation h => onAircraftUpdateReceived_inRange h hordered
    · intro _
      exact_mod_cast le_hysteresis 125 (by omega)

/-- Situations of which the time is the distance, too. -/
def sampleAirspace : AirspaceLibrary SampleSituation SampleSituation Unit where
  toSituationLibrary := sampleLibrary
  unicode := Unicode.ascii
  isNull _ := false

/-- A pilot who is connected, without a database. -/
def sampleMonitorEnv (now : ℕ) : MonitorEnv SampleSituation where
  now
  isConnectedAndNotShuttingDown := true
  isCopilotAircraft _ := false
  distanceNM := SampleSituation.msecs
  relativeDistance _ := CLength.null
  relativeBearing _ := none
  correctedSituation s := s
  reverseLookup _ _ _ _ _ model := model
  usesModelString _ := false
  cgOfModelString _ := CLength.null
  differsFromNetworkModel _ _ := false

/-- A position of the sample aircraft. -/
def samplePosition (now : ℕ) (distance : ℤ) :
    MonitorEnv SampleSituation × MonitorAction SampleSituation :=
  (sampleMonitorEnv now, .onAircraftUpdateReceived ⟨sampleCallsign, distance, 0⟩)

/-- An aircraft that stays within the hysteresis range, and is in range. -/
theorem range_signals_mirror_sample :
    ((observedMonitor sampleAirspace).run ({}, {})
        [samplePosition 0 100, samplePosition 5000 138]).1.2.inRange sampleCallsign.callsign =
      true := by
  have h := (range_signals_mirror sampleAirspace
    [samplePosition 0 100, samplePosition 5000 138]).1
    ⟨fun h => absurd h.2.2.1 (by decide +kernel), fun h => absurd h.2.2.1 (by decide +kernel),
      trivial⟩ sampleCallsign.callsign
  decide +kernel

/-- An aircraft beyond the hysteresis range is not in range any more, and the listener still
    has it. -/
theorem left_aircraft_stays_listed :
    let s := ((observedMonitor sampleAirspace).run ({}, {})
      [samplePosition 0 100, samplePosition 5000 139]).1
    s.1.provider.aircraftInRange.contains sampleCallsign.callsign = false ∧
      s.2.inRange sampleCallsign.callsign = true := by
  decide +kernel

end Core

end NeoSwift
