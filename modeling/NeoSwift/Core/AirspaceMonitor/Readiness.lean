import NeoSwift.Core.AirspaceMonitor.Range

/-!
# Ready for Matching

When the monitor says that an aircraft is ready to be matched. Whoever comes into range
gets a flag with a time stamp, which five inputs and two kinds of timers share, and a timer
that verifies it. The flag outlives an aircraft that leaves by distance, and its time stamp
is set once.

An input is about one aircraft at a time. Its effect is that nothing is said of that
aircraft, and the mark that it was said before stays, or that it is said and marked. From
that, and from what comes and goes, follows what every run keeps: an aircraft in range is
marked if and only if the listener was told since it is there, and until then a timer of
its addition is pending.

## Main definitions

* `Marked`, `Stale`: What was said before, and whether that is long ago.
* `matched`: Which aircraft the signals say are ready.
* `Effect`: What an input does to one aircraft.
* `Leaves`, `Comes`: Who goes, and who comes.
* `ReadyInv`: What every run keeps.
* `MayMatch`: An input on which an aircraft may be said to be ready.
* `MatchesPromptly`, `AskedInTime`: The conditions on the steps.

## Theorems

* `effect_sendReadyForModelMatching`: The effect they all have.
* `readyInv_of_effect`, `Leaves.readyInv`, `Comes.readyInv`: It keeps the invariant, and so
  does whoever goes and comes.
* `readyStep_onTimeout`: What a timer leaves behind.
* `readyStep`: One step.
* `ready_for_matching`: Who is said to be ready, how often, and that it is said.
-/

namespace NeoSwift.Core

open Aviation Pq Misc Misc.Simulation

open Fsd (CallsignMap AtcStation)

open RemoteAircraftProvider (key)

namespace Readiness

/-- No flag but one marks an aircraft, and none makes it older. -/
theorem wasMatchingSent_addFlag (readiness : Readiness) {flag : MatchingReadinessFlag}
    (h : flag ≠ .readyForMatchingSent) (now : ℕ) :
    (readiness.addFlag flag now).wasMatchingSent = readiness.wasMatchingSent := by
  cases flag with
  | readyForMatchingSent => exact absurd rfl h
  | _ => rfl

theorem ts_addFlag (readiness : Readiness) (flag : MatchingReadinessFlag) (now : ℕ) :
    (readiness.addFlag flag now).ts = readiness.ts ∨
      (readiness.ts < 0 ∧ (readiness.addFlag flag now).ts = now) := by
  have hstamp : (if readiness.ts < 0 then (now : ℤ) else readiness.ts) = readiness.ts ∨
      (readiness.ts < 0 ∧ (if readiness.ts < 0 then (now : ℤ) else readiness.ts) = now) := by
    split_ifs with h
    · exact Or.inr ⟨h, rfl⟩
    · exact Or.inl rfl
  cases flag with
  | recursiveCall => exact Or.inl rfl
  | _ => exact hstamp

theorem age_of_addFlag {readiness : Readiness} {flag : MatchingReadinessFlag} {now : ℕ} {ms : ℕ}
    (hms : 0 < ms) (h : (ms : ℤ) ≤ (readiness.addFlag flag now).getAgeMs now) :
    (ms : ℤ) ≤ readiness.getAgeMs now := by
  unfold getAgeMs at h ⊢
  rcases readiness.ts_addFlag flag now with hts | ⟨-, hts⟩
  · rw [hts] at h
    exact h
  · split_ifs at h with hnow
    · omega
    · omega

end Readiness

variable {S C E : Type}

/-- Which aircraft the signals say are ready. -/
def matched (signals : List (MonitorSignal S)) : List QString :=
  signals.filterMap (fun signal =>
    match signal with
    | .readyForModelMatching aircraft => some (key aircraft.callsign)
    | _ => none)

theorem matched_append (first second : List (MonitorSignal S)) :
    matched (first ++ second) = matched first ++ matched second := List.filterMap_append

/-- The aircraft that are new to the listener. -/
def MonitorSignal.isAdded : MonitorSignal S → Bool
  | .addedAircraft _ => true
  | _ => false

/-- A listener who is told nothing else. -/
theorem Listener.sent_listen (now : ℕ) (l : Listener) (signals : List (MonitorSignal S))
    (h : ∀ signal ∈ signals, signal.isAdded = false) (k : QString) :
    (l.listen now signals).sent k = List.replicate ((matched signals).count k) now ++ l.sent k := by
  induction signals generalizing l with
  | nil => rfl
  | cons signal signals ih =>
    have hrest := ih (l.take now signal) fun s hs => h s (List.mem_cons_of_mem _ hs)
    have hsignal := h signal List.mem_cons_self
    refine Eq.trans hrest ?_
    cases signal with
    | addedAircraft => cases hsignal
    | readyForModelMatching aircraft =>
      change _ ++ Function.update l.sent _ _ k = List.replicate
        ((key aircraft.callsign :: matched signals).count k) now ++ _
      by_cases hk : k = key aircraft.callsign
      · rw [hk, Function.update_self, List.count_cons_self, List.replicate_succ', List.append_assoc]
        rfl
      · rw [Function.update_of_ne hk, List.count_cons_of_ne (Ne.symm hk)]
    | _ => rfl

/-- The timers that `addNewAircraftInRange` starts. -/
def SingleShot.verifies : SingleShot S → Bool
  | .verifyReceivedIcaoData _ _ => true
  | _ => false

namespace CAirspaceMonitor

/-- It was said that the aircraft is ready. -/
def Marked (m : CAirspaceMonitor S C) (k : QString) : Prop :=
  ∃ readiness, m.readiness k = some readiness ∧ readiness.wasMatchingSent = true

/-- It was said so long ago that it may be said again. -/
def Stale (m : CAirspaceMonitor S C) (now : ℕ) (k : QString) : Prop :=
  ∃ readiness, m.readiness k = some readiness ∧ readiness.wasMatchingSent = true ∧
    (mmMaxAgeThresholdMs : ℤ) ≤ readiness.getAgeMs now

/-- Aircraft are kept under their callsigns, which are valid. -/
structure Named [TimestampWithOffsetBased S] [TimestampWithOffsetBased C]
    (lib : AirspaceLibrary S C E) (m : CAirspaceMonitor S C) : Prop where
  key_eq : ∀ k cs, m.provider.callsigns k = some cs → key cs = k
  valid : ∀ k cs, m.provider.callsigns k = some cs →
    isValidAircraftCallsign lib.toSituationLibrary cs.callsign = true ∧ cs.isEmpty = false

/-- What an input does to one aircraft. -/
structure Effect (m : CAirspaceMonitor S C) (now : ℕ) (k : QString)
    (r : CAirspaceMonitor S C × List (MonitorSignal S)) : Prop where
  callsigns : r.1.provider.callsigns = m.provider.callsigns
  addition : r.1.addition = m.addition
  timers : ∀ pending ∈ m.timers, pending ∈ r.1.timers
  others : ∀ k', k' ≠ k → r.1.readiness k' = m.readiness k'
  notAdded : ∀ signal ∈ r.2, signal.isAdded = false
  outcome : (matched r.2 = [] ∧ ((m.provider.callsigns k).isSome = true →
      (r.1.Marked k ↔ m.Marked k))) ∨
    (matched r.2 = [k] ∧ (m.provider.callsigns k).isSome = true ∧ r.1.Marked k ∧
      (m.Marked k → m.Stale now k))

/-- What happens to the flag of an aircraft before anything is said. -/
structure Prelude (m : CAirspaceMonitor S C) (now : ℕ) (k : QString) (m' : CAirspaceMonitor S C) :
    Prop where
  callsigns : m'.provider.callsigns = m.provider.callsigns
  addition : m'.addition = m.addition
  timers : ∀ pending ∈ m.timers, pending ∈ m'.timers
  others : ∀ k', k' ≠ k → m'.readiness k' = m.readiness k'
  marked : m'.Marked k ↔ m.Marked k
  stale : m'.Stale now k → m.Stale now k

variable {m m' : CAirspaceMonitor S C} {now : ℕ} {k : QString}
  {r : CAirspaceMonitor S C × List (MonitorSignal S)}

theorem Effect.after (h' : Effect m' now k r) (h : Prelude m now k m') : Effect m now k r where
  callsigns := h'.callsigns.trans h.callsigns
  addition := h'.addition.trans h.addition
  timers pending hpending := h'.timers pending (h.timers pending hpending)
  others k' hk' := (h'.others k' hk').trans (h.others k' hk')
  notAdded := h'.notAdded
  outcome := by
    rw [← h.callsigns, ← h.marked]
    exact h'.outcome.imp id fun hsent =>
      ⟨hsent.1, hsent.2.1, hsent.2.2.1, fun hmarked => h.stale (hsent.2.2.2 hmarked)⟩

theorem Prelude.effect (h : Prelude m now k m') : Effect m now k (m', []) where
  callsigns := h.callsigns
  addition := h.addition
  timers := h.timers
  others := h.others
  notAdded _ hsignal := absurd hsignal List.not_mem_nil
  outcome := Or.inl ⟨rfl, fun _ => h.marked⟩

/-- Signals of another kind say nothing. -/
theorem Effect.append {signals : List (MonitorSignal S)} (h : Effect m now k r)
    (hadded : ∀ signal ∈ signals, signal.isAdded = false) (hmatched : matched signals = []) :
    Effect m now k (r.1, r.2 ++ signals) where
  callsigns := h.callsigns
  addition := h.addition
  timers := h.timers
  others := h.others
  notAdded signal hsignal := by
    rcases List.mem_append.mp hsignal with hsignal | hsignal
    · exact h.notAdded signal hsignal
    · exact hadded signal hsignal
  outcome := by
    rw [matched_append, hmatched, List.append_nil]
    exact h.outcome

theorem prelude_refl : Prelude m now k m where
  callsigns := rfl
  addition := rfl
  timers _ hpending := hpending
  others _ _ := rfl
  marked := Iff.rfl
  stale := id

theorem Prelude.trans {m'' : CAirspaceMonitor S C} (h : Prelude m now k m')
    (h' : Prelude m' now k m'') : Prelude m now k m'' where
  callsigns := h'.callsigns.trans h.callsigns
  addition := h'.addition.trans h.addition
  timers pending hpending := h'.timers pending (h.timers pending hpending)
  others k' hk' := (h'.others k' hk').trans (h.others k' hk')
  marked := h'.marked.trans h.marked
  stale hstale := h.stale (h'.stale hstale)

/-- What leaves the flags alone. -/
theorem prelude_of_readiness (hcallsigns : m'.provider.callsigns = m.provider.callsigns)
    (haddition : m'.addition = m.addition) (htimers : ∀ pending ∈ m.timers, pending ∈ m'.timers)
    (hreadiness : m'.readiness = m.readiness) : Prelude m now k m' where
  callsigns := hcallsigns
  addition := haddition
  timers := htimers
  others k' _ := congrFun hreadiness k'
  marked := by
    unfold Marked
    rw [hreadiness]
  stale hstale := by
    unfold Stale at hstale ⊢
    rw [← hreadiness]
    exact hstale

theorem marked_setReadiness {callsign : Callsign} {readiness : Readiness} :
    (m.setReadiness callsign readiness).Marked (key callsign) ↔
      readiness.wasMatchingSent = true := by
  unfold Marked setReadiness
  dsimp only
  rw [CallsignMap.insert_self]
  constructor
  · rintro ⟨_, hsome, hsent⟩
    rw [Option.some_inj.mp hsome]
    exact hsent
  · exact fun hsent => ⟨readiness, rfl, hsent⟩

theorem marked_iff_getD : m.Marked k ↔ ((m.readiness k).getD {}).wasMatchingSent = true := by
  unfold Marked
  cases m.readiness k with
  | none =>
    refine iff_of_false ?_ Bool.false_ne_true
    rintro ⟨_, hsome, -⟩
    cases hsome
  | some readiness =>
    constructor
    · rintro ⟨_, hsome, hsent⟩
      rw [Option.some_inj.mp hsome]
      exact hsent
    · exact fun hsent => ⟨readiness, rfl, hsent⟩

/-- A flag is added. -/
theorem prelude_addFlag (env : MonitorEnv S) (callsign : Callsign) {flag : MatchingReadinessFlag}
    (hflag : flag ≠ .readyForMatchingSent) :
    Prelude m env.now (key callsign)
      (m.setReadiness callsign (addMatchingReadinessFlag env m callsign flag)) where
  callsigns := rfl
  addition := rfl
  timers _ hpending := hpending
  others k' hk' := CallsignMap.insert_of_ne _ _ _ hk'
  marked := by
    rw [marked_setReadiness, marked_iff_getD, addMatchingReadinessFlag,
      Readiness.wasMatchingSent_addFlag _ hflag]
  -- The flag makes the entry new, so an entry that is stale was stale before.
  stale hstale := by
    rcases hstale with ⟨readiness, hsome, hsent, hage⟩
    obtain rfl : addMatchingReadinessFlag env m callsign flag = readiness := by
      unfold setReadiness at hsome
      dsimp only at hsome
      rw [CallsignMap.insert_self] at hsome
      exact Option.some_inj.mp hsome
    unfold addMatchingReadinessFlag at hsent hage
    rw [Readiness.wasMatchingSent_addFlag _ hflag] at hsent
    have hage := Readiness.age_of_addFlag (by decide) hage
    -- An entry that was marked as sent was there before.
    cases hold : m.readiness (key callsign) with
    | none =>
      rw [hold] at hsent
      cases hsent
    | some old =>
      rw [hold] at hsent hage
      exact ⟨old, hold, hsent, hage⟩

/-! ## The inputs -/

variable [TimestampWithOffsetBased S] [TimestampWithOffsetBased C] {lib : AirspaceLibrary S C E}

theorem Prelude.named (h : Prelude m now k m') (hnamed : Named lib m) : Named lib m' := by
  constructor
  case key_eq => rw [h.callsigns]; exact hnamed.key_eq
  case valid => rw [h.callsigns]; exact hnamed.valid

/-- Who is in range under a valid callsign is found. -/
theorem Named.validAircraftInRange (hnamed : Named lib m) (callsign : Callsign) :
    m.validAircraftInRange lib callsign = m.provider.aircraftInRange (key callsign) := by
  unfold CAirspaceMonitor.validAircraftInRange
  cases haircraft : m.provider.aircraftInRange (key callsign) with
  | none => rfl
  | some aircraft =>
    have hcallsign : m.provider.callsigns (key callsign) = some aircraft.callsign := by
      rw [RemoteAircraftProvider.callsigns, haircraft]
      rfl
    rw [Option.filter_some, (hnamed.valid _ _ hcallsign).1, if_pos rfl]

variable (env : MonitorEnv S)

/-- The rest of `sendReadyForModelMatching`, behind the flag. -/
theorem sendReadyForModelMatching_eq (hconnected : env.isConnectedAndNotShuttingDown = true)
    (callsign : Callsign) (rf : MatchingReadinessFlag) :
    m.sendReadyForModelMatching lib env callsign rf =
      let readiness := addMatchingReadinessFlag env m callsign rf
      let flagged := m.setReadiness callsign readiness
      if readiness.wasMatchingSent &&
          decide (readiness.getAgeMs env.now < mmMaxAgeThresholdMs) then (flagged, [])
      else
        match flagged.validAircraftInRange lib callsign with
        | none => ({ flagged with readiness := flagged.readiness.remove (key callsign) }, [])
        | some remoteAircraft =>
          if rf != .verified && decide (readiness.getAgeMs env.now ≤ mmMaxAgeMs) &&
              !(decide (1 < flagged.remoteAircraftSituationsCount callsign) &&
                (readiness.receivedAll || !remoteAircraft.currentModel.modelString.isEmpty)) then
            (singleShot env flagged mmCheckAgainMs (.checkAgain callsign rf), [])
          else
            (flagged.setReadiness callsign (readiness.setFlag .readyForMatchingSent env.now),
              [.readyForModelMatching remoteAircraft]) := by
  unfold sendReadyForModelMatching
  rw [hconnected]
  rfl

theorem effect_sendReadyForModelMatching (hnamed : Named lib m) (callsign : Callsign)
    {rf : MatchingReadinessFlag} (hrf : rf ≠ .readyForMatchingSent) :
    Effect m env.now (key callsign) (m.sendReadyForModelMatching lib env callsign rf) := by
  cases hconnected : env.isConnectedAndNotShuttingDown with
  | false =>
    unfold sendReadyForModelMatching
    rw [hconnected]
    exact prelude_refl.effect
  | true =>
    rw [sendReadyForModelMatching_eq env hconnected]
    dsimp only
    have hflag := prelude_addFlag (m := m) env callsign hrf
    refine Effect.after ?_ hflag
    have hnamed' := hflag.named hnamed
    generalize hreadiness : addMatchingReadinessFlag env m callsign rf = readiness at hnamed' ⊢
    generalize hset : m.setReadiness callsign readiness = flagged at hnamed' ⊢
    have hsome : flagged.readiness (key callsign) = some readiness := by
      rw [← hset]
      exact CallsignMap.insert_self ..
    rw [hnamed'.validAircraftInRange]
    by_cases hskip : (readiness.wasMatchingSent &&
        decide (readiness.getAgeMs env.now < mmMaxAgeThresholdMs)) = true
    · rw [if_pos hskip]
      exact prelude_refl.effect
    rw [if_neg hskip]
    cases haircraft : flagged.provider.aircraftInRange (key callsign) with
    | none =>
      -- the flag goes, but there is nobody it belongs to
      have hnone : (flagged.provider.callsigns (key callsign)).isSome = false := by
        rw [RemoteAircraftProvider.callsigns, haircraft]
        rfl
      constructor
      case callsigns => rfl
      case addition => rfl
      case timers => exact fun _ hpending => hpending
      case others => exact fun k' hk' => CallsignMap.remove_of_ne _ _ hk'
      case notAdded => exact fun _ hsignal => absurd hsignal List.not_mem_nil
      case outcome =>
        exact Or.inl ⟨rfl, fun hin => absurd (hin.symm.trans hnone) (by decide)⟩
    | some aircraft =>
      have hcallsign : flagged.provider.callsigns (key callsign) = some aircraft.callsign := by
        rw [RemoteAircraftProvider.callsigns, haircraft]
        rfl
      dsimp only
      split_ifs
      · refine Prelude.effect ?_
        exact prelude_of_readiness rfl rfl (fun _ hpending => List.mem_append_left _ hpending) rfl
      · constructor
        case callsigns => rfl
        case addition => rfl
        case timers => exact fun _ hpending => hpending
        case others => exact fun k' hk' => CallsignMap.insert_of_ne _ _ _ hk'
        case notAdded => exact List.forall_mem_singleton.mpr rfl
        case outcome =>
          refine Or.inr ⟨congrArg (fun k => [k]) (hnamed'.key_eq _ _ hcallsign), ?_, ?_, ?_⟩
          · rw [hcallsign]
            rfl
          · exact marked_setReadiness.mpr rfl
          · rintro ⟨_, hsome', hsent⟩
            rcases Option.some_inj.mp (hsome.symm.trans hsome') with rfl
            rw [hsent, Bool.true_and, decide_eq_true_iff, not_lt] at hskip
            exact ⟨readiness, hsome, hsent, hskip⟩

/-- An aircraft that is verified is marked. -/
theorem marked_sendReadyForModelMatching (hnamed : Named lib m)
    (hconnected : env.isConnectedAndNotShuttingDown = true) (callsign : Callsign)
    (hin : (m.provider.callsigns (key callsign)).isSome = true) :
    (m.sendReadyForModelMatching lib env callsign .verified).1.Marked (key callsign) := by
  rw [sendReadyForModelMatching_eq env hconnected]
  dsimp only
  have hverified : MatchingReadinessFlag.verified ≠ .readyForMatchingSent := by decide
  have hnamed' := (prelude_addFlag (m := m) env callsign hverified).named hnamed
  rw [hnamed'.validAircraftInRange]
  -- It is skipped only where it has been marked before.
  split_ifs with hskip
  · rw [Bool.and_eq_true] at hskip
    exact marked_setReadiness.mpr hskip.1
  · unfold RemoteAircraftProvider.callsigns at hin
    cases haircraft : m.provider.aircraftInRange (key callsign) with
    | none =>
      rw [haircraft] at hin
      cases hin
    | some aircraft =>
      have hflagged : (m.setReadiness callsign
          (addMatchingReadinessFlag env m callsign .verified)).provider.aircraftInRange
            (key callsign) = some aircraft := haircraft
      rw [hflagged]
      exact marked_setReadiness.mpr rfl

omit [TimestampWithOffsetBased S] [TimestampWithOffsetBased C] in
theorem matched_sendInitialPilotQueries (callsign : Callsign) (withIcaoQuery withFsInn : Bool) :
    matched (sendInitialPilotQueries env callsign withIcaoQuery withFsInn) = [] ∧
      ∀ signal ∈ sendInitialPilotQueries env callsign withIcaoQuery withFsInn,
        signal.isAdded = false := by
  unfold sendInitialPilotQueries
  split_ifs
  · exact ⟨rfl, List.forall_mem_singleton.mpr rfl⟩
  · exact ⟨rfl, fun _ hsignal => absurd hsignal List.not_mem_nil⟩

variable (lib) in
theorem prelude_addOrUpdateAircraftInRange (callsign : Callsign)
    (aircraftIcao airlineIcao livery modelString : QString) :
    Prelude m now k (m.addOrUpdateAircraftInRange lib env callsign aircraftIcao airlineIcao livery
      modelString) := by
  have hquiet := quiet_addOrUpdateAircraftInRange lib env (m := m) callsign aircraftIcao
    airlineIcao livery modelString
  refine prelude_of_readiness hquiet.callsigns ?_ ?_ ?_
  all_goals
    unfold addOrUpdateAircraftInRange
  · split <;> rfl
  · split <;> exact fun _ hpending => hpending
  · split <;> rfl

theorem effect_onCustomFSInnPacketReceived (hnamed : Named lib m) (callsign : Callsign)
    (airlineIcao aircraftIcao combinedType modelString : QString) :
    Effect m env.now (key callsign) (m.onCustomFSInnPacketReceived lib env callsign airlineIcao
      aircraftIcao combinedType modelString) := by
  have hclient : Prelude m env.now (key callsign)
      { m with clients := m.clients.insert (key callsign) modelString } :=
    prelude_of_readiness rfl rfl (fun _ hpending => hpending) rfl
  have hfsInn : MatchingReadinessFlag.receivedFsInnPacket ≠ .readyForMatchingSent := by decide
  have hflag := hclient.trans (prelude_addFlag env callsign hfsInn)
  unfold onCustomFSInnPacketReceived
  dsimp only
  generalize ({ m with clients := m.clients.insert (key callsign) modelString } :
    CAirspaceMonitor S C) = known at hclient hflag ⊢
  split_ifs
  · exact prelude_refl.effect
  · refine Prelude.effect ?_
    exact prelude_of_readiness rfl rfl (fun _ hpending => hpending) rfl
  · have hmodel := hflag.trans (prelude_addOrUpdateAircraftInRange lib env callsign
      aircraftIcao airlineIcao [] modelString)
    exact (effect_sendReadyForModelMatching env (hmodel.named hnamed) callsign hfsInn).after hmodel
  · exact (effect_sendReadyForModelMatching env (hflag.named hnamed) callsign hfsInn).after hflag
  · exact hclient.effect

theorem effect_checkAgain (hnamed : Named lib m) (callsign : Callsign)
    (rf : MatchingReadinessFlag) :
    Effect m env.now (key callsign) (m.checkAgain lib env callsign rf) := by
  have hrecursive : MatchingReadinessFlag.recursiveCall ≠ .readyForMatchingSent := by decide
  have hsend := effect_sendReadyForModelMatching env hnamed callsign hrecursive
  unfold checkAgain recallFsInnPacket
  split_ifs
  · exact prelude_refl.effect
  · exact hsend
  · cases m.tempFsInnPackets (key callsign) with
    | none => exact hsend
    | some packet =>
      have hrecalled : Prelude m env.now (key callsign)
          { m with tempFsInnPackets := m.tempFsInnPackets.remove (key callsign) } :=
        prelude_of_readiness rfl rfl (fun _ hpending => hpending) rfl
      exact (effect_onCustomFSInnPacketReceived env (hrecalled.named hnamed) callsign
        packet.airlineIcaoDesignator packet.aircraftIcaoDesignator packet.combinedCode
        packet.modelString).after hrecalled

theorem effect_onIcaoCodesReceived (hnamed : Named lib m) (callsign : Callsign)
    (aircraftIcao airlineIcao livery : QString) :
    Effect m env.now (key callsign)
      (m.onIcaoCodesReceived lib env callsign aircraftIcao airlineIcao livery) := by
  have hicao : MatchingReadinessFlag.receivedIcaoCodes ≠ .readyForMatchingSent := by decide
  unfold onIcaoCodesReceived
  split_ifs
  · exact prelude_refl.effect
  · have hmodel : Prelude m env.now (key callsign) (m.addOrUpdateAircraftInRange lib env callsign
        aircraftIcao airlineIcao livery ((m.clients (key callsign)).getD [])) :=
      prelude_addOrUpdateAircraftInRange lib env callsign aircraftIcao airlineIcao livery _
    exact ((effect_sendReadyForModelMatching env (hmodel.named hnamed) callsign
      hicao).after hmodel).append (List.forall_mem_singleton.mpr rfl) rfl

variable (now) in
omit [TimestampWithOffsetBased S] [TimestampWithOffsetBased C] in
/-- What is left of a reading of the flag. -/
theorem prelude_setReadiness_getD (callsign : Callsign) :
    Prelude m now (key callsign)
      (m.setReadiness callsign ((m.readiness (key callsign)).getD {})) where
  callsigns := rfl
  addition := rfl
  timers _ hpending := hpending
  others k' hk' := CallsignMap.insert_of_ne _ _ _ hk'
  marked := by rw [marked_setReadiness, marked_iff_getD]
  stale := by
    rintro ⟨readiness, hsome, hsent, hage⟩
    unfold setReadiness at hsome
    dsimp only at hsome
    rw [CallsignMap.insert_self] at hsome
    cases hold : m.readiness (key callsign) with
    | none =>
      rw [hold] at hsome
      rw [← Option.some_inj.mp hsome] at hsent
      cases hsent
    | some old =>
      rw [hold] at hsome
      obtain rfl : old = readiness := Option.some_inj.mp hsome
      exact ⟨old, hold, hsent, hage⟩

theorem effect_verifyReceivedIcaoData (hnamed : Named lib m) (callsign : Callsign) (addition : ℕ) :
    Effect m env.now (key callsign) (m.verifyReceivedIcaoData lib env callsign addition) := by
  have hverified : MatchingReadinessFlag.verified ≠ .readyForMatchingSent := by decide
  have hread := prelude_setReadiness_getD (m := m) env.now callsign
  have hflag := prelude_addFlag (m := m) env callsign hverified
  unfold verifyReceivedIcaoData
  dsimp only
  split_ifs
  · exact prelude_refl.effect
  · exact hread.effect
  · exact (effect_sendReadyForModelMatching env (hread.named hnamed) callsign hverified).after hread
  · refine Effect.append (r := (_, [])) (Prelude.effect ?_)
      (matched_sendInitialPilotQueries env callsign true true).2
      (matched_sendInitialPilotQueries env callsign true true).1
    refine hflag.trans ?_
    exact prelude_of_readiness rfl rfl (fun _ hpending => List.mem_append_left _ hpending) rfl
  · exact (effect_sendReadyForModelMatching env (hflag.named hnamed) callsign hverified).after hflag

/-- An aircraft that is verified is marked then, or will be verified again. -/
theorem marked_verifyReceivedIcaoData (hnamed : Named lib m)
    (hconnected : env.isConnectedAndNotShuttingDown = true) (callsign : Callsign) (addition : ℕ)
    (hin : m.provider.callsigns (key callsign) = some callsign) :
    (m.verifyReceivedIcaoData lib env callsign addition).1.Marked (key callsign) ∨
      ∃ pending ∈ (m.verifyReceivedIcaoData lib env callsign addition).1.timers,
        pending.shot = .verifyReceivedIcaoData callsign addition := by
  have hverified : MatchingReadinessFlag.verified ≠ .readyForMatchingSent := by decide
  have hread := prelude_setReadiness_getD (m := m) env.now callsign
  have hflag := prelude_addFlag (m := m) env callsign hverified
  have hsome : (m.provider.callsigns (key callsign)).isSome = true := by
    rw [hin]
    rfl
  have hrange : m.provider.isAircraftInRange callsign = true := by
    rw [RemoteAircraftProvider.isAircraftInRange, (hnamed.valid _ _ hin).2,
      ← RemoteAircraftProvider.isSome_callsigns, hsome]
    rfl
  -- Only the last branch of the source leaves the aircraft without a mark, and it starts a timer.
  unfold verifyReceivedIcaoData
  dsimp only
  rw [hrange, (hnamed.valid _ _ hin).2, if_neg (by decide)]
  split_ifs with hsent
  · exact Or.inl (marked_setReadiness.mpr hsent)
  · refine Or.inl (marked_sendReadyForModelMatching env (hread.named hnamed) hconnected callsign ?_)
    exact hsome
  · exact Or.inr ⟨_, List.mem_append_right _ (List.mem_singleton.mpr rfl), rfl⟩
  · refine Or.inl (marked_sendReadyForModelMatching env (hflag.named hnamed) hconnected callsign ?_)
    exact hsome

/-! ## What every run keeps -/

/-- Two times that are not too close, the later one first. -/
def Apart (later earlier : ℕ) : Prop := earlier + mmMaxAgeThresholdMs ≤ later

/-- An aircraft in range is marked if and only if the listener was told, and the times at
    which it was are apart. -/
structure Told (lib : AirspaceLibrary S C E) (m : CAirspaceMonitor S C) (l : Listener) : Prop where
  named : Named lib m
  marked : ∀ k, (m.provider.callsigns k).isSome = true → (m.Marked k ↔ l.sent k ≠ [])
  apart : ∀ k, (m.provider.callsigns k).isSome = true → (l.sent k).Pairwise Apart

/-- A timer of the addition is pending. -/
def Awaited (m : CAirspaceMonitor S C) (callsign : Callsign) (addition : ℕ) : Prop :=
  ∃ pending ∈ m.timers, pending.shot = .verifyReceivedIcaoData callsign addition

/-- The listener was told, or a timer is pending. -/
structure ReadyInv (lib : AirspaceLibrary S C E) (s : CAirspaceMonitor S C × Listener) : Prop
    extends Told lib s.1 s.2 where
  verified : ∀ k cs, s.1.provider.callsigns k = some cs →
    ∃ n, s.1.addition k = some n ∧ (s.2.sent k ≠ [] ∨ s.1.Awaited cs n)

variable {l : Listener}

omit [TimestampWithOffsetBased S] [TimestampWithOffsetBased C] in
/-- What the listener was told of others stays, and so does that he was told. -/
theorem Effect.sent (h : Effect m now k r) :
    (matched r.2 = [] ∧ (l.listen now r.2).sent = l.sent) ∨
      (matched r.2 = [k] ∧ (l.listen now r.2).sent =
        Function.update l.sent k (now :: l.sent k)) := by
  have hlisten := Listener.sent_listen now l r.2 h.notAdded
  rcases h.outcome with ⟨hnone, -⟩ | ⟨hsome, -⟩
  · refine Or.inl ⟨hnone, funext fun k' => ?_⟩
    rw [hlisten k', hnone]
    rfl
  · refine Or.inr ⟨hsome, funext fun k' => ?_⟩
    rw [hlisten k', hsome]
    by_cases hk : k' = k
    · rw [hk, Function.update_self, List.count_singleton_self]
      rfl
    · rw [Function.update_of_ne hk, List.count_singleton, if_neg]
      · rfl
      · rw [beq_iff_eq]
        exact fun heq => hk heq.symm

omit [TimestampWithOffsetBased S] [TimestampWithOffsetBased C] in
theorem Effect.marked_of_ne (h : Effect m now k r) {k' : QString} (hk : k' ≠ k) :
    r.1.Marked k' ↔ m.Marked k' := by
  unfold Marked
  rw [h.others k' hk]

theorem told_of_effect (h : Effect m now k r) (htold : Told lib m l)
    (hfresh : matched r.2 = [k] → m.Stale now k → ∀ t ∈ l.sent k, t + mmMaxAgeThresholdMs ≤ now) :
    Told lib r.1 (l.listen now r.2) := by
  constructor
  case named =>
    constructor
    case key_eq => rw [h.callsigns]; exact htold.named.key_eq
    case valid => rw [h.callsigns]; exact htold.named.valid
  case marked =>
    intro k' hin
    rw [h.callsigns] at hin
    by_cases hk : k' = k
    · subst hk
      rcases h.sent (l := l) with ⟨hnone, hsent⟩ | ⟨hsome, hsent⟩
      · rw [hsent, ← htold.marked k' hin]
        rcases h.outcome with ⟨-, hsame⟩ | ⟨hsome, -⟩
        · exact hsame hin
        · rw [hnone] at hsome
          cases hsome
      · rw [hsent, Function.update_self]
        rcases h.outcome with ⟨hnone, -⟩ | ⟨-, -, hmarked, -⟩
        · rw [hsome] at hnone
          cases hnone
        · exact iff_of_true hmarked (List.cons_ne_nil _ _)
    · rw [h.marked_of_ne hk, htold.marked k' hin]
      rcases h.sent (l := l) with ⟨-, hsent⟩ | ⟨-, hsent⟩
      · rw [hsent]
      · rw [hsent, Function.update_of_ne hk]
  case apart =>
    intro k' hin
    rw [h.callsigns] at hin
    rcases h.sent (l := l) with ⟨-, hsent⟩ | ⟨hsome, hsent⟩
    · rw [hsent]
      exact htold.apart k' hin
    · rw [hsent]
      by_cases hk : k' = k
      · subst hk
        rw [Function.update_self]
        refine List.pairwise_cons.mpr ⟨fun t ht => ?_, htold.apart k' hin⟩
        -- the aircraft was marked, so its mark is stale
        have hmarked := (htold.marked k' hin).mpr (List.ne_nil_of_mem ht)
        rcases h.outcome with ⟨hnone, -⟩ | ⟨-, -, -, hstale⟩
        · rw [hsome] at hnone
          cases hnone
        · exact hfresh hsome (hstale hmarked) t ht
      · rw [Function.update_of_ne hk]
        exact htold.apart k' hin

omit [TimestampWithOffsetBased S] [TimestampWithOffsetBased C] in
theorem Effect.sent_ne_nil (h : Effect m now k r) {k' : QString} (hsent : l.sent k' ≠ []) :
    (l.listen now r.2).sent k' ≠ [] := by
  rcases h.sent (l := l) with ⟨-, hsame⟩ | ⟨-, hsame⟩
  · rw [hsame]
    exact hsent
  · rw [hsame]
    by_cases hk : k' = k
    · rw [hk, Function.update_self]
      exact List.cons_ne_nil _ _
    · rw [Function.update_of_ne hk]
      exact hsent

/-- An input about one aircraft keeps the invariant. -/
theorem readyInv_of_effect (h : Effect m now k r) (hinv : ReadyInv lib (m, l))
    (hfresh : matched r.2 = [k] → m.Stale now k → ∀ t ∈ l.sent k, t + mmMaxAgeThresholdMs ≤ now) :
    ReadyInv lib (r.1, l.listen now r.2) where
  toTold := told_of_effect h hinv.toTold hfresh
  verified := by
    intro k' cs hin
    rw [h.callsigns] at hin
    rcases hinv.verified k' cs hin with ⟨n, haddition, hverified⟩
    refine ⟨n, (congrFun h.addition k').trans haddition, ?_⟩
    rcases hverified with hsent | ⟨pending, hpending, hshot⟩
    · exact Or.inl (h.sent_ne_nil hsent)
    · exact Or.inr ⟨pending, h.timers pending hpending, hshot⟩

/-! ## Who comes and goes -/

/-- Who is left in range is left as he was. -/
structure Leaves (m m' : CAirspaceMonitor S C) : Prop where
  callsigns : ∀ k cs, m'.provider.callsigns k = some cs → m.provider.callsigns k = some cs
  readiness : ∀ k cs, m'.provider.callsigns k = some cs → m'.readiness k = m.readiness k
  addition : m'.addition = m.addition
  timers : ∀ pending ∈ m.timers, pending ∈ m'.timers

/-- An aircraft that may be said to be ready again was last said to be so long ago. -/
def Fresh (s : CAirspaceMonitor S C × Listener) (now : ℕ) (k : QString) : Prop :=
  (s.1.provider.callsigns k).isSome = true → s.1.Stale now k →
    ∀ t ∈ s.2.sent k, t + mmMaxAgeThresholdMs ≤ now

section

omit [TimestampWithOffsetBased S] [TimestampWithOffsetBased C]

theorem leaves_refl : Leaves m m where
  callsigns _ _ h := h
  readiness _ _ _ := rfl
  addition := rfl
  timers _ hpending := hpending

theorem Leaves.trans {m'' : CAirspaceMonitor S C} (h : Leaves m m') (h' : Leaves m' m'') :
    Leaves m m'' where
  callsigns k cs hin := h.callsigns k cs (h'.callsigns k cs hin)
  readiness k cs hin := (h'.readiness k cs hin).trans (h.readiness k cs (h'.callsigns k cs hin))
  addition := h'.addition.trans h.addition
  timers pending hpending := h'.timers pending (h.timers pending hpending)

theorem leaves_of_callsigns (hcallsigns : m'.provider.callsigns = m.provider.callsigns)
    (hreadiness : m'.readiness = m.readiness) (haddition : m'.addition = m.addition)
    (htimers : m'.timers = m.timers) : Leaves m m' where
  callsigns k cs hin := by
    rw [← hcallsigns]
    exact hin
  readiness k _ _ := congrFun hreadiness k
  addition := haddition
  timers pending hpending := by
    rw [htimers]
    exact hpending

theorem Leaves.marked (h : Leaves m m') (hin : (m'.provider.callsigns k).isSome = true) :
    m'.Marked k ↔ m.Marked k := by
  rcases Option.isSome_iff_exists.mp hin with ⟨cs, hcs⟩
  unfold Marked
  rw [h.readiness k cs hcs]

theorem Leaves.isSome (h : Leaves m m') (hin : (m'.provider.callsigns k).isSome = true) :
    (m.provider.callsigns k).isSome = true := by
  rcases Option.isSome_iff_exists.mp hin with ⟨cs, hcs⟩
  exact Option.isSome_iff_exists.mpr ⟨cs, h.callsigns k cs hcs⟩

theorem Leaves.fresh {l' : Listener} (h : Leaves m m') (hsent : l'.sent = l.sent)
    (hfresh : Fresh (m, l) now k) : Fresh (m', l') now k := by
  intro hin hstale
  rw [hsent]
  rcases Option.isSome_iff_exists.mp hin with ⟨cs, hcs⟩
  refine hfresh (h.isSome hin) ?_
  unfold Stale at hstale ⊢
  rw [← h.readiness k cs hcs]
  exact hstale

theorem leaves_removeAircraft (callsign : Callsign) :
    Leaves m { m with provider := (m.provider.removeAircraft callsign).1 } where
  callsigns k cs hin := by
    rw [RemoteAircraftProvider.callsigns_removeAircraft] at hin
    by_cases hk : k = key callsign
    · rw [hk, CallsignMap.remove_self] at hin
      cases hin
    · rw [CallsignMap.remove_of_ne _ _ hk] at hin
      exact hin
  readiness _ _ _ := rfl
  addition := rfl
  timers _ hpending := hpending

end

theorem Leaves.named (h : Leaves m m') (hnamed : Named lib m) : Named lib m' where
  key_eq k cs hin := hnamed.key_eq k cs (h.callsigns k cs hin)
  valid k cs hin := hnamed.valid k cs (h.callsigns k cs hin)

theorem Leaves.told {l' : Listener} (h : Leaves m m') (hsent : l'.sent = l.sent)
    (htold : Told lib m l) : Told lib m' l' where
  named := h.named htold.named
  marked k hin := by
    rw [h.marked hin, hsent]
    exact htold.marked k (h.isSome hin)
  apart k hin := by
    rw [hsent]
    exact htold.apart k (h.isSome hin)

theorem Leaves.readyInv {l' : Listener} (h : Leaves m m') (hsent : l'.sent = l.sent)
    (hinv : ReadyInv lib (m, l)) : ReadyInv lib (m', l') where
  toTold := h.told hsent hinv.toTold
  verified k cs hin := by
    rcases hinv.verified k cs (h.callsigns k cs hin) with ⟨n, haddition, hverified⟩
    refine ⟨n, (congrFun h.addition k).trans haddition, ?_⟩
    rcases hverified with hknown | ⟨pending, hpending, hshot⟩
    · refine Or.inl ?_
      rw [hsent]
      exact hknown
    · exact Or.inr ⟨pending, h.timers pending hpending, hshot⟩

/-- An aircraft that comes into range: it is known by its callsign, and a timer verifies
    it. -/
structure Comes (m : CAirspaceMonitor S C) (callsign : Callsign)
    (r : CAirspaceMonitor S C × List (MonitorSignal S)) : Prop where
  callsigns : r.1.provider.callsigns = m.provider.callsigns.insert (key callsign) callsign
  readiness : r.1.readiness = m.readiness
  addition : ∃ n, r.1.addition = m.addition.insert (key callsign) n ∧ r.1.Awaited callsign n
  timers : ∀ pending ∈ m.timers, pending ∈ r.1.timers
  signals : ∃ aircraft : CSimulatedAircraft S, aircraft.callsign = callsign ∧
    r.2 = [.addedAircraft aircraft]

omit [TimestampWithOffsetBased S] [TimestampWithOffsetBased C] in
theorem comes_addNewAircraftInRange (aircraft : CSimulatedAircraft S)
    (h : m.provider.isAircraftInRange aircraft.callsign = false) :
    Comes m aircraft.callsign (m.addNewAircraftInRange env aircraft) := by
  rcases addNewAircraftInRange_cases env (m := m) aircraft with
    ⟨hrange, -⟩ | ⟨-, hcallsigns, hsignals⟩
  · rw [h] at hrange
    cases hrange
  · have hadded : ∀ newAircraft : CSimulatedAircraft S,
        newAircraft.callsign = aircraft.callsign →
        (m.provider.addNewAircraftInRange newAircraft).2 = true := by
      intro newAircraft hcallsign
      unfold RemoteAircraftProvider.addNewAircraftInRange
      rw [hcallsign, h]
      rfl
    -- A new aircraft has no readiness yet, and the timer for its data is started.
    constructor
    case callsigns => exact hcallsigns
    case signals => exact hsignals
    all_goals
      unfold addNewAircraftInRange
      dsimp only
      generalize hnew : ({ aircraft with
        isRendered := false
        relativeDistance := env.relativeDistance aircraft.situation
        relativeBearing := env.relativeBearing aircraft.situation } : CSimulatedAircraft S) =
          newAircraft
      rw [hadded newAircraft (by rw [← hnew]), if_neg (by decide)]
    case readiness => rfl
    case addition =>
      exact ⟨m.additions, rfl, _, List.mem_append_right _ (List.mem_singleton.mpr rfl), rfl⟩
    case timers => exact fun _ hpending => List.mem_append_left _ hpending

section Comes

variable {callsign : Callsign} {signals : List (MonitorSignal S)}

variable (now) in
omit [TimestampWithOffsetBased S] [TimestampWithOffsetBased C] in
/-- The listener starts anew with an aircraft that comes. -/
theorem Comes.sent (h : Comes m callsign r) (hadded : ∀ signal ∈ signals, signal.isAdded = false)
    (hmatched : matched signals = []) :
    (l.listen now (r.2 ++ signals)).sent = Function.update l.sent (key callsign) [] := by
  rcases h.signals with ⟨aircraft, hcallsign, hsignals⟩
  funext k
  rw [Listener.listen_append, Listener.sent_listen now _ signals hadded, hmatched, hsignals,
    ← hcallsign]
  rfl

theorem Comes.told {l' : Listener} (h : Comes m callsign r) (hmarked : ¬m.Marked (key callsign))
    (hvalid : isValidAircraftCallsign lib.toSituationLibrary callsign.callsign = true ∧
      callsign.isEmpty = false)
    (hsent : l'.sent = Function.update l.sent (key callsign) []) (htold : Told lib m l) :
    Told lib r.1 l' := by
  -- The readiness is what it was, for every aircraft.
  have hsame (k : QString) : r.1.Marked k ↔ m.Marked k := by
    unfold Marked
    rw [h.readiness]
  constructor
  case named =>
    constructor
    all_goals
      intro k cs hin
      rw [h.callsigns] at hin
      by_cases hk : k = key callsign
      · rw [hk, CallsignMap.insert_self] at hin
        cases hin
        first
        | exact hk.symm
        | exact hvalid
      · rw [CallsignMap.insert_of_ne _ _ _ hk] at hin
        first
        | exact htold.named.key_eq k cs hin
        | exact htold.named.valid k cs hin
  -- What was sent is forgotten for the new aircraft only, and that one is not marked.
  case marked =>
    intro k hin
    rw [h.callsigns] at hin
    rw [hsame, hsent]
    by_cases hk : k = key callsign
    · rw [hk, Function.update_self]
      exact iff_of_false hmarked (fun hne => hne rfl)
    · rw [CallsignMap.insert_of_ne _ _ _ hk] at hin
      rw [Function.update_of_ne hk]
      exact htold.marked k hin
  case apart =>
    intro k hin
    rw [h.callsigns] at hin
    rw [hsent]
    by_cases hk : k = key callsign
    · rw [hk, Function.update_self]
      exact List.Pairwise.nil
    · rw [CallsignMap.insert_of_ne _ _ _ hk] at hin
      rw [Function.update_of_ne hk]
      exact htold.apart k hin

theorem Comes.readyInv {l' : Listener} (h : Comes m callsign r) (hmarked : ¬m.Marked (key callsign))
    (hvalid : isValidAircraftCallsign lib.toSituationLibrary callsign.callsign = true ∧
      callsign.isEmpty = false)
    (hsent : l'.sent = Function.update l.sent (key callsign) []) (hinv : ReadyInv lib (m, l)) :
    ReadyInv lib (r.1, l') where
  toTold := h.told hmarked hvalid hsent hinv.toTold
  verified k cs hin := by
    rcases h.addition with ⟨n, haddition, hawaited⟩
    rw [h.callsigns] at hin
    rw [haddition, hsent]
    by_cases hk : k = key callsign
    · rw [hk, CallsignMap.insert_self] at hin ⊢
      cases hin
      exact ⟨n, rfl, Or.inr hawaited⟩
    · rw [CallsignMap.insert_of_ne _ _ _ hk] at hin ⊢
      rw [Function.update_of_ne hk]
      rcases hinv.verified k cs hin with ⟨n', hknown, hverified⟩
      refine ⟨n', hknown, hverified.imp id ?_⟩
      rintro ⟨pending, hpending, hshot⟩
      exact ⟨pending, h.timers pending hpending, hshot⟩

end Comes

/-! ## Positions -/

/-- A position of an aircraft that is not in range, and close enough. -/
def BringsIn (lib : AirspaceLibrary S C E) (env : MonitorEnv S) (m : CAirspaceMonitor S C)
    (situation : S) : Prop :=
  Handled lib env situation ∧
    m.provider.isAircraftInRange (lib.getCallsign situation) = false ∧
    (m.maxDistanceNM < 0 ∨ env.distanceNM situation ≤ m.maxDistanceNM)

variable (lib) in
/-- What a position does: at most the aircraft goes, or it comes. -/
theorem onAircraftUpdateReceived_cases (situation : S) :
    (∃ m', Leaves m m' ∧ m.onAircraftUpdateReceived lib env situation = (m', [])) ∨
    (BringsIn lib env m situation ∧ ∃ stored added withFsInn,
      Leaves m stored ∧ stored.readiness = m.readiness ∧
      Comes stored (lib.getCallsign situation) added ∧
      m.onAircraftUpdateReceived lib env situation = (added.1, added.2 ++
        sendInitialPilotQueries env (lib.getCallsign situation) true withFsInn)) := by
  unfold onAircraftUpdateReceived
  dsimp only
  by_cases hignored : (!env.isConnectedAndNotShuttingDown ||
      env.isCopilotAircraft (lib.getCallsign situation)) = true
  · rw [if_pos hignored]
    exact Or.inl ⟨m, leaves_refl, rfl⟩
  rw [if_neg hignored]
  rw [Bool.not_eq_true, Bool.or_eq_false_iff, Bool.not_eq_false'] at hignored
  -- the range check lets nobody in whom it has removed
  have hrange : Leaves m (m.handleMaxRange lib env situation).1 ∧
      ((m.handleMaxRange lib env situation).2 = true →
        (m.handleMaxRange lib env situation).1 = m ∧ lib.isNull situation = false ∧
          (m.maxDistanceNM < 0 ∨ env.distanceNM situation ≤ m.maxDistanceNM)) := by
    cases hnull : lib.isNull situation with
    | true =>
      unfold handleMaxRange
      rw [hnull]
      exact ⟨leaves_refl, fun hin => absurd hin Bool.false_ne_true⟩
    | false =>
      rcases handleMaxRange_cases (m := m) env hnull with
        ⟨-, -, hremoved⟩ | ⟨-, hsame⟩
      · rw [hremoved]
        exact ⟨leaves_removeAircraft _, fun hin => absurd hin Bool.false_ne_true⟩
      · rw [hsame]
        exact ⟨leaves_refl, fun hin => ⟨rfl, rfl, of_decide_eq_true hin⟩⟩
  generalize m.handleMaxRange lib env situation = range at hrange ⊢
  have hstored (m : CAirspaceMonitor S C) : Leaves m (m.storeAircraftSituation lib env situation) :=
    leaves_of_callsigns (quiet_storeAircraftSituation lib env situation).callsigns rfl rfl rfl
  split_ifs with hout hin
  · exact Or.inl ⟨range.1, hrange.1, rfl⟩
  · -- the aircraft comes
    rw [Bool.not_eq_true'] at hin
    rw [hin, Bool.not_false, Bool.and_true, Bool.not_eq_true, Bool.not_eq_false'] at hout
    rcases hrange.2 hout with ⟨hsame, hnull, hclose⟩
    rw [hsame] at hin ⊢
    refine Or.inr ⟨⟨⟨hignored.1, hignored.2, hnull⟩, hin, hclose⟩,
      m.storeAircraftSituation lib env situation, _, _, hstored m, rfl, ?_, rfl⟩
    refine comes_addNewAircraftInRange env
      { callsign := lib.getCallsign situation, situation := situation } ?_
    rw [RemoteAircraftProvider.isAircraftInRange,
      ← RemoteAircraftProvider.isSome_callsigns] at hin ⊢
    rw [← hin, (quiet_storeAircraftSituation lib env situation).callsigns]
  · refine Or.inl ⟨_, (hrange.1.trans (hstored range.1)).trans ?_, rfl⟩
    exact leaves_of_callsigns
      (RemoteAircraftProvider.callsigns_updateInRange _ (lib.getCallsign situation)
        (fun aircraft =>
          { aircraft with
            situation
            relativeDistance := env.relativeDistance situation
            relativeBearing := env.relativeBearing situation }) (fun _ => rfl)) rfl rfl rfl

/-- Whoever comes was not said to be ready before, and has a callsign. -/
def ComesAnew (lib : AirspaceLibrary S C E) (env : MonitorEnv S) (m : CAirspaceMonitor S C)
    (situation : S) : Prop :=
  BringsIn lib env m situation → ¬m.Marked (key (lib.getCallsign situation)) ∧
    isValidAircraftCallsign lib.toSituationLibrary (lib.getCallsign situation).callsign = true ∧
    (lib.getCallsign situation).isEmpty = false

variable (now) in
/-- A position keeps the invariant, and nobody is said to be ready. -/
theorem readyInv_onAircraftUpdateReceived {situation : S} (h : ComesAnew lib env m situation)
    (hinv : ReadyInv lib (m, l)) :
    let r := m.onAircraftUpdateReceived lib env situation
    ReadyInv lib (r.1, l.listen now r.2) ∧ matched r.2 = [] ∧
      (∀ k, Fresh (m, l) now k → Fresh (r.1, l.listen now r.2) now k) ∧
      (∀ k, ∀ t ∈ (l.listen now r.2).sent k, t ∈ l.sent k) ∧
      ∀ k, (r.1.provider.callsigns k).isSome = true → r.1.readiness k = m.readiness k := by
  rcases onAircraftUpdateReceived_cases (m := m) lib env situation with
    -- Either the aircraft is not brought into range, or it is added as a new one.
    ⟨m', hleaves, hstep⟩ | ⟨hbrings, stored, added, withFsInn, hleaves, hreadiness, hcomes, hstep⟩
  · rw [hstep]
    refine ⟨hleaves.readyInv rfl hinv, rfl, fun k => hleaves.fresh rfl, fun _ _ ht => ht,
      fun k hin => ?_⟩
    rcases Option.isSome_iff_exists.mp hin with ⟨cs, hcs⟩
    exact hleaves.readiness k cs hcs
  · rw [hstep]
    rcases h hbrings with ⟨hmarked, hvalid⟩
    have hqueries := matched_sendInitialPilotQueries env (lib.getCallsign situation) true withFsInn
    have hsent := hcomes.sent (l := l) now hqueries.2 hqueries.1
    refine ⟨?_, ?_, fun k hfresh => ?_, fun k t ht => ?_, fun k _ => ?_⟩
    · refine hcomes.readyInv ?_ hvalid hsent (hleaves.readyInv rfl hinv)
      unfold Marked at hmarked ⊢
      rw [hreadiness]
      exact hmarked
    · rcases hcomes.signals with ⟨aircraft, -, hsignals⟩
      rw [hsignals, matched_append, hqueries.1]
      rfl
    · -- Nothing has been sent for the new aircraft, so it is fresh.
      by_cases hk : k = key (lib.getCallsign situation)
      · intro _ _ t ht
        rw [hsent, hk, Function.update_self] at ht
        cases ht
      · intro hin hstale
        rw [hsent, Function.update_of_ne hk]
        rw [hcomes.callsigns, CallsignMap.insert_of_ne _ _ _ hk] at hin
        refine hfresh (hleaves.isSome hin) ?_
        unfold Stale at hstale ⊢
        rw [← hreadiness, ← hcomes.readiness]
        exact hstale
    · rw [hsent] at ht
      by_cases hk : k = key (lib.getCallsign situation)
      · rw [hk, Function.update_self] at ht
        cases ht
      · rw [Function.update_of_ne hk] at ht
        exact ht
    · rw [hcomes.readiness, hreadiness]

/-! ## One step -/

/-- What a step keeps: the invariant, and only aircraft in range are said to be ready,
    which were asked about, and if they were said to be before, then long ago. -/
structure ReadyStep (lib : AirspaceLibrary S C E) (m : CAirspaceMonitor S C) (l : Listener)
    (now : ℕ) (asked : QString → Prop) (r : CAirspaceMonitor S C × List (MonitorSignal S)) :
    Prop where
  readyInv : ReadyInv lib (r.1, l.listen now r.2)
  inRange : ∀ k ∈ matched r.2, (r.1.provider.callsigns k).isSome = true
  told : ∀ k, ∀ t ∈ (l.listen now r.2).sent k, t ∈ l.sent k ∨
    (t = now ∧ asked k ∧ (r.1.provider.callsigns k).isSome = true ∧ (m.Marked k → m.Stale now k))

omit [TimestampWithOffsetBased S] [TimestampWithOffsetBased C] in
/-- What neither brings anybody nor says that anybody is ready. -/
theorem sent_of_matched {signals : List (MonitorSignal S)}
    (hadded : ∀ signal ∈ signals, signal.isAdded = false) (hmatched : matched signals = []) :
    (l.listen now signals).sent = l.sent := by
  funext k
  rw [Listener.sent_listen now l signals hadded, hmatched]
  rfl

/-- What brings nobody and says of nobody that he is ready. -/
structure Silent (m : CAirspaceMonitor S C) (r : CAirspaceMonitor S C × List (MonitorSignal S)) :
    Prop where
  leaves : Leaves m r.1
  notAdded : ∀ signal ∈ r.2, signal.isAdded = false
  matched : matched r.2 = []

omit [TimestampWithOffsetBased S] [TimestampWithOffsetBased C] in
theorem Leaves.silent (h : Leaves m m') : Silent m (m', []) :=
  ⟨h, fun _ hsignal => absurd hsignal List.not_mem_nil, rfl⟩

theorem Silent.readyStep {asked : QString → Prop} (h : Silent m r)
    (hinv : ReadyInv lib (m, l)) : ReadyStep lib m l now asked r where
  readyInv := h.leaves.readyInv (sent_of_matched h.notAdded h.matched) hinv
  inRange k hk := by
    rw [h.matched] at hk
    cases hk
  told k t ht := by
    rw [sent_of_matched h.notAdded h.matched] at ht
    exact Or.inl ht

omit [TimestampWithOffsetBased S] [TimestampWithOffsetBased C] in
/-- Only the aircraft itself is said to be ready, and it is in range. -/
theorem Effect.inRange (h : Effect m now k r) :
    ∀ k' ∈ matched r.2, k' = k ∧ (m.provider.callsigns k).isSome = true := by
  intro k' hk'
  rcases h.outcome with ⟨hnone, -⟩ | ⟨hsome, hin, -⟩
  · rw [hnone] at hk'
    cases hk'
  · rw [hsome] at hk'
    exact ⟨List.mem_singleton.mp hk', hin⟩

omit [TimestampWithOffsetBased S] [TimestampWithOffsetBased C] in
/-- The listener is told about the aircraft itself, if about any. -/
theorem Effect.told (h : Effect m now k r) {k' : QString} {t : ℕ}
    (ht : t ∈ (l.listen now r.2).sent k') : t ∈ l.sent k' ∨
      (t = now ∧ matched r.2 = [k] ∧ k = k' ∧ (r.1.provider.callsigns k').isSome = true ∧
        (m.Marked k' → m.Stale now k')) := by
  rcases h.sent (l := l) with ⟨-, hsent⟩ | ⟨hsome, hsent⟩
  · rw [hsent] at ht
    exact Or.inl ht
  · rw [hsent] at ht
    by_cases hk : k' = k
    · subst hk
      rw [Function.update_self, List.mem_cons] at ht
      rcases h.outcome with ⟨hnone, -⟩ | ⟨-, hin, -, hstale⟩
      · rw [hsome] at hnone
        cases hnone
      · rw [h.callsigns]
        exact ht.symm.imp id fun heq => ⟨heq, hsome, rfl, hin, hstale⟩
    · rw [Function.update_of_ne hk] at ht
      exact Or.inl ht

theorem Effect.readyStep (h : Effect m now k r) (hinv : ReadyInv lib (m, l))
    (hfresh : Fresh (m, l) now k) : ReadyStep lib m l now (fun k' => k = k') r where
  readyInv := by
    refine readyInv_of_effect h hinv fun hsome hstale => hfresh ?_ hstale
    refine (h.inRange k ?_).2
    rw [hsome]
    exact List.mem_singleton.mpr rfl
  inRange k' hk' := by
    rcases h.inRange k' hk' with ⟨rfl, hin⟩
    rw [h.callsigns]
    exact hin
  told k' t ht := (h.told ht).imp id fun ⟨heq, _, hk, hin, hstale⟩ => ⟨heq, hk, hin, hstale⟩

section

omit [TimestampWithOffsetBased S] [TimestampWithOffsetBased C]

theorem leaves_onPilotDisconnected (callsign : Callsign) :
    Leaves m (m.onPilotDisconnected callsign).1 := by
  have hcallsigns : (m.onPilotDisconnected callsign).1.provider.callsigns =
      m.provider.callsigns.remove (key callsign) := by
    unfold onPilotDisconnected
    rw [RemoteAircraftProvider.callsigns_removeAircraft]
    split <;> rfl
  -- Whoever is left in range is not the pilot that has gone.
  have hne {k cs} (hin : (m.onPilotDisconnected callsign).1.provider.callsigns k = some cs) :
      k ≠ key callsign := by
    intro hk
    rw [hcallsigns, hk, CallsignMap.remove_self] at hin
    cases hin
  constructor
  case callsigns =>
    intro k cs hin
    have hk := hne hin
    rw [hcallsigns, CallsignMap.remove_of_ne _ _ hk] at hin
    exact hin
  case readiness =>
    intro k cs hin
    unfold onPilotDisconnected
    split
    · rfl
    · exact CallsignMap.remove_of_ne _ _ (hne hin)
  all_goals
    unfold onPilotDisconnected
    dsimp only
  case addition => split <;> rfl
  case timers => split <;> exact fun _ hpending => hpending

theorem silent_onPilotDisconnected (callsign : Callsign) :
    Silent m (m.onPilotDisconnected callsign) := by
  refine ⟨leaves_onPilotDisconnected callsign, ?_, ?_⟩
  all_goals
    unfold onPilotDisconnected
    generalize (if callsign.isEmpty then m else { m with
        readiness := m.readiness.remove (key callsign)
        provider := m.provider.removeReverseLookupMessages callsign }) = purged
    dsimp only
  · split
    · exact List.forall_mem_singleton.mpr rfl
    · exact fun _ hsignal => absurd hsignal List.not_mem_nil
  · split <;> rfl

/-- Nobody is left. -/
theorem leaves_of_removeAllAircraft
    (hprovider : m'.provider = m.provider.removeAllAircraft) (haddition : m'.addition = m.addition)
    (htimers : ∀ pending ∈ m.timers, pending ∈ m'.timers) : Leaves m m' where
  callsigns k cs hin := by
    rw [hprovider] at hin
    cases hin
  readiness k cs hin := by
    rw [hprovider] at hin
    cases hin
  addition := haddition
  timers := htimers

theorem silent_clear : Silent m m.clear where
  leaves := leaves_of_removeAllAircraft rfl rfl fun _ hpending => hpending
  notAdded := List.forall_mem_singleton.mpr rfl
  matched := rfl

theorem silent_reInitializeAllAircraft (order : List QString) :
    Silent m (m.reInitializeAllAircraft env order) where
  leaves := leaves_of_removeAllAircraft rfl rfl fun _ hpending => List.mem_append_left _ hpending
  notAdded := List.forall_mem_singleton.mpr rfl
  matched := rfl

theorem leaves_setMaxRange (range : CLength) : Leaves m (m.setMaxRange range) := by
  unfold setMaxRange
  split_ifs <;> exact leaves_of_callsigns rfl rfl rfl rfl

theorem silent_onConnectionStatusChanged (newStatus : Fsd.ConnectionStatus) (maxRange : CLength) :
    Silent m (m.onConnectionStatusChanged newStatus maxRange) := by
  unfold onConnectionStatusChanged
  have hranged : Leaves m (if newStatus = .connecting then m.setMaxRange maxRange else m) := by
    split_ifs
    · exact leaves_setMaxRange maxRange
    · exact leaves_refl
  generalize (if newStatus = .connecting then m.setMaxRange maxRange else m) = ranged
    at hranged ⊢
  split_ifs
  · have hclear := silent_clear (m := ranged)
    exact ⟨hranged.trans hclear.leaves, hclear.notAdded, hclear.matched⟩
  · exact hranged.silent

theorem silent_onAtcPositionUpdate (station : AtcStation) :
    Silent m (m.onAtcPositionUpdate env station) := by
  have hchanged (m' : CAirspaceMonitor S C) (h : Leaves m m') :
      Silent m (m', [.changedAtcStationsOnline]) := ⟨h, List.forall_mem_singleton.mpr rfl, rfl⟩
  unfold onAtcPositionUpdate
  dsimp only
  split_ifs
  · exact leaves_refl.silent
  · refine Leaves.silent ?_
    exact leaves_of_callsigns rfl rfl rfl rfl
  · exact hchanged _ (leaves_of_callsigns rfl rfl rfl rfl)
  · exact hchanged _ (leaves_of_callsigns rfl rfl rfl rfl)

theorem silent_onAtcControllerDisconnected (callsign : Callsign) :
    Silent m (m.onAtcControllerDisconnected env callsign) := by
  unfold onAtcControllerDisconnected
  dsimp only
  split_ifs
  · exact leaves_refl.silent
  · split
    · refine Leaves.silent ?_
      exact leaves_of_callsigns rfl rfl rfl rfl
    · exact ⟨leaves_of_callsigns rfl rfl rfl rfl,
        List.forall_mem_cons.mpr ⟨rfl, List.forall_mem_singleton.mpr rfl⟩, rfl⟩

end

theorem leaves_onAircraftInterimUpdateReceived (situation : S) (samePosition : S → Bool) :
    Leaves m (m.onAircraftInterimUpdateReceived lib env situation samePosition) := by
  refine leaves_of_callsigns
    (quiet_onAircraftInterimUpdateReceived lib env situation samePosition).callsigns ?_ ?_ ?_
  all_goals
    unfold onAircraftInterimUpdateReceived
    dsimp only
    split_ifs
    · rfl
    · split
      · rfl
      · split_ifs <;> rfl

variable (lib) in
theorem leaves_onAircraftConfigReceived (callsign : Callsign) (jsonObject : QJsonObject)
    (currentOffsetMs : ℤ) :
    Leaves m (m.onAircraftConfigReceived lib env callsign jsonObject currentOffsetMs) := by
  refine leaves_of_callsigns
    (quiet_onAircraftConfigReceived lib env callsign jsonObject currentOffsetMs).callsigns ?_ ?_ ?_
  all_goals
    unfold onAircraftConfigReceived
    split_ifs <;> rfl

/-- A timer of a run may fire. -/
def PromptShot (s : CAirspaceMonitor S C × Listener) (now : ℕ) : SingleShot S → Prop
  | .checkAgain callsign _ => Fresh s now (key callsign)
  | .verifyReceivedIcaoData _ _ => True
  | .reInitialize _ => False

/-- The timer may make the monitor say that the aircraft is ready. -/
def Asks (m : CAirspaceMonitor S C) (k : QString) : SingleShot S → Prop
  | .checkAgain callsign _ => key callsign = k
  | .verifyReceivedIcaoData callsign _ => key callsign = k ∧ ¬m.Marked k
  | .reInitialize _ => False

variable (lib) in
/-- An aircraft that was said to be ready is not said to be again by a timer. -/
theorem matched_verifyReceivedIcaoData (callsign : Callsign) (addition : ℕ)
    (h : m.Marked (key callsign)) :
    matched (m.verifyReceivedIcaoData lib env callsign addition).2 = [] := by
  unfold verifyReceivedIcaoData
  dsimp only
  rw [marked_iff_getD.mp h, if_pos rfl]
  split_ifs <;> rfl

/-- A timer that fires is about one aircraft, and says nothing too early. -/
theorem effect_fire (hnamed : Named lib m) {shot : SingleShot S}
    (h : PromptShot (m, l) env.now shot) :
    ∃ k, Effect m env.now k (m.fire lib env shot) ∧
      (matched (m.fire lib env shot).2 = [k] → m.Asks k shot) ∧
      (matched (m.fire lib env shot).2 = [k] → m.Stale env.now k →
        ∀ t ∈ l.sent k, t + mmMaxAgeThresholdMs ≤ env.now) := by
  cases shot with
  | checkAgain callsign rf =>
    have heffect := effect_checkAgain env hnamed callsign rf
    refine ⟨key callsign, heffect, fun _ => rfl, fun hsome hstale => ?_⟩
    refine h (heffect.inRange (key callsign) ?_).2 hstale
    rw [show (m.fire lib env (.checkAgain callsign rf)).2 =
      (m.checkAgain lib env callsign rf).2 from rfl] at hsome
    rw [hsome]
    exact List.mem_singleton.mpr rfl
  | verifyReceivedIcaoData callsign addition =>
    have hunmarked (hsome : matched (m.fire lib env (.verifyReceivedIcaoData callsign addition)).2 =
        [key callsign]) : ¬m.Marked (key callsign) := fun hmarked => by
      have hnone := matched_verifyReceivedIcaoData lib env callsign addition hmarked
      exact absurd (hnone.symm.trans hsome).symm (List.cons_ne_nil _ _)
    refine ⟨key callsign, effect_verifyReceivedIcaoData env hnamed callsign addition,
      fun hsome => ⟨rfl, hunmarked hsome⟩, fun hsome hstale => ?_⟩
    rcases hstale with ⟨readiness, hreadiness, hsent, -⟩
    exact absurd ⟨readiness, hreadiness, hsent⟩ (hunmarked hsome)
  | reInitialize aircraft => exact h.elim

/-- When a timer has fired, the aircraft it was to verify was said to be ready, or will be
    verified again. -/
theorem readyStep_onTimeout {timer : ℕ} (hconnected : env.isConnectedAndNotShuttingDown = true)
    (h : ∀ pending, m.timers[timer]? = some pending → PromptShot (m, l) env.now pending.shot)
    (hinv : ReadyInv lib (m, l)) : ReadyStep lib m l env.now
      (fun k => ∃ pending, m.timers[timer]? = some pending ∧ m.Asks k pending.shot)
      (m.onTimeout lib env timer) := by
  unfold onTimeout
  split
  · exact leaves_refl.silent.readyStep hinv
  case h_2 fired hfired =>
    split_ifs with hdue
    · exact leaves_refl.silent.readyStep hinv
    have hperm : (fired :: m.timers.eraseIdx timer).Perm m.timers := by
      rcases List.getElem?_eq_some_iff.mp hfired with ⟨hlt, rfl⟩
      exact List.getElem_cons_eraseIdx_perm hlt
    have hshot := h fired hfired
    generalize m.timers.eraseIdx timer = timers at hperm ⊢
    -- without its timer
    have hnamed : Named lib { m with timers } := ⟨hinv.named.key_eq, hinv.named.valid⟩
    have htold : Told lib { m with timers } l := ⟨hnamed, hinv.marked, hinv.apart⟩
    have hprompt : PromptShot ({ m with timers }, l) env.now fired.shot := by
      generalize fired.shot = shot at hshot
      cases shot with
      | checkAgain => exact hshot
      | verifyReceivedIcaoData => trivial
      | reInitialize => exact hshot
    rcases effect_fire env hnamed hprompt with ⟨k, heffect, hasks, hfresh⟩
    have hafter := told_of_effect heffect htold hfresh
    refine ⟨⟨hafter, fun k' cs hin => ?_⟩, fun k' hk' => ?_, fun k' t ht => ?_⟩
    · have hbefore : m.provider.callsigns k' = some cs := by
        rw [heffect.callsigns] at hin
        exact hin
      rcases hinv.verified k' cs hbefore with ⟨n, haddition, hverified⟩
      refine ⟨n, (congrFun heffect.addition k').trans haddition, ?_⟩
      rcases hverified with hsent | ⟨pending, hpending, hverify⟩
      · exact Or.inl (heffect.sent_ne_nil hsent)
      · rcases List.mem_cons.mp (hperm.mem_iff.mpr hpending) with rfl | hother
        · -- this is the timer
          have hkey := hinv.named.key_eq k' cs hbefore
          subst hkey
          rw [hverify] at hafter hin ⊢
          rcases marked_verifyReceivedIcaoData (m := { m with timers }) env hnamed hconnected cs n
            hbefore with hmarked | hagain
          · exact Or.inl ((hafter.marked _ (Option.isSome_iff_exists.mpr ⟨cs, hin⟩)).mp hmarked)
          · exact Or.inr hagain
        · exact Or.inr ⟨pending, heffect.timers pending hother, hverify⟩
    · rcases heffect.inRange k' hk' with ⟨rfl, hin⟩
      rw [heffect.callsigns]
      exact hin
    · refine (heffect.told ht).imp id ?_
      rintro ⟨heq, hsome, rfl, hin, hstale⟩
      exact ⟨heq, ⟨fired, hfired, hasks hsome⟩, hin, hstale⟩

theorem readyStep_onAircraftSimDataUpdateReceived {situation : S}
    (h : ComesAnew lib env m situation)
    (hfresh : Fresh (m, l) env.now (key (lib.getCallsign situation))) (parts : QJsonObject)
    (currentOffsetMs : ℤ) (aircraftIcao airlineIcao : QString) (hinv : ReadyInv lib (m, l)) :
    ReadyStep lib m l env.now (fun k => key (lib.getCallsign situation) = k)
      (m.onAircraftSimDataUpdateReceived lib env situation parts currentOffsetMs aircraftIcao
        airlineIcao) := by
  rcases readyInv_onAircraftUpdateReceived env.now env h hinv with
    ⟨hupdated, hmatched, hkept, hsent, hreadiness⟩
  have hfresh := hkept _ hfresh
  unfold onAircraftSimDataUpdateReceived
  dsimp only
  generalize m.onAircraftUpdateReceived lib env situation = updated
    at hupdated hmatched hfresh hsent hreadiness ⊢
  generalize ((updated.1.provider.aircraftInRange (key (lib.getCallsign situation))).map
    CSimulatedAircraft.networkModel).getD {} = model
  -- Codes that differ may make the aircraft ready, and the parts after them do not.
  have hcodes : (ReadyStep lib updated.1 (l.listen env.now updated.2) env.now
      (fun k => key (lib.getCallsign situation) = k)
      (if env.differsFromNetworkModel model aircraftIcao then
        updated.1.onIcaoCodesReceived lib env (lib.getCallsign situation) aircraftIcao airlineIcao
          airlineIcao
      else (updated.1, []))) ∧ (if env.differsFromNetworkModel model aircraftIcao then
        updated.1.onIcaoCodesReceived lib env (lib.getCallsign situation) aircraftIcao airlineIcao
          airlineIcao
      else (updated.1, [])).1.provider.callsigns = updated.1.provider.callsigns := by
    split_ifs
    · have heffect := effect_onIcaoCodesReceived env hupdated.named (lib.getCallsign situation)
        aircraftIcao airlineIcao airlineIcao
      exact ⟨heffect.readyStep hupdated hfresh, heffect.callsigns⟩
    · exact ⟨leaves_refl.silent.readyStep hupdated, rfl⟩
  generalize (if env.differsFromNetworkModel model aircraftIcao then
      updated.1.onIcaoCodesReceived lib env (lib.getCallsign situation) aircraftIcao airlineIcao
        airlineIcao
      else (updated.1, [])) = codes at hcodes ⊢
  rcases hcodes with ⟨hcodes, hcallsigns⟩
  have hconfig := leaves_onAircraftConfigReceived lib env (m := codes.1)
    (lib.getCallsign situation) parts currentOffsetMs
  have hquiet := (quiet_onAircraftConfigReceived lib env (m := codes.1) (lib.getCallsign situation)
    parts currentOffsetMs).callsigns
  constructor
  case readyInv =>
    rw [Listener.listen_append]
    exact hconfig.readyInv rfl hcodes.readyInv
  case inRange =>
    intro k hk
    rw [matched_append, hmatched] at hk
    rw [hquiet]
    exact hcodes.inRange k hk
  case told =>
    intro k t ht
    rw [Listener.listen_append] at ht
    rcases hcodes.told k t ht with ht | ⟨heq, hasked, hin, hstale⟩
    · exact Or.inl (hsent k t ht)
    · -- The position has left the flag alone.
      refine Or.inr ⟨heq, hasked, by rw [hquiet]; exact hin, ?_⟩
      rw [hcallsigns] at hin
      unfold Marked Stale at hstale ⊢
      rw [← hreadiness k hin]
      exact hstale

/-- Connected, whoever comes comes anew, and nobody is said to be ready again too early. -/
def PromptStep (lib : AirspaceLibrary S C E) (s : CAirspaceMonitor S C × Listener)
    (input : MonitorEnv S × MonitorAction S) : Prop :=
  input.1.isConnectedAndNotShuttingDown = true ∧
    match input.2 with
    | .onAircraftUpdateReceived situation => ComesAnew lib input.1 s.1 situation
    | .onAircraftSimDataUpdateReceived situation _ _ _ _ =>
      ComesAnew lib input.1 s.1 situation ∧ Fresh s input.1.now (key (lib.getCallsign situation))
    | .onIcaoCodesReceived callsign _ _ _ => Fresh s input.1.now (key callsign)
    | .onCustomFSInnPacketReceived callsign _ _ _ _ => Fresh s input.1.now (key callsign)
    | .timeout timer => ∀ pending, s.1.timers[timer]? = some pending →
      PromptShot s input.1.now pending.shot
    | _ => True

/-- An input about an aircraft of which the monitor may say that it is ready. -/
def Asked (lib : AirspaceLibrary S C E) (m : CAirspaceMonitor S C) (k : QString) :
    MonitorAction S → Prop
  | .onAircraftSimDataUpdateReceived situation _ _ _ _ => key (lib.getCallsign situation) = k
  | .onIcaoCodesReceived callsign _ _ _ => key callsign = k
  | .onCustomFSInnPacketReceived callsign _ _ _ _ => key callsign = k
  | .timeout timer => ∃ pending, m.timers[timer]? = some pending ∧ m.Asks k pending.shot
  | _ => False

/-- One step, an action at a time. -/
theorem readyStep {s : CAirspaceMonitor S C × Listener} {input : MonitorEnv S × MonitorAction S}
    (h : PromptStep lib s input) (hinv : ReadyInv lib s) :
    ReadyStep lib s.1 s.2 input.1.now (fun k => Asked lib s.1 k input.2)
      (s.1.step lib input.1 input.2) := by
  rcases s with ⟨m, l⟩
  rcases input with ⟨env, action⟩
  rcases h with ⟨hconnected, h⟩
  -- Most actions are silent, and the others have a lemma of their own.
  cases action with
  | onAircraftUpdateReceived situation =>
    rcases readyInv_onAircraftUpdateReceived env.now env h hinv with
      ⟨hupdated, hmatched, -, hsent, -⟩
    refine ⟨hupdated, fun k hk => ?_, fun k t ht => Or.inl (hsent k t ht)⟩
    change k ∈ matched (m.onAircraftUpdateReceived lib env situation).2 at hk
    rw [hmatched] at hk
    exact absurd hk List.not_mem_nil
  | onAircraftInterimUpdateReceived situation samePosition =>
    exact (leaves_onAircraftInterimUpdateReceived env situation samePosition).silent.readyStep hinv
  | onAircraftSimDataUpdateReceived situation parts currentOffsetMs aircraftIcao airlineIcao =>
    exact readyStep_onAircraftSimDataUpdateReceived env h.1 h.2 parts currentOffsetMs aircraftIcao
      airlineIcao hinv
  | onIcaoCodesReceived callsign aircraftIcao airlineIcao livery =>
    exact (effect_onIcaoCodesReceived env hinv.named callsign aircraftIcao airlineIcao
      livery).readyStep hinv h
  | onCustomFSInnPacketReceived callsign airlineIcao aircraftIcao combinedType modelString =>
    exact (effect_onCustomFSInnPacketReceived env hinv.named callsign airlineIcao aircraftIcao
      combinedType modelString).readyStep hinv h
  | onAircraftConfigReceived callsign jsonObject currentOffsetMs =>
    exact (leaves_onAircraftConfigReceived lib env callsign jsonObject
      currentOffsetMs).silent.readyStep hinv
  | onPilotDisconnected callsign =>
    exact (silent_onPilotDisconnected callsign).readyStep hinv
  | onAtcPositionUpdate station =>
    exact (silent_onAtcPositionUpdate env station).readyStep hinv
  | onAtcControllerDisconnected callsign =>
    exact (silent_onAtcControllerDisconnected env callsign).readyStep hinv
  | onConnectionStatusChanged newStatus maxRange =>
    exact (silent_onConnectionStatusChanged newStatus maxRange).readyStep hinv
  | setMaxRange range => exact (leaves_setMaxRange range).silent.readyStep hinv
  | clear => exact silent_clear.readyStep hinv
  | reInitializeAllAircraft order =>
    exact (silent_reInitializeAllAircraft env order).readyStep hinv
  | timeout timer => exact readyStep_onTimeout env hconnected h hinv

/-! ## Runs -/

/-- An input on which the aircraft may be said to be ready: it is about the aircraft, which
    is not marked, or whose mark is stale. -/
def MayMatch (lib : AirspaceLibrary S C E)
    (step : (CAirspaceMonitor S C × Listener) × MonitorEnv S × MonitorAction S) (k : QString) :
    Prop :=
  Asked lib step.1.1 k step.2.2 ∧ (step.1.1.Marked k → step.1.1.Stale step.2.1.now k)

omit [TimestampWithOffsetBased S] [TimestampWithOffsetBased C] in
/-- A timer that verifies an aircraft may fire, and it asks about no marked one. -/
theorem asks_of_verifies {shot : SingleShot S} (h : shot.verifies = true) :
    (∀ aircraft, shot ≠ .reInitialize aircraft) ∧ (m.Asks k shot → ¬m.Marked k) := by
  cases shot with
  | verifyReceivedIcaoData => exact ⟨fun _ heq => (nomatch heq), fun hasks => hasks.2⟩
  | checkAgain => cases h
  | reInitialize => cases h

/-- Connected, whoever comes comes anew, and no timer initialises an aircraft again. -/
def MatchesPromptly (lib : AirspaceLibrary S C E) (s : CAirspaceMonitor S C × Listener)
    (input : MonitorEnv S × MonitorAction S) : Prop :=
  input.1.isConnectedAndNotShuttingDown = true ∧
    match input.2 with
    | .onAircraftUpdateReceived situation => ComesAnew lib input.1 s.1 situation
    | .onAircraftSimDataUpdateReceived situation _ _ _ _ => ComesAnew lib input.1 s.1 situation
    | .timeout timer => ∀ pending, s.1.timers[timer]? = some pending →
      ∀ aircraft, pending.shot ≠ .reInitialize aircraft
    | _ => True

/-- An input on which an aircraft in range that is marked may be said to be ready comes no
    sooner than the threshold after the earlier ones on which it might be. -/
def AskedInTime (lib : AirspaceLibrary S C E)
    (steps : List ((CAirspaceMonitor S C × Listener) × MonitorEnv S × MonitorAction S)) : Prop :=
  steps.Pairwise fun earlier later => ∀ k, MayMatch lib earlier k → MayMatch lib later k →
    (later.1.1.provider.callsigns k).isSome = true → later.1.1.Marked k →
      earlier.2.1.now + mmMaxAgeThresholdMs ≤ later.2.1.now

/-- The listener was told on inputs on which the aircraft might be said to be ready. -/
def ToldWhenAsked (lib : AirspaceLibrary S C E)
    (steps : List ((CAirspaceMonitor S C × Listener) × MonitorEnv S × MonitorAction S))
    (l : Listener) : Prop :=
  ∀ k, ∀ t ∈ l.sent k, ∃ step ∈ steps, MayMatch lib step k ∧ step.2.1.now = t

/-- Where inputs come in time, nobody is said to be ready again too early. -/
theorem promptStep_of_askedInTime
    {steps : List ((CAirspaceMonitor S C × Listener) × MonitorEnv S × MonitorAction S)}
    {s : CAirspaceMonitor S C × Listener} {input : MonitorEnv S × MonitorAction S}
    (hmatches : MatchesPromptly lib s input) (htold : ToldWhenAsked lib steps s.2)
    (hasked : AskedInTime lib (steps ++ [(s, input)])) : PromptStep lib s input := by
  -- Whoever was told was asked then, and that is too long ago or too near by assumption.
  have hfresh : ∀ k, Asked lib s.1 k input.2 → Fresh s input.1.now k := by
    intro k hk hin hstale t ht
    rcases htold k t ht with ⟨step, hstep, hmay, rfl⟩
    have hpair := (List.pairwise_append.mp hasked).2.2 step hstep (s, input)
      (List.mem_singleton.mpr rfl)
    rcases hstale with ⟨readiness, hreadiness, hsent, hage⟩
    exact hpair k hmay ⟨hk, fun _ => ⟨readiness, hreadiness, hsent, hage⟩⟩ hin
      ⟨readiness, hreadiness, hsent⟩
  rcases input with ⟨env, action⟩
  rcases hmatches with ⟨hconnected, hmatches⟩
  refine ⟨hconnected, ?_⟩
  cases action with
  | onAircraftUpdateReceived situation => exact hmatches
  | onAircraftSimDataUpdateReceived situation parts currentOffsetMs aircraftIcao airlineIcao =>
    exact ⟨hmatches, hfresh _ rfl⟩
  | onIcaoCodesReceived callsign aircraftIcao airlineIcao livery => exact hfresh _ rfl
  | onCustomFSInnPacketReceived callsign airlineIcao aircraftIcao combinedType modelString =>
    exact hfresh _ rfl
  | timeout timer =>
    intro pending hpending
    have hshot := hmatches pending hpending
    have hasks : ∀ k, s.1.Asks k pending.shot → Fresh s env.now k := fun k hk =>
      hfresh k ⟨pending, hpending, hk⟩
    generalize pending.shot = shot at hshot hasks
    cases shot with
    | checkAgain callsign rf => exact hasks _ rfl
    | verifyReceivedIcaoData callsign addition => trivial
    | reInitialize aircraft => exact absurd rfl (hshot aircraft)
  | _ => trivial

theorem readyInv_start (lib : AirspaceLibrary S C E) :
    ReadyInv lib ({}, {}) where
  named := ⟨fun _ cs h => absurd h.symm (Option.some_ne_none cs),
    fun _ cs h => absurd h.symm (Option.some_ne_none cs)⟩
  marked _ h := absurd h Bool.false_ne_true
  apart _ _ := List.Pairwise.nil
  verified _ cs h := absurd h.symm (Option.some_ne_none cs)

/-- What a run keeps. -/
theorem readyInv_run (lib : AirspaceLibrary S C E)
    (history : List (MonitorEnv S × MonitorAction S))
    (hsteps : (observedMonitor lib).AllSteps (MatchesPromptly lib) ({}, {}) history)
    (hasked : AskedInTime lib ((observedMonitor lib).steps ({}, {}) history)) :
    let s := ((observedMonitor lib).run ({}, {}) history).1
    ReadyInv lib s ∧ ToldWhenAsked lib ((observedMonitor lib).steps ({}, {}) history) s.2 := by
  induction history using List.reverseRecOn with
  | nil => exact ⟨readyInv_start lib, fun _ t ht => absurd ht List.not_mem_nil⟩
  | append_singleton history input ih =>
    rcases ((observedMonitor lib).allSteps_append _ _ history _).mp hsteps with
      ⟨hbefore, hmatches, -⟩
    rw [Machine.steps_append] at hasked ⊢
    rcases ih hbefore (List.pairwise_append.mp hasked).1 with ⟨hinv, htold⟩
    have hstep := readyStep (promptStep_of_askedInTime hmatches htold hasked) hinv
    rw [Machine.run_append]
    refine ⟨hstep.readyInv, fun k t ht => ?_⟩
    rcases hstep.told k t ht with ht | ⟨rfl, hk, -, hstale⟩
    · rcases htold k t ht with ⟨step, hmem, hmay⟩
      exact ⟨step, List.mem_append_left _ hmem, hmay⟩
    · exact ⟨_, List.mem_append_right _ (List.mem_singleton.mpr rfl), ⟨hk, hstale⟩, rfl⟩

end CAirspaceMonitor

open CAirspaceMonitor

variable [TimestampWithOffsetBased S] [TimestampWithOffsetBased C]

/-- As long as whoever comes comes anew, and inputs about an aircraft that was said to be
    ready long ago come in time, only aircraft in range are said to be ready, the times at
    which they are are apart, and it has been said of each of them when the timers that
    verify it have fired. -/
theorem ready_for_matching (lib : AirspaceLibrary S C E)
    (history : List (MonitorEnv S × MonitorAction S))
    (hsteps : (observedMonitor lib).AllSteps (MatchesPromptly lib) ({}, {}) history)
    (hasked : AskedInTime lib ((observedMonitor lib).steps ({}, {}) history)) :
    let s := ((observedMonitor lib).run ({}, {}) history).1
    (∀ before input after, history = before ++ input :: after →
      let r := ((observedMonitor lib).run ({}, {}) before).1.1.step lib input.1 input.2
      ∀ k ∈ matched r.2, r.1.provider.aircraftInRange.contains k = true) ∧
    (∀ k, s.1.provider.aircraftInRange.contains k = true →
      (s.2.sent k).Pairwise Apart) ∧
    ∀ k aircraft, s.1.provider.aircraftInRange k = some aircraft →
      ∃ addition, s.1.addition k = some addition ∧
        (¬s.1.Awaited aircraft.callsign addition → s.2.sent k ≠ []) := by
  intro s
  have hinv : ReadyInv lib s := (readyInv_run lib history hsteps hasked).1
  refine ⟨?_, fun k hin => ?_, fun k aircraft hin => ?_⟩
  · -- What holds before the step is enough to know whom it names.
    rintro before input after rfl r k hk
    rw [List.append_cons] at hsteps hasked
    rw [Machine.steps_append] at hasked
    have hsteps := (((observedMonitor lib).allSteps_append _ _ _ after).mp hsteps).1
    have hasked := (List.pairwise_append.mp hasked).1
    rcases ((observedMonitor lib).allSteps_append _ _ before _).mp hsteps with
      ⟨hbefore, hmatches, -⟩
    rw [Machine.steps_append] at hasked
    rcases readyInv_run lib before hbefore (List.pairwise_append.mp hasked).1 with ⟨hinv, htold⟩
    rw [← RemoteAircraftProvider.isSome_callsigns]
    exact (readyStep (promptStep_of_askedInTime hmatches htold hasked) hinv).inRange k hk
  · rw [← RemoteAircraftProvider.isSome_callsigns] at hin
    exact hinv.apart k hin
  · have hcallsign : s.1.provider.callsigns k = some aircraft.callsign := by
      rw [RemoteAircraftProvider.callsigns, hin]
      rfl
    rcases hinv.verified k aircraft.callsign hcallsign with ⟨n, haddition, hverified⟩
    refine ⟨n, haddition, fun hfired => ?_⟩
    exact hverified.resolve_right hfired

/-- The codes of the sample aircraft, by which its model is found. -/
def sampleCodes (now : ℕ) : MonitorEnv SampleSituation × MonitorAction SampleSituation :=
  ({ sampleMonitorEnv now with
      reverseLookup := fun _ _ _ _ _ model => { model with modelString := "B738" } },
    .onIcaoCodesReceived sampleCallsign "B738" [] [])

/-- The first timer fires. -/
def sampleTimeout (now : ℕ) : MonitorEnv SampleSituation × MonitorAction SampleSituation :=
  (sampleMonitorEnv now, .timeout 0)

/-- An aircraft is ready when its codes arrive, and again when they arrive after the
    threshold, and the timer that verifies it does not change that. -/
theorem ready_for_matching_sample :
    let s := ((observedMonitor sampleAirspace).run ({}, {})
      [samplePosition 0 100, samplePosition 500 101, sampleCodes 1000, sampleCodes 21000,
        sampleTimeout 24000]).1
    (s.2.sent sampleCallsign.callsign).Pairwise Apart ∧ s.2.sent sampleCallsign.callsign ≠ [] ∧
      s.2.sent sampleCallsign.callsign = [21000, 1000] := by
  intro s
  have hanew : ComesAnew sampleAirspace (sampleMonitorEnv 0) {} ⟨sampleCallsign, 100, 0⟩ := by
    intro _
    rw [marked_iff_getD]
    decide +kernel
  have hverifies {before : CAirspaceMonitor SampleSituation SampleSituation × Listener}
      (h : (before.1.timers[0]?).all (fun pending => pending.shot.verifies) = true) :
      ∀ pending, before.1.timers[0]? = some pending → pending.shot.verifies = true := by
    intro pending hpending
    rw [hpending] at h
    exact h
  have hmatches {before : CAirspaceMonitor SampleSituation SampleSituation × Listener}
      (h : (before.1.timers[0]?).all (fun pending => pending.shot.verifies) = true) :
      MatchesPromptly sampleAirspace before (sampleTimeout 24000) :=
    ⟨rfl, fun pending hpending =>
      (asks_of_verifies (m := before.1) (k := []) (hverifies h pending hpending)).1⟩
  have hunmarked {before : CAirspaceMonitor SampleSituation SampleSituation × Listener}
      {k : QString} (h : (before.1.timers[0]?).all (fun pending => pending.shot.verifies) = true)
      (hmay : MayMatch sampleAirspace (before, sampleTimeout 24000) k) : ¬before.1.Marked k := by
    rcases hmay.1 with ⟨pending, hpending, hasks⟩
    exact (asks_of_verifies (hverifies h pending hpending)).2 hasks
  have hrun := ready_for_matching sampleAirspace
    [samplePosition 0 100, samplePosition 500 101, sampleCodes 1000, sampleCodes 21000,
      sampleTimeout 24000]
    ⟨⟨rfl, hanew⟩, ⟨rfl, fun h => absurd h.2.1 (by decide +kernel)⟩, ⟨rfl, trivial⟩,
      ⟨rfl, trivial⟩, hmatches (by decide +kernel), trivial⟩
    -- The codes come at the threshold, and the timer does not ask about the marked aircraft.
    (.cons (fun _ _ _ h => h.1.elim) (.cons (fun _ _ _ h => h.1.elim)
      (.cons (List.forall_mem_cons.mpr ⟨fun _ _ _ _ _ => by decide +kernel,
        List.forall_mem_singleton.mpr fun _ _ hmay _ hmarked =>
          absurd hmarked (hunmarked (by decide +kernel) hmay)⟩)
      (.cons (List.forall_mem_singleton.mpr fun _ _ hmay _ hmarked =>
          absurd hmarked (hunmarked (by decide +kernel) hmay))
      (.cons (fun _ h => absurd h List.not_mem_nil) .nil)))))
  have hin : (s.1.provider.aircraftInRange sampleCallsign.callsign).isSome = true := by
    decide +kernel
  have hfired : s.1.timers.isEmpty = true := by decide +kernel
  rcases Option.isSome_iff_exists.mp hin with ⟨aircraft, haircraft⟩
  rcases hrun.2.2 _ aircraft haircraft with ⟨_, -, hsent⟩
  refine ⟨hrun.2.1 _ hin, hsent ?_, by decide +kernel⟩
  rintro ⟨pending, hpending, -⟩
  rw [List.isEmpty_iff.mp hfired] at hpending
  exact List.not_mem_nil hpending

/-- An aircraft that was said to be ready is so again after 20 seconds, and again a millisecond
    later. An aircraft that leaves by distance and comes back is not said to be ready when
    all its timers have fired. -/
theorem matching_repeated_and_missed :
    let repeated := ((observedMonitor sampleAirspace).run ({}, {})
      [samplePosition 0 100, samplePosition 500 101, sampleCodes 1000, sampleCodes 21000,
        sampleCodes 21001]).1
    let missed := ((observedMonitor sampleAirspace).run ({}, {})
      [samplePosition 0 100, samplePosition 500 101, sampleCodes 1000, samplePosition 5000 139,
        samplePosition 10000 100, sampleTimeout 24000, sampleTimeout 34000]).1
    repeated.2.sent sampleCallsign.callsign = [21001, 21000, 1000] ∧
      missed.1.provider.aircraftInRange.contains sampleCallsign.callsign = true ∧
      missed.1.timers.isEmpty = true ∧ missed.2.sent sampleCallsign.callsign = [] := by
  decide +kernel

end NeoSwift.Core
