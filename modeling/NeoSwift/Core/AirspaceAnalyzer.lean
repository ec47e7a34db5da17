import NeoSwift.Fsd.Client.State
import NeoSwift.Lib.AssocMap
import NeoSwift.Lib.Machine

/-!
# The Watchdog of the Airspace

`CAirspaceAnalyzer`, as far as it watches over callsigns: whoever was not heard of
for a while is reported as timed out. Aircraft and stations have a map of time
stamps each, which positions write, removals clear and the periodic check reads.
While the watchdog is disabled the check fakes time stamps instead of reporting.

The check may come at any time and the clock may show anything. Times are in
milliseconds. Snapshots of the airspace are left out.

## Main definitions

* `CAirspaceAnalyzer`: The state of the watchdog.
* `checkAircraft`, `checkAtc`: The two loops of the check.
* `watchdogCheckTimeouts`: The check.
* `airspaceAnalyzer`: The watchdog as a machine.
* `lastTouch`: When a callsign that is still watched was last heard of.
* `disabledChecks`: When checks ran since then while the watchdog was disabled.
* `ChecksSoundly`: What a check is to do.
* `FakesSoundly`, `HeardInTime`: The conditions under which it does.

## Theorems

* `checkAircraft_enabled`, `checkAircraft_disabled`: What the loop does.
* `onTimeout_spec`: What a check does, as far as it fakes soundly.
* `watched_step`: Time stamps are never older than the last touch.
* `graced_run`: Nor older than what the last disabled check faked.
* `checks_soundly`: Runs in which checks fake soundly check soundly.
* `station_times_out_as_aircraft`: Two that do not.
-/

namespace NeoSwift.Core

open Aviation Fsd

/-- Time stamps by callsign. -/
abbrev CallsignTimestampSet := AssocMap QString ℤ

/-- What the watchdog keeps. The worker is enabled until it quits. -/
structure CAirspaceAnalyzer where
  aircraftCallsignTimestamps : CallsignTimestampSet := ∅
  atcCallsignTimestamps : CallsignTimestampSet := ∅
  timeoutAircraft : ℤ := 15 * 1000
  timeoutAtc : ℤ := 50 * 1000
  lastWatchdogCallMsSinceEpoch : ℤ
  doNotRunAgainBefore : ℤ := -1
  enabledWatchdog : Bool := true
  isEnabled : Bool := true

/-- What the watchdog reports. -/
inductive AnalyzerSignal where
  | timeoutAircraft (callsign : QString)
  | timeoutAtc (callsign : QString)
  deriving DecidableEq

/-- Everything that writes the time stamps. Situations and stations come as their
    callsigns, and the clock is read where it matters. -/
inductive AnalyzerAction where
  | onNetworkPositionUpdate (callsign : Callsign) (now : ℤ)
  | watchdogTouchAircraftCallsign (callsign : Callsign) (now : ℤ)
  | watchdogTouchAtcCallsign (callsign : Callsign) (now : ℤ)
  | watchdogRemoveAircraftCallsign (callsign : Callsign)
  | onAtcStationDisconnected (callsign : Callsign)
  | onConnectionStatusChanged (oldStatus newStatus : ConnectionStatus)
  | setEnabledWatchdog (enabled : Bool)
  | setEnabled (enabled : Bool)
  | clear
  | onTimeout (now : ℤ)

/-- One and a half intervals. -/
def callThresholdMs : ℤ := 11250

/-- The loop over the aircraft: the time stamps that are left, and who timed out. -/
def checkAircraft (enabled : Bool) (timeoutAircraftEpochMs : ℤ) :
    List QString → CallsignTimestampSet → CallsignTimestampSet × List AnalyzerSignal
  | [], timestamps => (timestamps, [])
  | callsign :: callsigns, timestamps =>
    -- The fake value is there so that the watchdog can be enabled again.
    let faked :=
      if enabled then timestamps else timestamps.insert callsign (timeoutAircraftEpochMs + 1000)
    let tsv := (faked.lookup callsign).getD 0
    if timeoutAircraftEpochMs < tsv then
      checkAircraft enabled timeoutAircraftEpochMs callsigns faked
    else
      let rest := checkAircraft enabled timeoutAircraftEpochMs callsigns (faked.erase callsign)
      (rest.1, .timeoutAircraft callsign :: rest.2)

/-- The loop over the stations, on the time stamps of the aircraft and on theirs. -/
def checkAtc (enabled : Bool) (timeoutAtcEpochMs : ℤ) :
    List QString → CallsignTimestampSet × CallsignTimestampSet →
      (CallsignTimestampSet × CallsignTimestampSet) × List AnalyzerSignal
  | [], timestamps => (timestamps, [])
  | callsign :: callsigns, (aircraft, atc) =>
    -- The fake value goes into the map of the aircraft.
    let faked := if enabled then aircraft else aircraft.insert callsign (timeoutAtcEpochMs + 1000)
    let tsv := (atc.lookup callsign).getD 0
    if timeoutAtcEpochMs < tsv then checkAtc enabled timeoutAtcEpochMs callsigns (faked, atc)
    else
      let rest := checkAtc enabled timeoutAtcEpochMs callsigns (faked, atc.erase callsign)
      (rest.1, .timeoutAtc callsign :: rest.2)

namespace CAirspaceAnalyzer

/-- The constructor. -/
def created (now : ℤ) : CAirspaceAnalyzer where
  lastWatchdogCallMsSinceEpoch := now

variable (a : CAirspaceAnalyzer)

/-- The aircraft was heard of now. -/
def watchdogTouchAircraftCallsign (callsign : Callsign) (now : ℤ) : CAirspaceAnalyzer :=
  { a with
    aircraftCallsignTimestamps := a.aircraftCallsignTimestamps.insert callsign.callsign now }

/-- The station was heard of now. -/
def watchdogTouchAtcCallsign (callsign : Callsign) (now : ℤ) : CAirspaceAnalyzer :=
  { a with atcCallsignTimestamps := a.atcCallsignTimestamps.insert callsign.callsign now }

/-- The aircraft is not watched any more. -/
def watchdogRemoveAircraftCallsign (callsign : Callsign) : CAirspaceAnalyzer :=
  { a with aircraftCallsignTimestamps := a.aircraftCallsignTimestamps.erase callsign.callsign }

/-- The station is not watched any more. -/
def watchdogRemoveAtcCallsign (callsign : Callsign) : CAirspaceAnalyzer :=
  { a with atcCallsignTimestamps := a.atcCallsignTimestamps.erase callsign.callsign }

def clear : CAirspaceAnalyzer :=
  { a with aircraftCallsignTimestamps := ∅, atcCallsignTimestamps := ∅ }

/-- The timer that is started and stopped is left to the runs. -/
def onConnectionStatusChanged (newStatus : ConnectionStatus) : CAirspaceAnalyzer :=
  if newStatus = .disconnected then a.clear else a

/-- The check. It does not run for some time after it was not called for long, which
    is a trick to not remove everything while debugging. -/
def watchdogCheckTimeouts (currentTimeMsEpoch : ℤ) :
    CAirspaceAnalyzer × List AnalyzerSignal :=
  let callDiffMs := currentTimeMsEpoch - a.lastWatchdogCallMsSinceEpoch
  let called := { a with lastWatchdogCallMsSinceEpoch := currentTimeMsEpoch }
  if callThresholdMs < callDiffMs then
    ({ called with doNotRunAgainBefore := currentTimeMsEpoch + 2 * callThresholdMs }, [])
  else if currentTimeMsEpoch < called.doNotRunAgainBefore then (called, [])
  else
    let aircraft := checkAircraft a.enabledWatchdog (currentTimeMsEpoch - a.timeoutAircraft)
      a.aircraftCallsignTimestamps.keys a.aircraftCallsignTimestamps
    let atc := checkAtc a.enabledWatchdog (currentTimeMsEpoch - a.timeoutAtc)
      a.atcCallsignTimestamps.keys (aircraft.1, a.atcCallsignTimestamps)
    ({ called with
        doNotRunAgainBefore := -1
        aircraftCallsignTimestamps := atc.1.1
        atcCallsignTimestamps := atc.1.2 },
      aircraft.2 ++ atc.2)

/-- A check, if the analyzer is enabled. -/
def onTimeout (now : ℤ) : CAirspaceAnalyzer × List AnalyzerSignal :=
  if a.isEnabled then a.watchdogCheckTimeouts now else (a, [])

end CAirspaceAnalyzer

/-- The watchdog as a machine. -/
def airspaceAnalyzer : Machine CAirspaceAnalyzer AnalyzerAction AnalyzerSignal where
  step a action :=
    match action with
    | .onNetworkPositionUpdate callsign now => (a.watchdogTouchAircraftCallsign callsign now, [])
    | .watchdogTouchAircraftCallsign callsign now =>
      (a.watchdogTouchAircraftCallsign callsign now, [])
    | .watchdogTouchAtcCallsign callsign now => (a.watchdogTouchAtcCallsign callsign now, [])
    | .watchdogRemoveAircraftCallsign callsign => (a.watchdogRemoveAircraftCallsign callsign, [])
    | .onAtcStationDisconnected callsign => (a.watchdogRemoveAtcCallsign callsign, [])
    | .onConnectionStatusChanged _ newStatus => (a.onConnectionStatusChanged newStatus, [])
    | .setEnabledWatchdog enabled => ({ a with enabledWatchdog := enabled }, [])
    | .setEnabled enabled => ({ a with isEnabled := enabled }, [])
    | .clear => (a.clear, [])
    | .onTimeout now => a.onTimeout now

/-! ## What a check is to do -/

/-- What a callsign is watched as. -/
inductive Watched where
  | aircraft | atc
  deriving DecidableEq

namespace Watched

def signal : Watched → QString → AnalyzerSignal
  | .aircraft => .timeoutAircraft
  | .atc => .timeoutAtc

/-- When each callsign of a kind was heard of. -/
def timestamps (a : CAirspaceAnalyzer) : Watched → CallsignTimestampSet
  | .aircraft => a.aircraftCallsignTimestamps
  | .atc => a.atcCallsignTimestamps

def timeout (a : CAirspaceAnalyzer) : Watched → ℤ
  | .aircraft => a.timeoutAircraft
  | .atc => a.timeoutAtc

/-- What an action does to the watch over a callsign: it is heard of at some time,
    it is removed, or nothing changes. -/
def heard (kind : Watched) (callsign : QString) (last : Option ℤ) : AnalyzerAction → Option ℤ
  | .onNetworkPositionUpdate cs now | .watchdogTouchAircraftCallsign cs now =>
    if kind = .aircraft ∧ callsign = cs.callsign then some now else last
  | .watchdogTouchAtcCallsign cs now =>
    if kind = .atc ∧ callsign = cs.callsign then some now else last
  | .watchdogRemoveAircraftCallsign cs =>
    if kind = .aircraft ∧ callsign = cs.callsign then none else last
  | .onAtcStationDisconnected cs =>
    if kind = .atc ∧ callsign = cs.callsign then none else last
  | .onConnectionStatusChanged _ newStatus => if newStatus = .disconnected then none else last
  | .clear => none
  | .setEnabledWatchdog _ | .setEnabled _ | .onTimeout _ => last

end Watched

/-- When the callsign was last heard of since it was removed or timed out, if it was. -/
def lastTouch (kind : Watched) (callsign : QString)
    (trace : List (AnalyzerAction × List AnalyzerSignal)) : Option ℤ :=
  trace.foldl (fun last event =>
    if kind.signal callsign ∈ event.2 then none else kind.heard callsign last event.1) none

/-- The check gets past its guards. -/
def RunsCheck (a : CAirspaceAnalyzer) (now : ℤ) : Prop :=
  a.isEnabled = true ∧ now - a.lastWatchdogCallMsSinceEpoch ≤ callThresholdMs ∧
    a.doNotRunAgainBefore ≤ now

instance decidableRunsCheck (a : CAirspaceAnalyzer) (now : ℤ) : Decidable (RunsCheck a now) :=
  inferInstanceAs (Decidable (_ ∧ _))

/-- When checks ran while the watchdog was disabled since the callsign was last heard
    of, the last one first. -/
def disabledChecks (kind : Watched) (callsign : QString)
    (steps : List (CAirspaceAnalyzer × AnalyzerAction)) : List ℤ :=
  steps.foldl (fun checks step =>
    match step.2 with
    | .onTimeout now =>
      if RunsCheck step.1 now ∧ step.1.enabledWatchdog = false then now :: checks else checks
    | action => if kind.heard callsign none action = none then checks else []) []

/-- What a check is to do after what happened before. -/
structure ChecksSoundly (created : ℤ) (before : List AnalyzerAction) (now : ℤ) : Prop where
  /-- Who is reported was heard of, but not for the time-out. -/
  justified : ∀ kind callsign,
    let a := (airspaceAnalyzer.run (.created created) before).1
    Watched.signal kind callsign ∈ (a.onTimeout now).2 →
      a.enabledWatchdog = true ∧
        ∃ t, lastTouch kind callsign (airspaceAnalyzer.trace (.created created) before) = some t ∧
          t ≤ now - kind.timeout a
  /-- Nobody is reported twice, and who is reported is not watched any longer. -/
  once :
    let a := (airspaceAnalyzer.run (.created created) before).1
    (a.onTimeout now).2.Nodup ∧ ∀ kind callsign,
      Watched.signal kind callsign ∈ (a.onTimeout now).2 →
        (kind.timestamps (a.onTimeout now).1).lookup callsign = none
  /-- After a check while disabled, nobody is reported before the time-out. -/
  grace : ∀ kind callsign,
    let a := (airspaceAnalyzer.run (.created created) before).1
    ∀ check ∈ disabledChecks kind callsign (airspaceAnalyzer.steps (.created created) before),
      now < check + kind.timeout a → Watched.signal kind callsign ∉ (a.onTimeout now).2

/-- A check while the watchdog is disabled fakes soundly, if no station is watched
    and no aircraft was heard of so lately that the fake value is older. -/
def FakesSoundly (a : CAirspaceAnalyzer) : AnalyzerAction → Prop
  | .onTimeout now => RunsCheck a now → a.enabledWatchdog = false →
      a.atcCallsignTimestamps = ∅ ∧ ∀ callsign t,
        a.aircraftCallsignTimestamps.lookup callsign = some t → t ≤ now - a.timeoutAircraft + 1000
  | _ => True

/-- When a check runs while the watchdog is enabled: who is watched and was not heard of
    since a check while disabled that is not the time-out ago, was not heard of since one
    that is less than a second ago. -/
def HeardInTime (steps : List (CAirspaceAnalyzer × AnalyzerAction)) (a : CAirspaceAnalyzer)
    (now : ℤ) : Prop :=
  RunsCheck a now → a.enabledWatchdog = true → ∀ (kind : Watched) (callsign : QString),
    (kind.timestamps a).lookup callsign ≠ none →
      (∃ check ∈ disabledChecks kind callsign steps, now < check + kind.timeout a) →
        ∃ check ∈ disabledChecks kind callsign steps, now < check + 1000

/-! ## The loops -/

/-- While the watchdog is enabled, who was last heard of no later than the time-out is
    reported and removed, and everybody else stays. -/
theorem checkAircraft_enabled (epoch : ℤ) (callsigns : List QString) (hnodup : callsigns.Nodup)
    (timestamps : CallsignTimestampSet) :
    (checkAircraft true epoch callsigns timestamps).2
        = (callsigns.filter (fun cs => (timestamps.lookup cs).getD 0 ≤ epoch)).map
            AnalyzerSignal.timeoutAircraft ∧
      ∀ cs, (checkAircraft true epoch callsigns timestamps).1.lookup cs
        = if cs ∈ callsigns ∧ (timestamps.lookup cs).getD 0 ≤ epoch then none
          else timestamps.lookup cs := by
  induction callsigns generalizing timestamps with
  | nil => simp [checkAircraft]
  | cons callsign callsigns ih =>
      rcases List.nodup_cons.mp hnodup with ⟨hnot, hrest⟩
      by_cases hlate : epoch < (timestamps.lookup callsign).getD 0
      · -- It stays.
        rcases ih hrest timestamps with ⟨hsignals, hlookup⟩
        have hle : ¬(timestamps.lookup callsign).getD 0 ≤ epoch := not_le.mpr hlate
        have hloop : checkAircraft true epoch (callsign :: callsigns) timestamps
            = checkAircraft true epoch callsigns timestamps := by
          simp [checkAircraft, if_pos hlate]
        rw [hloop]
        refine ⟨?_, fun cs => ?_⟩
        · rw [hsignals, List.filter_cons_of_neg (by simpa using hlate)]
        · rw [hlookup cs]
          by_cases hcs : cs = callsign
          · subst hcs
            rw [if_neg (fun h => hnot h.1), if_neg (fun h => hle h.2)]
          · simp [hcs]
      · -- It times out.
        rcases ih hrest (timestamps.erase callsign) with ⟨hsignals, hlookup⟩
        have hle : (timestamps.lookup callsign).getD 0 ≤ epoch := not_lt.mp hlate
        have hloop : checkAircraft true epoch (callsign :: callsigns) timestamps
            = ((checkAircraft true epoch callsigns (timestamps.erase callsign)).1,
                .timeoutAircraft callsign ::
                  (checkAircraft true epoch callsigns (timestamps.erase callsign)).2) := by
          simp [checkAircraft, if_neg hlate]
        -- The entry that is erased is not asked for again, as no callsign comes twice.
        have hother : ∀ cs, cs ∈ callsigns →
            (timestamps.erase callsign).lookup cs = timestamps.lookup cs := by
          intro cs hcs
          exact AList.lookup_erase_ne (fun heq => hnot (heq ▸ hcs))
        rw [hloop]
        refine ⟨?_, fun cs => ?_⟩
        · rw [List.filter_cons_of_pos (by simpa using hle), hsignals]
          refine congrArg _ (congrArg _ (List.filter_congr (fun cs hcs => ?_)))
          rw [hother cs hcs]
        · rw [hlookup cs]
          by_cases hcs : cs = callsign
          · subst hcs
            rw [AList.lookup_erase, ite_self, if_pos ⟨List.mem_cons_self .., hle⟩]
          · simp [hcs]

/-- While the watchdog is disabled, everybody gets the fake value. -/
theorem checkAircraft_disabled (epoch : ℤ) (callsigns : List QString)
    (timestamps : CallsignTimestampSet) :
    (checkAircraft false epoch callsigns timestamps).2 = [] ∧
      ∀ cs, (checkAircraft false epoch callsigns timestamps).1.lookup cs
        = if cs ∈ callsigns then some (epoch + 1000) else timestamps.lookup cs := by
  induction callsigns generalizing timestamps with
  | nil => simp [checkAircraft]
  | cons callsign callsigns ih =>
      rcases ih (timestamps.insert callsign (epoch + 1000)) with ⟨hsignals, hlookup⟩
      have hloop : checkAircraft false epoch (callsign :: callsigns) timestamps
          = checkAircraft false epoch callsigns (timestamps.insert callsign (epoch + 1000)) := by
        simp only [checkAircraft, Bool.false_eq_true, if_false, AList.lookup_insert,
          Option.getD_some]
        rw [if_pos (by omega)]
      rw [hloop]
      refine ⟨hsignals, fun cs => ?_⟩
      rw [hlookup cs]
      by_cases hcs : cs = callsign
      · subst hcs
        rw [AList.lookup_insert, ite_self, if_pos (List.mem_cons_self ..)]
      · simp [hcs]

/-- While the watchdog is enabled, the loop over the stations is the other one on their
    time stamps. -/
theorem checkAtc_enabled (epoch : ℤ) (callsigns : List QString)
    (aircraft atc : CallsignTimestampSet) :
    (checkAtc true epoch callsigns (aircraft, atc)).1
        = (aircraft, (checkAircraft true epoch callsigns atc).1) ∧ ∃ out : List QString,
        (checkAircraft true epoch callsigns atc).2 = out.map AnalyzerSignal.timeoutAircraft ∧
        (checkAtc true epoch callsigns (aircraft, atc)).2 = out.map AnalyzerSignal.timeoutAtc := by
  induction callsigns generalizing atc with
  | nil => exact ⟨rfl, [], rfl, rfl⟩
  | cons callsign callsigns ih =>
      by_cases hlate : epoch < (atc.lookup callsign).getD 0
      · simp only [checkAtc, checkAircraft, if_true, if_pos hlate]
        exact ih atc
      · simp only [checkAtc, checkAircraft, if_true, if_neg hlate]
        rcases ih (atc.erase callsign) with ⟨hleft, out, haircraft, hatc⟩
        refine ⟨hleft, callsign :: out, ?_, ?_⟩
        · rw [haircraft, List.map_cons]
        · rw [hatc, List.map_cons]

/-! ## One check -/

/-- What a check that runs while the watchdog is enabled leaves of a map, and whom it
    reports. -/
structure Swept (epoch : ℤ) (signal : QString → AnalyzerSignal)
    (before after : CallsignTimestampSet) (signals : List AnalyzerSignal) : Prop where
  signals_eq : signals
    = (before.keys.filter (fun cs => (before.lookup cs).getD 0 ≤ epoch)).map signal
  lookup : ∀ cs, after.lookup cs
    = if (before.lookup cs).any (fun t => t ≤ epoch) then none else before.lookup cs

theorem swept_of_loop {epoch : ℤ} {signal : QString → AnalyzerSignal}
    {before after : CallsignTimestampSet} {signals : List AnalyzerSignal}
    (hsignals : signals
      = (before.keys.filter (fun cs => (before.lookup cs).getD 0 ≤ epoch)).map signal)
    (hlookup : ∀ cs, after.lookup cs
      = if cs ∈ before.keys ∧ (before.lookup cs).getD 0 ≤ epoch then none
        else before.lookup cs) :
    Swept epoch signal before after signals where
  signals_eq := hsignals
  lookup cs := by
    rw [hlookup cs]
    cases h : before.lookup cs with
    | none => simp
    | some t =>
        have hmem : cs ∈ before.keys := by
          rw [← AList.mem_keys, ← AList.lookup_isSome, h]
          rfl
        simp [hmem]

theorem Swept.mem_iff {epoch : ℤ} {signal : QString → AnalyzerSignal}
    {before after : CallsignTimestampSet} {signals : List AnalyzerSignal}
    (h : Swept epoch signal before after signals) (hinj : Function.Injective signal)
    (cs : QString) : signal cs ∈ signals ↔ ∃ t, before.lookup cs = some t ∧ t ≤ epoch := by
  rw [h.signals_eq, List.mem_map_of_injective hinj, List.mem_filter, ← AList.mem_keys,
    ← AList.lookup_isSome]
  cases before.lookup cs with
  | none => simp
  | some t => simp

theorem Watched.signal_injective (kind : Watched) : Function.Injective kind.signal := by
  intro cs cs' h
  cases kind with
  | aircraft => exact AnalyzerSignal.timeoutAircraft.inj h
  | atc => exact AnalyzerSignal.timeoutAtc.inj h

theorem checkAircraft_swept (epoch : ℤ) (timestamps : CallsignTimestampSet) :
    Swept epoch .timeoutAircraft timestamps (checkAircraft true epoch timestamps.keys timestamps).1
      (checkAircraft true epoch timestamps.keys timestamps).2 := by
  rcases checkAircraft_enabled epoch timestamps.keys timestamps.keys_nodup timestamps with
    ⟨hsignals, hlookup⟩
  exact swept_of_loop hsignals hlookup

theorem checkAtc_swept (epoch : ℤ) (aircraft timestamps : CallsignTimestampSet) :
    (checkAtc true epoch timestamps.keys (aircraft, timestamps)).1.1 = aircraft ∧
      Swept epoch .timeoutAtc timestamps
        (checkAtc true epoch timestamps.keys (aircraft, timestamps)).1.2
        (checkAtc true epoch timestamps.keys (aircraft, timestamps)).2 := by
  rcases checkAtc_enabled epoch timestamps.keys aircraft timestamps with
    ⟨hleft, out, haircraft, hatc⟩
  have hswept := checkAircraft_swept epoch timestamps
  have hout : out = timestamps.keys.filter (fun cs => (timestamps.lookup cs).getD 0 ≤ epoch) :=
    List.map_injective_iff.mpr Watched.aircraft.signal_injective
      (haircraft.symm.trans hswept.signals_eq)
  rw [hleft]
  exact ⟨rfl, by rw [hatc, hout], hswept.lookup⟩

variable {a : CAirspaceAnalyzer}

/-- A check that its guards stop. -/
theorem onTimeout_of_not_runsCheck {now : ℤ} (h : ¬RunsCheck a now) :
    (a.onTimeout now).2 = [] ∧ ∀ kind : Watched,
      kind.timestamps (a.onTimeout now).1 = kind.timestamps a := by
  unfold CAirspaceAnalyzer.onTimeout CAirspaceAnalyzer.watchdogCheckTimeouts
  by_cases henabled : a.isEnabled = true
  · dsimp only
    split_ifs with hdiff hbefore
    · exact ⟨rfl, fun kind => by cases kind <;> rfl⟩
    · exact ⟨rfl, fun kind => by cases kind <;> rfl⟩
    · exact absurd ⟨henabled, not_lt.mp hdiff, not_lt.mp hbefore⟩ h
  · rw [if_neg henabled]
    exact ⟨rfl, fun _ => rfl⟩

/-- A check that runs. -/
theorem onTimeout_of_runsCheck {now : ℤ} (h : RunsCheck a now) :
    let aircraft := checkAircraft a.enabledWatchdog (now - a.timeoutAircraft)
      a.aircraftCallsignTimestamps.keys a.aircraftCallsignTimestamps
    let atc := checkAtc a.enabledWatchdog (now - a.timeoutAtc)
      a.atcCallsignTimestamps.keys (aircraft.1, a.atcCallsignTimestamps)
    (a.onTimeout now).2 = aircraft.2 ++ atc.2 ∧
      Watched.aircraft.timestamps (a.onTimeout now).1 = atc.1.1 ∧
      Watched.atc.timestamps (a.onTimeout now).1 = atc.1.2 := by
  rcases h with ⟨henabled, hdiff, hbefore⟩
  unfold CAirspaceAnalyzer.onTimeout CAirspaceAnalyzer.watchdogCheckTimeouts
  rw [if_pos henabled]
  rw [if_neg (not_lt.mpr hdiff), if_neg (not_lt.mpr hbefore)]
  exact ⟨rfl, rfl, rfl⟩

/-- What a check does with the time stamp of a callsign. -/
structure CheckSpec (a : CAirspaceAnalyzer) (now : ℤ) : Prop where
  reported_iff : ∀ kind callsign, Watched.signal kind callsign ∈ (a.onTimeout now).2 ↔
    RunsCheck a now ∧ a.enabledWatchdog = true ∧
      ∃ t, (kind.timestamps a).lookup callsign = some t ∧ t ≤ now - kind.timeout a
  nodup : (a.onTimeout now).2.Nodup
  removed : ∀ kind callsign, Watched.signal kind callsign ∈ (a.onTimeout now).2 →
    (kind.timestamps (a.onTimeout now).1).lookup callsign = none
  kept : ∀ (kind : Watched) (callsign : QString),
    Watched.signal kind callsign ∉ (a.onTimeout now).2 →
    Option.Rel (fun t t' => t ≤ t') ((kind.timestamps a).lookup callsign)
      ((kind.timestamps (a.onTimeout now).1).lookup callsign)
  faked : RunsCheck a now → a.enabledWatchdog = false → ∀ (kind : Watched) (callsign : QString),
    (kind.timestamps a).lookup callsign ≠ none →
      (kind.timestamps (a.onTimeout now).1).lookup callsign = some (now - kind.timeout a + 1000)

theorem rel_le_refl (t : Option ℤ) : Option.Rel (fun t t' => t ≤ t') t t := by
  cases t with
  | none => exact .none
  | some t => exact .some le_rfl

theorem exists_of_rel_some {last : Option ℤ} {stamp : ℤ}
    (h : Option.Rel (fun t t' => t ≤ t') last (some stamp)) :
    ∃ touch, last = some touch ∧ touch ≤ stamp := by
  cases h with
  | some hle => exact ⟨_, rfl, hle⟩

theorem onTimeout_spec_stopped {now : ℤ} (h : ¬RunsCheck a now) : CheckSpec a now := by
  rcases onTimeout_of_not_runsCheck h with ⟨hnothing, hsame⟩
  constructor
  case reported_iff =>
    intro kind callsign
    rw [hnothing]
    simp [h]
  case nodup => rw [hnothing]; exact List.nodup_nil
  case removed =>
    intro kind callsign hmem
    rw [hnothing] at hmem
    cases hmem
  case kept =>
    intro kind callsign _
    rw [hsame]
    exact rel_le_refl _
  case faked => exact fun hruns => absurd hruns h

theorem onTimeout_spec_enabled {now : ℤ} (h : RunsCheck a now)
    (henabled : a.enabledWatchdog = true) : CheckSpec a now := by
  rcases onTimeout_of_runsCheck h with ⟨hsignals, haircraft, hatc⟩
  rw [henabled] at hsignals haircraft hatc
  have hsweptAircraft := checkAircraft_swept (now - a.timeoutAircraft) a.aircraftCallsignTimestamps
  rcases checkAtc_swept (now - a.timeoutAtc)
    (checkAircraft true (now - a.timeoutAircraft) a.aircraftCallsignTimestamps.keys
      a.aircraftCallsignTimestamps).1 a.atcCallsignTimestamps with ⟨hleft, hsweptAtc⟩
  rw [hleft] at haircraft
  -- The reports of the two kinds do not get in each other's way.
  have hmem : ∀ kind callsign, Watched.signal kind callsign ∈ (a.onTimeout now).2 ↔
      ∃ t, (kind.timestamps a).lookup callsign = some t ∧ t ≤ now - kind.timeout a := by
    intro kind callsign
    rw [hsignals, List.mem_append]
    cases kind with
    | aircraft =>
        have hother : Watched.aircraft.signal callsign ∉ (checkAtc true (now - a.timeoutAtc)
            a.atcCallsignTimestamps.keys ((checkAircraft true (now - a.timeoutAircraft)
              a.aircraftCallsignTimestamps.keys a.aircraftCallsignTimestamps).1,
              a.atcCallsignTimestamps)).2 := by
          rw [hsweptAtc.signals_eq]
          simp [Watched.signal]
        rw [or_iff_left hother]
        exact hsweptAircraft.mem_iff Watched.aircraft.signal_injective callsign
    | atc =>
        have hother : Watched.atc.signal callsign ∉ (checkAircraft true (now - a.timeoutAircraft)
            a.aircraftCallsignTimestamps.keys a.aircraftCallsignTimestamps).2 := by
          rw [hsweptAircraft.signals_eq]
          simp [Watched.signal]
        rw [or_iff_right hother]
        exact hsweptAtc.mem_iff Watched.atc.signal_injective callsign
  have hlookup : ∀ kind callsign, (Watched.timestamps (a.onTimeout now).1 kind).lookup callsign
      = if ((kind.timestamps a).lookup callsign).any (fun t => t ≤ now - kind.timeout a) then none
        else (kind.timestamps a).lookup callsign := by
    intro kind callsign
    cases kind with
    | aircraft => rw [haircraft]; exact hsweptAircraft.lookup callsign
    | atc => rw [hatc]; exact hsweptAtc.lookup callsign
  have hany : ∀ kind callsign, ((Watched.timestamps a kind).lookup callsign).any
      (fun t => t ≤ now - kind.timeout a) = true ↔
        Watched.signal kind callsign ∈ (a.onTimeout now).2 := by
    intro kind callsign
    rw [hmem]
    cases (kind.timestamps a).lookup callsign with
    | none => simp
    | some t => simp
  constructor
  case reported_iff =>
    intro kind callsign
    rw [hmem]
    simp [h, henabled]
  case nodup =>
    rw [hsignals, List.nodup_append', hsweptAircraft.signals_eq, hsweptAtc.signals_eq]
    refine ⟨?_, ?_, ?_⟩
    · exact ((AList.keys_nodup _).filter _).map Watched.aircraft.signal_injective
    · exact ((AList.keys_nodup _).filter _).map Watched.atc.signal_injective
    · intro signal hair hstation
      rcases List.mem_map.mp hair with ⟨cs, -, rfl⟩
      rcases List.mem_map.mp hstation with ⟨cs', -, heq⟩
      cases heq
  case removed =>
    intro kind callsign hreported
    rw [hlookup, if_pos ((hany kind callsign).mpr hreported)]
  case kept =>
    intro kind callsign hreported
    rw [hlookup, if_neg (mt (hany kind callsign).mp hreported)]
    exact rel_le_refl _
  case faked =>
    intro _ hdisabled
    rw [henabled] at hdisabled
    cases hdisabled

theorem onTimeout_spec_disabled {now : ℤ} (h : RunsCheck a now)
    (hdisabled : a.enabledWatchdog = false) (hfakes : FakesSoundly a (.onTimeout now)) :
    CheckSpec a now := by
  rcases hfakes h hdisabled with ⟨hnone, hlate⟩
  rcases onTimeout_of_runsCheck h with ⟨hsignals, haircraft, hatc⟩
  rw [hdisabled] at hsignals haircraft hatc
  rcases checkAircraft_disabled (now - a.timeoutAircraft) a.aircraftCallsignTimestamps.keys
    a.aircraftCallsignTimestamps with ⟨hnothing, hlookup⟩
  -- No station has a time stamp, so none times out.
  have hkeys : a.atcCallsignTimestamps.keys = [] := by rw [hnone]; rfl
  rw [hkeys] at hsignals haircraft hatc
  rw [hnothing] at hsignals
  have hout : (a.onTimeout now).2 = [] := hsignals
  have hstations : Watched.atc.timestamps (a.onTimeout now).1 = a.atcCallsignTimestamps := hatc
  -- Every aircraft gets a time stamp that is a second after the time-out.
  have hstamp : ∀ callsign t, a.aircraftCallsignTimestamps.lookup callsign = some t →
      (Watched.aircraft.timestamps (a.onTimeout now).1).lookup callsign
        = some (now - a.timeoutAircraft + 1000) := by
    intro callsign t ht
    have hmem : callsign ∈ a.aircraftCallsignTimestamps.keys := by
      rw [← AList.mem_keys, ← AList.lookup_isSome, ht]
      rfl
    rw [haircraft]
    exact (hlookup callsign).trans (if_pos hmem)
  constructor
  case reported_iff =>
    intro kind callsign
    rw [hout]
    simp [hdisabled]
  case nodup => rw [hout]; exact List.nodup_nil
  case removed =>
    intro kind callsign hmem
    rw [hout] at hmem
    cases hmem
  case kept =>
    intro kind callsign _
    cases kind with
    | aircraft =>
        cases ht : (Watched.aircraft.timestamps a).lookup callsign with
        | none =>
            -- Who is not watched stays so.
            have hnot : callsign ∉ a.aircraftCallsignTimestamps.keys := by
              rw [← AList.mem_keys, ← AList.lookup_eq_none]
              exact ht
            have hsame : (Watched.aircraft.timestamps (a.onTimeout now).1).lookup
              callsign = none := by
              rw [haircraft]
              exact (hlookup callsign).trans ((if_neg hnot).trans ht)
            rw [hsame]
            exact .none
        | some t => rw [hstamp callsign t ht]; exact .some (hlate callsign t ht)
    | atc => rw [hstations]; exact rel_le_refl _
  case faked =>
    intro _ _ kind callsign hwatched
    cases kind with
    | aircraft =>
        rcases Option.ne_none_iff_exists'.mp hwatched with ⟨t, ht⟩
        exact hstamp callsign t ht
    | atc =>
        have hempty : (Watched.atc.timestamps a).lookup callsign = none := by
          change a.atcCallsignTimestamps.lookup callsign = none
          rw [hnone, AList.lookup_empty]
        exact absurd hempty hwatched

/-- What a check does, if it fakes soundly. -/
theorem onTimeout_spec {now : ℤ} (hfakes : FakesSoundly a (.onTimeout now)) : CheckSpec a now := by
  by_cases hruns : RunsCheck a now
  · by_cases henabled : a.enabledWatchdog = true
    · exact onTimeout_spec_enabled hruns henabled
    · exact onTimeout_spec_disabled hruns (Bool.not_eq_true _ ▸ henabled) hfakes
  · exact onTimeout_spec_stopped hruns

/-! ## Runs -/

/-- Whoever is watched has a time stamp, which is not older than its last touch, and
    nobody else has one. -/
def TouchesCovered (trace : List (AnalyzerAction × List AnalyzerSignal))
    (a : CAirspaceAnalyzer) : Prop :=
  ∀ (kind : Watched) (callsign : QString), Option.Rel (fun t t' => t ≤ t')
    (lastTouch kind callsign trace)
    ((kind.timestamps a).lookup callsign)

theorem lastTouch_append (kind : Watched) (callsign : QString)
    (trace : List (AnalyzerAction × List AnalyzerSignal))
    (event : AnalyzerAction × List AnalyzerSignal) :
    lastTouch kind callsign (trace ++ [event])
      = if kind.signal callsign ∈ event.2 then none
        else kind.heard callsign (lastTouch kind callsign trace) event.1 := by
  rw [lastTouch, List.foldl_append]
  rfl

theorem rel_insert {last : Option ℤ} {timestamps : CallsignTimestampSet} {callsign key : QString}
    (now : ℤ) (h : Option.Rel (fun t t' => t ≤ t') last (timestamps.lookup callsign)) :
    Option.Rel (fun t t' => t ≤ t') (if callsign = key then some now else last)
      ((timestamps.insert key now).lookup callsign) := by
  by_cases hkey : callsign = key
  · rw [if_pos hkey, hkey, AList.lookup_insert]
    exact .some le_rfl
  · rw [if_neg hkey, AList.lookup_insert_ne hkey]
    exact h

theorem rel_erase {last : Option ℤ} {timestamps : CallsignTimestampSet} {callsign key : QString}
    (h : Option.Rel (fun t t' => t ≤ t') last (timestamps.lookup callsign)) :
    Option.Rel (fun t t' => t ≤ t') (if callsign = key then none else last)
      ((timestamps.erase key).lookup callsign) := by
  by_cases hkey : callsign = key
  · rw [if_pos hkey, hkey, AList.lookup_erase]
    exact .none
  · rw [if_neg hkey, AList.lookup_erase_ne hkey]
    exact h

/-- Time stamps are never older than the last touch. -/
theorem watched_step {trace : List (AnalyzerAction × List AnalyzerSignal)}
    (action : AnalyzerAction) (hfakes : FakesSoundly a action) (h : TouchesCovered trace a) :
    TouchesCovered (trace ++ [(action, (airspaceAnalyzer.step a action).2)])
      (airspaceAnalyzer.step a action).1 := by
  intro kind callsign
  rw [lastTouch_append]
  have hold := h kind callsign
  cases action with
  | onTimeout now =>
      have hspec := onTimeout_spec hfakes
      change Option.Rel _
        (if kind.signal callsign ∈ (a.onTimeout now).2 then none
          else lastTouch kind callsign trace)
        ((kind.timestamps (a.onTimeout now).1).lookup callsign)
      -- A reported callsign is removed, and so is its last touch.
      by_cases hreported : kind.signal callsign ∈ (a.onTimeout now).2
      · rw [if_pos hreported]
        rw [hspec.removed kind callsign hreported]
        exact .none
      · rw [if_neg hreported]
        -- For the others the time stamp only goes up.
        have hkept := hspec.kept kind callsign hreported
        revert hold hkept
        cases lastTouch kind callsign trace <;> cases (kind.timestamps a).lookup callsign <;>
          cases (kind.timestamps (a.onTimeout now).1).lookup callsign <;> intro hold hkept <;>
          cases hold <;> cases hkept
        · exact .none
        · exact .some (by omega)
  -- Every touch sets the time stamp of its own kind to now.
  | onNetworkPositionUpdate cs now =>
      cases kind with
      | aircraft =>
          simp only [Watched.heard, true_and]
          exact rel_insert now hold
      | atc => exact hold
  | watchdogTouchAircraftCallsign cs now =>
      cases kind with
      | aircraft =>
          simp only [Watched.heard, true_and]
          exact rel_insert now hold
      | atc => exact hold
  | watchdogTouchAtcCallsign cs now =>
      cases kind with
      | aircraft => exact hold
      | atc =>
          simp only [Watched.heard, true_and]
          exact rel_insert now hold
  -- What is removed has no touch any more.
  | watchdogRemoveAircraftCallsign cs =>
      cases kind with
      | aircraft =>
          simp only [Watched.heard, true_and]
          exact rel_erase hold
      | atc => exact hold
  | onAtcStationDisconnected cs =>
      cases kind with
      | aircraft => exact hold
      | atc =>
          simp only [Watched.heard, true_and]
          exact rel_erase hold
  | onConnectionStatusChanged oldStatus newStatus =>
      simp only [airspaceAnalyzer, List.not_mem_nil, if_false, Watched.heard,
        CAirspaceAnalyzer.onConnectionStatusChanged]
      split_ifs
      · cases kind <;> exact .none
      · exact hold
  | setEnabledWatchdog enabled => cases kind <;> exact hold
  | setEnabled enabled => cases kind <;> exact hold
  | clear => cases kind <;> exact .none

theorem touchesCovered_created (now : ℤ) : TouchesCovered [] (CAirspaceAnalyzer.created now) := by
  intro kind callsign
  cases kind <;> exact .none

theorem timeout_step (kind : Watched) (a : CAirspaceAnalyzer) (action : AnalyzerAction) :
    kind.timeout (airspaceAnalyzer.step a action).1 = kind.timeout a := by
  cases action with
  | onTimeout now =>
      simp only [airspaceAnalyzer, CAirspaceAnalyzer.onTimeout,
        CAirspaceAnalyzer.watchdogCheckTimeouts]
      split_ifs <;> cases kind <;> rfl
  | onConnectionStatusChanged oldStatus newStatus =>
      simp only [airspaceAnalyzer, CAirspaceAnalyzer.onConnectionStatusChanged]
      split_ifs <;> cases kind <;> rfl
  | _ => cases kind <;> rfl

/-- An action that is no check and does not let hear of a callsign gives it no new time
    stamp. -/
theorem lookup_of_not_heard {kind : Watched} {callsign : QString}
    {action : AnalyzerAction} (hcheck : ∀ now, action ≠ .onTimeout now)
    (hheard : kind.heard callsign none action = none) {stamp : ℤ}
    (h : (kind.timestamps (airspaceAnalyzer.step a action).1).lookup callsign = some stamp) :
    (kind.timestamps a).lookup callsign = some stamp := by
  have hinsert : ∀ (timestamps : CallsignTimestampSet) (key : QString) (now : ℤ),
      callsign ≠ key → (timestamps.insert key now).lookup callsign = some stamp →
        timestamps.lookup callsign = some stamp := fun timestamps key now hne h => by
    rwa [AList.lookup_insert_ne hne] at h
  have herase : ∀ (timestamps : CallsignTimestampSet) (key : QString),
      (timestamps.erase key).lookup callsign = some stamp →
        timestamps.lookup callsign = some stamp := fun timestamps key h => by
    by_cases hkey : callsign = key
    · rw [hkey, AList.lookup_erase] at h
      cases h
    · rwa [AList.lookup_erase_ne hkey] at h
  -- Only what makes a callsign heard of inserts it, and that is another one here.
  cases action with
  | onTimeout now => exact absurd rfl (hcheck now)
  | onNetworkPositionUpdate cs now =>
      cases kind with
      | aircraft => exact hinsert _ _ now (fun heq => by simp [Watched.heard, heq] at hheard) h
      | atc => exact h
  | watchdogTouchAircraftCallsign cs now =>
      cases kind with
      | aircraft => exact hinsert _ _ now (fun heq => by simp [Watched.heard, heq] at hheard) h
      | atc => exact h
  | watchdogTouchAtcCallsign cs now =>
      cases kind with
      | aircraft => exact h
      | atc => exact hinsert _ _ now (fun heq => by simp [Watched.heard, heq] at hheard) h
  | watchdogRemoveAircraftCallsign cs =>
      cases kind with
      | aircraft => exact herase _ _ h
      | atc => exact h
  | onAtcStationDisconnected cs =>
      cases kind with
      | aircraft => exact h
      | atc => exact herase _ _ h
  | onConnectionStatusChanged oldStatus newStatus =>
      simp only [airspaceAnalyzer, CAirspaceAnalyzer.onConnectionStatusChanged] at h
      split_ifs at h
      · cases kind <;> cases h
      · exact h
  | setEnabledWatchdog enabled => cases kind <;> exact h
  | setEnabled enabled => cases kind <;> exact h
  | clear => cases kind <;> cases h

/-- No time stamp is older than what a check faked since the callsign was heard of. -/
def Graced (steps : List (CAirspaceAnalyzer × AnalyzerAction)) (a : CAirspaceAnalyzer) : Prop :=
  ∀ (kind : Watched) (callsign : QString) (stamp : ℤ),
    (kind.timestamps a).lookup callsign = some stamp →
      ∀ check ∈ disabledChecks kind callsign steps, check - kind.timeout a + 1000 ≤ stamp

theorem graced_step {steps : List (CAirspaceAnalyzer × AnalyzerAction)}
    (action : AnalyzerAction) (hfakes : FakesSoundly a action) (h : Graced steps a) :
    Graced (steps ++ [(a, action)]) (airspaceAnalyzer.step a action).1 := by
  intro kind callsign stamp hstamp check hmem
  rw [timeout_step]
  rw [disabledChecks, List.foldl_append, List.foldl_cons] at hmem
  by_cases hcheck : ∃ now, action = .onTimeout now
  · rcases hcheck with ⟨now, rfl⟩
    have hspec := onTimeout_spec hfakes
    have hreported : kind.signal callsign ∉ (a.onTimeout now).2 := fun hreported =>
      nomatch hstamp.symm.trans (hspec.removed kind callsign hreported)
    have hkept := hspec.kept kind callsign hreported
    rw [show (kind.timestamps (a.onTimeout now).1).lookup callsign = some stamp from hstamp]
      at hkept
    rcases exists_of_rel_some hkept with ⟨old, hold, hle⟩
    have hbefore : ∀ check ∈ disabledChecks kind callsign steps,
        check - kind.timeout a + 1000 ≤ stamp :=
      fun check hmem => (h kind callsign old hold check hmem).trans hle
    dsimp only at hmem
    split_ifs at hmem with hdisabled
    · rcases List.mem_cons.mp hmem with rfl | hmem
      · -- This check has faked the time stamp.
        have hfaked := hspec.faked hdisabled.1 hdisabled.2 kind callsign (by rw [hold]; simp)
        exact le_of_eq (Option.some.inj (hfaked.symm.trans hstamp))
      · exact hbefore check hmem
    · exact hbefore check hmem
  · have hno : ∀ now, action ≠ .onTimeout now := fun now heq => hcheck ⟨now, heq⟩
    have hmem' : kind.heard callsign none action = none ∧
        check ∈ disabledChecks kind callsign steps := by
      cases action with
      | onTimeout now => exact absurd rfl (hno now)
      | _ =>
          dsimp only at hmem
          split_ifs at hmem with hheard
          · exact ⟨hheard, hmem⟩
          · cases hmem
    exact h kind callsign stamp (lookup_of_not_heard hno hmem'.1 hstamp) check hmem'.2

theorem graced_run (created : ℤ) (before : List AnalyzerAction)
    (hall : airspaceAnalyzer.AllSteps FakesSoundly (.created created) before) :
    Graced (airspaceAnalyzer.steps (.created created) before)
      (airspaceAnalyzer.run (.created created) before).1 := by
  induction before using List.reverseRecOn with
  | nil => exact fun kind callsign stamp _ check hmem => absurd hmem List.not_mem_nil
  | append_singleton before action ih =>
      rcases (airspaceAnalyzer.allSteps_append _ _ before _).mp hall with ⟨hbefore, hstep, -⟩
      rw [Machine.steps_append, Machine.run_append]
      exact graced_step action hstep (ih hbefore)

/-- Every check of a run in which checks fake soundly, and in which whoever is watched is
    heard of in time, does what it is to do. -/
theorem checks_soundly (created : ℤ) (before : List AnalyzerAction) (now : ℤ)
    (hall : airspaceAnalyzer.AllSteps FakesSoundly (.created created) (before ++ [.onTimeout now]))
    (hheard : HeardInTime (airspaceAnalyzer.steps (.created created) before)
      (airspaceAnalyzer.run (.created created) before).1 now) :
    ChecksSoundly created before now := by
  rcases (airspaceAnalyzer.allSteps_append _ _ before _).mp hall with ⟨hbefore, hcheck, -⟩
  have hcovered := airspaceAnalyzer.run_trace_of FakesSoundly TouchesCovered _
    (touchesCovered_created created) (fun trace a action => watched_step action) before hbefore
  have hspec := onTimeout_spec hcheck
  constructor
  case justified =>
    intro kind callsign a hreported
    rcases (hspec.reported_iff kind callsign).mp hreported with ⟨-, henabled, t, ht, hle⟩
    have hrel := hcovered kind callsign
    rw [ht] at hrel
    -- The time stamp is at least as late as the last touch.
    rcases exists_of_rel_some hrel with ⟨touch, hlast, htouch⟩
    exact ⟨henabled, touch, hlast, htouch.trans hle⟩
  case once => exact ⟨hspec.nodup, hspec.removed⟩
  case grace =>
    intro kind callsign a check hmem hlt hreported
    rcases (hspec.reported_iff kind callsign).mp hreported with
      ⟨hruns, henabled, stamp, hstamp, hle⟩
    rcases hheard hruns henabled kind callsign (by rw [hstamp]; exact Option.some_ne_none _)
      ⟨check, hmem, hlt⟩ with ⟨recent, hrecent, hsecond⟩
    have hge := graced_run created before hbefore kind callsign stamp hstamp recent hrecent
    omega

/-- An aircraft that is heard of after a check while the watchdog was disabled, and then
    not for 17 seconds, times out. -/
theorem checks_soundly_silent :
    let dlh1 : Callsign := ⟨"DLH1", "DLH1", .aircraft⟩
    let before := [AnalyzerAction.onNetworkPositionUpdate dlh1 5000, .onTimeout 7500,
      .onTimeout 15000, .setEnabledWatchdog false, .onTimeout 19000, .setEnabledWatchdog true,
      .onNetworkPositionUpdate dlh1 24000, .onTimeout 26500, .onTimeout 34000]
    ChecksSoundly 0 before 41500 ∧
      ((airspaceAnalyzer.run (.created 0) before).1.onTimeout 41500).2
        = [.timeoutAircraft "DLH1"] := by
  intro dlh1 before
  have hlookup : ∀ {timestamps : CallsignTimestampSet} {callsign : QString} {t : ℤ}
      (entries : List (QString × ℤ)),
      timestamps.entries.map (fun e => (e.1, e.2)) = entries →
        timestamps.lookup callsign = some t → (callsign, t) ∈ entries :=
    fun _ hentries ht => hentries ▸ List.mem_map.mpr ⟨_, AList.mem_lookup_iff.mp ht, rfl⟩
  refine ⟨checks_soundly 0 before 41500 ⟨trivial, ?_, ?_, trivial, ?_, trivial, trivial, ?_, ?_,
    ?_, trivial⟩ ?_, by decide +kernel⟩
  -- One check finds the watchdog disabled, and an aircraft that it gives the same time stamp.
  case refine_3 =>
    refine fun _ _ => ⟨AList.ext (by decide +kernel), fun callsign t ht => ?_⟩
    have hmem := hlookup [("DLH1", 5000)] (by decide +kernel) ht
    rw [List.mem_singleton, Prod.mk.injEq] at hmem
    rw [hmem.2]
    decide +kernel
  case refine_7 =>
    rintro - - kind callsign hwatched ⟨check, hmem, -⟩
    rcases Option.ne_none_iff_exists'.mp hwatched with ⟨t, ht⟩
    cases kind with
    | aircraft =>
        have hentry := hlookup [("DLH1", 24000)] (by decide +kernel) ht
        rw [List.mem_singleton, Prod.mk.injEq] at hentry
        rw [hentry.1, show disabledChecks .aircraft "DLH1"
          (airspaceAnalyzer.steps (.created 0) before) = [] by decide +kernel] at hmem
        cases hmem
    | atc => exact absurd (hlookup [] (by decide +kernel) ht) List.not_mem_nil
  all_goals exact fun _ hdisabled => absurd hdisabled (by decide +kernel)

/-- A station that was heard of before a check while the watchdog is disabled times out
    as an aircraft once it is enabled. And an aircraft that is not heard of between such a
    check and the next one times out there. -/
theorem station_times_out_as_aircraft :
    ¬ChecksSoundly 0 [.watchdogTouchAtcCallsign ⟨"EDDF_TWR", "EDDF_TWR", .atc⟩ 1000,
      .setEnabledWatchdog false, .onTimeout 7500, .setEnabledWatchdog true] 15000 ∧
    ¬ChecksSoundly 0 [.onNetworkPositionUpdate ⟨"DLH1", "DLH1", .aircraft⟩ 0,
      .onTimeout 7500, .setEnabledWatchdog false, .onTimeout 15000, .setEnabledWatchdog true]
      22500 := by
  constructor
  · intro hsound
    rcases hsound.justified .aircraft "EDDF_TWR" (by decide +kernel) with ⟨-, t, ht, -⟩
    -- It was never heard of as an aircraft.
    rw [show lastTouch .aircraft "EDDF_TWR" _ = none by decide +kernel] at ht
    cases ht
  · intro hsound
    exact hsound.grace .aircraft "DLH1" 15000 (by decide +kernel) (by decide +kernel)
      (by decide +kernel)

end NeoSwift.Core
