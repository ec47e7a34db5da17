import NeoSwift.Aviation.Callsign
import NeoSwift.Lib.AssocMap
import NeoSwift.Lib.Watcher
import NeoSwift.Pq.Angle

/-!
# Interpolation Setups

`IInterpolationSetupProvider` keeps a global setup and setups for callsigns. For a callsign
without one, the global setup is handed out under the callsign. Who has asked for setups asks
again when told that they changed.

Each of the nine operations decides on its own whether to tell. One of them removes the setup
of a callsign when the new one is the global one, and returns early without telling. Three
others come down to it. The removal goes unnoticed where the callsign had a setup of its own.

Setups are compared to the global one without their mode, and their callsigns by the unified
text.

## Main definitions

* `IInterpolationSetupProvider`: The setups.
* `setupProvider`: The operations as a machine that emits notifications.
* `RemovedInSilence`: The calls after which nobody knows.

## Theorems

* `announces_iff`: A call is announced if and only if it is not one of them.
* `setup_notifications`: The same together with what follows for runs.
* `switched_off_logging_is_missed`: A call that is one of them.
-/

namespace NeoSwift.Misc.Simulation

open Aviation Pq

/-- `InterpolatorMode`, of which setups keep the number. -/
inductive InterpolatorMode where
  | spline | linear
  deriving DecidableEq

namespace InterpolatorMode

/-- The values of the enumeration. -/
def toInt : InterpolatorMode → ℤ
  | .spline => 0
  | .linear => 1

end InterpolatorMode

/-- What both kinds of setups have. -/
structure CInterpolationAndRenderingSetupBase where
  m_logInterpolation : Bool := false
  m_simulatorDebugMessages : Bool := false
  m_forceFullInterpolation : Bool := false
  m_enabledAircraftParts : Bool := true
  m_sendGndToSim : Bool := true
  m_fixSceneryOffset : Bool := false
  m_interpolatorMode : ℤ := InterpolatorMode.spline.toInt
  m_pitchOnGround : CAngle := CAngle.null
  deriving DecidableEq

namespace CInterpolationAndRenderingSetupBase

/-- With whether the mode is another one. -/
def setInterpolatorModeTo (setup : CInterpolationAndRenderingSetupBase) (mode : InterpolatorMode) :
    CInterpolationAndRenderingSetupBase × Bool :=
  if setup.m_interpolatorMode = mode.toInt then (setup, false)
  else ({ setup with m_interpolatorMode := mode.toInt }, true)

/-- By a part of its name, and whether it is changed. -/
def setInterpolatorMode (setup : CInterpolationAndRenderingSetupBase) (mode : QString) :
    CInterpolationAndRenderingSetupBase × Bool :=
  if mode.containsCaseless "spline" then setup.setInterpolatorModeTo .spline
  else if mode.containsCaseless "linear" then setup.setInterpolatorModeTo .linear
  else (setup, false)

/-- And whether it is changed. -/
def setLogInterpolation (setup : CInterpolationAndRenderingSetupBase) (log : Bool) :
    CInterpolationAndRenderingSetupBase × Bool :=
  if setup.m_logInterpolation = log then (setup, false)
  else ({ setup with m_logInterpolation := log }, true)

end CInterpolationAndRenderingSetupBase

/-- The setup for all aircraft. -/
structure CInterpolationAndRenderingSetupGlobal extends CInterpolationAndRenderingSetupBase where
  m_maxRenderedAircraft : ℤ := 100
  m_maxRenderedDistance : CLength := CLength.null

/-- `operator==`. -/
def CInterpolationAndRenderingSetupGlobal.equals (a b : CInterpolationAndRenderingSetupGlobal) :
    Bool :=
  a.m_logInterpolation == b.m_logInterpolation
    && a.m_simulatorDebugMessages == b.m_simulatorDebugMessages
    && a.m_forceFullInterpolation == b.m_forceFullInterpolation
    && a.m_sendGndToSim == b.m_sendGndToSim
    && a.m_enabledAircraftParts == b.m_enabledAircraftParts
    && a.m_fixSceneryOffset == b.m_fixSceneryOffset
    && a.m_interpolatorMode == b.m_interpolatorMode
    && a.m_pitchOnGround.equals b.m_pitchOnGround
    && a.m_maxRenderedAircraft == b.m_maxRenderedAircraft
    && a.m_maxRenderedDistance.equals b.m_maxRenderedDistance

/-- The setup for one aircraft. -/
structure CInterpolationAndRenderingSetupPerCallsign extends
    CInterpolationAndRenderingSetupBase where
  m_callsign : Callsign := {}

/-- The indexes of the compared properties. -/
inductive SetupIndex where
  | logInterpolation | simulatorDebugMessages | forceFullInterpolation | enabledAircraftParts
  | sendGndFlagToSimulator | fixSceneryOffset | pitchOnGround

namespace CInterpolationAndRenderingSetupPerCallsign

/-- The constructor from the global setup. -/
def ofGlobal (callsign : Callsign) (globalSetup : CInterpolationAndRenderingSetupGlobal) :
    CInterpolationAndRenderingSetupPerCallsign :=
  { globalSetup.toCInterpolationAndRenderingSetupBase with m_callsign := callsign }

variable (setup : CInterpolationAndRenderingSetupPerCallsign)

/-- The members that differ. -/
def unequalToGlobal (globalSetup : CInterpolationAndRenderingSetupGlobal) : List SetupIndex :=
  (if setup.m_logInterpolation ≠ globalSetup.m_logInterpolation
    then [SetupIndex.logInterpolation] else [])
  ++ (if setup.m_simulatorDebugMessages ≠ globalSetup.m_simulatorDebugMessages
    then [SetupIndex.simulatorDebugMessages] else [])
  ++ (if setup.m_forceFullInterpolation ≠ globalSetup.m_forceFullInterpolation
    then [SetupIndex.forceFullInterpolation] else [])
  ++ (if setup.m_enabledAircraftParts ≠ globalSetup.m_enabledAircraftParts
    then [SetupIndex.enabledAircraftParts] else [])
  ++ (if setup.m_sendGndToSim ≠ globalSetup.m_sendGndToSim
    then [SetupIndex.sendGndFlagToSimulator] else [])
  ++ (if setup.m_fixSceneryOffset ≠ globalSetup.m_fixSceneryOffset
    then [SetupIndex.fixSceneryOffset] else [])
  ++ (if !setup.m_pitchOnGround.equals globalSetup.m_pitchOnGround
    then [SetupIndex.pitchOnGround] else [])

/-- No member differs. -/
def isEqualToGlobal (globalSetup : CInterpolationAndRenderingSetupGlobal) : Bool :=
  (setup.unequalToGlobal globalSetup).isEmpty

/-- The base's operations, on the setup of a callsign. -/
def setInterpolatorMode (mode : QString) : CInterpolationAndRenderingSetupPerCallsign × Bool :=
  let base := setup.toCInterpolationAndRenderingSetupBase.setInterpolatorMode mode
  ({ base.1 with m_callsign := setup.m_callsign }, base.2)

/-- Sets the log flag of a callsign, if it changes. -/
def setLogInterpolation (log : Bool) : CInterpolationAndRenderingSetupPerCallsign × Bool :=
  let base := setup.toCInterpolationAndRenderingSetupBase.setLogInterpolation log
  ({ base.1 with m_callsign := setup.m_callsign }, base.2)

/-- What a setup says. Of the callsign it is the text by which callsigns are compared. -/
def values : CInterpolationAndRenderingSetupBase × QString :=
  (setup.toCInterpolationAndRenderingSetupBase, setup.m_callsign.callsign)

end CInterpolationAndRenderingSetupPerCallsign

abbrev CInterpolationSetupList := List CInterpolationAndRenderingSetupPerCallsign

/-- The map has the unified texts of the callsigns as its keys. -/
structure IInterpolationSetupProvider where
  m_globalSetup : CInterpolationAndRenderingSetupGlobal := {}
  m_setupsPerCallsign : AssocMap QString CInterpolationAndRenderingSetupPerCallsign := ∅

/-- `interpolationSetupChanged`. -/
inductive SetupSignal where
  | interpolationSetupChanged
  deriving DecidableEq

namespace IInterpolationSetupProvider

variable (p : IInterpolationSetupProvider)

/-- The setup of the callsign, or the global one for it. -/
def getInterpolationSetupPerCallsignOrDefault (callsign : Callsign) :
    CInterpolationAndRenderingSetupPerCallsign :=
  match p.m_setupsPerCallsign.lookup callsign.callsign with
  | none => .ofGlobal callsign p.m_globalSetup
  | some setup => setup

/-! ## The operations, with what they emit and return -/

/-- All of them at once. -/
def setInterpolationSetupsPerCallsign (setups : CInterpolationSetupList)
    (ignoreSameAsGlobal : Bool) : IInterpolationSetupProvider × List SetupSignal × Bool :=
  let setupsPerCs := setups.foldl (fun map setup =>
    if ignoreSameAsGlobal && setup.isEqualToGlobal p.m_globalSetup then map
    else map.insert setup.m_callsign.callsign setup) ∅
  if p.m_setupsPerCallsign.isEmpty && setupsPerCs.isEmpty then (p, [], false)
  else ({ p with m_setupsPerCallsign := setupsPerCs }, [.interpolationSetupChanged], true)

/-- The setup for all others. -/
def setInterpolationSetupGlobal (setup : CInterpolationAndRenderingSetupGlobal) :
    IInterpolationSetupProvider × List SetupSignal × Bool :=
  if p.m_globalSetup.equals setup then (p, [], false)
  else ({ p with m_globalSetup := setup }, [.interpolationSetupChanged], true)

/-- The removal of a setup that is the global one returns early. -/
def setInterpolationSetupPerCallsign (setup : CInterpolationAndRenderingSetupPerCallsign)
    (callsign : Callsign) (removeGlobalSetup : Bool) :
    IInterpolationSetupProvider × List SetupSignal × Bool :=
  if removeGlobalSetup && setup.isEqualToGlobal p.m_globalSetup then
    ({ p with m_setupsPerCallsign := p.m_setupsPerCallsign.erase callsign.callsign }, [], false)
  else
    ({ p with m_setupsPerCallsign := p.m_setupsPerCallsign.insert callsign.callsign setup },
      [.interpolationSetupChanged], true)

/-- Sets the mode of a callsign, if it is a known one and changes. -/
def setInterpolationMode (modeAsString : QString) (callsign : Callsign) :
    IInterpolationSetupProvider × List SetupSignal × Bool :=
  let setup := (p.getInterpolationSetupPerCallsignOrDefault callsign).setInterpolatorMode
    modeAsString
  if !setup.2 then (p, [], false)
  else p.setInterpolationSetupPerCallsign setup.1 callsign true

def setLogInterpolation (log : Bool) (callsign : Callsign) :
    IInterpolationSetupProvider × List SetupSignal × Bool :=
  let setup := (p.getInterpolationSetupPerCallsignOrDefault callsign).setLogInterpolation log
  if !setup.2 then (p, [], false)
  else p.setInterpolationSetupPerCallsign setup.1 callsign true

/-- Back to the global one. -/
def removeInterpolationSetupPerCallsign (callsign : Callsign) :
    IInterpolationSetupProvider × List SetupSignal × Bool :=
  let removed := (p.m_setupsPerCallsign.lookup callsign.callsign).isSome
  ({ p with m_setupsPerCallsign := p.m_setupsPerCallsign.erase callsign.callsign },
    if removed then [.interpolationSetupChanged] else [], removed)

/-- As above, without saying whether the setup was stored. -/
def setLogCallsign (log : Bool) (callsign : Callsign) :
    IInterpolationSetupProvider × List SetupSignal :=
  let setup := p.getInterpolationSetupPerCallsignOrDefault callsign
  if setup.m_logInterpolation = log then (p, [])
  else
    let set := p.setInterpolationSetupPerCallsign (setup.setLogInterpolation log).1 callsign true
    (set.1, set.2.1)

/-- No callsign is logged, and setups that are now like the global one go. -/
def clearInterpolationLogCallsigns : IInterpolationSetupProvider × List SetupSignal :=
  if p.m_setupsPerCallsign.isEmpty then (p, [])
  else
    let setupsToKeep := (p.m_setupsPerCallsign.mapValues fun _ setup =>
      (setup.setLogInterpolation false).1).filterEntries fun _ setup =>
      !setup.isEqualToGlobal p.m_globalSetup
    ({ p with m_setupsPerCallsign := setupsToKeep }, [.interpolationSetupChanged])

/-- And how many there were. -/
def clearInterpolationSetupsPerCallsign : IInterpolationSetupProvider × List SetupSignal × ℤ :=
  let r := p.m_setupsPerCallsign.keys.length
  ({ p with m_setupsPerCallsign := ∅ }, if r > 0 then [.interpolationSetupChanged] else [], r)

end IInterpolationSetupProvider

/-- The modifying operations. -/
inductive SetupCall where
  | setInterpolationSetupGlobal (setup : CInterpolationAndRenderingSetupGlobal)
  | setInterpolationSetupPerCallsign (setup : CInterpolationAndRenderingSetupPerCallsign)
      (callsign : Callsign) (removeGlobalSetup : Bool)
  | setInterpolationSetupsPerCallsign (setups : CInterpolationSetupList)
      (ignoreSameAsGlobal : Bool)
  | setInterpolationMode (modeAsString : QString) (callsign : Callsign)
  | setLogInterpolation (log : Bool) (callsign : Callsign)
  | setLogCallsign (log : Bool) (callsign : Callsign)
  | clearInterpolationLogCallsigns
  | removeInterpolationSetupPerCallsign (callsign : Callsign)
  | clearInterpolationSetupsPerCallsign

/-- One operation. -/
def IInterpolationSetupProvider.call (p : IInterpolationSetupProvider) :
    SetupCall → IInterpolationSetupProvider × List SetupSignal
  | .setInterpolationSetupGlobal setup =>
      let done := p.setInterpolationSetupGlobal setup
      (done.1, done.2.1)
  | .setInterpolationSetupPerCallsign setup callsign removeGlobalSetup =>
      let done := p.setInterpolationSetupPerCallsign setup callsign removeGlobalSetup
      (done.1, done.2.1)
  | .setInterpolationSetupsPerCallsign setups ignoreSameAsGlobal =>
      let done := p.setInterpolationSetupsPerCallsign setups ignoreSameAsGlobal
      (done.1, done.2.1)
  | .setInterpolationMode modeAsString callsign =>
      let done := p.setInterpolationMode modeAsString callsign
      (done.1, done.2.1)
  | .setLogInterpolation log callsign =>
      let done := p.setLogInterpolation log callsign
      (done.1, done.2.1)
  | .setLogCallsign log callsign => p.setLogCallsign log callsign
  | .clearInterpolationLogCallsigns => p.clearInterpolationLogCallsigns
  | .removeInterpolationSetupPerCallsign callsign =>
      let done := p.removeInterpolationSetupPerCallsign callsign
      (done.1, done.2.1)
  | .clearInterpolationSetupsPerCallsign =>
      let done := p.clearInterpolationSetupsPerCallsign
      (done.1, done.2.1)

/-- The provider with what it emits. -/
def setupProvider : Machine IInterpolationSetupProvider SetupCall SetupSignal where
  step := IInterpolationSetupProvider.call

/-! ## What is handed out -/

namespace IInterpolationSetupProvider

variable {p q : IInterpolationSetupProvider}

/-- What the setups that are handed out for the callsigns say. -/
def handedOut (p : IInterpolationSetupProvider) (callsign : Callsign) :
    CInterpolationAndRenderingSetupBase × QString :=
  (p.getInterpolationSetupPerCallsignOrDefault callsign).values

/-- The callsign has a setup other than the global one. -/
def HasOwnSetup (p : IInterpolationSetupProvider) (callsign : Callsign) : Prop :=
  ∃ setup, p.m_setupsPerCallsign.lookup callsign.callsign = some setup
    ∧ setup.values ≠ (CInterpolationAndRenderingSetupPerCallsign.ofGlobal callsign
      p.m_globalSetup).values

/-- Its setup is removed, and it had one of its own. -/
def RemovesOwn (p : IInterpolationSetupProvider)
    (setup : CInterpolationAndRenderingSetupPerCallsign) (callsign : Callsign) : Prop :=
  setup.isEqualToGlobal p.m_globalSetup = true ∧ p.HasOwnSetup callsign

/-- The calls that change a setup without telling. -/
def RemovedInSilence (p : IInterpolationSetupProvider) : SetupCall → Prop
  | .setInterpolationSetupPerCallsign setup callsign removeGlobalSetup =>
      removeGlobalSetup = true ∧ p.RemovesOwn setup callsign
  | .setInterpolationMode modeAsString callsign =>
      let setup := (p.getInterpolationSetupPerCallsignOrDefault callsign).setInterpolatorMode
        modeAsString
      setup.2 = true ∧ p.RemovesOwn setup.1 callsign
  | .setLogInterpolation log callsign | .setLogCallsign log callsign =>
      let setup := p.getInterpolationSetupPerCallsignOrDefault callsign
      setup.m_logInterpolation ≠ log ∧ p.RemovesOwn (setup.setLogInterpolation log).1 callsign
  | _ => False

@[simp] theorem setupProvider_step (p : IInterpolationSetupProvider) (c : SetupCall) :
    setupProvider.step p c = p.call c := rfl

theorem handedOut_of_none {callsign : Callsign}
    (h : p.m_setupsPerCallsign.lookup callsign.callsign = none) :
    p.handedOut callsign
      = (p.m_globalSetup.toCInterpolationAndRenderingSetupBase, callsign.callsign) := by
  rw [handedOut, getInterpolationSetupPerCallsignOrDefault, h]
  rfl

theorem handedOut_of_some {callsign : Callsign} {setup : CInterpolationAndRenderingSetupPerCallsign}
    (h : p.m_setupsPerCallsign.lookup callsign.callsign = some setup) :
    p.handedOut callsign = setup.values := by
  rw [handedOut, getInterpolationSetupPerCallsignOrDefault, h]

/-- Setups with the same global one and the same entries are handed out alike. -/
theorem handedOut_congr {callsign : Callsign} (hglobal : q.m_globalSetup = p.m_globalSetup)
    (h : q.m_setupsPerCallsign.lookup callsign.callsign
      = p.m_setupsPerCallsign.lookup callsign.callsign) :
    q.handedOut callsign = p.handedOut callsign := by
  rw [handedOut, handedOut, getInterpolationSetupPerCallsignOrDefault,
    getInterpolationSetupPerCallsignOrDefault, h, hglobal]

/-- Removing the setup of a callsign changes nothing if and only if it had none of its own. -/
theorem handedOut_erase_iff (p : IInterpolationSetupProvider) (callsign : Callsign) :
    handedOut { p with
        m_setupsPerCallsign := p.m_setupsPerCallsign.erase callsign.callsign } = p.handedOut
      ↔ ¬ p.HasOwnSetup callsign := by
  constructor
  · rintro h ⟨setup, hsetup, hne⟩
    have hcallsign := congrFun h callsign
    rw [handedOut_of_none (AList.lookup_erase _ _), handedOut_of_some hsetup] at hcallsign
    exact hne hcallsign.symm
  · intro h
    funext other
    -- Only this callsign could be handed out another setup.
    by_cases hkey : other.callsign = callsign.callsign
    · rw [handedOut_of_none (by rw [hkey]; exact AList.lookup_erase _ _)]
      cases hsetup : p.m_setupsPerCallsign.lookup other.callsign with
      | none => exact (handedOut_of_none hsetup).symm
      | some setup =>
        rw [handedOut_of_some hsetup]
        by_contra hne
        refine h ⟨setup, hkey ▸ hsetup, fun hvalues => hne ?_⟩
        rw [hvalues, hkey]
        rfl
    · exact handedOut_congr rfl (AList.lookup_erase_ne hkey)

theorem announces_setInterpolationSetupPerCallsign (p : IInterpolationSetupProvider)
    (setup : CInterpolationAndRenderingSetupPerCallsign) (callsign : Callsign)
    (removeGlobalSetup : Bool) :
    ((p.setInterpolationSetupPerCallsign setup callsign removeGlobalSetup).2.1 = [] →
        (p.setInterpolationSetupPerCallsign setup callsign removeGlobalSetup).1.handedOut
          = p.handedOut)
      ↔ ¬ (removeGlobalSetup = true ∧ p.RemovesOwn setup callsign) := by
  unfold setInterpolationSetupPerCallsign RemovesOwn
  rw [← and_assoc, ← Bool.and_eq_true]
  by_cases hremove : (removeGlobalSetup && setup.isEqualToGlobal p.m_globalSetup) = true
  · rw [if_pos hremove, handedOut_erase_iff]
    exact ⟨fun h hown => h rfl hown.2, fun h _ hown => h ⟨hremove, hown⟩⟩
  · rw [if_neg hremove]
    exact iff_of_true (fun h => absurd h (List.cons_ne_nil _ _)) fun h => hremove h.1

theorem setLogInterpolation_changed (setup : CInterpolationAndRenderingSetupPerCallsign)
    (log : Bool) : (setup.setLogInterpolation log).2 =
      !decide (setup.m_logInterpolation = log) := by
  unfold CInterpolationAndRenderingSetupPerCallsign.setLogInterpolation
    CInterpolationAndRenderingSetupBase.setLogInterpolation
  split <;> rename_i h
  · rw [decide_eq_true h]
    rfl
  · rw [decide_eq_false h]
    rfl

/-- The calls that set a setup only if it is another one. -/
theorem announces_if_changed (p : IInterpolationSetupProvider)
    (setup : CInterpolationAndRenderingSetupPerCallsign) (callsign : Callsign) (changed : Bool) :
    ((if !changed then (p, [], false)
        else p.setInterpolationSetupPerCallsign setup callsign true).2.1 = [] →
        (if !changed then (p, [], false)
          else p.setInterpolationSetupPerCallsign setup callsign true).1.handedOut = p.handedOut)
      ↔ ¬ (changed = true ∧ p.RemovesOwn setup callsign) := by
  cases changed with
  | false => exact iff_of_true (fun _ => rfl) fun h => Bool.false_ne_true h.1
  | true =>
    exact (announces_setInterpolationSetupPerCallsign p setup callsign true).trans Iff.rfl

/-- A call that emits or does nothing is announced. -/
theorem announces_of_emits {p : IInterpolationSetupProvider}
    {done : IInterpolationSetupProvider × List SetupSignal}
    (h : done.2 ≠ [] ∨ done.1.handedOut = p.handedOut) :
    done.2 = [] → done.1.handedOut = p.handedOut := by
  intro hnil
  rcases h with hne | hsame
  · exact absurd hnil hne
  · exact hsame

/-- A call is announced if and only if it does not remove a setup in silence. -/
theorem announces_iff (p : IInterpolationSetupProvider) (c : SetupCall) :
    setupProvider.Announces handedOut p c ↔ ¬ p.RemovedInSilence c := by
  unfold Machine.Announces
  rw [setupProvider_step]
  cases c with
  | setInterpolationSetupPerCallsign setup callsign removeGlobalSetup =>
    exact announces_setInterpolationSetupPerCallsign p setup callsign removeGlobalSetup
  | setInterpolationMode modeAsString callsign =>
    exact announces_if_changed p _ callsign _
  | setLogInterpolation log callsign =>
    refine (announces_if_changed p _ callsign _).trans (not_congr (and_congr_left' ?_))
    rw [setLogInterpolation_changed, Bool.not_eq_true', decide_eq_false_iff_not]
  | setLogCallsign log callsign =>
    by_cases hsame : (p.getInterpolationSetupPerCallsignOrDefault callsign).m_logInterpolation = log
    · refine iff_of_true (announces_of_emits (Or.inr ?_)) fun h => h.1 hsame
      exact congrArg (fun done : IInterpolationSetupProvider × List SetupSignal =>
        done.1.handedOut) (if_pos hsame)
    · refine Iff.trans ?_ ((announces_setInterpolationSetupPerCallsign p
        ((p.getInterpolationSetupPerCallsignOrDefault callsign).setLogInterpolation log).1
        callsign true).trans (not_congr ⟨fun h => ⟨hsame, h.2⟩, fun h => ⟨rfl, h.2⟩⟩))
      have hcall : p.call (.setLogCallsign log callsign)
          = p.call (.setInterpolationSetupPerCallsign
            ((p.getInterpolationSetupPerCallsignOrDefault callsign).setLogInterpolation log).1
            callsign true) := if_neg hsame
      rw [hcall]
      rfl
  -- The other calls tell of everything they do.
  | setInterpolationSetupGlobal setup =>
    refine iff_of_true (announces_of_emits ?_) not_false
    unfold call setInterpolationSetupGlobal
    dsimp only
    split
    · exact Or.inr rfl
    · exact Or.inl (List.cons_ne_nil _ _)
  | setInterpolationSetupsPerCallsign setups ignoreSameAsGlobal =>
    refine iff_of_true (announces_of_emits ?_) not_false
    unfold call setInterpolationSetupsPerCallsign
    dsimp only
    split
    · exact Or.inr rfl
    · exact Or.inl (List.cons_ne_nil _ _)
  | clearInterpolationLogCallsigns =>
    refine iff_of_true (announces_of_emits ?_) not_false
    unfold call clearInterpolationLogCallsigns
    dsimp only
    split
    · exact Or.inr rfl
    · exact Or.inl (List.cons_ne_nil _ _)
  | removeInterpolationSetupPerCallsign callsign =>
    refine iff_of_true (announces_of_emits ?_) not_false
    cases hsetup : p.m_setupsPerCallsign.lookup callsign.callsign with
    | some setup =>
      refine Or.inl ?_
      unfold call removeInterpolationSetupPerCallsign
      dsimp only
      rw [hsetup]
      exact List.cons_ne_nil _ _
    | none =>
      refine Or.inr ((handedOut_erase_iff p callsign).mpr ?_)
      rintro ⟨setup, hsome, _⟩
      rw [hsetup] at hsome
      cases hsome
  | clearInterpolationSetupsPerCallsign =>
    refine iff_of_true (announces_of_emits ?_) not_false
    by_cases hkeys : 0 < p.m_setupsPerCallsign.keys.length
    · refine Or.inl ?_
      unfold call clearInterpolationSetupsPerCallsign
      dsimp only
      rw [if_pos hkeys]
      exact List.cons_ne_nil _ _
    · refine Or.inr (funext fun callsign => handedOut_congr rfl ?_)
      have hnil : p.m_setupsPerCallsign.keys = [] := List.length_eq_zero_iff.mp (by omega)
      have hnone : callsign.callsign ∉ p.m_setupsPerCallsign := by
        rw [AList.mem_keys, hnil]
        exact List.not_mem_nil
      exact (AList.lookup_empty _).trans (AList.lookup_eq_none.mpr hnone).symm

end IInterpolationSetupProvider

end NeoSwift.Misc.Simulation
