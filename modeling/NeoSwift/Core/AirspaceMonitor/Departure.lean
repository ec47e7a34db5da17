import NeoSwift.Core.AirspaceMonitor.Readiness
import NeoSwift.Fsd.Client.Traffic

/-!
# Departures

The client reads lines, and the monitor keeps what the client makes known. Here the two
are put together, for what becomes of somebody who leaves.

The delete messages name who leaves and an identification number. The client hands on the
number, and the monitor takes it for a callsign. So a departure is noticed where the two
are the same, and otherwise it goes unnoticed, or worse, somebody else is removed.

## Main definitions

* `SignalReader`: How the signals of the client arrive at the monitor.
* `clientWithMonitor`: The client with the monitor behind it.
* `SentBy`: A line from a callsign.
* `AtcDeparts`, `PilotDeparts`: The departure is tracked.

## Theorems

* `isListed_step`, `callsigns_step`: Nobody else comes with a message.
* `absent_run`: Who is away stays away until he sends something.
* `departs_iff`: When a departure is tracked.
-/

namespace NeoSwift.Core

open Aviation Pq Misc Misc.Simulation

open Fsd (CallsignMap AtcStation ClientState Fault)

open RemoteAircraftProvider (key)

variable {S C E : Type} [TimestampWithOffsetBased S] [TimestampWithOffsetBased C]

/-- How the data of the client's signals become those of the monitor. -/
structure SignalReader (lib : AirspaceLibrary S C E) where
  situation : Fsd.AircraftSituation → S
  getCallsign_situation : ∀ received, lib.getCallsign (situation received) = received.callsign
  samePosition : Fsd.AircraftSituation → S → Bool
  parts : Fsd.AircraftLights → Bool → Bool → QJsonObject
  jsonObject : QString → QJsonObject
  maxRange : CLength

/-- The slot a signal is connected to, if the monitor has one. Where the signal has a text,
    the slot has a callsign. -/
def SignalReader.slot {lib : AirspaceLibrary S C E} (reader : SignalReader lib) (u : Unicode) :
    Fsd.Signal → Option (MonitorAction S)
  | .atcDataUpdateReceived station => some (.onAtcPositionUpdate station)
  | .deleteAtcReceived cid => some (.onAtcControllerDisconnected (Callsign.create u cid .noHint))
  | .deletePilotReceived cid => some (.onPilotDisconnected (Callsign.create u cid .noHint))
  | .pilotDataUpdateReceived situation _ _ =>
    some (.onAircraftUpdateReceived (reader.situation situation))
  | .interimPilotDataUpdatedReceived situation =>
    some (.onAircraftInterimUpdateReceived (reader.situation situation)
      (reader.samePosition situation))
  | .euroscopeSimDataUpdatedReceived situation lights gearDown onGround currentOffsetTimeMs model
      livery =>
    some (.onAircraftSimDataUpdateReceived (reader.situation situation)
      (reader.parts lights gearDown onGround) currentOffsetTimeMs model livery)
  | .planeInformationReceived sender aircraft airline livery =>
    some (.onIcaoCodesReceived (Callsign.create u sender .noHint) aircraft airline livery)
  | .planeInformationFsinnReceived callsign airlineIcao aircraftIcao combinedType model =>
    some (.onCustomFSInnPacketReceived callsign airlineIcao aircraftIcao combinedType model)
  | .aircraftConfigReceived sender config currentOffsetTimeMs =>
    some (.onAircraftConfigReceived (Callsign.create u sender .noHint) (reader.jsonObject config)
      currentOffsetTimeMs)
  | .connectionStatusChanged _ newStatus =>
    some (.onConnectionStatusChanged newStatus reader.maxRange)
  | _ => none

/-- What the monitor gets of an action of the client. -/
def SignalReader.input {lib : AirspaceLibrary S C E} (reader : SignalReader lib) (u : Unicode)
    (env : MonitorEnv S) : Fsd.Action → Option (MonitorEnv S × MonitorAction S)
  | .emit signal => (reader.slot u signal).map (fun action => (env, action))
  | _ => none

/-- A line, and what surrounds the client and the monitor when it comes. -/
structure ReceivedLine (S : Type) where
  env : Fsd.Env
  monitorEnv : MonitorEnv S
  lineRaw : QString

/-- The client with the monitor behind it. -/
def clientWithMonitor (cfg : Fsd.Config) {lib : AirspaceLibrary S C E} (reader : SignalReader lib) :
    Machine (Except Fault ClientState × CAirspaceMonitor S C) (ReceivedLine S) (MonitorSignal S)
    where
  step s line :=
    let handled := (Fsd.core cfg Fsd.messageTypeMapping).step s.1
      (.lineReceived line.env line.lineRaw)
    let tracked := (airspaceMonitor lib).run s.2
      (handled.2.filterMap (reader.input cfg.unicode line.monitorEnv))
    ((handled.1, tracked.1), tracked.2)

namespace CAirspaceMonitor

/-- The station is online. -/
def isListed (m : CAirspaceMonitor S C) (callsign : Callsign) : Bool :=
  m.atcStationsOnline.any (fun station => station.callsign.equals callsign)

/-! ## What leaves the stations alone -/

section Stations

variable {m : CAirspaceMonitor S C} (lib : AirspaceLibrary S C E) (env : MonitorEnv S)
variable (callsign : Callsign)

theorem stations_sendReadyForModelMatching (rf : MatchingReadinessFlag) :
    (m.sendReadyForModelMatching lib env callsign rf).1.atcStationsOnline =
      m.atcStationsOnline := by
  unfold sendReadyForModelMatching
  dsimp only
  split_ifs
  · rfl
  · rfl
  · split
    · rfl
    · split_ifs <;> rfl

theorem stations_addOrUpdateAircraftInRange
    (aircraftIcao airlineIcao livery modelString : QString) :
    (m.addOrUpdateAircraftInRange lib env callsign aircraftIcao airlineIcao livery
      modelString).atcStationsOnline = m.atcStationsOnline := by
  unfold addOrUpdateAircraftInRange
  split <;> rfl

theorem stations_onCustomFSInnPacketReceived
    (airlineIcao aircraftIcao combinedType modelString : QString) :
    (m.onCustomFSInnPacketReceived lib env callsign airlineIcao aircraftIcao combinedType
      modelString).1.atcStationsOnline = m.atcStationsOnline := by
  unfold onCustomFSInnPacketReceived
  dsimp only
  split_ifs
  · rfl
  · rfl
  · rw [stations_sendReadyForModelMatching, stations_addOrUpdateAircraftInRange]
    rfl
  · rw [stations_sendReadyForModelMatching]
    rfl
  · rfl

theorem stations_onIcaoCodesReceived (aircraftIcao airlineIcao livery : QString) :
    (m.onIcaoCodesReceived lib env callsign aircraftIcao airlineIcao livery).1.atcStationsOnline =
      m.atcStationsOnline := by
  unfold onIcaoCodesReceived
  split_ifs
  · rfl
  · rw [stations_sendReadyForModelMatching, stations_addOrUpdateAircraftInRange]

omit [TimestampWithOffsetBased S] [TimestampWithOffsetBased C] in
theorem stations_addNewAircraftInRange (aircraft : CSimulatedAircraft S) :
    (m.addNewAircraftInRange env aircraft).1.atcStationsOnline = m.atcStationsOnline := by
  unfold addNewAircraftInRange
  dsimp only
  split_ifs <;> rfl

theorem stations_handleMaxRange (situation : S) :
    (m.handleMaxRange lib env situation).1.atcStationsOnline = m.atcStationsOnline := by
  unfold handleMaxRange
  split_ifs <;> rfl

theorem stations_onAircraftUpdateReceived (situation : S) :
    (m.onAircraftUpdateReceived lib env situation).1.atcStationsOnline = m.atcStationsOnline := by
  have hrange := stations_handleMaxRange (m := m) lib env situation
  unfold onAircraftUpdateReceived
  dsimp only
  split_ifs
  · rfl
  · exact hrange
  · rw [stations_addNewAircraftInRange]
    exact hrange
  · exact hrange

theorem stations_onAircraftInterimUpdateReceived (situation : S) (samePosition : S → Bool) :
    (m.onAircraftInterimUpdateReceived lib env situation samePosition).atcStationsOnline =
      m.atcStationsOnline := by
  unfold onAircraftInterimUpdateReceived
  dsimp only
  split_ifs
  · rfl
  · split
    · rfl
    · split_ifs <;> rfl

theorem stations_onAircraftConfigReceived (jsonObject : QJsonObject) (currentOffsetMs : ℤ) :
    (m.onAircraftConfigReceived lib env callsign jsonObject currentOffsetMs).atcStationsOnline =
      m.atcStationsOnline := by
  unfold onAircraftConfigReceived
  split_ifs <;> rfl

theorem stations_onAircraftSimDataUpdateReceived (situation : S) (parts : QJsonObject)
    (currentOffsetMs : ℤ) (aircraftIcao airlineIcao : QString) :
    (m.onAircraftSimDataUpdateReceived lib env situation parts currentOffsetMs aircraftIcao
      airlineIcao).1.atcStationsOnline = m.atcStationsOnline := by
  unfold onAircraftSimDataUpdateReceived
  rw [stations_onAircraftConfigReceived]
  split_ifs
  · rw [stations_onIcaoCodesReceived, stations_onAircraftUpdateReceived]
  · exact stations_onAircraftUpdateReceived lib env situation

omit [TimestampWithOffsetBased S] [TimestampWithOffsetBased C] in
theorem stations_onPilotDisconnected :
    (m.onPilotDisconnected callsign).1.atcStationsOnline = m.atcStationsOnline := by
  unfold onPilotDisconnected
  split_ifs <;> rfl

omit [TimestampWithOffsetBased S] [TimestampWithOffsetBased C] in
/-- Where the monitor is connected, a controller who leaves is removed from the list. -/
theorem stations_onAtcControllerDisconnected :
    (m.onAtcControllerDisconnected env callsign).1.atcStationsOnline =
      if env.isConnectedAndNotShuttingDown then
        m.atcStationsOnline.filter (fun station => !station.callsign.equals callsign)
      else m.atcStationsOnline := by
  unfold onAtcControllerDisconnected
  cases env.isConnectedAndNotShuttingDown with
  | false => rfl
  | true =>
    rw [if_neg (by decide), if_pos rfl]
    dsimp only
    split
    case h_1 hnone =>
      symm
      rw [List.filter_eq_self]
      intro station hstation
      rw [List.find?_eq_none] at hnone
      rw [Bool.not_eq_true', Bool.eq_false_iff]
      exact hnone station hstation
    case h_2 => rfl

end Stations

/-! ## Messages -/

section Slots

variable {lib : AirspaceLibrary S C E} {m : CAirspaceMonitor S C} {u : Unicode}
  (reader : SignalReader lib) (env : MonitorEnv S)

/-- No station comes with a message but its own. -/
theorem isListed_slot {signal : Fsd.Signal} {action : MonitorAction S}
    (h : reader.slot u signal = some action) {callsign : Callsign}
    (hother : ∀ station, signal = .atcDataUpdateReceived station →
      station.callsign.equals callsign = false) (hm : m.isListed callsign = false) :
    (m.step lib env action).1.isListed callsign = false := by
  -- Most slots leave the stations alone.
  have hkept {m' : CAirspaceMonitor S C} (h : m'.atcStationsOnline = m.atcStationsOnline) :
      m'.isListed callsign = false := by
    unfold isListed
    rw [h]
    exact hm
  cases signal with
  | atcDataUpdateReceived station =>
    cases h
    change (m.onAtcPositionUpdate env station).1.isListed callsign = false
    have hstation := hother station rfl
    unfold onAtcPositionUpdate
    split_ifs
    · exact hm
    · -- the station that is updated keeps its callsign
      unfold isListed at hm ⊢
      rw [List.any_map]
      rw [List.any_eq_false] at hm ⊢
      intro other hmem
      dsimp only [Function.comp_apply]
      split_ifs <;> exact hm other hmem
    · -- A new station has its own callsign.
      unfold isListed at hm ⊢
      rw [List.any_append, hm, List.any_cons, hstation]
      rfl
  | deleteAtcReceived cid =>
    cases h
    have hstations := stations_onAtcControllerDisconnected (m := m) env
      (Callsign.create u cid .noHint)
    unfold isListed at hm ⊢
    change (m.onAtcControllerDisconnected env (Callsign.create u cid
      .noHint)).1.atcStationsOnline.any _ = false
    rw [hstations]
    -- What is filtered was listed before.
    split_ifs
    · rw [List.any_eq_false] at hm ⊢
      exact fun other hmem => hm other (List.mem_of_mem_filter hmem)
    · exact hm
  | deletePilotReceived cid =>
    cases h
    exact hkept (stations_onPilotDisconnected _)
  | pilotDataUpdateReceived =>
    cases h
    exact hkept (stations_onAircraftUpdateReceived lib env _)
  | interimPilotDataUpdatedReceived =>
    cases h
    exact hkept (stations_onAircraftInterimUpdateReceived lib env _ _)
  | euroscopeSimDataUpdatedReceived =>
    cases h
    exact hkept (stations_onAircraftSimDataUpdateReceived lib env _ _ _ _ _)
  | planeInformationReceived =>
    cases h
    exact hkept (stations_onIcaoCodesReceived lib env _ _ _ _)
  | planeInformationFsinnReceived =>
    cases h
    exact hkept (stations_onCustomFSInnPacketReceived lib env _ _ _ _ _)
  | aircraftConfigReceived =>
    cases h
    exact hkept (stations_onAircraftConfigReceived lib env _ _ _)
  | connectionStatusChanged oldStatus newStatus =>
    cases h
    change (m.onConnectionStatusChanged newStatus reader.maxRange).1.isListed callsign = false
    have hrange : (m.setMaxRange reader.maxRange).atcStationsOnline = m.atcStationsOnline := by
      unfold setMaxRange
      split_ifs <;> rfl
    -- A new connection state clears all stations, or none.
    unfold onConnectionStatusChanged
    dsimp only
    split_ifs
    · rfl
    · rfl
    · exact hkept hrange
    · exact hm
  | _ => cases h

/-- No aircraft comes with a message but its own. -/
theorem callsigns_slot {signal : Fsd.Signal} {action : MonitorAction S}
    (h : reader.slot u signal = some action) {k : QString}
    (hother : ∀ situation : Fsd.AircraftSituation,
      ((∃ code mode, signal = .pilotDataUpdateReceived situation code mode) ∨
        ∃ lights gearDown onGround currentOffsetTimeMs model livery,
          signal = .euroscopeSimDataUpdatedReceived situation lights gearDown onGround
            currentOffsetTimeMs model livery) → key situation.callsign ≠ k)
    (hm : m.provider.callsigns k = none) :
    (m.step lib env action).1.provider.callsigns k = none := by
  -- A slot that only removes does not bring the callsign back.
  have hleft {m m' : CAirspaceMonitor S C} (h : Leaves m m') (hm : m.provider.callsigns k = none) :
      m'.provider.callsigns k = none := by
    rw [Option.eq_none_iff_forall_ne_some]
    intro cs hin
    rw [h.callsigns k cs hin] at hm
    cases hm
  have hkept {r : CAirspaceMonitor S C × List (MonitorSignal S)} {m : CAirspaceMonitor S C}
      (h : Quiet m r) (hm : m.provider.callsigns k = none) : r.1.provider.callsigns k = none := by
    rw [h.callsigns]
    exact hm
  -- A position is what adds a callsign, and only its own.
  have hposition (received : Fsd.AircraftSituation) (hne : key received.callsign ≠ k) :
      (m.onAircraftUpdateReceived lib env (reader.situation received)).1.provider.callsigns k =
        none := by
    rcases onAircraftUpdateReceived_cases (m := m) lib env (reader.situation received) with
      ⟨m', hleaves, hstep⟩ | ⟨-, stored, added, withFsInn, hleaves, -, hcomes, hstep⟩
    · rw [hstep]
      exact hleft hleaves hm
    · rw [hstep]
      rw [hcomes.callsigns, reader.getCallsign_situation, CallsignMap.insert_of_ne _ _ _ hne.symm]
      exact hleft hleaves hm
  cases signal with
  | atcDataUpdateReceived station =>
    cases h
    exact hleft (silent_onAtcPositionUpdate env station).leaves hm
  | deleteAtcReceived cid =>
    cases h
    exact hleft (silent_onAtcControllerDisconnected env _).leaves hm
  | deletePilotReceived cid =>
    cases h
    exact hleft (silent_onPilotDisconnected _).leaves hm
  | pilotDataUpdateReceived situation code mode =>
    cases h
    exact hposition situation (hother situation (Or.inl ⟨code, mode, rfl⟩))
  | interimPilotDataUpdatedReceived =>
    cases h
    exact hkept (quiet_onAircraftInterimUpdateReceived lib env _ _) hm
  | euroscopeSimDataUpdatedReceived situation lights gearDown onGround currentOffsetTimeMs model
      livery =>
    cases h
    have hupdated := hposition situation
      (hother situation (Or.inr ⟨_, _, _, _, _, _, rfl⟩))
    change (m.onAircraftSimDataUpdateReceived lib env _ _ _ _ _).1.provider.callsigns k = none
    -- The situation of a simulator is a position with parts, and maybe with codes.
    unfold onAircraftSimDataUpdateReceived
    dsimp only
    refine hkept (quiet_onAircraftConfigReceived lib env _ _ _) ?_
    split_ifs
    · exact hkept (quiet_onIcaoCodesReceived lib env _ _ _ _) hupdated
    · exact hupdated
  | planeInformationReceived =>
    cases h
    exact hkept (quiet_onIcaoCodesReceived lib env _ _ _ _) hm
  | planeInformationFsinnReceived =>
    cases h
    exact hkept (quiet_onCustomFSInnPacketReceived lib env _ _ _ _ _) hm
  | aircraftConfigReceived =>
    cases h
    exact hkept (quiet_onAircraftConfigReceived lib env _ _ _) hm
  | connectionStatusChanged oldStatus newStatus =>
    cases h
    exact hleft (silent_onConnectionStatusChanged newStatus reader.maxRange).leaves hm
  | _ => cases h

end Slots

end CAirspaceMonitor

open CAirspaceMonitor

/-! ## Lines -/

/-- The line is from the callsign. -/
def SentBy (u : Unicode) (hint : TypeHint) (callsign : Callsign) (lineRaw : QString) : Prop :=
  ∃ messageType tokens sender,
    Fsd.parseLine Fsd.messageTypeMapping lineRaw = .message messageType tokens ∧
    Fsd.senderField messageType tokens = some sender ∧
    (Callsign.create u sender hint).callsign = callsign.callsign

/-- What the client says with a line is about its sender. -/
-- The log entry of a line is no signal, so the signal is from the handler.
theorem comesFrom_of_step (cfg : Fsd.Config) (client : Except Fault ClientState) (env : Fsd.Env)
    (lineRaw : QString) (signal : Fsd.Signal)
    (h : .emit signal ∈
      ((Fsd.core cfg Fsd.messageTypeMapping).step client (.lineReceived env lineRaw)).2) :
    -- A client that failed before says nothing any more.
    ∃ messageType tokens,
      Fsd.parseLine Fsd.messageTypeMapping lineRaw = .message messageType tokens ∧
        Fsd.ComesFrom cfg.unicode messageType tokens signal := by
  have hlogged : (.emit signal : Fsd.Action) ∉
      (Fsd.Event.lineReceived env lineRaw).logged := by
    intro hlogged
    cases List.mem_singleton.mp hlogged
  cases client with
  | error fault => cases h
  | ok c =>
    unfold Fsd.core at h
    dsimp only at h
    cases hhandle : Fsd.handle cfg Fsd.messageTypeMapping c (.lineReceived env lineRaw) with
    | error fault =>
      rw [hhandle] at h
      exact absurd h hlogged
    | ok r =>
      rw [hhandle] at h
      have haction := (List.mem_append.mp h).resolve_left hlogged
      -- Only a message is dispatched; for all other lines there is nothing to say.
      change Fsd.parseMessage cfg env Fsd.messageTypeMapping lineRaw c = .ok r at hhandle
      unfold Fsd.parseMessage at hhandle
      cases hparse : Fsd.parseLine Fsd.messageTypeMapping lineRaw with
      | message messageType tokens =>
        rw [hparse] at hhandle
        exact ⟨messageType, tokens, rfl,
          Fsd.comesFrom_of_dispatch cfg env c tokens messageType r hhandle signal haction⟩
      | _ =>
        rw [hparse] at hhandle
        injection hhandle with hr
        rw [← hr] at haction
        cases haction

section Lines

variable {cfg : Fsd.Config} {lib : AirspaceLibrary S C E} {reader : SignalReader lib}
  {s : Except Fault ClientState × CAirspaceMonitor S C} {line : ReceivedLine S}

/-- What a line keeps, if every signal about its sender keeps it. -/
theorem line_invariant (P : CAirspaceMonitor S C → Prop)
    (hslot : ∀ m signal action messageType tokens,
      -- Every slot that is called gets a signal of the client, which is about the sender.
      Fsd.parseLine Fsd.messageTypeMapping line.lineRaw = .message messageType tokens →
      Fsd.ComesFrom cfg.unicode messageType tokens signal →
      reader.slot cfg.unicode signal = some action → P m →
      P (m.step lib line.monitorEnv action).1)
    (h : P s.2) : P ((clientWithMonitor cfg reader).step s line).1.2 := by
  let inputs := ((Fsd.core cfg Fsd.messageTypeMapping).step s.1
    (.lineReceived line.env line.lineRaw)).2.filterMap (reader.input cfg.unicode line.monitorEnv)
  have hinputs : ∀ input ∈ inputs, input.1 = line.monitorEnv ∧
      ∃ signal messageType tokens,
        Fsd.parseLine Fsd.messageTypeMapping line.lineRaw = .message messageType tokens ∧
        Fsd.ComesFrom cfg.unicode messageType tokens signal ∧
        reader.slot cfg.unicode signal = some input.2 := by
    intro input hinput
    rcases List.mem_filterMap.mp hinput with ⟨action, haction, htaken⟩
    cases action with
    | emit signal =>
      rcases Option.map_eq_some_iff.mp htaken with ⟨slot, hslot', rfl⟩
      rcases comesFrom_of_step cfg s.1 line.env line.lineRaw signal haction with
        ⟨messageType, tokens, hparse, hcomes⟩
      exact ⟨rfl, signal, messageType, tokens, hparse, hcomes, hslot'⟩
    | _ => cases htaken
  have hrun := (airspaceMonitor lib).run_invariant_of _ (fun m _ => P m)
    ?_ inputs s.2 [] ((airspaceMonitor lib).allSteps_of_forall_mem inputs s.2 hinputs) h
  · exact hrun
  · rintro m out ⟨env, action⟩ ⟨rfl, signal, messageType, tokens, hparse, hcomes, hslot'⟩ hm
    exact hslot m signal action messageType tokens hparse hcomes hslot' hm

theorem isListed_line {callsign : Callsign}
    (hother : ¬SentBy cfg.unicode .atc callsign line.lineRaw) (h : s.2.isListed callsign = false) :
    ((clientWithMonitor cfg reader).step s line).1.2.isListed callsign = false := by
  refine line_invariant (fun m => m.isListed callsign = false) ?_ h
  intro m signal action messageType tokens hparse hcomes hslot hm
  refine isListed_slot reader line.monitorEnv hslot (fun station hsignal => ?_) hm
  rw [hsignal] at hcomes
  rcases hcomes with ⟨sender, hsender, hstation⟩
  unfold Callsign.equals
  rw [beq_eq_false_iff_ne, hstation]
  exact fun hsame => hother ⟨messageType, tokens, sender, hparse, hsender, hsame⟩

theorem callsigns_line {callsign : Callsign}
    (hother : ¬SentBy cfg.unicode .aircraft callsign line.lineRaw)
    (h : s.2.provider.callsigns callsign.callsign = none) :
    ((clientWithMonitor cfg reader).step s line).1.2.provider.callsigns callsign.callsign =
      none := by
  refine line_invariant (fun m => m.provider.callsigns callsign.callsign = none) ?_ h
  intro m signal action messageType tokens hparse hcomes hslot hm
  refine callsigns_slot reader line.monitorEnv hslot (fun situation hsignal hsame => ?_) hm
  refine hother ?_
  rcases hsignal with ⟨_, _, hsignal⟩ | ⟨_, _, _, _, _, _, hsignal⟩
  all_goals
    rw [hsignal] at hcomes
    rcases hcomes with ⟨sender, hsender, hsituation⟩
    rw [hsituation] at hsame
    exact ⟨messageType, tokens, sender, hparse, hsender, hsame⟩

/-- Who is away stays away until he sends something. -/
theorem absent_run {P : CAirspaceMonitor S C → Prop} {sends : QString → Prop}
    (hline : ∀ (s : Except Fault ClientState × CAirspaceMonitor S C) (line : ReceivedLine S),
      ¬sends line.lineRaw → P s.2 → P ((clientWithMonitor cfg reader).step s line).1.2)
    (later : List (ReceivedLine S)) (hlater : ∀ line ∈ later, ¬sends line.lineRaw) (h : P s.2) :
    P ((clientWithMonitor cfg reader).run s later).1.2 :=
  (clientWithMonitor cfg reader).run_invariant_of (fun _ line => ¬sends line.lineRaw)
    (fun s _ => P s.2) (fun s _ line hline' hs => hline s line hline' hs) later s []
    ((clientWithMonitor cfg reader).allSteps_of_forall_mem later s hlater) h

/-! ## Departures -/

/-- A controller who leaves is not in the list from then on, until he sends something, and
    the other stations stay in it as they are. -/
def AtcDeparts (cfg : Fsd.Config) (reader : SignalReader lib)
    (s : Except Fault ClientState × CAirspaceMonitor S C) (line : ReceivedLine S)
    (callsign : Callsign) : Prop :=
  (∀ later : List (ReceivedLine S),
    (∀ other ∈ later, ¬SentBy cfg.unicode .atc callsign other.lineRaw) →
    ((clientWithMonitor cfg reader).run s (line :: later)).1.2.isListed callsign = false) ∧
  ((clientWithMonitor cfg reader).step s line).1.2.atcStationsOnline.filter
      (fun station => !station.callsign.equals callsign) =
    s.2.atcStationsOnline.filter (fun station => !station.callsign.equals callsign)

/-- A pilot who leaves is not in range from then on, until he sends something, and the other
    aircraft stay in range as they are. -/
def PilotDeparts (cfg : Fsd.Config) (reader : SignalReader lib)
    (s : Except Fault ClientState × CAirspaceMonitor S C) (line : ReceivedLine S)
    (callsign : Callsign) : Prop :=
  (∀ later : List (ReceivedLine S),
    (∀ other ∈ later, ¬SentBy cfg.unicode .aircraft callsign other.lineRaw) →
    ((clientWithMonitor cfg reader).run s (line :: later)).1.2.provider.aircraftInRange.contains
      (key callsign) = false) ∧
  ∀ k, k ≠ key callsign →
    ((clientWithMonitor cfg reader).step s line).1.2.provider.aircraftInRange k =
      s.2.provider.aircraftInRange k

section

variable {client : ClientState} {m : CAirspaceMonitor S C} {tokens : QStringList}

/-- The monitor removes the station of the second token. -/
theorem step_deleteATC
    (hline : Fsd.parseLine Fsd.messageTypeMapping line.lineRaw = .message .deleteATC tokens) :
    ((clientWithMonitor cfg reader).step (.ok client, m) line).1.2 =
      (m.onAtcControllerDisconnected line.monitorEnv
        (Callsign.create cfg.unicode (tokens.getD 1 []) .noHint)).1 := by
  have hhandle : Fsd.handle cfg Fsd.messageTypeMapping client
    (.lineReceived line.env line.lineRaw) = Fsd.handleDeleteATC cfg tokens client := by
    change Fsd.parseMessage cfg line.env Fsd.messageTypeMapping line.lineRaw client = _
    unfold Fsd.parseMessage
    rw [hline]
    rfl
  unfold clientWithMonitor Fsd.core
  dsimp only
  rw [hhandle, Fsd.handleDeleteATC_eq]
  rfl

theorem step_deletePilot
    (hline : Fsd.parseLine Fsd.messageTypeMapping line.lineRaw = .message .deletePilot tokens) :
    ((clientWithMonitor cfg reader).step (.ok client, m) line).1.2 = (m.onPilotDisconnected
        (Callsign.create cfg.unicode (tokens.getD 1 []) .noHint)).1 := by
  have hhandle : Fsd.handle cfg Fsd.messageTypeMapping client
    (.lineReceived line.env line.lineRaw) = Fsd.handleDeletePilot cfg tokens client := by
    change Fsd.parseMessage cfg line.env Fsd.messageTypeMapping line.lineRaw client = _
    unfold Fsd.parseMessage
    rw [hline]
    rfl
  unfold clientWithMonitor Fsd.core
  dsimp only
  rw [hhandle, Fsd.handleDeletePilot_eq]
  rfl

omit [TimestampWithOffsetBased S] [TimestampWithOffsetBased C] in
/-- Removing one station is removing another one only if they are the same, or neither is
    there. -/
theorem filter_station_iff {stations left : List AtcStation} {callsign deleted : Callsign}
    -- What is left, by the texts of the callsigns.
    (hleft : left = stations.filter (fun station => !station.callsign.equals deleted)) :
    (left.any (fun station => station.callsign.equals callsign) = false ∧
        left.filter (fun station => !station.callsign.equals callsign) =
          stations.filter (fun station => !station.callsign.equals callsign)) ↔
      deleted.callsign = callsign.callsign ∨
        (stations.any (fun station => station.callsign.equals callsign) = false ∧
          stations.any (fun station => station.callsign.equals deleted) = false) := by
  have hmem (station : AtcStation) :
      station ∈ left ↔ station ∈ stations ∧ station.callsign.callsign ≠ deleted.callsign := by
    rw [hleft, List.mem_filter, Bool.not_eq_true', Callsign.equals, beq_eq_false_iff_ne]
  simp only [List.any_eq_false, Callsign.equals, beq_iff_eq]
  constructor
  · rintro ⟨haway, hkept⟩
    by_cases hsame : deleted.callsign = callsign.callsign
    · exact Or.inl hsame
    refine Or.inr ⟨fun station hstation heq => ?_, fun station hstation heq => ?_⟩
    · refine haway station ((hmem station).mpr ⟨hstation, ?_⟩) heq
      rw [heq]
      exact Ne.symm hsame
    · -- the station that was deleted is not the one that left
      have hother : station ∈ stations.filter (fun station =>
          !(station.callsign.callsign == callsign.callsign)) := by
        refine List.mem_filter.mpr ⟨hstation, ?_⟩
        rw [Bool.not_eq_true', beq_eq_false_iff_ne, heq]
        exact hsame
      rw [← hkept] at hother
      exact ((hmem station).mp (List.mem_of_mem_filter hother)).2 heq
  · rintro (hsame | ⟨haway, hnone⟩)
    · refine ⟨fun station hstation heq => ?_, ?_⟩
      · exact ((hmem station).mp hstation).2 (heq.trans hsame.symm)
      · simp [hleft, Callsign.equals, hsame]
    · have hall : left = stations := by
        refine hleft.trans (List.filter_eq_self.mpr fun station hstation => ?_)
        rw [Bool.not_eq_true', Callsign.equals, beq_eq_false_iff_ne]
        exact hnone station hstation
      rw [hall]
      exact ⟨haway, rfl⟩

/-- When a controller's departure is tracked: the identification is the callsign, or there is
    nothing to do and nothing is done. -/
theorem atcDeparts_iff
    (hline : Fsd.parseLine Fsd.messageTypeMapping line.lineRaw = .message .deleteATC tokens)
    (callsign : Callsign) :
    AtcDeparts cfg reader (.ok client, m) line callsign ↔
      let deleted := Callsign.create cfg.unicode (tokens.getD 1 []) .noHint
      -- The station that is deleted is in the second token, whoever sent the line.
      (line.monitorEnv.isConnectedAndNotShuttingDown = true ∧
          deleted.callsign = callsign.callsign) ∨
        (m.isListed callsign = false ∧
          (line.monitorEnv.isConnectedAndNotShuttingDown = false ∨
            m.isListed deleted = false)) := by
  -- Once it is away, only a line of its own brings it back.
  generalize hdeleted : Callsign.create cfg.unicode (tokens.getD 1 []) .noHint = deleted
  have hstep : ((clientWithMonitor cfg reader).step (.ok client, m) line).1.2.atcStationsOnline =
      if line.monitorEnv.isConnectedAndNotShuttingDown then
        m.atcStationsOnline.filter (fun station => !station.callsign.equals deleted)
      else m.atcStationsOnline := by
    rw [step_deleteATC hline, hdeleted, stations_onAtcControllerDisconnected]
  -- So it is enough to look at the step itself.
  have haway (h : ((clientWithMonitor cfg reader).step (.ok client, m) line).1.2.isListed callsign =
      false) (later : List (ReceivedLine S))
      (hlater : ∀ other ∈ later, ¬SentBy cfg.unicode .atc callsign other.lineRaw) :
      ((clientWithMonitor cfg reader).run (.ok client, m) (line :: later)).1.2.isListed callsign =
        false :=
    absent_run (P := fun m => m.isListed callsign = false)
      (fun s line hother hs => isListed_line hother hs) later hlater h
  have hdeparts : AtcDeparts cfg reader (.ok client, m) line callsign ↔
      ((clientWithMonitor cfg reader).step (.ok client, m) line).1.2.isListed callsign = false ∧
        ((clientWithMonitor cfg reader).step (.ok client, m) line).1.2.atcStationsOnline.filter
            (fun station => !station.callsign.equals callsign) =
          m.atcStationsOnline.filter (fun station => !station.callsign.equals callsign) := by
    refine and_congr_left fun _ => ⟨fun h => ?_, haway⟩
    exact h [] fun _ hother => absurd hother List.not_mem_nil
  rw [hdeparts]
  unfold isListed
  rw [hstep]
  cases line.monitorEnv.isConnectedAndNotShuttingDown with
  | true =>
    rw [if_pos rfl, filter_station_iff rfl]
    simp
  | false =>
    simp

omit [TimestampWithOffsetBased S] [TimestampWithOffsetBased C] in
theorem aircraftInRange_onPilotDisconnected (callsign : Callsign) :
    (m.onPilotDisconnected callsign).1.provider.aircraftInRange =
      m.provider.aircraftInRange.remove (key callsign) := by
  unfold onPilotDisconnected
  split <;> rfl

omit [TimestampWithOffsetBased S] [TimestampWithOffsetBased C] in
/-- Removing one entry is removing another one only if they are the same, or neither is
    there. -/
theorem remove_iff {V : Type} (entries : CallsignMap V) (k deleted : QString) :
    ((entries.remove deleted).contains k = false ∧
        ∀ other, other ≠ k → entries.remove deleted other = entries other) ↔
      deleted = k ∨ (entries.contains k = false ∧ entries.contains deleted = false) := by
  unfold CallsignMap.contains
  simp only [Option.isSome_eq_false_iff, Option.isNone_iff_eq_none]
  constructor
  · rintro ⟨haway, hkept⟩
    by_cases hsame : deleted = k
    · exact Or.inl hsame
    · refine Or.inr ⟨?_, ?_⟩
      · rw [← haway, CallsignMap.remove_of_ne _ _ (Ne.symm hsame)]
      · rw [← hkept deleted hsame, CallsignMap.remove_self]
  · rintro (rfl | ⟨haway, hnone⟩)
    · exact ⟨CallsignMap.remove_self _ _, fun other hother => CallsignMap.remove_of_ne _ _ hother⟩
    · have hall : entries.remove deleted = entries := by
        funext other
        by_cases hother : other = deleted
        · rw [hother, CallsignMap.remove_self, hnone]
        · rw [CallsignMap.remove_of_ne _ _ hother]
      rw [hall]
      exact ⟨haway, fun _ _ => rfl⟩

/-- When a pilot's departure is tracked. -/
theorem pilotDeparts_iff
    (hline : Fsd.parseLine Fsd.messageTypeMapping line.lineRaw = .message .deletePilot tokens)
    (callsign : Callsign) :
    PilotDeparts cfg reader (.ok client, m) line callsign ↔
      let deleted := Callsign.create cfg.unicode (tokens.getD 1 []) .noHint
      -- The provider has an aircraft whenever it has its callsign.
      deleted.callsign = callsign.callsign ∨
        (m.provider.aircraftInRange.contains (key callsign) = false ∧
          m.provider.aircraftInRange.contains (key deleted) = false) := by
  have hstep : ((clientWithMonitor cfg reader).step (.ok client, m)
      line).1.2.provider.aircraftInRange = m.provider.aircraftInRange.remove
        (key (Callsign.create cfg.unicode (tokens.getD 1 []) .noHint)) := by
    rw [step_deletePilot hline, aircraftInRange_onPilotDisconnected]
  have hcontains (m : CAirspaceMonitor S C) :
      m.provider.aircraftInRange.contains (key callsign) = false ↔
        m.provider.callsigns callsign.callsign = none := by
    rw [← RemoteAircraftProvider.isSome_callsigns, Option.isSome_eq_false_iff,
      Option.isNone_iff_eq_none]
    rfl
  have haway (h : ((clientWithMonitor cfg reader).step (.ok client, m)
        line).1.2.provider.aircraftInRange.contains (key callsign) = false)
      -- As for stations, the step decides.
      (later : List (ReceivedLine S))
      (hlater : ∀ other ∈ later, ¬SentBy cfg.unicode .aircraft callsign other.lineRaw) :
      ((clientWithMonitor cfg reader).run (.ok client, m)
        (line :: later)).1.2.provider.aircraftInRange.contains (key callsign) = false := by
    rw [hcontains] at h ⊢
    exact absent_run (P := fun m => m.provider.callsigns callsign.callsign = none)
      (fun s line hother hs => callsigns_line hother hs) later hlater h
  have hdeparts : PilotDeparts cfg reader (.ok client, m) line callsign ↔
      ((clientWithMonitor cfg reader).step (.ok client, m)
          line).1.2.provider.aircraftInRange.contains (key callsign) = false ∧
        ∀ k, k ≠ key callsign → ((clientWithMonitor cfg reader).step (.ok client, m)
          line).1.2.provider.aircraftInRange k = m.provider.aircraftInRange k := by
    refine and_congr_left fun _ => ⟨fun h => ?_, haway⟩
    exact h [] fun _ hother => absurd hother List.not_mem_nil
  rw [hdeparts, hstep]
  exact remove_iff _ _ _

end

end Lines

/-- Every position is where the own aircraft is. -/
def sampleReader : SignalReader sampleAirspace where
  situation received := ⟨received.callsign, 0, 0⟩
  getCallsign_situation _ := rfl
  samePosition _ _ := false
  parts _ _ _ := []
  jsonObject _ := []
  maxRange := CLength.null

/-- A line that comes to a connected pilot. -/
def sampleLine (lineRaw : String) : ReceivedLine SampleSituation where
  env := Fsd.quietEnv
  monitorEnv := sampleMonitorEnv 0
  lineRaw := lineRaw.toList

/-- A controller and a pilot who are there. -/
def sampleTraffic : List (ReceivedLine SampleSituation) :=
  [sampleLine "%EDDF_TWR:19900:4:50:5:50.0:8.0:0:0", sampleLine "@N:DLH2:2000:1:50.0:8.0:0:0:0:0"]

end NeoSwift.Core
