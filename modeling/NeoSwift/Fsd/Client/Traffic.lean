import NeoSwift.Fsd.Client.Atis

/-!
# Traffic

Whose line makes the client say that a controller or an aircraft is there. The sender of
a message is its first token, but a position of a pilot has its transponder mode in front.
A position that is too short has no sender, and runs into an assertion before anybody is
told.

The two messages by which somebody leaves have a sender and an identification, and what
the client makes known is the identification.

## Main definitions

* `senderField`: The token of a line that says who it is from.
* `ComesFrom`: A signal about somebody is about the sender of the line.

## Theorems

* `comesFrom_of_dispatch`: So it is with every line.
* `handleDeleteATC_eq`, `handleDeletePilot_eq`: What the delete messages do.
-/

namespace NeoSwift.Fsd

open Aviation (Callsign Unicode)
open Fallible

/-- The token that says who a line is from. -/
def senderField : MessageType → QStringList → Option QString
  | .pilotDataUpdate, tokens | .euroscopeSimData, tokens => tokens[1]?
  | _, tokens => tokens[0]?

/-- A signal that somebody is there is about the sender of the line. -/
def ComesFrom (u : Unicode) (messageType : MessageType) (tokens : QStringList) : Signal → Prop
  | .atcDataUpdateReceived station => ∃ sender, senderField messageType tokens = some sender ∧
    station.callsign = Callsign.create u sender .atc
  | .pilotDataUpdateReceived situation _ _ =>
    ∃ sender, senderField messageType tokens = some sender ∧
      situation.callsign = Callsign.create u sender .aircraft
  | .euroscopeSimDataUpdatedReceived situation _ _ _ _ _ _ =>
    ∃ sender, senderField messageType tokens = some sender ∧
      situation.callsign = Callsign.create u sender .aircraft
  | _ => True

theorem comesFrom_of_ordinary {u : Unicode} {messageType : MessageType} {tokens : QStringList}
    {signal : Signal} (h : signal.isTraffic = false) : ComesFrom u messageType tokens signal := by
  cases signal with
  | atcDataUpdateReceived | pilotDataUpdateReceived | euroscopeSimDataUpdatedReceived =>
      cases h
  | _ => trivial

section

variable (cfg : Config) (env : Env) (s : ClientState) (tokens : QStringList)

variable {messageType : MessageType}

theorem comesFrom_of_frame {r : ClientState × List Action}
    (h : ∀ a ∈ r.2, a.IsOrdinary) (signal : Signal) (hsignal : .emit signal ∈ r.2) :
    ComesFrom cfg.unicode messageType tokens signal :=
  comesFrom_of_ordinary (h _ hsignal)

/-- A reader behind a length check has its default message or what it reads. -/
theorem guarded_cases {M : Type} {n : ℕ} {dflt m : M} {read : Except Fault M}
    (h : guarded n dflt tokens read = .ok m) : m = dflt ∨ (n ≤ tokens.length ∧ read = .ok m) := by
  by_cases hlen : tokens.length < n
  · rw [guarded_of_short hlen] at h
    injection h with h
    exact Or.inl h.symm
  · rw [guarded_of_le (by omega)] at h
    exact Or.inr ⟨by omega, h⟩

theorem sender_atcDataUpdate {m : AtcDataUpdate} (h : AtcDataUpdate.fromTokens tokens = .ok m) :
    m = {} ∨ tokens[0]? = some m.sender := by
  refine (guarded_cases tokens h).imp id ?_
  rintro ⟨hlen, hread⟩
  by_cases h8 : 7 < tokens.length
  · simp (disch := omega) only [tokenAt_of_lt] at hread
    injection hread with hread
    rw [← hread, List.getElem?_eq_getElem (by omega)]
    rfl
  · simp (disch := omega) only [tokenAt_of_lt, tokenAt_of_le] at hread
    exact absurd hread (by intro h; cases h)

theorem sender_pilotDataUpdate {m : PilotDataUpdate}
    (h : PilotDataUpdate.fromTokens tokens = .ok m) : m = {} ∨ tokens[1]? = some m.sender := by
  refine (guarded_cases tokens h).imp id ?_
  rintro ⟨hlen, hread⟩
  simp (disch := omega) only [tokenAt_of_lt] at hread
  injection hread with hread
  rw [← hread, List.getElem?_eq_getElem (by omega)]
  rfl

theorem sender_euroscopeSimData {m : EuroscopeSimData}
    (h : EuroscopeSimData.fromTokens tokens = .ok m) : m = {} ∨ tokens[1]? = some m.sender := by
  refine (guarded_cases tokens h).imp id ?_
  rintro ⟨hlen, hread⟩
  simp (disch := omega) only [tokenAt_of_lt] at hread
  injection hread with hread
  rw [← hread, List.getElem?_eq_getElem (by omega)]
  rfl

theorem comesFrom_updateAtisMap (callsign : QString)
    (type : AtisLineType) (line : QString) (signal : Signal)
    (h : .emit signal ∈ (updateAtisMap cfg callsign type line s).2) :
    ComesFrom cfg.unicode messageType tokens signal := by
  refine comesFrom_of_ordinary ?_
  have hordinary : ∀ a ∈ (updateAtisMap cfg callsign type line s).2, a.IsOrdinary := by
    have hnil : ∀ a ∈ ([] : List Action), a.IsOrdinary := fun a h => absurd h List.not_mem_nil
    unfold updateAtisMap
    dsimp only
    split
    · exact hnil
    · exact hnil
    · exact hnil
    · split
      · split
        · exact List.forall_mem_singleton.mpr rfl
        · exact List.forall_mem_cons.mpr ⟨rfl, List.forall_mem_singleton.mpr rfl⟩
      · exact hnil
  exact hordinary _ h

/-- A login says nothing about traffic. -/
theorem sendClientIdentification_ordinary (fsdChallenge : QString) (signal : Signal)
    (h : .emit signal ∈ (sendClientIdentification cfg env fsdChallenge s).2) :
    signal.isTraffic = false := by
  have hqueued {c : Prop} [Decidable c] {message : QString} {others : List Action}
      (h : .emit signal ∈ (if c then [Action.queue message] else []) ++ others) :
      .emit signal ∈ others := by
    refine (List.mem_append.mp h).resolve_left fun hqueue => ?_
    split_ifs at hqueue
    · cases List.mem_singleton.mp hqueue
    · exact List.not_mem_nil hqueue
  unfold sendClientIdentification at h
  dsimp only at h
  split at h
  · cases List.mem_singleton.mp (hqueued h)
  · rw [List.append_assoc] at h
    rcases List.mem_append.mp (hqueued h) with hlogin | hconnected
    · cases List.mem_singleton.mp hlogin
    · exact (updateConnectionStatus_frame s .connected).actions _ hconnected

theorem comesFrom_handleFsdIdentification :
    Ensures (fun r => ∀ signal, .emit signal ∈ r.2 →
      ComesFrom cfg.unicode messageType tokens signal)
        (handleFsdIdentification cfg env tokens s) := by
  refine ensures_ite (fun _ => ensures_bind fun m _ => (ensures_ok _ _).mpr ?_) fun _ => ?_
  · exact fun signal hsignal =>
      comesFrom_of_ordinary (sendClientIdentification_ordinary cfg env _ _ signal hsignal)
  · exact (ensures_ok _ _).mpr
      (comesFrom_of_frame cfg tokens (disconnectFromServer_frame cfg env s).actions)

theorem comesFrom_handleClientResponse :
    Ensures (fun r => ∀ signal, .emit signal ∈ r.2 →
      ComesFrom cfg.unicode messageType tokens signal) (handleClientResponse cfg tokens s) := by
  have hresponse := handleClientResponse_atis cfg s tokens
  cases hread : ClientResponse.fromTokens tokens with
  | error fault =>
      rw [hread] at hresponse
      rw [hresponse]
      exact ensures_error _ _
  | ok response =>
      rw [hread] at hresponse
      dsimp only at hresponse
      split_ifs at hresponse
      · rw [hresponse]
        exact (ensures_ok _ _).mpr fun signal =>
          comesFrom_updateAtisMap cfg s tokens response.sender _ _ signal
      · exact ensures_mono hresponse fun r hframe => comesFrom_of_frame cfg tokens hframe.actions

/-- Whoever a line makes known is the sender of the line. -/
theorem comesFrom_of_dispatch (messageType : MessageType) :
    Ensures (fun r => ∀ signal, .emit signal ∈ r.2 →
      ComesFrom cfg.unicode messageType tokens signal) (dispatch cfg env messageType tokens s) := by
  have hnone : ∀ signal, (.emit signal : Action) ∈ ([] : List Action) →
      ComesFrom cfg.unicode messageType tokens signal :=
    fun signal h => absurd h List.not_mem_nil
  have hemit (signal : Signal) (h : ComesFrom cfg.unicode messageType tokens signal) :
      ∀ signal', (.emit signal' : Action) ∈ [.emit signal] →
        ComesFrom cfg.unicode messageType tokens signal' := by
    intro signal' hsignal
    injection List.mem_singleton.mp hsignal with hsame
    rw [hsame]
    exact h
  by_cases hordinary : messageType.isTraffic = false ∧ messageType ≠ .fsdIdentification ∧
      messageType ≠ .clientResponse
  · exact ensures_mono (dispatch_frame cfg env s tokens hordinary.1 hordinary.2.1 hordinary.2.2)
      fun r hframe => comesFrom_of_frame cfg tokens hframe.actions
  cases messageType with
  | atcDataUpdate =>
      refine ensures_bind fun m hm => ensures_ite (fun _ => (ensures_ok _ _).mpr hnone)
        fun hcontroller => ensures_ite (fun _ => (ensures_ok _ _).mpr hnone) fun _ => ?_
      refine (ensures_ok _ _).mpr (hemit _ ⟨m.sender, ?_, rfl⟩)
      -- a message of default values is of no controller
      refine (sender_atcDataUpdate tokens hm).resolve_left fun hdefault => hcontroller ?_
      rw [hdefault]
      exact ⟨rfl, Bool.false_ne_true⟩
  | pilotDataUpdate =>
      refine ensures_bind fun m hm => ensures_bind fun fix hfix => ?_
      have hsender : tokens[1]? = some m.sender := by
        refine (sender_pilotDataUpdate tokens hm).resolve_left fun hdefault => ?_
        rw [hdefault] at hfix
        cases hfix
      exact ensures_ite (fun _ => (ensures_ok _ _).mpr (hemit _ ⟨m.sender, hsender, rfl⟩))
        fun _ => (ensures_ok _ _).mpr (hemit _ ⟨m.sender, hsender, rfl⟩)
  | euroscopeSimData =>
      refine ensures_bind fun m hm => ensures_bind fun fix hfix => ensures_bind fun offset _ => ?_
      have hsender : tokens[1]? = some m.sender := by
        refine (sender_euroscopeSimData tokens hm).resolve_left fun hdefault => ?_
        rw [hdefault] at hfix
        cases hfix
      exact (ensures_ok _ _).mpr (hemit _ ⟨m.sender, hsender, rfl⟩)
  | deleteATC => exact ensures_bind fun m _ => (ensures_ok _ _).mpr (hemit _ trivial)
  | deletePilot => exact ensures_bind fun m _ => (ensures_ok _ _).mpr (hemit _ trivial)
  | fsdIdentification =>
      exact ensures_ite (fun _ => comesFrom_handleFsdIdentification cfg env s tokens)
        fun _ => (ensures_ok _ _).mpr hnone
  | clientResponse => exact comesFrom_handleClientResponse cfg s tokens
  | _ => exact absurd ⟨rfl, by decide, by decide⟩ hordinary

/-- What the delete message of a controller does: the station that goes is the one of the
    second token. -/
theorem handleDeleteATC_eq :
    handleDeleteATC cfg tokens s =
      .ok ({ s with atcStations := s.atcStations.filter (fun other =>
          !other.callsign.equals (Callsign.create cfg.unicode (tokens.getD 1 []) .noHint)) },
        [.emit (.deleteAtcReceived (tokens.getD 1 []))]) := by
  rcases tokens with _ | ⟨sender, _ | ⟨cid, rest⟩⟩
  · rfl
  · rfl
  · rfl

/-- The delete message of a pilot, which is forgotten by its sender. -/
theorem handleDeletePilot_eq :
    handleDeletePilot cfg tokens s =
      .ok (clearStateOf s (Callsign.create cfg.unicode (tokens.getD 0 []) .aircraft),
        [.emit (.deletePilotReceived (tokens.getD 1 []))]) := by
  rcases tokens with _ | ⟨sender, _ | ⟨cid, rest⟩⟩
  · rfl
  · rfl
  · rfl

end

end NeoSwift.Fsd
