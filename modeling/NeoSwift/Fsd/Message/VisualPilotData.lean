import NeoSwift.Fsd.Message.Position

/-!
# Visual Positions

A moving aircraft sends its state in two messages that are the same but for their
identifier, and one that does not move leaves out the velocities. The messages are
converted to one another before they are sent and after they are received, and a
conversion should not notice whether there was a line in between.

It does in one place. The nose gear angle of an aircraft that does not move is written
where the velocities would start and read where it is when there are velocities. So it is
not found, and zero is read.

## Main definitions

* `VisualPilotDataUpdate.toPeriodic`, `VisualPilotDataUpdate.toStopped`: The conversions
  that are not with the messages.
* `VisualState.stopped`: A state without its velocities.
* `ComeBack`, `ConversionsCommute`: What holds of the messages and of the conversions.

## Theorems

* `fromTokens_toPeriodic`, `fromTokens_toStopped`: What is read of a converted message.
* `visual_pilot_data_iff`: When all messages come back, and the conversions commute.
* `nose_gear_is_lost`: An aircraft that does not move, with a nose gear angle.
-/

namespace NeoSwift.Fsd

open Numeral (OnGrid)

namespace VisualState

/-- An aircraft that does not move. -/
def stopped (v : VisualState) : VisualState :=
  { v with
    xVelocity := 0
    yVelocity := 0
    zVelocity := 0
    pitchRadPerSec := 0
    bankRadPerSec := 0
    headingRadPerSec := 0 }

end VisualState

namespace VisualPilotDataUpdate

def toPeriodic (m : VisualPilotDataUpdate) : VisualPilotDataPeriodic :=
  VisualPilotDataPeriodic.create m.sender m.state

def toStopped (m : VisualPilotDataUpdate) : VisualPilotDataStopped :=
  VisualPilotDataStopped.create m.sender m.state.latitude m.state.longitude m.state.altitudeTrue
    m.state.heightAgl m.state.pitch m.state.bank m.state.heading m.state.noseGearAngle

end VisualPilotDataUpdate

/-- Each of the three messages comes back from its tokens. -/
def ComeBack (update : VisualPilotDataUpdate) (periodic : VisualPilotDataPeriodic)
    (stopped : VisualPilotDataStopped) : Prop :=
  VisualPilotDataUpdate.fromTokens update.toTokens = .ok update ∧
    VisualPilotDataPeriodic.fromTokens periodic.toTokens = .ok periodic ∧
    VisualPilotDataStopped.fromTokens stopped.toTokens = .ok stopped

/-- What is converted, written, read and converted back is the message, or its state without
    velocities. -/
def ConversionsCommute (update : VisualPilotDataUpdate) : Prop :=
  (VisualPilotDataPeriodic.fromTokens update.toPeriodic.toTokens).map
      VisualPilotDataPeriodic.toUpdate = .ok update ∧
    (VisualPilotDataStopped.fromTokens update.toStopped.toTokens).map
      VisualPilotDataStopped.toUpdate = .ok { update with state := update.state.stopped }

variable {update : VisualPilotDataUpdate}

theorem update_comes_back (hrange : Message.InRange update) :
    VisualPilotDataUpdate.fromTokens update.toTokens = .ok update := by
  have hread : VisualPilotDataUpdate.fromTokens update.toTokens
      = (VisualState.read update.toTokens).map (VisualPilotDataUpdate.create update.sender) := rfl
  have hstate : VisualState.read update.toTokens = .ok update.state :=
    VisualState.read_toTokens hrange.2
  rw [hread, hstate, Except.map, VisualPilotDataUpdate.create, ← hrange.1]

theorem periodic_comes_back {periodic : VisualPilotDataPeriodic}
    (hrange : Message.InRange periodic) :
    VisualPilotDataPeriodic.fromTokens periodic.toTokens = .ok periodic := by
  have hread : VisualPilotDataPeriodic.fromTokens periodic.toTokens
      = (VisualState.read periodic.toTokens).map
        (VisualPilotDataPeriodic.create periodic.sender) := rfl
  have hstate : VisualState.read periodic.toTokens = .ok periodic.state :=
    VisualState.read_toTokens hrange.2
  rw [hread, hstate, Except.map, VisualPilotDataPeriodic.create, ← hrange.1]

theorem fromTokens_toPeriodic (hrange : Message.InRange update) :
    (VisualPilotDataPeriodic.fromTokens update.toPeriodic.toTokens).map
      VisualPilotDataPeriodic.toUpdate = .ok update := by
  have hperiodic : Message.InRange update.toPeriodic := ⟨rfl, hrange.2⟩
  have hback : update.toPeriodic.toUpdate = update := by
    unfold VisualPilotDataUpdate.toPeriodic VisualPilotDataPeriodic.toUpdate
      VisualPilotDataPeriodic.create VisualPilotDataUpdate.create
    rw [← hrange.1]
  rw [periodic_comes_back hperiodic, Except.map, hback]

/-- Whatever the nose gear angle, zero is read. -/
theorem fromTokens_toStopped
    (hrange : update.state.PositionInRange) :
    (VisualPilotDataStopped.fromTokens update.toStopped.toTokens).map
        VisualPilotDataStopped.toUpdate
      = .ok (VisualPilotDataUpdate.create update.sender
        { update.state.stopped with noseGearAngle := 0 }) := by
  rw [update.toStopped.fromTokens_toTokens hrange]
  rfl

/-- A message of an aircraft that does not move comes back exactly where its nose gear angle
    is zero. -/
theorem stopped_comes_back_iff {stopped : VisualPilotDataStopped}
    (hreceiver : stopped.receiver = []) (hrange : stopped.state.PositionInRange) :
    VisualPilotDataStopped.fromTokens stopped.toTokens = .ok stopped ↔
      stopped.noseGearAngle = 0 := by
  rw [stopped.fromTokens_toTokens hrange, Except.ok.injEq]
  constructor
  · intro heq
    exact (congrArg VisualPilotDataStopped.noseGearAngle heq).symm
  · intro hzero
    rcases stopped with ⟨⟨sender, receiver⟩, latitude, longitude, altitudeTrue, heightAgl, pitch,
      bank, heading, noseGearAngle⟩
    subst hreceiver hzero
    rfl

theorem conversionsCommute_iff (hrange : Message.InRange update) :
    ConversionsCommute update ↔ update.state.noseGearAngle = 0 := by
  have hreceiver := hrange.1
  unfold ConversionsCommute
  rw [and_iff_right (fromTokens_toPeriodic hrange), fromTokens_toStopped hrange.2.1,
    Except.ok.injEq]
  constructor
  · intro heq
    exact (congrArg (fun m => m.state.noseGearAngle) heq).symm
  · intro hzero
    rcases update with ⟨⟨sender, receiver⟩, state⟩
    subst hreceiver
    unfold VisualPilotDataUpdate.create VisualState.stopped
    rw [hzero]

/-- For messages in the precision of the line, all is well exactly where no aircraft that does
    not move has a nose gear angle. -/
theorem visual_pilot_data_iff (update : VisualPilotDataUpdate) (periodic : VisualPilotDataPeriodic)
    (stopped : VisualPilotDataStopped) (hupdate : Message.InRange update)
    (hperiodic : Message.InRange periodic) (hreceiver : stopped.receiver = [])
    (hstopped : stopped.state.PositionInRange) :
    (ComeBack update periodic stopped ↔ stopped.noseGearAngle = 0) ∧
      (ConversionsCommute update ↔ update.state.noseGearAngle = 0) := by
  refine ⟨?_, conversionsCommute_iff hupdate⟩
  unfold ComeBack
  rw [and_iff_right (update_comes_back hupdate), and_iff_right (periodic_comes_back hperiodic),
    stopped_comes_back_iff hreceiver hstopped]

/-- An aircraft over Frankfurt that does not move, with its nose gear turned. -/
def parkedAircraft (noseGearAngle : ℚ) : VisualPilotDataUpdate :=
  VisualPilotDataUpdate.create "DLH1"
    { latitude := 50, longitude := 8, altitudeTrue := 364, heading := 90, noseGearAngle }

theorem parkedAircraft_inRange (n : ℤ) : Message.InRange (parkedAircraft n) := by
  have hgrid : ∀ (p : ℕ) (k : ℤ), OnGrid p k := fun p k => ⟨k * 10 ^ p, by push_cast; rfl⟩
  have hattitude : (parkedAircraft n).state.attitude.Representable := by
    refine ⟨⟨0, rfl, by omega, by omega⟩, ⟨0, rfl, by omega, by omega⟩, 256, by omega, ?_⟩
    change (90 : ℚ) = _
    norm_num
  exact ⟨rfl, ⟨hgrid 7 50, hgrid 7 8, hgrid 2 364, hgrid 2 0, hattitude⟩, hgrid 4 0, hgrid 4 0,
    hgrid 4 0, hgrid 4 0, hgrid 4 0, hgrid 4 0, hgrid 2 n⟩

theorem visual_pilot_data_parked :
    ComeBack (parkedAircraft 0) (parkedAircraft 0).toPeriodic (parkedAircraft 0).toStopped ∧
      ConversionsCommute (parkedAircraft 0) := by
  have hrange : Message.InRange (parkedAircraft 0) := parkedAircraft_inRange 0
  have hboth := visual_pilot_data_iff (parkedAircraft 0) (parkedAircraft 0).toPeriodic
    (parkedAircraft 0).toStopped hrange ⟨rfl, hrange.2⟩ rfl hrange.2.1
  exact ⟨hboth.1.mpr rfl, hboth.2.mpr rfl⟩

/-- Turned by ten degrees, the nose gear is lost. -/
theorem nose_gear_is_lost :
    ¬VisualPilotDataStopped.fromTokens (parkedAircraft 10).toStopped.toTokens
        = .ok (parkedAircraft 10).toStopped ∧ ¬ConversionsCommute (parkedAircraft 10) := by
  have hrange : Message.InRange (parkedAircraft 10) := parkedAircraft_inRange 10
  refine ⟨fun hback => ?_, fun hcommute => ?_⟩
  · have hzero := (@stopped_comes_back_iff (parkedAircraft 10).toStopped rfl hrange.2.1).mp hback
    exact absurd hzero (by decide +kernel)
  · have hzero := (conversionsCommute_iff hrange).mp hcommute
    exact absurd hzero (by decide +kernel)

end NeoSwift.Fsd
