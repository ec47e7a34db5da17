import NeoSwift.Lib.AssocMap
import NeoSwift.Lib.Machine
import NeoSwift.Misc.TimestampObjectList.Differences
import NeoSwift.Pq.Length

/-!
# Offset Times

How the client guesses when the next position of an aircraft is due. It keeps the time
stamp of the last position by callsign, and the times between the positions before, six
of them, latest first. Their average tells whether an aircraft sends often.

The first position of a callsign has none before it and records no time. The average is
taken of doubles and rounded to the nearest integer, and the loop stops once it has
counted more than it was asked for, so one more is averaged than asked for where there
is one. Rounding to an `int` that does not fit has no defined result, and the sums are
taken to be exact.

## Main definitions

* `receivedPositionFixTsAndGetOffsetTime`: A position arrives.
* `insertLatestOffsetTime`, `averageOffsetTimeMs`: Recording and averaging.
* `recordedOffsets`: The times that are to be recorded for a callsign, in the positions
  alone.
* `latestOffsets`, `AveragesLatest`: What the average is to be, in integers.

## Theorems

* `sumOffsets_eq`: What the loop adds up.
* `keeps_recorded`: What is kept of the recorded times, in every run.
* `averages_recorded`: The average of all that is kept.
* `averages_one_more_and_rounds`: One more is averaged than asked for, and rounded.
-/

namespace NeoSwift.Fsd

open Misc (timeDifferences timeDifferences_cons_cons)

/-- The offset of ordinary positions. -/
def c_positionTimeOffsetMsec : ℤ := 6000

/-- The offset of interim positions. -/
def c_interimPositionTimeOffsetMsec : ℤ := 1500

/-- So many times are kept for a callsign. -/
def c_maxOffsetTimes : ℕ := 6

/-- What the client keeps of the positions, by callsign. -/
structure OffsetTimes where
  m_lastPositionUpdate : AssocMap QString ℤ := ∅
  m_lastOffsetTimes : AssocMap QString (List ℤ) := ∅
  m_additionalOffsetTime : ℤ := 0

namespace OffsetTimes

variable (s : OffsetTimes) (callsign : QString)

/-- The kept times of a callsign, none where there is no entry. -/
def offsets : List ℤ := (s.m_lastOffsetTimes.lookup callsign).getD []

/-- The latest is in front, and the oldest falls off. -/
def insertLatestOffsetTime (offsetMs : ℤ) : OffsetTimes :=
  let offsets := offsetMs :: s.offsets callsign
  let offsets := if c_maxOffsetTimes < offsets.length then offsets.dropLast else offsets
  { s with m_lastOffsetTimes := s.m_lastOffsetTimes.insert callsign offsets }

/-- The loop: how many are counted, and their sum. -/
def sumOffsets (maxLastValues : ℤ) : List ℤ → ℤ → ℤ → ℤ × ℤ
  | [], count, sum => (count, sum)
  | v :: vs, count, sum =>
      let count := count + 1
      let sum := sum + v
      if maxLastValues < count then (count, sum) else sumOffsets maxLastValues vs count sum

/-- The average, and what is left in the reference to the count. -/
def averageOffsetTimeMs (count : ℤ) (maxLastValues : ℤ) : ℤ × ℤ :=
  if (s.offsets callsign).length < 1 then (-1, count)
  else
    let (count, sum) := sumOffsets maxLastValues (s.offsets callsign) 0 0
    (qRound ((sum : ℚ) / count), count)

/-- Notes the time of a position and chooses its offset from the last ones. -/
def receivedPositionFixTsAndGetOffsetTime (markerTs now : ℤ) : OffsetTimes × ℤ :=
  let markerTs := if markerTs < 0 then now else markerTs
  match s.m_lastPositionUpdate.lookup callsign with
  | none =>
      ({ s with m_lastPositionUpdate := s.m_lastPositionUpdate.insert callsign markerTs },
        c_positionTimeOffsetMsec)
  | some oldTs =>
      let s := { s with m_lastPositionUpdate := s.m_lastPositionUpdate.insert callsign markerTs }
      let s := s.insertLatestOffsetTime callsign |markerTs - oldTs|
      let (avgTimeMs, count) := s.averageOffsetTimeMs callsign 0 3
      let offsetTime :=
        if avgTimeMs < c_interimPositionTimeOffsetMsec ∧ 3 ≤ count then
          c_interimPositionTimeOffsetMsec
        else c_positionTimeOffsetMsec
      (s, s.m_additionalOffsetTime + offsetTime)

/-- `clearState` for a callsign. -/
def clearCallsign : OffsetTimes :=
  if callsign.isEmpty then s
  else
    { s with
      m_lastPositionUpdate := s.m_lastPositionUpdate.erase callsign
      m_lastOffsetTimes := s.m_lastOffsetTimes.erase callsign }

def clearState : OffsetTimes :=
  { s with m_lastPositionUpdate := ∅, m_lastOffsetTimes := ∅ }

end OffsetTimes

/-- What happens to the offset times. The clock is read where no time stamp is given. -/
inductive PositionEvent where
  | received (callsign : QString) (markerTs now : ℤ)
  | clearCallsign (callsign : QString)
  | clearState

/-- Positions arrive, and each is given an offset time. -/
def positions : Machine OffsetTimes PositionEvent ℤ where
  step s
    | .received callsign markerTs now =>
        let (s, offsetTime) := s.receivedPositionFixTsAndGetOffsetTime callsign markerTs now
        (s, [offsetTime])
    | .clearCallsign callsign => (s.clearCallsign callsign, [])
    | .clearState => (s.clearState, [])

/-- The time stamps received from a callsign since it was cleared, latest first. -/
def noteTimestamp (callsign : QString) (timestamps : List ℤ) : PositionEvent → List ℤ
  | .received callsign' markerTs now =>
      if callsign' = callsign then (if markerTs < 0 then now else markerTs) :: timestamps
      else timestamps
  | .clearCallsign callsign' =>
      if callsign' = callsign ∧ ¬callsign' = [] then [] else timestamps
  | .clearState => []

/-- The times of the positions of a callsign since it was cleared, latest first. -/
def receivedTimestamps (callsign : QString) (events : List PositionEvent) : List ℤ :=
  events.foldl (noteTimestamp callsign) []

/-- The times between them, latest first. -/
def recordedOffsets (callsign : QString) (events : List PositionEvent) : List ℤ :=
  timeDifferences (receivedTimestamps callsign events)

/-- The latest of them, as many as are asked for and no more than are kept. -/
def latestOffsets (callsign : QString) (events : List PositionEvent) (maxLastValues : ℕ) :
    List ℤ :=
  (recordedOffsets callsign events).take (min c_maxOffsetTimes maxLastValues)

/-- The average of the latest in integers. -/
def AveragesLatest (events : List PositionEvent) (callsign : QString) (maxLastValues : ℕ) :
    Prop :=
  ((positions.run {} events).1.averageOffsetTimeMs callsign 0 maxLastValues).1
    = (latestOffsets callsign events maxLastValues).sum
      / (latestOffsets callsign events maxLastValues).length

/-! ## What one step records -/

namespace OffsetTimes

variable (s : OffsetTimes) (callsign : QString)

/-- The new time is in front, and the list is not longer than it may be. -/
theorem offsets_insertLatestOffsetTime (offsetMs : ℤ)
    (h : (s.offsets callsign).length ≤ c_maxOffsetTimes) :
    (s.insertLatestOffsetTime callsign offsetMs).offsets callsign
      = (offsetMs :: s.offsets callsign).take c_maxOffsetTimes := by
  unfold insertLatestOffsetTime
  generalize hold : s.offsets callsign = old at h ⊢
  unfold offsets
  rw [AList.lookup_insert, Option.getD_some]
  split
  case isTrue hlong =>
    have hfull : (offsetMs :: old).length - 1 = c_maxOffsetTimes := by
      rw [List.length_cons] at hlong ⊢
      omega
    rw [List.dropLast_eq_take, hfull]
  case isFalse hshort => rw [List.take_of_length_le (by omega)]

theorem offsets_insertLatestOffsetTime_ne (offsetMs : ℤ) {other : QString} (h : other ≠ callsign) :
    (s.insertLatestOffsetTime callsign offsetMs).offsets other = s.offsets other := by
  unfold insertLatestOffsetTime offsets
  rw [AList.lookup_insert_ne h]

/-- The loop counts what it adds, and it adds one more than it was asked for. -/
theorem sumOffsets_eq (maxLastValues : ℤ) (vs : List ℤ) (count sum : ℤ)
    (h : count ≤ maxLastValues) :
    sumOffsets maxLastValues vs count sum
      = (count + (vs.take (maxLastValues - count + 1).toNat).length,
          sum + (vs.take (maxLastValues - count + 1).toNat).sum) := by
  induction vs generalizing count sum with
  | nil => simp [sumOffsets]
  | cons v vs ih =>
      unfold sumOffsets
      dsimp only
      -- The limit is checked behind the addition, so one more is taken.
      have hsucc : (maxLastValues - count + 1).toNat
          = (maxLastValues - (count + 1) + 1).toNat + 1 := by omega
      split
      case isTrue hstop =>
        have hone : (maxLastValues - (count + 1) + 1).toNat = 0 := by omega
        rw [hsucc, hone]
        simp
      case isFalse hgo =>
        rw [ih (count + 1) (sum + v) (by omega), hsucc, List.take_succ_cons, List.length_cons,
          List.sum_cons]
        refine Prod.ext ?_ ?_
        · omega
        · omega

/-- All that is kept is averaged where not more is kept than was asked for. -/
theorem averageOffsetTimeMs_of_le (count maxLastValues : ℤ)
    (hle : ((s.offsets callsign).length : ℤ) ≤ maxLastValues) :
    s.averageOffsetTimeMs callsign count maxLastValues
      = if s.offsets callsign = [] then (-1, count)
        else (qRound (((s.offsets callsign).sum : ℚ) / (s.offsets callsign).length),
          ((s.offsets callsign).length : ℤ)) := by
  unfold averageOffsetTimeMs
  by_cases hempty : s.offsets callsign = []
  · rw [if_pos hempty, hempty, if_pos (by decide)]
  · have hpos := List.length_pos_iff.mpr hempty
    rw [if_neg hempty, if_neg (by omega), sumOffsets_eq _ _ _ _ (by omega),
      List.take_of_length_le (by omega)]
    rw [zero_add, zero_add]
    norm_cast

theorem offsets_of_lookup {s s' : OffsetTimes} {cs : QString}
    (h : s'.m_lastOffsetTimes.lookup cs = s.m_lastOffsetTimes.lookup cs) :
    s'.offsets cs = s.offsets cs :=
  congrArg (Option.getD · []) h

end OffsetTimes

/-! ## What a run records -/

theorem receivedTimestamps_concat (callsign : QString) (events : List PositionEvent)
    (event : PositionEvent) :
    receivedTimestamps callsign (events ++ [event])
      = noteTimestamp callsign (receivedTimestamps callsign events) event := by
  unfold receivedTimestamps
  rw [List.foldl_concat]

/-- For every callsign, the last time stamp is kept and the latest of the recorded times. -/
structure KeepsRecorded (events : List PositionEvent) (s : OffsetTimes) : Prop where
  lastPosition : ∀ callsign, s.m_lastPositionUpdate.lookup callsign
    = (receivedTimestamps callsign events).head?
  offsets : ∀ callsign, s.offsets callsign = (recordedOffsets callsign events).take c_maxOffsetTimes

theorem KeepsRecorded.length_offsets {events : List PositionEvent} {s : OffsetTimes}
    (h : KeepsRecorded events s) (callsign : QString) :
    (s.offsets callsign).length ≤ c_maxOffsetTimes := by
  rw [h.offsets]
  exact List.length_take_le _ _

/-- A position of a callsign puts its time in front; the others keep theirs. -/
theorem keepsRecorded_received {events : List PositionEvent} {s : OffsetTimes}
    (h : KeepsRecorded events s) (callsign : QString) (markerTs now : ℤ) :
    KeepsRecorded (events ++ [.received callsign markerTs now])
      (s.receivedPositionFixTsAndGetOffsetTime callsign markerTs now).1 := by
  have hlast := h.lastPosition callsign
  unfold OffsetTimes.receivedPositionFixTsAndGetOffsetTime
  generalize hts : (if markerTs < 0 then now else markerTs) = ts
  constructor
  case lastPosition =>
    intro other
    rw [receivedTimestamps_concat]
    unfold noteTimestamp
    dsimp only
    by_cases heq : callsign = other
    · rw [if_pos heq, hts, ← heq]
      split
      · exact AList.lookup_insert _
      · exact AList.lookup_insert _
    · rw [if_neg heq, ← h.lastPosition other]
      split
      · exact AList.lookup_insert_ne (Ne.symm heq)
      · exact AList.lookup_insert_ne (Ne.symm heq)
  case offsets =>
    intro other
    unfold recordedOffsets
    rw [receivedTimestamps_concat]
    unfold noteTimestamp
    dsimp only
    by_cases heq : callsign = other
    · rw [if_pos heq, hts, ← heq]
      cases hreceived : receivedTimestamps callsign events with
      | nil =>
          -- The first one records nothing.
          rw [hreceived] at hlast
          have hnone : recordedOffsets callsign events = [] := by
            unfold recordedOffsets
            rw [hreceived]
            rfl
          rw [hlast]
          exact (h.offsets callsign).trans (by rw [hnone]; rfl)
      | cons oldTs timestamps =>
          rw [hreceived] at hlast
          have hrecorded : recordedOffsets callsign events
              = timeDifferences (oldTs :: timestamps) := by
            unfold recordedOffsets
            rw [hreceived]
          rw [hlast]
          refine (OffsetTimes.offsets_insertLatestOffsetTime _ callsign _
            (h.length_offsets callsign)).trans ?_
          rw [h.offsets, hrecorded, c_maxOffsetTimes, List.take_succ_cons, List.take_take]
          rfl
    · rw [if_neg heq]
      refine Eq.trans ?_ (h.offsets other)
      split
      · rfl
      · exact OffsetTimes.offsets_insertLatestOffsetTime_ne _ _ _ (Ne.symm heq)

/-- A callsign that is cleared starts over; the others keep their times. -/
theorem keepsRecorded_clearCallsign {events : List PositionEvent} {s : OffsetTimes}
    (h : KeepsRecorded events s) (callsign : QString) :
    KeepsRecorded (events ++ [.clearCallsign callsign]) (s.clearCallsign callsign) := by
  -- Clearing forgets the timestamps of one callsign, if it has characters.
  have hnote : ∀ other, receivedTimestamps other (events ++ [.clearCallsign callsign])
      = if callsign = other ∧ ¬callsign = [] then [] else receivedTimestamps other events :=
    fun other => receivedTimestamps_concat other events _
  unfold OffsetTimes.clearCallsign
  by_cases hempty : callsign = []
  · have hsame : ∀ other, receivedTimestamps other (events ++ [.clearCallsign callsign])
        = receivedTimestamps other events :=
      fun other => (hnote other).trans (if_neg (fun hand => hand.2 hempty))
    rw [if_pos (List.isEmpty_iff.mpr hempty)]
    refine ⟨fun other => ?_, fun other => ?_⟩
    · rw [hsame]
      exact h.lastPosition other
    · rw [recordedOffsets, hsame]
      exact h.offsets other
  · rw [if_neg (fun hnil => hempty (List.isEmpty_iff.mp hnil))]
    refine ⟨fun other => ?_, fun other => ?_⟩
    · rw [hnote]
      by_cases heq : callsign = other
      · rw [if_pos ⟨heq, hempty⟩, ← heq]
        exact AList.lookup_erase callsign _
      · rw [if_neg (fun hand => heq hand.1), ← h.lastPosition other]
        exact AList.lookup_erase_ne (Ne.symm heq)
    · rw [recordedOffsets, hnote]
      by_cases heq : callsign = other
      · rw [if_pos ⟨heq, hempty⟩, ← heq]
        have hnone : (s.m_lastOffsetTimes.erase callsign).lookup callsign = none :=
          AList.lookup_erase callsign _
        exact congrArg (Option.getD · []) hnone
      · rw [if_neg (fun hand => heq hand.1)]
        refine Eq.trans ?_ (h.offsets other)
        exact OffsetTimes.offsets_of_lookup (AList.lookup_erase_ne (Ne.symm heq))

/-- In every run the last time stamp and the latest times are kept. -/
theorem keeps_recorded (events : List PositionEvent) :
    KeepsRecorded events (positions.run {} events).1 := by
  refine positions.run_history (fun events s _ => KeepsRecorded events s) {} ?_ ?_ events
  · exact ⟨fun callsign => rfl, fun callsign => rfl⟩
  · intro events s _ event h
    cases event with
    | received callsign markerTs now => exact keepsRecorded_received h callsign markerTs now
    | clearCallsign callsign => exact keepsRecorded_clearCallsign h callsign
    | clearState =>
        have hnone : ∀ callsign, receivedTimestamps callsign (events ++ [.clearState]) = [] :=
          fun callsign => receivedTimestamps_concat callsign events .clearState
        refine ⟨fun callsign => ?_, fun callsign => ?_⟩
        · rw [hnone]
          rfl
        · rw [recordedOffsets, hnone]
          rfl

/-- The latest times are kept, six of them at most. Where at least as many are asked for as
    are kept, the average is that of all of them, rounded. -/
theorem averages_recorded (events : List PositionEvent) (callsign : QString)
    (count : ℤ) (maxLastValues : ℕ)
    (hall : min (recordedOffsets callsign events).length c_maxOffsetTimes ≤ maxLastValues) :
    (positions.run {} events).1.offsets callsign
        = (recordedOffsets callsign events).take c_maxOffsetTimes ∧
      (positions.run {} events).1.averageOffsetTimeMs callsign count maxLastValues
        = if recordedOffsets callsign events = [] then (-1, count)
          else
            (qRound (((latestOffsets callsign events maxLastValues).sum : ℚ)
              / (latestOffsets callsign events maxLastValues).length),
              ((latestOffsets callsign events maxLastValues).length : ℤ)) := by
  have hkept := (keeps_recorded events).offsets callsign
  -- Where all that are kept are asked for, the latest that are kept are the latest of all.
  have hlatest : (positions.run {} events).1.offsets callsign
      = latestOffsets callsign events maxLastValues := by
    rw [hkept, latestOffsets]
    by_cases hfew : c_maxOffsetTimes ≤ maxLastValues
    · rw [min_eq_left hfew]
    · rw [List.take_of_length_le (by omega), List.take_of_length_le (by omega)]
  have hnone : (positions.run {} events).1.offsets callsign = []
      ↔ recordedOffsets callsign events = [] := by
    rw [hkept, List.take_eq_nil_iff]
    exact or_iff_right (by decide)
  refine ⟨hkept, ?_⟩
  rw [← hlatest, OffsetTimes.averageOffsetTimeMs_of_le _ _ _ _ ?_]
  · simp [hnone]
  · rw [hkept, List.length_take]
    omega

/-- Positions of one aircraft. -/
def positionsAt (callsign : QString) (timestamps : List ℤ) : List PositionEvent :=
  timestamps.map (PositionEvent.received callsign · 0)

/-- Three positions, and the average of the two times between them. -/
theorem averages_recorded_two :
    (positions.run {} (positionsAt "BAW1" [0, 1, 3])).1.averageOffsetTimeMs
      "BAW1" 0 (2 : ℕ) = (2, 2) :=
  (averages_recorded (positionsAt "BAW1" [0, 1, 3]) "BAW1" 0 2 (by decide)).2.trans
    (by decide +kernel)

/-- Asked for the latest time only, the client averages two; and the average of one and
    two milliseconds is rounded to two. -/
theorem averages_one_more_and_rounds :
    ((positions.run {} (positionsAt "BAW1" [0, 10, 30])).1.averageOffsetTimeMs
        "BAW1" 0 1 = (15, 2) ∧ ¬AveragesLatest (positionsAt "BAW1" [0, 10, 30]) "BAW1" 1) ∧
    ((positions.run {} (positionsAt "BAW1" [0, 1, 3])).1.averageOffsetTimeMs "BAW1" 0 2 = (2, 2) ∧
      ¬AveragesLatest (positionsAt "BAW1" [0, 1, 3]) "BAW1" 2) := by
  refine ⟨⟨?_, ?_⟩, ?_, ?_⟩
  · decide +kernel
  · unfold AveragesLatest
    decide +kernel
  · decide +kernel
  · unfold AveragesLatest
    decide +kernel

end NeoSwift.Fsd
