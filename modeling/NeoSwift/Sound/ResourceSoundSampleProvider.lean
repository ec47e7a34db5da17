import NeoSwift.Lib.Machine
import Mathlib.Algebra.Ring.Nat

/-!
# Playing a resource sound

`CResourceSoundSampleProvider::readSamples`: what is left of the sample is copied, at most as
much as is asked for, and the position is moved. At the end the provider starts again or is
finished.

The end is looked for by comparing the new position with what was available in front of the call,
and not with the size of the sample. The provider is at the end for its own test once the
position before and after a call are together the size, so that the sample is cut unless only
the last call gets there.

## Main definitions

* `CResourceSoundSampleProvider.readSamples`: One call.
* `playing`: A run of calls.
* `PlaysOnce`, `Repeats`: What is delivered, with and without an end.
* `EndsInTime`: A call that does not find an end too early.

## Theorems

* `readSamples_of_loaded`: A call for a sample that is loaded.
* `plays_once`, `repeats`: Runs without an end too early.
* `plays_completely`: Both.
-/

namespace NeoSwift.Sound

/-- `qFuzzyCompare(gain, 1.0)` and `static_cast<float>(gain * sample)`. -/
structure FloatArithmetic (D F : Type*) where
  isOne : D → Bool
  times : D → F → F

/-- `CResourceSoundSampleProvider`. Positions in a sample, which is read from a file with sizes
    of 32 bits, are ints. -/
structure CResourceSoundSampleProvider (D F : Type*) where
  isLoaded : Bool
  audioData : List F
  gain : D
  looping : Bool := false
  position : ℕ := 0
  isFinished : Bool := false

namespace CResourceSoundSampleProvider

/-- `m_tempBufferSize`. -/
def tempBufferSize : ℕ := 24000

variable {D F : Type*} (a : FloatArithmetic D F)

/-- A sample with the gain. -/
def scaled (gain : D) (sample : F) : F := if a.isOne gain then sample else a.times gain sample

/-- The buffer after the call, what is returned and the provider. -/
def readSamples (p : CResourceSoundSampleProvider D F) (samples : List F) (count : ℕ) :
    List F × ℕ × CResourceSoundSampleProvider D F :=
  if !p.isLoaded then (samples, 0, p)
  else if count > tempBufferSize then (samples, 0, p)
  else
    let availableSamples : ℤ := p.audioData.length - p.position
    let samplesToCopy := (min availableSamples count).toNat
    let copied := ((p.audioData.drop p.position).take samplesToCopy).map (scaled a p.gain)
    let position := p.position + samplesToCopy
    let moved := { p with position := position }
    if (position : ℤ) > availableSamples - 1 then
      if p.looping then (copied, samplesToCopy, { moved with position := 0 })
      else (copied, samplesToCopy, { moved with isFinished := true })
    else (copied, samplesToCopy, moved)

/-- Calls with an empty buffer. -/
def playing : Machine (CResourceSoundSampleProvider D F) ℕ F where
  step p count :=
    let read := p.readSamples a [] count
    (read.2.2, read.1.take read.2.1)

/-- A provider that was not read from. -/
def start (sample : List F) (gain : D) (looping : Bool) : CResourceSoundSampleProvider D F where
  isLoaded := true
  audioData := sample
  gain := gain
  looping := looping

/-- The sample once, in order, and finished when all of it was delivered. -/
def PlaysOnce (sample : List F) (gain : D) (counts : List ℕ) (finished : Bool) (out : List F) :
    Prop :=
  out = (sample.take counts.sum).map (scaled a gain) ∧
    (finished = true ↔ counts ≠ [] ∧ sample.length ≤ counts.sum)

/-- The sample again and again, at least one more with every call. -/
def Repeats (sample : List F) (gain : D) (counts : List ℕ) (finished : Bool) (out : List F) :
    Prop :=
  finished = false ∧ (sample ≠ [] → counts.length ≤ out.length) ∧
    ∃ times, ∃ n ≤ sample.length,
      out = ((List.replicate times sample).flatten ++ sample.take n).map (scaled a gain)

/-- A call of the sizes that are allowed. -/
def ValidCount (count : ℕ) : Prop := 0 < count ∧ count ≤ tempBufferSize

/-- Where a call leaves samples, the position before and after it are together in the sample. -/
def EndsInTime (p : CResourceSoundSampleProvider D F) (count : ℕ) : Prop :=
  p.position + count < p.audioData.length → p.position + (p.position + count) < p.audioData.length

instance (count : ℕ) : Decidable (ValidCount count) := inferInstanceAs (Decidable (_ ∧ _))

instance (p : CResourceSoundSampleProvider D F) (count : ℕ) : Decidable (EndsInTime p count) :=
  inferInstanceAs (Decidable (_ → _))

variable {a} {p : CResourceSoundSampleProvider D F} {count : ℕ}

/-- A call copies what is left, at most as much as is asked for. -/
theorem readSamples_of_loaded (samples : List F) (hloaded : p.isLoaded = true)
    (hposition : p.position ≤ p.audioData.length) (hcount : ValidCount count) :
    p.readSamples a samples count =
      (((p.audioData.drop p.position).take count).map (scaled a p.gain),
        min (p.audioData.length - p.position) count,
        if p.audioData.length ≤ p.position + min p.audioData.length (p.position + count) then
          if p.looping then { p with position := 0 }
          else { p with
            position := min p.audioData.length (p.position + count), isFinished := true }
        else { p with position := min p.audioData.length (p.position + count) }) := by
  have hcopied : (min ((p.audioData.length : ℤ) - p.position) count).toNat =
      min (p.audioData.length - p.position) count := by omega
  have hnext : p.position + min (p.audioData.length - p.position) count =
      min p.audioData.length (p.position + count) := by omega
  have hall : (p.audioData.drop p.position).take (min (p.audioData.length - p.position) count) =
      (p.audioData.drop p.position).take count := by
    rw [List.take_eq_take_iff, List.length_drop]
    omega
  -- The test of the code is one for the sum of both positions.
  have hend : ((min p.audioData.length (p.position + count) : ℕ) : ℤ) >
      (p.audioData.length : ℤ) - p.position - 1 ↔
        p.audioData.length ≤ p.position + min p.audioData.length (p.position + count) := by
    omega
  unfold readSamples
  rw [hloaded, if_neg (by decide), if_neg (Nat.not_lt.mpr hcount.2)]
  dsimp only
  rw [hcopied, hnext, hall]
  by_cases h : p.audioData.length ≤ p.position + min p.audioData.length (p.position + count)
  · rw [if_pos h, if_pos (hend.mpr h)]
    by_cases hlooping : p.looping = true
    · rw [if_pos hlooping, if_pos hlooping]
    · rw [if_neg hlooping, if_neg hlooping]
  · rw [if_neg h, if_neg (mt hend.mp h)]

/-- A call that finds the end where it is. -/
theorem step_of_endsInTime (hloaded : p.isLoaded = true)
    (hposition : p.position ≤ p.audioData.length) (hcount : ValidCount count)
    (hends : EndsInTime p count) :
    (playing a).step p count =
      (if p.audioData.length ≤ p.position + count then
          if p.looping then { p with position := 0 }
          else { p with position := p.audioData.length, isFinished := true }
        else { p with position := p.position + count },
        ((p.audioData.drop p.position).take count).map (scaled a p.gain)) := by
  unfold playing
  dsimp only
  rw [readSamples_of_loaded [] hloaded hposition hcount]
  refine Prod.ext ?_ ?_
  · dsimp only
    by_cases h : p.audioData.length ≤ p.position + count
    · rw [if_pos h, Nat.min_eq_left h, if_pos (by omega)]
    · rw [if_neg h, Nat.min_eq_right (by omega), if_neg (by have := hends (by omega); omega)]
  · refine List.take_of_length_le ?_
    rw [List.length_map, List.length_take, List.length_drop]
    exact Nat.le_of_eq (Nat.min_comm _ _)

/-! ## Runs -/

variable {sample : List F} {gain : D} {counts : List ℕ}

/-- A provider that was read from. -/
def playedTo (sample : List F) (gain : D) (looping : Bool) (position : ℕ) (isFinished : Bool) :
    CResourceSoundSampleProvider D F :=
  { start sample gain looping with position := position, isFinished := isFinished }

variable (a) in
/-- A call of the allowed sizes that finds the end where it is. -/
def ValidCall (p : CResourceSoundSampleProvider D F) (count : ℕ) : Prop :=
  ValidCount count ∧ EndsInTime p count

/-- What is delivered is put behind what was delivered. -/
theorem take_append_delivered (sample : List F) (gain : D) (position count : ℕ) :
    (sample.take position).map (scaled a gain) ++
        ((sample.drop position).take count).map (scaled a gain) =
      (sample.take (position + count)).map (scaled a gain) := by
  rw [← List.map_append, List.take_add]

theorem step_once {position : ℕ} {finished : Bool} (hposition : position ≤ sample.length)
    (hcall : ValidCall (playedTo sample gain false position finished) count) :
    (playing a).step (playedTo sample gain false position finished) count =
      (if sample.length ≤ position + count then playedTo sample gain false sample.length true
        else playedTo sample gain false (position + count) finished,
        ((sample.drop position).take count).map (scaled a gain)) :=
  step_of_endsInTime rfl hposition hcall.1 hcall.2

theorem step_looping {position : ℕ} (hposition : position ≤ sample.length)
    (hcall : ValidCall (playedTo sample gain true position false) count) :
    (playing a).step (playedTo sample gain true position false) count =
      (if sample.length ≤ position + count then playedTo sample gain true 0 false
        else playedTo sample gain true (position + count) false,
        ((sample.drop position).take count).map (scaled a gain)) :=
  step_of_endsInTime rfl hposition hcall.1 hcall.2

variable (a sample gain) in
/-- Without looping the position is the sum of the counts. -/
def OnceState (counts : List ℕ) (p : CResourceSoundSampleProvider D F) (out : List F) : Prop :=
  ∃ finished, p = playedTo sample gain false (min sample.length counts.sum) finished ∧
    PlaysOnce a sample gain counts finished out

variable (a sample gain) in
/-- With looping the sample was delivered some times, and then up to the position. -/
def LoopState (counts : List ℕ) (p : CResourceSoundSampleProvider D F) (out : List F) : Prop :=
  ∃ position ≤ sample.length, p = playedTo sample gain true position false ∧
    (sample ≠ [] → position < sample.length) ∧ (sample ≠ [] → counts.length ≤ out.length) ∧
      ∃ times, out =
        ((List.replicate times sample).flatten ++ sample.take position).map (scaled a gain)

theorem onceState_step {counts : List ℕ} {out : List F} (hcall : ValidCall p count)
    (h : OnceState a sample gain counts p out) :
    OnceState a sample gain (counts ++ [count]) ((playing a).step p count).1
      (out ++ ((playing a).step p count).2) := by
  rcases h with ⟨finished, rfl, hout, hfinished⟩
  have hsum : (counts ++ [count]).sum = counts.sum + count := by
    rw [List.sum_append, List.sum_singleton]
  have hdelivered : out ++ ((sample.drop (min sample.length counts.sum)).take count).map
      (scaled a gain) = (sample.take (counts ++ [count]).sum).map (scaled a gain) := by
    have htake : sample.take counts.sum = sample.take (min sample.length counts.sum) := by
      rw [List.take_eq_take_iff]
      omega
    rw [hout, htake, take_append_delivered]
    congr 1
    rw [List.take_eq_take_iff]
    omega
  -- A finished provider has nothing left, so that the end is only found now.
  rw [step_once (Nat.min_le_left _ _) hcall]
  by_cases hend : sample.length ≤ counts.sum + count
  · rw [if_pos (by omega)]
    have hne : counts ++ [count] ≠ [] :=
      List.append_ne_nil_of_right_ne_nil _ (List.cons_ne_nil _ _)
    refine ⟨true, ?_, hdelivered, fun _ => ⟨hne, hsum ▸ hend⟩, fun _ => rfl⟩
    rw [hsum, Nat.min_eq_left hend]
  · rw [if_neg (by omega)]
    refine ⟨finished, ?_, hdelivered, fun h => absurd (hfinished.mp h).2 (by omega), fun h => ?_⟩
    · have hnext : min sample.length counts.sum + count =
        min sample.length (counts.sum + count) := by
        omega
      rw [hsum, hnext]
    · exact absurd (hsum ▸ h.2) hend

theorem loopState_step {counts : List ℕ} {out : List F} (hcall : ValidCall p count)
    (h : LoopState a sample gain counts p out) :
    LoopState a sample gain (counts ++ [count]) ((playing a).step p count).1
      (out ++ ((playing a).step p count).2) := by
  rcases h with ⟨position, hposition, rfl, hlt, hcount, times, hout⟩
  have hmore : sample ≠ [] → (counts ++ [count]).length ≤
      (out ++ ((sample.drop position).take count).map (scaled a gain)).length := by
    intro hne
    have hdelivered : 1 ≤ (((sample.drop position).take count).map (scaled a gain)).length := by
      have hpositive := hcall.1.1
      have hleft := hlt hne
      rw [List.length_map, List.length_take, List.length_drop]
      omega
    rw [List.length_append, List.length_append]
    exact Nat.add_le_add (hcount hne) hdelivered
  -- At the end the sample is complete once more.
  rw [step_looping hposition hcall]
  by_cases hend : sample.length ≤ position + count
  · rw [if_pos hend]
    refine ⟨0, Nat.zero_le _, rfl, List.length_pos_iff.mpr, hmore, times + 1, ?_⟩
    have hrest : (sample.drop position).take count = sample.drop position :=
      List.take_of_length_le (by rw [List.length_drop]; omega)
    rw [hout, hrest, ← List.map_append, List.append_assoc, List.take_append_drop,
      List.replicate_succ', List.flatten_concat, List.take_zero, List.append_nil]
  · rw [if_neg hend]
    refine ⟨position + count, by omega, rfl, fun _ => by omega, hmore, times, ?_⟩
    rw [hout, List.map_append, List.append_assoc, take_append_delivered, ← List.map_append]

/-- Without looping. -/
theorem plays_once (hcalls : (playing a).AllSteps ValidCall (start sample gain false) counts) :
    let run := (playing a).run (start sample gain false) counts
    PlaysOnce a sample gain counts run.1.isFinished run.2 := by
  have hstart : OnceState a sample gain [] (start sample gain false) [] := by
    refine ⟨false, ?_, ?_, fun h => absurd h Bool.false_ne_true, fun h => absurd rfl h.1⟩
    · rw [List.sum_nil, Nat.min_zero]
      rfl
    · rw [List.sum_nil, List.take_zero, List.map_nil]
  rcases (playing a).run_history_of ValidCall
      (OnceState a sample gain) _ hstart (fun _ _ _ _ => onceState_step) counts hcalls with
      ⟨finished, hstate, hplays⟩
  dsimp only
  rw [hstate]
  exact hplays

/-- With looping the sample is started again. -/
theorem repeats (hcalls : (playing a).AllSteps ValidCall (start sample gain true) counts) :
    let run := (playing a).run (start sample gain true) counts
    Repeats a sample gain counts run.1.isFinished run.2 := by
  have hstart : LoopState a sample gain [] (start sample gain true) [] :=
    ⟨0, Nat.zero_le _, rfl, List.length_pos_iff.mpr, fun _ => Nat.le_refl _, 0, rfl⟩
  rcases (playing a).run_history_of ValidCall
      (LoopState a sample gain) _ hstart (fun _ _ _ _ => loopState_step) counts hcalls with
      ⟨position, hposition, hstate, -, hcount, times, hout⟩
  dsimp only
  rw [hstate]
  exact ⟨rfl, hcount, times, position, hposition, hout⟩

variable (a sample gain counts) in
/-- Runs in which no call finds an end too early. -/
theorem plays_completely :
    (∀ _ : (playing a).AllSteps ValidCall (start sample gain false) counts,
      let run := (playing a).run (start sample gain false) counts
      PlaysOnce a sample gain counts run.1.isFinished run.2) ∧
    ∀ _ : (playing a).AllSteps ValidCall (start sample gain true) counts,
      let run := (playing a).run (start sample gain true) counts
      Repeats a sample gain counts run.1.isFinished run.2 :=
  ⟨plays_once, repeats⟩

/-- Samples that are not scaled. -/
def plain : FloatArithmetic Unit ℕ where
  isOne _ := true
  times _ sample := sample

theorem plays_in_two_calls :
    PlaysOnce plain [5, 6, 7] () [1, 2] true [5, 6, 7] ∧
      Repeats plain [5, 6, 7] () [1, 2, 2] false [5, 6, 7, 5, 6] := by
  refine ⟨(plays_completely plain [5, 6, 7] () [1, 2]).1 ?_,
    (plays_completely plain [5, 6, 7] () [1, 2, 2]).2 ?_⟩
  · exact ⟨⟨by decide, by decide⟩, ⟨by decide, by decide⟩, trivial⟩
  · exact ⟨⟨by decide, by decide⟩, ⟨by decide, by decide⟩, ⟨by decide, by decide⟩, trivial⟩

/-- A sample of three is cut to two by two calls for one each: the provider is finished, or
    starts again. -/
theorem sample_cut :
    ¬ (∀ (sample counts : List ℕ), (∀ count ∈ counts, ValidCount count) →
        let run := (playing plain).run (start sample () false) counts
        PlaysOnce plain sample () counts run.1.isFinished run.2) ∧
      ¬ ∀ (sample counts : List ℕ), (∀ count ∈ counts, ValidCount count) →
        let run := (playing plain).run (start sample () true) counts
        Repeats plain sample () counts run.1.isFinished run.2 := by
  refine ⟨fun h => ?_, fun h => ?_⟩
  · have hplays := h [5, 6, 7] [1, 1] (by decide)
    exact absurd (hplays.2.mp rfl).2 (by decide)
  · rcases h [5, 6, 7] [1, 1, 1] (by decide) with ⟨-, -, times, n, -, hout⟩
    -- The third of the samples is the first one again.
    have hthird : some 5 = (((List.replicate times [5, 6, 7]).flatten ++ [5, 6, 7].take n).map
        (scaled plain ()))[2]? := congrArg (fun out => out[2]?) hout
    cases times with
    | zero =>
      rw [List.replicate_zero, List.flatten_nil, List.nil_append, List.getElem?_map,
        List.getElem?_take] at hthird
      by_cases hthree : 2 < n
      · rw [if_pos hthree] at hthird
        cases hthird
      · rw [if_neg hthree] at hthird
        cases hthird
    | succ times =>
      have hfive : some 5 = some 7 := hthird
      cases hfive

end CResourceSoundSampleProvider

end NeoSwift.Sound
