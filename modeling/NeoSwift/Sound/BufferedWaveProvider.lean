import Mathlib.Data.List.DropRight
import NeoSwift.Lib.Machine
import NeoSwift.Sound.SampleProvider

/-!
# The buffered wave provider

`CBufferedWaveProvider`, which holds the samples of a voice between the network that adds them
and the mixer that reads them. It is meant as a queue that drops its oldest samples when more are
added than it may hold.

What has to be removed for a block is computed from what is held and the block together. If the
block alone is longer than the maximum, more is removed than there is, and what is held afterwards
exceeds the maximum. No other block does that.

## Main definitions

* `CBufferedWaveProvider.addSamples`, `readSamples`, `clearBuffer`: The operations.
* `waveProvider`: Runs of them.
* `recent`: The queue that the provider is meant to be.
* `IsBoundedFifo`: An operation that is one of that queue.

## Theorems

* `isBoundedFifo_iff`: Which operations are.
* `allSteps_isBoundedFifo_iff`, `created_isBoundedFifo_iff`: Which runs consist of them.
-/

namespace NeoSwift.Sound

/-- `CBufferedWaveProvider`, whose size is a `qint32`. -/
structure CBufferedWaveProvider (F : Type) where
  m_maxBufferSize : ℕ
  m_audioBuffer : List F
  isInt : m_maxBufferSize < 2 ^ 31

namespace CBufferedWaveProvider

variable {F : Type}

/-- The constructor, with what `bytesForDuration` gives for ten seconds of the format. -/
def create (bytesForDuration : Fin (2 ^ 31)) : CBufferedWaveProvider F where
  m_maxBufferSize := bytesForDuration
  m_audioBuffer := []
  isInt := bytesForDuration.isLt

variable (provider : CBufferedWaveProvider F)

/-- `m_audioBuffer.remove(0, n)`. A number that is out of range is defined here only. -/
def remove (n : ℤ) : CBufferedWaveProvider F :=
  { provider with m_audioBuffer := provider.m_audioBuffer.drop n.toNat }

/-- `m_audioBuffer.append(samples)`. -/
def append (samples : List F) : CBufferedWaveProvider F :=
  { provider with m_audioBuffer := provider.m_audioBuffer ++ samples }

/-- `delta`, an int. -/
def delta (samples : List F) : ℤ :=
  Int.bmod (provider.m_audioBuffer.length + samples.length - provider.m_maxBufferSize) (2 ^ 32)

/-- The number of samples that `addSamples` removes. -/
def toRemove (samples : List F) : ℤ :=
  if 0 < provider.delta samples then provider.delta samples else 0

/-- `addSamples`. -/
def addSamples (samples : List F) : CBufferedWaveProvider F :=
  (provider.remove (provider.toRemove samples)).append samples

/-- `len`, an int. -/
def readLength (count : ℕ) : ℤ :=
  SampleProvider.toInt (min count provider.m_audioBuffer.length)

/-- `m_audioBuffer.mid(0, len)`, which is everything if the length is negative. -/
def mid (len : ℤ) : List F :=
  if len < 0 then provider.m_audioBuffer else provider.m_audioBuffer.take len.toNat

/-- `readSamples`: the samples, what is returned and the provider afterwards. -/
def readSamples (count : ℕ) : List F × ℤ × CBufferedWaveProvider F :=
  (provider.mid (provider.readLength count), provider.readLength count,
    provider.remove (provider.readLength count))

/-- `clearBuffer`. -/
def clearBuffer : CBufferedWaveProvider F :=
  { provider with m_audioBuffer := [] }

@[simp] theorem m_maxBufferSize_remove (n : ℤ) :
    (provider.remove n).m_maxBufferSize = provider.m_maxBufferSize := rfl

@[simp] theorem m_audioBuffer_remove (n : ℤ) :
    (provider.remove n).m_audioBuffer = provider.m_audioBuffer.drop n.toNat := rfl

@[simp] theorem m_maxBufferSize_append (samples : List F) :
    (provider.append samples).m_maxBufferSize = provider.m_maxBufferSize := rfl

@[simp] theorem m_audioBuffer_append (samples : List F) :
    (provider.append samples).m_audioBuffer = provider.m_audioBuffer ++ samples := rfl

@[simp] theorem m_audioBuffer_clearBuffer :
    provider.clearBuffer.m_audioBuffer = [] := rfl

end CBufferedWaveProvider

/-- The operations of a provider. -/
inductive WaveOperation (F : Type)
  | addSamples (samples : List F)
  | readSamples (count : ℕ)
  | clearBuffer

variable {F : Type}

/-- The provider after an operation. -/
def CBufferedWaveProvider.after (provider : CBufferedWaveProvider F) :
    WaveOperation F → CBufferedWaveProvider F
  | .addSamples samples => provider.addSamples samples
  | .readSamples count => (provider.readSamples count).2.2
  | .clearBuffer => provider.clearBuffer

/-- What is read by an operation, with what it returns. -/
def CBufferedWaveProvider.read (provider : CBufferedWaveProvider F) :
    WaveOperation F → List (List F × ℤ)
  | .addSamples _ => []
  | .readSamples count => [((provider.readSamples count).1, (provider.readSamples count).2.1)]
  | .clearBuffer => []

def waveProvider : Machine (CBufferedWaveProvider F) (WaveOperation F) (List F × ℤ) where
  step provider operation := (provider.after operation, provider.read operation)

/-- A queue that holds the most recent samples, up to a maximum. -/
def recent (maximum : ℕ) (held samples : List F) : List F := (held ++ samples).rtake maximum

/-- The operation is the one of a queue: its removals are of samples that are held, a block is
    put behind them and the most recent ones stay, and the oldest ones are read. -/
def IsQueueOperation (provider : CBufferedWaveProvider F) : WaveOperation F → Prop
  | .addSamples samples =>
    provider.toRemove samples ≤ provider.m_audioBuffer.length ∧
    (provider.addSamples samples).m_audioBuffer
      = recent provider.m_maxBufferSize provider.m_audioBuffer samples
  | .readSamples count =>
    provider.readLength count = min count provider.m_audioBuffer.length ∧
    (provider.readSamples count).2.1 = min count provider.m_audioBuffer.length ∧
    (provider.readSamples count).1 = provider.m_audioBuffer.take count ∧
    (provider.readSamples count).2.2.m_audioBuffer = provider.m_audioBuffer.drop count
  | .clearBuffer => provider.clearBuffer.m_audioBuffer = []

/-- An operation of a queue that does not exceed the maximum. -/
def IsBoundedFifo (provider : CBufferedWaveProvider F) (operation : WaveOperation F) : Prop :=
  IsQueueOperation provider operation ∧
    (provider.after operation).m_audioBuffer.length ≤ provider.m_maxBufferSize

/-- A block that is not longer than the maximum. -/
def FitsBuffer (maximum : ℕ) : WaveOperation F → Prop
  | .addSamples samples => samples.length ≤ maximum
  | .readSamples _ => True
  | .clearBuffer => True

/-- The provider holds no more than it may. -/
def WithinMaximum (provider : CBufferedWaveProvider F) : Prop :=
  provider.m_audioBuffer.length ≤ provider.m_maxBufferSize

/-! ## One operation -/

@[simp] theorem m_maxBufferSize_after (provider : CBufferedWaveProvider F)
    (operation : WaveOperation F) :
    (provider.after operation).m_maxBufferSize = provider.m_maxBufferSize := by
  cases operation with
  | addSamples samples =>
      rw [CBufferedWaveProvider.after, CBufferedWaveProvider.addSamples,
        CBufferedWaveProvider.m_maxBufferSize_append, CBufferedWaveProvider.m_maxBufferSize_remove]
  | readSamples count =>
      rw [CBufferedWaveProvider.after, CBufferedWaveProvider.readSamples,
        CBufferedWaveProvider.m_maxBufferSize_remove]
  | clearBuffer => rfl

theorem length_recent_le (maximum : ℕ) (held samples : List F) :
    (recent maximum held samples).length ≤ maximum := by
  simp only [recent, List.rtake, List.length_drop]
  omega

variable {provider : CBufferedWaveProvider F}

/-- Of a block that fits, no more than what is held has to make room for it. -/
theorem toRemove_eq {samples : List F}
    (hheld : WithinMaximum provider) (hfits : samples.length ≤ provider.m_maxBufferSize) :
    provider.toRemove samples
      = ↑(provider.m_audioBuffer.length + samples.length - provider.m_maxBufferSize) := by
  have hint := provider.isInt
  have hdelta : provider.delta samples
      = provider.m_audioBuffer.length + samples.length - provider.m_maxBufferSize := by
    unfold WithinMaximum at hheld
    exact Int.bmod_eq_of_le (by omega) (by omega)
  rw [CBufferedWaveProvider.toRemove]
  split_ifs <;> omega

theorem addSamples_eq_recent {samples : List F}
    (hheld : WithinMaximum provider) (hfits : samples.length ≤ provider.m_maxBufferSize) :
    (provider.addSamples samples).m_audioBuffer
      = recent provider.m_maxBufferSize provider.m_audioBuffer samples := by
  have hle : provider.m_audioBuffer.length + samples.length - provider.m_maxBufferSize
      ≤ provider.m_audioBuffer.length := by omega
  simp only [CBufferedWaveProvider.addSamples, CBufferedWaveProvider.m_audioBuffer_append,
    CBufferedWaveProvider.m_audioBuffer_remove, toRemove_eq hheld hfits, Int.toNat_natCast, recent,
    List.rtake, List.length_append]
  rw [List.drop_append_of_le_length hle]

theorem readLength_eq (hheld : WithinMaximum provider)
    (count : ℕ) : provider.readLength count = min count provider.m_audioBuffer.length := by
  have hint := provider.isInt
  unfold WithinMaximum at hheld
  rw [CBufferedWaveProvider.readLength, SampleProvider.toInt_of_lt (by omega)]

theorem take_min_length (count : ℕ) (samples : List F) :
    samples.take (min count samples.length) = samples.take count := by
  rw [← List.take_take, List.take_length]

theorem drop_min_length (count : ℕ) (samples : List F) :
    samples.drop (min count samples.length) = samples.drop count := by
  by_cases h : count ≤ samples.length
  · rw [Nat.min_eq_left h]
  · rw [Nat.min_eq_right (by omega), List.drop_length, List.drop_of_length_le (by omega)]

/-- Reading takes the oldest samples. -/
theorem readSamples_eq (hheld : WithinMaximum provider)
    (count : ℕ) :
    provider.readSamples count
      = (provider.m_audioBuffer.take count, ↑(min count provider.m_audioBuffer.length),
          { provider with m_audioBuffer := provider.m_audioBuffer.drop count }) := by
  have hlen := readLength_eq hheld count
  simp only [CBufferedWaveProvider.readSamples, CBufferedWaveProvider.mid,
    CBufferedWaveProvider.remove, hlen, Int.toNat_natCast, take_min_length, drop_min_length]
  rw [if_neg (by omega)]

/-- What an operation leaves behind is within the maximum if and only if its block fits. -/
theorem length_after_le_iff (hheld : WithinMaximum provider) (operation : WaveOperation F) :
    (provider.after operation).m_audioBuffer.length ≤ provider.m_maxBufferSize ↔
      FitsBuffer provider.m_maxBufferSize operation := by
  cases operation with
  | addSamples samples =>
      simp only [CBufferedWaveProvider.after, FitsBuffer]
      constructor
      · intro h
        -- The block is there as a whole, whatever was removed in front of it.
        simp only [CBufferedWaveProvider.addSamples, CBufferedWaveProvider.m_audioBuffer_append,
          List.length_append] at h
        omega
      · intro hfits
        rw [addSamples_eq_recent hheld hfits]
        exact length_recent_le _ _ _
  | readSamples count =>
      unfold WithinMaximum at hheld
      simp only [CBufferedWaveProvider.after, readSamples_eq hheld, FitsBuffer, iff_true,
        List.length_drop]
      omega
  | clearBuffer =>
      simp [CBufferedWaveProvider.after, FitsBuffer]

theorem isBoundedFifo_iff (hheld : WithinMaximum provider) (operation : WaveOperation F) :
    IsBoundedFifo provider operation ↔ FitsBuffer provider.m_maxBufferSize operation := by
  rw [IsBoundedFifo, length_after_le_iff hheld, and_iff_right_iff_imp]
  intro hfits
  cases operation with
  | addSamples samples =>
      refine ⟨?_, addSamples_eq_recent hheld hfits⟩
      simp only [FitsBuffer] at hfits
      rw [toRemove_eq hheld hfits]
      omega
  | readSamples count =>
      simp [IsQueueOperation, readSamples_eq hheld, readLength_eq hheld]
  | clearBuffer => rfl

/-! ## Runs -/

/-- From a provider within its maximum, a run is one of the queue if and only if no block is
    longer than that. -/
theorem allSteps_isBoundedFifo_iff (operations : List (WaveOperation F)) :
    ∀ {provider : CBufferedWaveProvider F}, WithinMaximum provider →
      (waveProvider.AllSteps IsBoundedFifo provider operations ↔
        ∀ operation ∈ operations, FitsBuffer provider.m_maxBufferSize operation) := by
  induction operations with
  | nil =>
      intro provider _
      simp [Machine.AllSteps]
  | cons operation operations ih =>
      intro provider hheld
      simp only [Machine.AllSteps, List.mem_cons, forall_eq_or_imp, isBoundedFifo_iff hheld]
      refine and_congr_right fun hfits => ?_
      have hnext : WithinMaximum (provider.after operation) := by
        rw [WithinMaximum, m_maxBufferSize_after]
        exact (length_after_le_iff hheld operation).mpr hfits
      exact (ih hnext).trans (by rw [m_maxBufferSize_after])

/-- So it is from the start. -/
theorem created_isBoundedFifo_iff (bytesForDuration : Fin (2 ^ 31))
    (operations : List (WaveOperation F)) :
    waveProvider.AllSteps IsBoundedFifo (CBufferedWaveProvider.create bytesForDuration)
        operations ↔ ∀ operation ∈ operations, FitsBuffer bytesForDuration operation :=
  allSteps_isBoundedFifo_iff operations (Nat.zero_le _)

/-- Ten seconds of a voice, and a block with one sample more than that. -/
theorem not_isBoundedFifo_long :
    ¬waveProvider.AllSteps IsBoundedFifo (CBufferedWaveProvider.create ⟨960000, by decide⟩)
      [.addSamples (List.replicate 960001 0)] := by
  rw [allSteps_isBoundedFifo_iff _ (Nat.zero_le _)]
  intro h
  have hfits := h _ (List.mem_singleton_self _)
  simp only [FitsBuffer, CBufferedWaveProvider.create, List.length_replicate] at hfits
  omega

end NeoSwift.Sound
