import NeoSwift.Sound.SampleProvider

/-!
# The buffer of the audio output

`CAudioOutputBuffer::readData`, by which the audio device gets its bytes. The provider is asked
for as many samples as there are frames in the request, which are doubled for stereo and copied.

The copy takes as many bytes as were requested, whatever the provider gave. It stays in the
buffer only if the request is for complete frames and the provider fills it.

## Main definitions

* `CAudioOutputBuffer.readData`: A request of the device.
* `StaysInBuffers`: What a request is to do.

## Theorems

* `length_outputBytes`: The bytes of the samples.
* `readData_of_fills`, `fills_of_readData`: Requests that stay in the buffers.
* `staysInBuffers_iff`: Which these are.
-/

namespace NeoSwift.Afv

namespace Audio

open Fallible Buffer Sound

/-- `QAudioFormat::SampleFormat`. -/
inductive SampleFormat
  | uInt8
  | int16
  | int32
  | float
  deriving DecidableEq

structure QAudioFormat where
  sampleFormat : SampleFormat
  channelCount : ℕ
  deriving DecidableEq

def QAudioFormat.bytesPerSample (format : QAudioFormat) : ℕ :=
  match format.sampleFormat with
  | .uInt8 => 1
  | .int16 => 2
  | .int32 => 4
  | .float => 4

/-- `CAudioOutputBuffer`. -/
structure CAudioOutputBuffer (L D F : Type) where
  sampleProvider : SampleProvider L D
  outputFormat : QAudioFormat
  maxSampleOutput : F
  sampleCount : ℕ := 0

/-- What a request gives: the bytes of the device, what is returned, the peaks that are
    signalled and the buffer afterwards. -/
structure ReadResult (L D F : Type) where
  data : List UInt8
  returned : ℕ
  outputVolumeStream : List F
  buffer : CAudioOutputBuffer L D F

/-- `convertFromMonoToStereo`. -/
def convertFromMonoToStereo {F : Type} (mono : List F) : List F :=
  mono.flatMap fun sample => [sample, sample]

namespace CAudioOutputBuffer

/-- `SampleCountPerEvent`. -/
def sampleCountPerEvent : ℕ := 4800

variable {L D F : Type} (a : SampleArithmetic D F) (leaves : SampleSources L F)

/-- The samples as bytes. -/
def outputBytes (channelCount : ℕ) (buffer : List F) : List UInt8 :=
  (if channelCount = 2 then convertFromMonoToStereo buffer else buffer).flatMap a.bytes

/-- The peak of the samples so far, and the count of them. -/
def measure (b : CAudioOutputBuffer L D F) (samples : List F) : CAudioOutputBuffer L D F :=
  { b with
    maxSampleOutput := samples.foldl (fun peak sample => a.max (a.abs sample) peak)
      b.maxSampleOutput
    sampleCount := b.sampleCount + samples.length }

/-- The signalled peaks. -/
def signal (b : CAudioOutputBuffer L D F) : List F × CAudioOutputBuffer L D F :=
  if b.sampleCount ≥ sampleCountPerEvent then
    ([b.maxSampleOutput], { b with sampleCount := 0, maxSampleOutput := a.zero })
  else ([], b)

def readData (b : CAudioOutputBuffer L D F) (data : List UInt8) (maxlen : ℕ) :
    Except BufferFault (ReadResult L D F) := do
  let sampleBytes := b.outputFormat.bytesPerSample
  let channelCount := b.outputFormat.channelCount
  let count := maxlen / (sampleBytes * channelCount)
  let read ← b.sampleProvider.readSamples a leaves count
  let signalled := ({ b with sampleProvider := read.2.2 }.measure a read.1).signal a
  let data ← copyFirst .outOfRange data (outputBytes a channelCount read.1) maxlen
  .ok {
    data := data
    returned := maxlen
    outputVolumeStream := signalled.1
    buffer := signalled.2 }

/-- All accesses are in range, and as many bytes are filled as are returned. -/
def StaysInBuffers (b : CAudioOutputBuffer L D F) (data : List UInt8) (maxlen : ℕ) : Prop :=
  Yields (fun read => ∃ filled : List UInt8, filled.length = read.returned ∧
    read.data = filled ++ data.drop read.returned) (b.readData a leaves data maxlen)

variable {a leaves} {b : CAudioOutputBuffer L D F} {data : List UInt8} {maxlen : ℕ}

/-- Four bytes for each sample of each channel. -/
theorem length_outputBytes {channelCount : ℕ} (hchannels : channelCount = 1 ∨ channelCount = 2)
    (buffer : List F) :
    (outputBytes a channelCount buffer).length = 4 * channelCount * buffer.length := by
  have hbytes : ∀ samples : List F, (samples.flatMap a.bytes).length = 4 * samples.length := by
    intro samples
    induction samples with
    | nil => rfl
    | cons x samples ih =>
      rw [List.flatMap_cons, List.length_append, a.length_bytes, List.length_cons]
      omega
  have hstereo : (convertFromMonoToStereo buffer).length = 2 * buffer.length := by
    induction buffer with
    | nil => rfl
    | cons x buffer ih =>
      unfold convertFromMonoToStereo at ih ⊢
      rw [List.flatMap_cons, List.length_append]
      simp only [List.length_cons, List.length_nil]
      omega
  rcases hchannels with rfl | rfl
  · exact hbytes buffer
  · calc (outputBytes a 2 buffer).length
        = 4 * (convertFromMonoToStereo buffer).length := hbytes _
      _ = 4 * 2 * buffer.length := by rw [hstereo, Nat.mul_assoc]

theorem bytesPerSample_float {format : QAudioFormat} (hfloat : format.sampleFormat = .float) :
    format.bytesPerSample = 4 := by
  rw [QAudioFormat.bytesPerSample, hfloat]

/-- A request for complete frames of a tree that fills the buffer. -/
theorem readData_of_fills (hleaves : leaves.WellBehaved)
    (hfloat : b.outputFormat.sampleFormat = .float)
    (hchannels : b.outputFormat.channelCount = 1 ∨ b.outputFormat.channelCount = 2)
    (hdata : maxlen ≤ data.length) (hframes : 4 * b.outputFormat.channelCount ∣ maxlen)
    (hfills : b.sampleProvider.Fills leaves (maxlen / (4 * b.outputFormat.channelCount))) :
    StaysInBuffers a leaves b data maxlen := by
  unfold StaysInBuffers readData
  rw [bytesPerSample_float hfloat]
  refine yields_bind (SampleProvider.yields_of_fills hleaves _ hfills) fun read hread => ?_
  have hlength : (outputBytes a b.outputFormat.channelCount read.1).length = maxlen := by
    rw [length_outputBytes hchannels, hread.2, Nat.mul_div_cancel' hframes]
  refine yields_bind (yields_copyFirst (Nat.le_of_eq hlength.symm) hdata) fun copied hcopied => ?_
  refine yields_ok ⟨outputBytes a b.outputFormat.channelCount read.1, hlength, ?_⟩
  rw [hcopied, List.take_of_length_le (Nat.le_of_eq hlength)]

/-- A request that stays in the buffers. -/
theorem fills_of_readData (hleaves : leaves.WellBehaved)
    (hfloat : b.outputFormat.sampleFormat = .float)
    (hchannels : b.outputFormat.channelCount = 1 ∨ b.outputFormat.channelCount = 2) :
    Ensures (fun _ => 4 * b.outputFormat.channelCount ∣ maxlen ∧
        b.sampleProvider.Fills leaves (maxlen / (4 * b.outputFormat.channelCount)))
      (b.readData a leaves data maxlen) := by
  unfold readData
  rw [bytesPerSample_float hfloat]
  refine ensures_bind fun read hread => ensures_bind fun copied hcopied => (ensures_ok _ _).mpr ?_
  rcases SampleProvider.ensures_readSamples hleaves _ read hread with ⟨hle, hfills⟩
  have hin : maxlen ≤ (outputBytes a b.outputFormat.channelCount read.1).length :=
    ensures_copyFirst copied hcopied
  rw [length_outputBytes hchannels] at hin
  -- The copy needs as many samples as the division left of the request.
  have hcopy : maxlen ≤ 4 * b.outputFormat.channelCount *
      (maxlen / (4 * b.outputFormat.channelCount)) :=
    Nat.le_trans hin (Nat.mul_le_mul_left _ hle)
  have hrequest := Nat.mul_div_le maxlen (4 * b.outputFormat.channelCount)
  have hpos : 0 < 4 * b.outputFormat.channelCount := by omega
  have hfull := Nat.le_of_mul_le_mul_left (Nat.le_trans hrequest hin) hpos
  exact ⟨⟨_, Nat.le_antisymm hcopy hrequest⟩, hfills (Nat.le_antisymm hle hfull)⟩

/-- Requests that stay in the buffers are those for complete frames that the provider fills. -/
theorem staysInBuffers_iff (a : SampleArithmetic D F) (leaves : SampleSources L F)
    (b : CAudioOutputBuffer L D F) (data : List UInt8) (maxlen : ℕ)
    (hleaves : leaves.WellBehaved) (hfloat : b.outputFormat.sampleFormat = .float)
    (hchannels : b.outputFormat.channelCount = 1 ∨ b.outputFormat.channelCount = 2)
    (hdata : maxlen ≤ data.length) :
    StaysInBuffers a leaves b data maxlen ↔ 4 * b.outputFormat.channelCount ∣ maxlen ∧
        b.sampleProvider.Fills leaves (maxlen / (4 * b.outputFormat.channelCount)) := by
  constructor
  · rintro ⟨read, hread, -⟩
    exact fills_of_readData hleaves hfloat hchannels read hread
  · rintro ⟨hframes, hfills⟩
    exact readData_of_fills hleaves hfloat hchannels hdata hframes hfills

/-- Bytes of samples that are numbers. -/
def sampleArithmetic : SampleArithmetic Unit ℕ where
  toFloatArithmetic := CResourceSoundSampleProvider.plain
  zero := 0
  add := Nat.add
  abs := id
  max := Nat.max
  bytes x := [x.toUInt8, 0, 0, 0]
  length_bytes _ := rfl

/-- A mixer of one resource sound. -/
def sampleOutput (channelCount : ℕ) :
    CAudioOutputBuffer (CResourceSoundSampleProvider Unit ℕ) Unit ℕ where
  sampleProvider := .volume () (.mixing [.source (.start [7] () false)])
  outputFormat := ⟨.float, channelCount⟩
  maxSampleOutput := 0

/-- A request for two frames, one more than the sound has. -/
theorem staysInBuffers_sample :
    StaysInBuffers sampleArithmetic (resourceSounds CResourceSoundSampleProvider.plain)
      (sampleOutput 2) (List.replicate 16 1) 16 :=
  (staysInBuffers_iff sampleArithmetic (resourceSounds CResourceSoundSampleProvider.plain)
    (sampleOutput 2) (List.replicate 16 1) 16 (resourceSounds_wellBehaved _) rfl (Or.inr rfl)
    (by decide)).mpr ⟨by decide, (show 2 < 2 ^ 31 by decide)⟩

/-- A request for half a sample, and one for two samples of a sound that has only one. -/
theorem not_staysInBuffers :
    ¬ (∀ (b : CAudioOutputBuffer (CResourceSoundSampleProvider Unit ℕ) Unit ℕ) (data : List UInt8)
        (maxlen : ℕ), b.outputFormat.sampleFormat = .float →
          b.outputFormat.channelCount = 1 ∨ b.outputFormat.channelCount = 2 →
            maxlen ≤ data.length →
              StaysInBuffers sampleArithmetic (resourceSounds CResourceSoundSampleProvider.plain) b
                data maxlen) ∧
      ¬ StaysInBuffers sampleArithmetic (resourceSounds CResourceSoundSampleProvider.plain)
          (sampleOutput 1) [0, 0] 2 ∧
      ¬ StaysInBuffers sampleArithmetic (resourceSounds CResourceSoundSampleProvider.plain)
          { sampleOutput 1 with sampleProvider := .source (.start [7] () false) }
          (List.replicate 8 0) 8 := by
  have hwell := resourceSounds_wellBehaved CResourceSoundSampleProvider.plain
  have hhalf : ¬ StaysInBuffers sampleArithmetic
      (resourceSounds CResourceSoundSampleProvider.plain) (sampleOutput 1) [0, 0] 2 := by
    rintro ⟨read, hread, -⟩
    exact absurd (fills_of_readData hwell rfl (Or.inl rfl) read hread).1 (by decide)
  refine ⟨fun h => hhalf (h _ _ _ rfl (Or.inl rfl) (by decide)), hhalf, ?_⟩
  rintro ⟨read, hread, -⟩
  have hone : 1 = 2 := (fills_of_readData hwell rfl (Or.inl rfl) read hread).2
  cases hone

end CAudioOutputBuffer

end Audio

end NeoSwift.Afv
