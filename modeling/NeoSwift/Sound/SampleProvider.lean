import Mathlib.Algebra.Ring.Int.Defs
import NeoSwift.Lib.Buffer
import NeoSwift.Lib.IntCast
import NeoSwift.Sound.ResourceSoundSampleProvider

/-!
# Trees of sample providers

`CMixingSampleProvider` and `CVolumeSampleProvider` over any other providers, the sources. A
source gives as many samples as it has, up to the count it is asked for. The mixer always fills
the buffer for the count, which is cast to an int, and returns the most that a source gave.

Every access to a vector is checked. In a tree of sources that keep to the count all of them are
in range, as long as the count is an int.

## Main definitions

* `SampleSources`: The providers that are not modelled.
* `SampleProvider`: A tree.
* `SampleProvider.readSamples`: A call.
* `SampleProvider.Fills`: A tree that gives as many samples as it is asked for.

## Theorems

* `yields_readSamples`: Calls of a mixer and of what is below stay in range.
* `yields_of_fills`, `ensures_readSamples`: Calls that fill the buffer.
* `resourceSounds_wellBehaved`: A resource sound is a source.
-/

namespace NeoSwift.Sound

open Fallible Buffer

/-- Access to an index that a vector does not have. -/
inductive BufferFault
  | outOfRange
  deriving DecidableEq

/-- Floats, of four bytes each. -/
structure SampleArithmetic (D F : Type) extends FloatArithmetic D F where
  zero : F
  add : F → F → F
  abs : F → F
  max : F → F → F
  bytes : F → List UInt8
  length_bytes : ∀ x, (bytes x).length = 4

/-- Providers that are not trees: `readSamples` into an empty buffer, with the buffer, what is
    returned and the provider afterwards, and `isFinished`. -/
structure SampleSources (L F : Type) where
  readSamples : L → ℕ → List F × ℕ × L
  isFinished : L → Bool

/-- Sources that give samples up to the count. -/
def SampleSources.WellBehaved {L F : Type} (sources : SampleSources L F) : Prop :=
  ∀ l count, (sources.readSamples l count).2.1 ≤ (sources.readSamples l count).1.length ∧
    (sources.readSamples l count).1.length ≤ count

/-- A tree of providers. -/
inductive SampleProvider (L D : Type)
  | source (l : L)
  | mixing (sources : List (SampleProvider L D))
  | volume (gainRatio : D) (sourceProvider : SampleProvider L D)

namespace SampleProvider

variable {L D F : Type} (a : SampleArithmetic D F) (leaves : SampleSources L F)

/-- `ISampleProvider::isFinished`, which only some sources override. -/
def isFinished : SampleProvider L D → Bool
  | .source l => leaves.isFinished l
  | .mixing _ => false
  | .volume _ _ => false

/-- `static_cast<int>(count)`. -/
def toInt (count : ℕ) : ℤ := Int.bmod count (2 ^ 32)

/-- `fill(0, size)` of an empty vector, where -1 is its own size. -/
def fill (size : ℤ) : Except BufferFault (List F) :=
  if size = -1 then .ok []
  else if size < 0 then .error .outOfRange
  else .ok (List.replicate size.toNat a.zero)

/-- `samples[n] += sourceBuffer[n]`. -/
def addSample (sourceBuffer : List F) (n : ℕ) (sample : F) : Except BufferFault F :=
  match sourceBuffer[n]? with
  | none => .error .outOfRange
  | some x => .ok (a.add sample x)

/-- `samples[n] = gainRatio * samples[n]`, unless the gain is one. -/
def scaleSamples (gainRatio : D) (samples : List F) (samplesRead : ℕ) :
    Except BufferFault (List F) :=
  if !a.isOne gainRatio then
    updateFirst .outOfRange (fun _ x => .ok (a.times gainRatio x)) samples samplesRead
  else .ok samples

mutual

/-- The buffer, what is returned and the provider afterwards. -/
def readSamples : SampleProvider L D → ℕ → Except BufferFault (List F × ℕ × SampleProvider L D)
  | .source l, count =>
    let read := leaves.readSamples l count
    .ok (read.1, read.2.1, .source read.2.2)
  | .mixing sources, count => do
    let samples ← fill a (toInt count)
    let mixed ← mixSources sources count samples 0
    .ok (mixed.1, mixed.2.1, .mixing mixed.2.2)
  | .volume gainRatio sourceProvider, count => do
    let read ← readSamples sourceProvider count
    let samples ← scaleSamples a gainRatio read.1 read.2.1
    .ok (samples, read.2.1, .volume gainRatio read.2.2)

/-- The loop over the sources. Those that are finished are removed. -/
def mixSources : List (SampleProvider L D) → ℕ → List F → ℕ →
    Except BufferFault (List F × ℕ × List (SampleProvider L D))
  | [], _, samples, outputLen => .ok (samples, outputLen, [])
  | sampleProvider :: sources, count, samples, outputLen => do
    let read ← readSamples sampleProvider count
    let samples ← updateFirst .outOfRange (addSample a read.1) samples read.2.1
    let mixed ← mixSources sources count samples (max read.2.1 outputLen)
    .ok (mixed.1, mixed.2.1,
      if read.2.2.isFinished leaves then mixed.2.2 else read.2.2 :: mixed.2.2)

end

/-- A source that gives what it is asked for, or a mixer and a count that is an int. -/
def Fills : SampleProvider L D → ℕ → Prop
  | .source l, count => (leaves.readSamples l count).1.length = count
  | .mixing _, count => count < 2 ^ 31
  | .volume _ sourceProvider, count => sourceProvider.Fills count

/-! ## Calls in range -/

variable {a leaves}

theorem toInt_of_lt {count : ℕ} (h : count < 2 ^ 31) : toInt count = count := castLength_of_lt h

theorem toInt_le (count : ℕ) : toInt count ≤ count ∧ toInt count < 2 ^ 31 :=
  ⟨castLength_le count, castLength_lt count⟩

theorem yields_fill {count : ℕ} (h : count < 2 ^ 31) :
    Yields (fun samples => samples.length = count) (fill a (toInt count)) := by
  rw [toInt_of_lt h]
  exact yields_ok List.length_replicate

/-- A buffer is filled for the count only if this is an int. -/
theorem ensures_fill (count : ℕ) :
    Ensures (fun samples => samples.length ≤ count ∧ (samples.length = count → count < 2 ^ 31))
      (fill a (toInt count)) := by
  have hle := toInt_le count
  refine ensures_ite (fun _ => (ensures_ok _ _).mpr ?_) fun _ => ensures_ite
    (fun _ => ensures_error _ _) fun _ => (ensures_ok _ _).mpr ?_
  · exact ⟨Nat.zero_le _, fun h => by rw [← h, List.length_nil]; omega⟩
  · rw [List.length_replicate]
    omega

theorem yields_addSample {sourceBuffer : List F} {n : ℕ} (h : n < sourceBuffer.length)
    (sample : F) : Yields (fun _ => True) (addSample a sourceBuffer n sample) := by
  rw [addSample, List.getElem?_eq_getElem h]
  exact yields_ok trivial

theorem yields_scaleSamples (gainRatio : D) {samples : List F} {samplesRead : ℕ}
    (h : samplesRead ≤ samples.length) :
    Yields (fun scaled => scaled.length = samples.length)
      (scaleSamples a gainRatio samples samplesRead) :=
  yields_ite (fun _ => yields_updateFirst h fun _ _ _ => yields_ok trivial) fun _ => yields_ok rfl

theorem ensures_scaleSamples (gainRatio : D) (samples : List F) (samplesRead : ℕ) :
    Ensures (fun scaled => scaled.length = samples.length)
      (scaleSamples a gainRatio samples samplesRead) :=
  ensures_ite (fun _ => ensures_updateFirst _) fun _ => (ensures_ok _ _).mpr rfl

/-- What a call gives if it is in range: as many samples as are returned, up to the count. -/
def InRange (count : ℕ) (read : List F × ℕ × SampleProvider L D) : Prop :=
  read.2.1 ≤ read.1.length ∧ read.1.length ≤ count

mutual

/-- A call for a count that is an int. -/
theorem yields_readSamples (hleaves : leaves.WellBehaved) :
    ∀ (p : SampleProvider L D) {count : ℕ}, count < 2 ^ 31 →
      Yields (InRange count) (p.readSamples a leaves count)
  | .source l, count, _ => by
    exact yields_ok (hleaves l count)
  | .mixing sources, count, hcount => by
    refine yields_bind (yields_fill hcount) fun samples hsamples => ?_
    refine yields_bind (yields_mixSources hleaves sources hcount hsamples (Nat.zero_le _)) ?_
    exact fun mixed hmixed => yields_ok ⟨hmixed.1 ▸ hmixed.2, Nat.le_of_eq hmixed.1⟩
  | .volume gainRatio sourceProvider, count, hcount => by
    refine yields_bind (yields_readSamples hleaves sourceProvider hcount) fun read hread => ?_
    refine yields_bind (yields_scaleSamples gainRatio hread.1) fun samples hsamples => ?_
    exact yields_ok ⟨hsamples ▸ hread.1, hsamples ▸ hread.2⟩

/-- The mixer keeps the size of its buffer, in which each of the sources is added. -/
theorem yields_mixSources (hleaves : leaves.WellBehaved) :
    ∀ (sources : List (SampleProvider L D)) {count outputLen : ℕ} {samples : List F},
      count < 2 ^ 31 → samples.length = count → outputLen ≤ count →
        Yields (fun mixed => mixed.1.length = count ∧ mixed.2.1 ≤ count)
          (mixSources a leaves sources count samples outputLen)
  | [], count, outputLen, samples, _, hsamples, houtput => by
    exact yields_ok ⟨hsamples, houtput⟩
  | p :: sources, count, outputLen, samples, hcount, hsamples, houtput => by
    -- What a source gives is in its own buffer, and in that of the mixer, which has the count.
    refine yields_bind (yields_readSamples hleaves p hcount) fun read hread => ?_
    have hlen : read.2.1 ≤ count := Nat.le_trans hread.1 hread.2
    refine yields_bind (yields_updateFirst (hsamples ▸ hlen) fun i hi x =>
      yields_addSample (Nat.lt_of_lt_of_le hi hread.1) x) fun added hadded => ?_
    refine yields_bind (yields_mixSources hleaves sources hcount (hadded.trans hsamples)
      (Nat.max_le.mpr ⟨hlen, houtput⟩)) fun mixed hmixed => ?_
    exact yields_ok hmixed

end

/-- A mixer fills its buffer for a count that is an int. -/
theorem yields_mixing (hleaves : leaves.WellBehaved) (sources : List (SampleProvider L D))
    {count : ℕ} (hcount : count < 2 ^ 31) :
    Yields (fun read => read.2.1 ≤ read.1.length ∧ read.1.length = count)
      ((mixing sources).readSamples a leaves count) := by
  refine yields_bind (yields_fill hcount) fun samples hsamples => ?_
  refine yields_bind (yields_mixSources hleaves sources hcount hsamples (Nat.zero_le _)) ?_
  exact fun mixed hmixed => yields_ok ⟨hmixed.1 ▸ hmixed.2, hmixed.1⟩

/-- What a tree gives that fills the buffer. -/
theorem yields_of_fills (hleaves : leaves.WellBehaved) {count : ℕ} :
    ∀ p : SampleProvider L D, p.Fills leaves count →
      Yields (fun read => read.2.1 ≤ read.1.length ∧ read.1.length = count)
        (p.readSamples a leaves count)
  | .source l, hfills => by
    exact yields_ok ⟨(hleaves l count).1, hfills⟩
  | .mixing sources, hcount => yields_mixing hleaves sources hcount
  | .volume gainRatio sourceProvider, hfills => by
    refine yields_bind (yields_of_fills hleaves sourceProvider hfills) fun read hread => ?_
    refine yields_bind (yields_scaleSamples gainRatio hread.1) fun samples hsamples => ?_
    exact yields_ok ⟨hsamples ▸ hread.1, hsamples.trans hread.2⟩

/-- The mixer keeps the size of its buffer whatever the sources give. -/
theorem ensures_mixSources {count : ℕ} :
    ∀ (sources : List (SampleProvider L D)) (outputLen : ℕ) (samples : List F),
      Ensures (fun mixed => mixed.1.length = samples.length)
        (mixSources a leaves sources count samples outputLen)
  | [], outputLen, samples => by
    exact (ensures_ok _ _).mpr rfl
  | p :: sources, outputLen, samples => by
    refine ensures_bind fun read _ => ensures_bind fun added hadded => ?_
    have hlength := ensures_updateFirst _ added hadded
    refine ensures_bind fun mixed hmixed => (ensures_ok _ _).mpr ?_
    exact (ensures_mixSources sources _ added mixed hmixed).trans hlength

/-- A call that is in range gives samples up to the count, and as many only if the tree fills
    the buffer. -/
theorem ensures_readSamples (hleaves : leaves.WellBehaved) {count : ℕ} :
    ∀ p : SampleProvider L D,
      Ensures (fun read => read.1.length ≤ count ∧ (read.1.length = count → p.Fills leaves count))
        (p.readSamples a leaves count)
  | .source l => by
    exact (ensures_ok _ _).mpr ⟨(hleaves l count).2, id⟩
  | .mixing sources => by
    refine ensures_bind fun samples hsamples => ensures_bind fun mixed hmixed => ?_
    have hlength : mixed.1.length = samples.length := ensures_mixSources sources 0 _ _ hmixed
    have hfilled : samples.length ≤ count ∧ (samples.length = count → count < 2 ^ 31) :=
      ensures_fill count samples hsamples
    rw [← hlength] at hfilled
    exact (ensures_ok _ _).mpr hfilled
  | .volume gainRatio sourceProvider => by
    refine ensures_bind fun read hread => ensures_bind fun samples hsamples => ?_
    have hsource : read.1.length ≤ count ∧
        (read.1.length = count → sourceProvider.Fills leaves count) :=
      ensures_readSamples hleaves sourceProvider read hread
    have hlength : samples.length = read.1.length := ensures_scaleSamples gainRatio _ _ _ hsamples
    rw [← hlength] at hsource
    exact (ensures_ok _ _).mpr hsource

end SampleProvider

/-! ## Resource sounds -/

/-- Resource sounds as sources. -/
def resourceSounds {D F : Type} (a : FloatArithmetic D F) :
    SampleSources (CResourceSoundSampleProvider D F) F where
  readSamples p count := p.readSamples a [] count
  isFinished p := p.isFinished

/-- A resource sound gives what is left of it, up to the count. -/
theorem resourceSounds_wellBehaved {D F : Type} (a : FloatArithmetic D F) :
    (resourceSounds a).WellBehaved := by
  intro p count
  have hcopied : ∀ copied : List F, copied = ((p.audioData.drop p.position).take
      (min ((p.audioData.length : ℤ) - p.position) count).toNat).map
        (CResourceSoundSampleProvider.scaled a p.gain) →
      (min ((p.audioData.length : ℤ) - p.position) count).toNat ≤ copied.length ∧
        copied.length ≤ count := by
    rintro copied rfl
    rw [List.length_map, List.length_take, List.length_drop]
    omega
  unfold resourceSounds CResourceSoundSampleProvider.readSamples
  dsimp only
  split_ifs
  · exact ⟨Nat.le_refl _, Nat.zero_le _⟩
  · exact ⟨Nat.le_refl _, Nat.zero_le _⟩
  all_goals exact hcopied _ rfl

end NeoSwift.Sound
