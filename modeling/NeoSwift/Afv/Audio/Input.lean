import Mathlib.Data.List.TakeWhile
import NeoSwift.Lib.BlockFraming
import NeoSwift.Lib.Machine
import NeoSwift.Afv.Audio.Output

/-!
# The buffer of the microphone

`CAudioInputBuffer`, to which the audio device writes what it records. The buffer collects the
bytes and emits them in frames for the encoder, and it keeps the last bytes back until more are
written.

The number of bytes of a call is cast to an int. From `2 ^ 31` bytes on a call appends something
else than what it was given, and reads beyond it if the cast gives a negative number and there is
no NUL. All other calls frame the stream, in whatever calls it was written.

## Main definitions

* `CAudioInputBuffer.writeData`: A call of the device.
* `microphone`: The calls of a recording.
* `FramesStream`: What the calls are to do with a stream.
* `FramedAlike`: What is to be the same for two recordings of it.

## Theorems

* `isFraming_cutFrames`: The loop of a call.
* `append_eq_append_iff`: When a call appends what it was given.
* `framesStream_iff`: Which calls frame the stream.
* `framedAlike_iff`: Which recordings of a stream give the same frames.
-/

namespace NeoSwift.Afv

namespace Audio

open BlockFraming Sound

/-- `CAudioInputBuffer`. -/
structure CAudioInputBuffer where
  m_buffer : List UInt8
  m_format : QAudioFormat
  deriving DecidableEq

/-- `QByteArray::append`, which takes the text up to its NUL if the length is negative. Without
    one it reads on behind the data, which is none here. -/
def append (buffer data : List UInt8) (len : ℤ) : Option (List UInt8) :=
  if 0 ≤ len then some (buffer ++ data.take len.toNat)
  else if 0 ∈ data then some (buffer ++ data.takeWhile (· ≠ 0))
  else none

/-- The loop that emits the frames, and none if it does not end within the fuel. -/
def cutFrames (byteCount : ℕ) : ℕ → List UInt8 → Option (List (List UInt8) × List UInt8)
  | 0, _ => none
  | fuel + 1, buffer =>
    if byteCount < buffer.length then
      (cutFrames byteCount fuel (buffer.drop byteCount)).map fun cut =>
        (buffer.take byteCount :: cut.1, cut.2)
    else some ([], buffer)

/-- `1920 * m_format.channelCount()`. -/
def byteCount (format : QAudioFormat) : ℕ := 1920 * format.channelCount

namespace CAudioInputBuffer

/-- `start`. -/
def start (format : QAudioFormat) : CAudioInputBuffer where
  m_buffer := []
  m_format := format

/-- The returned length, the emitted frames and the buffer afterwards. -/
def writeData (buffer : CAudioInputBuffer) (data : List UInt8) :
    Option (ℕ × List (List UInt8) × CAudioInputBuffer) := do
  let bytes ← append buffer.m_buffer data (SampleProvider.toInt data.length)
  let cut ← cutFrames (byteCount buffer.m_format) (bytes.length + 1) bytes
  some (data.length, cut.1, { buffer with m_buffer := cut.2 })

end CAudioInputBuffer

/-- `CInput::start` asks the device for one channel. -/
def CInput.inputFormat : QAudioFormat where
  sampleFormat := .int16
  channelCount := 1

/-- What is seen of a call. None is the buffer after a call that went wrong. -/
def emitted (written : Option (ℕ × List (List UInt8) × CAudioInputBuffer)) :
    Option CAudioInputBuffer × List (List UInt8) :=
  match written with
  | none => (none, [])
  | some (_, frames, buffer) => (some buffer, frames)

/-- The calls of a recording, which emit frames. -/
def microphone : Machine (Option CAudioInputBuffer) (List UInt8) (List UInt8) where
  step
    | none, _ => (none, [])
    | some buffer, data => emitted (buffer.writeData data)

/-- The recording from the start. -/
def recorded (format : QAudioFormat) (writes : List (List UInt8)) :
    Option CAudioInputBuffer × List (List UInt8) :=
  microphone.run (some (CAudioInputBuffer.start format)) writes

/-- After each of the calls, the stream so far is in frames up to what is retained. -/
def FramesStream (format : QAudioFormat) (writes : List (List UInt8)) : Prop :=
  ∀ earlier, earlier <+: writes → ∃ retained,
    (recorded format earlier).1 = some { m_buffer := retained, m_format := format } ∧
      IsFraming (byteCount format) earlier.flatten (recorded format earlier).2 retained

/-- Two recordings of a stream frame it, and with the same frames and retained bytes. -/
def FramedAlike (format : QAudioFormat) (writes writes' : List (List UInt8)) : Prop :=
  FramesStream format writes ∧ FramesStream format writes' ∧
    recorded format writes = recorded format writes'

/-- A call whose length is an int. -/
def FitsInt (data : List UInt8) : Prop := data.length < 2 ^ 31

/-! ## One call -/

theorem byteCount_pos {format : QAudioFormat} (h : 0 < format.channelCount) :
    0 < byteCount format := by
  unfold byteCount
  omega

theorem append_of_fitsInt {data : List UInt8} (h : FitsInt data) (buffer : List UInt8) :
    append buffer data (SampleProvider.toInt data.length) = some (buffer ++ data) := by
  rw [SampleProvider.toInt_of_lt h, append, if_pos (by omega), Int.toNat_natCast,
    List.take_length]

/-- A call appends what it was given if and only if the length is an int. -/
theorem append_eq_append_iff (buffer : List UInt8) {data : List UInt8} :
    append buffer data (SampleProvider.toInt data.length) = some (buffer ++ data) ↔
      FitsInt data := by
  refine ⟨fun h => ?_, fun h => append_of_fitsInt h buffer⟩
  have hle := SampleProvider.toInt_le data.length
  unfold append at h
  by_cases hlen : 0 ≤ SampleProvider.toInt data.length
  · rw [if_pos hlen, Option.some.injEq] at h
    have htake := congrArg List.length (List.append_cancel_left h)
    rw [List.length_take] at htake
    unfold FitsInt
    omega
  · by_cases hnul : 0 ∈ data
    · rw [if_neg hlen, if_pos hnul, Option.some.injEq] at h
      -- The text in front of the NUL is shorter than the data.
      have htake := List.append_cancel_left h
      rw [List.takeWhile_eq_self_iff] at htake
      have hzero := htake 0 hnul
      simp at hzero
    · rw [if_neg hlen, if_neg hnul] at h
      cases h

theorem isFraming_cutFrames {byteCount : ℕ} (fuel : ℕ) :
    ∀ {bytes : List UInt8} {cut : List (List UInt8) × List UInt8},
      cutFrames byteCount fuel bytes = some cut → IsFraming byteCount bytes cut.1 cut.2 := by
  induction fuel with
  | zero =>
      intro bytes cut h
      exact absurd h (by simp [cutFrames])
  | succ fuel ih =>
      intro bytes cut h
      rw [cutFrames] at h
      by_cases hlong : byteCount < bytes.length
      · rw [if_pos hlong, Option.map_eq_some_iff] at h
        rcases h with ⟨rest, hrest, rfl⟩
        -- A full block is taken off only if something is left behind it.
        have hne : bytes.drop byteCount ≠ [] := by
          intro hnil
          rw [List.drop_eq_nil_iff] at hnil
          omega
        have hframing := (ih hrest).cons
          (List.length_take_of_le (Nat.le_of_lt hlong)) hne
        rwa [List.take_append_drop] at hframing
      · rw [if_neg hlong, Option.some.injEq] at h
        rw [← h]
        exact IsFraming.of_length_le (by omega)

theorem cutFrames_ne_none {byteCount : ℕ} (hpos : 0 < byteCount) (fuel : ℕ) :
    ∀ {bytes : List UInt8}, bytes.length < fuel → cutFrames byteCount fuel bytes ≠ none := by
  induction fuel with
  | zero =>
      intro bytes h
      omega
  | succ fuel ih =>
      intro bytes h
      rw [cutFrames]
      by_cases hlong : byteCount < bytes.length
      · rw [if_pos hlong, Ne, Option.map_eq_none_iff]
        exact ih (by rw [List.length_drop]; omega)
      · rw [if_neg hlong]
        simp

/-- The bytes that a call has appended come out of it in frames, up to what it retains. -/
theorem writeData_of_append {format : QAudioFormat} {held data bytes : List UInt8}
    (hpos : 0 < byteCount format)
    (happend : append held data (SampleProvider.toInt data.length) = some bytes) :
    ∃ frames retained, CAudioInputBuffer.writeData ⟨held, format⟩ data
        = some (data.length, frames, ⟨retained, format⟩) ∧
      IsFraming (byteCount format) bytes frames retained := by
  have hends := cutFrames_ne_none hpos _ (Nat.lt_succ_self bytes.length)
  rcases Option.ne_none_iff_exists'.mp hends with ⟨cut, hcut⟩
  refine ⟨cut.1, cut.2, ?_, isFraming_cutFrames _ hcut⟩
  simp [CAudioInputBuffer.writeData, happend, hcut]

theorem writeData_eq_none {format : QAudioFormat} {held data : List UInt8}
    (happend : append held data (SampleProvider.toInt data.length) = none) :
    CAudioInputBuffer.writeData ⟨held, format⟩ data = none := by
  simp [CAudioInputBuffer.writeData, happend]

/-! ## A recording -/

theorem recorded_append_singleton (format : QAudioFormat) (writes : List (List UInt8))
    (data : List UInt8) :
    recorded format (writes ++ [data])
      = ((microphone.step (recorded format writes).1 data).1,
          (recorded format writes).2 ++ (microphone.step (recorded format writes).1 data).2) := by
  simp [recorded, Machine.run_append]

theorem microphone_step (buffer : CAudioInputBuffer) (data : List UInt8) :
    microphone.step (some buffer) data = emitted (buffer.writeData data) := by
  simp [microphone]

section

variable {format : QAudioFormat} (hformat : 0 < format.channelCount)

include hformat

/-- One more call keeps the framing if and only if its length is an int. -/
theorem framesStream_step {earlier : List (List UInt8)} {data retained : List UInt8}
    (hrun : (recorded format earlier).1 = some { m_buffer := retained, m_format := format })
    (hframing : IsFraming (byteCount format) earlier.flatten (recorded format earlier).2
      retained) :
    (∃ retained', (recorded format (earlier ++ [data])).1
          = some { m_buffer := retained', m_format := format } ∧
        IsFraming (byteCount format) (earlier ++ [data]).flatten
          (recorded format (earlier ++ [data])).2 retained') ↔ FitsInt data := by
  rw [recorded_append_singleton, hrun, ← append_eq_append_iff retained]
  have hflatten : (earlier ++ [data]).flatten = earlier.flatten ++ data := by simp
  rw [hflatten]
  cases happend : append retained data (SampleProvider.toInt data.length) with
  | none =>
      rw [microphone_step, writeData_eq_none happend]
      simp [emitted]
  | some bytes =>
      rcases writeData_of_append (byteCount_pos hformat) happend with
        ⟨frames, retained', hwrite, hcut⟩
      rw [microphone_step, hwrite]
      simp only [emitted, Option.some.injEq, CAudioInputBuffer.mk.injEq, and_true]
      constructor
      · rintro ⟨_, rfl, h⟩
        -- Both framings account for what was retained, so the bytes are what was appended.
        have hstream := h.stream_eq
        rw [List.flatten_append, List.append_assoc, hcut.stream_eq, ← hframing.stream_eq,
          List.append_assoc] at hstream
        exact List.append_cancel_left hstream
      · intro hbytes
        rw [hbytes] at hcut
        exact ⟨retained', rfl, hframing.append hcut⟩

omit hformat in
theorem framesStream_nil : FramesStream format [] := by
  intro earlier hfront
  rw [List.prefix_nil.mp hfront]
  exact ⟨[], rfl, IsFraming.of_length_le (Nat.zero_le _)⟩

/-- The stream is framed after each call if and only if the length of each is an int. -/
theorem framesStream_iff (writes : List (List UInt8)) :
    FramesStream format writes ↔ ∀ data ∈ writes, FitsInt data := by
  induction writes using List.reverseRecOn with
  | nil => simpa using framesStream_nil
  | append_singleton writes data ih =>
      have hinit : FramesStream format (writes ++ [data]) → FramesStream format writes :=
        fun h earlier hfront => h earlier (hfront.trans (List.prefix_append _ _))
      simp only [List.mem_append, List.mem_singleton, or_imp, forall_and, forall_eq, ← ih]
      constructor
      · intro h
        rcases hinit h writes (List.prefix_refl _) with ⟨retained, hrun, hframing⟩
        exact ⟨hinit h, (framesStream_step hformat hrun hframing).mp (h _ (List.prefix_refl _))⟩
      · rintro ⟨hframes, hdata⟩ earlier hfront
        rcases List.prefix_concat_iff.mp hfront with rfl | hfront
        · rcases hframes writes (List.prefix_refl _) with ⟨retained, hrun, hframing⟩
          exact (framesStream_step hformat hrun hframing).mpr hdata
        · exact hframes earlier hfront

/-- Two recordings of a stream frame it alike if and only if the length of each call is an int. -/
theorem framedAlike_iff {writes writes' : List (List UInt8)}
    (hstream : writes.flatten = writes'.flatten) :
    FramedAlike format writes writes' ↔ ∀ data ∈ writes ++ writes', FitsInt data := by
  simp only [List.mem_append, or_imp, forall_and, ← framesStream_iff hformat]
  refine ⟨fun h => ⟨h.1, h.2.1⟩, fun h => ⟨h.1, h.2, ?_⟩⟩
  rcases h.1 writes (List.prefix_refl _) with ⟨retained, hrun, hframing⟩
  rcases h.2 writes' (List.prefix_refl _) with ⟨retained', hrun', hframing'⟩
  -- A stream has one framing, whatever calls it came in.
  rw [hstream] at hframing
  rcases hframing.unique (byteCount_pos hformat) _ hframing' with ⟨hframes, hretained⟩
  exact Prod.ext (by rw [hrun, hrun', hretained]) hframes

end

/-- Two calls of a thousand bytes each, and one of all of them: one frame is emitted, and the
    rest is retained. -/
theorem framedAlike_long_stream :
    FramedAlike CInput.inputFormat [List.replicate 1000 0, List.replicate 1000 0]
        [List.replicate 2000 0] ∧
      (recorded CInput.inputFormat [List.replicate 2000 0]).2 = [List.replicate 1920 0] := by
  have hstream : [List.replicate 1000 (0 : UInt8), List.replicate 1000 0].flatten =
      [List.replicate 2000 0].flatten := by
    rw [List.flatten_cons, List.flatten_singleton, List.flatten_singleton,
      List.replicate_append_replicate]
  refine ⟨(framedAlike_iff (by decide) hstream).mpr ?_, by decide +kernel⟩
  intro data hmem
  simp only [List.cons_append, List.nil_append, List.mem_cons, List.not_mem_nil, or_false] at hmem
  rcases hmem with rfl | rfl | rfl <;> rw [FitsInt, List.length_replicate] <;> decide

/-- A call with `2 ^ 32` bytes appends none of them. -/
theorem not_framesStream_wrapped :
    ¬FramesStream CInput.inputFormat [List.replicate (2 ^ 32) 0] := by
  rw [framesStream_iff (by decide)]
  intro h
  have hlength := h _ (List.mem_singleton_self _)
  rw [FitsInt, List.length_replicate] at hlength
  omega

end Audio

end NeoSwift.Afv
