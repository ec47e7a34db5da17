import NeoSwift.Lib.AssocMap
import NeoSwift.Sound.BufferedWaveProvider

/-!
# The voice inputs of a receiver

`CCallsignSampleProvider`, an input that plays the voice of one callsign while it is in use, and
the `CallsignDelayCache` of all of them. The audio of a callsign starts with a delay, which grows
when an input runs dry and shrinks when transmissions succeed.

The receiver puts an input in use. The input ends that by itself, after the last packet or on a
timeout, and it does so only when its buffer is empty. Then its callsign is empty as well.

## Main definitions

* `CallsignDelayCache`: The delays by callsign.
* `OpusCodec`: The decoder of the audio.
* `CCallsignSampleProvider`: An input, with its operations.
* `KeepsOrIdles`: What the operations of an input in use do to its callsign.

## Theorems

* `keepsOrIdles_readSamples`, `keepsOrIdles_timerElapsed`, `keepsOrIdles_clear`:
  That they do.
* `addOpusSamples_spec`: A packet does not change whose input it is.
* `active_spec`: An input that is put in use.
-/

namespace NeoSwift.Afv

namespace Audio

open Sound

/-- `CallsignDelayCache`, the delays in ms and the numbers of successful transmissions. -/
structure CallsignDelayCache where
  m_delayCache : AssocMap String ℤ
  m_successfulTransmissionsCache : AssocMap String ℤ

namespace CallsignDelayCache

def delayDefault : ℤ := 60
def delayMin : ℤ := 40
def delayIncrement : ℤ := 20
def delayMax : ℤ := 300

/-- `cache[callsign] = value`, unless there is one. -/
def insertIfAbsent (cache : AssocMap String ℤ) (callsign : String) (value : ℤ) :
    AssocMap String ℤ :=
  if callsign ∈ cache then cache else cache.insert callsign value

variable (cache : CallsignDelayCache)

/-- `initialise`. -/
def initialise (callsign : String) : CallsignDelayCache where
  m_delayCache := insertIfAbsent cache.m_delayCache callsign delayDefault
  m_successfulTransmissionsCache := insertIfAbsent cache.m_successfulTransmissionsCache callsign 0

/-- `get`, whose `operator[]` inserts a zero for a callsign without a delay. -/
def get (callsign : String) : ℤ × CallsignDelayCache :=
  ((cache.m_delayCache.lookup callsign).getD 0,
    { cache with m_delayCache := insertIfAbsent cache.m_delayCache callsign 0 })

/-- `increaseDelayMs`. -/
def increaseDelayMs (callsign : String) : CallsignDelayCache :=
  match cache.m_delayCache.lookup callsign with
  | none => cache
  | some delay =>
    { cache with
      m_delayCache := cache.m_delayCache.insert callsign (min (delay + delayIncrement) delayMax) }

/-- `decreaseDelayMs`. -/
def decreaseDelayMs (callsign : String) : CallsignDelayCache :=
  match cache.m_delayCache.lookup callsign with
  | none => cache
  | some delay =>
    { cache with
      m_delayCache := cache.m_delayCache.insert callsign (max (delay - delayIncrement) delayMin) }

/-- The number of successful transmissions of a callsign. -/
def setSuccessful (callsign : String) (number : ℤ) : CallsignDelayCache :=
  { cache with
    m_successfulTransmissionsCache := cache.m_successfulTransmissionsCache.insert callsign number }

/-- `underflow`. -/
def underflow (callsign : String) : CallsignDelayCache :=
  if callsign ∈ cache.m_successfulTransmissionsCache then
    (cache.setSuccessful callsign 0).increaseDelayMs callsign
  else cache

/-- `success`. -/
def success (callsign : String) : CallsignDelayCache :=
  match cache.m_successfulTransmissionsCache.lookup callsign with
  | none => cache
  | some number =>
    if 5 < number + 1 then (cache.decreaseDelayMs callsign).setSuccessful callsign 0
    else cache.setSuccessful callsign (number + 1)

end CallsignDelayCache

/-- `IAudioDto`. -/
structure IAudioDto where
  callsign : String
  sequenceCounter : ℕ
  audio : List UInt8
  lastPacket : Bool
  deriving DecidableEq

/-- `COpusDecoder`, with decoders `δ`, and `convertFromShortToFloat`. -/
structure OpusCodec (δ F : Type) where
  decode : δ → List UInt8 → List ℤ × δ
  resetState : δ → δ
  shortToFloat : ℤ → F
  zero : F

/-- `CCallsignSampleProvider`. The time is in ms, and there is none as long as nothing was
    added. -/
structure CCallsignSampleProvider (δ F : Type) where
  m_sampleRate : ℕ
  m_callsign : String := ""
  m_aircraftType : String := ""
  m_inUse : Bool := false
  m_timerActive : Bool := false
  m_lastPacketLatch : Bool := false
  m_lastSamplesAddedUtc : Option ℤ := none
  m_underflow : Bool := false
  m_decoder : δ
  m_audioInput : CBufferedWaveProvider F

namespace CCallsignSampleProvider

variable {δ F : Type} (codec : OpusCodec δ F)

/-- `m_idleTimeoutMs`. -/
def idleTimeoutMs : ℤ := 500

/-- The input with another buffer. -/
def withAudioInput (input : CCallsignSampleProvider δ F) (audioInput : CBufferedWaveProvider F) :
    CCallsignSampleProvider δ F :=
  { input with m_audioInput := audioInput }

/-- `m_audioInput->getBufferedBytes() == 0`. -/
def isDry (input : CCallsignSampleProvider δ F) : Bool :=
  input.m_audioInput.m_audioBuffer.isEmpty

/-- `idle`. -/
def idle (input : CCallsignSampleProvider δ F) : CCallsignSampleProvider δ F :=
  { input with m_timerActive := false, m_inUse := false, m_callsign := "", m_aircraftType := "" }

/-- `clear`. -/
def clear (input : CCallsignSampleProvider δ F) : CCallsignSampleProvider δ F :=
  input.idle.withAudioInput input.m_audioInput.clearBuffer

/-- `timerElapsed`. -/
def timerElapsed (now : ℤ) (input : CCallsignSampleProvider δ F) : CCallsignSampleProvider δ F :=
  match input.m_lastSamplesAddedUtc with
  | none => input
  | some added =>
    if input.m_inUse ∧ input.isDry ∧ idleTimeoutMs < now - added then input.idle else input

/-- The samples of the phase delay. -/
def phaseDelay (input : CCallsignSampleProvider δ F) (delayMs : ℤ) : List F :=
  List.replicate ((input.m_sampleRate / 1000 * delayMs).toNat * 2) codec.zero

/-- What `active` sets before the delay. -/
def take (callsign aircraftType : String) (input : CCallsignSampleProvider δ F) :
    CCallsignSampleProvider δ F :=
  { input with
    m_callsign := callsign
    m_aircraftType := aircraftType
    m_decoder := codec.resetState input.m_decoder
    m_inUse := true
    m_underflow := false }

/-- `active`. -/
def active (callsign aircraftType : String) (input : CCallsignSampleProvider δ F)
    (cache : CallsignDelayCache) : CCallsignSampleProvider δ F × CallsignDelayCache :=
  let delay := (cache.initialise callsign).get callsign
  let input := input.take codec callsign aircraftType
  (if 0 < delay.1 then
      input.withAudioInput (input.m_audioInput.addSamples (input.phaseDelay codec delay.1))
    else input, delay.2)

/-- What a packet sets, besides the buffer and the decoder. -/
def received (lastPacket : Bool) (now : ℤ) (input : CCallsignSampleProvider δ F) :
    CCallsignSampleProvider δ F :=
  { input with
    m_lastPacketLatch := lastPacket
    m_lastSamplesAddedUtc := some now
    m_timerActive := true }

/-- `addOpusSamples`. -/
def addOpusSamples (audioDto : IAudioDto) (now : ℤ) (input : CCallsignSampleProvider δ F)
    (cache : CallsignDelayCache) : CCallsignSampleProvider δ F × CallsignDelayCache :=
  let decoded := codec.decode input.m_decoder audioDto.audio
  let audioInput := input.m_audioInput.addSamples (decoded.1.map codec.shortToFloat)
  (({ input with m_decoder := decoded.2 }.withAudioInput audioInput).received audioDto.lastPacket
      now,
    if audioDto.lastPacket ∧ ¬input.m_underflow then cache.success input.m_callsign else cache)

/-- `addSilentSamples`. -/
def addSilentSamples (audioDto : IAudioDto) (now : ℤ) (input : CCallsignSampleProvider δ F)
    (cache : CallsignDelayCache) : CCallsignSampleProvider δ F × CallsignDelayCache :=
  (input.received audioDto.lastPacket now, cache)

/-- The end of a transmission, in `readSamples`. -/
def endOfTransmission (input : CCallsignSampleProvider δ F) : CCallsignSampleProvider δ F :=
  if input.m_inUse ∧ input.m_lastPacketLatch ∧ input.isDry then
    { input.idle with m_lastPacketLatch := false }
  else input

/-- An underflow, in `readSamples`. -/
def noteUnderflow (input : CCallsignSampleProvider δ F) (cache : CallsignDelayCache) :
    CCallsignSampleProvider δ F × CallsignDelayCache :=
  if input.m_inUse ∧ ¬input.m_underflow ∧ input.isDry then
    ({ input with m_underflow := true }, cache.underflow input.m_callsign)
  else (input, cache)

/-- `readSamples`, of which the mixer takes the samples from the buffer. -/
def readSamples (count : ℕ) (input : CCallsignSampleProvider δ F) (cache : CallsignDelayCache) :
    CCallsignSampleProvider δ F × CallsignDelayCache :=
  let audioInput := (input.m_audioInput.readSamples count).2.2
  (input.withAudioInput audioInput).endOfTransmission.noteUnderflow cache

end CCallsignSampleProvider

/-- The callsign and the use of an input stay, or it becomes idle. -/
def KeepsOrIdles {δ F : Type} (before after : CCallsignSampleProvider δ F) : Prop :=
  (after.m_callsign = before.m_callsign ∧ after.m_inUse = before.m_inUse) ∨
    (after.m_callsign = "" ∧ after.m_inUse = false)

namespace CCallsignSampleProvider

variable {δ F : Type} {codec : OpusCodec δ F} (input : CCallsignSampleProvider δ F)

@[simp] theorem m_callsign_withAudioInput (audioInput : CBufferedWaveProvider F) :
    (input.withAudioInput audioInput).m_callsign = input.m_callsign := rfl

@[simp] theorem m_inUse_withAudioInput (audioInput : CBufferedWaveProvider F) :
    (input.withAudioInput audioInput).m_inUse = input.m_inUse := rfl

@[simp] theorem m_callsign_received (lastPacket : Bool) (now : ℤ)
    (input : CCallsignSampleProvider δ F) :
    (input.received lastPacket now).m_callsign = input.m_callsign := rfl

@[simp] theorem m_inUse_received (lastPacket : Bool) (now : ℤ)
    (input : CCallsignSampleProvider δ F) :
    (input.received lastPacket now).m_inUse = input.m_inUse := rfl

@[simp] theorem m_callsign_idle :
    input.idle.m_callsign = "" := rfl

@[simp] theorem m_inUse_idle :
    input.idle.m_inUse = false := rfl

@[simp] theorem m_callsign_take (callsign aircraftType : String)
    (input : CCallsignSampleProvider δ F) :
    (input.take codec callsign aircraftType).m_callsign = callsign := rfl

@[simp] theorem m_inUse_take (callsign aircraftType : String)
    (input : CCallsignSampleProvider δ F) :
    (input.take codec callsign aircraftType).m_inUse = true := rfl

theorem keepsOrIdles_refl : KeepsOrIdles input input :=
  Or.inl ⟨rfl, rfl⟩

theorem keepsOrIdles_clear : KeepsOrIdles input input.clear :=
  Or.inr ⟨rfl, rfl⟩

theorem keepsOrIdles_timerElapsed (now : ℤ) (input : CCallsignSampleProvider δ F) :
    KeepsOrIdles input (input.timerElapsed now) := by
  unfold timerElapsed
  split
  · exact keepsOrIdles_refl input
  · split_ifs
    · exact Or.inr ⟨rfl, rfl⟩
    · exact keepsOrIdles_refl input

/-- A packet does not change whose input it is. -/
theorem addOpusSamples_spec (codec : OpusCodec δ F) (audioDto : IAudioDto) (now : ℤ)
    (input : CCallsignSampleProvider δ F) (cache : CallsignDelayCache) :
    (input.addOpusSamples codec audioDto now cache).1.m_callsign = input.m_callsign ∧
      (input.addOpusSamples codec audioDto now cache).1.m_inUse = input.m_inUse := by
  simp [addOpusSamples]

theorem keepsOrIdles_endOfTransmission : KeepsOrIdles input input.endOfTransmission := by
  unfold endOfTransmission
  split_ifs
  · exact Or.inr ⟨rfl, rfl⟩
  · exact keepsOrIdles_refl input

theorem noteUnderflow_spec (cache : CallsignDelayCache) :
    (input.noteUnderflow cache).1.m_callsign = input.m_callsign ∧
      (input.noteUnderflow cache).1.m_inUse = input.m_inUse := by
  unfold noteUnderflow
  split_ifs <;> exact ⟨rfl, rfl⟩

/-- Whatever is left in the buffer. -/
theorem keepsOrIdles_withAudioInput (audioInput : CBufferedWaveProvider F)
    (input : CCallsignSampleProvider δ F) (cache : CallsignDelayCache) :
    KeepsOrIdles input
      ((input.withAudioInput audioInput).endOfTransmission.noteUnderflow cache).1 := by
  have hend := keepsOrIdles_endOfTransmission (input.withAudioInput audioInput)
  simp only [KeepsOrIdles, noteUnderflow_spec]
  exact hend

theorem keepsOrIdles_readSamples (count : ℕ) (input : CCallsignSampleProvider δ F)
    (cache : CallsignDelayCache) : KeepsOrIdles input (input.readSamples count cache).1 :=
  keepsOrIdles_withAudioInput (input.m_audioInput.readSamples count).2.2 input cache

/-- An input that is put in use is one of that callsign. -/
theorem active_spec (codec : OpusCodec δ F) (callsign aircraftType : String)
    (input : CCallsignSampleProvider δ F) (cache : CallsignDelayCache) :
    (input.active codec callsign aircraftType cache).1.m_callsign = callsign ∧
      (input.active codec callsign aircraftType cache).1.m_inUse = true := by
  unfold active
  dsimp only
  split_ifs <;> simp

end CCallsignSampleProvider

end Audio

end NeoSwift.Afv
