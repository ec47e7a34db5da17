import NeoSwift.Lib.Machine
import NeoSwift.Afv.Audio.CallsignSampleProvider

/-!
# A receiver and its voice inputs

`CReceiverSampleProvider`, which gives the audio of each callsign on its frequency an input of
its own. The input of a callsign is the one that bears it, and one that is not in use is taken
for a callsign that none bears.

Inputs that are not in use bear the empty callsign. That is also a callsign that can come from
the network, and its audio is queued to an input that is not in use and is not put in use by it.
Nothing else goes wrong, in any run.

## Main definitions

* `CReceiverSampleProvider`: A receiver, with its operations.
* `receiver`: Runs of them.
* `Assigned`: Inputs in use of different callsigns, and no callsign where there is no use.
* `KeepsSpeakersApart`: What an operation is to do.
* `EmptyCallsign`: Audio that is queued to an input that is not in use.

## Theorems

* `borne_keepsOrIdles`, `borne_set`: What the operations do to the inputs.
* `voiceInput_spec`, `addTo_spec`: The input for a callsign.
* `borne_step`: The callsigns of the inputs after an operation.
* `keepsSpeakersApart_iff`: Which operations do what they are to.
* `allSteps_keepsSpeakersApart_iff`: Which runs consist of them.
-/

namespace NeoSwift.Afv

namespace Audio

open Sound

/-- `CReceiverSampleProvider`. -/
structure CReceiverSampleProvider (δ F : Type) where
  m_id : ℕ
  m_frequencyHz : ℕ := 122800000
  m_mute : Bool := false
  m_voiceInputs : List (CCallsignSampleProvider δ F)
  m_receivingCallsigns : List String := []
  m_doClickWhenAppropriate : Bool := false
  m_doBlockWhenAppropriate : Bool := false
  m_lastNumberOfInUseInputs : ℕ := 0

/-- The settings that are read for a packet. -/
structure AfvSettings where
  afvClicked : Bool
  afvBlocked : Bool

/-- What is seen of a receiver: audio that is queued to an input, and what `readSamples` signals
    and mixes. -/
inductive ReceiverEvent
  | queued (index : ℕ) (callsign : String) (audio : List UInt8)
  | receivingCallsignsChanged (id : ℕ) (receivingCallsigns : List String)
  | blockTone
  | click
  deriving DecidableEq

/-- What happens to a receiver. The delays are those of all receivers. -/
inductive ReceiverOperation
  | addOpusSamples (audioDto : IAudioDto) (frequency : ℕ) (now : ℤ) (settings : AfvSettings)
  | addSilentSamples (audioDto : IAudioDto) (frequency : ℕ) (now : ℤ)
  | timerElapsed (index : ℕ) (now : ℤ)
  | setFrequency (frequencyHz : ℕ)
  | setMute (value : Bool)
  | readSamples (count : ℕ)
  | otherReceivers (cache : CallsignDelayCache)

variable {δ F : Type}

/-- What is done to one of the inputs. -/
def updateInput (inputs : List (CCallsignSampleProvider δ F)) (cache : CallsignDelayCache)
    (index : ℕ) (f : CCallsignSampleProvider δ F → CallsignDelayCache →
      CCallsignSampleProvider δ F × CallsignDelayCache) :
    List (CCallsignSampleProvider δ F) × CallsignDelayCache :=
  match inputs[index]? with
  | none => (inputs, cache)
  | some input => (inputs.set index (f input cache).1, (f input cache).2)

/-- The input for a callsign, which is put in use if need be. -/
def voiceInput (codec : OpusCodec δ F) (inputs : List (CCallsignSampleProvider δ F))
    (cache : CallsignDelayCache) (callsign : String) :
    Option ℕ × List (CCallsignSampleProvider δ F) × CallsignDelayCache :=
  match inputs.findIdx? (·.m_callsign == callsign) with
  | some index => (some index, inputs, cache)
  | none =>
    match inputs.findIdx? (!·.m_inUse) with
    | some index => (some index, updateInput inputs cache index (·.active codec callsign ""))
    | none => (none, inputs, cache)

/-- The inputs are read one after the other. -/
def readInputs (count : ℕ) : List (CCallsignSampleProvider δ F) → CallsignDelayCache →
    List (CCallsignSampleProvider δ F) × CallsignDelayCache
  | [], cache => ([], cache)
  | input :: inputs, cache =>
    let rest := readInputs count inputs (input.readSamples count cache).2
    ((input.readSamples count cache).1 :: rest.1, rest.2)

namespace CReceiverSampleProvider

variable (codec : OpusCodec δ F)

/-- A receiver with its inputs, none of which is in use. -/
def create (id voiceInputNumber sampleRate : ℕ) (decoder : δ)
    (audioInput : CBufferedWaveProvider F) : CReceiverSampleProvider δ F where
  m_id := id
  m_voiceInputs := List.replicate voiceInputNumber
    { m_sampleRate := sampleRate, m_decoder := decoder, m_audioInput := audioInput }

variable (receiver : CReceiverSampleProvider δ F)

/-- The receiver with other inputs. -/
def withInputs (inputs : List (CCallsignSampleProvider δ F)) : CReceiverSampleProvider δ F :=
  { receiver with m_voiceInputs := inputs }

/-- `activeCallsigns`. -/
def activeCallsigns : ℕ :=
  receiver.m_voiceInputs.countP (·.m_inUse)

/-- `setFrequency`. -/
def setFrequency (frequencyHz : ℕ) : CReceiverSampleProvider δ F :=
  { receiver with
    m_frequencyHz := frequencyHz
    m_voiceInputs :=
      if frequencyHz ≠ receiver.m_frequencyHz then receiver.m_voiceInputs.map (·.clear)
      else receiver.m_voiceInputs }

/-- `setMute`. -/
def setMute (value : Bool) : CReceiverSampleProvider δ F :=
  { receiver with
    m_mute := value
    m_voiceInputs :=
      if value then receiver.m_voiceInputs.map (·.clear) else receiver.m_voiceInputs }

/-- The events of `readSamples`. -/
def readEvents : List ReceiverEvent :=
  let callsigns := (receiver.m_voiceInputs.map (·.m_callsign)).filter (· ≠ "")
  (if 1 < receiver.activeCallsigns ∧ receiver.m_doBlockWhenAppropriate then [.blockTone] else []) ++
  (if receiver.m_doClickWhenAppropriate ∧ receiver.activeCallsigns = 0 then [.click] else []) ++
  (if receiver.activeCallsigns ≠ receiver.m_lastNumberOfInUseInputs then
      [.receivingCallsignsChanged receiver.m_id callsigns]
    else [])

/-- What `readSamples` sets, besides the inputs. -/
def noteCallsigns : CReceiverSampleProvider δ F :=
  { receiver with
    m_doClickWhenAppropriate :=
      receiver.m_doClickWhenAppropriate ∧ receiver.activeCallsigns ≠ 0
    m_receivingCallsigns :=
      if receiver.activeCallsigns ≠ receiver.m_lastNumberOfInUseInputs then
        (receiver.m_voiceInputs.map (·.m_callsign)).filter (· ≠ "")
      else receiver.m_receivingCallsigns
    m_lastNumberOfInUseInputs := receiver.activeCallsigns }

/-- `readSamples`. -/
def readSamples (cache : CallsignDelayCache) (count : ℕ) :
    (CReceiverSampleProvider δ F × CallsignDelayCache) × List ReceiverEvent :=
  let read := readInputs count receiver.m_voiceInputs cache
  ((receiver.noteCallsigns.withInputs read.1, read.2), receiver.readEvents)

/-- What is common to `addOpusSamples` and `addSilentSamples`: the input for the callsign, to
    which the packet is added. -/
def addTo (cache : CallsignDelayCache) (callsign : String)
    (f : CCallsignSampleProvider δ F → CallsignDelayCache →
      CCallsignSampleProvider δ F × CallsignDelayCache) :
    Option ℕ × CReceiverSampleProvider δ F × CallsignDelayCache :=
  let found := voiceInput codec receiver.m_voiceInputs cache callsign
  let added := found.1.elim found.2 (updateInput found.2.1 found.2.2 · f)
  (found.1, receiver.withInputs added.1, added.2)

/-- The settings that a packet brings up to date. -/
def withSettings (settings : AfvSettings) : CReceiverSampleProvider δ F :=
  { receiver with
    m_doClickWhenAppropriate := settings.afvClicked
    m_doBlockWhenAppropriate := settings.afvBlocked }

/-- `addOpusSamples`. -/
def addOpusSamples (cache : CallsignDelayCache) (audioDto : IAudioDto) (frequency : ℕ)
    (now : ℤ) (settings : AfvSettings) :
    (CReceiverSampleProvider δ F × CallsignDelayCache) × List ReceiverEvent :=
  if receiver.m_frequencyHz ≠ frequency then ((receiver, cache), [])
  else
    let added := receiver.addTo codec cache audioDto.callsign (·.addOpusSamples codec audioDto now)
    ((added.2.1.withSettings settings, added.2.2),
      added.1.toList.map fun index => .queued index audioDto.callsign audioDto.audio)

/-- `addSilentSamples`. -/
def addSilentSamples (cache : CallsignDelayCache) (audioDto : IAudioDto) (frequency : ℕ)
    (now : ℤ) : CReceiverSampleProvider δ F × CallsignDelayCache :=
  if receiver.m_frequencyHz ≠ frequency then (receiver, cache)
  else (receiver.addTo codec cache audioDto.callsign (·.addSilentSamples audioDto now)).2

/-- The timer of an input, if it runs. -/
def timerElapsed (index : ℕ) (now : ℤ) : CReceiverSampleProvider δ F :=
  receiver.withInputs (receiver.m_voiceInputs.modify index fun input =>
    if input.m_timerActive then input.timerElapsed now else input)

end CReceiverSampleProvider

/-- A receiver and the delays. -/
abbrev Reception (δ F : Type) := CReceiverSampleProvider δ F × CallsignDelayCache

open CReceiverSampleProvider in
/-- The operations of a receiver. -/
def receiver (codec : OpusCodec δ F) : Machine (Reception δ F) ReceiverOperation ReceiverEvent where
  step
    | (receiver, cache), .addOpusSamples audioDto frequency now settings =>
      receiver.addOpusSamples codec cache audioDto frequency now settings
    | (receiver, cache), .addSilentSamples audioDto frequency now =>
      (receiver.addSilentSamples codec cache audioDto frequency now, [])
    | (receiver, cache), .timerElapsed index now => ((receiver.timerElapsed index now, cache), [])
    | (receiver, cache), .setFrequency frequencyHz =>
      ((receiver.setFrequency frequencyHz, cache), [])
    | (receiver, cache), .setMute value => ((receiver.setMute value, cache), [])
    | (receiver, cache), .readSamples count => receiver.readSamples cache count
    | (receiver, _), .otherReceivers cache => ((receiver, cache), [])

/-- No two inputs in use have a callsign in common, and one that is not in use has none. -/
structure Assigned (inputs : List (CCallsignSampleProvider δ F)) : Prop where
  distinct : ∀ (i j : ℕ) (a b : CCallsignSampleProvider δ F), inputs[i]? = some a →
    inputs[j]? = some b → a.m_inUse = true → b.m_inUse = true → a.m_callsign = b.m_callsign → i = j
  idle_empty : ∀ a ∈ inputs, a.m_inUse = false → a.m_callsign = ""

/-- No input in use has the callsign. -/
def IsNewCallsign (inputs : List (CCallsignSampleProvider δ F)) (callsign : String) : Prop :=
  ∀ a ∈ inputs, a.m_inUse = true → a.m_callsign ≠ callsign

/-- There is an input that is not in use. -/
def HasFree (inputs : List (CCallsignSampleProvider δ F)) : Prop :=
  ∃ a ∈ inputs, a.m_inUse = false

/-- The operation is audio of a callsign on the frequency of the receiver. -/
def Hears (state : Reception δ F) (operation : ReceiverOperation) (audioDto : IAudioDto) : Prop :=
  ∃ now settings, operation = .addOpusSamples audioDto state.1.m_frequencyHz now settings

/-- The inputs are assigned afterwards, what is queued is queued to the input in use of its
    callsign, and a new callsign is queued if there is a free input. -/
def KeepsSpeakersApart (codec : OpusCodec δ F) (state : Reception δ F)
    (operation : ReceiverOperation) : Prop :=
  Assigned ((receiver codec).step state operation).1.1.m_voiceInputs ∧
  (∀ index callsign audio,
    .queued index callsign audio ∈ ((receiver codec).step state operation).2 →
      ∃ a, ((receiver codec).step state operation).1.1.m_voiceInputs[index]? = some a ∧
        a.m_inUse = true ∧ a.m_callsign = callsign) ∧
  ∀ audioDto, Hears state operation audioDto →
    IsNewCallsign state.1.m_voiceInputs audioDto.callsign → HasFree state.1.m_voiceInputs →
      ∃ index, .queued index audioDto.callsign audioDto.audio
        ∈ ((receiver codec).step state operation).2

/-- Audio without a callsign, while an input is free. -/
def EmptyCallsign (state : Reception δ F) (operation : ReceiverOperation) : Prop :=
  ∃ audioDto, Hears state operation audioDto ∧ audioDto.callsign = "" ∧
    HasFree state.1.m_voiceInputs

/-! ## The callsigns of the inputs -/

/-- The invariant of all runs: an input is in use if and only if it has a callsign, and no other
    input has that one. -/
structure Borne (inputs : List (CCallsignSampleProvider δ F)) : Prop where
  inUse_iff : ∀ a ∈ inputs, a.m_inUse = true ↔ a.m_callsign ≠ ""
  distinct : ∀ (i j : ℕ) (a b : CCallsignSampleProvider δ F), inputs[i]? = some a →
    inputs[j]? = some b → a.m_callsign = b.m_callsign → a.m_callsign ≠ "" → i = j

variable {codec : OpusCodec δ F} {inputs : List (CCallsignSampleProvider δ F)}
  {cache : CallsignDelayCache}

theorem Borne.assigned (h : Borne inputs) : Assigned inputs where
  distinct i j a b ha hb huse _ hsame :=
    h.distinct i j a b ha hb hsame ((h.inUse_iff a (List.mem_of_getElem? ha)).mp huse)
  idle_empty a ha hidle := by
    by_contra hcallsign
    rw [(h.inUse_iff a ha).mpr hcallsign] at hidle
    cases hidle

theorem Borne.inUse_eq_false (h : Borne inputs) {a : CCallsignSampleProvider δ F} (ha : a ∈ inputs)
    (hcallsign : a.m_callsign = "") : a.m_inUse = false := by
  by_contra huse
  exact (h.inUse_iff a ha).mp (by simpa using huse) hcallsign

/-- Inputs that keep their callsigns or become idle. -/
theorem borne_keepsOrIdles {after : List (CCallsignSampleProvider δ F)} (h : Borne inputs)
    (hafter : ∀ (i : ℕ) (b : CCallsignSampleProvider δ F), after[i]? = some b →
      ∃ a, inputs[i]? = some a ∧ KeepsOrIdles a b) : Borne after where
  inUse_iff b hb := by
    rcases List.mem_iff_getElem?.mp hb with ⟨i, hi⟩
    rcases hafter i b hi with ⟨a, ha, ⟨hcallsign, huse⟩ | ⟨hcallsign, huse⟩⟩
    · rw [hcallsign, huse]
      exact h.inUse_iff a (List.mem_of_getElem? ha)
    · simp [hcallsign, huse]
  distinct i j b b' hb hb' hsame hne := by
    rcases hafter i b hb with ⟨a, ha, ⟨hcallsign, _⟩ | ⟨hcallsign, _⟩⟩
    · rcases hafter j b' hb' with ⟨a', ha', ⟨hcallsign', _⟩ | ⟨hcallsign', _⟩⟩
      · rw [hcallsign] at hne
        exact h.distinct i j a a' ha ha' (by rw [← hcallsign, ← hcallsign', hsame]) hne
      · exact absurd (hsame.trans hcallsign') hne
    · exact absurd hcallsign hne

/-- An input that takes a callsign that none has. -/
theorem borne_set {callsign : String} {index : ℕ} {b : CCallsignSampleProvider δ F}
    (h : Borne inputs) (hnone : ∀ a ∈ inputs, a.m_callsign ≠ callsign) (hne : callsign ≠ "")
    (hb : b.m_callsign = callsign ∧ b.m_inUse = true) : Borne (inputs.set index b) where
  inUse_iff a ha := by
    rcases List.mem_or_eq_of_mem_set ha with ha | rfl
    · exact h.inUse_iff a ha
    · simp [hb, hne]
  distinct i j a a' ha ha' hsame hcallsign := by
    -- Of two inputs with one callsign, either both were there before or both are the new one.
    rw [List.getElem?_set] at ha ha'
    split_ifs at ha ha' with hi hlt hj
    · exact hi.symm.trans hj
    · rw [Option.some.injEq] at ha
      rw [← ha, hb.1] at hsame
      exact absurd hsame.symm (hnone a' (List.mem_of_getElem? ha'))
    · rw [Option.some.injEq] at ha'
      rw [← ha', hb.1] at hsame
      exact absurd hsame (hnone a (List.mem_of_getElem? ha))
    · exact h.distinct i j a a' ha ha' hsame hcallsign

theorem borne_map {f : CCallsignSampleProvider δ F → CCallsignSampleProvider δ F}
    (hf : ∀ a, KeepsOrIdles a (f a)) (h : Borne inputs) : Borne (inputs.map f) := by
  refine borne_keepsOrIdles h fun i b hb => ?_
  rw [List.getElem?_map, Option.map_eq_some_iff] at hb
  rcases hb with ⟨a, ha, rfl⟩
  exact ⟨a, ha, hf a⟩

theorem borne_modify {f : CCallsignSampleProvider δ F → CCallsignSampleProvider δ F}
    (hf : ∀ a, KeepsOrIdles a (f a)) (h : Borne inputs) (index : ℕ) :
    Borne (inputs.modify index f) := by
  refine borne_keepsOrIdles h fun i b hb => ?_
  rw [List.getElem?_modify, Option.map_eq_map, Option.map_eq_some_iff] at hb
  rcases hb with ⟨a, ha, rfl⟩
  refine ⟨a, ha, ?_⟩
  split_ifs
  · exact hf a
  · exact CCallsignSampleProvider.keepsOrIdles_refl a

theorem readInputs_keepsOrIdles (count : ℕ) (inputs : List (CCallsignSampleProvider δ F)) :
    ∀ (cache : CallsignDelayCache) (i : ℕ) (b : CCallsignSampleProvider δ F),
      (readInputs count inputs cache).1[i]? = some b →
        ∃ a, inputs[i]? = some a ∧ KeepsOrIdles a b := by
  induction inputs with
  | nil =>
      intro cache i b hb
      exact absurd hb (by simp [readInputs])
  | cons input inputs ih =>
      intro cache i b hb
      rw [readInputs] at hb
      cases i with
      | zero =>
          rw [List.getElem?_cons_zero, Option.some.injEq] at hb
          refine ⟨input, List.getElem?_cons_zero, ?_⟩
          rw [← hb]
          exact CCallsignSampleProvider.keepsOrIdles_readSamples count input cache
      | succ i =>
          exact ih _ i b hb

/-! ## Packets -/

/-- An input is found for each callsign if one is free, and it has the callsign then. -/
theorem voiceInput_spec (codec : OpusCodec δ F) (cache : CallsignDelayCache) (h : Borne inputs)
    (callsign : String) :
    Borne (voiceInput codec inputs cache callsign).2.1 ∧
    (∀ index, (voiceInput codec inputs cache callsign).1 = some index →
      ∃ a, (voiceInput codec inputs cache callsign).2.1[index]? = some a ∧
        a.m_callsign = callsign) ∧
    (HasFree inputs → (voiceInput codec inputs cache callsign).1 ≠ none) ∧
    (callsign = "" → (voiceInput codec inputs cache callsign).1 ≠ none → HasFree inputs) := by
  unfold voiceInput
  cases hfound : inputs.findIdx? (·.m_callsign == callsign) with
  | some index =>
      rw [List.findIdx?_eq_some_iff_getElem] at hfound
      rcases hfound with ⟨hlt, hcallsign, _⟩
      rw [beq_iff_eq] at hcallsign
      refine ⟨h, ?_, by simp, fun hempty _ => ?_⟩
      · intro i hi
        rw [Option.some.injEq] at hi
        exact ⟨inputs[index], by rw [← hi, List.getElem?_eq_getElem hlt], hcallsign⟩
      · exact ⟨inputs[index], List.getElem_mem hlt,
          h.inUse_eq_false (List.getElem_mem hlt) (hcallsign.trans hempty)⟩
  | none =>
      rw [List.findIdx?_eq_none_iff] at hfound
      have hnone : ∀ a ∈ inputs, a.m_callsign ≠ callsign := by
        intro a ha
        simpa using hfound a ha
      cases hfree : inputs.findIdx? (!·.m_inUse) with
      | some index =>
          rw [List.findIdx?_eq_some_iff_getElem] at hfree
          rcases hfree with ⟨hlt, hidle, _⟩
          have huse : inputs[index].m_inUse = false := by simpa using hidle
          have hmem := List.getElem_mem hlt
          -- The callsign is not empty, for the free input would have had it otherwise.
          have hne : callsign ≠ "" := by
            intro hempty
            exact hnone _ hmem (by rw [hempty, h.assigned.idle_empty _ hmem huse])
          have hactive := inputs[index].active_spec codec callsign "" cache
          simp only [updateInput, List.getElem?_eq_getElem hlt]
          refine ⟨borne_set h hnone hne hactive, ?_, by simp, fun _ _ => ⟨_, hmem, huse⟩⟩
          intro i hi
          rw [Option.some.injEq] at hi
          exact ⟨_, by rw [← hi, List.getElem?_set_self hlt], hactive.1⟩
      | none =>
          rw [List.findIdx?_eq_none_iff] at hfree
          refine ⟨h, by simp, fun hhas _ => ?_, by simp⟩
          rcases hhas with ⟨a, ha, hidle⟩
          have huse := hfree a ha
          rw [hidle] at huse
          cases huse

/-- The packet is added to the input of its callsign. -/
theorem addTo_spec (codec : OpusCodec δ F) (cache : CallsignDelayCache)
    {receiver : CReceiverSampleProvider δ F} (h : Borne receiver.m_voiceInputs)
    (callsign : String) {f : CCallsignSampleProvider δ F → CallsignDelayCache →
      CCallsignSampleProvider δ F × CallsignDelayCache}
    (hf : ∀ a cache, (f a cache).1.m_callsign = a.m_callsign ∧ (f a cache).1.m_inUse = a.m_inUse) :
    Borne (receiver.addTo codec cache callsign f).2.1.m_voiceInputs ∧
    (∀ index, (receiver.addTo codec cache callsign f).1 = some index →
      ∃ a, (receiver.addTo codec cache callsign f).2.1.m_voiceInputs[index]? = some a ∧
        a.m_callsign = callsign) ∧
    (HasFree receiver.m_voiceInputs → (receiver.addTo codec cache callsign f).1 ≠ none) ∧
    (callsign = "" → (receiver.addTo codec cache callsign f).1 ≠ none →
      HasFree receiver.m_voiceInputs) := by
  rcases voiceInput_spec codec cache h callsign with
    ⟨hborne, hsome, hfree, hempty⟩
  simp only [CReceiverSampleProvider.addTo, CReceiverSampleProvider.withInputs]
  cases hfound : (voiceInput codec receiver.m_voiceInputs cache callsign).1 with
  | none => exact ⟨hborne, by simp, by simpa [hfound] using hfree, by simp⟩
  | some index =>
      rcases hsome index hfound with ⟨a, ha, hcallsign⟩
      have hlt := (List.getElem?_eq_some_iff.mp ha).1
      simp only [Option.elim_some, updateInput, ha]
      -- The packet leaves callsign and use of the input as they are, and the others alone.
      refine ⟨borne_keepsOrIdles hborne ?_, ?_, by simp, fun hnil _ =>
        hempty hnil (by simp [hfound])⟩
      · intro i b hb
        rw [List.getElem?_set] at hb
        split_ifs at hb with hi
        · rw [Option.some.injEq] at hb
          exact ⟨a, by rw [← hi, ha], by rw [← hb]; exact Or.inl (hf a _)⟩
        · exact ⟨b, hb, CCallsignSampleProvider.keepsOrIdles_refl b⟩
      · intro i hi
        rw [Option.some.injEq] at hi
        exact ⟨_, by rw [← hi, List.getElem?_set_self hlt], ((hf a _).1).trans hcallsign⟩

/-! ## Operations -/

theorem borne_addOpusSamples {receiver : CReceiverSampleProvider δ F}
    (h : Borne receiver.m_voiceInputs) (audioDto : IAudioDto) (frequency : ℕ) (now : ℤ)
    (settings : AfvSettings) :
    Borne (receiver.addOpusSamples codec cache audioDto frequency now settings).1.1.m_voiceInputs
    := by
  unfold CReceiverSampleProvider.addOpusSamples
  split_ifs
  · exact h
  · exact (addTo_spec codec cache h audioDto.callsign
      fun a cache => a.addOpusSamples_spec codec audioDto now cache).1

theorem borne_addSilentSamples {receiver : CReceiverSampleProvider δ F}
    (h : Borne receiver.m_voiceInputs) (audioDto : IAudioDto) (frequency : ℕ) (now : ℤ) :
    Borne (receiver.addSilentSamples codec cache audioDto frequency now).1.m_voiceInputs := by
  unfold CReceiverSampleProvider.addSilentSamples
  split_ifs
  · exact h
  · exact (addTo_spec codec cache h audioDto.callsign fun _ _ => ⟨rfl, rfl⟩).1

theorem borne_step (codec : OpusCodec δ F) {state : Reception δ F}
    (h : Borne state.1.m_voiceInputs) (operation : ReceiverOperation) :
    Borne ((receiver codec).step state operation).1.1.m_voiceInputs := by
  rcases state with ⟨receiver, cache⟩
  cases operation with
  | addOpusSamples audioDto frequency now settings =>
      exact borne_addOpusSamples h audioDto frequency now settings
  | addSilentSamples audioDto frequency now =>
      exact borne_addSilentSamples h audioDto frequency now
  | timerElapsed index now =>
      -- Whether or not the input has timed out, it keeps its callsign or gives it up.
      refine borne_modify (fun a => ?_) h index
      split_ifs
      · exact a.keepsOrIdles_timerElapsed now
      · exact a.keepsOrIdles_refl
  | setFrequency frequencyHz =>
      simp only [Audio.receiver, CReceiverSampleProvider.setFrequency]
      split_ifs
      · exact borne_map CCallsignSampleProvider.keepsOrIdles_clear h
      · exact h
  | setMute value =>
      simp only [Audio.receiver, CReceiverSampleProvider.setMute]
      split_ifs
      · exact borne_map CCallsignSampleProvider.keepsOrIdles_clear h
      · exact h
  | readSamples count =>
      exact borne_keepsOrIdles h (readInputs_keepsOrIdles count receiver.m_voiceInputs cache)
  | otherReceivers cache' => exact h

theorem hears_addOpusSamples {state : Reception δ F} {audioDto audioDto' : IAudioDto}
    {frequency : ℕ} {now : ℤ} {settings : AfvSettings} :
    Hears state (.addOpusSamples audioDto' frequency now settings) audioDto ↔
      audioDto' = audioDto ∧ frequency = state.1.m_frequencyHz := by
  simp [Hears]

/-- Packets. -/
theorem keepsSpeakersApart_addOpusSamples {state : Reception δ F}
    (h : Borne state.1.m_voiceInputs) (audioDto : IAudioDto) (frequency : ℕ) (now : ℤ)
    (settings : AfvSettings) :
    KeepsSpeakersApart codec state (.addOpusSamples audioDto frequency now settings) ↔
      ¬EmptyCallsign state (.addOpusSamples audioDto frequency now settings) := by
  have hassigned := (borne_step codec h
    (.addOpusSamples audioDto frequency now settings)).assigned
  simp only [KeepsSpeakersApart, EmptyCallsign, hears_addOpusSamples, hassigned, true_and]
  rcases state with ⟨receiver, cache⟩
  by_cases hfrequency : frequency = receiver.m_frequencyHz
  · rcases addTo_spec codec cache h audioDto.callsign
      (fun a cache => a.addOpusSamples_spec codec audioDto now cache) with
      ⟨hborne, hsome, hfree, hempty⟩
    simp only [Audio.receiver, CReceiverSampleProvider.addOpusSamples, hfrequency, ne_eq,
      not_true_eq_false, if_false, List.mem_map, Option.mem_toList, and_true,
      ReceiverEvent.queued.injEq]
    constructor
    · -- Without a callsign, the audio would be queued to an input that is not in use.
      rintro ⟨hqueued, _⟩ ⟨_, rfl, hnil, hhas⟩
      rcases Option.ne_none_iff_exists'.mp (hfree hhas) with ⟨index, hindex⟩
      rcases hqueued index _ _ ⟨index, hindex, rfl, rfl, rfl⟩ with ⟨a, ha, huse, hcallsign⟩
      rw [hborne.inUse_eq_false (List.mem_of_getElem? ha) (hcallsign.trans hnil)] at huse
      cases huse
    · intro hnot
      constructor
      · rintro _ _ _ ⟨index, hindex, rfl, rfl, rfl⟩
        rcases hsome index hindex with ⟨a, ha, hcallsign⟩
        refine ⟨a, ha, (hborne.inUse_iff a (List.mem_of_getElem? ha)).mpr fun hnil => ?_, hcallsign⟩
        have hnil' := hcallsign.symm.trans hnil
        exact hnot ⟨audioDto, rfl, hnil', hempty hnil' (by simp [hindex])⟩
      · rintro _ rfl _ hhas
        rcases Option.ne_none_iff_exists'.mp (hfree hhas) with ⟨index, hindex⟩
        exact ⟨index, index, hindex, rfl, rfl, rfl⟩
  · simp [Audio.receiver, CReceiverSampleProvider.addOpusSamples, hfrequency, Ne.symm hfrequency]

theorem hears_only_addOpusSamples {state : Reception δ F} {operation : ReceiverOperation}
    (hother : ∀ audioDto frequency now settings,
      operation ≠ .addOpusSamples audioDto frequency now settings) (audioDto : IAudioDto) :
    ¬Hears state operation audioDto := by
  rintro ⟨now, settings, rfl⟩
  exact hother _ _ _ _ rfl

theorem queued_only_addOpusSamples {state : Reception δ F} {operation : ReceiverOperation}
    (hother : ∀ audioDto frequency now settings,
      operation ≠ .addOpusSamples audioDto frequency now settings)
    (index : ℕ) (callsign : String) (audio : List UInt8) :
    .queued index callsign audio ∉ ((receiver codec).step state operation).2 := by
  cases operation with
  | addOpusSamples audioDto frequency now settings => exact absurd rfl (hother _ _ _ _)
  | readSamples count =>
      simp only [Audio.receiver, CReceiverSampleProvider.readSamples,
        CReceiverSampleProvider.readEvents, List.mem_append]
      rintro ((h | h) | h) <;> split_ifs at h <;> simp at h
  | addSilentSamples audioDto frequency now => exact List.not_mem_nil
  | timerElapsed index now => exact List.not_mem_nil
  | setFrequency frequencyHz => exact List.not_mem_nil
  | setMute value => exact List.not_mem_nil
  | otherReceivers cache => exact List.not_mem_nil

/-- An operation does what it is to unless it is audio without a callsign. -/
theorem keepsSpeakersApart_iff {state : Reception δ F} (h : Borne state.1.m_voiceInputs)
    (operation : ReceiverOperation) :
    KeepsSpeakersApart codec state operation ↔ ¬EmptyCallsign state operation := by
  by_cases hopus : ∃ audioDto frequency now settings,
      operation = .addOpusSamples audioDto frequency now settings
  · rcases hopus with ⟨audioDto, frequency, now, settings, rfl⟩
    exact keepsSpeakersApart_addOpusSamples h audioDto frequency now settings
  · have hother : ∀ audioDto frequency now settings,
        operation ≠ .addOpusSamples audioDto frequency now settings :=
      fun _ _ _ _ heq => hopus ⟨_, _, _, _, heq⟩
    refine iff_of_true ⟨(borne_step codec h operation).assigned, ?_, ?_⟩ ?_
    · exact fun _ _ _ hqueued => absurd hqueued (queued_only_addOpusSamples hother _ _ _)
    · exact fun _ hhears => absurd hhears (hears_only_addOpusSamples hother _)
    · exact fun hempty => hempty.elim fun _ hnil => hears_only_addOpusSamples hother _ hnil.1

/-! ## Runs -/

theorem borne_create (id voiceInputNumber sampleRate : ℕ) (decoder : δ)
    (audioInput : CBufferedWaveProvider F) :
    Borne (CReceiverSampleProvider.create id voiceInputNumber sampleRate decoder
      audioInput).m_voiceInputs where
  inUse_iff a ha := by
    rw [List.eq_of_mem_replicate ha]
    simp
  distinct i j a b ha _ _ hne := by
    rw [List.eq_of_mem_replicate (List.mem_of_getElem? ha)] at hne
    exact absurd rfl hne

/-- In a run of a receiver, all operations do what they are to if and only if none is audio
    without a callsign while an input is free. -/
theorem allSteps_keepsSpeakersApart_iff (codec : OpusCodec δ F)
    (id voiceInputNumber sampleRate : ℕ) (decoder : δ) (audioInput : CBufferedWaveProvider F)
    (cache : CallsignDelayCache) (operations : List ReceiverOperation) :
    (receiver codec).AllSteps (KeepsSpeakersApart codec)
        (.create id voiceInputNumber sampleRate decoder audioInput, cache) operations ↔
      (receiver codec).AllSteps (fun state operation => ¬EmptyCallsign state operation)
        (.create id voiceInputNumber sampleRate decoder audioInput, cache) operations := by
  have hstart := borne_create id voiceInputNumber sampleRate decoder audioInput
  constructor
  · intro h
    refine Machine.allSteps_of_invariant _ (P := fun state => Borne state.1.m_voiceInputs)
      (fun state operation hborne hkeeps => ?_) operations _ hstart h
    exact ⟨(keepsSpeakersApart_iff hborne operation).mp hkeeps, borne_step codec hborne operation⟩
  · intro h
    refine Machine.allSteps_of_invariant _ (P := fun state => Borne state.1.m_voiceInputs)
      (fun state operation hborne hnot => ?_) operations _ hstart h
    exact ⟨(keepsSpeakersApart_iff hborne operation).mpr hnot, borne_step codec hborne operation⟩

/-- A codec with one sample for each byte. -/
def byteCodec : OpusCodec Unit ℤ where
  decode decoder opusData := (opusData.map fun byte => byte.toNat, decoder)
  resetState := id
  shortToFloat := id
  zero := 0

/-- A packet without a callsign on the frequency of a receiver with four inputs. -/
theorem not_keepsSpeakersApart_empty :
    ¬(receiver byteCodec).AllSteps (KeepsSpeakersApart byteCodec)
      (.create 0 4 48000 () (.create ⟨960000, by decide⟩), ⟨∅, ∅⟩)
      [.addOpusSamples ⟨"", 1, [1], false⟩ 122800000 0 ⟨false, false⟩] := by
  intro h
  refine (keepsSpeakersApart_iff (borne_create _ _ _ _ _) _).mp h.1 ?_
  exact ⟨_, ⟨0, _, rfl⟩, rfl, _, List.mem_replicate.mpr ⟨by decide, rfl⟩, rfl⟩

end Audio

end NeoSwift.Afv
