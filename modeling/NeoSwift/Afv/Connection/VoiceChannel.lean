import NeoSwift.Afv.Crypto.CryptoDtoSerializer

/-!
# Voice Channels

Two peers with a crypto channel between them. A datagram of one may be lost, come twice or
come late, while more are sent. Whatever the order is, one that comes is the record it was
made of. Each has a nonce of its own as long as there are no more than a sequence number
can count.

## Main definitions

* `VoiceDto`: A record that fits its datagram, whatever its type.
* `VoiceChannel`: The two ends, and all that has been sent.
* `Receives`: A result is a record under a sequence number.

## Theorems

* `voiceChannel_run`: What has been sent, in terms of the records.
* `nonces_differ_iff`: When no sequence number comes again.
* `voice_arrives`: What arrives, and when a nonce is used again.
-/

namespace NeoSwift.Afv

namespace Connection

open CryptoDtoSerializer

/-- A record whose text fits the decrypt buffer, and that its packed form stands for. -/
structure VoiceDto where
  T : Type
  [isDto : Dto T]
  [inhabited : Inhabited T]
  dto : T
  fits : (plaintext dto).length ≤ decryptBufferSize
  unpack_pack : Dto.unpack (Dto.pack dto) = some dto

attribute [instance] VoiceDto.isDto VoiceDto.inhabited

/-- What happens: a record is sent, or the n-th of the datagrams arrives. -/
inductive VoiceEvent where
  | send (v : VoiceDto)
  | arrive (n : ℕ) (memory : Indeterminate)

inductive VoiceOutput where
  | sent (v : VoiceDto)
  | received (n : ℕ) (result : Except Fault Deserializer)

structure VoiceChannel where
  transmitting : CryptoDtoChannel
  receiving : CryptoDtoChannel
  datagrams : List QByteArray := []

variable (L : Libraries)

/-- `sendToVoiceServer` on one side, and `processMessage` up to the deserializer on the
    other one. -/
def voiceChannel : Machine VoiceChannel VoiceEvent VoiceOutput where
  step c
    | .send v =>
        let (packet, transmitting) := serialize L c.transmitting .aeadChaCha20Poly1305 v.dto
        match packet with
        | .error _ => ({ c with transmitting }, [])
        | .ok dataBytes =>
            ({ c with transmitting, datagrams := c.datagrams ++ [dataBytes] }, [.sent v])
    | .arrive n memory =>
        match c.datagrams[n]? with
        | none => (c, [])
        | some datagram =>
            (c, [.received n (deserialize L memory c.receiving datagram false)])

/-- The records that have been sent. -/
def sentRecords (out : List VoiceOutput) : List VoiceDto :=
  out.filterMap fun
    | .sent v => some v
    | .received _ _ => none

/-- The record arrives, under the sequence number. -/
def Receives (v : VoiceDto) (sequence : UInt32) (result : Except Fault Deserializer) : Prop :=
  ∃ d, result = .ok d ∧ d.verified = true ∧ d.header.sequence = sequence.toUInt64 ∧
    d.dtoNameBuffer = Dto.getShortDtoName v.T ∧ d.getDto v.T = .ok v.dto

/-- The channel after `n` packets. -/
def after (start : CryptoDtoChannel) (n : ℕ) : CryptoDtoChannel :=
  { start with transmitSequence := start.transmitSequence + UInt32.ofNat n }

/-- The datagram a record is sent in. -/
def datagramOf (sender : CryptoDtoChannel) (v : VoiceDto) : QByteArray :=
  framed (L.packHeader (nextHeader sender))
    (L.aead.encrypt sender.aeadTransmitKey (nonce (nextHeader sender).sequence)
      (writeUInt16 (UInt16.ofNat (L.packHeader (nextHeader sender)).length)
        ++ L.packHeader (nextHeader sender)) (plaintext v.dto))

theorem step_send (c : VoiceChannel) (v : VoiceDto) :
    (voiceChannel L).step c (.send v) =
      ({ c with transmitting := after c.transmitting 1,
                datagrams := c.datagrams ++ [datagramOf L c.transmitting v] }, [.sent v]) := by
  simp only [voiceChannel, serialize_aead]
  rfl

theorem after_after (start : CryptoDtoChannel) (n : ℕ) :
    after (after start n) 1 = after start (n + 1) := by
  simp [after, UInt32.add_assoc]

/-- A datagram is delivered as the record it was made of. -/
theorem receives_datagramOf (sender : CryptoDtoChannel) {receiver : CryptoDtoChannel}
    (hkeys : sender.aeadTransmitKey = receiver.aeadReceiveKey)
    (hheader : (L.packHeader (nextHeader sender)).length < 2 ^ 16) (memory : Indeterminate)
    (v : VoiceDto) : Receives v sender.transmitSequence
      (deserialize L memory receiver (datagramOf L sender v) false) := by
  have hlength := v.fits
  rw [length_plaintext, decryptBufferSize] at hlength
  rcases verifiedWith_plaintext memory (UInt16.ofNat (L.packHeader (nextHeader sender)).length)
    (nextHeader sender) v.dto (by omega) (by omega) with ⟨hname, hdata⟩
  refine ⟨_, ?_, rfl, rfl, hname, ?_⟩
  · rw [datagramOf, deserialize_framed L memory receiver hheader, hkeys]
    exact openSections_encrypt L memory _
      (L.unpackHeader_packHeader (nextHeader sender) hheader) rfl v.fits
  · simp only [Deserializer.getDto, hname, hdata, v.unpack_pack, or_true]
    rfl

/-- What a run has done: the datagrams are those of the records, one sequence number after
    the other, and what arrived is one of them. -/
structure Transmitted (start receiver : CryptoDtoChannel) (c : VoiceChannel)
    (out : List VoiceOutput) : Prop where
  transmitting : c.transmitting = after start (sentRecords out).length
  receiving : c.receiving = receiver
  datagrams : c.datagrams
    = (sentRecords out).mapIdx fun n v => datagramOf L (after start n) v
  received : ∀ n result, .received n result ∈ out → ∃ v memory, (sentRecords out)[n]? = some v ∧
    result = deserialize L memory receiver (datagramOf L (after start n) v) false

theorem transmitted_step {start receiver : CryptoDtoChannel} (c : VoiceChannel)
    (out : List VoiceOutput) (e : VoiceEvent) (h : Transmitted L start receiver c out) :
    Transmitted L start receiver ((voiceChannel L).step c e).1
      (out ++ ((voiceChannel L).step c e).2) := by
  cases e with
  -- The record is sealed under the next sequence number.
  | send v =>
      have hsent : sentRecords (out ++ [.sent v]) = sentRecords out ++ [v] := List.filterMap_append
      rw [step_send]
      refine ⟨?_, h.receiving, ?_, ?_⟩
      · rw [hsent, List.length_append, h.transmitting]
        exact after_after start _
      · rw [hsent, List.mapIdx_concat, h.datagrams, h.transmitting]
      · intro n result hmem
        rcases List.mem_append.mp hmem with hmem | hmem
        · rcases h.received n result hmem with ⟨w, memory, hw, hresult⟩
          refine ⟨w, memory, ?_, hresult⟩
          rw [hsent, List.getElem?_append_left (List.getElem?_eq_some_iff.mp hw).1, hw]
        · cases List.mem_singleton.mp hmem
  -- A datagram may arrive late, twice or never: its record stands in the list of those sent.
  | arrive n memory =>
      simp only [voiceChannel]
      cases hn : c.datagrams[n]? with
      | none => simpa only [List.append_nil] using h
      | some datagram =>
          have hsent : ∀ result, sentRecords (out ++ [.received n result]) = sentRecords out :=
            fun _ => List.filterMap_append.trans (List.append_nil _)
          refine ⟨hsent _ ▸ h.transmitting, h.receiving, hsent _ ▸ h.datagrams, ?_⟩
          rw [hsent]
          intro m result hmem
          rcases List.mem_append.mp hmem with hmem | hmem
          · exact h.received m result hmem
          · cases List.mem_singleton.mp hmem
            rw [h.datagrams, List.getElem?_mapIdx, Option.map_eq_some_iff] at hn
            rcases hn with ⟨v, hv, rfl⟩
            exact ⟨v, memory, hv, by rw [h.receiving]⟩

theorem voiceChannel_run (start receiver : CryptoDtoChannel) (events : List VoiceEvent) :
    Transmitted L start receiver ((voiceChannel L).run ⟨start, receiver, []⟩ events).1
      ((voiceChannel L).run ⟨start, receiver, []⟩ events).2 := by
  refine (voiceChannel L).run_invariant (Transmitted L start receiver) (transmitted_step L)
    events ⟨start, receiver, []⟩ [] ⟨?_, rfl, rfl, ?_⟩
  · exact congrArg (fun s => { start with transmitSequence := s }) (UInt32.add_zero _).symm
  · exact nofun

/-- Sequence numbers one after the other differ as long as they are no more than 32 bits
    can count. -/
theorem nonces_differ_iff (start : UInt32) (count : ℕ) :
    (∀ i j, i < j → j < count → start + UInt32.ofNat i ≠ start + UInt32.ofNat j) ↔
      count ≤ 2 ^ 32 := by
  have heq i j : start + UInt32.ofNat i = start + UInt32.ofNat j ↔ i % 2 ^ 32 = j % 2 ^ 32 := by
    rw [UInt32.add_right_inj, ← UInt32.toNat_inj, UInt32.toNat_ofNat', UInt32.toNat_ofNat']
  constructor
  · intro h
    by_contra hmany
    exact h 0 (2 ^ 32) (by decide) (by omega) ((heq _ _).mpr rfl)
  · intro hcount i j hij hj hsame
    rw [heq] at hsame
    omega

/-- Whatever is lost, comes again or comes late: what arrives is verified, and is the
    record that was sent under its sequence number. No two of the datagrams are sealed
    under one sequence number, exactly as long as there are at most 2 ^ 32. -/
theorem voice_arrives (start receiver : CryptoDtoChannel)
    (hkeys : start.aeadTransmitKey = receiver.aeadReceiveKey)
    (hheader : ∀ sequence, (L.packHeader
      ⟨start.channelTag.toStdString, sequence, .aeadChaCha20Poly1305⟩).length < 2 ^ 16)
    (events : List VoiceEvent) :
    let done := (voiceChannel L).run ⟨start, receiver, []⟩ events
    (∀ n result, .received n result ∈ done.2 → ∃ v, (sentRecords done.2)[n]? = some v ∧
      Receives v (start.transmitSequence + UInt32.ofNat n) result) ∧
    (done.1.datagrams.Pairwise (fun a b => ∀ sequence,
      ¬(Sealed L start.aeadTransmitKey sequence a ∧ Sealed L start.aeadTransmitKey sequence b)) ↔
        done.1.datagrams.length ≤ 2 ^ 32) := by
  intro done
  have hrun := voiceChannel_run L start receiver events
  have hreceives : ∀ n memory v, Receives v (start.transmitSequence + UInt32.ofNat n)
      (deserialize L memory receiver (datagramOf L (after start n) v) false) :=
    fun n memory v => receives_datagramOf L (after start n) hkeys (hheader _) memory v
  refine ⟨fun n result hmem => ?_, ?_⟩
  · rcases hrun.received n result hmem with ⟨v, memory, hv, rfl⟩
    exact ⟨v, hv, hreceives n memory v⟩
  · -- A datagram is sealed under the sequence number it is delivered with, and no other.
    have hsealed : ∀ n v sequence,
        Sealed L start.aeadTransmitKey sequence (datagramOf L (after start n) v) ↔
          (start.transmitSequence + UInt32.ofNat n).toUInt64 = sequence := by
      intro n v sequence
      rcases hreceives n ⟨0, 0, 0⟩ v with ⟨d, hd, hverified, hsequence, _⟩
      rw [hkeys, ← deserialize_verified_iff L ⟨0, 0, 0⟩ receiver, hd]
      constructor
      · rintro ⟨d', hd', _, hs⟩
        cases hd'
        exact hsequence.symm.trans hs
      · exact fun hs => ⟨d, rfl, hverified, hsequence.trans hs⟩
    rw [hrun.datagrams, List.pairwise_iff_getElem, ← nonces_differ_iff start.transmitSequence]
    simp only [List.getElem_mapIdx, hsealed]
    constructor
    · exact fun h i j hij hj hsame => h i j (hij.trans hj) hj hij _
        ⟨congrArg UInt32.toUInt64 hsame, rfl⟩
    · rintro h i j hi hj hij sequence ⟨hfirst, hsecond⟩
      exact h i j hij hj (UInt32.toUInt64_inj.mp (hfirst.trans hsecond.symm))

theorem length_pack_uint (n : ℕ) : (Msgpack.Codec.uint.pack n).length ≤ 9 := by
  simp only [Msgpack.Codec.uint, Msgpack.Codec.sized, Msgpack.packSized, Msgpack.packWide]
  split_ifs <;> simp

/-- The header of the channel is short. -/
theorem length_packHeader_lt (sequence : UInt64) : (Libraries.standard.packHeader
    ⟨CryptoDtoChannel.zeroKeyChannel.channelTag.toStdString, sequence,
      .aeadChaCha20Poly1305⟩).length < 2 ^ 16 := by
  have hsequence := length_pack_uint sequence.toNat
  simp only [Libraries.standard, CryptoDtoHeaderDto.codec, uintField, Msgpack.Codec.record,
    Msgpack.Codec.map, Msgpack.Codec.pair, List.length_append]
  have harray : (Msgpack.Codec.arrayLength.pack 3).length = 1 := rfl
  have htag : (Msgpack.Codec.str.pack
      CryptoDtoChannel.zeroKeyChannel.channelTag.toStdString).length = 2 := by decide
  have hmode := length_pack_uint CryptoDtoMode.aeadChaCha20Poly1305.toUnderlying
  omega

def heartbeatDto : VoiceDto :=
  ⟨HeartbeatDto, heartbeat, by rw [length_plaintext]; decide, rfl⟩

/-- Of two heartbeats the second comes first, and comes again. -/
def heartbeats : List VoiceEvent :=
  [.send heartbeatDto, .send heartbeatDto, .arrive 1 ⟨0, 0, 0⟩, .arrive 1 ⟨0, 0, 0⟩,
    .arrive 0 ⟨0, 0, 0⟩]

theorem voice_arrives_heartbeats :
    let channel := CryptoDtoChannel.zeroKeyChannel
    let done := (voiceChannel Libraries.standard).run ⟨channel, channel, []⟩ heartbeats
    (∀ n result, .received n result ∈ done.2 → ∃ v, (sentRecords done.2)[n]? = some v ∧
      Receives v (channel.transmitSequence + UInt32.ofNat n) result) ∧
    (done.1.datagrams.Pairwise (fun a b => ∀ sequence,
      ¬(Sealed Libraries.standard channel.aeadTransmitKey sequence a ∧
        Sealed Libraries.standard channel.aeadTransmitKey sequence b)) ↔
        done.1.datagrams.length ≤ 2 ^ 32) :=
  voice_arrives Libraries.standard CryptoDtoChannel.zeroKeyChannel CryptoDtoChannel.zeroKeyChannel
    rfl length_packHeader_lt heartbeats

end Connection

end NeoSwift.Afv
