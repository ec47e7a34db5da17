import NeoSwift.Afv.Crypto.CryptoDtoSerializer

/-!
# Voice Connections

`CClientConnection`: what a client does with the datagrams on its voice socket.
Anybody can send one, so what matters most is what becomes of a datagram that
the voice server did not seal.

Such a datagram is dropped where it has a header length, a header that unpacks,
and no more text than the decrypt buffer takes. Otherwise the deserializer
throws, writes past its buffer, or reads as many bytes of header as its length
member happens to say.

## Main definitions

* `ClientConnectionData`: What a connection remembers.
* `processMessage`: What it does with a datagram.
* `RejectsCleanly`: A datagram without any effect.
* `Readable`: A datagram that the deserializer can take apart.

## Theorems

* `headerLengthRead_iff`: Two bytes are a header length.
* `deserialize_ok_iff`: Which datagrams the deserializer gets through.
* `rejectsCleanly_iff`: Which datagrams have no effect.
-/

namespace NeoSwift.Afv

namespace Connection

open CryptoDtoSerializer

/-- `CClientConnectionData`, as far as datagrams read and change it. -/
structure ClientConnectionData where
  voiceCryptoChannel : Option CryptoDtoChannel := none
  lastVoiceServerHeartbeatAckUtc : Option ℤ := none
  lastDataServerHeartbeatAckUtc : Option ℤ := none
  receiveAudio : Bool := true
  connected : Bool := false

def ClientConnectionData.setTsHeartbeatToNow (connection : ClientConnectionData) (now : ℤ) :
    ClientConnectionData :=
  { connection with
    lastVoiceServerHeartbeatAckUtc := some now
    lastDataServerHeartbeatAckUtc := some now }

/-- `processMessage` of a datagram from the socket: the connection after it, and
    the audio that is passed on. -/
def processMessage (L : Libraries) (memory : Indeterminate) (now : ℤ)
    (connection : ClientConnectionData) (messageData : QByteArray) :
    Except Fault (ClientConnectionData × List AudioRxOnTransceiversDto) :=
  match connection.voiceCryptoChannel with
  | none => .ok (connection, [])
  | some channel => do
    let deserializer ← deserialize L memory channel messageData false
    if deserializer.dtoNameBuffer = Dto.getShortDtoName AudioRxOnTransceiversDto then
      let audioOnTransceiverDto ← deserializer.getDto AudioRxOnTransceiversDto
      if connection.receiveAudio && connection.connected then
        return (connection, [audioOnTransceiverDto])
      else return (connection, [])
    else if deserializer.dtoNameBuffer = HeartbeatAckDto.getShortDtoName then
      return (connection.setTsHeartbeatToNow now, [])
    else return (connection, [])

/-- The header length does not depend on what was in its place before. -/
def HeaderLengthRead (bytes : QByteArray) : Prop :=
  ∀ old old', (QBuffer.readUInt16 old bytes).1 = (QBuffer.readUInt16 old' bytes).1

/-- A datagram is rejected cleanly: its header length is read in full, the
    deserializer returns an unverified result, and the connection is as before,
    its channel with the window of received sequence numbers included. -/
def RejectsCleanly (L : Libraries) (channel : CryptoDtoChannel) (connection : ClientConnectionData)
    (bytes : QByteArray) : Prop :=
  HeaderLengthRead bytes ∧
    ∀ memory now, ∃ d, deserialize L memory channel bytes false = .ok d ∧ d.verified = false ∧
      processMessage L memory now { connection with voiceCryptoChannel := some channel } bytes
        = .ok ({ connection with voiceCryptoChannel := some channel }, [])

/-- The header length of a datagram that has one. -/
def headerLength (bytes : QByteArray) : ℕ := ofLittleEndian (bytes.take 2)

/-- The header, or what there is of it. -/
def headerBuffer (bytes : QByteArray) : QByteArray := (bytes.drop 2).take (headerLength bytes)

/-- The deserializer gets through: the header length is there, the header
    unpacks, and a text that is decrypted has room in its buffer. -/
def Readable (L : Libraries) (bytes : QByteArray) : Prop :=
  2 ≤ bytes.length ∧ ∃ header, L.unpackHeader (headerBuffer bytes) = some header ∧
    (header.mode = .aeadChaCha20Poly1305 →
      bytes.length ≤ 2 + headerLength bytes + decryptBufferSize + aBytes)

theorem headerLength_lt (bytes : QByteArray) : headerLength bytes < 2 ^ 16 := by
  have hlt := ofLittleEndian_lt (bytes.take 2)
  have hlen : (bytes.take 2).length ≤ 2 := List.length_take_le 2 bytes
  exact Nat.lt_of_lt_of_le hlt (Nat.pow_le_pow_right (by omega) hlen)

variable {bytes : QByteArray}

/-- A length that is there is what is read. -/
theorem readUInt16_of_two_le (h : 2 ≤ bytes.length) (old : UInt16) :
    QBuffer.readUInt16 old bytes = (UInt16.ofNat (headerLength bytes), bytes.drop 2) := by
  have hlen : (bytes.take 2).length = 2 := by rw [List.length_take, Nat.min_eq_left h]
  have hkept : (toLittleEndian 2 old.toNat).drop 2 = [] :=
    List.drop_of_length_le (length_toLittleEndian 2 _).le
  simp [QBuffer.readUInt16, hlen, hkept, headerLength]

/-- Two bytes are a header length; with fewer, the length keeps something of what
    was there before. -/
theorem headerLengthRead_iff (bytes : QByteArray) : HeaderLengthRead bytes ↔ 2 ≤ bytes.length := by
  constructor
  · intro h
    have hdiffer := h 0 256
    match bytes with
    | [] => cases hdiffer
    | [b] =>
        have hread : ∀ old : UInt16, (QBuffer.readUInt16 old [b]).1
            = UInt16.ofNat (ofLittleEndian (b :: (toLittleEndian 2 old.toNat).drop 1)) :=
          fun _ => rfl
        have hlow : (toLittleEndian 2 (0 : UInt16).toNat).drop 1 = [0] := by decide
        have hhigh : (toLittleEndian 2 (256 : UInt16).toNat).drop 1 = [1] := by decide
        rw [hread, hread, hlow, hhigh] at hdiffer
        have hvalue := congrArg UInt16.toNat hdiffer
        rw [UInt16.toNat_ofNat', UInt16.toNat_ofNat'] at hvalue
        simp only [ofLittleEndian, UInt8.toNat_ofNat] at hvalue
        omega
    | _ :: _ :: _ => simp
  · intro h old old'
    rw [readUInt16_of_two_le h, readUInt16_of_two_le h]

variable (L : Libraries) (memory : Indeterminate) (channel : CryptoDtoChannel)

/-- The text to decrypt: everything behind the header. -/
theorem aePayload_eq (bytes : QByteArray) :
    (QBuffer.read ((bytes.length : ℤ) - (2 + headerLength bytes))
      ((bytes.drop 2).drop (headerLength bytes))).1 = bytes.drop (2 + headerLength bytes) := by
  rw [QBuffer.read, List.drop_drop]
  by_cases hshort : (bytes.length : ℤ) - (2 + headerLength bytes) < 0
  · rw [if_pos hshort, List.drop_of_length_le (by omega)]
  · have hlength : ((bytes.length : ℤ) - (2 + headerLength bytes)).toNat
        = (bytes.drop (2 + headerLength bytes)).length := by
      rw [List.length_drop]
      omega
    rw [if_neg hshort, hlength, List.take_length]

/-- What the deserializer does with a datagram that has a header length. -/
theorem deserialize_of_two_le (h : 2 ≤ bytes.length) :
    deserialize L memory channel bytes false
      = match L.unpackHeader (headerBuffer bytes) with
        | none => .error .unpack
        | some header =>
            if header.mode = .aeadChaCha20Poly1305 then
              if 2 + headerLength bytes + decryptBufferSize + aBytes < bytes.length then
                .error .bufferOverflow
              else
                match L.aead.decrypt channel.aeadReceiveKey (nonce header.sequence)
                  (bytes.take (2 + headerLength bytes)) (bytes.drop (2 + headerLength bytes)) with
                | none => .ok (unverified memory (UInt16.ofNat (headerLength bytes)) header)
                | some text =>
                    .ok (verifiedWith memory (UInt16.ofNat (headerLength bytes)) header text)
            else .ok (unverified memory (UInt16.ofNat (headerLength bytes)) header) := by
  have hlen : (UInt16.ofNat (headerLength bytes)).toNat = headerLength bytes := by
    rw [UInt16.toNat_ofNat', Nat.mod_eq_of_lt (headerLength_lt bytes)]
  have hheader : QBuffer.read (headerLength bytes : ℤ) (bytes.drop 2)
      = (headerBuffer bytes, (bytes.drop 2).drop (headerLength bytes)) := by
    rw [QBuffer.read, if_neg (by omega), Int.toNat_natCast, headerBuffer]
  have hkey : channel.aeadReceiveKey.length = keyBytes := channel.length_receiveKey
  -- The room test of the source is about the text, ours is about the whole datagram.
  have hroom : decryptBufferSize < (bytes.drop (2 + headerLength bytes)).length - aBytes
      ↔ 2 + headerLength bytes + decryptBufferSize + aBytes < bytes.length := by
    rw [List.length_drop]
    omega
  simp only [deserialize, readUInt16_of_two_le h, hlen, hheader, aePayload_eq, hroom,
    CryptoDtoChannel.getReceiveKey, hkey, if_false, Bool.false_eq_true]
  rfl

/-- The deserializer gets through a datagram with a header length exactly where
    it is readable. -/
theorem deserialize_ok_iff (h : 2 ≤ bytes.length) :
    (∃ d, deserialize L memory channel bytes false = .ok d) ↔ Readable L bytes := by
  rw [deserialize_of_two_le L memory channel h, Readable, and_iff_right h]
  cases hunpack : L.unpackHeader (headerBuffer bytes) with
  | none => simp
  | some header =>
      simp only [Option.some.injEq, exists_eq_left']
      by_cases hmode : header.mode = .aeadChaCha20Poly1305
      · by_cases hlong : 2 + headerLength bytes + decryptBufferSize + aBytes < bytes.length
        · simp only [hmode, if_true, if_pos hlong, reduceCtorEq, exists_false, false_iff,
            forall_const]
          exact Nat.not_le.mpr hlong
        · simp only [hmode, if_true, if_neg hlong, forall_const, Nat.not_lt.mp hlong, iff_true]
          split
          · exact ⟨_, rfl⟩
          · exact ⟨_, rfl⟩
      · simp only [hmode, false_implies, iff_true]
        exact ⟨_, rfl⟩

/-- What is not verified has no name. -/
theorem dtoNameBuffer_of_not_verified (h : 2 ≤ bytes.length)
    {d : Deserializer} (hd : deserialize L memory channel bytes false = .ok d)
    (hverified : d.verified = false) : d.dtoNameBuffer = [] := by
  rw [deserialize_of_two_le L memory channel h] at hd
  split at hd
  · cases hd
  · split at hd
    · split at hd
      · cases hd
      · split at hd
        · cases hd
          rfl
        · cases hd
          cases hverified
    · cases hd
      rfl

/-- What is not verified leaves the connection alone. -/
theorem processMessage_of_not_verified (now : ℤ) (connection : ClientConnectionData)
    {d : Deserializer}
    (hd : deserialize L memory channel bytes false = .ok d) (hname : d.dtoNameBuffer = []) :
    processMessage L memory now { connection with voiceCryptoChannel := some channel } bytes
      = .ok ({ connection with voiceCryptoChannel := some channel }, []) := by
  have haudio : ([] : QByteArray) ≠ Dto.getShortDtoName AudioRxOnTransceiversDto := by decide
  have hack : ([] : QByteArray) ≠ HeartbeatAckDto.getShortDtoName := by decide
  simp only [processMessage, hd, bind, Except.bind, hname, if_neg haudio, if_neg hack, pure,
    Except.pure]

/-- A datagram is rejected cleanly exactly where it is readable and not sealed
    under the key of the connection. -/
theorem rejectsCleanly_iff (connection : ClientConnectionData) (bytes : QByteArray) :
    RejectsCleanly L channel connection bytes ↔
      Readable L bytes ∧ ∀ sequence, ¬Sealed L channel.aeadReceiveKey sequence bytes := by
  constructor
  · rintro ⟨hread, hclean⟩
    have htwo := (headerLengthRead_iff bytes).mp hread
    rcases hclean ⟨0, 0, 0⟩ 0 with ⟨d, hd, hverified, -⟩
    refine ⟨(deserialize_ok_iff L _ channel htwo).mp ⟨d, hd⟩, fun sequence hsealed => ?_⟩
    -- What is sealed would be verified.
    rcases (deserialize_verified_iff L _ channel bytes sequence).mpr hsealed with
      ⟨d', hd', hverified', -⟩
    cases hd.symm.trans hd'
    rw [hverified] at hverified'
    cases hverified'
  · rintro ⟨hreadable, hunsealed⟩
    refine ⟨(headerLengthRead_iff bytes).mpr hreadable.1, fun memory now => ?_⟩
    rcases (deserialize_ok_iff L memory channel hreadable.1).mpr hreadable with ⟨d, hd⟩
    have hverified : d.verified = false := by
      cases hcase : d.verified with
      | false => rfl
      | true =>
          have hdelivers : Delivers d.header.sequence (deserialize L memory channel bytes false) :=
            ⟨d, hd, hcase, rfl⟩
          exact absurd ((deserialize_verified_iff L memory channel bytes _).mp hdelivers)
            (hunsealed _)
    have hname := dtoNameBuffer_of_not_verified L memory channel hreadable.1 hd hverified
    exact ⟨d, hd, hverified, processMessage_of_not_verified L memory channel now
      connection hd hname⟩

/-- A datagram of one byte is read with a header length that is partly what was
    in memory, and throws; one with a malformed header throws. -/
theorem short_datagram_not_rejectsCleanly :
    ¬HeaderLengthRead [5] ∧
      deserialize Libraries.standard ⟨0, 0, 0⟩ CryptoDtoChannel.zeroKeyChannel [5] false
        = .error .unpack ∧
      deserialize Libraries.standard ⟨0, 0, 0⟩ CryptoDtoChannel.zeroKeyChannel [1, 0, 0xc1] false
        = .error .unpack ∧
      ¬RejectsCleanly Libraries.standard CryptoDtoChannel.zeroKeyChannel {} [5] ∧
      ¬RejectsCleanly Libraries.standard CryptoDtoChannel.zeroKeyChannel {} [1, 0, 0xc1] := by
  have hthrows : deserialize Libraries.standard ⟨0, 0, 0⟩ CryptoDtoChannel.zeroKeyChannel
      [1, 0, 0xc1] false = .error .unpack := rfl
  have hlength : ¬HeaderLengthRead [5] := by
    rw [headerLengthRead_iff]
    decide
  refine ⟨hlength, rfl, hthrows, fun h => hlength h.1, fun h => ?_⟩
  rcases h.2 ⟨0, 0, 0⟩ 0 with ⟨d, hd, -, -⟩
  cases hd

end Connection

end NeoSwift.Afv
