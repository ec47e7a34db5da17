import NeoSwift.Lib.Machine
import NeoSwift.Afv.Crypto.CryptoDtoChannel

/-!
# Crypto DTO Packets

`CryptoDtoSerializer`: a record to be sent becomes a packet of three
length-prefixed sections. The header travels in the clear and is authenticated
as associated data; the name and the packed record travel encrypted, under a
nonce made of the sequence number in the header. The deserializer rebuilds the
associated data from the bytes it received and decrypts into a buffer of fixed
size.

A `quint16` member of the deserializer holds an arbitrary value before it is
read into, so the constructor takes those values as a parameter.

## Main definitions

* `CryptoDtoSerializer.serialize`: A packet from a record.
* `CryptoDtoSerializer.deserialize`: The constructor of `Deserializer`.
* `Deserializer.getDto`: The record in a verified packet.
* `Sealed`: A datagram that is an encryption under a key and a sequence number.

## Theorems

* `deserialize_verified_iff`: What is verified is what was sealed.
* `roundTrip_iff`: A packet comes back, exactly when it is encrypted and its
  text fits the decrypt buffer.
* `replay_iff`: At most one verified packet per sequence number, exactly when
  the datagrams are sealed under different ones.
-/

namespace NeoSwift.Afv

/-- What ends a call without a result. -/
inductive Fault where
  | assertion
  | unpack
  | bufferOverflow
  deriving DecidableEq

/-- The size of the buffer the deserializer decrypts into. -/
def decryptBufferSize : ℕ := 500

/-- A `quint16` in memory order. -/
def writeUInt16 (n : UInt16) : QByteArray := toLittleEndian 2 n.toNat

/-- Four zero bytes and the sequence number. -/
def nonce (sequence : UInt64) : QByteArray :=
  toLittleEndian 4 0 ++ toLittleEndian 8 sequence.toNat

namespace CryptoDtoSerializer

/-- `serialize(channelTag, mode, transmitKey, sequenceToBeSent, dto)`. -/
def serializeWith {T : Type} [Dto T] (L : Libraries) (channelTag : QString) (mode : CryptoDtoMode)
    (transmitKey : QByteArray) (sequenceToBeSent : UInt32) (dto : T) : Except Fault QByteArray :=
  if transmitKey.length ≠ keyBytes then .error .assertion
  else
    let header : CryptoDtoHeaderDto :=
      ⟨channelTag.toStdString, sequenceToBeSent.toUInt64, mode⟩
    let headerBuffer := L.packHeader header
    let headerLength := UInt16.ofNat headerBuffer.length
    let dtoShortName := Dto.getShortDtoName T
    let dtoNameLength := UInt16.ofNat dtoShortName.length
    let dtoBuffer := Dto.pack dto
    let dtoLength := UInt16.ofNat dtoBuffer.length
    if header.mode = .aeadChaCha20Poly1305 then
      let aePayload := writeUInt16 dtoNameLength ++ dtoShortName
        ++ (writeUInt16 dtoLength ++ dtoBuffer)
      let adPayload := writeUInt16 headerLength ++ headerBuffer
      let aeadPayload := L.aead.encrypt transmitKey (nonce header.sequence) adPayload aePayload
      -- The ciphertext is written into a buffer with room for the text and a tag.
      if aePayload.length + aBytes < aeadPayload.length then .error .bufferOverflow
      else .ok (writeUInt16 headerLength ++ headerBuffer ++ aeadPayload)
    else .ok []

/-- `serialize(channel, mode, dto)`: the packet, and the channel that has spent
    a sequence number on it. -/
def serialize {T : Type} [Dto T] (L : Libraries) (channel : CryptoDtoChannel)
    (mode : CryptoDtoMode) (dto : T) : Except Fault QByteArray × CryptoDtoChannel :=
  let (transmitKey, sequenceToSend, channel) := channel.getTransmitKeySequence mode
  (serializeWith L channel.getChannelTag mode transmitKey sequenceToSend dto, channel)

/-- The values of the length members before they are read into. -/
structure Indeterminate where
  headerLength : UInt16
  dtoNameLength : UInt16
  dataLength : UInt16

/-- `Deserializer`. -/
structure Deserializer where
  headerLength : UInt16
  header : CryptoDtoHeaderDto
  dtoNameLength : UInt16
  dtoNameBuffer : QByteArray
  dataLength : UInt16
  dataBuffer : QByteArray
  verified : Bool

/-- A packet that is not verified: only its header has been read. -/
def unverified (memory : Indeterminate) (headerLength : UInt16) (header : CryptoDtoHeaderDto) :
    Deserializer where
  headerLength := headerLength
  header := header
  dtoNameLength := memory.dtoNameLength
  dtoNameBuffer := []
  dataLength := memory.dataLength
  dataBuffer := []
  verified := false

/-- A packet whose text has been decrypted: the name and the record in it. -/
def verifiedWith (memory : Indeterminate) (headerLength : UInt16) (header : CryptoDtoHeaderDto)
    (decryptedPayload : QByteArray) : Deserializer :=
  let (dtoNameLength, buffer) := QBuffer.readUInt16 memory.dtoNameLength decryptedPayload
  let (dtoNameBuffer, buffer) := QBuffer.read dtoNameLength.toNat buffer
  let (dataLength, buffer) := QBuffer.readUInt16 memory.dataLength buffer
  let (dataBuffer, _) := QBuffer.read dataLength.toNat buffer
  { headerLength, header, dtoNameLength, dtoNameBuffer, dataLength, dataBuffer, verified := true }

/-- The constructor of `Deserializer`, behind `deserialize`. -/
def deserialize (L : Libraries) (memory : Indeterminate) (channel : CryptoDtoChannel)
    (bytes : QByteArray) (loopback : Bool) : Except Fault Deserializer :=
  let (headerLength, buffer) := QBuffer.readUInt16 memory.headerLength bytes
  let (headerBuffer, buffer) := QBuffer.read headerLength.toNat buffer
  match L.unpackHeader headerBuffer with
  | none => .error .unpack
  | some header =>
      if header.mode = .aeadChaCha20Poly1305 then
        let aeLength : ℤ := bytes.length - (2 + headerLength.toNat)
        let aePayloadBuffer := (QBuffer.read aeLength buffer).1
        let adBuffer := bytes.take (2 + headerLength.toNat)
        let key :=
          if loopback then channel.getTransmitKey .aeadChaCha20Poly1305
          else channel.getReceiveKey .aeadChaCha20Poly1305
        if key.length ≠ keyBytes then .error .assertion
        -- Decryption needs room for the ciphertext without its tag.
        else if decryptBufferSize < aePayloadBuffer.length - aBytes then .error .bufferOverflow
        else
          match L.aead.decrypt key (nonce header.sequence) adBuffer aePayloadBuffer with
          | none => .ok (unverified memory headerLength header)
          | some decryptedPayload =>
              -- The received sequence is not checked against the channel here.
              .ok (verifiedWith memory headerLength header decryptedPayload)
      else .ok (unverified memory headerLength header)

/-- `getDto`: the record, if the packet is verified and has its name; a record
    with default values otherwise. -/
def Deserializer.getDto (T : Type) [Dto T] [Inhabited T] (d : Deserializer) : Except Fault T :=
  if d.verified = false then .ok default
  else if d.dtoNameBuffer = Dto.getDtoName T ∨ d.dtoNameBuffer = Dto.getShortDtoName T then
    match Dto.unpack d.dataBuffer with
    | none => .error .unpack
    | some dto => .ok dto
  else .ok default

/-- A header length, a header of that length and what follows them. -/
def framed (headerBuffer payload : QByteArray) : QByteArray :=
  writeUInt16 (UInt16.ofNat headerBuffer.length) ++ headerBuffer ++ payload

/-- What `deserialize` does with the sections of a packet once it has read
    them. -/
def openSections (L : Libraries) (memory : Indeterminate) (key headerBuffer payload : QByteArray) :
    Except Fault Deserializer :=
  let headerLength := UInt16.ofNat headerBuffer.length
  match L.unpackHeader headerBuffer with
  | none => .error .unpack
  | some header =>
      if header.mode = .aeadChaCha20Poly1305 then
        if decryptBufferSize < payload.length - aBytes then .error .bufferOverflow
        else
          match L.aead.decrypt key (nonce header.sequence)
            (writeUInt16 headerLength ++ headerBuffer) payload with
          | none => .ok (unverified memory headerLength header)
          | some text => .ok (verifiedWith memory headerLength header text)
      else .ok (unverified memory headerLength header)

variable (L : Libraries) (memory : Indeterminate) (channel : CryptoDtoChannel)

/-- On a datagram with all its sections the reads deliver the sections. -/
theorem deserialize_framed {headerBuffer : QByteArray} (h : headerBuffer.length < 2 ^ 16)
    (payload : QByteArray) :
    deserialize L memory channel (framed headerBuffer payload) false
      = openSections L memory channel.aeadReceiveKey headerBuffer payload := by
  -- Each read takes the section that was written, and nothing of the next.
  have hlen : (UInt16.ofNat headerBuffer.length).toNat = headerBuffer.length := by
    rw [UInt16.toNat_ofNat', Nat.mod_eq_of_lt h]
  have hlength : QBuffer.readUInt16 memory.headerLength (framed headerBuffer payload)
      = (UInt16.ofNat headerBuffer.length, headerBuffer ++ payload) := by
    exact QBuffer.readUInt16_append _ _ _
  have hheader : QBuffer.read (headerBuffer.length : ℤ) (headerBuffer ++ payload)
      = (headerBuffer, payload) := QBuffer.read_append rfl payload
  have htwo : (writeUInt16 (UInt16.ofNat headerBuffer.length)).length = 2 :=
    length_toLittleEndian 2 _
  have hrest : ((framed headerBuffer payload).length : ℤ) - (2 + headerBuffer.length)
      = payload.length := by
    rw [framed, List.length_append, List.length_append]
    omega
  have hpayload : QBuffer.read (payload.length : ℤ) payload = (payload, []) := by
    simpa only [List.append_nil] using QBuffer.read_append rfl []
  have had : (framed headerBuffer payload).take (2 + headerBuffer.length)
      = writeUInt16 (UInt16.ofNat headerBuffer.length) ++ headerBuffer := by
    rw [framed, List.take_left']
    rw [List.length_append, htwo]
  have hkey : channel.aeadReceiveKey.length = keyBytes := channel.length_receiveKey
  simp [deserialize, hlength, hlen, hheader, hrest, hpayload, had, openSections,
    CryptoDtoChannel.getReceiveKey, hkey]

/-- The header length read from a datagram. -/
def headerLengthOf (bytes : QByteArray) : ℕ :=
  (QBuffer.readUInt16 memory.headerLength bytes).1.toNat

/-- A datagram at least as long as its header length says is framed. -/
theorem exists_framed {bytes : QByteArray} (h : 2 + headerLengthOf memory bytes ≤ bytes.length) :
    ∃ headerBuffer payload, headerBuffer.length < 2 ^ 16 ∧ bytes = framed headerBuffer payload := by
  have htake : (bytes.take 2).length = 2 := by
    rw [List.length_take, Nat.min_eq_left (by omega)]
  have hbytes : ofLittleEndian (bytes.take 2) < 2 ^ 16 := by
    have hlt := ofLittleEndian_lt (bytes.take 2)
    rw [htake] at hlt
    exact hlt
  have hvalue : headerLengthOf memory bytes = ofLittleEndian (bytes.take 2) := by
    -- Both bytes are there, so nothing is left of what the memory held.
    have hkept : (toLittleEndian 2 memory.headerLength.toNat).drop 2 = [] :=
      List.drop_of_length_le (length_toLittleEndian 2 _).le
    simp only [headerLengthOf, QBuffer.readUInt16, htake, hkept, List.append_nil]
    rw [UInt16.toNat_ofNat', Nat.mod_eq_of_lt hbytes]
  have hheader : ((bytes.drop 2).take (headerLengthOf memory bytes)).length
      = headerLengthOf memory bytes := by
    rw [List.length_take, List.length_drop, Nat.min_eq_left (by omega)]
  refine ⟨(bytes.drop 2).take (headerLengthOf memory bytes),
    (bytes.drop 2).drop (headerLengthOf memory bytes), by rw [hheader, hvalue]; exact hbytes, ?_⟩
  have hfront : writeUInt16 (UInt16.ofNat (headerLengthOf memory bytes)) = bytes.take 2 := by
    rw [writeUInt16, UInt16.toNat_ofNat', hvalue, Nat.mod_eq_of_lt hbytes]
    have hback := toLittleEndian_ofLittleEndian (bytes.take 2)
    rwa [htake] at hback
  rw [framed, hheader, hfront, List.append_assoc, List.take_append_drop, List.take_append_drop]

/-- A datagram that ends before its header does is not verified. -/
theorem not_verified_of_short {bytes : QByteArray} {d : Deserializer}
    (h : bytes.length < 2 + headerLengthOf memory bytes)
    (hd : deserialize L memory channel bytes false = .ok d) : d.verified = false := by
  have hpayload : ∀ buffer, QBuffer.read
      ((bytes.length : ℤ) - (2 + (headerLengthOf memory bytes : ℕ))) buffer = ([], buffer) := by
    intro buffer
    rw [QBuffer.read, if_pos (by omega)]
  have hnone : ∀ key n ad, L.aead.decrypt key n ad [] = none := by
    intro key n ad
    refine L.aead.decrypt_of_length_lt key n ad ?_
    rw [L.tagLength_eq]
    decide
  have hkey : channel.aeadReceiveKey.length = keyBytes := channel.length_receiveKey
  have hroom : ¬decryptBufferSize < ([] : QByteArray).length - aBytes := by decide
  simp only [headerLengthOf] at hpayload
  simp only [deserialize, hpayload, hnone, CryptoDtoChannel.getReceiveKey, hkey, ne_eq,
    not_true_eq_false, if_false, Bool.false_eq_true, if_neg hroom, ite_self] at hd
  split at hd
  · cases hd
  · cases hd
    rfl

/-- A datagram that encrypts a text for the decrypt buffer under a key and a
    sequence number. -/
def Sealed (key : QByteArray) (sequence : UInt64) (bytes : QByteArray) : Prop :=
  ∃ headerBuffer header text, headerBuffer.length < 2 ^ 16 ∧
    L.unpackHeader headerBuffer = some header ∧ header.mode = .aeadChaCha20Poly1305 ∧
    header.sequence = sequence ∧ text.length ≤ decryptBufferSize ∧
    bytes = framed headerBuffer (L.aead.encrypt key (nonce sequence)
      (writeUInt16 (UInt16.ofNat headerBuffer.length) ++ headerBuffer) text)

/-- The datagram is delivered as verified with the sequence number. -/
def Delivers (sequence : UInt64) (result : Except Fault Deserializer) : Prop :=
  ∃ d, result = .ok d ∧ d.verified = true ∧ d.header.sequence = sequence

/-- A sealed text that fits the decrypt buffer is read back. -/
theorem openSections_encrypt (key : QByteArray) {headerBuffer text : QByteArray}
    {header : CryptoDtoHeaderDto} (hunpack : L.unpackHeader headerBuffer = some header)
    (hmode : header.mode = .aeadChaCha20Poly1305) (hfits : text.length ≤ decryptBufferSize) :
    openSections L memory key headerBuffer (L.aead.encrypt key (nonce header.sequence)
        (writeUInt16 (UInt16.ofNat headerBuffer.length) ++ headerBuffer) text)
      = .ok (verifiedWith memory (UInt16.ofNat headerBuffer.length) header text) := by
  have hroom : ¬decryptBufferSize < (L.aead.encrypt key (nonce header.sequence)
      (writeUInt16 (UInt16.ofNat headerBuffer.length) ++ headerBuffer) text).length - aBytes := by
    rw [L.aead.length_encrypt, L.tagLength_eq]
    omega
  simp [openSections, hunpack, hmode, if_neg hroom, L.aead.decrypt_encrypt]

/-- A sealed text that is longer would be written past the end of the buffer. -/
theorem openSections_overflow (key : QByteArray) {headerBuffer text : QByteArray}
    {header : CryptoDtoHeaderDto} (hunpack : L.unpackHeader headerBuffer = some header)
    (hmode : header.mode = .aeadChaCha20Poly1305) (hlong : decryptBufferSize < text.length) :
    openSections L memory key headerBuffer (L.aead.encrypt key (nonce header.sequence)
        (writeUInt16 (UInt16.ofNat headerBuffer.length) ++ headerBuffer) text)
      = .error .bufferOverflow := by
  have hover : decryptBufferSize < (L.aead.encrypt key (nonce header.sequence)
      (writeUInt16 (UInt16.ofNat headerBuffer.length) ++ headerBuffer) text).length - aBytes := by
    rw [L.aead.length_encrypt, L.tagLength_eq]
    omega
  simp [openSections, hunpack, hmode, if_pos hover]

/-- The sections of a datagram are delivered exactly when they were sealed. -/
theorem openSections_delivers_iff (key headerBuffer payload : QByteArray) (sequence : UInt64) :
    Delivers sequence (openSections L memory key headerBuffer payload) ↔
      ∃ header text, L.unpackHeader headerBuffer = some header ∧
        header.mode = .aeadChaCha20Poly1305 ∧ header.sequence = sequence ∧
        text.length ≤ decryptBufferSize ∧ payload = L.aead.encrypt key (nonce sequence)
          (writeUInt16 (UInt16.ofNat headerBuffer.length) ++ headerBuffer) text := by
  constructor
  · rintro ⟨d, hd, hverified, hsequence⟩
    simp only [openSections] at hd
    split at hd
    · cases hd
    · rename_i header hunpack
      split at hd
      · rename_i hmode
        split at hd
        · cases hd
        · rename_i hfits
          split at hd
          · cases hd
            cases hverified
          · rename_i text hdec
            cases hd
            -- Decryption succeeds on what was encrypted with this nonce and these headers only.
            have hpayload := (L.aead.decrypt_eq_some _ _ _ _ _).mp hdec
            have hlength := L.aead.length_encrypt key (nonce header.sequence)
              (writeUInt16 (UInt16.ofNat headerBuffer.length) ++ headerBuffer) text
            rw [← hpayload, L.tagLength_eq] at hlength
            refine ⟨header, text, hunpack, hmode, hsequence, ?_, hsequence ▸ hpayload⟩
            omega
      · cases hd
        cases hverified
  · rintro ⟨header, text, hunpack, hmode, rfl, hfits, rfl⟩
    exact ⟨_, openSections_encrypt L memory key hunpack hmode hfits, rfl, rfl⟩

/-- What is verified is what was sealed under the receive key. -/
theorem deserialize_verified_iff (bytes : QByteArray) (sequence : UInt64) :
    Delivers sequence (deserialize L memory channel bytes false) ↔
      Sealed L channel.aeadReceiveKey sequence bytes := by
  constructor
  · intro hdel
    rcases Nat.lt_or_ge bytes.length (2 + headerLengthOf memory bytes) with hshort | hlong
    · rcases hdel with ⟨d, hd, hverified, _⟩
      rw [not_verified_of_short L memory channel hshort hd] at hverified
      cases hverified
    · rcases exists_framed memory hlong with ⟨headerBuffer, payload, hlt, rfl⟩
      rw [deserialize_framed L memory channel hlt, openSections_delivers_iff] at hdel
      rcases hdel with ⟨header, text, hunpack, hmode, hsequence, hfits, rfl⟩
      exact ⟨headerBuffer, header, text, hlt, hunpack, hmode, hsequence, hfits, rfl⟩
  · rintro ⟨headerBuffer, header, text, hlt, hunpack, hmode, hsequence, hfits, rfl⟩
    rw [deserialize_framed L memory channel hlt, openSections_delivers_iff]
    exact ⟨header, text, hunpack, hmode, hsequence, hfits, rfl⟩

section RoundTrip

variable {T : Type} [Dto T]

/-- The text that is encrypted for a record. -/
def plaintext (dto : T) : QByteArray :=
  writeUInt16 (UInt16.ofNat (Dto.getShortDtoName T).length) ++ Dto.getShortDtoName T
    ++ (writeUInt16 (UInt16.ofNat (Dto.pack dto).length) ++ Dto.pack dto)

/-- The header of the next packet of a channel. -/
def nextHeader (sender : CryptoDtoChannel) : CryptoDtoHeaderDto :=
  ⟨sender.channelTag.toStdString, sender.transmitSequence.toUInt64, .aeadChaCha20Poly1305⟩

theorem length_plaintext (dto : T) :
    (plaintext dto).length = 4 + (Dto.getShortDtoName T).length + (Dto.pack dto).length := by
  simp only [plaintext, writeUInt16, List.length_append, length_toLittleEndian]
  omega

/-- A channel encrypts the text of a record behind its header. -/
theorem serialize_aead (sender : CryptoDtoChannel) (dto : T) :
    (serialize L sender .aeadChaCha20Poly1305 dto).1
      = .ok (framed (L.packHeader (nextHeader sender))
        (L.aead.encrypt sender.aeadTransmitKey (nonce (nextHeader sender).sequence)
          (writeUInt16 (UInt16.ofNat (L.packHeader (nextHeader sender)).length)
            ++ L.packHeader (nextHeader sender)) (plaintext dto))) := by
  have hkey : sender.aeadTransmitKey.length = keyBytes := sender.length_transmitKey
  have hroom : ∀ ad, ¬(plaintext dto).length + aBytes
      < (L.aead.encrypt sender.aeadTransmitKey (nonce sender.transmitSequence.toUInt64) ad
        (plaintext dto)).length := by
    intro ad
    rw [L.aead.length_encrypt, L.tagLength_eq]
    exact Nat.lt_irrefl _
  simp only [plaintext] at hroom
  simp only [serialize, serializeWith, CryptoDtoChannel.getTransmitKeySequence,
    CryptoDtoChannel.getTransmitKey, CryptoDtoChannel.getChannelTag, hkey, ne_eq,
    not_true_eq_false, if_false, if_true, hroom, framed, nextHeader, plaintext]

/-- Other modes have no key to encrypt with. -/
theorem serialize_other (sender : CryptoDtoChannel) {mode : CryptoDtoMode}
    (h : mode ≠ .aeadChaCha20Poly1305) (dto : T) :
    (serialize L sender mode dto).1 = .error .assertion := by
  cases mode with
  | aeadChaCha20Poly1305 => exact absurd rfl h
  | undefined => rfl
  | none => rfl

/-- The name and the record are read back from a text. -/
theorem verifiedWith_plaintext (headerLength : UInt16) (header : CryptoDtoHeaderDto) (dto : T)
    (hname : (Dto.getShortDtoName T).length < 2 ^ 16) (hdata : (Dto.pack dto).length < 2 ^ 16) :
    (verifiedWith memory headerLength header (plaintext dto)).dtoNameBuffer
        = Dto.getShortDtoName T ∧
      (verifiedWith memory headerLength header (plaintext dto)).dataBuffer = Dto.pack dto := by
  have hlen : ∀ {bs : QByteArray}, bs.length < 2 ^ 16 →
      (bs.length : ℤ) = (UInt16.ofNat bs.length).toNat := by
    intro bs h
    rw [UInt16.toNat_ofNat', Nat.mod_eq_of_lt h]
  have hend : QBuffer.read ((UInt16.ofNat (Dto.pack dto).length).toNat : ℤ) (Dto.pack dto)
      = (Dto.pack dto, []) := by
    simpa only [List.append_nil] using QBuffer.read_append (hlen hdata) []
  simp only [verifiedWith, plaintext, writeUInt16, List.append_assoc, QBuffer.readUInt16_append,
    QBuffer.read_append (hlen hname), hend, and_self]

/-- A packet whose text fits the decrypt buffer is sealed under the key and the
    sequence number it was sent with. -/
theorem sealed_of_serialize (sender : CryptoDtoChannel) (dto : T)
    (hheader : (L.packHeader (nextHeader sender)).length < 2 ^ 16)
    (hfits : (plaintext dto).length ≤ decryptBufferSize) {packet : QByteArray}
    (hpacket : (serialize L sender .aeadChaCha20Poly1305 dto).1 = .ok packet) :
    Sealed L sender.aeadTransmitKey sender.transmitSequence.toUInt64 packet := by
  rw [serialize_aead, Except.ok.injEq] at hpacket
  exact ⟨L.packHeader (nextHeader sender), nextHeader sender, plaintext dto, hheader,
    L.unpackHeader_packHeader _ hheader, rfl, rfl, hfits, hpacket.symm⟩

/-- The packet of a record comes back verified, with the same name, sequence
    number, channel tag and record. -/
def RoundTrips [Inhabited T] (sender receiver : CryptoDtoChannel) (mode : CryptoDtoMode)
    (dto : T) : Prop :=
  ∃ packet d, (serialize L sender mode dto).1 = .ok packet ∧
    deserialize L memory receiver packet false = .ok d ∧ d.verified = true ∧
    d.dtoNameBuffer = Dto.getShortDtoName T ∧
    d.header.sequence = sender.transmitSequence.toUInt64 ∧
    d.header.channelTag = sender.channelTag.toStdString ∧
    d.dataBuffer = Dto.pack dto ∧ d.getDto T = .ok dto

/-- A text longer than the decrypt buffer would be written past its end. -/
theorem deserialize_overflow (sender receiver : CryptoDtoChannel)
    (hkeys : sender.aeadTransmitKey = receiver.aeadReceiveKey) (dto : T)
    (hheader : (L.packHeader (nextHeader sender)).length < 2 ^ 16)
    (hlong : decryptBufferSize < (plaintext dto).length) {packet : QByteArray}
    (hpacket : (serialize L sender .aeadChaCha20Poly1305 dto).1 = .ok packet) :
    deserialize L memory receiver packet false = .error .bufferOverflow := by
  rw [serialize_aead, Except.ok.injEq] at hpacket
  rw [← hpacket, deserialize_framed L memory receiver hheader, hkeys]
  exact openSections_overflow L memory _ (L.unpackHeader_packHeader (nextHeader sender) hheader)
    rfl hlong

/-- A record whose packed sections fit their length fields comes back from the
    peer, exactly when it was encrypted and its text fits the decrypt buffer. -/
theorem roundTrip_iff [Inhabited T] (sender receiver : CryptoDtoChannel)
    (hkeys : sender.aeadTransmitKey = receiver.aeadReceiveKey) (mode : CryptoDtoMode) (dto : T)
    (hheader : (L.packHeader (nextHeader sender)).length < 2 ^ 16)
    (hname : (Dto.getShortDtoName T).length < 2 ^ 16) (hdata : (Dto.pack dto).length < 2 ^ 16)
    (hdto : Dto.unpack (Dto.pack dto) = some dto) :
    RoundTrips L memory sender receiver mode dto ↔ mode = .aeadChaCha20Poly1305 ∧
        4 + (Dto.getShortDtoName T).length + (Dto.pack dto).length ≤ decryptBufferSize := by
  constructor
  · rintro ⟨packet, d, hpacket, hd, _⟩
    -- A mode without encryption writes no datagram, and a long text overflows the buffer.
    by_cases hmode : mode = .aeadChaCha20Poly1305
    · subst hmode
      refine ⟨rfl, ?_⟩
      by_contra hlong
      rw [← length_plaintext, not_le] at hlong
      rw [deserialize_overflow L memory sender receiver hkeys dto hheader hlong hpacket] at hd
      cases hd
    · rw [serialize_other L sender hmode] at hpacket
      cases hpacket
  · rintro ⟨rfl, hfits⟩
    rw [← length_plaintext] at hfits
    -- The lengths of the name and of the data come back, so both sections do.
    rcases verifiedWith_plaintext memory
      (UInt16.ofNat (L.packHeader (nextHeader sender)).length) (nextHeader sender) dto hname hdata
      with ⟨hnameBack, hdataBack⟩
    refine ⟨_, verifiedWith memory (UInt16.ofNat (L.packHeader (nextHeader sender)).length)
      (nextHeader sender) (plaintext dto), serialize_aead L sender dto, ?_, rfl, hnameBack, rfl,
      rfl, hdataBack, ?_⟩
    · rw [deserialize_framed L memory receiver hheader, hkeys]
      exact openSections_encrypt L memory _
        (L.unpackHeader_packHeader (nextHeader sender) hheader) rfl hfits
    · simp only [Deserializer.getDto, hnameBack, hdataBack, hdto, or_true]
      rfl

end RoundTrip

/-- A heartbeat of one callsign. -/
def heartbeat : HeartbeatDto := ⟨QString.toStdString "BAW123"⟩

/-- Six hundred bytes of audio for one transceiver. -/
def longAudio : AudioTxOnTransceiversDto :=
  ⟨QString.toStdString "BAW123", 1, List.replicate 600 0, false, [⟨0⟩]⟩

theorem heartbeat_roundTrip_iff :
    RoundTrips Libraries.standard ⟨0, 0, 0⟩ CryptoDtoChannel.zeroKeyChannel
        CryptoDtoChannel.zeroKeyChannel .aeadChaCha20Poly1305 heartbeat ↔
      CryptoDtoMode.aeadChaCha20Poly1305 = .aeadChaCha20Poly1305 ∧
        4 + (Dto.getShortDtoName HeartbeatDto).length + (Dto.pack heartbeat).length
          ≤ decryptBufferSize :=
  roundTrip_iff Libraries.standard ⟨0, 0, 0⟩ CryptoDtoChannel.zeroKeyChannel
    CryptoDtoChannel.zeroKeyChannel rfl .aeadChaCha20Poly1305 heartbeat (by decide) (by decide)
    (by decide) rfl

theorem longAudio_not_roundTrips :
    (Dto.pack longAudio).length < 2 ^ 16 ∧
      ¬RoundTrips Libraries.standard ⟨0, 0, 0⟩ CryptoDtoChannel.zeroKeyChannel
        CryptoDtoChannel.zeroKeyChannel .aeadChaCha20Poly1305 longAudio := by
  have hlong : decryptBufferSize < (plaintext longAudio).length := by
    decide +kernel
  refine ⟨by decide +kernel, ?_⟩
  rintro ⟨packet, d, hpacket, hd, _⟩
  rw [deserialize_overflow Libraries.standard ⟨0, 0, 0⟩ CryptoDtoChannel.zeroKeyChannel
    CryptoDtoChannel.zeroKeyChannel rfl longAudio (by decide) hlong hpacket] at hd
  cases hd

/-- One end of a voice connection as a machine over datagrams. -/
def receiver : Machine CryptoDtoChannel (Indeterminate × QByteArray) (Except Fault Deserializer)
    where
  step channel datagram := (channel, [deserialize L datagram.1 channel datagram.2 false])

theorem receiver_run (datagrams : List (Indeterminate × QByteArray)) :
    (receiver L).run channel datagrams
      = (channel, datagrams.map (fun i => deserialize L i.1 channel i.2 false)) := by
  induction datagrams with
  | nil => rfl
  | cons datagram datagrams ih =>
      simp only [Machine.run_cons, receiver] at ih ⊢
      rw [ih]
      rfl

/-- No two results deliver the same sequence number. -/
def NoReplay (results : List (Except Fault Deserializer)) : Prop :=
  results.Pairwise (fun a b => ∀ sequence, ¬(Delivers sequence a ∧ Delivers sequence b))

/-- Each sequence number is delivered at most once, exactly when no two
    datagrams of the run are sealed under the same one. -/
theorem replay_iff (datagrams : List (Indeterminate × QByteArray)) :
    NoReplay ((receiver L).run channel datagrams).2 ↔ datagrams.Pairwise (fun a b => ∀ sequence,
        ¬(Sealed L channel.aeadReceiveKey sequence a.2
          ∧ Sealed L channel.aeadReceiveKey sequence b.2)) := by
  rw [receiver_run, NoReplay, List.pairwise_map]
  simp [deserialize_verified_iff]

-- The same heartbeat, received twice, is delivered twice.
theorem heartbeat_replayed :
    ∃ packet, (serialize Libraries.standard CryptoDtoChannel.zeroKeyChannel
        .aeadChaCha20Poly1305 heartbeat).1 = .ok packet ∧
      ¬NoReplay ((receiver Libraries.standard).run CryptoDtoChannel.zeroKeyChannel
        [(⟨0, 0, 0⟩, packet), (⟨0, 0, 0⟩, packet)]).2 := by
  refine ⟨_, serialize_aead Libraries.standard CryptoDtoChannel.zeroKeyChannel heartbeat, ?_⟩
  have hsealed := sealed_of_serialize Libraries.standard CryptoDtoChannel.zeroKeyChannel heartbeat
    (by decide) (by rw [length_plaintext]; decide) (serialize_aead _ _ _)
  have hdelivers := (deserialize_verified_iff Libraries.standard ⟨0, 0, 0⟩
    CryptoDtoChannel.zeroKeyChannel _ _).mpr hsealed
  intro hpairwise
  exact (List.pairwise_cons.mp hpairwise).1 _ (List.mem_singleton_self _) _
    ⟨hdelivers, hdelivers⟩

end CryptoDtoSerializer

end NeoSwift.Afv
