import NeoSwift.Lib.Msgpack
import NeoSwift.Qt.Bytes
import NeoSwift.Qt.Text

/-!
# Voice Data Transfer Objects

The records exchanged with the voice server. What the packet layer needs of a
record type is its two names and its MessagePack form (`Dto`); the form is a
record of the fields in the order of `MSGPACK_DEFINE`.

## Main definitions

* `CryptoDtoChannelConfigDto`: The keys of a channel.
* `Dto`: A record type that travels in packets.
* `HeartbeatDto`, `AudioTxOnTransceiversDto`: The records a client sends.
* `HeartbeatAckDto`, `AudioRxOnTransceiversDto`: The records it receives.
-/

namespace NeoSwift.Afv

open Msgpack

/-- The channel configuration handed out by the voice server. -/
structure CryptoDtoChannelConfigDto where
  channelTag : QString
  aeadReceiveKey : QByteArray
  aeadTransmitKey : QByteArray
  hmacKey : QByteArray

/-- A record type with its names and its packed form. -/
class Dto (T : Type) where
  getDtoName : QByteArray
  getShortDtoName : QByteArray
  pack : T → List UInt8
  unpack : List UInt8 → Option T

/-- A fixed-width integer field, packed as the number it is. -/
def uintField {U : Type} (toNat : U → ℕ) (ofNat : ℕ → U) (h : ∀ u, ofNat (toNat u) = u) :
    Codec U :=
  Codec.uint.map toNat (fun n => some (ofNat n)) (fun u => congrArg some (h u))

/-- `HeartbeatDto`. -/
structure HeartbeatDto where
  callsign : List UInt8
  deriving Inhabited

def HeartbeatDto.codec : Codec HeartbeatDto :=
  Codec.record 1 (by decide)
    (Codec.str.map HeartbeatDto.callsign (fun s => some ⟨s⟩) (fun _ => rfl))

instance : Dto HeartbeatDto where
  getDtoName := QString.toStdString "HeartbeatDto"
  getShortDtoName := QString.toStdString "H"
  pack := HeartbeatDto.codec.pack
  unpack bs := (HeartbeatDto.codec.unpack bs).map Prod.fst

/-- `TxTransceiverDto`. -/
structure TxTransceiverDto where
  id : UInt16

def TxTransceiverDto.codec : Codec TxTransceiverDto :=
  Codec.record 1 (by decide)
    ((uintField UInt16.toNat UInt16.ofNat (fun _ => UInt16.ofNat_toNat)).map
      TxTransceiverDto.id (fun i => some ⟨i⟩) (fun _ => rfl))

/-- `AudioTxOnTransceiversDto`. -/
structure AudioTxOnTransceiversDto where
  callsign : List UInt8
  sequenceCounter : UInt32
  audio : List UInt8
  lastPacket : Bool
  transceivers : List TxTransceiverDto
  deriving Inhabited

def AudioTxOnTransceiversDto.codec : Codec AudioTxOnTransceiversDto :=
  Codec.record 5 (by decide)
    ((Codec.str.pair
      ((uintField UInt32.toNat UInt32.ofNat (fun _ => UInt32.ofNat_toNat)).pair
        (Codec.bin.pair (Codec.bool.pair (Codec.array TxTransceiverDto.codec))))).map
      (fun d => (d.callsign, d.sequenceCounter, d.audio, d.lastPacket, d.transceivers))
      (fun p => some ⟨p.1, p.2.1, p.2.2.1, p.2.2.2.1, p.2.2.2.2⟩)
      (fun _ => rfl))

instance : Dto AudioTxOnTransceiversDto where
  getDtoName := QString.toStdString "AudioTxOnTransceiversDto"
  getShortDtoName := QString.toStdString "AT"
  pack := AudioTxOnTransceiversDto.codec.pack
  unpack bs := (AudioTxOnTransceiversDto.codec.unpack bs).map Prod.fst

/-- The short name of `HeartbeatAckDto`, a record without fields. -/
def HeartbeatAckDto.getShortDtoName : QByteArray := QString.toStdString "HA"

/-- `RxTransceiverDto`. The ratio is a `float`, kept as its bits. -/
structure RxTransceiverDto where
  id : UInt16
  frequency : UInt32
  distanceRatio : UInt32

/-- The bits of a `float` behind its marker. -/
def floatField : Codec UInt32 :=
  (Codec.sized 0 0 [(0xca, 4)] (by decide)).map UInt32.toNat (fun n => some (UInt32.ofNat n))
    (fun _ => congrArg some UInt32.ofNat_toNat)

def RxTransceiverDto.codec : Codec RxTransceiverDto :=
  Codec.record 3 (by decide)
    (((uintField UInt16.toNat UInt16.ofNat (fun _ => UInt16.ofNat_toNat)).pair
      ((uintField UInt32.toNat UInt32.ofNat (fun _ => UInt32.ofNat_toNat)).pair floatField)).map
      (fun d => (d.id, d.frequency, d.distanceRatio))
      (fun p => some ⟨p.1, p.2.1, p.2.2⟩)
      (fun _ => rfl))

/-- `AudioRxOnTransceiversDto`. -/
structure AudioRxOnTransceiversDto where
  callsign : List UInt8
  sequenceCounter : UInt32
  audio : List UInt8
  lastPacket : Bool
  transceivers : List RxTransceiverDto
  deriving Inhabited

def AudioRxOnTransceiversDto.codec : Codec AudioRxOnTransceiversDto :=
  Codec.record 5 (by decide)
    ((Codec.str.pair
      ((uintField UInt32.toNat UInt32.ofNat (fun _ => UInt32.ofNat_toNat)).pair
        (Codec.bin.pair (Codec.bool.pair (Codec.array RxTransceiverDto.codec))))).map
      (fun d => (d.callsign, d.sequenceCounter, d.audio, d.lastPacket, d.transceivers))
      (fun p => some ⟨p.1, p.2.1, p.2.2.1, p.2.2.2.1, p.2.2.2.2⟩)
      (fun _ => rfl))

instance : Dto AudioRxOnTransceiversDto where
  getDtoName := QString.toStdString "AudioRxOnTransceiversDto"
  getShortDtoName := QString.toStdString "AR"
  pack := AudioRxOnTransceiversDto.codec.pack
  unpack bs := (AudioRxOnTransceiversDto.codec.unpack bs).map Prod.fst

end NeoSwift.Afv
