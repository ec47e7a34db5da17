import NeoSwift.Lib.ChaCha20Poly1305
import NeoSwift.Afv.Dto

/-!
# Packet Headers

The header of a voice packet and what packets use of libsodium and msgpack.
The two libraries are a parameter of the packet layer, with the laws it relies
on as fields: the AEAD accepts exactly what it encrypts, and a header that was
packed comes back.

`Libraries.standard` is the pair the program is built with, ChaCha20-Poly1305
and the MessagePack form of the header as `MSGPACK_DEFINE` lays it out.

## Main definitions

* `CryptoDtoMode`: How a packet is protected.
* `CryptoDtoHeaderDto`: The header.
* `Libraries`: An AEAD and a codec for headers.
* `Libraries.standard`: ChaCha20-Poly1305 and MessagePack.

## Theorems

* `CryptoDtoHeaderDto.fits_of_length_lt`: A header with a short packed form is
  one that MessagePack can carry.
-/

namespace NeoSwift.Afv

open Msgpack

/-- How a packet is protected. -/
inductive CryptoDtoMode where
  | undefined
  | none
  | aeadChaCha20Poly1305
  deriving DecidableEq

/-- The header of a packet. A mode outside the enumeration takes the branches
    of `none`. -/
structure CryptoDtoHeaderDto where
  channelTag : List UInt8
  sequence : UInt64
  mode : CryptoDtoMode

/-- `crypto_aead_chacha20poly1305_IETF_KEYBYTES`. -/
def keyBytes : ℕ := 32

/-- `crypto_aead_chacha20poly1305_IETF_ABYTES`. -/
def aBytes : ℕ := 16

/-- libsodium's AEAD and msgpack on packet headers. -/
structure Libraries where
  aead : Aead
  tagLength_eq : aead.tagLength = aBytes
  packHeader : CryptoDtoHeaderDto → QByteArray
  unpackHeader : QByteArray → Option CryptoDtoHeaderDto
  unpackHeader_packHeader : ∀ header, (packHeader header).length < 2 ^ 16 →
    unpackHeader (packHeader header) = some header

/-- The underlying value of a mode. -/
def CryptoDtoMode.toUnderlying : CryptoDtoMode → ℕ
  | .undefined => 0
  | .none => 1
  | .aeadChaCha20Poly1305 => 2

/-- The mode with an underlying value. -/
def CryptoDtoMode.ofUnderlying : ℕ → CryptoDtoMode
  | 0 => .undefined
  | 2 => .aeadChaCha20Poly1305
  | _ => .none

theorem headerFields_lt : 3 < 0x10 := by omega

def CryptoDtoHeaderDto.codec : Codec CryptoDtoHeaderDto :=
  Codec.record 3 headerFields_lt
    ((Codec.str.pair
      ((uintField UInt64.toNat UInt64.ofNat (fun _ => UInt64.ofNat_toNat)).pair
        (uintField CryptoDtoMode.toUnderlying CryptoDtoMode.ofUnderlying
          (fun m => by cases m <;> rfl)))).map
      (fun h => (h.channelTag, h.sequence, h.mode))
      (fun p => some ⟨p.1, p.2.1, p.2.2⟩)
      (fun _ => rfl))

/-- A header with a short packed form is one that MessagePack can carry: the
    channel tag is part of that form. -/
theorem CryptoDtoHeaderDto.fits_of_length_lt {header : CryptoDtoHeaderDto}
    (h : (codec.pack header).length < 2 ^ 16) : codec.Fits header := by
  have htag : header.channelTag.length ≤ (codec.pack header).length := by
    simp only [codec, Codec.record, Codec.map, Codec.pair, Codec.str, Codec.prefixed,
      List.length_append]
    omega
  have hsequence : header.sequence.toNat < 256 ^ 8 := header.sequence.toNat_lt
  have hmode : header.mode.toUnderlying < 0x80 := by cases header.mode <;> decide
  refine ⟨Or.inr ⟨(0xda, 2), by decide, ?_⟩, Or.inr ⟨(0xcf, 8), by decide, hsequence⟩,
    Or.inl hmode⟩
  exact Nat.lt_of_le_of_lt htag h

/-- ChaCha20-Poly1305 and MessagePack. -/
def Libraries.standard : Libraries where
  aead := chaCha20Poly1305
  tagLength_eq := rfl
  packHeader := CryptoDtoHeaderDto.codec.pack
  unpackHeader bs := (CryptoDtoHeaderDto.codec.unpack bs).map Prod.fst
  unpackHeader_packHeader header h := by
    have hback := CryptoDtoHeaderDto.codec.unpack_pack header []
      (CryptoDtoHeaderDto.fits_of_length_lt h)
    rw [List.append_nil] at hback
    rw [hback, Option.map_some]

end NeoSwift.Afv
