import Mathlib.Tactic.Common

/-!
# Authenticated Encryption

An AEAD turns a message into a ciphertext that is longer by a tag, and accepts
on the way back exactly the ciphertexts it makes: decryption under a key, a
nonce and associated data gives `m` precisely when the input is the encryption
of `m` under the same three. This is the ideal a protocol built on top relies
on, stated with the three inputs kept apart so that a protocol can vary any of
them.

Every stream cipher followed by a tag over the ciphertext is one, whatever the
cipher and the tag: XOR with the same key stream is its own inverse, and the
tag is recomputed before anything is let through.

## Main definitions

* `Aead`: Encryption, decryption and the law between them.
* `xorBytes`: Byte-wise XOR with a key stream.
* `Aead.ofStreamAndMac`: A stream cipher and a tag over its ciphertext.

## Theorems

* `Aead.decrypt_encrypt`: Decryption inverts encryption.
* `Aead.decrypt_of_length_lt`: What is shorter than a tag is refused.
* `xorBytes_xorBytes`: XOR with a long enough key stream is an involution.
-/

namespace NeoSwift

/-- Authenticated encryption with associated data. The arguments of `encrypt`
    and `decrypt` are the key, the nonce, the associated data and the text. -/
structure Aead where
  tagLength : ℕ
  encrypt : List UInt8 → List UInt8 → List UInt8 → List UInt8 → List UInt8
  decrypt : List UInt8 → List UInt8 → List UInt8 → List UInt8 → Option (List UInt8)
  length_encrypt : ∀ key nonce ad m, (encrypt key nonce ad m).length = m.length + tagLength
  decrypt_eq_some : ∀ key nonce ad c m, decrypt key nonce ad c = some m ↔ c = encrypt key nonce ad m

namespace Aead

theorem decrypt_encrypt (A : Aead) (key nonce ad m : List UInt8) :
    A.decrypt key nonce ad (A.encrypt key nonce ad m) = some m :=
  (A.decrypt_eq_some key nonce ad _ m).mpr rfl

/-- A text shorter than a tag is no ciphertext. -/
theorem decrypt_of_length_lt (A : Aead) (key nonce ad : List UInt8) {c : List UInt8}
    (h : c.length < A.tagLength) : A.decrypt key nonce ad c = none := by
  cases hdec : A.decrypt key nonce ad c with
  | none => rfl
  | some m =>
      have hc := (A.decrypt_eq_some key nonce ad c m).mp hdec
      have hlen := A.length_encrypt key nonce ad m
      rw [← hc] at hlen
      omega

end Aead

/-- The text and the key stream, XORed byte by byte. -/
def xorBytes (text stream : List UInt8) : List UInt8 :=
  List.zipWith (fun a b => a ^^^ b) text stream

theorem length_xorBytes {text stream : List UInt8} (h : text.length ≤ stream.length) :
    (xorBytes text stream).length = text.length := by
  rw [xorBytes, List.length_zipWith, Nat.min_eq_left h]

/-- XOR with a key stream that covers the text is its own inverse. -/
theorem xorBytes_xorBytes {text stream : List UInt8} (h : text.length ≤ stream.length) :
    xorBytes (xorBytes text stream) stream = text := by
  induction text generalizing stream with
  | nil => rfl
  | cons a text ih =>
      cases stream with
      | nil => cases h
      | cons b stream =>
          have hab : a ^^^ b ^^^ b = a := by rw [UInt8.xor_assoc, UInt8.xor_self, UInt8.xor_zero]
          have htail := @ih stream (by simpa using h)
          simp only [xorBytes, List.zipWith_cons_cons, hab] at htail ⊢
          rw [htail]

namespace Aead

variable (stream : List UInt8 → List UInt8 → ℕ → List UInt8)
variable (mac : List UInt8 → List UInt8 → List UInt8 → List UInt8 → List UInt8)

/-- The ciphertext of a stream cipher with its tag behind it. -/
def sealWith (key nonce ad m : List UInt8) : List UInt8 :=
  xorBytes m (stream key nonce m.length)
    ++ mac key nonce ad (xorBytes m (stream key nonce m.length))

/-- The text under a ciphertext whose last `n` bytes are its tag. -/
def openWith (n : ℕ) (key nonce ad c : List UInt8) : Option (List UInt8) :=
  let body := c.take (c.length - n)
  if n ≤ c.length ∧ c.drop (c.length - n) = mac key nonce ad body then
    some (xorBytes body (stream key nonce body.length))
  else none

/-- A stream cipher that covers every text, and a tag of `n` bytes over its
    ciphertext, make an AEAD. -/
def ofStreamAndMac (n : ℕ) (hstream : ∀ key nonce k, k ≤ (stream key nonce k).length)
    (hmac : ∀ key nonce ad c, (mac key nonce ad c).length = n) : Aead where
  tagLength := n
  encrypt := sealWith stream mac
  decrypt := openWith stream mac n
  length_encrypt key nonce ad m := by
    rw [sealWith, List.length_append, hmac, length_xorBytes (hstream key nonce m.length)]
  decrypt_eq_some key nonce ad c m := by
    constructor
    · intro h
      simp only [openWith, Option.ite_none_right_eq_some, Option.some.injEq] at h
      rcases h with ⟨⟨hle, htag⟩, hbody⟩
      have hcover := hstream key nonce (c.take (c.length - n)).length
      have hlen : m.length = (c.take (c.length - n)).length := by
        rw [← hbody, length_xorBytes hcover]
      have hback : xorBytes m (stream key nonce m.length) = c.take (c.length - n) := by
        rw [hlen, ← hbody, xorBytes_xorBytes hcover]
      rw [sealWith, hback, ← htag, List.take_append_drop]
    · intro h
      have hcover := hstream key nonce m.length
      have hlen := length_xorBytes hcover
      -- The ciphertext splits where its tag begins.
      have hcut : c.length - n = (xorBytes m (stream key nonce m.length)).length := by
        rw [h, sealWith, List.length_append, hmac, Nat.add_sub_cancel]
      have hn : n ≤ c.length := by
        rw [h, sealWith, List.length_append, hmac]
        exact Nat.le_add_left n _
      have htake : c.take (c.length - n) = xorBytes m (stream key nonce m.length) := by
        rw [hcut, h, sealWith, List.take_left]
      have hdrop : c.drop (c.length - n)
          = mac key nonce ad (xorBytes m (stream key nonce m.length)) := by
        rw [hcut, h, sealWith, List.drop_left]
      simp only [openWith, htake, hdrop, hlen, hn, and_self, if_true]
      rw [xorBytes_xorBytes hcover]

end Aead

end NeoSwift
