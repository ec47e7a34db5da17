import NeoSwift.Lib.Aead
import NeoSwift.Lib.LittleEndian

/-!
# ChaCha20-Poly1305

The AEAD with a 32-byte key, a 12-byte nonce and a 16-byte tag. Words are
32-bit and little-endian, the cipher state is a list of sixteen of them, and
the tag is a polynomial over the padded associated data and ciphertext,
evaluated modulo `2 ^ 130 - 5` at a point taken from the first block of the
key stream.

## Main definitions

* `ChaCha20.block`: One block of key stream.
* `Poly1305.mac`: The one-time tag of a message.
* `chaCha20Poly1305`: The AEAD made of the two.

## Theorems

* `length_keyStream_ge`: The key stream covers any text it is asked for.
-/

namespace NeoSwift

namespace ChaCha20

/-- A 32-bit word rotated to the left. -/
def rotateLeft (x n : UInt32) : UInt32 :=
  (x <<< n) ||| (x >>> (32 - n))

/-- The quarter round on the words at four positions of the state. -/
def quarterRound (s : List UInt32) (i j k l : ℕ) : List UInt32 :=
  let a := s.getD i 0 + s.getD j 0
  let d := rotateLeft (s.getD l 0 ^^^ a) 16
  let c := s.getD k 0 + d
  let b := rotateLeft (s.getD j 0 ^^^ c) 12
  let a := a + b
  let d := rotateLeft (d ^^^ a) 8
  let c := c + d
  let b := rotateLeft (b ^^^ c) 7
  (((s.set i a).set j b).set k c).set l d

/-- A round over the columns and one over the diagonals. -/
def doubleRound (s : List UInt32) : List UInt32 :=
  let s := quarterRound (quarterRound s 0 4 8 12) 1 5 9 13
  let s := quarterRound (quarterRound s 2 6 10 14) 3 7 11 15
  let s := quarterRound (quarterRound s 0 5 10 15) 1 6 11 12
  quarterRound (quarterRound s 2 7 8 13) 3 4 9 14

/-- The first `n` words of a byte string. -/
def words (n : ℕ) (bs : List UInt8) : List UInt32 :=
  (List.range n).map (fun i => UInt32.ofNat (ofLittleEndian ((bs.drop (4 * i)).take 4)))

/-- The state before the first round. -/
def initial (key nonce : List UInt8) (counter : ℕ) : List UInt32 :=
  [0x61707865, 0x3320646e, 0x79622d32, 0x6b206574] ++ words 8 key
    ++ UInt32.ofNat counter :: words 3 nonce

/-- One block of key stream. -/
def block (key nonce : List UInt8) (counter : ℕ) : List UInt8 :=
  let s := initial key nonce counter
  (List.zipWith (fun x y => x + y) (doubleRound^[10] s) s).flatMap
    (fun w => toLittleEndian 4 w.toNat)

/-- Key stream for `n` bytes of text, from the block after the one that keys
    the tag. -/
def keyStream (key nonce : List UInt8) (n : ℕ) : List UInt8 :=
  (List.range ((n + 63) / 64)).flatMap (fun i => block key nonce (i + 1))

theorem length_quarterRound (s : List UInt32) (i j k l : ℕ) :
    (quarterRound s i j k l).length = s.length := by
  simp [quarterRound]

theorem length_doubleRound (s : List UInt32) : (doubleRound s).length = s.length := by
  simp [doubleRound, length_quarterRound]

theorem length_iterate_doubleRound (n : ℕ) (s : List UInt32) :
    (doubleRound^[n] s).length = s.length := by
  induction n generalizing s with
  | zero => rfl
  | succ n ih => rw [Function.iterate_succ_apply, ih, length_doubleRound]

theorem length_block (key nonce : List UInt8) (counter : ℕ) :
    (block key nonce counter).length = 64 := by
  simp only [block, List.length_flatMap, length_toLittleEndian, List.map_const',
    List.length_zipWith, length_iterate_doubleRound, initial, words, List.length_append,
    List.length_cons, List.length_map]
  decide

theorem length_keyStream_ge (key nonce : List UInt8) (n : ℕ) :
    n ≤ (keyStream key nonce n).length := by
  simp only [keyStream, List.length_flatMap, length_block, List.map_const', List.sum_replicate_nat,
    List.length_range]
  omega

end ChaCha20

namespace Poly1305

/-- The tag of a message under a one-time key: its 16-byte chunks, each with a
    one bit above it, are the coefficients of the polynomial. -/
def accumulate (r : ℕ) : ℕ → List (List UInt8) → ℕ
  | acc, [] => acc
  | acc, chunk :: rest =>
      accumulate r ((acc + ofLittleEndian chunk + 256 ^ chunk.length) * r % (2 ^ 130 - 5)) rest

/-- The one-time tag of a message. -/
def mac (oneTimeKey msg : List UInt8) : List UInt8 :=
  let r := ofLittleEndian (oneTimeKey.take 16) &&& 0x0ffffffc0ffffffc0ffffffc0fffffff
  let s := ofLittleEndian ((oneTimeKey.drop 16).take 16)
  toLittleEndian 16 (accumulate r 0 (msg.toChunks 16) + s)

/-- Zeros up to the next multiple of sixteen bytes. -/
def padding (bs : List UInt8) : List UInt8 :=
  List.replicate ((16 - bs.length % 16) % 16) 0

/-- The tag over associated data and ciphertext. -/
def tag (key nonce ad c : List UInt8) : List UInt8 :=
  mac (ChaCha20.block key nonce 0) (ad ++ padding ad ++ (c ++ padding c)
    ++ (toLittleEndian 8 ad.length ++ toLittleEndian 8 c.length))

theorem length_tag (key nonce ad c : List UInt8) : (tag key nonce ad c).length = 16 :=
  length_toLittleEndian 16 _

end Poly1305

/-- ChaCha20-Poly1305 with a 12-byte nonce. -/
def chaCha20Poly1305 : Aead :=
  Aead.ofStreamAndMac ChaCha20.keyStream Poly1305.tag 16
    ChaCha20.length_keyStream_ge Poly1305.length_tag

-- The published test vector, checked through its tag: the tag depends on every
-- byte of the ciphertext.
example :
    (chaCha20Poly1305.encrypt ((List.range 32).map (fun i => UInt8.ofNat (0x80 + i)))
      [7, 0, 0, 0, 0x40, 0x41, 0x42, 0x43, 0x44, 0x45, 0x46, 0x47]
      [0x50, 0x51, 0x52, 0x53, 0xc0, 0xc1, 0xc2, 0xc3, 0xc4, 0xc5, 0xc6, 0xc7]
      (("Ladies and Gentlemen of the class of '99: If I could offer you only one tip for " ++
        "the future, sunscreen would be it.").toList.map
          (fun c => UInt8.ofNat c.toNat))).drop 114
      = [0x1a, 0xe1, 0x0b, 0x59, 0x4f, 0x09, 0xe2, 0x6a, 0x7e, 0x90, 0x2e, 0xcb, 0xd0, 0x60,
        0x06, 0x91] := by
  decide +kernel

end NeoSwift
