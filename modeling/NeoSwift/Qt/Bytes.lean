import NeoSwift.Lib.LittleEndian

/-!
# Byte Arrays and Buffers

`QByteArray` and the reading side of `QBuffer`. A buffer open for reading is
the bytes not read yet. Reading past the end gives what is left, and a request
for a negative number of bytes gives nothing.

A read into a variable overwrites as many of its bytes as there were to read:
the machine is little-endian, so on a short buffer the high bytes of the
variable keep what they held before.

## Main definitions

* `QByteArray`: Byte strings.
* `QBuffer.read`: A read into a fresh array.
* `QBuffer.readUInt16`: A read into a 16-bit variable.

## Theorems

* `read_append`: A read of a whole prefix.
* `readUInt16_append`: A read of a 16-bit integer that was written.
-/

namespace NeoSwift

/-- A byte string. -/
abbrev QByteArray := List UInt8

namespace QBuffer

/-- `QIODevice::read(qint64)`: at most `n` bytes, and the buffer after them. -/
def read (n : ℤ) (buffer : QByteArray) : QByteArray × QByteArray :=
  if n < 0 then ([], buffer) else (buffer.take n.toNat, buffer.drop n.toNat)

/-- `QIODevice::read(char *, qint64)` into a `quint16` that holds `old`. -/
def readUInt16 (old : UInt16) (buffer : QByteArray) : UInt16 × QByteArray :=
  let bytes := buffer.take 2
  (UInt16.ofNat (ofLittleEndian (bytes ++ (toLittleEndian 2 old.toNat).drop bytes.length)),
    buffer.drop 2)

theorem read_append {n : ℤ} {bs : QByteArray} (h : (bs.length : ℤ) = n) (rest : QByteArray) :
    read n (bs ++ rest) = (bs, rest) := by
  subst h
  rw [read, if_neg (by omega), Int.toNat_natCast, List.take_left, List.drop_left]

theorem readUInt16_append (old n : UInt16) (rest : QByteArray) :
    readUInt16 old (toLittleEndian 2 n.toNat ++ rest) = (n, rest) := by
  have hlen : (toLittleEndian 2 n.toNat).length = 2 := length_toLittleEndian 2 n.toNat
  have htake : (toLittleEndian 2 n.toNat ++ rest).take 2 = toLittleEndian 2 n.toNat := by
    rw [List.take_append_of_le_length hlen.ge, List.take_of_length_le hlen.le]
  have hdrop : (toLittleEndian 2 n.toNat ++ rest).drop 2 = rest := by
    rw [List.drop_append_of_le_length hlen.ge, List.drop_of_length_le hlen.le, List.nil_append]
  have hkept : (toLittleEndian 2 old.toNat).drop 2 = [] :=
    List.drop_of_length_le (length_toLittleEndian 2 old.toNat).le
  simp only [readUInt16, htake, hdrop, hlen, hkept, List.append_nil]
  rw [ofLittleEndian_toLittleEndian_of_lt n.toNat_lt, UInt16.ofNat_toNat]

end QBuffer

end NeoSwift
