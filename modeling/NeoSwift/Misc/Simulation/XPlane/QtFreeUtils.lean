import NeoSwift.Qt.Bytes

/-!
# Steps over characters

`Utf8Iterator`, which steps over the bytes of a text one character at a time: to the next byte,
and from there over the bytes that continue a character. An iterator is what is left of the text
here.

Of a text that is UTF-8, a step takes the bytes of one character, whatever their number.

## Main definitions

* `Utf8Iterator.increment`: A step.
* `Utf8Iterator.next`, `Utf8Iterator.distance`: `std::next` and `std::distance`.
* `encode`: A text as UTF-8.

## Theorems

* `utf8EncodeChar_eq_cons`: The bytes of a character.
* `increment_encode`: A step takes a character.
* `next_encode`, `distance_encode`: Steps count characters.
-/

namespace NeoSwift.Simulation

namespace XPlane

/-- A text as UTF-8. -/
def encode (text : List Char) : QByteArray := text.flatMap String.utf8EncodeChar

namespace Utf8Iterator

/-- `isContinuation`. -/
def isContinuation (c : UInt8) : Bool := c &&& 0b11000000 == 0b10000000

/-- `++iterator`, which does not go beyond the end. -/
def increment : QByteArray → Option QByteArray
  | [] => none
  | _ :: bytes => some (bytes.dropWhile isContinuation)

/-- `std::next(iterator, n)`. -/
def next : ℕ → QByteArray → Option QByteArray
  | 0, bytes => some bytes
  | n + 1, bytes => (increment bytes).bind (next n)

/-- The number of steps to the end, and none if they are more than the fuel. -/
def distanceFrom : ℕ → QByteArray → Option ℕ
  | _, [] => some 0
  | 0, _ :: _ => none
  | fuel + 1, bytes => (increment bytes).bind fun rest => (distanceFrom fuel rest).map (· + 1)

/-- `std::distance(iterator, end)`, which has no more steps than there are bytes. -/
def distance (bytes : QByteArray) : Option ℕ := distanceFrom bytes.length bytes

end Utf8Iterator

open Utf8Iterator

@[simp] theorem encode_nil : encode [] = [] := rfl

theorem encode_cons (c : Char) (text : List Char) :
    encode (c :: text) = String.utf8EncodeChar c ++ encode text := by
  rw [encode, List.flatMap_cons, encode]

theorem encode_append (text more : List Char) : encode (text ++ more) =
    encode text ++ encode more :=
  List.flatMap_append

theorem isContinuation_low_bits (b : UInt8) : isContinuation (b &&& 0x3f ||| 0x80) = true := by
  have hbits : ∀ v : BitVec 8, isContinuation (⟨v⟩ &&& 0x3f ||| 0x80) = true := by decide
  exact hbits b.toBitVec

theorem isContinuation_lead (b : UInt8) :
    isContinuation (b &&& 0x1f ||| 0xc0) = false ∧ isContinuation (b &&& 0x0f ||| 0xe0) = false ∧
      isContinuation (b &&& 0x07 ||| 0xf0) = false := by
  have hbits : ∀ v : BitVec 8, isContinuation (⟨v⟩ &&& 0x1f ||| 0xc0) = false ∧
      isContinuation (⟨v⟩ &&& 0x0f ||| 0xe0) = false ∧
      isContinuation (⟨v⟩ &&& 0x07 ||| 0xf0) = false := by decide
  exact hbits b.toBitVec

theorem isContinuation_ascii {b : UInt8} (h : b.toNat < 128) : isContinuation b = false := by
  have hbits : ∀ v : BitVec 8, v.toNat < 128 → isContinuation ⟨v⟩ = false := by decide
  exact hbits b.toBitVec h

/-- One byte that is not a continuation, and then those that are. -/
theorem utf8EncodeChar_eq_cons (c : Char) :
    ∃ b tail, String.utf8EncodeChar c = b :: tail ∧ isContinuation b = false ∧
      ∀ x ∈ tail, isContinuation x = true := by
  rcases c.utf8Size_eq with h | h | h | h
  · refine ⟨_, [], String.utf8EncodeChar_eq_singleton h, isContinuation_ascii ?_, by simp⟩
    have hval := UInt32.le_iff_toNat_le.mp (Char.utf8Size_eq_one_iff.mp h)
    have hmax : (127 : UInt32).toNat = 127 := rfl
    rw [UInt32.toNat_toUInt8]
    omega
  · refine ⟨_, _, String.utf8EncodeChar_eq_cons_cons h, (isContinuation_lead _).1, ?_⟩
    simp [isContinuation_low_bits]
  · refine ⟨_, _, String.utf8EncodeChar_eq_cons_cons_cons h, (isContinuation_lead _).2.1, ?_⟩
    simp [isContinuation_low_bits]
  · refine ⟨_, _, String.utf8EncodeChar_eq_cons_cons_cons_cons h, (isContinuation_lead _).2.2, ?_⟩
    simp [isContinuation_low_bits]

theorem encode_eq_nil_iff {text : List Char} : encode text = [] ↔ text = [] := by
  cases text with
  | nil => simp
  | cons c text =>
      rcases utf8EncodeChar_eq_cons c with ⟨b, tail, hc, _⟩
      rw [encode_cons]
      simp

/-- In front of a character there is nothing to continue. -/
theorem dropWhile_isContinuation_encode (text : List Char) :
    (encode text).dropWhile isContinuation = encode text := by
  cases text with
  | nil => rfl
  | cons c text =>
      rcases utf8EncodeChar_eq_cons c with ⟨b, tail, hc, hlead, _⟩
      rw [encode_cons, hc, List.cons_append, List.dropWhile_cons_of_neg (by simp [hlead])]

theorem increment_encode (c : Char) (text : List Char) :
    increment (encode (c :: text)) = some (encode text) := by
  rcases utf8EncodeChar_eq_cons c with ⟨b, tail, hc, _, htail⟩
  rw [encode_cons, hc, List.cons_append, increment, List.dropWhile_append_of_pos htail,
    dropWhile_isContinuation_encode]

theorem next_encode (text more : List Char) :
    next text.length (encode (text ++ more)) = some (encode more) := by
  induction text with
  | nil => rfl
  | cons c text ih =>
      rw [List.length_cons, next, List.cons_append, increment_encode, Option.bind_some, ih]

theorem distanceFrom_encode (text : List Char) :
    ∀ fuel, text.length ≤ fuel → distanceFrom fuel (encode text) = some text.length := by
  induction text with
  | nil =>
      intro fuel _
      cases fuel <;> rfl
  | cons c text ih =>
      intro fuel hfuel
      cases fuel with
      | zero =>
          rw [List.length_cons] at hfuel
          omega
      | succ fuel =>
          -- One increment is one character, however many bytes it has.
          have hstep := increment_encode c text
          cases hbytes : encode (c :: text) with
          | nil => exact absurd (encode_eq_nil_iff.mp hbytes) (by simp)
          | cons b bytes =>
              rw [hbytes] at hstep
              rw [List.length_cons] at hfuel
              rw [distanceFrom, hstep, Option.bind_some, ih fuel (by omega), Option.map_some,
                List.length_cons]
              simp

theorem length_le_length_encode (text : List Char) : text.length ≤ (encode text).length := by
  induction text with
  | nil => exact Nat.le_refl 0
  | cons c text ih =>
      rcases utf8EncodeChar_eq_cons c with ⟨b, tail, hc, _⟩
      rw [encode_cons, hc, List.length_append, List.length_cons, List.length_cons]
      omega

theorem distance_encode (text : List Char) : distance (encode text) = some text.length :=
  distanceFrom_encode text _ (length_le_length_encode text)

end XPlane

end NeoSwift.Simulation
