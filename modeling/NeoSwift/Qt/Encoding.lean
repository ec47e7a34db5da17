import Mathlib.Tactic.Common
import NeoSwift.Qt.Bytes
import NeoSwift.Qt.Text

/-!
# Texts and Bytes

`QString::fromUtf8`, `QString::fromLatin1` and `QString::toLatin1`. A byte that is not of a
sequence is replaced by U+FFFD, a character that is not of Latin-1 by a question mark.

Bytes that are read as UTF-8 and written as Latin-1 are at most half as many that are not ASCII:
each sequence that gives one has two.

## Main definitions

* `QString.fromUtf8`, `QString.fromLatin1`: Texts from bytes.
* `QString.toLatin1`: Bytes of a text.

## Theorems

* `toLatin1_fromUtf8_iff`: The bytes that come back.
-/

namespace NeoSwift.QString

def fromLatin1 (bytes : QByteArray) : QString := bytes.map fun b => Char.ofNat b.toNat

/-- A character behind U+FFFF is two UTF-16 code units. -/
def toLatin1 (s : QString) : QByteArray :=
  s.flatMap fun c =>
    if c.toNat < 0x100 then [UInt8.ofNat c.toNat]
    else if c.toNat < 0x10000 then [0x3f]
    else [0x3f, 0x3f]

def isContinuationByte (b : UInt8) : Bool := 0x80 ≤ b.toNat && b.toNat < 0xc0

/-- A sequence of a first byte with the bits `top` and of `needed` more bytes, for a character
    that needs that many. -/
def continued (needed min top : ℕ) (bytes : QByteArray) : Option (Char × ℕ) :=
  let continuation := bytes.take needed
  if continuation.length < needed ∨ continuation.all isContinuationByte = false then none
  else
    let uc := continuation.foldl (fun uc b => uc * 64 + (b.toNat - 0x80)) top
    if uc < min then none
    else if (0xd800 ≤ uc ∧ uc ≤ 0xdfff) ∨ 0x10ffff < uc then none
    else some (Char.ofNat uc, needed)

/-- The character that starts with a byte, with the number of further bytes it has. -/
def utf8Sequence (b : UInt8) (bytes : QByteArray) : Option (Char × ℕ) :=
  let n := b.toNat
  if n < 0x80 then some (Char.ofNat n, 0)
  else if n ≤ 0xc1 then none
  else if n < 0xe0 then continued 1 0x80 (n - 0xc0) bytes
  else if n < 0xf0 then continued 2 0x800 (n - 0xe0) bytes
  else if n < 0xf5 then continued 3 0x10000 (n - 0xf0) bytes
  else none

/-- The bytes of a sequence are skipped. What is wrong is one byte. -/
def convertToUnicode : ℕ → QByteArray → QString
  | _, [] => []
  | skip + 1, _ :: bytes => convertToUnicode skip bytes
  | 0, b :: bytes =>
    match utf8Sequence b bytes with
    | some (c, further) => c :: convertToUnicode further bytes
    | none => Char.ofNat 0xfffd :: convertToUnicode 0 bytes

/-- Without the byte order mark. -/
def fromUtf8 (bytes : QByteArray) : QString :=
  convertToUnicode 0 (if bytes.take 3 = [0xef, 0xbb, 0xbf] then bytes.drop 3 else bytes)

/-- How many bytes are not ASCII. -/
def highBytes (bytes : QByteArray) : ℕ := bytes.countP fun b => 0x80 ≤ b.toNat

theorem toLatin1_cons (c : Char) (s : QString) :
    toLatin1 (c :: s) = toLatin1 [c] ++ toLatin1 s := by
  unfold toLatin1
  rw [List.flatMap_cons, List.flatMap_singleton]

theorem highBytes_append (bytes more : QByteArray) :
    highBytes (bytes ++ more) = highBytes bytes + highBytes more := List.countP_append

theorem toNat_ofNat {n : ℕ} (h : ¬((0xd800 ≤ n ∧ n ≤ 0xdfff) ∨ 0x10ffff < n)) :
    (Char.ofNat n).toNat = n := by
  have hvalid : n.isValidChar := by
    omega
  rw [Char.ofNat, dif_pos hvalid]
  rfl

/-- A character has at most one byte that is not ASCII, and none behind U+00FF. -/
theorem highBytes_toLatin1_singleton (c : Char) :
    highBytes (toLatin1 [c]) = if 0x80 ≤ c.toNat ∧ c.toNat < 0x100 then 1 else 0 := by
  unfold toLatin1
  rw [List.flatMap_singleton]
  by_cases hlatin : c.toNat < 0x100
  · have hbyte : (UInt8.ofNat c.toNat).toNat = c.toNat := by
      exact Nat.mod_eq_of_lt hlatin
    rw [if_pos hlatin]
    unfold highBytes
    rw [List.countP_singleton, hbyte]
    simp [hlatin]
  · have hnone : ¬ (0x80 ≤ c.toNat ∧ c.toNat < 0x100) := fun h => hlatin h.2
    rw [if_neg hlatin]
    split <;> rfl

/-- A sequence has two bytes that are not ASCII for every one its character has. -/
theorem two_mul_highBytes_of_continued {needed min top : ℕ} {b : UInt8} {bytes : QByteArray}
    {c : Char} {further : ℕ} (hneeded : needed = 1 ∨ 0x100 ≤ min) (hb : 0x80 ≤ b.toNat)
    (h : continued needed min top bytes = some (c, further)) :
    2 * highBytes (toLatin1 [c]) ≤ highBytes (b :: bytes.take further) := by
  unfold continued at h
  dsimp only at h
  split at h
  · cases h
  case isFalse hwell =>
    rw [not_or, Bool.not_eq_false] at hwell
    split at h
    · cases h
    case isFalse hmin =>
      split at h
      · cases h
      case isFalse hvalid =>
        rcases h with ⟨rfl, rfl⟩
        -- Every further byte has its high bit set, or the sequence was no good one.
        have hall : highBytes (bytes.take needed) = (bytes.take needed).length := by
          refine List.countP_eq_length.mpr fun x hx => ?_
          have hx := List.all_eq_true.mp hwell.2 x hx
          exact (Bool.and_eq_true_iff.mp hx).1
        have hcount : highBytes (b :: bytes.take needed) = highBytes (bytes.take needed) + 1 :=
          List.countP_cons_of_pos (decide_eq_true hb)
        rw [highBytes_toLatin1_singleton, toNat_ofNat hvalid]
        split <;> omega

theorem two_mul_highBytes_of_sequence {b : UInt8} {bytes : QByteArray} {c : Char} {further : ℕ}
    (h : utf8Sequence b bytes = some (c, further)) :
    2 * highBytes (toLatin1 [c]) ≤ highBytes (b :: bytes.take further) := by
  unfold utf8Sequence at h
  dsimp only at h
  split at h
  case isTrue hascii =>
    rw [Option.some.injEq, Prod.mk.injEq] at h
    rw [highBytes_toLatin1_singleton, ← h.1, toNat_ofNat (by omega), if_neg (by omega)]
    exact Nat.zero_le _
  case isFalse hhigh =>
    have hb : 0x80 ≤ b.toNat := not_lt.mp hhigh
    split at h
    · cases h
    split at h
    · exact two_mul_highBytes_of_continued (Or.inl rfl) hb h
    split at h
    · exact two_mul_highBytes_of_continued (Or.inr (by omega)) hb h
    split at h
    · exact two_mul_highBytes_of_continued (Or.inr (by omega)) hb h
    · cases h

/-- What is read of the bytes has half of them. -/
theorem two_mul_highBytes_convertToUnicode (bytes : QByteArray) (skip : ℕ) :
    2 * highBytes (toLatin1 (convertToUnicode skip bytes)) ≤ highBytes (bytes.drop skip) := by
  induction bytes generalizing skip with
  | nil =>
    exact Nat.zero_le _
  | cons b bytes ih =>
    cases skip with
    | succ skip =>
      exact ih skip
    | zero =>
      rw [convertToUnicode, List.drop_zero]
      cases hsequence : utf8Sequence b bytes with
      -- The character that replaces a wrong byte is none of Latin-1.
      | none =>
        have hreplaced : highBytes (toLatin1 [Char.ofNat 0xfffd]) = 0 := by decide
        have hrest := ih 0
        have hle : highBytes bytes ≤ highBytes (b :: bytes) :=
          List.Sublist.countP_le (List.sublist_cons_self b bytes)
        exact hrest.trans hle
      | some found =>
        rcases found with ⟨c, further⟩
        -- The bytes of one sequence and the bytes behind it are counted apart.
        have hfound := two_mul_highBytes_of_sequence hsequence
        have hrest := ih further
        have hsplit : highBytes (b :: bytes)
            = highBytes (b :: bytes.take further) + highBytes (bytes.drop further) := by
          rw [← highBytes_append, List.cons_append, List.take_append_drop]
        rw [toLatin1_cons, highBytes_append]
        omega

/-- ASCII is read byte by byte. -/
theorem toLatin1_convertToUnicode {bytes : QByteArray} (h : ∀ b ∈ bytes, b.toNat < 0x80) :
    toLatin1 (convertToUnicode 0 bytes) = bytes := by
  induction bytes with
  | nil => rfl
  | cons b bytes ih =>
    have hb := h b List.mem_cons_self
    have hsequence : utf8Sequence b bytes = some (Char.ofNat b.toNat, 0) := if_pos hb
    have hchar : toLatin1 [Char.ofNat b.toNat] = [b] := by
      unfold toLatin1
      rw [List.flatMap_singleton, toNat_ofNat (by omega), if_pos (by omega), UInt8.ofNat_toNat]
    rw [convertToUnicode, hsequence]
    rw [toLatin1_cons, hchar, ih fun x hx => h x (List.mem_cons_of_mem b hx),
      List.singleton_append]

/-- Bytes that are read as UTF-8 come back as Latin-1 if and only if they are ASCII. -/
theorem toLatin1_fromUtf8_iff (bytes : QByteArray) :
    toLatin1 (fromUtf8 bytes) = bytes ↔ ∀ b ∈ bytes, b.toNat < 0x80 := by
  constructor
  · intro h
    have hdrop : highBytes (bytes.drop 3) ≤ highBytes bytes :=
      List.Sublist.countP_le (List.drop_sublist 3 bytes)
    have hhalf : 2 * highBytes (toLatin1 (fromUtf8 bytes)) ≤ highBytes bytes := by
      unfold fromUtf8
      split
      · exact (two_mul_highBytes_convertToUnicode _ 0).trans hdrop
      · exact two_mul_highBytes_convertToUnicode _ 0
    rw [h] at hhalf
    have hnone : highBytes bytes = 0 := by omega
    intro b hb
    have hlow := List.countP_eq_zero.mp hnone b hb
    rw [decide_eq_true_eq] at hlow
    exact not_le.mp hlow
  · intro h
    -- A byte order mark is not ASCII.
    have hmark : bytes.take 3 ≠ [0xef, 0xbb, 0xbf] := by
      intro hmark
      have hmem : (0xef : UInt8) ∈ bytes.take 3 := by
        rw [hmark]
        exact List.mem_cons_self
      exact absurd (h 0xef (List.mem_of_mem_take hmem)) (by decide)
    unfold fromUtf8
    rw [if_neg hmark]
    exact toLatin1_convertToUnicode h

end NeoSwift.QString
