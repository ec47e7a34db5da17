import NeoSwift.Qt.Bytes
import NeoSwift.Qt.Text

/-!
# Percent Encoding of UTF-16

`utfToPercentEncoding` and `utfFromPercentEncoding` of `misc/stringutils.cpp`. A unit with a
Latin-1 character that is alphanumeric or allowed stands for itself. Another Latin-1 character
is written with the percent character and two hexadecimal digits, and every other unit with the
percent character, an `x` and four.

The Latin-1 character is a signed `char`, so that one from 80 to FF on is a negative number. It
is written with a minus sign, behind the zero that is meant for numbers of one digit. What is
read back of it is the zero.

Characters are units of 16 bits here. A read beyond the end of the array, which the source
asserts not to happen, is `none`.

## Main definitions

* `utfToPercentEncoding`, `utfFromPercentEncoding`: The two functions.
* `PercentEncoded`: What is expected of the encoding of a string.

## Theorems

* `encodedChar_cases`: What the encoding of a unit can be.
* `decode_encoded`, `decode_of_negative`: What is read back of a unit.
* `eq_of_utfToPercentEncoding_eq`: An encoding that is read back is of one string only.
* `percent_encoded_iff`: Which strings are encoded as expected.
* `accented_letter_is_lost`: One that is not.
-/

namespace NeoSwift

/-- A unit of a string. -/
abbrev QChar := UInt16

namespace QChar

/-- Zero for what is no Latin-1 character. -/
def toLatin1 (c : QChar) : UInt8 := if c.toNat ≤ 255 then UInt8.ofNat c.toNat else 0

/-- From a signed integer, of which the low bits count. -/
def ofInt (n : ℤ) : QChar := UInt16.ofInt n

def ofLatin1 (b : UInt8) : QChar := UInt16.ofNat b.toNat

end QChar

namespace QByteArray

/-- The bytes of a text of Latin-1 characters. -/
def ofText (text : List Char) : QByteArray := text.map fun c => UInt8.ofNat c.toNat

def toText (ba : QByteArray) : List Char := ba.map fun b => Char.ofNat b.toNat

def number (n : ℤ) (base : ℕ) : QByteArray := ofText (Numeral.intText base n)

/-- Digits with `0x` in front of them or without. -/
def readHex : List Char → Option ℕ
  | '0' :: 'x' :: c :: cs => Numeral.readNat 16 (c :: cs)
  | '0' :: 'X' :: c :: cs => Numeral.readNat 16 (c :: cs)
  | cs => Numeral.readNat 16 cs

/-- White space as it is skipped around a number. -/
def isAsciiSpace (c : Char) : Bool := c.toNat = 32 || (9 ≤ c.toNat && c.toNat ≤ 13)

def readSignedHex : List Char → Option ℤ
  | '-' :: cs => (readHex cs).map fun n : ℕ => -(n : ℤ)
  | '+' :: cs => (readHex cs).map fun n : ℕ => (n : ℤ)
  | cs => (readHex cs).map fun n : ℕ => (n : ℤ)

/-- `toInt(nullptr, 16)`. -/
def toInt16 (ba : QByteArray) : ℤ :=
  match readSignedHex (((toText ba).dropWhile isAsciiSpace).rdropWhile isAsciiSpace) with
  | some n => if -2147483648 ≤ n ∧ n ≤ 2147483647 then n else 0
  | none => 0

end QByteArray

namespace Misc

/-- `a` to `z`, `A` to `Z` and `0` to `9`. -/
def isAlphanumeric (latin : UInt8) : Bool :=
  (97 ≤ latin.toNat && latin.toNat ≤ 122) || (65 ≤ latin.toNat && latin.toNat ≤ 90) ||
    (48 ≤ latin.toNat && latin.toNat ≤ 57)

section

variable (allow : QByteArray) (percent : UInt8)

/-- The encoding of a unit. -/
def encodedChar (c : QChar) : QByteArray :=
  let latin := c.toLatin1
  if latin ≠ 0 then
    if isAlphanumeric latin || allow.contains latin then [latin]
    else
      percent :: (if latin.toInt8.toInt < 0x10 then QByteArray.ofText ['0'] else [])
        ++ QByteArray.number latin.toInt8.toInt 16
  else
    percent :: QByteArray.ofText ['x']
      ++ (if c.toNat < 0x10 then QByteArray.ofText ['0'] else [])
      ++ (if c.toNat < 0x100 then QByteArray.ofText ['0'] else [])
      ++ (if c.toNat < 0x1000 then QByteArray.ofText ['0'] else [])
      ++ QByteArray.number c.toNat 16

def utfToPercentEncoding (s : List QChar) : QByteArray := s.flatMap (encodedChar allow percent)

/-- The loop, with the number of bytes that have been read ahead. -/
def decodeLoop : ℕ → QByteArray → Option (List QChar)
  | _, [] => some []
  | ahead + 1, _ :: ba => decodeLoop ahead ba
  | 0, b :: ba =>
    if b = percent then
      match ba with
      | [] => none
      | marker :: rest =>
        if marker = 120 then
          if rest = [] then none
          else (decodeLoop 5 ba).map (QChar.ofInt (QByteArray.toInt16 (rest.take 4)) :: ·)
        else
          (decodeLoop 2 ba).map
            (QChar.ofLatin1 (UInt8.ofInt (QByteArray.toInt16 (ba.take 2))) :: ·)
    else (decodeLoop 0 ba).map (QChar.ofLatin1 b :: ·)

def utfFromPercentEncoding (ba : QByteArray) : Option (List QChar) := decodeLoop percent 0 ba

end

end Misc

/-! ## Hexadecimal digits -/

namespace Numeral

theorem length_natText_of_lt {base n : ℕ} (h : n < base) : (natText base n).length = 1 := by
  rw [natText, Nat.toDigits_of_lt_base h, List.length_singleton]

theorem length_natText_of_le {base n : ℕ} (h2 : 1 < base) (h : base ≤ n) :
    (natText base n).length = (natText base (n / base)).length + 1 := by
  rw [natText, Nat.toDigits_of_base_le h2 h, List.length_append]
  rfl

theorem digitsValue_zeros_natText {base : ℕ} (h2 : 1 < base) (h16 : base ≤ 16) (k n : ℕ) :
    digitsValue base (List.replicate k '0' ++ natText base n) = n := by
  rw [digitsValue_append, digitsValue_replicate_zero, Nat.zero_mul, Nat.zero_add,
    (natText_spec h2 h16 n).2]

end Numeral

namespace QByteArray

/-- Digits of the base 16. -/
def HexDigits (cs : List Char) : Prop := ∀ c ∈ cs, ∃ d < 16, c = Nat.digitChar d

theorem hexDigits_zeros_natText (k n : ℕ) :
    HexDigits (List.replicate k '0' ++ Numeral.natText 16 n) := by
  intro c hc
  rcases List.mem_append.mp hc with hc | hc
  · exact ⟨0, by omega, List.eq_of_mem_replicate hc⟩
  · exact Numeral.mem_natText (by omega) (by omega) hc

theorem digitChar_spec {d : ℕ} (h : d < 16) :
    isAsciiSpace d.digitChar = false ∧ d.digitChar ≠ '-' ∧ d.digitChar ≠ '+' ∧ d.digitChar ≠ 'x'
      ∧ d.digitChar ≠ 'X' ∧ d.digitChar.toNat < 256 ∧ UInt8.ofNat d.digitChar.toNat ≠ 120 := by
  have hall : ∀ d < 16, isAsciiSpace (Nat.digitChar d) = false ∧ Nat.digitChar d ≠ '-'
      ∧ Nat.digitChar d ≠ '+' ∧ Nat.digitChar d ≠ 'x' ∧ Nat.digitChar d ≠ 'X'
      ∧ (Nat.digitChar d).toNat < 256 ∧ UInt8.ofNat (Nat.digitChar d).toNat ≠ 120 := by decide
  exact hall d h

theorem toText_ofText {cs : List Char} (h : ∀ c ∈ cs, c.toNat < 256) : toText (ofText cs) = cs := by
  unfold toText ofText
  rw [List.map_map]
  refine (List.map_congr_left fun c hc => ?_).trans (List.map_id cs)
  rw [Function.comp_apply, UInt8.toNat_ofNat_of_lt' (h c hc), Char.ofNat_toNat]
  rfl

theorem readHex_of_digits {cs : List Char} (h : HexDigits cs) (hne : cs ≠ []) :
    readHex cs = some (Numeral.digitsValue 16 cs) := by
  have hread : Numeral.readNat 16 cs = some (Numeral.digitsValue 16 cs) := by
    refine Numeral.readNat_of_digits hne fun c hc => ?_
    rcases h c hc with ⟨d, hd, rfl⟩
    rw [Numeral.digitValue_digitChar hd]
    exact hd
  unfold readHex
  split
  case h_1 c cs =>
    rcases h 'x' (List.mem_cons_of_mem _ List.mem_cons_self) with ⟨d, hd, heq⟩
    exact absurd heq.symm (digitChar_spec hd).2.2.2.1
  case h_2 c cs =>
    rcases h 'X' (List.mem_cons_of_mem _ List.mem_cons_self) with ⟨d, hd, heq⟩
    exact absurd heq.symm (digitChar_spec hd).2.2.2.2.1
  case h_3 => exact hread

theorem toInt16_of_digits {cs : List Char} (h : HexDigits cs) (hne : cs ≠ [])
    (hlt : Numeral.digitsValue 16 cs < 65536) :
    toInt16 (ofText cs) = Numeral.digitsValue 16 cs := by
  -- Digits are neither blanks nor signs, and Latin-1 has them.
  have hspec : ∀ c ∈ cs, isAsciiSpace c = false ∧ c ≠ '-' ∧ c ≠ '+' ∧ c.toNat < 256 := by
    intro c hc
    rcases h c hc with ⟨d, hd, rfl⟩
    rcases digitChar_spec hd with ⟨hspace, hminus, hplus, _, _, hlt, _⟩
    exact ⟨hspace, hminus, hplus, hlt⟩
  have htrimmed : (cs.dropWhile isAsciiSpace).rdropWhile isAsciiSpace = cs := by
    rw [List.dropWhile_eq_self_iff.mpr fun hl => by
        rw [Bool.not_eq_true]
        exact (hspec _ (List.getElem_mem hl)).1,
      List.rdropWhile_eq_self_iff.mpr fun hl => by
        rw [Bool.not_eq_true]
        exact (hspec _ (List.getLast_mem hl)).1]
  have hbounds : -2147483648 ≤ (Numeral.digitsValue 16 cs : ℤ)
      ∧ (Numeral.digitsValue 16 cs : ℤ) ≤ 2147483647 := by omega
  have hread : readSignedHex cs = some (Numeral.digitsValue 16 cs : ℤ) := by
    unfold readSignedHex
    split
    case h_1 cs => exact absurd rfl (hspec '-' List.mem_cons_self).2.1
    case h_2 cs => exact absurd rfl (hspec '+' List.mem_cons_self).2.2.1
    case h_3 => rw [readHex_of_digits h hne, Option.map_some]
  unfold toInt16
  rw [toText_ofText fun c hc => (hspec c hc).2.2.2, htrimmed, hread]
  exact if_pos hbounds

end QByteArray

namespace Misc

open QByteArray

variable {allow : QByteArray} {percent : UInt8} {c : QChar}

/-! ## The encoding of a unit -/

theorem toInt_toInt8 (b : UInt8) :
    b.toInt8.toInt = if b.toNat < 128 then (b.toNat : ℤ) else b.toNat - 256 := by
  have hbits : b.toInt8.toInt = b.toBitVec.toInt := rfl
  rw [hbits, BitVec.toInt_eq_toNat_cond, UInt8.toNat_toBitVec]
  split <;> split <;> omega

theorem toLatin1_of_le (h : c.toNat ≤ 255) : c.toLatin1.toNat = c.toNat := by
  unfold QChar.toLatin1
  rw [if_pos h, UInt8.toNat_ofNat_of_lt' (Nat.lt_succ_of_le h)]

theorem toLatin1_of_lt (h : 255 < c.toNat) : c.toLatin1 = 0 := if_neg (by omega)

theorem toLatin1_ne_zero_iff : c.toLatin1 ≠ 0 ↔ 0 < c.toNat ∧ c.toNat ≤ 255 := by
  by_cases hle : c.toNat ≤ 255
  · rw [ne_eq, ← UInt8.toNat_inj, toLatin1_of_le hle, UInt8.toNat_zero]
    omega
  · refine iff_of_false (fun hne => hne (toLatin1_of_lt (by omega))) ?_
    omega

theorem encodedChar_plain (hlatin : c.toLatin1 ≠ 0)
    (h : (isAlphanumeric c.toLatin1 || allow.contains c.toLatin1) = true) :
    encodedChar allow percent c = [c.toLatin1] := by
  unfold encodedChar
  rw [if_pos hlatin, if_pos h]

theorem number_negSucc (n : ℕ) : number (Int.negSucc n) 16
    = 45 :: ofText (Numeral.natText 16 (n + 1)) := by
  unfold number Numeral.intText
  rw [if_pos (Int.negSucc_lt_zero n)]
  rfl

theorem ofText_append (cs ds : List Char) : ofText (cs ++ ds) = ofText cs ++ ofText ds :=
  List.map_append

theorem encodedChar_narrow (hpos : 0 < c.toNat) (hlt : c.toNat < 128)
    (h : ¬ (isAlphanumeric c.toLatin1 || allow.contains c.toLatin1) = true) :
    ∃ cs, encodedChar allow percent c = percent :: ofText cs ∧ HexDigits cs ∧ cs.length = 2
      ∧ Numeral.digitsValue 16 cs = c.toNat := by
  have hint : c.toLatin1.toInt8.toInt = c.toNat := by
    rw [toInt_toInt8, toLatin1_of_le (by omega), if_pos hlt]
  refine ⟨List.replicate (if c.toNat < 16 then 1 else 0) '0' ++ Numeral.natText 16 c.toNat, ?_,
    hexDigits_zeros_natText _ _, ?_, Numeral.digitsValue_zeros_natText (by omega) (by omega) _ _⟩
  · unfold encodedChar
    rw [if_pos (toLatin1_ne_zero_iff.mpr ⟨hpos, by omega⟩), if_neg h, hint]
    by_cases hone : c.toNat < 16
    · rw [if_pos hone, if_pos (by omega)]
      rfl
    · rw [if_neg hone, if_neg (by omega)]
      rfl
  · by_cases hone : c.toNat < 16
    · rw [if_pos hone, List.length_append, Numeral.length_natText_of_lt hone]
      rfl
    · rw [if_neg hone, List.length_append, Numeral.length_natText_of_le (by omega) (by omega),
        Numeral.length_natText_of_lt (by omega)]
      rfl

theorem encodedChar_wide (allow : QByteArray) (percent : UInt8) (h : c.toNat = 0 ∨ 255 < c.toNat) :
    ∃ cs, encodedChar allow percent c = percent :: 120 :: ofText cs ∧ HexDigits cs
      ∧ cs.length = 4 ∧ Numeral.digitsValue 16 cs = c.toNat := by
  have hlatin : ¬ c.toLatin1 ≠ 0 := by
    rw [toLatin1_ne_zero_iff]
    omega
  have hbound : c.toNat < 65536 := c.toNat_lt
  refine ⟨List.replicate ((if c.toNat < 0x10 then 1 else 0) + (if c.toNat < 0x100 then 1 else 0)
      + (if c.toNat < 0x1000 then 1 else 0)) '0' ++ Numeral.natText 16 c.toNat, ?_,
    hexDigits_zeros_natText _ _, ?_, Numeral.digitsValue_zeros_natText (by omega) (by omega) _ _⟩
  · unfold encodedChar
    rw [if_neg hlatin, ofText_append, List.replicate_add, List.replicate_add, ofText_append,
      ofText_append]
    have hpad (P : Prop) [Decidable P] : ofText (List.replicate (if P then 1 else 0) '0')
        = if P then ofText ['0'] else [] := by
      split <;> rfl
    rw [hpad, hpad, hpad]
    rfl
  -- A unit is zero or has three digits or four.
  · rw [List.length_append, List.length_replicate]
    rcases h with hzero | hlarge
    · rw [hzero]
      rfl
    · rw [if_neg (by omega), if_neg (by omega),
        Numeral.length_natText_of_le (by omega) (by omega),
        Numeral.length_natText_of_le (by omega) (by omega)]
      by_cases hthree : c.toNat < 0x1000
      · rw [if_pos hthree, Numeral.length_natText_of_lt (by omega)]
      · rw [if_neg hthree, Numeral.length_natText_of_le (by omega) (by omega),
          Numeral.length_natText_of_lt (by omega)]

/-- The sign of a negative character comes behind the zero. -/
theorem encodedChar_negative (hle : 128 ≤ c.toNat) (hlt : c.toNat ≤ 255)
    (h : ¬ (isAlphanumeric c.toLatin1 || allow.contains c.toLatin1) = true) :
    ∃ bs, encodedChar allow percent c = percent :: 48 :: 45 :: bs := by
  have hint : c.toLatin1.toInt8.toInt = Int.negSucc (255 - c.toNat) := by
    rw [toInt_toInt8, toLatin1_of_le hlt]
    omega
  refine ⟨ofText (Numeral.natText 16 (255 - c.toNat + 1)), ?_⟩
  unfold encodedChar
  rw [if_pos (toLatin1_ne_zero_iff.mpr ⟨by omega, hlt⟩), if_neg h, hint, if_pos (by omega),
    number_negSucc]
  rfl

/-! ## What is read back -/

theorem decodeLoop_ahead (percent : UInt8) (ba rest : QByteArray) :
    decodeLoop percent ba.length (ba ++ rest) = decodeLoop percent 0 rest := by
  induction ba with
  | nil => rfl
  | cons b ba ih => exact ih

theorem decode_plain {b : UInt8} (h : b ≠ percent) (rest : QByteArray) :
    decodeLoop percent 0 ([b] ++ rest)
      = (decodeLoop percent 0 rest).map (QChar.ofLatin1 b :: ·) := if_neg h

theorem length_ofText (cs : List Char) : (ofText cs).length = cs.length := List.length_map _

/-- The number that is read from digits behind which the text may go on. -/
theorem toInt16_take_digits {cs : List Char} (hdigits : HexDigits cs) (hne : cs ≠ [])
    (hlt : Numeral.digitsValue 16 cs < 65536) (rest : QByteArray) :
    toInt16 ((ofText cs ++ rest).take cs.length) = Numeral.digitsValue 16 cs := by
  have htake : (ofText cs ++ rest).take cs.length = ofText cs := by
    rw [← length_ofText cs]
    exact List.take_left
  rw [htake, toInt16_of_digits hdigits hne hlt]

theorem decode_narrow {cs : List Char} (hdigits : HexDigits cs) (hlength : cs.length = 2)
    (hlt : Numeral.digitsValue 16 cs < 65536) (rest : QByteArray) :
    decodeLoop percent 0 (percent :: ofText cs ++ rest)
      = (decodeLoop percent 0 rest).map
        (QChar.ofLatin1 (UInt8.ofInt (Numeral.digitsValue 16 cs)) :: ·) := by
  rcases List.length_eq_two.mp hlength with ⟨c, d, rfl⟩
  have hread := toInt16_take_digits hdigits (List.cons_ne_nil _ _) hlt rest
  have hmarker : UInt8.ofNat c.toNat ≠ 120 := by
    rcases hdigits c List.mem_cons_self with ⟨e, he, rfl⟩
    exact (digitChar_spec he).2.2.2.2.2.2
  have hstep : decodeLoop percent 0 (percent :: ofText [c, d] ++ rest)
      = (decodeLoop percent 2 (ofText [c, d] ++ rest)).map
        (QChar.ofLatin1 (UInt8.ofInt (toInt16 ((ofText [c, d] ++ rest).take 2))) :: ·) :=
    (if_pos rfl).trans (if_neg hmarker)
  rw [hstep, ← hread]
  rfl

theorem decode_wide {cs : List Char} (hdigits : HexDigits cs) (hlength : cs.length = 4)
    (hlt : Numeral.digitsValue 16 cs < 65536) (rest : QByteArray) :
    decodeLoop percent 0 (percent :: 120 :: ofText cs ++ rest)
      = (decodeLoop percent 0 rest).map (QChar.ofInt (Numeral.digitsValue 16 cs) :: ·) := by
  have hne : cs ≠ [] := by
    rintro rfl
    cases hlength
  have hread := toInt16_take_digits hdigits hne hlt rest
  have hrest : ofText cs ++ rest ≠ [] := by
    intro h
    refine hne (List.length_eq_zero_iff.mp ?_)
    rw [← length_ofText cs, (List.append_eq_nil_iff.mp h).1, List.length_nil]
  have hskip : decodeLoop percent 5 (120 :: (ofText cs ++ rest)) = decodeLoop percent 0 rest := by
    have hahead := decodeLoop_ahead percent (120 :: ofText cs) rest
    rwa [List.length_cons, length_ofText, hlength] at hahead
  have hstep : decodeLoop percent 0 (percent :: 120 :: ofText cs ++ rest)
      = (decodeLoop percent 5 (120 :: (ofText cs ++ rest))).map
        (QChar.ofInt (toInt16 ((ofText cs ++ rest).take 4)) :: ·) :=
    (if_pos rfl).trans ((if_pos rfl).trans (if_neg hrest))
  rw [hstep, hskip, ← hread, hlength]

/-- The zero in front of a sign is what is read. -/
theorem decode_negative (rest : QByteArray) : decodeLoop percent 0 (percent :: 48 :: 45 :: rest)
    = (decodeLoop percent 0 rest).map ((0 : QChar) :: ·) :=
  (if_pos rfl).trans (if_neg (by decide))

/-! ## The encoding of a string -/

/-- The units that can be read back: not the negative characters, unless they are allowed. -/
def Encodable (allow : QByteArray) (c : QChar) : Prop :=
  c.toNat < 128 ∨ 255 < c.toNat ∨ c.toLatin1 ∈ allow

/-- What is expected of the encoding of a string. -/
structure PercentEncoded (allow : QByteArray) (percent : UInt8) (s : List QChar) : Prop where
  /-- The string is read back. -/
  read_back : utfFromPercentEncoding percent (utfToPercentEncoding allow percent s) = some s
  /-- All bytes can stand in a name. -/
  alphabet : ∀ b ∈ utfToPercentEncoding allow percent s,
    isAlphanumeric b = true ∨ b ∈ allow ∨ b = percent
  /-- No other string has the encoding. -/
  unique : ∀ t, utfToPercentEncoding allow percent t = utfToPercentEncoding allow percent s → t = s

/-- What the encoding of a unit can be. -/
theorem encodedChar_cases (allow : QByteArray) (percent : UInt8) (c : QChar) :
    (c.toLatin1 ≠ 0 ∧ (isAlphanumeric c.toLatin1 || allow.contains c.toLatin1) = true
      ∧ encodedChar allow percent c = [c.toLatin1])
    ∨ (0 < c.toNat ∧ c.toNat < 128 ∧ ∃ cs, encodedChar allow percent c = percent :: ofText cs
      ∧ HexDigits cs ∧ cs.length = 2 ∧ Numeral.digitsValue 16 cs = c.toNat)
    ∨ ((c.toNat = 0 ∨ 255 < c.toNat) ∧ ∃ cs, encodedChar allow percent c
        = percent :: 120 :: ofText cs
      ∧ HexDigits cs ∧ cs.length = 4 ∧ Numeral.digitsValue 16 cs = c.toNat)
    ∨ (¬ Encodable allow c ∧ ∃ bs, encodedChar allow percent c = percent :: 48 :: 45 :: bs) := by
  by_cases hlatin : c.toLatin1 ≠ 0
  · have hbounds := toLatin1_ne_zero_iff.mp hlatin
    by_cases hplain : (isAlphanumeric c.toLatin1 || allow.contains c.toLatin1) = true
    · exact Or.inl ⟨hlatin, hplain, encodedChar_plain hlatin hplain⟩
    · by_cases hlt : c.toNat < 128
      · exact Or.inr (Or.inl ⟨hbounds.1, hlt, encodedChar_narrow hbounds.1 hlt hplain⟩)
      · refine Or.inr (Or.inr (Or.inr ⟨?_, encodedChar_negative (by omega) hbounds.2 hplain⟩))
        rintro (h | h | h)
        · omega
        · omega
        · refine hplain ?_
          rw [List.contains_iff_mem.mpr h, Bool.or_true]
  · have hwide : c.toNat = 0 ∨ 255 < c.toNat := by
      rw [toLatin1_ne_zero_iff] at hlatin
      omega
    exact Or.inr (Or.inr (Or.inl ⟨hwide, encodedChar_wide allow percent hwide⟩))

/-- A byte that stands for itself is not the percent character. -/
theorem ne_percent {b : UInt8} (halnum : isAlphanumeric percent = false) (hallow : percent ∉ allow)
    (h : (isAlphanumeric b || allow.contains b) = true) : b ≠ percent := by
  rintro rfl
  rw [halnum, Bool.false_or, List.contains_iff_mem] at h
  exact hallow h

theorem ofLatin1_toLatin1 (h : c.toLatin1 ≠ 0) : QChar.ofLatin1 c.toLatin1 = c := by
  rw [QChar.ofLatin1, toLatin1_of_le (toLatin1_ne_zero_iff.mp h).2, UInt16.ofNat_toNat]

theorem decode_encoded (halnum : isAlphanumeric percent = false) (hallow : percent ∉ allow)
    (h : Encodable allow c) (rest : QByteArray) :
    decodeLoop percent 0 (encodedChar allow percent c ++ rest)
      = (decodeLoop percent 0 rest).map (c :: ·) := by
  have hbound : c.toNat < 65536 := c.toNat_lt
  rcases encodedChar_cases allow percent c with ⟨hlatin, hplain, heq⟩
    | ⟨_, hlt, cs, heq, hdigits, hlength, hvalue⟩ | ⟨_, cs, heq, hdigits, hlength, hvalue⟩
    | ⟨hnot, _⟩
  · rw [heq, decode_plain (ne_percent halnum hallow hplain), ofLatin1_toLatin1 hlatin]
  · have hunit : QChar.ofLatin1 (UInt8.ofInt (c.toNat : ℤ)) = c := by
      have hmod : ((c.toNat : ℤ) % 2 ^ 8).toNat = c.toNat := by omega
      rw [QChar.ofLatin1, UInt8.ofInt, hmod,
        UInt8.toNat_ofNat_of_lt' (Nat.lt_trans hlt (by decide)),
        UInt16.ofNat_toNat]
    rw [heq, decode_narrow hdigits hlength (by omega), hvalue, hunit]
  · have hunit : QChar.ofInt (c.toNat : ℤ) = c := by
      have hmod : ((c.toNat : ℤ) % 2 ^ 16).toNat = c.toNat := by omega
      rw [QChar.ofInt, UInt16.ofInt, hmod, UInt16.ofNat_toNat]
    rw [heq, decode_wide hdigits hlength (by omega), hvalue, hunit]
  · exact absurd h hnot

theorem encodable_of_plain (hlatin : c.toLatin1 ≠ 0)
    (h : (isAlphanumeric c.toLatin1 || allow.contains c.toLatin1) = true) : Encodable allow c := by
  rw [Bool.or_eq_true, List.contains_iff_mem] at h
  refine h.imp (fun halnum => ?_) Or.inr
  rw [isAlphanumeric, toLatin1_of_le (toLatin1_ne_zero_iff.mp hlatin).2] at halnum
  simp only [Bool.or_eq_true, Bool.and_eq_true, decide_eq_true_eq] at halnum
  omega

/-- The encoding of a unit that cannot be read back begins with that of a number of one digit. -/
theorem encodedChar_of_not (percent : UInt8) (h : ¬ Encodable allow c) :
    ∃ bs, encodedChar allow percent c = percent :: 48 :: 45 :: bs := by
  rcases encodedChar_cases allow percent c with ⟨hlatin, hplain, _⟩ | ⟨_, hlt, _⟩ | ⟨hwide, _⟩
    | ⟨_, hnegative⟩
  · exact absurd (encodable_of_plain hlatin hplain) h
  · exact absurd (Or.inl hlt) h
  · exact absurd (hwide.imp (fun hzero => by omega) Or.inl) h
  · exact hnegative

theorem isAlphanumeric_of_hexDigits {cs : List Char} (h : HexDigits cs) {b : UInt8}
    (hb : b ∈ ofText cs) : isAlphanumeric b = true := by
  have hall : ∀ d < 16, isAlphanumeric (UInt8.ofNat (Nat.digitChar d).toNat) = true := by decide
  rcases List.mem_map.mp hb with ⟨c, hc, rfl⟩
  rcases h c hc with ⟨d, hd, rfl⟩
  exact hall d hd

theorem encodedChar_alphabet (h : Encodable allow c) {b : UInt8}
    (hb : b ∈ encodedChar allow percent c) : isAlphanumeric b = true ∨ b ∈ allow ∨ b = percent := by
  rcases encodedChar_cases allow percent c with ⟨_, hplain, heq⟩ | ⟨_, _, cs, heq, hdigits, _⟩
    | ⟨_, cs, heq, hdigits, _⟩ | ⟨hnot, _⟩
  · rw [heq] at hb
    rw [List.mem_singleton.mp hb]
    rw [Bool.or_eq_true, List.contains_iff_mem] at hplain
    exact hplain.imp_right Or.inl
  · rw [heq] at hb
    rcases List.mem_cons.mp hb with rfl | hb
    · exact Or.inr (Or.inr rfl)
    · exact Or.inl (isAlphanumeric_of_hexDigits hdigits hb)
  · rw [heq] at hb
    rcases List.mem_cons.mp hb with rfl | hb
    · exact Or.inr (Or.inr rfl)
    · rcases List.mem_cons.mp hb with rfl | hb
      · exact Or.inl rfl
      · exact Or.inl (isAlphanumeric_of_hexDigits hdigits hb)
  · exact absurd h hnot

/-- A unit that cannot be read back is read as zero. -/
theorem decode_of_negative (percent : UInt8) (h : ¬ Encodable allow c) :
    ∃ bs, ∀ rest, decodeLoop percent 0 (encodedChar allow percent c ++ rest)
      = (decodeLoop percent 0 (bs ++ rest)).map ((0 : QChar) :: ·) := by
  rcases encodedChar_of_not percent h with ⟨bs, heq⟩
  refine ⟨bs, fun rest => ?_⟩
  rw [heq]
  exact decode_negative (bs ++ rest)

theorem utfToPercentEncoding_cons (c : QChar) (s : List QChar) :
    utfToPercentEncoding allow percent (c :: s)
      = encodedChar allow percent c ++ utfToPercentEncoding allow percent s := rfl

/-- A string of which the encoding is read back has none of the negative characters. -/
theorem encodable_of_read_back (halnum : isAlphanumeric percent = false) (hallow : percent ∉ allow)
    {s : List QChar}
    (h : utfFromPercentEncoding percent (utfToPercentEncoding allow percent s) = some s) :
    ∀ c ∈ s, Encodable allow c := by
  induction s with
  | nil => exact nofun
  | cons c s ih =>
    rw [utfFromPercentEncoding, utfToPercentEncoding_cons] at h
    by_cases hc : Encodable allow c
    · rw [decode_encoded halnum hallow hc] at h
      rcases Option.map_eq_some_iff.mp h with ⟨s', hs', heq⟩
      rw [(List.cons.inj heq).2] at hs'
      exact List.forall_mem_cons.mpr ⟨hc, ih hs'⟩
    · rcases decode_of_negative percent hc with ⟨bs, hbs⟩
      rw [hbs] at h
      rcases Option.map_eq_some_iff.mp h with ⟨_, _, heq⟩
      rw [← (List.cons.inj heq).1] at hc
      exact absurd (Or.inl (by decide)) hc

theorem read_back_of_encodable (halnum : isAlphanumeric percent = false) (hallow : percent ∉ allow)
    {s : List QChar} (h : ∀ c ∈ s, Encodable allow c) :
    utfFromPercentEncoding percent (utfToPercentEncoding allow percent s) = some s := by
  induction s with
  | nil => rfl
  | cons c s ih =>
    rcases List.forall_mem_cons.mp h with ⟨hc, hs⟩
    rw [utfFromPercentEncoding, utfToPercentEncoding_cons, decode_encoded halnum hallow hc]
    exact congrArg (Option.map (c :: ·)) (ih hs)

/-- The encoding of a string that can be read back is not that of another string. -/
theorem eq_of_utfToPercentEncoding_eq (halnum : isAlphanumeric percent = false)
    (hallow : percent ∉ allow) {t : List QChar} : ∀ {s : List QChar}, (∀ c ∈ s, Encodable allow c) →
    utfToPercentEncoding allow percent t = utfToPercentEncoding allow percent s → t = s := by
  induction t with
  | nil =>
    intro s hs heq
    have hread := read_back_of_encodable halnum hallow hs
    rw [← heq] at hread
    exact Option.some.inj hread
  | cons c t ih =>
    intro s hs heq
    have hread := read_back_of_encodable halnum hallow hs
    rw [← heq, utfFromPercentEncoding, utfToPercentEncoding_cons] at hread
    by_cases hc : Encodable allow c
    · rw [decode_encoded halnum hallow hc] at hread
      rcases Option.map_eq_some_iff.mp hread with ⟨s', -, rfl⟩
      rw [ih (List.forall_mem_cons.mp hs).2 (List.append_cancel_left heq)]
    -- A zero is read, of which the encoding is another one.
    · rcases decode_of_negative percent hc with ⟨bs, hbs⟩
      rw [hbs] at hread
      rcases Option.map_eq_some_iff.mp hread with ⟨s', -, rfl⟩
      have hwide : (0 : QChar).toNat = 0 ∨ 255 < (0 : QChar).toNat := Or.inl rfl
      rcases encodedChar_wide allow percent hwide with ⟨cs, hzero, -⟩
      rcases encodedChar_of_not percent hc with ⟨ds, hnegative⟩
      rw [utfToPercentEncoding_cons, hnegative] at heq
      have hmarker := (List.cons.inj (List.cons.inj heq).2).1
      cases hmarker

/-- A string is encoded as expected if and only if it has no characters from 80 to FF, apart from
    the allowed ones. -/
theorem percent_encoded_iff (halnum : isAlphanumeric percent = false) (hallow : percent ∉ allow)
    (s : List QChar) : PercentEncoded allow percent s
      ↔ ∀ c ∈ s, c.toNat < 128 ∨ 255 < c.toNat ∨ c.toLatin1 ∈ allow := by
  refine ⟨fun h => encodable_of_read_back halnum hallow h.read_back, fun h => ⟨?_, ?_, ?_⟩⟩
  · exact read_back_of_encodable halnum hallow h
  · intro b hb
    rcases List.mem_flatMap.mp hb with ⟨c, hc, hbc⟩
    exact encodedChar_alphabet (h c hc) hbc
  · exact fun t heq => eq_of_utfToPercentEncoding_eq halnum hallow h heq

/-- The path of an object, with a Greek letter in it. -/
theorem percent_encoded_sample : PercentEncoded (ofText ['/']) 95 [0x2F, 0x61, 0x20, 0x3B1] :=
  (percent_encoded_iff (by decide) (by decide) _).mpr <|
    List.forall_mem_cons.mpr ⟨by decide, List.forall_mem_cons.mpr ⟨by decide,
      List.forall_mem_cons.mpr ⟨by decide, List.forall_mem_singleton.mpr (by decide)⟩⟩⟩

/-- An accented letter is read back as three other characters, and has the encoding of another
    one with a digit behind it. -/
theorem accented_letter_is_lost :
    utfToPercentEncoding [] 37 [0xE9] = ofText ['%', '0', '-', '1', '7']
      ∧ utfFromPercentEncoding 37 (utfToPercentEncoding [] 37 [0xE9]) = some [0, 0x31, 0x37]
      ∧ utfToPercentEncoding [] 37 [0xE9] = utfToPercentEncoding [] 37 [0xFF, 0x37]
      ∧ ¬ ∀ (allow : QByteArray) (percent : UInt8) (s : List QChar),
        isAlphanumeric percent = false → percent ∉ allow → PercentEncoded allow percent s := by
  have hread : utfFromPercentEncoding 37 (utfToPercentEncoding [] 37 [0xE9])
      = some [0, 0x31, 0x37] := by rfl
  refine ⟨by rfl, hread, by rfl, fun h => ?_⟩
  have hback := (h [] 37 [0xE9] (by rfl) List.not_mem_nil).read_back
  cases hback

end Misc

end NeoSwift
