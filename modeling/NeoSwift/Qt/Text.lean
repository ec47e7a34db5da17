import Mathlib.Data.List.DropRight
import Mathlib.Data.List.Infix
import NeoSwift.Lib.Numeral

/-!
# Text

`QString` as a list of characters, with the operations the program uses.
Trimming removes white space at both ends; splitting at a separator and joining
with it are inverse on fields that do not contain it. Numbers are read as Qt
reads them: blanks around the number are ignored, and what is no number of the
type is zero.

## Main definitions

* `QString.trimmed`, `QString.split`, `QString.join`: Fields of a line.
* `QString.contains`, `QString.remove`: Parts of a text.
* `QString.number`, `QString.numberFixed`: Numbers as text.
* `QString.toInt`, `QString.toDouble` and friends: Numbers from text.

## Theorems

* `trimmed_of_edges`: A text without outer blanks is left alone.
* `split_join`: Fields come back from their line.
* `toInt_number`, `toDouble_numberFixed`: Numbers come back from their text.
-/

namespace NeoSwift

/-- A text. -/
abbrev QString := List Char

/-- A literal of the source stands for its characters. -/
instance : Coe String QString := ⟨String.toList⟩

/-- A list of texts. -/
abbrev QStringList := List QString

/-- Rounding to the nearest integer, halves away from zero. -/
def qRound (x : ℚ) : ℤ := if 0 ≤ x then ⌊x + 1 / 2⌋ else -⌊-x + 1 / 2⌋

/-- How `Qt::CaseInsensitive` compares characters. What is outside of ASCII is the concern of the
    Unicode database. -/
structure CaseFolding where
  fold : Char → Char
  ascii_law : ∀ c, c.toNat < 128 → fold c = c.toLower

namespace CaseFolding

instance : Coe CaseFolding (Char → Char) := ⟨fold⟩

/-- A database without anything else. -/
def ascii : CaseFolding := ⟨Char.toLower, fun _ _ => rfl⟩

theorem map_of_ascii (foldCase : CaseFolding) {s : QString} (h : ∀ c ∈ s, c.toNat < 128) :
    s.map foldCase.fold = s.map Char.toLower :=
  List.map_congr_left fun c hc => foldCase.ascii_law c (h c hc)

end CaseFolding

namespace QString

/-- The bytes of a text in UTF-8. -/
def toStdString (s : QString) : List UInt8 :=
  s.flatMap String.utf8EncodeChar

/-- `QChar::isSpace`. -/
def isSpace (c : Char) : Bool :=
  let n := c.toNat
  n == 0x20 || (0x09 ≤ n && n ≤ 0x0d) || n == 0x85 || n == 0xa0 || n == 0x1680
    || (0x2000 ≤ n && n ≤ 0x200a) || n == 0x2028 || n == 0x2029 || n == 0x202f || n == 0x205f
    || n == 0x3000

/-- The length of a text in UTF-16 code units. -/
def size (s : QString) : ℕ :=
  (s.map (fun c => if c.toNat < 0x10000 then 1 else 2)).sum

/-- Without white space at both ends. -/
def trimmed (s : QString) : QString :=
  (s.dropWhile isSpace).rdropWhile isSpace

/-- The parts between separators, empty ones too. -/
def split (s : QString) (sep : Char) : QStringList := s.splitOn sep

/-- `QStringList::join`. -/
def join (fields : QStringList) (sep : QString) : QString := sep.intercalate fields

def startsWith (s pre : QString) : Bool := pre.isPrefixOf s

def contains (s part : QString) : Bool := s.tails.any (fun t => part.isPrefixOf t)

/-- `Qt::CaseInsensitive`, where letters other than those of ASCII have no case. -/
def containsCaseless (s part : QString) : Bool :=
  contains (s.map Char.toLower) (part.map Char.toLower)

/-- Where a part starts, its length is left out. Characters are compared by `key`. -/
def removeFrom (key : Char → Char) (part : QString) : ℕ → QString → QString
  | _, [] => []
  | skip + 1, _ :: s => removeFrom key part skip s
  | 0, c :: s =>
      if (part.map key).isPrefixOf ((c :: s).map key) then
        removeFrom key part (part.length - 1) s
      else c :: removeFrom key part 0 s

/-- `replace(part, "")`. -/
def remove (s part : QString) : QString := if part = [] then s else removeFrom id part 0 s

/-- Without each place of the part, upper case or lower case. -/
def removeCaseless (s part : QString) : QString :=
  if part = [] then s else removeFrom Char.toLower part 0 s

/-- `QString::right`. -/
def right (s : QString) (n : ℕ) : QString := s.drop (s.length - n)

/-- Trimmed, and with one blank for each run of white space inside. -/
def simplified (s : QString) : QString :=
  [' '].intercalate ((s.splitOnP isSpace).filter (fun word => word != []))

/-- The number `n` in a base. -/
def numberBase (n : ℤ) (base : ℕ) : QString := Numeral.intText base n

def number (n : ℤ) : QString := numberBase n 10

/-- `QString::number(x, 'f', p)`. -/
def numberFixed (x : ℚ) (p : ℕ) : QString := Numeral.fixedText p x

/-- `arg(n, width, 10, '0')`: zeros between the sign and the digits. -/
def numberPadded (n : ℤ) (width : ℕ) : QString :=
  if n < 0 then '-' :: (Numeral.natText 10 n.natAbs).leftpad (width - 1) '0'
  else (Numeral.natText 10 n.natAbs).leftpad width '0'

/-- An integer between two bounds, zero if the text is none. -/
def toIntegral (lo hi : ℤ) (base : ℕ) (s : QString) : ℤ :=
  match Numeral.readInt base s.trimmed with
  | some n => if lo ≤ n ∧ n ≤ hi then n else 0
  | none => 0

/-- 0 unless the text is a number in range. -/
def toInt (s : QString) : Int32 :=
  Int32.ofInt (s.toIntegral (-2147483648) 2147483647 10)

/-- `toInt(&ok)`, `none` where `ok` is false. -/
def toInt? (s : QString) : Option Int32 :=
  match Numeral.readInt 10 s.trimmed with
  | some n => if -2147483648 ≤ n ∧ n ≤ 2147483647 then some (Int32.ofInt n) else none
  | none => none

/-- 0 unless the text is a number in range. -/
def toUInt (s : QString) : UInt32 :=
  UInt32.ofNat (s.toIntegral 0 4294967295 10).toNat

/-- 0 unless the text is a number in range. -/
def toLongLong (s : QString) : Int64 :=
  Int64.ofInt (s.toIntegral (-9223372036854775808) 9223372036854775807 10)

/-- 0 unless the text is a number in range. -/
def toULongLong (s : QString) : UInt64 :=
  UInt64.ofNat (s.toIntegral 0 18446744073709551615 10).toNat

/-- `QString::toUShort(nullptr, 16)`: the base allows a `0x` in front. -/
def toUShort16 (s : QString) : UInt16 :=
  let digits := match s.trimmed with
    | '0' :: 'x' :: rest => rest
    | '0' :: 'X' :: rest => rest
    | rest => rest
  UInt16.ofNat (QString.toIntegral 0 65535 16 digits).toNat

/-- `QString::toDouble(&ok)`, `none` where `ok` is false. Numbers are exact;
    `inf` and `nan` are not numbers here. -/
def toDouble? (s : QString) : Option ℚ := Numeral.readRat s.trimmed

/-- 0 unless the text is a number. -/
def toDouble (s : QString) : ℚ := s.toDouble?.getD 0

/-- The end of a text is not a blank where a test says so. -/
theorem notSpace_of_all {c? : Option Char} (h : c?.all (fun c => !isSpace c) = true) :
    ∀ c ∈ c?, isSpace c = false := by
  intro c hc
  rw [Option.mem_def.mp hc, Option.all_some] at h
  simpa only [Bool.not_eq_true'] using h

/-- A text that neither starts nor ends with a blank is left alone. -/
theorem trimmed_of_edges {s : QString} (hhead : ∀ c ∈ s.head?, isSpace c = false)
    (hlast : ∀ c ∈ s.getLast?, isSpace c = false) : s.trimmed = s := by
  have hdrop : s.dropWhile isSpace = s := by
    cases s with
    | nil => rfl
    | cons c s =>
        have hc := hhead c rfl
        rw [List.dropWhile_cons, hc]
        simp
  rw [trimmed, hdrop, List.rdropWhile_eq_self_iff]
  intro hne
  have hc := hlast (s.getLast hne) (List.getLast?_eq_some_getLast hne)
  simp [hc]

/-- Blanks after a text are removed. -/
theorem trimmed_append_spaces {s blanks : QString} (hne : s ≠ [])
    (hhead : ∀ c ∈ s.head?, isSpace c = false) (hlast : ∀ c ∈ s.getLast?, isSpace c = false)
    (hblanks : ∀ c ∈ blanks, isSpace c = true) : trimmed (s ++ blanks) = s := by
  -- There is nothing to cut at the start.
  have hdrop : (s ++ blanks).dropWhile isSpace = s ++ blanks := by
    cases s with
    | nil => exact absurd rfl hne
    | cons c s =>
        have hc := hhead c rfl
        rw [List.cons_append, List.dropWhile_cons, hc]
        simp
  have htrim := trimmed_of_edges hhead hlast
  rw [trimmed] at htrim ⊢
  rw [hdrop]
  -- By induction on the blanks from the last one, which is what is cut first.
  induction blanks using List.reverseRecOn with
  | nil =>
      rw [List.append_nil]
      rw [List.rdropWhile_eq_self_iff]
      intro hs
      have hc := hlast (s.getLast hs) (List.getLast?_eq_some_getLast hs)
      simp [hc]
  | append_singleton blanks c ih =>
      have hc : isSpace c = true := hblanks c (by simp)
      have hrest : ∀ c ∈ blanks, isSpace c = true := fun d hd =>
        hblanks d (List.mem_append_left _ hd)
      have hdrop' : (s ++ blanks).dropWhile isSpace = s ++ blanks := by
        cases s with
        | nil => exact absurd rfl hne
        | cons d s =>
            have hd := hhead d rfl
            rw [List.cons_append, List.dropWhile_cons, hd]
            simp
      rw [← List.append_assoc, List.rdropWhile_concat_pos _ _ _ hc]
      exact ih hrest hdrop'

/-- Fields without the separator come back from the line they are joined to. -/
theorem split_join {fields : QStringList} {sep : Char} (hne : fields ≠ [])
    (h : ∀ f ∈ fields, sep ∉ f) : split (join fields [sep]) sep = fields :=
  List.splitOn_intercalate sep h hne

/-- A character of a joined list is one of an element or of the separator. -/
theorem mem_join {c : Char} {fields : QStringList} {sep : QString}
    (hc : c ∈ join fields sep) : c ∈ sep ∨ ∃ field ∈ fields, c ∈ field := by
  unfold join at hc
  induction fields with
  | nil => cases hc
  | cons field fields ih =>
      cases fields with
      | nil =>
          rw [List.intercalate_singleton] at hc
          exact Or.inr ⟨field, List.mem_singleton.mpr rfl, hc⟩
      | cons next fields =>
          rw [List.intercalate_cons_cons, List.mem_append, List.mem_append] at hc
          rcases hc with (hfield | hsep) | hrest
          · exact Or.inr ⟨field, List.mem_cons_self, hfield⟩
          · exact Or.inl hsep
          · rcases ih hrest with hsep | ⟨other, hother, hmem⟩
            · exact Or.inl hsep
            · exact Or.inr ⟨other, List.mem_cons_of_mem _ hother, hmem⟩

/-- The first field of a line. -/
theorem split_append_cons {field : QString} {sep : Char} (h : sep ∉ field) (rest : QString) :
    split (field ++ sep :: rest) sep = field :: split rest sep := by
  unfold split
  refine List.splitOnP_append_cons_of_forall_mem (p := (· == sep)) (fun c hc => ?_) sep
    (beq_self_eq_true sep) rest
  rw [beq_eq_false_iff_ne]
  rintro rfl
  exact h hc

/-- Blanks are removed from the last part of a text, if it does not consist of
    them. -/
theorem trimmed_append {s t : QString} (hne : s ≠ []) (hhead : ∀ c ∈ s.head?, isSpace c = false)
    (ht : t.rdropWhile isSpace ≠ []) : trimmed (s ++ t) = s ++ t.rdropWhile isSpace := by
  have hdrop : (s ++ t).dropWhile isSpace = s ++ t := by
    cases s with
    | nil => exact absurd rfl hne
    | cons c s =>
        have hc := hhead c rfl
        rw [List.cons_append, List.dropWhile_cons, hc]
        rfl
  have hempty : (t.reverse.dropWhile isSpace).isEmpty = false := by
    rw [List.isEmpty_eq_false_iff]
    intro h
    exact ht (by rw [List.rdropWhile, h]; rfl)
  rw [trimmed, hdrop, List.rdropWhile, List.reverse_append, List.dropWhile_append, hempty,
    if_neg Bool.false_ne_true, List.reverse_append, List.reverse_reverse, List.rdropWhile]

/-- A digit is not a blank. -/
theorem isSpace_digitChar {d : ℕ} (h : d < 16) : isSpace d.digitChar = false := by
  have hall : ∀ d < 16, isSpace (Nat.digitChar d) = false := by decide
  exact hall d h

theorem isSpace_of_mem_numberBase {base : ℕ} (h2 : 1 < base) (h16 : base ≤ 16) {n : ℤ} {c : Char}
    (hc : c ∈ numberBase n base) : isSpace c = false := by
  rcases Numeral.mem_intText h2 h16 hc with rfl | ⟨d, hd, rfl⟩
  · decide
  · exact isSpace_digitChar hd

theorem isSpace_of_mem_numberFixed {x : ℚ} {p : ℕ} {c : Char} (hc : c ∈ numberFixed x p) :
    isSpace c = false := by
  rcases Numeral.mem_fixedText hc with rfl | rfl | ⟨d, hd, rfl⟩
  · decide
  · decide
  · exact isSpace_digitChar (by omega)

/-- A text without blanks is left alone. -/
theorem trimmed_of_no_space {s : QString} (h : ∀ c ∈ s, isSpace c = false) : s.trimmed = s :=
  trimmed_of_edges (fun c hc => h c (List.mem_of_mem_head? hc))
    (fun c hc => h c (List.mem_of_getLast? hc))

/-- So is one that is simplified. -/
theorem simplified_of_no_space {s : QString} (h : ∀ c ∈ s, isSpace c = false) :
    s.simplified = s := by
  rw [simplified, List.splitOnP_eq_singleton h]
  cases s with
  | nil => rfl
  | cons c s => rw [List.filter_cons_of_pos rfl, List.filter_nil, List.intercalate_singleton]

/-- Blanks at the end make no difference. -/
theorem simplified_append_spaces {s blanks : QString} (h : ∀ c ∈ blanks, isSpace c = true) :
    (s ++ blanks).simplified = s.simplified := by
  have hblanks : (blanks.splitOnP isSpace).filter (fun word => word != []) = [] := by
    induction blanks with
    | nil => rfl
    | cons c blanks ih =>
      rw [List.splitOnP_cons_eq_if_modifyHead, if_pos (h c List.mem_cons_self)]
      exact ih fun d hd => h d (List.mem_cons_of_mem c hd)
  cases blanks with
  | nil => rw [List.append_nil]
  | cons c blanks =>
    rw [List.splitOnP_cons_eq_if_modifyHead, if_pos (h c List.mem_cons_self),
      List.filter_cons_of_neg (by decide)] at hblanks
    rw [simplified, List.splitOnP_append_cons _ _ (h c List.mem_cons_self), List.filter_append,
      hblanks, List.append_nil]
    rfl

theorem simplified_cons_space {c : Char} (h : isSpace c = true) (s : QString) :
    simplified (c :: s) = s.simplified := by
  rw [simplified, List.splitOnP_cons_eq_if_modifyHead, if_pos h]
  rfl

/-- A number within the bounds is read back. -/
theorem toIntegral_numberBase {lo hi n : ℤ} {base : ℕ} (h2 : 1 < base) (h16 : base ≤ 16)
    (hlo : lo ≤ n) (hhi : n ≤ hi) : toIntegral lo hi base (numberBase n base) = n := by
  rw [toIntegral, trimmed_of_no_space (fun c hc => isSpace_of_mem_numberBase h2 h16 hc),
    numberBase, Numeral.readInt_intText h2 h16]
  exact if_pos ⟨hlo, hhi⟩

@[simp] theorem toInt_number (n : Int32) : (number n.toInt).toInt = n := by
  have hlo := n.le_toInt
  have hhi := n.toInt_lt
  rw [toInt, number, toIntegral_numberBase (by omega) (by omega) (by omega) (by omega),
    Int32.ofInt_toInt]

/-- A row of digits is read as the number it stands for. -/
theorem toInt?_digits {digits : QString} {n : ℕ} (hread : Numeral.readNat 10 digits = some n)
    (hdigits : ∀ c ∈ digits, ∃ d < 10, c = Nat.digitChar d) (hn : n ≤ 2147483647) :
    digits.toInt? = some (Int32.ofInt n) := by
  have htrim : digits.trimmed = digits := by
    refine trimmed_of_no_space (fun c hc => ?_)
    rcases hdigits c hc with ⟨d, hd, rfl⟩
    exact isSpace_digitChar (by omega)
  have hhead : ∀ c ∈ digits.head?, c ≠ '-' ∧ c ≠ '+' := by
    intro c hc
    rcases hdigits c (List.mem_of_mem_head? hc) with ⟨d, hd, rfl⟩
    exact ⟨(Numeral.digitChar_ne_sign (by omega)).1, (Numeral.digitChar_ne_sign (by omega)).2.1⟩
  have hbounds : (-2147483648 : ℤ) ≤ n ∧ (n : ℤ) ≤ 2147483647 := ⟨by omega, by omega⟩
  rw [toInt?, htrim, Numeral.readInt_of_head hhead, hread]
  exact if_pos hbounds

/-- A text without a character of the part does not contain it. -/
theorem contains_eq_false {s part : QString} {c : Char} (hc : c ∈ part) (hs : c ∉ s) :
    s.contains part = false := by
  rw [contains, List.any_eq_false]
  intro t ht hfront
  have hmem : c ∈ t := (List.isPrefixOf_iff_prefix.mp hfront).subset hc
  exact hs (((List.mem_tails t s).mp ht).subset hmem)

theorem containsCaseless_eq_false {s part : QString} {c : Char} (hc : c ∈ part.map Char.toLower)
    (hs : ∀ d ∈ s, d.toLower ≠ c) : s.containsCaseless part = false := by
  refine contains_eq_false hc (fun hmem => ?_)
  rcases List.mem_map.mp hmem with ⟨d, hd, hdc⟩
  exact hs d hd hdc

/-- A part at the end is removed, if nothing in front has its first character. -/
theorem remove_append {s : QString} {c : Char} (part : QString) (h : c ∉ s) :
    remove (s ++ c :: part) (c :: part) = s := by
  have hskip : ∀ t : QString, removeFrom id (c :: part) t.length t = [] := by
    intro t
    induction t with
    | nil => rfl
    | cons d t ih => exact ih
  rw [remove, if_neg (List.cons_ne_nil c part)]
  induction s with
  | nil =>
      rw [List.nil_append, removeFrom, if_pos (List.isPrefixOf_iff_prefix.mpr List.prefix_rfl)]
      exact hskip part
  | cons d s ih =>
      rw [List.mem_cons, not_or] at h
      rw [List.cons_append, removeFrom, if_neg, ih h.2]
      simp only [List.map_cons, List.isPrefixOf_cons_cons, Bool.and_eq_true, beq_iff_eq]
      exact fun hfront => h.1 hfront.1

@[simp] theorem toUInt_number (n : UInt32) : (number n.toNat).toUInt = n := by
  have hhi := n.toNat_lt
  rw [toUInt, number, toIntegral_numberBase (by omega) (by omega) (by omega) (by omega),
    Int.toNat_natCast, UInt32.ofNat_toNat]

@[simp] theorem toULongLong_number (n : UInt64) : (number n.toNat).toULongLong = n := by
  have hhi := n.toNat_lt
  rw [toULongLong, number, toIntegral_numberBase (by omega) (by omega) (by omega) (by omega),
    Int.toNat_natCast, UInt64.ofNat_toNat]

@[simp] theorem toUShort16_numberBase (n : UInt16) : (numberBase n.toNat 16).toUShort16 = n := by
  have hhi := n.toNat_lt
  have htrim : (numberBase (n.toNat : ℤ) 16).trimmed = numberBase n.toNat 16 :=
    trimmed_of_no_space (fun c hc => isSpace_of_mem_numberBase (by omega) (by omega) hc)
  have hx : ∀ c ∈ numberBase (n.toNat : ℤ) 16, c ≠ 'x' ∧ c ≠ 'X' := by
    have hall : ∀ d < 16, Nat.digitChar d ≠ 'x' ∧ Nat.digitChar d ≠ 'X' := by decide
    intro c hc
    rcases Numeral.mem_intText (by omega) (by omega) hc with rfl | ⟨d, hd, rfl⟩
    · decide
    · exact hall d hd
  -- No digit is an `x`, so the text does not begin like a literal.
  have hplain : (match numberBase (n.toNat : ℤ) 16 with
      | '0' :: 'x' :: rest => rest
      | '0' :: 'X' :: rest => rest
      | rest => rest) = numberBase n.toNat 16 := by
    split
    · rename_i heq
      exact absurd rfl (hx 'x' (by rw [heq]; simp)).1
    · rename_i heq
      exact absurd rfl (hx 'X' (by rw [heq]; simp)).2
    · rfl
  simp only [toUShort16, htrim, hplain]
  rw [toIntegral_numberBase (by omega) (by omega) (by omega) (by omega), Int.toNat_natCast,
    UInt16.ofNat_toNat]

theorem toDouble_numberFixed {x : ℚ} {p : ℕ} (hp : p ≠ 0) (h : Numeral.OnGrid p x) :
    (numberFixed x p).toDouble = x := by
  rw [toDouble, toDouble?, trimmed_of_no_space (fun c hc => isSpace_of_mem_numberFixed hc),
    numberFixed, Numeral.readRat_fixedText hp h, Option.getD_some]

/-- A whole number is read back as a real one. -/
theorem toDouble?_number (n : ℤ) : (number n).toDouble? = some (n : ℚ) := by
  have htrim : (number n).trimmed = number n := trimmed_of_no_space
    (fun c hc => isSpace_of_mem_numberBase (by omega) (by omega) hc)
  rw [toDouble?, htrim, number, numberBase, Numeral.readRat_intText]

theorem toDouble_number (n : ℤ) : (number n).toDouble = n := by
  rw [toDouble, toDouble?_number, Option.getD_some]

theorem toDouble?_digits {digits : QString} {n : ℕ} (hread : Numeral.readNat 10 digits = some n)
    (hdigits : ∀ c ∈ digits, ∃ d < 10, c = Nat.digitChar d) : digits.toDouble? = some (n : ℚ) := by
  have htrim : digits.trimmed = digits := by
    refine trimmed_of_no_space (fun c hc => ?_)
    rcases hdigits c hc with ⟨d, hd, rfl⟩
    exact isSpace_digitChar (by omega)
  have hhead : ∀ c ∈ digits.head?, c ≠ '-' ∧ c ≠ '+' := by
    intro c hc
    rcases hdigits c (List.mem_of_mem_head? hc) with ⟨d, hd, rfl⟩
    exact ⟨(Numeral.digitChar_ne_sign (by omega)).1, (Numeral.digitChar_ne_sign (by omega)).2.1⟩
  rw [toDouble?, htrim, Numeral.readRat_of_head hhead,
    Numeral.readUnsignedRat_of_readNat hdigits hread]

/-- A number has no separator in it. -/
theorem colon_notMem_numberBase {base : ℕ} (h2 : 1 < base) (h16 : base ≤ 16) (n : ℤ) :
    ':' ∉ numberBase n base := by
  intro hc
  rcases Numeral.mem_intText h2 h16 hc with h | ⟨d, hd, h⟩
  · cases h
  · exact (Numeral.digitChar_ne_sign hd).2.2.2 h.symm

@[simp] theorem colon_notMem_number (n : ℤ) : ':' ∉ number n :=
  colon_notMem_numberBase (by omega) (by omega) n

@[simp] theorem colon_notMem_numberFixed (x : ℚ) (p : ℕ) : ':' ∉ numberFixed x p := by
  intro hc
  rcases Numeral.mem_fixedText hc with h | h | ⟨d, hd, h⟩
  · cases h
  · cases h
  · exact (Numeral.digitChar_ne_sign (by omega)).2.2.2 h.symm

end QString

end NeoSwift
