import Mathlib.Algebra.Order.Field.Rat
import Mathlib.Data.List.Induction
import Mathlib.Data.List.TakeWhile
import Mathlib.Data.Rat.Floor
import Mathlib.Algebra.Order.Round
import Mathlib.Tactic.Common
import Mathlib.Tactic.Ring
import Mathlib.Tactic.FieldSimp
import Mathlib.Tactic.Linarith

/-!
# Numerals

Numbers as text: natural numbers in a base up to sixteen, signed integers, and
rationals with a fixed number of decimals. Each form has a reader, and what was
written is read back: an integer always, a rational when it has no more
decimals than are written.

## Main definitions

* `digitValue`: The value of a digit.
* `natText`, `intText`, `fixedText`: The written forms.
* `readNat`, `readInt`, `readRat`: Their readers.
* `OnGrid`: A rational with a given number of decimals.

## Theorems

* `readNat_natText`, `readInt_intText`: Integers are read back.
* `readNat_leftpad`: Natural numbers are read back behind zeros.
* `readRat_fixedText`: So are rationals on the grid.
* `readRat_intText`: An integer is read as a rational, too.
* `mem_natText`, `mem_intText`, `mem_fixedText`: The characters of a numeral.
-/

namespace NeoSwift.Numeral

/-- The value of a digit, and a value no base has for other characters. -/
def digitValue (c : Char) : ℕ :=
  if 48 ≤ c.toNat ∧ c.toNat ≤ 57 then c.toNat - 48
  else if 97 ≤ c.toNat ∧ c.toNat ≤ 122 then c.toNat - 87
  else if 65 ≤ c.toNat ∧ c.toNat ≤ 90 then c.toNat - 55
  else 36

/-- The number a row of digits stands for. -/
def digitsValue (base : ℕ) (cs : List Char) : ℕ :=
  cs.foldl (fun acc c => acc * base + digitValue c) 0

/-- The digits of a number. -/
def natText (base n : ℕ) : List Char := Nat.toDigits base n

/-- A number from its digits, if there are any and all are digits. -/
def readNat (base : ℕ) (cs : List Char) : Option ℕ :=
  if cs ≠ [] ∧ cs.all (fun c => digitValue c < base) then some (digitsValue base cs) else none

/-- An integer with a sign if it is negative. -/
def intText (base : ℕ) (n : ℤ) : List Char :=
  if n < 0 then '-' :: natText base n.natAbs else natText base n.natAbs

/-- An integer with an optional sign. -/
def readInt (base : ℕ) : List Char → Option ℤ
  | '-' :: cs => (readNat base cs).map (fun n : ℕ => -(n : ℤ))
  | '+' :: cs => (readNat base cs).map (fun n : ℕ => (n : ℤ))
  | cs => (readNat base cs).map (fun n : ℕ => (n : ℤ))

/-- The last `p` digits of a number. -/
def lastDigits : ℕ → ℕ → List Char
  | 0, _ => []
  | p + 1, n => lastDigits p (n / 10) ++ [(n % 10).digitChar]

/-- A non-negative rational rounded to the nearest number, a half upwards. -/
def roundHalfUp (x : ℚ) : ℕ := ⌊x + 1 / 2⌋.toNat

/-- A rational with `p` decimals. A negative number keeps its sign when it is
    rounded to zero. -/
def fixedText (p : ℕ) (x : ℚ) : List Char :=
  let k := roundHalfUp (|x| * 10 ^ p)
  let digits := natText 10 (k / 10 ^ p) ++ if p = 0 then [] else '.' :: lastDigits p k
  if x < 0 then '-' :: digits else digits

/-- A rational in decimal notation without sign and exponent. -/
def readMantissa (cs : List Char) : Option ℚ :=
  let whole := cs.takeWhile (fun c => c != '.')
  let decimals := (cs.dropWhile (fun c => c != '.')).drop 1
  (readNat 10 (whole ++ decimals)).map (fun n : ℕ => (n : ℚ) / 10 ^ decimals.length)

/-- A rational in decimal notation without sign. -/
def readUnsignedRat (cs : List Char) : Option ℚ :=
  let isExponent := fun c => c == 'e' || c == 'E'
  let mantissa := readMantissa (cs.takeWhile (fun c => !isExponent c))
  match cs.dropWhile (fun c => !isExponent c) with
  | [] => mantissa
  | _ :: exponent => mantissa.bind (fun m => (readInt 10 exponent).map (fun e => m * 10 ^ e))

/-- A rational in decimal notation. -/
def readRat : List Char → Option ℚ
  | '-' :: cs => (readUnsignedRat cs).map (fun x => -x)
  | '+' :: cs => readUnsignedRat cs
  | cs => readUnsignedRat cs

/-- A rational with at most `p` decimals. -/
def OnGrid (p : ℕ) (x : ℚ) : Prop := ∃ k : ℤ, x * 10 ^ p = k

theorem digitValue_digitChar {d : ℕ} (h : d < 16) : digitValue d.digitChar = d := by
  have hall : ∀ d < 16, digitValue (Nat.digitChar d) = d := by decide
  exact hall d h

theorem digitsValue_append (base : ℕ) (cs ds : List Char) :
    digitsValue base (cs ++ ds) = digitsValue base cs * base ^ ds.length + digitsValue base ds := by
  induction ds using List.reverseRecOn with
  | nil => simp [digitsValue]
  | append_singleton ds d ih =>
      have hsnoc : ∀ es : List Char,
          digitsValue base (es ++ [d]) = digitsValue base es * base + digitValue d := by
        intro es
        simp [digitsValue]
      rw [← List.append_assoc, hsnoc, hsnoc, ih, List.length_append, List.length_singleton]
      ring

theorem digitsValue_singleton (base : ℕ) (c : Char) : digitsValue base [c] = digitValue c := by
  simp [digitsValue]

variable {base : ℕ}

/-- Written digits are digits of the base and stand for the number. -/
theorem natText_spec (h2 : 1 < base) (h16 : base ≤ 16) (n : ℕ) :
    (∀ c ∈ natText base n, ∃ d < base, c = d.digitChar) ∧
      digitsValue base (natText base n) = n := by
  induction n using Nat.strong_induction_on with
  | _ n ih =>
      by_cases hn : n < base
      · have heq : natText base n = [n.digitChar] := Nat.toDigits_of_lt_base hn
        rw [heq, digitsValue_singleton, digitValue_digitChar (by omega)]
        exact ⟨fun c hc => ⟨n, hn, List.mem_singleton.mp hc⟩, rfl⟩
      · have hdiv : n / base < n := Nat.div_lt_self (by omega) h2
        have hmod : n % base < base := Nat.mod_lt n (by omega)
        have heq : natText base n = natText base (n / base) ++ [(n % base).digitChar] :=
          Nat.toDigits_of_base_le h2 (by omega)
        rcases ih (n / base) hdiv with ⟨hmem, hval⟩
        rw [heq, digitsValue_append, hval, digitsValue_singleton,
          digitValue_digitChar (by omega), List.length_singleton, pow_one]
        refine ⟨?_, by rw [Nat.mul_comm]; exact Nat.div_add_mod n base⟩
        intro c hc
        rcases List.mem_append.mp hc with hc | hc
        · exact hmem c hc
        · exact ⟨n % base, hmod, List.mem_singleton.mp hc⟩

theorem natText_ne_nil (base n : ℕ) : natText base n ≠ [] := Nat.toDigits_ne_nil

variable {cs : List Char}

theorem readNat_of_digits (hne : cs ≠ [])
    (h : ∀ c ∈ cs, digitValue c < base) : readNat base cs = some (digitsValue base cs) := by
  have hall : cs.all (fun c => digitValue c < base) = true := by
    simpa only [List.all_eq_true, decide_eq_true_eq] using h
  rw [readNat, if_pos ⟨hne, hall⟩]

/-- Digits of a base stay below its power. -/
theorem digitsValue_lt (h : ∀ c ∈ cs, digitValue c < base) :
    digitsValue base cs < base ^ cs.length := by
  induction cs using List.reverseRecOn with
  | nil => exact Nat.one_pos
  | append_singleton cs c ih =>
    have hlow := ih fun d hd => h d (List.mem_append_left [c] hd)
    have hlast := h c (List.mem_append_right cs (List.mem_singleton_self c))
    rw [digitsValue_append, digitsValue_singleton, List.length_append, List.length_singleton,
      pow_one]
    calc digitsValue base cs * base + digitValue c
        < digitsValue base cs * base + base := Nat.add_lt_add_left hlast _
      _ = (digitsValue base cs + 1) * base := (Nat.succ_mul _ _).symm
      _ ≤ base ^ cs.length * base := Nat.mul_le_mul_right base hlow

/-- The characters of decimal digits are those that regular expressions take for digits. -/
theorem isDigit_digitChar {d : ℕ} (h : d < 10) : (Nat.digitChar d).isDigit = true := by
  have hall : ∀ d < 10, (Nat.digitChar d).isDigit = true := by decide
  exact hall d h

/-- A decimal digit is the digit of its value. -/
theorem digitChar_of_isDigit {c : Char} (h : c.isDigit = true) :
    digitValue c < 10 ∧ c = Nat.digitChar (digitValue c) := by
  rcases Char.isDigit_iff_toNat.mp h with ⟨hlo, hhi⟩
  have hlo' : 48 ≤ c.toNat := hlo
  have hhi' : c.toNat ≤ 57 := hhi
  have hvalue : digitValue c = c.toNat - 48 := if_pos ⟨hlo', hhi'⟩
  have hall : ∀ d < 10, Nat.digitChar d = Char.ofNat (d + 48) := by decide
  rw [hvalue, hall _ (by omega), Nat.sub_add_cancel hlo', Char.ofNat_toNat]
  exact ⟨by omega, rfl⟩

theorem readNat_natText (h2 : 1 < base) (h16 : base ≤ 16) (n : ℕ) :
    readNat base (natText base n) = some n := by
  rcases natText_spec h2 h16 n with ⟨hmem, hval⟩
  have hdigits : ∀ c ∈ natText base n, digitValue c < base := by
    intro c hc
    rcases hmem c hc with ⟨d, hd, rfl⟩
    rw [digitValue_digitChar (by omega)]
    exact hd
  rw [readNat_of_digits (natText_ne_nil base n) hdigits, hval]

theorem digitsValue_replicate_zero (base k : ℕ) : digitsValue base (List.replicate k '0') = 0 := by
  induction k with
  | zero => rfl
  | succ k ih =>
      rw [List.replicate_succ', digitsValue_append, ih, digitsValue_singleton]
      simp only [Nat.zero_mul]
      decide

theorem mem_leftpad {n width : ℕ} {c : Char} (hc : c ∈ (natText 10 n).leftpad width '0') :
    ∃ d < 10, c = Nat.digitChar d := by
  rcases List.mem_append.mp hc with hzero | hdigit
  · exact ⟨0, by omega, List.eq_of_mem_replicate hzero⟩
  · exact (natText_spec (by omega) (by omega) n).1 c hdigit

/-- Zeros in front do not matter. -/
theorem readNat_leftpad (n width : ℕ) : readNat 10 ((natText 10 n).leftpad width '0') = some n := by
  have hne : (natText 10 n).leftpad width '0' ≠ [] :=
    List.append_ne_nil_of_right_ne_nil _ (natText_ne_nil 10 n)
  have hdigits : ∀ c ∈ (natText 10 n).leftpad width '0', digitValue c < 10 := by
    intro c hc
    rcases mem_leftpad hc with ⟨d, hd, rfl⟩
    rw [digitValue_digitChar (by omega)]
    exact hd
  rw [readNat_of_digits hne hdigits, List.leftpad, digitsValue_append,
    digitsValue_replicate_zero, Nat.zero_mul, Nat.zero_add,
    (natText_spec (by omega) (by omega) n).2]

/-- A numeral is made of digits. -/
theorem mem_natText (h2 : 1 < base) (h16 : base ≤ 16) {n : ℕ} {c : Char}
    (hc : c ∈ natText base n) : ∃ d < 16, c = d.digitChar := by
  rcases (natText_spec h2 h16 n).1 c hc with ⟨d, hd, rfl⟩
  exact ⟨d, by omega, rfl⟩

/-- An integer is made of digits and a minus sign. -/
theorem mem_intText (h2 : 1 < base) (h16 : base ≤ 16) {n : ℤ} {c : Char}
    (hc : c ∈ intText base n) : c = '-' ∨ ∃ d < 16, c = d.digitChar := by
  rw [intText] at hc
  split at hc
  · rcases List.mem_cons.mp hc with rfl | hc
    · exact Or.inl rfl
    · exact Or.inr (mem_natText h2 h16 hc)
  · exact Or.inr (mem_natText h2 h16 hc)

/-- What starts with a digit is read without a sign. -/
theorem readInt_of_head (h : ∀ c ∈ cs.head?, c ≠ '-' ∧ c ≠ '+') :
    readInt base cs = (readNat base cs).map (fun n : ℕ => (n : ℤ)) := by
  cases cs with
  | nil => rfl
  | cons c cs =>
      rcases h c rfl with ⟨hminus, hplus⟩
      unfold readInt
      split
      · rename_i heq
        exact absurd (List.cons.inj heq).1 hminus
      · rename_i heq
        exact absurd (List.cons.inj heq).1 hplus
      · rfl

theorem digitChar_ne_sign {d : ℕ} (h : d < 16) :
    d.digitChar ≠ '-' ∧ d.digitChar ≠ '+' ∧ d.digitChar ≠ '.' ∧ d.digitChar ≠ ':' := by
  have hall : ∀ d < 16, Nat.digitChar d ≠ '-' ∧ Nat.digitChar d ≠ '+' ∧ Nat.digitChar d ≠ '.'
      ∧ Nat.digitChar d ≠ ':' := by decide
  exact hall d h

/-- A numeral does not start with a sign. -/
theorem head_natText (h2 : 1 < base) (h16 : base ≤ 16) (n : ℕ) :
    ∀ c ∈ (natText base n).head?, c ≠ '-' ∧ c ≠ '+' := by
  intro c hc
  rcases mem_natText h2 h16 (List.mem_of_mem_head? hc) with ⟨d, hd, rfl⟩
  exact ⟨(digitChar_ne_sign hd).1, (digitChar_ne_sign hd).2.1⟩

theorem readInt_intText (h2 : 1 < base) (h16 : base ≤ 16) (n : ℤ) :
    readInt base (intText base n) = some n := by
  by_cases hn : n < 0
  · rw [intText, if_pos hn, readInt, readNat_natText h2 h16, Option.map_some]
    congr 1
    omega
  · rw [intText, if_neg hn, readInt_of_head (head_natText h2 h16 _), readNat_natText h2 h16,
      Option.map_some]
    congr 1
    omega

theorem length_lastDigits (p n : ℕ) : (lastDigits p n).length = p := by
  induction p generalizing n with
  | zero => rfl
  | succ p ih => rw [lastDigits, List.length_append, ih, List.length_singleton]

theorem mem_lastDigits {p n : ℕ} {c : Char} (hc : c ∈ lastDigits p n) :
    ∃ d < 10, c = d.digitChar := by
  induction p generalizing n with
  | zero => cases hc
  | succ p ih =>
      rcases List.mem_append.mp hc with hc | hc
      · exact ih hc
      · exact ⟨n % 10, Nat.mod_lt n (by omega), List.mem_singleton.mp hc⟩

theorem digitsValue_lastDigits (p n : ℕ) : digitsValue 10 (lastDigits p n) = n % 10 ^ p := by
  induction p generalizing n with
  | zero => simp [lastDigits, digitsValue, Nat.mod_one]
  | succ p ih =>
      have hlow : n % 10 < 16 := by omega
      rw [lastDigits, digitsValue_append, ih, digitsValue_singleton, digitValue_digitChar hlow,
        List.length_singleton, pow_one, pow_succ', Nat.mod_mul]
      ring

theorem lastDigits_mod (p n : ℕ) : lastDigits p (n % 10 ^ p) = lastDigits p n := by
  induction p generalizing n with
  | zero => rfl
  | succ p ih =>
      have hdiv : n % 10 ^ (p + 1) / 10 = n / 10 % 10 ^ p := by
        rw [pow_succ', Nat.mod_mul_right_div_self]
      have hmod : n % 10 ^ (p + 1) % 10 = n % 10 :=
        Nat.mod_mod_of_dvd n (dvd_pow_self 10 (Nat.succ_ne_zero p))
      rw [lastDigits, lastDigits, hdiv, hmod, ih]

/-- The last digits are read as a remainder. -/
theorem readNat_lastDigits_mod {p : ℕ} (hp : p ≠ 0) (n : ℕ) :
    readNat 10 (lastDigits p n) = some (n % 10 ^ p) := by
  have hne : lastDigits p n ≠ [] := by
    rw [← List.length_pos_iff, length_lastDigits]
    exact Nat.pos_of_ne_zero hp
  have hlow : ∀ c ∈ lastDigits p n, digitValue c < 10 := by
    intro c hc
    rcases mem_lastDigits hc with ⟨d, hd, rfl⟩
    rw [digitValue_digitChar (by omega)]
    exact hd
  rw [readNat_of_digits hne hlow, digitsValue_lastDigits]

/-- A number that fits is read back from its last digits. -/
theorem readNat_lastDigits {p n : ℕ} (hp : p ≠ 0) (hn : n < 10 ^ p) :
    readNat 10 (lastDigits p n) = some n := by
  rw [readNat_lastDigits_mod hp, Nat.mod_eq_of_lt hn]

/-- Less than a half is rounded off. -/
theorem roundHalfUp_add_small {n : ℕ} {e : ℚ} (h0 : 0 ≤ e) (h : e < 1 / 2) :
    roundHalfUp (n + e) = n := by
  have hfloor : ⌊(n : ℚ) + e + 1 / 2⌋ = n := by
    rw [Int.floor_eq_iff]
    push_cast
    constructor <;> linarith
  rw [roundHalfUp, hfloor, Int.toNat_natCast]

/-- An integer is its own rounding. -/
theorem roundHalfUp_natCast (n : ℕ) : roundHalfUp (n : ℚ) = n := by
  have hround := roundHalfUp_add_small (n := n) (le_refl 0) (by norm_num)
  rwa [add_zero] at hround

/-- Digits, a point and `p` more digits are a decimal. -/
theorem readMantissa_digits (p k : ℕ) :
    readMantissa (natText 10 (k / 10 ^ p) ++ '.' :: lastDigits p k) = some ((k : ℚ) / 10 ^ p) := by
  have hwhole : ∀ c ∈ natText 10 (k / 10 ^ p), (c != '.') = true := by
    intro c hc
    rcases mem_natText (by omega) (by omega) hc with ⟨d, hd, rfl⟩
    exact bne_iff_ne.mpr (digitChar_ne_sign hd).2.2.1
  -- The whole part has no point in it, so the text is split at the first one.
  have htake : (natText 10 (k / 10 ^ p) ++ '.' :: lastDigits p k).takeWhile (fun c => c != '.')
      = natText 10 (k / 10 ^ p) := by
    rw [List.takeWhile_append_of_pos hwhole]
    simp
  have hdrop : (natText 10 (k / 10 ^ p) ++ '.' :: lastDigits p k).dropWhile (fun c => c != '.')
      = '.' :: lastDigits p k := by
    rw [List.dropWhile_append_of_pos hwhole]
    simp
  have hdigits : ∀ c ∈ natText 10 (k / 10 ^ p) ++ lastDigits p k, digitValue c < 10 := by
    intro c hc
    rcases List.mem_append.mp hc with hc | hc
    · rcases (natText_spec (by omega) (by omega) _).1 c hc with ⟨d, hd, rfl⟩
      rw [digitValue_digitChar (by omega)]
      exact hd
    · rcases mem_lastDigits hc with ⟨d, hd, rfl⟩
      rw [digitValue_digitChar (by omega)]
      exact hd
  have hne : natText 10 (k / 10 ^ p) ++ lastDigits p k ≠ [] := by
    simp [natText_ne_nil]
  -- Both parts together are the digits of the number.
  have hval : digitsValue 10 (natText 10 (k / 10 ^ p) ++ lastDigits p k) = k := by
    rw [digitsValue_append, (natText_spec (by omega) (by omega) _).2, digitsValue_lastDigits,
      length_lastDigits, Nat.mul_comm]
    exact Nat.div_add_mod k (10 ^ p)
  simp only [readMantissa, htake, hdrop, List.drop_succ_cons, List.drop_zero]
  rw [readNat_of_digits hne hdigits, hval, length_lastDigits, Option.map_some]

/-- What is not a digit is not in a number. -/
theorem readMantissa_eq_none {c : Char} (hc : c ∈ cs) (hpoint : c ≠ '.')
    (hdigit : 10 ≤ digitValue c) : readMantissa cs = none := by
  have hsplit : cs.takeWhile (fun c => c != '.') ++ cs.dropWhile (fun c => c != '.') = cs :=
    List.takeWhile_append_dropWhile
  -- The character is on one side of the point, or it would be the point.
  have hmem : c ∈ cs.takeWhile (fun c => c != '.') ++
      (cs.dropWhile (fun c => c != '.')).drop 1 := by
    rw [← hsplit, List.mem_append] at hc
    rw [List.mem_append]
    refine hc.imp id fun hdrop => ?_
    cases htail : cs.dropWhile (fun c => c != '.') with
    | nil =>
        rw [htail] at hdrop
        cases hdrop
    | cons d rest =>
        have hd : d = '.' := by
          have hhead := List.head_dropWhile_not (fun c => c != '.') (l := cs)
            (by rw [htail]; exact List.cons_ne_nil d rest)
          simpa [htail] using hhead
        rw [htail, hd] at hdrop
        exact (List.mem_cons.mp hdrop).resolve_left hpoint
  -- A number has digits only.
  have hnone : readNat 10 (cs.takeWhile (fun c => c != '.') ++
      (cs.dropWhile (fun c => c != '.')).drop 1) = none := by
    unfold readNat
    rw [if_neg]
    rintro ⟨-, hall⟩
    have hlt := of_decide_eq_true (List.all_eq_true.mp hall c hmem)
    omega
  unfold readMantissa
  dsimp only
  rw [hnone, Option.map_none]

/-- The characters of a number with decimals. -/
theorem mem_fixedText {p : ℕ} {x : ℚ} {c : Char} (hc : c ∈ fixedText p x) :
    c = '-' ∨ c = '.' ∨ ∃ d < 10, c = d.digitChar := by
  have hdigits : ∀ k : ℕ, c ∈ natText 10 (k / 10 ^ p)
      ++ (if p = 0 then [] else '.' :: lastDigits p k) → c = '.' ∨ ∃ d < 10, c = d.digitChar := by
    intro k hk
    rcases List.mem_append.mp hk with hk | hk
    · rcases (natText_spec (by omega) (by omega) _).1 c hk with ⟨d, hd, rfl⟩
      exact Or.inr ⟨d, hd, rfl⟩
    · split at hk
      · cases hk
      · rcases List.mem_cons.mp hk with rfl | hk
        · exact Or.inl rfl
        · exact Or.inr (mem_lastDigits hk)
  simp only [fixedText] at hc
  split at hc
  · rcases List.mem_cons.mp hc with rfl | hc
    · exact Or.inl rfl
    · exact Or.inr (hdigits _ hc)
  · exact Or.inr (hdigits _ hc)

/-- Without an exponent a number is its mantissa. -/
theorem readUnsignedRat_of_digits (h : ∀ c ∈ cs, c = '.' ∨ ∃ d < 10, c = d.digitChar) :
    readUnsignedRat cs = readMantissa cs := by
  have hplain : ∀ c ∈ cs, (!(c == 'e' || c == 'E')) = true := by
    have hall : ∀ d < 10, (!(Nat.digitChar d == 'e' || Nat.digitChar d == 'E')) = true := by decide
    intro c hc
    rcases h c hc with rfl | ⟨d, hd, rfl⟩
    · decide
    · exact hall d hd
  have htake : cs.takeWhile (fun c => !(c == 'e' || c == 'E')) = cs :=
    List.takeWhile_eq_self_iff.mpr hplain
  have hdrop : cs.dropWhile (fun c => !(c == 'e' || c == 'E')) = [] :=
    List.dropWhile_eq_nil_iff.mpr hplain
  simp only [readUnsignedRat, htake, hdrop]

/-- What starts with a digit is read without a sign. -/
theorem readRat_of_head (h : ∀ c ∈ cs.head?, c ≠ '-' ∧ c ≠ '+') :
    readRat cs = readUnsignedRat cs := by
  unfold readRat
  split
  · exact absurd rfl (h _ rfl).1
  · exact absurd rfl (h _ rfl).2
  · rfl

/-- Digits without a point are a whole number. -/
theorem readUnsignedRat_of_readNat {n : ℕ}
    (hmem : ∀ c ∈ cs, ∃ d < 10, c = d.digitChar) (hread : readNat 10 cs = some n) :
    readUnsignedRat cs = some (n : ℚ) := by
  have hpoint : ∀ c ∈ cs, (c != '.') = true := by
    intro c hc
    rcases hmem c hc with ⟨d, hd, rfl⟩
    exact bne_iff_ne.mpr (digitChar_ne_sign (by omega)).2.2.1
  have htake : cs.takeWhile (fun c => c != '.') = cs := List.takeWhile_eq_self_iff.mpr hpoint
  have hdrop : cs.dropWhile (fun c => c != '.') = [] := List.dropWhile_eq_nil_iff.mpr hpoint
  rw [readUnsignedRat_of_digits (fun c hc => Or.inr (hmem c hc))]
  simp only [readMantissa, htake, hdrop, List.drop_nil, List.append_nil, List.length_nil]
  rw [hread, Option.map_some, pow_zero, div_one]

theorem readUnsignedRat_natText (n : ℕ) : readUnsignedRat (natText 10 n) = some (n : ℚ) :=
  readUnsignedRat_of_readNat (natText_spec (by omega) (by omega) n).1
    (readNat_natText (by omega) (by omega) n)

/-- An integer is read back as a rational. -/
theorem readRat_intText (n : ℤ) : readRat (intText 10 n) = some (n : ℚ) := by
  by_cases hn : n < 0
  · have habs : ((n.natAbs : ℕ) : ℚ) = -(n : ℚ) := by
      rw [Nat.cast_natAbs, Int.cast_abs, abs_of_neg (by exact_mod_cast hn)]
    rw [intText, if_pos hn, readRat, readUnsignedRat_natText, Option.map_some, habs, neg_neg]
  · have habs : ((n.natAbs : ℕ) : ℚ) = (n : ℚ) := by
      rw [Nat.cast_natAbs, abs_of_nonneg (by exact_mod_cast not_lt.mp hn)]
    rw [intText, if_neg hn, readRat_of_head (head_natText (by omega) (by omega) _),
      readUnsignedRat_natText, habs]

/-- A rational on the grid is read back. -/
theorem readRat_fixedText {p : ℕ} (hp : p ≠ 0) {x : ℚ} (h : OnGrid p x) :
    readRat (fixedText p x) = some x := by
  rcases h with ⟨k, hk⟩
  have hpow : (0 : ℚ) < 10 ^ p := by positivity
  -- On the grid the number times the power is whole, and nothing is rounded.
  have habs : |x| * 10 ^ p = (k.natAbs : ℚ) := by
    rw [← abs_of_pos hpow, ← abs_mul, hk, Nat.cast_natAbs, Int.cast_abs]
  have hback : (k.natAbs : ℚ) / 10 ^ p = |x| := by
    rw [← habs]
    field_simp
  have hdigits : ∀ c ∈ natText 10 (k.natAbs / 10 ^ p) ++ '.' :: lastDigits p k.natAbs,
      c = '.' ∨ ∃ d < 10, c = d.digitChar := by
    intro c hc
    rcases List.mem_append.mp hc with hc | hc
    · rcases (natText_spec (by omega) (by omega) _).1 c hc with ⟨d, hd, rfl⟩
      exact Or.inr ⟨d, hd, rfl⟩
    · rcases List.mem_cons.mp hc with rfl | hc
      · exact Or.inl rfl
      · exact Or.inr (mem_lastDigits hc)
  have hread : readUnsignedRat (natText 10 (k.natAbs / 10 ^ p) ++ '.' :: lastDigits p k.natAbs)
      = some |x| := by
    rw [readUnsignedRat_of_digits hdigits, readMantissa_digits, hback]
  simp only [fixedText, habs, roundHalfUp_natCast, if_neg hp]
  -- The sign is put in front of the digits, and taken off first.
  by_cases hx : x < 0
  · rw [if_pos hx, readRat, hread, Option.map_some, abs_of_neg hx, neg_neg]
  · rw [if_neg hx]
    have hhead : ∀ c ∈ (natText 10 (k.natAbs / 10 ^ p)
        ++ '.' :: lastDigits p k.natAbs).head?, c ≠ '-' ∧ c ≠ '+' := by
      intro c hc
      rcases hdigits c (List.mem_of_mem_head? hc) with rfl | ⟨d, hd, rfl⟩
      · decide
      · exact ⟨(digitChar_ne_sign (by omega)).1, (digitChar_ne_sign (by omega)).2.1⟩
    rw [readRat_of_head hhead, hread, abs_of_nonneg (not_lt.mp hx)]

end NeoSwift.Numeral
