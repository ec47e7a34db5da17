import Mathlib.Data.Nat.Bitwise
import NeoSwift.Qt.Text

/-!
# Status messages

The text of a `CStatusMessage` of `misc/statusmessage.cpp` is its format with the
arguments in place of `%1`, `%2` and so on. A place has one digit or two, whatever
there is to read, so a digit behind a place with one digit belongs to it. Two digits
are always read as they are meant, and two percent signs are one. A message can so
be made of any texts and places.

## Main definitions

* `arg`: The text for a format and its arguments.
* `Piece`: A part of a message, in its format and in its text.

## Theorems

* `argLoop_piece`: A part of a format is read as what it stands for.
* `arg_format`: A format made of parts is read as these parts, and it is noted where
  an argument has no place.
-/

namespace NeoSwift.Misc

/-- `is09`. -/
def is09 (c : Char) : Bool := '0' ≤ c ∧ c ≤ '9'

/-- The value of a digit. -/
def digitOf (c : Char) : ℕ := c.toNat - '0'.toNat

/-- What stands for the place marker `%n`, and the mask without its argument. -/
def argument (args : QStringList) (n : ℕ) (unusedArgs : BitVec 64) : QString × BitVec 64 :=
  if h : 0 < n ∧ n ≤ args.length then
    (args[n - 1], unusedArgs &&& ~~~(1#64 <<< (n - 1)))
  else ('%' :: QString.number n, unusedArgs)

/-- The loop over a format: the text, and the mask of the arguments that are left. -/
def argLoop (args : QStringList) : BitVec 64 → QString → QString × BitVec 64
  | unusedArgs, [] => ([], unusedArgs)
  | unusedArgs, ['%'] => (['%'], unusedArgs)
  | unusedArgs, '%' :: '%' :: it =>
      let (temp, unusedArgs) := argLoop args unusedArgs it
      ('%' :: temp, unusedArgs)
  | unusedArgs, ['%', c] =>
      if is09 c then argument args (digitOf c) unusedArgs else (['%', c], unusedArgs)
  | unusedArgs, '%' :: c :: d :: it =>
      if is09 c then
        if is09 d then
          let (value, unusedArgs) := argument args (digitOf c * 10 + digitOf d) unusedArgs
          let (temp, unusedArgs) := argLoop args unusedArgs it
          (value ++ temp, unusedArgs)
        else
          let (value, unusedArgs) := argument args (digitOf c) unusedArgs
          let (temp, unusedArgs) := argLoop args unusedArgs (d :: it)
          (value ++ temp, unusedArgs)
      else
        let (temp, unusedArgs) := argLoop args unusedArgs (c :: d :: it)
        ('%' :: temp, unusedArgs)
  | unusedArgs, c :: it =>
      let (temp, unusedArgs) := argLoop args unusedArgs it
      (c :: temp, unusedArgs)

def unusedNote : QString := " [SOME MESSAGE ARGUMENT(S) UNUSED]"

/-- `private_ns::arg`. The mask has room for the first 63 arguments. -/
def arg (format : QString) (args : QStringList) : QString :=
  if format.isEmpty then QString.join args [' ']
  else
    let (temp, unusedArgs) := argLoop args ((1#64 <<< min 63 args.length) - 1#64) format
    if unusedArgs = 0#64 then temp else temp ++ unusedNote

/-! ## Formats -/

/-- A part of a message: a text, or a place for an argument. -/
inductive Piece where
  | text (s : QString)
  | place (n : ℕ) (h : 0 < n ∧ n ≤ 99)

/-- A part in a format: a percent sign is doubled, and a place has two digits, so that
    what follows is not read as another one. -/
def Piece.format : Piece → QString
  | .text s => s.flatMap fun c => if c = '%' then ['%', '%'] else [c]
  | .place n _ => ['%', Nat.digitChar (n / 10), Nat.digitChar (n % 10)]

/-- What a part stands for. -/
def Piece.meaning (args : QStringList) : Piece → QString
  | .text s => s
  | .place n _ => if h : 0 < n ∧ n ≤ args.length then args[n - 1] else '%' :: QString.number n

/-- The mask without the arguments that a part asks for. -/
def Piece.clear (args : QStringList) (unusedArgs : BitVec 64) : Piece → BitVec 64
  | .text _ => unusedArgs
  | .place n _ =>
      if n ≤ args.length then unusedArgs &&& ~~~(1#64 <<< (n - 1)) else unusedArgs

variable (args : QStringList)

theorem argLoop_percent (unusedArgs : BitVec 64) (it : QString) :
    argLoop args unusedArgs ('%' :: '%' :: it)
      = ('%' :: (argLoop args unusedArgs it).1, (argLoop args unusedArgs it).2) := by
  rw [argLoop]

theorem argLoop_text {c : Char} (h : c ≠ '%') (args : QStringList) (unusedArgs : BitVec 64)
    (it : QString) : argLoop args unusedArgs (c :: it)
      = (c :: (argLoop args unusedArgs it).1, (argLoop args unusedArgs it).2) := by
  rw [argLoop]
  all_goals simp [h]

theorem argLoop_digits {c d : Char} (hc : is09 c = true) (hd : is09 d = true)
    (args : QStringList) (unusedArgs : BitVec 64) (it : QString) :
    argLoop args unusedArgs ('%' :: c :: d :: it)
      = ((argument args (digitOf c * 10 + digitOf d) unusedArgs).1
          ++ (argLoop args (argument args (digitOf c * 10 + digitOf d) unusedArgs).2 it).1,
        (argLoop args (argument args (digitOf c * 10 + digitOf d) unusedArgs).2 it).2) := by
  rw [argLoop]
  · rw [if_pos hc, if_pos hd]
  · rintro rfl
    cases hc

theorem is09_digitChar {k : ℕ} (h : k < 10) : is09 (Nat.digitChar k) = true := by
  have hall : ∀ k < 10, is09 (Nat.digitChar k) = true := by decide
  exact hall k h

theorem digitOf_digitChar {k : ℕ} (h : k < 10) : digitOf (Nat.digitChar k) = k := by
  have hall : ∀ k < 10, digitOf (Nat.digitChar k) = k := by decide
  exact hall k h

theorem argument_place (n : ℕ) (h : 0 < n ∧ n ≤ 99) (unusedArgs : BitVec 64) :
    argument args n unusedArgs
      = ((Piece.place n h).meaning args, (Piece.place n h).clear args unusedArgs) := by
  by_cases hn : n ≤ args.length
  · simp [argument, Piece.meaning, Piece.clear, h.1, hn]
  · simp [argument, Piece.meaning, Piece.clear, hn]

/-- One part of a format. -/
theorem argLoop_piece (p : Piece) (unusedArgs : BitVec 64) (it : QString) :
    argLoop args unusedArgs (p.format ++ it)
      = (p.meaning args ++ (argLoop args (p.clear args unusedArgs) it).1,
        (argLoop args (p.clear args unusedArgs) it).2) := by
  cases p with
  | text s =>
      simp only [Piece.format, Piece.meaning, Piece.clear]
      induction s with
      | nil => rfl
      | cons c s ih =>
          rw [List.flatMap_cons]
          by_cases hc : c = '%'
          · rw [if_pos hc, List.append_assoc, List.cons_append, List.cons_append, List.nil_append,
              argLoop_percent, ih, hc, List.cons_append]
          · rw [if_neg hc, List.append_assoc, List.cons_append, List.nil_append,
              argLoop_text hc, ih, List.cons_append]
  | place n h =>
      have hn : n / 10 * 10 + n % 10 = n := by omega
      simp only [Piece.format, List.cons_append, List.nil_append]
      rw [argLoop_digits (is09_digitChar (by omega)) (is09_digitChar (by omega)),
        digitOf_digitChar (by omega), digitOf_digitChar (by omega), hn, argument_place args n h]

theorem argLoop_format (pieces : List Piece) (unusedArgs : BitVec 64) :
    argLoop args unusedArgs (pieces.flatMap Piece.format)
      = (pieces.flatMap (Piece.meaning args), pieces.foldl (Piece.clear args) unusedArgs) := by
  induction pieces generalizing unusedArgs with
  | nil => rfl
  | cons p pieces ih =>
      rw [List.flatMap_cons, argLoop_piece, ih, List.flatMap_cons, List.foldl_cons]

/-- The part is a place for the argument `i`, counted from zero. -/
def Piece.asksFor (i : ℕ) : Piece → Bool
  | .text _ => false
  | .place n _ => n = i + 1

theorem getLsbD_foldl_clear {i : ℕ} (hi : i < 64) (pieces : List Piece) (unusedArgs : BitVec 64) :
    (pieces.foldl (Piece.clear args) unusedArgs).getLsbD i
      = (unusedArgs.getLsbD i
        && !pieces.any (fun p => decide (i < args.length) && p.asksFor i)) := by
  have hclear : ∀ (p : Piece) (mask : BitVec 64), (p.clear args mask).getLsbD i
      = (mask.getLsbD i && !(decide (i < args.length) && p.asksFor i)) := by
    intro p mask
    cases p with
    | text s => simp [Piece.clear, Piece.asksFor]
    | place n h =>
        simp only [Piece.clear, Piece.asksFor]
        by_cases hn : n ≤ args.length
        · have hbit : (1#64 <<< (n - 1)).getLsbD i = decide (n = i + 1) := by
            rw [Bool.eq_iff_iff]
            simp
            omega
          have hlength : (decide (i < args.length) && decide (n = i + 1)) = decide (n = i + 1) := by
            simp
            omega
          rw [if_pos hn, BitVec.getLsbD_and, BitVec.getLsbD_not, hbit, hlength, decide_eq_true hi,
            Bool.true_and]
        · have hne : (decide (i < args.length) && decide (n = i + 1)) = false := by
            simp
            omega
          rw [if_neg hn, hne, Bool.not_false, Bool.and_true]
  -- The pieces clear their bits one after the other.
  induction pieces generalizing unusedArgs with
  | nil => exact (Bool.and_true _).symm
  | cons p pieces ih =>
      rw [List.foldl_cons, ih, hclear, List.any_cons, Bool.not_or, Bool.and_assoc]

theorem getLsbD_mask {k i : ℕ} (hk : k ≤ 63) (hi : i < 64) :
    ((1#64 <<< k) - 1#64).getLsbD i = decide (i < k) := by
  have hpow : 2 ^ k ≤ 2 ^ 63 := Nat.pow_le_pow_right (by omega) hk
  have hpos : 0 < 2 ^ k := Nat.pow_pos (by omega)
  have hmask : (1#64 <<< k) - 1#64 = BitVec.ofNat 64 (2 ^ k - 1) := by
    apply BitVec.eq_of_toNat_eq
    rw [BitVec.toNat_sub, BitVec.toNat_shiftLeft, BitVec.toNat_ofNat, BitVec.toNat_ofNat]
    omega
  rw [hmask, BitVec.getLsbD_ofNat, Nat.testBit_two_pow_sub_one, decide_eq_true hi, Bool.true_and]

/-- Whatever a message is made of, its format stands for it: every place is that of its
    argument, and it is noted if one of the first 63 arguments has no place. -/
theorem arg_format (pieces : List Piece) (args : QStringList)
    (hformat : pieces.flatMap Piece.format ≠ []) (hargs : args.length ≤ 64) :
    arg (pieces.flatMap Piece.format) args = pieces.flatMap (Piece.meaning args) ++
      if (List.range (min 63 args.length)).all fun i => pieces.any (Piece.asksFor i) then []
      else unusedNote := by
  -- A bit is left in the mask for each argument that no place asks for.
  have hmask : pieces.foldl (Piece.clear args) ((1#64 <<< min 63 args.length) - 1#64) = 0#64 ↔
      ((List.range (min 63 args.length)).all fun i => pieces.any (Piece.asksFor i)) = true := by
    have hbit : ∀ i < 64, (pieces.foldl (Piece.clear args)
        ((1#64 <<< min 63 args.length) - 1#64)).getLsbD i
          = (decide (i < min 63 args.length) && !pieces.any (Piece.asksFor i)) := by
      intro i hi
      rw [getLsbD_foldl_clear args hi, getLsbD_mask (by omega) hi]
      by_cases hlt : i < min 63 args.length
      · have hlength : i < args.length := by omega
        simp [hlength]
      · rw [decide_eq_false hlt, Bool.false_and, Bool.false_and]
    rw [List.all_eq_true]
    constructor
    · intro h i hi
      have hlt := List.mem_range.mp hi
      have hused := hbit i (by omega)
      rw [h, decide_eq_true hlt] at hused
      simpa using hused.symm
    · intro h
      apply BitVec.eq_of_getLsbD_eq
      intro i hi
      rw [hbit i hi, BitVec.getLsbD_zero, Bool.and_eq_false_imp, decide_eq_true_eq]
      intro hlt
      rw [h i (List.mem_range.mpr hlt), Bool.not_true]
  have hempty : (pieces.flatMap Piece.format).isEmpty = false := by
    rw [List.isEmpty_eq_false_iff]
    exact hformat
  rw [arg, hempty, argLoop_format]
  by_cases hall : ((List.range (min 63 args.length)).all
      fun i => pieces.any (Piece.asksFor i)) = true
  · rw [if_pos hall, List.append_nil]
    exact if_pos (hmask.mpr hall)
  · rw [if_neg hall]
    exact if_neg (mt hmask.mp hall)

/-- A percent sign in front of a place, and a digit behind it. -/
def percentMessage : List Piece :=
  [.text "100% ", .place 1 (by decide), .text "2"]

theorem arg_format_digit :
    arg (percentMessage.flatMap Piece.format) ["foo".toList]
      = percentMessage.flatMap (Piece.meaning ["foo".toList]) ++
        if (List.range (min 63 ["foo".toList].length)).all fun i =>
          percentMessage.any (Piece.asksFor i) then [] else unusedNote :=
  arg_format percentMessage ["foo".toList] (List.cons_ne_nil _ _) (by decide)

end NeoSwift.Misc
