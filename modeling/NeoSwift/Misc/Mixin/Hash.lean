import NeoSwift.Misc.Mixin.Compare
import NeoSwift.Qt.Text
import Mathlib.Data.List.Lex
import Mathlib.Data.String.Basic

/-!
# Hashing by Metaclass

The fourth fold over the members of a value class: the hash of the base class and those of
the members, combined by exclusive or. It looks at one flag only, that a member is disabled
for hashing.

The comparison looks at two others. Values that compare equal may differ in a member that is
disabled for comparison, and by the case of the letters in one that is compared case
insensitively, and both kinds of members are hashed all the same, unless they are disabled
for that as well. Equal values then need not have equal hashes. They have them exactly if
every member that is hashed has a hash which does not see what its comparison does not see.

Necessity is shown by varying one member of a class and leaving the others at their
defaults, down the chain of base classes. The hash of a base class goes through Qt's hash of
an integer, which is a parameter here.

## Main definitions

* `MetaClass.hashImpl`, `MetaClass.qHash`: The fold.
* `MetaMember.HashAgrees`: The hash does not see more than the comparison.
* `MetaClass.OrderLaws`, `MetaClass.HashLaw`: What containers of values rely on.

## Theorems

* `qHash_eq_of_hashAgrees`: Equal values have equal hashes.
* `hashAgrees_of_qHash_eq`: Where they have, hash and comparison agree on each member.
* `value_object_laws`: The laws of a value class.
* `value_object_laws_caseless`: A class that violates the last of them.
-/

namespace NeoSwift.Misc

/-- `forEachMember` in `hashImpl`, from a hash so far. -/
def hashFrom : (ms : List MetaMember) → UInt64 → Members ms → UInt64
  | [], hash, _ => hash
  | m :: ms, hash, a =>
    hashFrom ms (if m.disabledForHashing then hash else hash ^^^ m.type.qHash a.1) a.2

namespace MetaMember

/-- A hash that is used does not see what the comparison does not see: nothing at all where
the member is disabled for comparison, and not the case of letters where that does not
matter to the comparison. -/
def HashAgrees (m : MetaMember) : Prop :=
  m.disabledForHashing = false →
    (m.disabledForComparison = true → ∀ a b, m.type.qHash a = m.type.qHash b) ∧
    (m.disabledForComparison = false → m.caseInsensitiveComparison = true →
      ∀ a b, m.type.compareCaseInsensitive a b = 0 → m.type.qHash a = m.type.qHash b)

/-- What the member contributes to a hash. -/
def hashPart (m : MetaMember) (a : m.type.Carrier) : UInt64 :=
  if m.disabledForHashing then 0 else m.type.qHash a

/-- The flags say when values without a difference have the same part in the hash. -/
theorem hashAgrees_iff (m : MetaMember) :
    m.HashAgrees ↔ ∀ a b, m.difference a b = 0 → m.hashPart a = m.hashPart b := by
  unfold HashAgrees difference hashPart membersCompare
  cases m.disabledForHashing with
  | true => exact iff_of_true (fun h => Bool.noConfusion h) (fun a b _ => rfl)
  | false =>
    cases m.disabledForComparison with
    | true =>
      constructor
      · intro h a b _
        exact (h rfl).1 rfl a b
      · intro h _
        exact ⟨fun _ a b => h a b rfl, fun hc => Bool.noConfusion hc⟩
    | false =>
      cases m.caseInsensitiveComparison with
      | true =>
        constructor
        · intro h a b hab
          exact (h rfl).2 rfl rfl a b hab
        · intro h _
          exact ⟨fun hc => Bool.noConfusion hc, fun _ _ a b hab => h a b hab⟩
      | false =>
        -- an ordinary member: its type's own law
        refine iff_of_true (fun _ =>
          ⟨fun hc => Bool.noConfusion hc, fun _ hc => Bool.noConfusion hc⟩) ?_
        intro a b hab
        exact m.type.qHash_eq a b ((m.type.equal_iff a b).mpr hab)

end MetaMember

theorem hashFrom_cons (m : MetaMember) (ms : List MetaMember) (hash : UInt64)
    (a : Members (m :: ms)) :
    hashFrom (m :: ms) hash a = hashFrom ms (hash ^^^ m.hashPart a.1) a.2 := by
  conv_lhs => unfold hashFrom
  unfold MetaMember.hashPart
  split
  · rw [UInt64.xor_zero]
  · rfl

/-- What the fold started with can be taken out. -/
theorem hashFrom_eq (ms : List MetaMember) (hash : UInt64) (a : Members ms) :
    hashFrom ms hash a = hash ^^^ hashFrom ms 0 a := by
  induction ms generalizing hash with
  | nil => exact UInt64.xor_zero.symm
  | cons m ms ih =>
    rw [hashFrom_cons, hashFrom_cons, ih, ih (0 ^^^ m.hashPart a.1), UInt64.zero_xor,
      UInt64.xor_assoc]

/-- The members of an object nothing was assigned to. -/
def Members.default : (ms : List MetaMember) → Members ms
  | [] => ()
  | m :: ms => (m.type.default, Members.default ms)

theorem compareFrom_self (ms : List MetaMember) (a : Members ms) : compareFrom ms 0 a a = 0 :=
  (compareFrom_comparison ms).self

theorem hashFrom_eq_of_hashAgrees {ms : List MetaMember} (h : ∀ m ∈ ms, m.HashAgrees)
    {a b : Members ms} (hab : compareFrom ms 0 a b = 0) : hashFrom ms 0 a = hashFrom ms 0 b := by
  induction ms with
  | nil => rfl
  | cons m ms ih =>
    rw [compareFrom_cons, firstNonzero_eq_zero] at hab
    have hhead := m.hashAgrees_iff.mp (h m List.mem_cons_self) a.1 b.1 hab.1
    rw [hashFrom_cons, hashFrom_cons, hashFrom_eq, hashFrom_eq ms (0 ^^^ m.hashPart b.1), hhead,
      ih (fun m' hm' => h m' (List.mem_cons_of_mem m hm')) hab.2]

/-- One member is varied, those behind it are the same. -/
theorem hashAgrees_of_hashFrom_eq {ms : List MetaMember}
    (h : ∀ a b : Members ms, compareFrom ms 0 a b = 0 → hashFrom ms 0 a = hashFrom ms 0 b) :
    ∀ m ∈ ms, m.HashAgrees := by
  induction ms with
  | nil => exact nofun
  | cons m ms ih =>
    -- All members enter the hash by xor, so the equal ones fall out.
    have hsplit : ∀ a b : Members (m :: ms), m.difference a.1 b.1 = 0 →
        compareFrom ms 0 a.2 b.2 = 0 →
        m.hashPart a.1 ^^^ hashFrom ms 0 a.2 = m.hashPart b.1 ^^^ hashFrom ms 0 b.2 := by
      intro a b hhead htail
      have heq := h a b (by rw [compareFrom_cons, firstNonzero_eq_zero]; exact ⟨hhead, htail⟩)
      rw [hashFrom_cons, hashFrom_cons, hashFrom_eq, hashFrom_eq ms (0 ^^^ m.hashPart b.1),
        UInt64.zero_xor, UInt64.zero_xor] at heq
      exact heq
    intro m' hm'
    rcases List.mem_cons.mp hm' with hm' | hm'
    · subst hm'
      refine m'.hashAgrees_iff.mpr fun x y hxy => ?_
      have heq := hsplit (x, Members.default ms) (y, Members.default ms) hxy
        (compareFrom_self ms _)
      exact (UInt64.xor_left_inj _).mp heq
    · refine ih (fun a b hab => ?_) m' hm'
      have heq := hsplit (m.type.default, a) (m.type.default, b)
        MetaMember.difference_comparison.self hab
      exact (UInt64.xor_right_inj _).mp heq

namespace MetaClass

section

/-! `::qHash(size_t, size_t)` of a hash and a seed. -/
variable (mix : UInt64 → UInt64 → UInt64)

/-- The base class's own `qHash`, or zero where there is no base class. -/
def baseHash : MetaClass → UInt64 → UInt64
  | .empty, _ => 0
  | .derived _ _, hash => mix hash 0

def hashImpl : (M : MetaClass) → M.Object → UInt64
  | .empty, _ => 0
  | .derived base ms, a => hashFrom ms (baseHash mix base (hashImpl base a.1)) a.2

def qHash (M : MetaClass) (value : M.Object) (seed : UInt64) : UInt64 :=
  mix (M.hashImpl mix value) seed

end

/-- Hash and comparison agree on each member of the class and of its base classes. -/
def HashAgrees : MetaClass → Prop
  | .empty => True
  | .derived base ms => base.HashAgrees ∧ ∀ m ∈ ms, m.HashAgrees

/-- An object nothing was assigned to. -/
def default : (M : MetaClass) → M.Object
  | .empty => ()
  | .derived base ms => (base.default, Members.default ms)

section

variable {mix : UInt64 → UInt64 → UInt64}

theorem hashImpl_derived (base : MetaClass) (ms : List MetaMember) (a : (derived base ms).Object) :
    (derived base ms).hashImpl mix a
      = baseHash mix base (base.hashImpl mix a.1) ^^^ hashFrom ms 0 a.2 := by
  conv_lhs => unfold hashImpl
  exact hashFrom_eq ms _ a.2

theorem hashImpl_eq_of_hashAgrees {M : MetaClass} (h : M.HashAgrees) {a b : M.Object}
    (hab : M.compare a b = 0) : M.hashImpl mix a = M.hashImpl mix b := by
  induction M with
  | empty => rfl
  | derived base ms ih =>
    rw [compare_derived, firstNonzero_eq_zero] at hab
    rw [hashImpl_derived, hashImpl_derived, ih h.1 hab.1, hashFrom_eq_of_hashAgrees h.2 hab.2]

theorem hashAgrees_of_hashImpl_eq (hmix : ∀ seed, Function.Injective fun hash => mix hash seed)
    {M : MetaClass}
    (h : ∀ a b : M.Object, M.compare a b = 0 → M.hashImpl mix a = M.hashImpl mix b) :
    M.HashAgrees := by
  induction M with
  | empty => trivial
  | derived base ms ih =>
    -- Objects that are compared equal in both parts have equal hashes of both parts together.
    have hsplit : ∀ a b : (derived base ms).Object, base.compare a.1 b.1 = 0 →
        compareFrom ms 0 a.2 b.2 = 0 →
        baseHash mix base (base.hashImpl mix a.1) ^^^ hashFrom ms 0 a.2
          = baseHash mix base (base.hashImpl mix b.1) ^^^ hashFrom ms 0 b.2 := by
      intro a b hbase hmembers
      have heq := h a b (by
        rw [compare_derived, firstNonzero_eq_zero]
        exact ⟨hbase, hmembers⟩)
      rw [hashImpl_derived, hashImpl_derived] at heq
      exact heq
    constructor
    · -- Each part is varied alone, with the other one at its default.
      refine ih fun a b hab => ?_
      have heq := (UInt64.xor_left_inj _).mp
        (hsplit (a, Members.default ms) (b, Members.default ms) hab (compareFrom_self ms _))
      cases base with
      | empty => rfl
      | derived base' ms' => exact hmix 0 heq
    · refine hashAgrees_of_hashFrom_eq fun a b hab => ?_
      exact (UInt64.xor_right_inj _).mp
        (hsplit (base.default, a) (base.default, b) base.comparison.self hab)

/-- Equal values have equal hashes where hash and comparison agree on each member. -/
theorem qHash_eq_of_hashAgrees {M : MetaClass} (h : M.HashAgrees) {a b : M.Object}
    (hab : M.equals a b = true) (seed : UInt64) : M.qHash mix a seed = M.qHash mix b seed :=
  congrArg (mix · seed) (hashImpl_eq_of_hashAgrees h ((M.equals_iff a b).mp hab))

/-- Where equal values have equal hashes, hash and comparison agree on each member. -/
theorem hashAgrees_of_qHash_eq (hmix : ∀ seed, Function.Injective fun hash => mix hash seed)
    {M : MetaClass}
    (h : ∀ a b : M.Object, M.equals a b = true → M.qHash mix a 0 = M.qHash mix b 0) :
    M.HashAgrees :=
  hashAgrees_of_hashImpl_eq hmix fun a b hab => hmix 0 (h a b ((M.equals_iff a b).mpr hab))

end

/-- What a sorted container of values relies on. -/
structure OrderLaws (M : MetaClass) : Prop where
  equals_iff : ∀ a b, M.equals a b = true ↔ M.compare a b = 0
  less_iff : ∀ a b, M.less a b = true ↔ M.compare a b < 0
  irreflexive : ∀ a, M.less a a = false
  transitive : ∀ a b c, M.less a b = true → M.less b c = true → M.less a c = true
  exactlyOne : ∀ a b, [M.less a b, M.equals a b, M.less b a].count true = 1

/-- What a hashed container of values relies on, whatever Qt's hash of an integer is. -/
def HashLaw (M : MetaClass) : Prop :=
  ∀ (mix : UInt64 → UInt64 → UInt64) (a b : M.Object) (seed : UInt64),
    M.equals a b = true → M.qHash mix a seed = M.qHash mix b seed

theorem orderLaws (M : MetaClass) : M.OrderLaws := by
  have hswap := fun a b => M.comparison.neg_iff (a := a) (b := b)
  constructor
  case equals_iff => exact M.equals_iff
  case less_iff => exact M.less_iff
  case irreflexive =>
    intro a
    rw [← Bool.not_eq_true, M.less_iff, M.comparison.self]
    exact lt_irrefl 0
  case transitive =>
    intro a b c hab hbc
    rw [M.less_iff] at hab hbc ⊢
    exact M.comparison.lt_trans hab hbc
  -- The sign of the comparison decides, and it flips when the sides do.
  case exactlyOne =>
    intro a b
    have hab := M.less_iff a b
    have heq := M.equals_iff a b
    have hba := M.less_iff b a
    have hflip := hswap b a
    rcases lt_trichotomy (M.compare a b) 0 with h | h | h
    · rw [hab.mpr h, Bool.eq_false_iff.mpr (mt heq.mp h.ne),
        Bool.eq_false_iff.mpr (mt hba.mp (by omega))]
      rfl
    · rw [Bool.eq_false_iff.mpr (mt hab.mp (by omega)), heq.mpr h,
        Bool.eq_false_iff.mpr (mt hba.mp (by omega))]
      rfl
    · rw [Bool.eq_false_iff.mpr (mt hab.mp (by omega)), Bool.eq_false_iff.mpr (mt heq.mp h.ne'),
        hba.mpr (hflip.mpr h)]
      rfl

/-- The order laws hold of every value class. The law of the hash holds of exactly those
whose members are hashed by no more than they are compared by. -/
theorem value_object_laws (M : MetaClass) : M.OrderLaws ∧ (M.HashLaw ↔ M.HashAgrees) := by
  refine ⟨M.orderLaws, fun h => ?_, fun h mix a b seed hab => qHash_eq_of_hashAgrees h hab seed⟩
  -- one injective function is enough
  exact @hashAgrees_of_qHash_eq (fun hash _ => hash) (fun _ _ _ heq => heq) M
    fun a b hab => h _ a b 0 hab

end MetaClass

/-! ## A class with a text that is compared case insensitively -/

/-- The code units of a text as one number. -/
def textHash (s : QString) : UInt64 := s.foldl (fun hash c => hash * 31 + c.toNat.toUInt64) 0

def textLess (s t : QString) : Bool := decide (s < t)

theorem textLess_iff (s t : QString) : textLess s t = true ↔ s < t := decide_eq_true_iff

/-- `QString`, as a type that has no `compare` of its own. -/
def textType : ValueType where
  Carrier := QString
  default := []
  equal s t := s == t
  less := textLess
  compare := none
  compareCaseInsensitive s t := threeWay textLess (s.map Char.toLower) (t.map Char.toLower)
  qHash := textHash
  equal_iff _ _ := beq_iff_eq.trans (threeWay_eq_zero textLess_iff).symm
  less_iff s t := (textLess_iff s t).trans (threeWay_neg textLess_iff).symm
  comparison := IsComparison.threeWay textLess_iff
  comparison_caseInsensitive := (IsComparison.threeWay textLess_iff).comap (List.map Char.toLower)
  qHash_eq _ _ h := congrArg textHash (eq_of_beq h)

/-- `CAirportIcaoCode`. -/
def airportIcaoCode : MetaClass :=
  .derived .empty
    [{ type := textType, disabledForComparison := false, disabledForHashing := false,
       caseInsensitiveComparison := true }]

def icaoCodeUpper : airportIcaoCode.Object := ((), ['E', 'D', 'D', 'F'], ())

def icaoCodeLower : airportIcaoCode.Object := ((), ['e', 'd', 'd', 'f'], ())

theorem textHash_caseless : textHash ['E', 'D', 'D', 'F'] ≠ textHash ['e', 'd', 'd', 'f'] := by
  decide

/-- Two codes that compare equal and hash differently, whatever becomes of the hash. -/
theorem value_object_laws_caseless :
    airportIcaoCode.equals icaoCodeUpper icaoCodeLower = true ∧
      (∀ mix : UInt64 → UInt64 → UInt64, (∀ seed, Function.Injective fun hash => mix hash seed) →
        ∀ seed, airportIcaoCode.qHash mix icaoCodeUpper seed
          ≠ airportIcaoCode.qHash mix icaoCodeLower seed) ∧ ¬ airportIcaoCode.HashLaw := by
  have hequals : airportIcaoCode.equals icaoCodeUpper icaoCodeLower = true := by decide
  have hne : ∀ mix : UInt64 → UInt64 → UInt64,
      (∀ seed, Function.Injective fun hash => mix hash seed) →
      ∀ seed, airportIcaoCode.qHash mix icaoCodeUpper seed
        ≠ airportIcaoCode.qHash mix icaoCodeLower seed := by
    intro mix hmix seed heq
    have himpl : airportIcaoCode.hashImpl mix icaoCodeUpper
        = airportIcaoCode.hashImpl mix icaoCodeLower := hmix seed heq
    exact textHash_caseless ((UInt64.xor_right_inj 0).mp himpl)
  refine ⟨hequals, hne, fun h => ?_⟩
  exact hne (fun hash _ => hash) (fun _ _ _ heq => heq) 0 (h _ _ _ 0 hequals)

end NeoSwift.Misc
