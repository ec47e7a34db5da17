import NeoSwift.Lib.LittleEndian

/-!
# MessagePack

The binary encoding in which every value starts with a byte that says what
follows: a small number or a short length sits in that byte itself, a larger
one follows it in the narrowest width that holds it, most significant byte
first. Numbers, strings, byte strings and arrays all share this shape and
differ in their first bytes only, so it is defined once (`sized`) and the
formats are its instances.

A codec carries its own round trip: a value that fits comes back with whatever
follows it untouched. Codecs therefore compose, and a record is the array of
its fields.

## Main definitions

* `Codec`: A writer and a reader that undoes it.
* `Codec.sized`: A number in the first byte or in a width after it.
* `Codec.uint`, `Codec.str`, `Codec.bin`, `Codec.bool`, `Codec.array`: The
  formats.
* `Codec.pair`, `Codec.map`, `Codec.record`: Fields and records.
-/

namespace NeoSwift.Msgpack

/-- A writer and a reader of values, where the reader gives back every value
    that fits and leaves the bytes after it. -/
structure Codec (α : Type) where
  Fits : α → Prop
  pack : α → List UInt8
  unpack : List UInt8 → Option (α × List UInt8)
  unpack_pack : ∀ a rest, Fits a → unpack (pack a ++ rest) = some (a, rest)

/-- The first `n` bytes and the rest, if there are that many. -/
def takeBytes (n : ℕ) (bs : List UInt8) : Option (List UInt8 × List UInt8) :=
  if n ≤ bs.length then some (bs.take n, bs.drop n) else none

@[simp] theorem takeBytes_append {n : ℕ} {bs : List UInt8} (h : bs.length = n)
    (rest : List UInt8) : takeBytes n (bs ++ rest) = some (bs, rest) := by
  subst h
  rw [takeBytes, if_pos (by rw [List.length_append]; exact Nat.le_add_right _ _),
    List.take_left, List.drop_left]

/-- A number behind the marker of the first width that holds it. -/
def packWide : List (UInt8 × ℕ) → ℕ → List UInt8
  | [], _ => []
  | (marker, k) :: widths, n =>
      if n < 256 ^ k then marker :: (toLittleEndian k n).reverse else packWide widths n

/-- The number behind a marker. -/
def unpackWide : List (UInt8 × ℕ) → UInt8 → List UInt8 → Option (ℕ × List UInt8)
  | [], _, _ => none
  | (marker, k) :: widths, first, bs =>
      if first = marker then
        (takeBytes k bs).map (fun p => (ofLittleEndian p.1.reverse, p.2))
      else unpackWide widths first bs

/-- A number in the first byte, counted from `base` and below `limit`, or
    behind a marker. -/
def packSized (base : UInt8) (limit : ℕ) (widths : List (UInt8 × ℕ)) (n : ℕ) : List UInt8 :=
  if n < limit then [UInt8.ofNat (base.toNat + n)] else packWide widths n

/-- The number in the first byte or behind it. -/
def unpackSized (base : UInt8) (limit : ℕ) (widths : List (UInt8 × ℕ)) :
    List UInt8 → Option (ℕ × List UInt8)
  | [] => none
  | first :: bs =>
      if base.toNat ≤ first.toNat ∧ first.toNat < base.toNat + limit then
        some (first.toNat - base.toNat, bs)
      else unpackWide widths first bs

/-- The markers differ from each other and from the first bytes that hold a
    number themselves. -/
def Disjoint (base : UInt8) (limit : ℕ) (widths : List (UInt8 × ℕ)) : Prop :=
  base.toNat + limit ≤ 256 ∧ (widths.map Prod.fst).Nodup ∧
    ∀ w ∈ widths, ¬(base.toNat ≤ w.1.toNat ∧ w.1.toNat < base.toNat + limit)

instance (base : UInt8) (limit : ℕ) (widths : List (UInt8 × ℕ)) :
    Decidable (Disjoint base limit widths) :=
  inferInstanceAs (Decidable (_ ∧ _ ∧ _))

/-- A number that some width holds is written with a marker from the list. -/
theorem packWide_eq {widths : List (UInt8 × ℕ)} {n : ℕ} (h : ∃ w ∈ widths, n < 256 ^ w.2) :
    ∃ w ∈ widths, packWide widths n = w.1 :: (toLittleEndian w.2 n).reverse ∧ n < 256 ^ w.2 := by
  induction widths with
  | nil => simp at h
  | cons w widths ih =>
      rcases w with ⟨marker, k⟩
      by_cases hn : n < 256 ^ k
      · exact ⟨(marker, k), List.mem_cons_self, by rw [packWide, if_pos hn], hn⟩
      · rcases h with ⟨w, hw, hlt⟩
        have hw' : w ∈ widths := by
          rcases List.mem_cons.mp hw with rfl | hw
          · exact absurd hlt hn
          · exact hw
        rcases ih ⟨w, hw', hlt⟩ with ⟨w', hmem, heq, hlt'⟩
        exact ⟨w', List.mem_cons_of_mem _ hmem, by rw [packWide, if_neg hn, heq], hlt'⟩

/-- With distinct markers the reader takes the width the marker belongs to. -/
theorem unpackWide_of_mem {widths : List (UInt8 × ℕ)} (hnodup : (widths.map Prod.fst).Nodup)
    {w : UInt8 × ℕ} (hw : w ∈ widths) (bs : List UInt8) :
    unpackWide widths w.1 bs
      = (takeBytes w.2 bs).map (fun p => (ofLittleEndian p.1.reverse, p.2)) := by
  induction widths with
  | nil => cases hw
  | cons w' widths ih =>
      rcases w' with ⟨marker, k⟩
      rw [List.map_cons, List.nodup_cons] at hnodup
      rcases List.mem_cons.mp hw with rfl | hw
      · rw [unpackWide, if_pos rfl]
      · have hne : w.1 ≠ marker := by
          intro hc
          refine hnodup.1 ?_
          rw [← hc]
          exact List.mem_map.mpr ⟨w, hw, rfl⟩
        rw [unpackWide, if_neg hne, ih hnodup.2 hw]

namespace Codec

/-- A number in the first byte or behind a marker. -/
def sized (base : UInt8) (limit : ℕ) (widths : List (UInt8 × ℕ))
    (h : Disjoint base limit widths) : Codec ℕ where
  Fits n := n < limit ∨ ∃ w ∈ widths, n < 256 ^ w.2
  pack := packSized base limit widths
  unpack := unpackSized base limit widths
  unpack_pack n rest hn := by
    rcases h with ⟨htop, hnodup, hmarkers⟩
    by_cases hlt : n < limit
    · have hfirst : (UInt8.ofNat (base.toNat + n)).toNat = base.toNat + n := by
        rw [UInt8.toNat_ofNat']
        omega
      rw [packSized, if_pos hlt, List.singleton_append, unpackSized, hfirst,
        if_pos (by omega), Nat.add_sub_cancel_left]
    · rcases packWide_eq (hn.resolve_left hlt) with ⟨w, hw, heq, hwide⟩
      rw [packSized, if_neg hlt, heq, List.cons_append, unpackSized, if_neg (hmarkers w hw),
        unpackWide_of_mem hnodup hw]
      simp [ofLittleEndian_toLittleEndian_of_lt hwide]

/-- Unsigned integers. -/
def uint : Codec ℕ :=
  sized 0 0x80 [(0xcc, 1), (0xcd, 2), (0xce, 4), (0xcf, 8)] (by decide)

/-- The lengths before a string. -/
def strLength : Codec ℕ :=
  sized 0xa0 0x20 [(0xd9, 1), (0xda, 2), (0xdb, 4)] (by decide)

/-- The lengths before a byte string. -/
def binLength : Codec ℕ :=
  sized 0 0 [(0xc4, 1), (0xc5, 2), (0xc6, 4)] (by decide)

/-- The lengths before an array. -/
def arrayLength : Codec ℕ :=
  sized 0x90 0x10 [(0xdc, 2), (0xdd, 4)] (by decide)

/-- Bytes behind their length. -/
def prefixed (length : Codec ℕ) : Codec (List UInt8) where
  Fits bs := length.Fits bs.length
  pack bs := length.pack bs.length ++ bs
  unpack bs := (length.unpack bs).bind (fun p => takeBytes p.1 p.2)
  unpack_pack bs rest h := by
    rw [List.append_assoc, length.unpack_pack _ _ h]
    exact takeBytes_append rfl rest

/-- Strings, as the bytes of their text. -/
def str : Codec (List UInt8) := prefixed strLength

/-- Byte strings. -/
def bin : Codec (List UInt8) := prefixed binLength

/-- Booleans. -/
def bool : Codec Bool where
  Fits _ := True
  pack b := [if b then 0xc3 else 0xc2]
  unpack
    | first :: bs =>
        if first = 0xc3 then some (true, bs) else if first = 0xc2 then some (false, bs) else none
    | [] => none
  unpack_pack b rest _ := by cases b <;> rfl

/-- One value after another. -/
def pair {α β : Type} (a : Codec α) (b : Codec β) : Codec (α × β) where
  Fits p := a.Fits p.1 ∧ b.Fits p.2
  pack p := a.pack p.1 ++ b.pack p.2
  unpack bs := (a.unpack bs).bind (fun p => (b.unpack p.2).map (fun q => ((p.1, q.1), q.2)))
  unpack_pack p rest h := by
    rw [List.append_assoc, a.unpack_pack _ _ h.1, Option.bind_some, b.unpack_pack _ _ h.2,
      Option.map_some]

/-- Values written as others, where reading may refuse what no value is
    written as. -/
def map {α β : Type} (c : Codec α) (write : β → α) (read : α → Option β)
    (h : ∀ b, read (write b) = some b) : Codec β where
  Fits b := c.Fits (write b)
  pack b := c.pack (write b)
  unpack bs := (c.unpack bs).bind (fun p => (read p.1).map (fun b => (b, p.2)))
  unpack_pack b rest hb := by
    rw [c.unpack_pack _ _ hb, Option.bind_some, h, Option.map_some]

/-- A record: its fields as a short array of `n` values. -/
def record {α : Type} (n : ℕ) (hn : n < 0x10) (fields : Codec α) : Codec α where
  Fits := fields.Fits
  pack a := arrayLength.pack n ++ fields.pack a
  unpack bs := (arrayLength.unpack bs).bind (fun p => if p.1 = n then fields.unpack p.2 else none)
  unpack_pack a rest h := by
    rw [List.append_assoc, arrayLength.unpack_pack _ _ (Or.inl hn), Option.bind_some, if_pos rfl,
      fields.unpack_pack _ _ h]

/-- `n` values in a row. -/
def unpackMany {α : Type} (c : Codec α) : ℕ → List UInt8 → Option (List α × List UInt8)
  | 0, bs => some ([], bs)
  | n + 1, bs =>
      (c.unpack bs).bind (fun p => (unpackMany c n p.2).map (fun q => (p.1 :: q.1, q.2)))

theorem unpackMany_pack {α : Type} (c : Codec α) (as : List α) (rest : List UInt8)
    (h : ∀ a ∈ as, c.Fits a) :
    unpackMany c as.length (as.flatMap c.pack ++ rest) = some (as, rest) := by
  induction as with
  | nil => rfl
  | cons a as ih =>
      have htail := ih (fun a' ha' => h a' (List.mem_cons_of_mem _ ha'))
      rw [List.length_cons, List.flatMap_cons, List.append_assoc, unpackMany,
        c.unpack_pack _ _ (h a List.mem_cons_self), Option.bind_some, htail, Option.map_some]

/-- Arrays of any length. -/
def array {α : Type} (c : Codec α) : Codec (List α) where
  Fits as := arrayLength.Fits as.length ∧ ∀ a ∈ as, c.Fits a
  pack as := arrayLength.pack as.length ++ as.flatMap c.pack
  unpack bs := (arrayLength.unpack bs).bind (fun p => unpackMany c p.1 p.2)
  unpack_pack as rest h := by
    rw [List.append_assoc, arrayLength.unpack_pack _ _ h.1]
    exact unpackMany_pack c as rest h.2

end Codec

end NeoSwift.Msgpack
