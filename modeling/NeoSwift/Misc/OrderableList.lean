import Mathlib.Data.List.Sort
import Mathlib.Data.List.Perm.Lattice
import Mathlib.Tactic.Linarith

/-!
# Lists of Orderable Objects

`misc/orderablelist.h`: a list whose objects carry their place as a number, the order. The
place an object has in the list itself is another matter, and `moveTo` only writes orders:
it takes some objects out by their orders, closes the gap, opens a new one at the target
and numbers the objects into it.

What an object becomes depends on its rank only, which is how many objects of its own kind,
moved or not, have a smaller order. `resetOrder_eq_map` says so of a sorted list, and since a
rank does not depend on how a list is arranged, both halves of the result are maps over the
container as it was.

## Main definitions

* `IOrderable`: An object with an order.
* `OrderSorter`: What the list relies on when it sorts.
* `resetOrder`, `withoutItemsOfSameOrder`, `moveTo`: The operations.
* `rank`, `newOrder`: What becomes of an order.
* `MovedTo`: What a move is to do.

## Theorems

* `resetOrder_eq_map`: Numbering a sorted list is a map.
* `perm_moveTo`, `orders_moveTo`: What a move makes of the objects and of the orders.
* `moved_to`: A move does what it is to do.
-/

namespace NeoSwift.Misc

/-- `IOrderable`. -/
class IOrderable (α : Type*) where
  getOrder : α → ℤ
  setOrder : ℤ → α → α
  getOrder_setOrder : ∀ order a, getOrder (setOrder order a) = order
  setOrder_setOrder : ∀ order order' a, setOrder order (setOrder order' a) = setOrder order a
  setOrder_getOrder : ∀ a, setOrder (getOrder a) a = a

export IOrderable (getOrder setOrder)

attribute [simp] IOrderable.getOrder_setOrder IOrderable.setOrder_setOrder
  IOrderable.setOrder_getOrder

variable {α : Type*} [IOrderable α]

def hasValidOrder (obj : α) : Bool := getOrder obj ≥ 0

/-- A list is rearranged into ascending order, objects of one order in any arrangement. -/
structure OrderSorter (α : Type*) [IOrderable α] where
  sortAscendingByOrder : List α → List α
  perm : ∀ l, (sortAscendingByOrder l).Perm l
  sorted : ∀ l, (sortAscendingByOrder l).Pairwise (fun a b => getOrder a ≤ getOrder b)

/-- Sorting by insertion. -/
def OrderSorter.insertion (α : Type*) [IOrderable α] : OrderSorter α where
  sortAscendingByOrder := List.insertionSort (fun a b => getOrder a ≤ getOrder b)
  perm l := List.perm_insertionSort _ l
  sorted l :=
    haveI : Std.Total (fun a b : α => getOrder a ≤ getOrder b) := ⟨fun _ _ => le_total _ _⟩
    haveI : IsTrans α (fun a b => getOrder a ≤ getOrder b) := ⟨fun _ _ _ => le_trans⟩
    List.pairwise_insertionSort _ l

def resetOrder : ℤ → List α → List α
  | _, [] => []
  | c, obj :: rest => setOrder c obj :: resetOrder (c + 1) rest

def orderValues (container : List α) : List ℤ :=
  (container.filter hasValidOrder).map getOrder

def withoutItemsOfSameOrder (container items : List α) : List α :=
  if (orderValues items).isEmpty then container
  else container.filter fun obj => ¬ getOrder obj ∈ orderValues items

/-- An order of the container without the items, once there is space for them. -/
def shiftOrder (targetOrder shift order : ℤ) : ℤ :=
  if order < targetOrder then order else order + shift

def moveTo (S : OrderSorter α) (container items : List α) (targetOrder : ℤ) : List α :=
  if items.isEmpty then container
  else
    let newContainer :=
      resetOrder 0 (S.sortAscendingByOrder (withoutItemsOfSameOrder container items))
    let shifted := newContainer.map fun obj =>
      setOrder (shiftOrder targetOrder items.length (getOrder obj)) obj
    let newItems := resetOrder targetOrder (S.sortAscendingByOrder items)
    shifted ++ newItems

/-! ## Orders in a row -/

/-- So many orders, one after the other. -/
def ordersFrom : ℤ → ℕ → List ℤ
  | _, 0 => []
  | c, n + 1 => c :: ordersFrom (c + 1) n

theorem orders_resetOrder (c : ℤ) (l : List α) :
    (resetOrder c l).map getOrder = ordersFrom c l.length := by
  induction l generalizing c with
  | nil => rfl
  | cons obj rest ih =>
    simp [resetOrder, ordersFrom, ih]

theorem ordersFrom_append (c : ℤ) (m n : ℕ) :
    ordersFrom c (m + n) = ordersFrom c m ++ ordersFrom (c + m) n := by
  induction m generalizing c with
  | zero => simp [ordersFrom]
  | succ m ih =>
    have hshift : c + 1 + (m : ℤ) = c + (m + 1 : ℕ) := by omega
    rw [Nat.succ_add, ordersFrom, ordersFrom, ih, hshift, List.cons_append]

theorem mem_ordersFrom {c order : ℤ} {n : ℕ} :
    order ∈ ordersFrom c n ↔ c ≤ order ∧ order < c + n := by
  induction n generalizing c with
  | zero =>
    simp only [ordersFrom, List.not_mem_nil, false_iff]
    omega
  | succ n ih =>
    simp only [ordersFrom, List.mem_cons, ih]
    omega

theorem nodup_ordersFrom (c : ℤ) (n : ℕ) : (ordersFrom c n).Nodup := by
  induction n generalizing c with
  | zero => exact List.nodup_nil
  | succ n ih =>
    refine List.nodup_cons.mpr ⟨?_, ih (c + 1)⟩
    intro hmem
    have := (mem_ordersFrom.mp hmem).1
    omega

/-- Orders in front of the target stay. -/
theorem map_shiftOrder_of_le {c targetOrder : ℤ} {n : ℕ} (h : c + n ≤ targetOrder) (shift : ℤ) :
    (ordersFrom c n).map (shiftOrder targetOrder shift) = ordersFrom c n := by
  refine (List.map_congr_left fun order hmem => ?_).trans (List.map_id _)
  have hlt := (mem_ordersFrom.mp hmem).2
  exact if_pos (by omega)

/-- Orders from the target on move up. -/
theorem map_shiftOrder_of_ge {c targetOrder : ℤ} (h : targetOrder ≤ c) (n : ℕ) (shift : ℤ) :
    (ordersFrom c n).map (shiftOrder targetOrder shift) = ordersFrom (c + shift) n := by
  induction n generalizing c with
  | zero => rfl
  | succ n ih =>
    have hhead : shiftOrder targetOrder shift c = c + shift := if_neg (by omega)
    rw [ordersFrom, ordersFrom, List.map_cons, hhead, ih (by omega), add_right_comm]

/-- The gap the shift opens is the one the moved items fill. -/
theorem perm_ordersFrom_shifted {targetOrder : ℤ} (m k : ℕ) (h0 : 0 ≤ targetOrder)
    (hm : targetOrder ≤ m) :
    ((ordersFrom 0 m).map (shiftOrder targetOrder k) ++ ordersFrom targetOrder k).Perm
      (ordersFrom 0 (m + k)) := by
  rcases Int.eq_ofNat_of_zero_le h0 with ⟨t, rfl⟩
  obtain ⟨d, rfl⟩ : ∃ d, m = t + d := ⟨m - t, by omega⟩
  -- front, the part behind the target moved up, and the items between the two
  have hfront := map_shiftOrder_of_le (show (0 : ℤ) + t ≤ t by omega) k
  have hbehind := map_shiftOrder_of_ge (le_refl (t : ℤ)) d k
  have hall : ordersFrom 0 (t + d + k) =
      ordersFrom 0 t ++ (ordersFrom t k ++ ordersFrom (t + k) d) := by
    rw [show t + d + k = t + (k + d) by omega, ordersFrom_append, ordersFrom_append, zero_add]
  rw [ordersFrom_append, zero_add, List.map_append, hfront, hbehind, hall, List.append_assoc]
  exact List.perm_append_comm.append_left _

/-! ## Ranks -/

/-- How many objects have a smaller order. -/
def rank (l : List α) (order : ℤ) : ℕ := l.countP fun obj => getOrder obj < order

theorem rank_perm {l l' : List α} (h : l.Perm l') (order : ℤ) : rank l order = rank l' order :=
  h.countP_eq _

theorem rank_lt_rank {l : List α} {obj : α} {order : ℤ} (hmem : obj ∈ l)
    (hlt : getOrder obj < order) : rank l (getOrder obj) < rank l order := by
  have hle (l : List α) : rank l (getOrder obj) ≤ rank l order := by
    refine List.countP_mono_left fun other _ hother => ?_
    simp only [decide_eq_true_eq] at hother ⊢
    exact hother.trans hlt
  rcases List.append_of_mem hmem with ⟨front, behind, rfl⟩
  have hfront := hle front
  have hbehind := hle behind
  unfold rank at hfront hbehind ⊢
  rw [List.countP_append, List.countP_append, List.countP_cons_of_neg (by simp),
    List.countP_cons_of_pos (by simpa using hlt)]
  omega

/-- In a list of ascending orders the rank is the place. -/
theorem resetOrder_eq_map {l : List α} (h : l.Pairwise (fun a b => getOrder a < getOrder b))
    (c : ℤ) : resetOrder c l = l.map fun obj => setOrder (c + rank l (getOrder obj)) obj := by
  induction l generalizing c with
  | nil => rfl
  | cons obj rest ih =>
    rcases List.pairwise_cons.mp h with ⟨hobj, hrest⟩
    have hhead : rank (obj :: rest) (getOrder obj) = 0 := by
      refine List.countP_eq_zero.mpr fun other hother => ?_
      simp only [decide_eq_true_eq, not_lt]
      rcases List.mem_cons.mp hother with rfl | hmem
      · exact le_refl _
      · exact (hobj other hmem).le
    rw [resetOrder, List.map_cons, hhead, ih hrest]
    refine congrArg₂ List.cons (by simp) ?_
    refine List.map_congr_left fun other hother => ?_
    have hcons : rank (obj :: rest) (getOrder other) = rank rest (getOrder other) + 1 :=
      List.countP_cons_of_pos (by simpa using hobj other hother)
    congr 1
    omega

/-- Sorting a list of distinct orders leaves them ascending. -/
theorem pairwise_lt_sort (S : OrderSorter α) {l : List α} (h : (l.map getOrder).Nodup) :
    (S.sortAscendingByOrder l).Pairwise (fun a b => getOrder a < getOrder b) := by
  have hne : (S.sortAscendingByOrder l).Pairwise (fun a b => getOrder a ≠ getOrder b) :=
    List.pairwise_map.mp (((S.perm l).map getOrder).nodup_iff.mpr h)
  exact (S.sorted l).imp₂ (fun _ _ hle hne => lt_of_le_of_ne hle hne) hne

/-- Sorting and numbering, as a map over the list as it was. -/
theorem resetOrder_sort_perm (S : OrderSorter α) {l : List α} (h : (l.map getOrder).Nodup) (c : ℤ) :
    (resetOrder c (S.sortAscendingByOrder l)).Perm
      (l.map fun obj => setOrder (c + rank l (getOrder obj)) obj) := by
  rw [resetOrder_eq_map (pairwise_lt_sort S h)]
  simp only [rank_perm (S.perm l)]
  exact (S.perm l).map _

/-! ## Moving -/

/-- What an order becomes: the place of an item among the items, from the target on, and
    the place of another object among the others, with the items' places left out. -/
def newOrder (container items : List α) (targetOrder order : ℤ) : ℤ :=
  if order ∈ items.map getOrder then targetOrder + rank items order
  else shiftOrder targetOrder items.length
    (rank (container.filter fun obj => ¬ getOrder obj ∈ items.map getOrder) order)

/-- What a move is to do. Nothing but orders changes, they are all there again, the items
    are in a row from the target on, and neither the items nor the others overtake each
    other. -/
structure MovedTo (container items : List α) (targetOrder : ℤ) (becomes : ℤ → ℤ)
    (result : List α) : Prop where
  perm : result.Perm (container.map fun obj => setOrder (becomes (getOrder obj)) obj)
  orders : (result.map getOrder).Perm (ordersFrom 0 container.length)
  contiguous : (items.map fun obj => becomes (getOrder obj)).Perm
    (ordersFrom targetOrder items.length)
  keepsItems : ∀ a ∈ items, ∀ b ∈ items, getOrder a < getOrder b →
    becomes (getOrder a) < becomes (getOrder b)
  keepsOthers : ∀ a ∈ container, ∀ b ∈ container, a ∉ items → b ∉ items →
    getOrder a < getOrder b → becomes (getOrder a) < becomes (getOrder b)

section Move

variable {container items : List α}

theorem withoutItemsOfSameOrder_eq (hvalid : ∀ obj ∈ items, 0 ≤ getOrder obj) :
    withoutItemsOfSameOrder container items =
      container.filter fun obj => ¬ getOrder obj ∈ items.map getOrder := by
  have hall : items.filter hasValidOrder = items :=
    List.filter_eq_self.mpr fun obj hobj => decide_eq_true (hvalid obj hobj)
  unfold withoutItemsOfSameOrder orderValues
  rw [hall]
  cases items with
  | nil =>
    exact (List.filter_eq_self.mpr fun _ _ => decide_eq_true List.not_mem_nil).symm
  | cons obj rest => rw [if_neg (by simp)]

variable (hdistinct : (container.map getOrder).Nodup) (hitems : items.Nodup)
  (hsub : items ⊆ container)

include hdistinct

/-- An object is told by its order. -/
theorem eq_of_getOrder_eq {a b : α} (ha : a ∈ container) (hb : b ∈ container)
    (h : getOrder a = getOrder b) : a = b :=
  List.inj_on_of_nodup_map hdistinct ha hb h

include hsub

theorem getOrder_mem_items {a : α} (ha : a ∈ container) :
    getOrder a ∈ items.map getOrder ↔ a ∈ items := by
  refine ⟨fun h => ?_, List.mem_map_of_mem⟩
  rcases List.mem_map.mp h with ⟨b, hb, hba⟩
  exact eq_of_getOrder_eq hdistinct (hsub hb) ha hba ▸ hb

include hitems

/-- The items are the objects of the container that have their orders. -/
theorem filter_items_perm :
    (container.filter fun obj => getOrder obj ∈ items.map getOrder).Perm items := by
  refine (List.perm_ext_iff_of_nodup (hdistinct.of_map getOrder |>.filter _) hitems).mpr fun a => ?_
  rw [List.mem_filter, decide_eq_true_eq]
  constructor
  · rintro ⟨ha, horder⟩
    exact (getOrder_mem_items hdistinct hsub ha).mp horder
  · intro ha
    exact ⟨hsub ha, List.mem_map_of_mem ha⟩

theorem nodup_orders_items : (items.map getOrder).Nodup :=
  ((filter_items_perm hdistinct hitems hsub).map getOrder).nodup_iff.mp
    (hdistinct.sublist (List.filter_sublist.map getOrder))

/-- The others and the items are the container. -/
theorem others_append_items_perm :
    ((container.filter fun obj => ¬ getOrder obj ∈ items.map getOrder) ++ items).Perm
      container := by
  have hall :=
    List.filter_append_perm (fun obj => decide (¬ getOrder obj ∈ items.map getOrder)) container
  simp only [decide_not, Bool.not_not] at hall ⊢
  exact ((filter_items_perm hdistinct hitems hsub).symm.append_left _).trans hall

/-- What a move makes of the objects, each by its own order. -/
theorem perm_moveTo (S : OrderSorter α) (hvalid : ∀ obj ∈ items, 0 ≤ getOrder obj)
    (hne : items ≠ []) (targetOrder : ℤ) :
    (moveTo S container items targetOrder).Perm (container.map fun obj =>
        setOrder (newOrder container items targetOrder (getOrder obj)) obj) := by
  have hothers := hdistinct.sublist
    (List.filter_sublist (p := fun obj => ¬ getOrder obj ∈ items.map getOrder) |>.map getOrder)
  unfold moveTo
  rw [if_neg (by simpa only [List.isEmpty_iff] using hne), withoutItemsOfSameOrder_eq hvalid]
  -- the others, numbered and shifted, and the items, numbered from the target on
  have hshifted := (resetOrder_sort_perm S hothers 0).map fun obj =>
    setOrder (shiftOrder targetOrder items.length (getOrder obj)) obj
  have hnumbered := resetOrder_sort_perm S (nodup_orders_items hdistinct hitems hsub) targetOrder
  refine (hshifted.append hnumbered).trans ?_
  refine .trans (.of_eq ?_) ((others_append_items_perm hdistinct hitems hsub).map _)
  rw [List.map_append, List.map_map]
  congr 1
  · refine List.map_congr_left fun obj hobj => ?_
    have hnot := of_decide_eq_true (List.mem_filter.mp hobj).2
    simp only [Function.comp_apply, IOrderable.getOrder_setOrder, IOrderable.setOrder_setOrder,
      newOrder, if_neg hnot, zero_add]
  · refine List.map_congr_left fun obj hobj => ?_
    rw [newOrder, if_pos (List.mem_map_of_mem hobj)]

/-- What a move makes of the orders. -/
theorem orders_moveTo (S : OrderSorter α) (hvalid : ∀ obj ∈ items, 0 ≤ getOrder obj)
    (hne : items ≠ []) {targetOrder : ℤ} (h0 : 0 ≤ targetOrder)
    (hle : targetOrder + items.length ≤ container.length) :
    ((moveTo S container items targetOrder).map getOrder).Perm (ordersFrom 0 container.length) := by
  have hlength := (others_append_items_perm hdistinct hitems hsub).length_eq
  rw [List.length_append] at hlength
  unfold moveTo
  rw [if_neg (by simpa only [List.isEmpty_iff] using hne), withoutItemsOfSameOrder_eq hvalid,
    ← hlength, List.map_append, orders_resetOrder, (S.perm items).length_eq]
  refine .trans (.of_eq ?_) (perm_ordersFrom_shifted _ items.length h0 (by omega))
  refine congrArg (· ++ ordersFrom targetOrder items.length) ?_
  rw [← (S.perm (container.filter _)).length_eq, ← orders_resetOrder, List.map_map, List.map_map]
  refine List.map_congr_left fun obj _ => ?_
  simp

/-- The items' new orders are in a row. -/
theorem contiguous_moveTo (S : OrderSorter α) (targetOrder : ℤ) :
    (items.map fun obj => newOrder container items targetOrder (getOrder obj)).Perm
      (ordersFrom targetOrder items.length) := by
  have hnumbered :=
    (resetOrder_sort_perm S (nodup_orders_items hdistinct hitems hsub) targetOrder).map getOrder
  rw [orders_resetOrder, (S.perm items).length_eq, List.map_map] at hnumbered
  refine .trans (.of_eq ?_) hnumbered.symm
  refine List.map_congr_left fun obj hobj => ?_
  rw [newOrder, if_pos (List.mem_map_of_mem hobj), Function.comp_apply,
    IOrderable.getOrder_setOrder]

end Move

theorem newOrder_lt_of_items {container items : List α} {a b : α} (targetOrder : ℤ)
    (ha : a ∈ items) (hb : b ∈ items) (h : getOrder a < getOrder b) :
    newOrder container items targetOrder (getOrder a) <
      newOrder container items targetOrder (getOrder b) := by
  have hrank := rank_lt_rank ha h
  rw [newOrder, newOrder, if_pos (List.mem_map_of_mem ha), if_pos (List.mem_map_of_mem hb)]
  omega

theorem newOrder_lt_of_others {container items : List α} {a b : α} (targetOrder : ℤ)
    (hmem : a ∈ container) (ha : getOrder a ∉ items.map getOrder)
    (hb : getOrder b ∉ items.map getOrder) (h : getOrder a < getOrder b) :
    newOrder container items targetOrder (getOrder a) <
      newOrder container items targetOrder (getOrder b) := by
  have hother : a ∈ container.filter fun obj => ¬ getOrder obj ∈ items.map getOrder :=
    List.mem_filter.mpr ⟨hmem, decide_eq_true ha⟩
  have hrank := rank_lt_rank hother h
  rw [newOrder, newOrder, if_neg ha]
  -- the shift keeps what is in front in front
  unfold shiftOrder
  split <;> split <;> omega

/-- A container whose orders are `0` to `n - 1`, and items of it moved to a target with
    space for them behind it. -/
theorem moved_to (S : OrderSorter α) (container items : List α) (targetOrder : ℤ)
    (horders : (container.map getOrder).Perm (ordersFrom 0 container.length))
    (hitems : items.Nodup) (hsub : items ⊆ container) (h0 : 0 ≤ targetOrder)
    (hle : targetOrder ≤ container.length - items.length) :
    ∃ becomes, MovedTo container items targetOrder becomes
      (moveTo S container items targetOrder) := by
  have hdistinct : (container.map getOrder).Nodup :=
    horders.nodup_iff.mpr (nodup_ordersFrom 0 container.length)
  have hvalid (obj : α) (hobj : obj ∈ items) : 0 ≤ getOrder obj :=
    (mem_ordersFrom.mp (horders.mem_iff.mp (List.mem_map_of_mem (hsub hobj)))).1
  -- Without items nothing is moved.
  by_cases hempty : items = []
  · subst hempty
    refine ⟨id, .of_eq ?_, horders, .refl _, nofun,
      fun _ _ _ _ _ _ h => h⟩
    simp [moveTo]
  · refine ⟨newOrder container items targetOrder, ?_⟩
    constructor
    case perm => exact perm_moveTo hdistinct hitems hsub S hvalid hempty targetOrder
    case orders => exact orders_moveTo hdistinct hitems hsub S hvalid hempty h0 (by omega)
    case contiguous => exact contiguous_moveTo hdistinct hitems hsub S targetOrder
    case keepsItems =>
      intro a ha b hb h
      exact newOrder_lt_of_items targetOrder ha hb h
    case keepsOthers =>
      intro a ha b hb hna hnb h
      -- Two items that are not moved stay as they were to each other.
      exact newOrder_lt_of_others targetOrder ha
        (fun hmem => hna ((getOrder_mem_items hdistinct hsub ha).mp hmem))
        (fun hmem => hnb ((getOrder_mem_items hdistinct hsub hb).mp hmem)) h

/-- A name with an order. -/
structure Ordered where
  name : ℕ
  order : ℤ
  deriving DecidableEq, Repr

instance : IOrderable Ordered where
  getOrder := Ordered.order
  setOrder order a := { a with order := order }
  getOrder_setOrder _ _ := rfl
  setOrder_setOrder _ _ _ := rfl
  setOrder_getOrder _ := rfl

/-- The last two of four, given in the wrong order, moved behind the first. -/
theorem moved_to_one :
    ∃ becomes, MovedTo [⟨7, 2⟩, ⟨8, 0⟩, ⟨9, 3⟩, ⟨6, 1⟩] [⟨9, 3⟩, ⟨7, 2⟩] 1 becomes
      (moveTo (OrderSorter.insertion Ordered) [⟨7, 2⟩, ⟨8, 0⟩, ⟨9, 3⟩, ⟨6, 1⟩]
        [⟨9, 3⟩, ⟨7, 2⟩] 1) :=
  moved_to _ _ _ 1 (by decide) (by decide) (by decide) (by decide) (by decide)

example :
    moveTo (OrderSorter.insertion Ordered) [⟨7, 2⟩, ⟨8, 0⟩, ⟨9, 3⟩, ⟨6, 1⟩]
      [⟨9, 3⟩, ⟨7, 2⟩] 1 = [⟨8, 0⟩, ⟨6, 3⟩, ⟨7, 1⟩, ⟨9, 2⟩] := by
  decide

end NeoSwift.Misc
