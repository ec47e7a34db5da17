import NeoSwift.Lib.ReplayWindow
import NeoSwift.Afv.Crypto.CryptoDtoHeaderDto

/-!
# Crypto Channels

`CCryptoDtoChannel`: the keys of a voice connection, the sequence number of
the next packet to send, and a window over the sequence numbers received so
far. The window is an array of fixed size that is filled from the front and
then overwritten in place at its minimum.

The array refines a replay window over the natural numbers: the numbers in its
filled part are the remembered ones, and `checkReceivedSequence` offers it a
number. What holds of every run of the abstract window therefore holds of every
run of the array.

## Main definitions

* `CryptoDtoChannel`: A channel whose history is consistent.
* `CryptoDtoChannel.create`: The constructor.
* `CryptoDtoChannel.checkReceivedSequence`: The window check.
* `CryptoDtoChannel.receiver`: The channel as a machine over sequence numbers.

## Theorems

* `getMin_spec`: The minimum of a non-empty history and where it is.
* `checkReceivedSequence_refines`: The check offers to the abstract window.
* `receivedSequences_window`: No number twice, a bounded history, everything
  forgotten below everything remembered, and new maxima accepted.
-/

namespace NeoSwift.Afv

/-- The numbers received so far are the first `depth` entries of the history,
    and none of them is there twice. -/
structure CryptoDtoChannel where
  aeadTransmitKey : QByteArray
  aeadReceiveKey : QByteArray
  transmitSequence : UInt32
  receiveSequenceHistory : List UInt32
  receiveSequenceHistoryDepth : ℕ
  receiveSequenceSizeMaxSize : ℕ
  hmacKey : QByteArray
  channelTag : QString
  length_transmitKey : aeadTransmitKey.length = keyBytes
  length_receiveKey : aeadReceiveKey.length = keyBytes
  length_history : receiveSequenceHistory.length = receiveSequenceSizeMaxSize
  depth_le : receiveSequenceHistoryDepth ≤ receiveSequenceSizeMaxSize
  maxSize_pos : 0 < receiveSequenceSizeMaxSize
  nodup_received : (receiveSequenceHistory.take receiveSequenceHistoryDepth).Nodup

/-- The loop of `getMin` over the entries from index `i` on. -/
def getMinFrom : List UInt32 → ℕ → UInt32 × ℤ → UInt32 × ℤ
  | [], _, best => best
  | x :: xs, i, best => getMinFrom xs (i + 1) (if x ≤ best.1 then (x, (i : ℤ)) else best)

theorem getMinFrom_spec (xs : List UInt32) (i : ℕ) (best : UInt32 × ℤ) :
    (getMinFrom xs i best).1 ≤ best.1 ∧ (∀ y ∈ xs, (getMinFrom xs i best).1 ≤ y) ∧
      (getMinFrom xs i best = best ∨ ∃ k : ℕ, xs[k]? = some (getMinFrom xs i best).1
          ∧ (getMinFrom xs i best).2 = ((i + k : ℕ) : ℤ)) := by
  induction xs generalizing i best with
  | nil => exact ⟨UInt32.le_refl _, by simp, Or.inl rfl⟩
  | cons x xs ih =>
      rw [getMinFrom]
      by_cases hx : x ≤ best.1
      · rw [if_pos hx]
        rcases ih (i + 1) (x, (i : ℤ)) with ⟨hle, hall, hat⟩
        -- An element not above the best so far takes its place, with its own index.
        refine ⟨UInt32.le_trans hle hx, ?_, Or.inr ?_⟩
        · intro y hy
          rcases List.mem_cons.mp hy with rfl | hy
          · exact hle
          · exact hall y hy
        · rcases hat with heq | ⟨k, hget, hidx⟩
          · exact ⟨0, by rw [heq]; rfl, by rw [heq, Nat.add_zero]⟩
          · exact ⟨k + 1, by rw [List.getElem?_cons_succ, hget], by rw [hidx]; congr 1; omega⟩
      · rw [if_neg hx]
        rcases ih (i + 1) best with ⟨hle, hall, hat⟩
        -- Otherwise the best so far is kept, and it is below the element.
        refine ⟨hle, ?_, ?_⟩
        · intro y hy
          rcases List.mem_cons.mp hy with rfl | hy
          · exact UInt32.le_of_lt (UInt32.lt_of_le_of_lt hle (UInt32.not_le.mp hx))
          · exact hall y hy
        · rcases hat with heq | ⟨k, hget, hidx⟩
          · exact Or.inl heq
          · exact Or.inr ⟨k + 1, by rw [List.getElem?_cons_succ, hget],
              by rw [hidx]; congr 1; omega⟩

namespace CryptoDtoChannel

variable (c : CryptoDtoChannel)

/-- The filled part of the history. -/
def received : List UInt32 :=
  c.receiveSequenceHistory.take c.receiveSequenceHistoryDepth

/-- The constructor: both keys must have the size of the cipher, and the
    history has room for at least one number. -/
def create (channelConfig : CryptoDtoChannelConfigDto) (receiveSequenceHistorySize : Int32) :
    Except String CryptoDtoChannel :=
  if htransmit : channelConfig.aeadTransmitKey.length = keyBytes then
    if hreceive : channelConfig.aeadReceiveKey.length = keyBytes then
      .ok {
        aeadTransmitKey := channelConfig.aeadTransmitKey
        aeadReceiveKey := channelConfig.aeadReceiveKey
        transmitSequence := 0
        receiveSequenceHistory := List.replicate (max receiveSequenceHistorySize.toInt 1).toNat 0
        receiveSequenceHistoryDepth := 0
        receiveSequenceSizeMaxSize := (max receiveSequenceHistorySize.toInt 1).toNat
        hmacKey := channelConfig.hmacKey
        channelTag := channelConfig.channelTag
        length_transmitKey := htransmit
        length_receiveKey := hreceive
        length_history := List.length_replicate
        depth_le := Nat.zero_le _
        maxSize_pos := by omega
        nodup_received := by simp }
    else .error "wrong receive key size"
  else .error "wrong transmit key size"

/-- `getTransmitKey(mode)`. -/
def getTransmitKey : CryptoDtoMode → QByteArray
  | .aeadChaCha20Poly1305 => c.aeadTransmitKey
  | .undefined => []
  | .none => []

/-- `getTransmitKey(mode, sequenceToSend)`: the key, the sequence number to
    send, and the channel that will send the next one. -/
def getTransmitKeySequence (mode : CryptoDtoMode) :
    QByteArray × UInt32 × CryptoDtoChannel :=
  (c.getTransmitKey mode, c.transmitSequence,
    { c with transmitSequence := c.transmitSequence + 1 })

def getChannelTag : QString := c.channelTag

def getReceiveKey : CryptoDtoMode → QByteArray
  | .aeadChaCha20Poly1305 => c.aeadReceiveKey
  | .undefined => []
  | .none => []

def contains (sequence : UInt32) : Bool :=
  c.received.any (fun x => x == sequence)

/-- The minimum of the filled part and its index, `-1` if there is none. -/
def getMin : UInt32 × ℤ :=
  getMinFrom c.received 0 (0xffffffff, -1)

theorem length_received : c.received.length = c.receiveSequenceHistoryDepth := by
  have hle := c.depth_le
  rw [received, List.length_take, c.length_history, Nat.min_eq_left hle]

theorem contains_iff (sequence : UInt32) : c.contains sequence = true ↔ sequence ∈ c.received := by
  simp [contains]

/-- In a non-empty history the minimum is where `getMin` says it is. -/
theorem getMin_spec (h : 0 < c.receiveSequenceHistoryDepth) :
    (∀ y ∈ c.received, c.getMin.1 ≤ y) ∧
      ∃ k : ℕ, c.getMin.2 = (k : ℤ) ∧ c.received[k]? = some c.getMin.1 := by
  have hlen := c.length_received
  rw [getMin]
  cases hrec : c.received with
  | nil =>
      rw [hrec, List.length_nil] at hlen
      omega
  | cons x xs =>
      have hmax : x ≤ 0xffffffff := by
        exact Nat.le_of_lt_succ x.toNat_lt
      rw [getMinFrom, if_pos hmax]
      rcases getMinFrom_spec xs 1 (x, ((0 : ℕ) : ℤ)) with ⟨hle, hall, hat⟩
      refine ⟨?_, ?_⟩
      · intro y hy
        rcases List.mem_cons.mp hy with rfl | hy
        · exact hle
        · exact hall y hy
      · rcases hat with heq | ⟨k, hget, hidx⟩
        · exact ⟨0, by rw [heq], by rw [heq]; rfl⟩
        · exact ⟨k + 1, by rw [hidx, Nat.add_comm], by rw [List.getElem?_cons_succ, hget]⟩

/-- In the fill phase the number goes behind the ones received so far. -/
theorem take_set_depth (sequence : UInt32)
    (h : c.receiveSequenceHistoryDepth < c.receiveSequenceSizeMaxSize) :
    (c.receiveSequenceHistory.set c.receiveSequenceHistoryDepth sequence).take
      (c.receiveSequenceHistoryDepth + 1) = c.received ++ [sequence] := by
  have hlt : c.receiveSequenceHistoryDepth < c.receiveSequenceHistory.length := by
    rw [c.length_history]
    exact h
  rw [List.take_add_one, List.take_set_of_le (Nat.le_refl _), List.getElem?_set_self hlt]
  rfl

/-- Once the history is full all of it is received numbers. -/
theorem received_of_full (h : ¬c.receiveSequenceHistoryDepth < c.receiveSequenceSizeMaxSize) :
    c.received = c.receiveSequenceHistory :=
  List.take_of_length_le (by rw [c.length_history]; omega)

/-- The channel once a new number has been appended in the fill phase. -/
def append (sequence : UInt32) (hnew : sequence ∉ c.received)
    (h : c.receiveSequenceHistoryDepth < c.receiveSequenceSizeMaxSize) : CryptoDtoChannel :=
  { c with
    receiveSequenceHistory :=
      c.receiveSequenceHistory.set c.receiveSequenceHistoryDepth sequence
    receiveSequenceHistoryDepth := c.receiveSequenceHistoryDepth + 1
    length_history := by rw [List.length_set, c.length_history]
    depth_le := h
    nodup_received := by
      rw [c.take_set_depth sequence h, List.nodup_append]
      refine ⟨c.nodup_received, List.nodup_singleton _, ?_⟩
      rintro a ha b hb rfl
      exact hnew (List.mem_singleton.mp hb ▸ ha) }

/-- The channel once a new number has been written over the minimum. -/
def replaceMin (sequence : UInt32) (hnew : sequence ∉ c.received)
    (h : ¬c.receiveSequenceHistoryDepth < c.receiveSequenceSizeMaxSize) : CryptoDtoChannel :=
  { c with
    receiveSequenceHistory := c.receiveSequenceHistory.set c.getMin.2.toNat sequence
    length_history := by rw [List.length_set, c.length_history]
    nodup_received := by
      rw [c.received_of_full h] at hnew
      have hnodup := c.nodup_received
      rw [show c.receiveSequenceHistory.take c.receiveSequenceHistoryDepth
        = c.receiveSequenceHistory from c.received_of_full h] at hnodup
      rw [List.take_of_length_le (by rw [List.length_set, c.length_history]; omega)]
      exact hnodup.set hnew }

/-- Whether a received number is new, and the channel that has seen it. -/
def checkReceivedSequence (sequenceReceived : UInt32) : Bool × CryptoDtoChannel :=
  if hc : c.contains sequenceReceived = true then (false, c)
  else
    have hnew : sequenceReceived ∉ c.received := fun hmem => hc ((c.contains_iff _).mpr hmem)
    if hd : c.receiveSequenceHistoryDepth < c.receiveSequenceSizeMaxSize then
      (true, c.append sequenceReceived hnew hd)
    else if sequenceReceived < c.getMin.1 then (false, c)
    else (true, c.replaceMin sequenceReceived hnew hd)

/-- The window the history stands for. -/
def toWindow : ReplayWindow ℕ where
  capacity := c.receiveSequenceSizeMaxSize
  remembered := (c.received.map UInt32.toNat).toFinset
  card_le := by
    refine (List.toFinset_card_le _).trans ?_
    rw [List.length_map, c.length_received]
    exact c.depth_le

theorem mem_remembered (x : UInt32) : x.toNat ∈ c.toWindow.remembered ↔ x ∈ c.received := by
  simp [toWindow, UInt32.toNat_inj]

theorem card_remembered : c.toWindow.remembered.card = c.receiveSequenceHistoryDepth := by
  have hnodup : (c.received.map UInt32.toNat).Nodup :=
    c.nodup_received.map (fun _ _ h => UInt32.toNat_inj.mp h)
  simp only [toWindow]
  rw [List.toFinset_card_of_nodup hnodup, List.length_map, c.length_received]

/-- Two windows with the same capacity and the same values are the same. -/
theorem toWindow_ext {c : CryptoDtoChannel} {w : ReplayWindow ℕ}
    (hcap : c.receiveSequenceSizeMaxSize = w.capacity)
    (hmem : ∀ n, n ∈ c.toWindow.remembered ↔ n ∈ w.remembered) : c.toWindow = w := by
  have hrem : c.toWindow.remembered = w.remembered := Finset.ext hmem
  cases w
  subst hcap hrem
  rfl

theorem toWindow_append (x : UInt32) (hnew : x ∉ c.received)
    (hd : c.receiveSequenceHistoryDepth < c.receiveSequenceSizeMaxSize)
    (hacc : c.toWindow.Accepts x.toNat) :
    (c.append x hnew hd).toWindow = (c.toWindow.offer x.toNat).1 := by
  have hroom : c.toWindow.remembered.card < c.toWindow.capacity := by
    rw [card_remembered]
    exact hd
  have hreceived : (c.append x hnew hd).received = c.received ++ [x] := c.take_set_depth x hd
  refine toWindow_ext ?_ (fun n => ?_)
  · rw [ReplayWindow.capacity_offer]
    rfl
  · rw [ReplayWindow.offer_of_accepts hacc]
    simp only [ReplayWindow.admitted, if_pos hroom]
    simp [toWindow, hreceived]

/-- Overwriting one entry of a list without duplicates loses that entry only. -/
theorem mem_set_of_nodup {l : List UInt32} {i : ℕ} {m x y : UInt32} (hnodup : l.Nodup)
    (hi : l[i]? = some m) : y ∈ l.set i x ↔ y = x ∨ (y ∈ l ∧ y ≠ m) := by
  rcases List.getElem?_eq_some_iff.mp hi with ⟨hlt, hm⟩
  have hsplit : l = l.take i ++ m :: l.drop (i + 1) := by
    rw [← hm, List.getElem_cons_drop, List.take_append_drop]
  have hset : l.set i x = l.take i ++ x :: l.drop (i + 1) := by
    rw [List.set_eq_take_append_cons_drop, if_pos hlt]
  rw [hsplit, List.nodup_append, List.nodup_cons] at hnodup
  rcases hnodup with ⟨_, ⟨hdrop, _⟩, hdisj⟩
  have htake : m ∉ l.take i := fun hc => hdisj m hc m List.mem_cons_self rfl
  rw [hset]
  conv_rhs => rw [hsplit]
  simp only [List.mem_append, List.mem_cons]
  -- The entry occurs once, so it is neither in front of its place nor behind.
  constructor
  · rintro (hy | rfl | hy)
    · exact Or.inr ⟨Or.inl hy, fun hc => htake (hc ▸ hy)⟩
    · exact Or.inl rfl
    · exact Or.inr ⟨Or.inr (Or.inr hy), fun hc => hdrop (hc ▸ hy)⟩
  · rintro (rfl | ⟨hy | rfl | hy, hne⟩)
    · exact Or.inr (Or.inl rfl)
    · exact Or.inl hy
    · exact absurd rfl hne
    · exact Or.inr (Or.inr hy)

theorem toWindow_replaceMin (x : UInt32) (hnew : x ∉ c.received)
    (hd : ¬c.receiveSequenceHistoryDepth < c.receiveSequenceSizeMaxSize)
    (hacc : c.toWindow.Accepts x.toNat) :
    (c.replaceMin x hnew hd).toWindow = (c.toWindow.offer x.toNat).1 := by
  have hpos := c.maxSize_pos
  -- The history is full, so the number takes the place of the least.
  have hfull : ¬c.toWindow.remembered.card < c.toWindow.capacity := by
    rw [card_remembered]
    exact hd
  rcases c.getMin_spec (by omega) with ⟨hmin, k, hidx, hget⟩
  have hreceived : (c.replaceMin x hnew hd).received = c.received.set k x := by
    have hfilled : (c.replaceMin x hnew hd).received
        = c.receiveSequenceHistory.set c.getMin.2.toNat x :=
      (c.replaceMin x hnew hd).received_of_full hd
    rw [hfilled, hidx, Int.toNat_natCast, c.received_of_full hd]
  refine toWindow_ext ?_ (fun n => ?_)
  · rw [ReplayWindow.capacity_offer]
    rfl
  · rw [ReplayWindow.offer_of_accepts hacc]
    simp only [ReplayWindow.admitted, if_neg hfull, Finset.mem_insert, mem_aboveMin]
    have hnodup : c.received.Nodup := c.nodup_received
    simp only [toWindow, hreceived, List.mem_toFinset, List.mem_map, mem_set_of_nodup hnodup hget]
    -- The set with the least replaced is what the window keeps above its least.
    constructor
    · rintro ⟨y, rfl | ⟨hy, hne⟩, rfl⟩
      · exact Or.inl rfl
      · -- What stays is above the minimum, which is remembered.
        refine Or.inr ⟨⟨y, hy, rfl⟩, _, ⟨_, List.mem_of_getElem? hget, rfl⟩, ?_⟩
        have hle := UInt32.le_iff_toNat_le.mp (hmin y hy)
        have hne' : c.getMin.1.toNat ≠ y.toNat := fun hc => hne (UInt32.toNat_inj.mp hc).symm
        omega
    · rintro (rfl | ⟨⟨y, hy, rfl⟩, _, ⟨z, hz, rfl⟩, hzy⟩)
      · exact ⟨x, Or.inl rfl, rfl⟩
      · refine ⟨y, Or.inr ⟨hy, ?_⟩, rfl⟩
        rintro rfl
        have hle := UInt32.le_iff_toNat_le.mp (hmin z hz)
        omega

/-- A full history accepts a new number exactly when it lies above the
    minimum. -/
theorem accepts_of_full (x : UInt32) (hnew : x ∉ c.received)
    (hd : ¬c.receiveSequenceHistoryDepth < c.receiveSequenceSizeMaxSize) :
    c.toWindow.Accepts x.toNat ↔ ¬x < c.getMin.1 := by
  have hpos := c.maxSize_pos
  rcases c.getMin_spec (by omega) with ⟨hmin, k, _, hget⟩
  have hmem : c.getMin.1 ∈ c.received := List.mem_of_getElem? hget
  rw [ReplayWindow.Accepts, mem_remembered, card_remembered, UInt32.lt_iff_toNat_lt]
  constructor
  · rintro ⟨_, hroom | ⟨n, hn, hlt⟩⟩
    · exact absurd hroom hd
    · simp only [toWindow, List.mem_toFinset, List.mem_map] at hn
      rcases hn with ⟨y, hy, rfl⟩
      have hle := UInt32.le_iff_toNat_le.mp (hmin y hy)
      omega
  · intro hge
    have hne : c.getMin.1.toNat ≠ x.toNat := fun hc => hnew (UInt32.toNat_inj.mp hc ▸ hmem)
    exact ⟨hnew, Or.inr ⟨_, (c.mem_remembered _).mpr hmem, by omega⟩⟩

/-- The check offers the number to the window the history stands for: it
    accepts what the window accepts and leaves what the window leaves. -/
theorem checkReceivedSequence_refines (x : UInt32) :
    (c.checkReceivedSequence x).2.toWindow = (c.toWindow.offer x.toNat).1 ∧
      ((c.checkReceivedSequence x).1 = true ↔ c.toWindow.Accepts x.toNat) := by
  by_cases hc : c.contains x = true
  · have hnot : ¬c.toWindow.Accepts x.toNat := fun hacc =>
      hacc.1 ((c.mem_remembered x).mpr ((c.contains_iff x).mp hc))
    rw [checkReceivedSequence, dif_pos hc, ReplayWindow.offer_of_not_accepts hnot]
    exact ⟨rfl, by simp [hnot]⟩
  · have hnew : x ∉ c.received := fun hmem => hc ((c.contains_iff x).mpr hmem)
    by_cases hd : c.receiveSequenceHistoryDepth < c.receiveSequenceSizeMaxSize
    · -- With room left everything new is accepted.
      have hacc : c.toWindow.Accepts x.toNat := by
        refine ⟨fun hmem => hnew ((c.mem_remembered x).mp hmem), Or.inl ?_⟩
        rw [card_remembered]
        exact hd
      simp only [checkReceivedSequence, dif_neg hc, dif_pos hd, hacc, and_true]
      exact toWindow_append c x hnew hd hacc
    · have hiff := c.accepts_of_full x hnew hd
      -- Without room only what is not below the least is accepted.
      by_cases hlt : x < c.getMin.1
      · have hnot : ¬c.toWindow.Accepts x.toNat := fun hacc => hiff.mp hacc hlt
        simp only [checkReceivedSequence, dif_neg hc, dif_neg hd, if_pos hlt,
          ReplayWindow.offer_of_not_accepts hnot]
        exact ⟨trivial, by simp [hnot]⟩
      · have hacc := hiff.mpr hlt
        simp only [checkReceivedSequence, dif_neg hc, dif_neg hd, if_neg hlt, hacc, and_true]
        exact toWindow_replaceMin c x hnew hd hacc

/-- The channel as a machine that emits the numbers it accepts. -/
def receiver : Machine CryptoDtoChannel UInt32 UInt32 where
  step c x :=
    ((c.checkReceivedSequence x).2, if (c.checkReceivedSequence x).1 then [x] else [])

/-- A channel against the numbers it has accepted. -/
def Consistent (accepted : List UInt32) : Prop :=
  c.toWindow.Sound (accepted.map UInt32.toNat)

/-- One received number keeps the channel consistent. -/
theorem consistent_step (accepted : List UInt32) (x : UInt32) (h : c.Consistent accepted) :
    (receiver.step c x).1.Consistent (accepted ++ (receiver.step c x).2) := by
  rcases c.checkReceivedSequence_refines x with ⟨hwindow, hiff⟩
  have hout : ((receiver.step c x).2).map UInt32.toNat = (c.toWindow.offer x.toNat).2 := by
    by_cases hacc : c.toWindow.Accepts x.toNat
    · rw [ReplayWindow.offer_of_accepts hacc]
      simp [receiver, if_pos (hiff.mpr hacc)]
    · rw [ReplayWindow.offer_of_not_accepts hacc]
      simp [receiver, if_neg (fun hb => hacc (hiff.mp hb))]
  rw [Consistent, List.map_append, hout]
  simp only [receiver, hwindow]
  exact ReplayWindow.sound_offer _ _ _ h

/-- The history keeps its size. -/
theorem maxSize_step (x : UInt32) :
    (receiver.step c x).1.receiveSequenceSizeMaxSize = c.receiveSequenceSizeMaxSize := by
  have hcap := congrArg ReplayWindow.capacity (c.checkReceivedSequence_refines x).1
  exact hcap.trans (c.toWindow.capacity_offer x.toNat)

/-- A run of received numbers keeps the channel consistent and its size. -/
theorem consistent_run (h : c.Consistent []) (seqs : List UInt32) :
    (receiver.run c seqs).1.Consistent (receiver.run c seqs).2 ∧
      (receiver.run c seqs).1.receiveSequenceSizeMaxSize = c.receiveSequenceSizeMaxSize := by
  have hrun := receiver.run_invariant
    (fun c' accepted => c'.Consistent accepted
      ∧ c'.receiveSequenceSizeMaxSize = c.receiveSequenceSizeMaxSize)
    (fun c' accepted x hc => ⟨consistent_step c' accepted x hc.1, (maxSize_step c' x).trans hc.2⟩)
    seqs c [] ⟨h, rfl⟩
  rwa [List.nil_append] at hrun

/-- A channel just created has received nothing. -/
theorem create_spec {config : CryptoDtoChannelConfigDto} {n : Int32} {c : CryptoDtoChannel}
    (h : create config n = .ok c) :
    c.received = [] ∧ c.receiveSequenceSizeMaxSize = (max n.toInt 1).toNat := by
  unfold create at h
  split at h
  · split at h
    · cases h
      exact ⟨List.take_zero, rfl⟩
    · cases h
  · cases h

theorem consistent_of_received_nil {c : CryptoDtoChannel} (h : c.received = []) :
    c.Consistent [] := by
  refine ⟨List.nodup_nil, ?_, by simp, by simp⟩
  intro y hy
  simp [toWindow, h] at hy

/-- On a channel with room for `n ≥ 1` numbers, after any run of received
    sequence numbers: none was accepted twice, at most `n` are remembered, every
    accepted number that is no longer remembered is smaller than every one that
    is, and a number greater than all accepted ones will be accepted. -/
theorem receivedSequences_window (config : CryptoDtoChannelConfigDto) (n : Int32) (hn : 1 ≤ n)
    (c : CryptoDtoChannel) (hc : create config n = .ok c) (seqs : List UInt32) :
    (receiver.run c seqs).2.Nodup ∧ ((receiver.run c seqs).1.received.length : ℤ) ≤ n.toInt ∧
      (∀ a ∈ (receiver.run c seqs).2, a ∉ (receiver.run c seqs).1.received →
        ∀ y ∈ (receiver.run c seqs).1.received, a < y) ∧
      (∀ x : UInt32, (∀ a ∈ (receiver.run c seqs).2, a < x) →
        ((receiver.run c seqs).1.checkReceivedSequence x).1 = true) := by
  rcases create_spec hc with ⟨hempty, hsize⟩
  rcases consistent_run c (consistent_of_received_nil hempty) seqs with ⟨hsound, hsame⟩
  have hle : (1 : Int32).toInt ≤ n.toInt := Int32.le_iff_toInt_le.mp hn
  have hone : (1 : Int32).toInt = 1 := by decide
  generalize hrun : receiver.run c seqs = r at hsound hsame ⊢
  rcases r with ⟨c', accepted⟩
  simp only at hsound hsame ⊢
  refine ⟨hsound.nodup.of_map _, ?_, ?_, ?_⟩
  · -- No more is remembered than the history has room for.
    have hdepth := c'.depth_le
    rw [c'.length_received]
    omega
  · intro a ha hna y hy
    -- What was forgotten is below all that is remembered.
    exact hsound.forgotten_lt a.toNat (List.mem_map_of_mem ha)
      (fun hmem => hna ((c'.mem_remembered a).mp hmem)) y.toNat ((c'.mem_remembered y).mpr hy)
  · intro x hx
    refine (c'.checkReceivedSequence_refines x).2.mpr
      (hsound.accepts_of_forall_lt c'.maxSize_pos ?_)
    intro m hm
    rcases List.mem_map.mp hm with ⟨a, ha, rfl⟩
    exact UInt32.lt_iff_toNat_lt.mp (hx a ha)

/-- A configuration with keys of the right size. -/
def zeroKeyConfig : CryptoDtoChannelConfigDto where
  channelTag := "V"
  aeadReceiveKey := List.replicate keyBytes 0
  aeadTransmitKey := List.replicate keyBytes 0
  hmacKey := []

/-- A channel with that configuration and room for ten numbers. -/
def zeroKeyChannel : CryptoDtoChannel :=
  (create zeroKeyConfig 10).toOption.get (by decide)

-- With room for three, `2` gives way to `9` and is refused from then on.
theorem receivedSequences_window_three :
    ∃ c, create zeroKeyConfig 3 = .ok c ∧ (receiver.run c [5, 2, 7, 9, 2, 5]).2.Nodup ∧
      ((receiver.run c [5, 2, 7, 9, 2, 5]).1.received.length : ℤ) ≤ (3 : Int32).toInt ∧
      (∀ a ∈ (receiver.run c [5, 2, 7, 9, 2, 5]).2,
        a ∉ (receiver.run c [5, 2, 7, 9, 2, 5]).1.received →
          ∀ y ∈ (receiver.run c [5, 2, 7, 9, 2, 5]).1.received, a < y) ∧
      (∀ x : UInt32, (∀ a ∈ (receiver.run c [5, 2, 7, 9, 2, 5]).2, a < x) →
        ((receiver.run c [5, 2, 7, 9, 2, 5]).1.checkReceivedSequence x).1 = true) :=
  ⟨_, rfl, receivedSequences_window zeroKeyConfig 3 (by decide) _ rfl [5, 2, 7, 9, 2, 5]⟩

end CryptoDtoChannel

end NeoSwift.Afv
