import NeoSwift.Misc.Weather.MetarDecoder

/-!
# The Decoder Comes to an End

The loop of `IMetarDecoderPart::parse` runs as long as there is a match, so it ends only if a
match leaves less than there was. None of the expressions can match nothing, as each of them
has a letter, a digit or a blank that is not optional: that much can be read off an
expression. What is removed is then at least a character, and the rounds of a loop are no
more than the characters of the text.

Rounds are told from what they return here. `loop` has a result only if it comes to an end,
whatever the result is.

## Main definitions

* `Round`, `round`: A round of the loop, which is the last one or not.
* `loop`, `decodeLoop`: The loop of a part, and the loops one after the other.
* `Decoded`: What is decoded: all parts have been through, or nothing has been read.

## Theorems

* `consumes_of_mem_decoders`: No part can match nothing.
* `length_round_lt`: A round that is not the last one makes the text shorter.
* `loop_eq_some`, `decodeLoop_eq_some`: The loops come to an end.
* `decode_terminates`: So does the decoder, with a report or the default.
-/

namespace NeoSwift.Misc

namespace Weather

namespace MetarDecoderPart

/-- A round: the loop is over, with what is returned, or it goes on. -/
inductive Round where
  | ended (result : Option (QString × CMetar))
  | again (s : QString) (metar : CMetar)

/-- The body of the loop. -/
def round (part : MetarDecoderPart) (isValid : Bool) (s : QString) (metar : CMetar) : Round :=
  match part.search true s with
  | some captures =>
      match part.validateAndSet captures metar with
      | none => .ended none
      | some metar =>
          let s := part.removeAll true 0 s
          if part.isRepeatable then .again s metar else .ended (some (s, metar))
  | none => .ended (if !part.isMandatory || isValid then some (s, metar) else none)

/-- So many rounds at most. -/
def loop (part : MetarDecoderPart) :
    ℕ → Bool → QString → CMetar → Option (Option (QString × CMetar))
  | 0, _, _, _ => none
  | fuel + 1, isValid, s, metar =>
      match part.round isValid s metar with
      | .ended result => some result
      | .again s metar => loop part fuel true s metar

/-- The expressions of a part cannot match nothing. -/
def consumes (part : MetarDecoderPart) : Bool :=
  !part.regExp.nullable && part.anywhere.all fun r => !r.nullable

variable {part : MetarDecoderPart}

/-- A match takes at least a character. -/
theorem length_lt_of_matchAt (h : part.consumes) {atStart : Bool} {s : QString}
    {m : Captures GroupName × QString} (hm : part.matchAt atStart s = some m) :
    m.2.length < s.length := by
  rcases Bool.and_eq_true_iff.mp h with ⟨hregExp, hanywhere⟩
  unfold matchAt at hm
  cases hfirst : (if atStart then part.regExp.first s else none) with
  | some m' =>
    rw [hfirst] at hm
    cases hm
    split at hfirst
    · exact Regex.length_lt_of_first (Bool.not_eq_eq_eq_not.mp hregExp) hfirst
    · cases hfirst
  | none =>
    rw [hfirst] at hm
    rcases Option.bind_eq_some_iff.mp hm with ⟨r, hr, hmatch⟩
    rw [hr] at hanywhere
    exact Regex.length_lt_of_first (Bool.not_eq_eq_eq_not.mp hanywhere) hmatch

theorem length_removeAll_le (atStart : Bool) (skip : ℕ) (s : QString) :
    (part.removeAll atStart skip s).length ≤ s.length := by
  induction s generalizing atStart skip with
  | nil => rw [removeAll]
  | cons c s ih =>
    cases skip with
    | zero =>
      unfold removeAll
      split
      · exact (ih false _).trans (Nat.le_succ _)
      · exact Nat.succ_le_succ (ih false 0)
    | succ skip =>
      exact (ih false skip).trans (Nat.le_succ _)

/-- Where there is a match, removing makes a text shorter. The induction is on the text in
    front of the match. -/
theorem length_removeAll_lt (h : part.consumes) {atStart : Bool} {s : QString}
    (hsearch : part.search atStart s ≠ none) : (part.removeAll atStart 0 s).length < s.length := by
  induction s generalizing atStart with
  | nil =>
    cases hm : part.matchAt atStart [] with
    | none =>
      rw [search, hm] at hsearch
      exact absurd rfl hsearch
    | some m => exact absurd (length_lt_of_matchAt h hm) (Nat.not_lt_zero _)
  | cons c s ih =>
    unfold search at hsearch
    unfold removeAll
    cases hm : part.matchAt atStart (c :: s) with
    | none =>
      rw [hm] at hsearch
      exact Nat.succ_lt_succ (ih hsearch)
    | some m => exact Nat.lt_succ_of_le (length_removeAll_le false _ s)

/-- A round that is not the last one makes the text shorter. -/
theorem length_round_lt (h : part.consumes) {isValid : Bool} {s s' : QString}
    {metar metar' : CMetar} (hround : part.round isValid s metar = .again s' metar') :
    s'.length < s.length := by
  unfold round at hround
  cases hsearch : part.search true s with
  | none =>
    rw [hsearch] at hround
    cases hround
  | some captures =>
    have hlt := length_removeAll_lt h (by rw [hsearch]; exact Option.some_ne_none captures)
    rw [hsearch] at hround
    dsimp only at hround
    split at hround
    · cases hround
    · split at hround
      · injection hround with hs
        rw [← hs]
        exact hlt
      · cases hround

theorem parseFrom_succ (fuel : ℕ) (isValid : Bool) (s : QString) (metar : CMetar) :
    part.parseFrom (fuel + 1) isValid s metar =
      match part.round isValid s metar with
      | .ended result => result
      | .again s metar => part.parseFrom fuel true s metar := by
  conv_lhs => unfold parseFrom
  unfold round
  cases part.search true s with
  | none => rfl
  | some captures =>
    dsimp only
    cases part.validateAndSet captures metar with
    | none => rfl
    | some metar =>
      dsimp only
      split
      case isTrue => rfl
      case isFalse => rfl

/-- The loop comes to an end, within a round for each character and another one. -/
theorem loop_eq_some (h : part.consumes) {fuel fuel' : ℕ} {s : QString} (hfuel : s.length < fuel)
    (hfuel' : s.length < fuel') (isValid : Bool) (metar : CMetar) :
    part.loop fuel isValid s metar = some (part.parseFrom fuel' isValid s metar) := by
  induction fuel generalizing fuel' isValid s metar with
  | zero => cases hfuel
  | succ fuel ih =>
    cases fuel' with
    | zero => cases hfuel'
    | succ fuel' =>
      rw [parseFrom_succ, loop]
      cases hround : part.round isValid s metar with
      | ended result => rfl
      | again s₁ metar₁ =>
        have hlt := length_round_lt h hround
        exact ih (by omega) (by omega) true metar₁

theorem length_of_round_ended {isValid : Bool} {s s' : QString} {metar metar' : CMetar}
    (hround : part.round isValid s metar = .ended (some (s', metar'))) : s'.length ≤ s.length := by
  unfold round at hround
  split at hround
  · split at hround
    · cases hround
    · split at hround
      · cases hround
      · injection hround with hresult
        rw [← (Prod.mk.inj (Option.some.inj hresult)).1]
        exact length_removeAll_le true 0 s
  · injection hround with hresult
    split at hresult
    · rw [(Prod.mk.inj (Option.some.inj hresult)).1]
    · cases hresult

/-- A part leaves no more than there was. -/
theorem length_parseFrom_le (h : part.consumes) {fuel : ℕ} {isValid : Bool} {s s' : QString}
    {metar metar' : CMetar} (hparse : part.parseFrom fuel isValid s metar = some (s', metar')) :
    s'.length ≤ s.length := by
  induction fuel generalizing isValid s metar with
  | zero => cases hparse
  | succ fuel ih =>
    rw [parseFrom_succ] at hparse
    cases hround : part.round isValid s metar with
    | ended result =>
      rw [hround] at hparse
      dsimp only at hparse
      rw [hparse] at hround
      exact length_of_round_ended hround
    | again s₁ metar₁ =>
      rw [hround] at hparse
      exact (ih hparse).trans (length_round_lt h hround).le

end MetarDecoderPart

/-- The loops of the parts, so many rounds each at most. -/
def decodeLoop (fuel : ℕ) : List MetarDecoderPart → QString → CMetar → Option (Option CMetar)
  | [], _, metar => some (some metar)
  | part :: parts, s, metar =>
      match part.loop fuel false s metar with
      | none => none
      | some none => some none
      | some (some (s, metar)) => decodeLoop fuel parts s metar

/-- What is decoded: a report that went through all parts, with its text, or the default one. -/
def Decoded (metarString : QString) (result : CMetar) : Prop :=
  (∃ metar, decodeParts decoders metarString.simplified {} = some metar ∧
      result = { metar with m_metarMessage := metarString }) ∨
    (decodeParts decoders metarString.simplified {} = none ∧ result = {})

theorem consumes_of_mem_decoders : ∀ part ∈ decoders, part.consumes := by
  decide

/-- The loops of the parts come to an end, as no part makes the text longer. -/
theorem decodeLoop_eq_some {parts : List MetarDecoderPart} (hparts : ∀ part ∈ parts, part.consumes)
    {fuel : ℕ} {s : QString} (hfuel : s.length < fuel) (metar : CMetar) :
    decodeLoop fuel parts s metar = some (decodeParts parts s metar) := by
  induction parts generalizing s metar with
  | nil => rfl
  | cons part parts ih =>
    have hpart := hparts part List.mem_cons_self
    unfold decodeLoop decodeParts
    rw [MetarDecoderPart.loop_eq_some hpart hfuel (Nat.lt_succ_self _) false metar]
    unfold MetarDecoderPart.parse
    cases hparse : part.parseFrom (s.length + 1) false s metar with
    | none => rfl
    | some result =>
      rcases result with ⟨s', metar'⟩
      have hle := MetarDecoderPart.length_parseFrom_le hpart hparse
      exact ih (fun p hp => hparts p (List.mem_cons_of_mem part hp)) (by omega) metar'

theorem decoded_decode (metarString : QString) : Decoded metarString (decode metarString) := by
  unfold Decoded decode
  cases decodeParts decoders metarString.simplified {} with
  | none => exact .inr ⟨rfl, rfl⟩
  | some metar => exact .inl ⟨metar, rfl, rfl⟩

/-- Every match of a part takes at least a character, the loop of each part comes to an end on
    every text, and so the decoder does, with a report and its text or with the default. -/
theorem decode_terminates :
    (∀ part ∈ decoders, ∀ s,
      (∀ atStart m, part.matchAt atStart s = some m → m.2.length < s.length) ∧
      ∀ metar, ∃ enough, ∀ fuel ≥ enough,
        part.loop fuel false s metar = some (part.parse s metar)) ∧ ∀ metarString : QString,
      (∃ enough, ∀ fuel ≥ enough, decodeLoop fuel decoders metarString.simplified {} =
        some (decodeParts decoders metarString.simplified {})) ∧
      Decoded metarString (decode metarString) := by
  refine ⟨fun part hpart s => ⟨?_, fun metar => ⟨s.length + 1, fun fuel hfuel => ?_⟩⟩,
    fun metarString => ⟨⟨metarString.simplified.length + 1, fun fuel hfuel => ?_⟩, ?_⟩⟩
  · intro atStart m hm
    exact MetarDecoderPart.length_lt_of_matchAt (consumes_of_mem_decoders part hpart) hm
  · exact MetarDecoderPart.loop_eq_some (consumes_of_mem_decoders part hpart) hfuel
      (Nat.lt_succ_self _) false metar
  · exact decodeLoop_eq_some consumes_of_mem_decoders hfuel {}
  · exact decoded_decode metarString

end Weather

end NeoSwift.Misc
