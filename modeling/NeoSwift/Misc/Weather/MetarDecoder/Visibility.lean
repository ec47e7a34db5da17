import NeoSwift.Misc.Weather.MetarDecoder.Header

/-!
# Visibility

How the decoder takes the visibility from the front of a text. A distance in miles has a
fraction, or a whole part, or both with a blank between them, so that the numerator of a
fraction that stands alone is taken for the whole part first. What gets the decoder back is
that no distance goes on with a slash.

The cardinal directions begin each other, but they end at a blank.

Of the runway visual ranges one is taken.

## Theorems

* `parse_meters`, `parse_whole`, `parse_mixed`, `parse_fraction`, `parse_visibility`: The
  visibility.
* `attempts_variations`: It is not taken for a variation of the wind.
* `parse_runwayVisualRange`: A runway visual range.
-/

namespace NeoSwift.Misc

namespace Weather

open Pq

/-! ## Visibility -/

section Visibility

variable (rest : QString) (metar : CMetar)

theorem distanceText_eq_cons (n : ℕ) : ∃ c s, distanceText n = c :: s ∧ c.isDigit = true := by
  unfold distanceText
  split
  · exact ⟨_, _, rfl, Numeral.isDigit_digitChar (Nat.mod_lt _ (by omega))⟩
  · exact ⟨_, _, rfl, Numeral.isDigit_digitChar (Nat.mod_lt _ (by omega))⟩

theorem length_distanceText (n : ℕ) : (distanceText n).length ≤ 2 := by
  unfold distanceText
  split
  · rw [length_padded]; decide
  · rw [length_padded]

theorem first_digit {c : Char} (hc : c.isDigit = true) (s : QString) :
    digit.first (c :: s) = some ([], s) := Regex.first_char hc

theorem first_distanceText (n : ℕ) {c : Char} (hc : c.isDigit = false) (s : QString) :
    upToTwoDigits.first (distanceText n ++ c :: s) = some ([], c :: s) := by
  have hdigit : ∀ m, (Nat.digitChar (m % 10)).isDigit = true := fun m =>
    Numeral.isDigit_digitChar (Nat.mod_lt m (by omega))
  refine Regex.first_opt ?_
  unfold distanceText
  split
  · exact Regex.first_seq (first_digit (hdigit _) _) (Regex.first_opt_skip (attempts_digit hc s))
  · exact Regex.first_seq (first_digit (hdigit _) _) (Regex.first_opt (first_digit (hdigit _) _))

theorem visibilityDistance_distanceText {n : ℕ} (hn : n < 100) :
    visibilityDistance (distanceText n) = some (n : ℚ) := by
  rcases distanceText_eq_cons n with ⟨c, s, hcons, _⟩
  unfold visibilityDistance
  rw [if_neg (hcons ▸ List.cons_ne_nil c s)]
  unfold distanceText
  split
  · exact toDouble?_padded (by omega) (by omega)
  · exact toDouble?_padded (by omega) (by omega)

theorem visibilityFraction_text (quotient : Fraction) :
    visibilityFraction (padded 1 quotient.numerator) (padded 1 quotient.denominator)
      = some quotient.value := by
  rcases quotient with ⟨numerator, denominator, hnumerator, hdenominator⟩
  have hread : ∀ n : Fin 10, (padded 1 n).toDouble? = some (n.val : ℚ) := fun n =>
    toDouble?_padded (by omega) (by omega)
  have hone : ∀ n : Fin 10, 0 < n.val → ¬ (n.val : ℚ) < 1 := by
    intro n hn
    exact not_lt.mpr (by exact_mod_cast hn)
  unfold visibilityFraction
  rw [if_neg fun h => h.elim (padded_ne_nil (by omega)) (padded_ne_nil (by omega)),
    hread numerator, hread denominator]
  dsimp only
  rw [if_neg fun h => h.elim (hone denominator hdenominator) (hone numerator hnumerator)]
  rfl

/-- What is in front of the fraction of a distance, and what the fraction is. -/
def fractionCaptures (quotient : Fraction) : Captures GroupName :=
  [(.numerator, padded 1 quotient.numerator), (.denominator, padded 1 quotient.denominator)]

theorem unitText_eq_cons (unit : DistanceUnit) :
    ∃ c, unit.text = [c, 'M'] ∧ c.isDigit = false ∧ c ≠ ' ' ∧ c ≠ 'M' ∧ c ≠ 'V' := by
  cases unit
  · exact ⟨'S', by decide⟩
  · exact ⟨'K', by decide⟩

theorem first_distanceUnit (unit : DistanceUnit) (s : QString) :
    (Regex.group GroupName.unit (.oneOf ["SM", "KM"])).first (unit.text ++ s)
      = some ([(.unit, unit.text)], s) := by
  have hmem : unit.text ∈ ["SM".toList, "KM".toList] := by cases unit <;> decide
  exact Regex.first_group (Regex.first_of_attempts
    (Regex.attempts_oneOf_append (by decide) hmem s))

theorem first_distanceRest_whole (unit : DistanceUnit) (s : QString) :
    distanceRest.first (unit.text ++ s) = some ([] ++ [] ++ [] ++ [(.unit, unit.text)], s) := by
  rcases unitText_eq_cons unit with ⟨c, hunit, hdigit, hblank, hM, _⟩
  have hfirst := first_distanceUnit unit s
  rw [hunit] at hfirst ⊢
  refine Regex.first_seq (Regex.first_seq (Regex.first_seq
    (Regex.first_opt_skip (attempts_blank hblank _))
    (Regex.first_opt_skip (Regex.attempts_lit_of_ne hM [] _))) (Regex.first_opt_skip ?_)) hfirst
  exact Regex.attempts_seq_of_left (Regex.attempts_seq_of_left
    (Regex.attempts_group_of_nil (attempts_digit hdigit _)))

theorem first_fraction (quotient : Fraction) (s : QString) :
    (Regex.opt (.group .numerator digit ++ .lit ['/'] ++ .group .denominator digit)).first
      (quotient.text ++ s) = some (fractionCaptures quotient, s) := by
  have hdigit : ∀ (x : GroupName) n s,
      (Regex.group x digit).first (padded 1 n ++ s) = some ([(x, padded 1 n)], s) := fun x n s =>
    Regex.first_group (first_digit (Numeral.isDigit_digitChar (Nat.mod_lt n (by omega))) s)
  have htext : quotient.text ++ s
      = padded 1 quotient.numerator ++ (['/'] ++ (padded 1 quotient.denominator ++ s)) := by
    rfl
  exact Regex.first_opt (Regex.first_seq (Regex.first_seq (hdigit .numerator _ _)
    (Regex.first_lit ['/'] _)) (hdigit .denominator _ _))

theorem fractionText_eq_cons (quotient : Fraction) :
    ∃ c s, quotient.text = c :: '/' :: s ∧ c.isDigit = true :=
  ⟨_, _, rfl, Numeral.isDigit_digitChar (Nat.mod_lt _ (by omega))⟩

/-- A fraction may follow a blank, and it may be an upper bound. -/
theorem first_distanceRest_fraction {before below : QString} (quotient : Fraction)
    (unit : DistanceUnit) (hbefore : before = [] ∨ before = [' '])
    (hbelow : below = [] ∨ below = ['M']) (s : QString) :
    distanceRest.first (before ++ (below ++ (quotient.text ++ (unit.text ++ s))))
      = some ([] ++ [] ++ fractionCaptures quotient ++ [(.unit, unit.text)], s) := by
  rcases fractionText_eq_cons quotient with ⟨c, tail, htext, hc⟩
  -- A fraction begins with a digit.
  have hc_ne : c ≠ ' ' ∧ c ≠ 'M' := by
    constructor
    · rintro rfl
      cases hc
    · rintro rfl
      cases hc
  have hblank : (Regex.opt blank).first (before ++ (below ++ (quotient.text ++ (unit.text ++ s))))
      = some ([], below ++ (quotient.text ++ (unit.text ++ s))) := by
    rcases hbefore with rfl | rfl
    · refine Regex.first_opt_skip ?_
      rcases hbelow with rfl | rfl
      · rw [htext]
        exact attempts_blank hc_ne.1 _
      · exact attempts_blank (by decide) _
    · exact Regex.first_opt (first_blank _)
  have hM : (Regex.opt (.lit ['M']) : Regex GroupName).first
      (below ++ (quotient.text ++ (unit.text ++ s)))
      = some ([], quotient.text ++ (unit.text ++ s)) := by
    rcases hbelow with rfl | rfl
    · refine Regex.first_opt_skip ?_
      rw [htext]
      exact Regex.attempts_lit_of_ne hc_ne.2 [] _
    · exact Regex.first_opt (Regex.first_lit ['M'] _)
  exact Regex.first_seq (Regex.first_seq (Regex.first_seq hblank hM) (first_fraction quotient _))
    (first_distanceUnit unit s)

/-- Behind a digit which stands alone there is no distance. -/
theorem attempts_distanceRest_slash (s : QString) : distanceRest.attempts ('/' :: s) = [] := by
  refine Regex.attempts_seq_of_right fun m hm => ?_
  -- The optional parts in front of the unit are all skipped.
  have hfirst : ∀ r : Regex GroupName, r.attempts ('/' :: s) = [] →
      (Regex.opt r).attempts ('/' :: s) = [([], '/' :: s)] := by
    intro r hr
    change r.attempts ('/' :: s) ++ _ = _
    rw [hr, List.nil_append]
  have hfraction : (Regex.opt (.group .numerator digit ++ .lit ['/'] ++ .group .denominator digit)
      : Regex GroupName).attempts ('/' :: s) = [([], '/' :: s)] :=
    hfirst _ (Regex.attempts_seq_of_left (Regex.attempts_seq_of_left
      (Regex.attempts_group_of_nil (attempts_digit (by decide) s))))
  have hfront : (Regex.opt blank ++ Regex.opt (.lit ['M']) : Regex GroupName).attempts ('/' :: s)
      = [([], '/' :: s)] := by
    rfl
  rw [Regex.attempts_seq_of_attempts hfront, hfraction, List.map_singleton,
    List.mem_singleton] at hm
  rw [hm]
  exact Regex.attempts_group_of_nil (Regex.attempts_oneOf_of_not (by
    intro code hcode hbegins
    rcases hbegins with ⟨tail, htail⟩
    rcases List.mem_pair.mp hcode with rfl | rfl
    · exact absurd (List.cons.inj htail).1 (by decide)
    · exact absurd (List.cons.inj htail).1 (by decide)))

/-- A digit which stands alone is the numerator of a fraction. -/
theorem firstInto_distance_slash {c : Char} (hc : c.isDigit = true) (s : QString) :
    (Regex.group GroupName.distance upToTwoDigits).firstInto (fun rest => rest.head? != some '/')
      (c :: '/' :: s) = some ([(.distance, [])], c :: '/' :: s) := by
  have hattempts : upToTwoDigits.attempts (c :: '/' :: s)
      = [([], '/' :: s), ([], c :: '/' :: s)] := by
    have hskip : (Regex.opt digit).attempts ('/' :: s) = [([], '/' :: s)] := rfl
    change (digit ++ Regex.opt digit).attempts (c :: '/' :: s) ++ [([], c :: '/' :: s)] = _
    have hdigit : digit.attempts (c :: '/' :: s) = [([], '/' :: s)] := if_pos hc
    rw [Regex.attempts_seq_of_attempts hdigit]
    rfl
  have hhead : c ≠ '/' := by
    rintro rfl
    cases hc
  have hdead : ¬ (some '/' != some '/') = true := by decide
  have hok : (some c != some '/') = true := bne_iff_ne.mpr fun h => hhead (Option.some.inj h)
  change ((upToTwoDigits.attempts (c :: '/' :: s)).map _).find? _ = _
  rw [hattempts, List.map_cons, List.map_singleton]
  refine (List.find?_cons_of_neg (by exact hdead)).trans
    ((List.find?_cons_of_pos (by exact hok)).trans ?_)
  congr 4
  rw [Nat.sub_self, List.take_zero]

/-- What begins with at most two digits is no number of meters. -/
theorem attempts_visibilityEu (taken : QString) {c : Char} (htaken : taken.length < 4)
    (hc : c.isDigit = false) (hhead : ∀ a ∈ (taken ++ c :: rest).head?, a ≠ '/') :
    visibilityEu.attempts (taken ++ c :: rest) = [] := by
  refine Regex.attempts_seq_of_left (Regex.attempts_seq_of_left (Regex.attempts_group_of_nil ?_))
  change (digits 4).attempts _ ++ (Regex.lit "////").attempts _ = []
  have hdigits : (digits 4).attempts (taken ++ c :: rest) = [] :=
    Regex.attempts_chars_of_stop htaken hc rest
  rw [hdigits]
  cases hs : taken ++ c :: rest with
  | nil => rfl
  | cons a s => exact Regex.attempts_lit_of_ne (hhead a (by rw [hs]; rfl)) _ s

theorem attempts_visibilityCavok {c : Char} (hc : c ≠ 'C') (s : QString) :
    visibilityCavok.attempts (c :: s) = [] :=
  Regex.attempts_group_of_nil (Regex.attempts_lit_of_ne hc _ s)

/-- What a distance is made of, and how it is read. -/
theorem parse_distance (distanceTaken : QString) {taken numerator denominator : QString}
    {captures : Captures GroupName} {unit : DistanceUnit} {distance fraction : ℚ}
    (hcavok : visibilityCavok.attempts (taken ++ ' ' :: rest) = [])
    (heu : visibilityEu.attempts (taken ++ ' ' :: rest) = [])
    (hus : visibilityUs.first (taken ++ ' ' :: rest) = some (captures, ' ' :: rest))
    (hcaptures : captured captures .cavok = [] ∧ captured captures .visibility = []
      ∧ captured captures .distance = distanceTaken ∧ captured captures .numerator = numerator
      ∧ captured captures .denominator = denominator ∧ captured captures .unit = unit.text)
    (hdistance : visibilityDistance distanceTaken = some distance)
    (hfraction : visibilityFraction numerator denominator = some fraction) :
    visibility.parse (taken ++ ' ' :: rest) metar
      = some (rest,
        { metar with m_visibility := CLength.create (distance + fraction) unit.unit }) := by
  rcases hcaptures with ⟨hcav, hvis, hdist, hnum, hden, hunit⟩
  -- The named groups are read in the order of the source.
  have hset : visibility.validateAndSet (captures ++ []) metar
      = some { metar with m_visibility := CLength.create (distance + fraction) unit.unit } := by
    have hunits : visibilityUnit unit.text = unit.unit := by cases unit <;> decide
    rw [List.append_nil]
    unfold visibility
    dsimp only
    rw [if_neg (not_not.mpr hcav), hvis, if_neg (by decide), if_neg (not_not.mpr rfl),
      hdist, hnum, hden, hdistance, hfraction, hunit]
    rw [hunits]
  refine MetarDecoderPart.parse_word rfl rfl (Regex.first_seq ?_ (first_blank rest)) hset
  rw [Regex.first_alt_right hcavok, Regex.first_alt_right heu]
  exact hus

theorem parse_whole (distance : Fin 100) (unit : DistanceUnit) :
    visibility.parse (distanceText distance ++ unit.text ++ ' ' :: rest) metar
      = some (rest, { metar with m_visibility := CLength.create distance.val unit.unit }) := by
  rcases distanceText_eq_cons distance with ⟨c, tail, hcons, hc⟩
  rcases unitText_eq_cons unit with ⟨u, hunit, hu, _⟩
  have htext : distanceText distance ++ unit.text ++ ' ' :: rest
      = distanceText distance ++ u :: 'M' :: ' ' :: rest := by
    rw [hunit, List.append_assoc]
    rfl
  -- The first two forms of the expression do not match, so the third one does.
  have hcavok : visibilityCavok.attempts
    (distanceText distance ++ unit.text ++ ' ' :: rest) = [] := by
    rw [hcons]
    exact attempts_visibilityCavok (not_digit_ne hc (by decide)) _
  have heu : visibilityEu.attempts (distanceText distance ++ unit.text ++ ' ' :: rest) = [] := by
    rw [htext]
    refine attempts_visibilityEu _ _ (Nat.lt_of_le_of_lt (length_distanceText _) (by omega)) hu ?_
    rw [hcons]
    intro a ha
    rw [← Option.some.inj ha]
    exact not_digit_ne hc (by decide)
  have hus : visibilityUs.first (distanceText distance ++ unit.text ++ ' ' :: rest)
      = some ([(.distance, distanceText distance)] ++ ([] ++ [] ++ [] ++ [(.unit, unit.text)]),
        ' ' :: rest) := by
    have hrest := first_distanceRest_whole unit (' ' :: rest)
    rw [List.append_assoc]
    refine Regex.first_seq (Regex.first_group ?_) hrest
    rw [hunit]
    exact first_distanceText distance hu _
  have hparse := parse_distance rest metar (distanceText distance) hcavok heu hus
    ⟨rfl, rfl, rfl, rfl, rfl, rfl⟩ (visibilityDistance_distanceText distance.isLt)
    (if_pos (Or.inl rfl))
  rw [add_zero] at hparse
  exact hparse

theorem parse_mixed (distance : Fin 100) (quotient : Fraction) (unit : DistanceUnit) :
    visibility.parse (distanceText distance ++ ' ' :: (quotient.text ++ unit.text) ++ ' ' :: rest)
        metar
      = some (rest, { metar with
        m_visibility := CLength.create (distance.val + quotient.value) unit.unit }) := by
  rcases distanceText_eq_cons distance with ⟨c, tail, hcons, hc⟩
  have htext : distanceText distance ++ ' ' :: (quotient.text ++ unit.text) ++ ' ' :: rest
      = distanceText distance ++
        ([' '] ++ ([] ++ (quotient.text ++ (unit.text ++ ' ' :: rest)))) := by
    simp
  -- As for a whole distance, the third form is the one that matches.
  have hcavok : visibilityCavok.attempts
      (distanceText distance ++ ' ' :: (quotient.text ++ unit.text) ++ ' ' :: rest) = [] := by
    rw [hcons]
    exact attempts_visibilityCavok (not_digit_ne hc (by decide)) _
  have heu : visibilityEu.attempts
      (distanceText distance ++ ' ' :: (quotient.text ++ unit.text) ++ ' ' :: rest) = [] := by
    rw [htext]
    refine attempts_visibilityEu _ _ (Nat.lt_of_le_of_lt (length_distanceText _) (by omega))
      (show ' '.isDigit = false by decide) ?_
    rw [hcons]
    intro a ha
    rw [← Option.some.inj ha]
    exact not_digit_ne hc (by decide)
  have hus : visibilityUs.first
      (distanceText distance ++ ' ' :: (quotient.text ++ unit.text) ++ ' ' :: rest)
      = some ([(.distance, distanceText distance)]
        ++ ([] ++ [] ++ fractionCaptures quotient ++ [(.unit, unit.text)]), ' ' :: rest) := by
    rw [htext]
    exact Regex.first_seq (Regex.first_group (first_distanceText distance (by decide) _))
      (first_distanceRest_fraction quotient unit (Or.inr rfl) (Or.inl rfl) _)
  exact parse_distance rest metar (distanceText distance) hcavok heu hus
    ⟨rfl, rfl, rfl, rfl, rfl, rfl⟩ (visibilityDistance_distanceText distance.isLt)
    (visibilityFraction_text quotient)

theorem parse_fraction (below : Bool) (quotient : Fraction) (unit : DistanceUnit) :
    visibility.parse ((if below then ['M'] else []) ++ quotient.text ++ unit.text ++ ' ' :: rest)
        metar
      = some (rest, { metar with m_visibility := CLength.create quotient.value unit.unit }) := by
  rcases fractionText_eq_cons quotient with ⟨c, tail, hcons, hc⟩
  have htext : ∀ mark : QString, mark ++ quotient.text ++ unit.text ++ ' ' :: rest
      = [] ++ (mark ++ (quotient.text ++ (unit.text ++ ' ' :: rest))) := by
    intro mark
    simp
  -- With or without the letter, the expression goes the same way.
  suffices hgroups : ∀ mark : QString, mark = [] ∨ mark = ['M'] →
      visibilityCavok.attempts (mark ++ quotient.text ++ unit.text ++ ' ' :: rest) = []
        ∧ visibilityEu.attempts (mark ++ quotient.text ++ unit.text ++ ' ' :: rest) = []
        ∧ visibilityUs.first (mark ++ quotient.text ++ unit.text ++ ' ' :: rest)
          = some ([(.distance, [])]
            ++ ([] ++ [] ++ fractionCaptures quotient ++ [(.unit, unit.text)]), ' ' :: rest) by
    obtain ⟨hcavok, heu, hus⟩ := hgroups (if below then ['M'] else []) (by cases below <;> simp)
    have hparse := parse_distance rest metar [] hcavok heu hus
      ⟨rfl, rfl, rfl, rfl, rfl, rfl⟩ (if_pos rfl) (visibilityFraction_text quotient)
    rw [zero_add] at hparse
    exact hparse
  intro mark hmark
  have hrest := first_distanceRest_fraction quotient unit (Or.inl rfl) hmark (' ' :: rest)
  rw [htext mark]
  rcases hmark with rfl | rfl
  · refine ⟨?_, ?_, ?_⟩
    · rw [hcons]
      exact attempts_visibilityCavok (not_digit_ne hc (by decide)) _
    · rw [hcons]
      refine attempts_visibilityEu _ [c] (show 1 < 4 by decide)
        (show '/'.isDigit = false by decide) ?_
      intro a ha
      rw [← Option.some.inj ha]
      exact not_digit_ne hc (by decide)
    · -- the numerator is taken for the whole part first
      have hok : ∀ s : QString, (s.head? != some '/') = false → distanceRest.attempts s = [] := by
        intro s hs
        cases s with
        | nil => cases hs
        | cons a s =>
          rw [Option.some.inj (bne_eq_false_iff_eq.mp hs)]
          exact attempts_distanceRest_slash s
      refine Regex.first_seq_of_firstInto ?_ hok hrest
      rw [hcons]
      exact firstInto_distance_slash hc _
  · refine ⟨?_, ?_, ?_⟩
    · exact attempts_visibilityCavok (by decide) _
    · refine attempts_visibilityEu _ [] (by decide) (show 'M'.isDigit = false by decide) ?_
      intro a ha
      rw [← Option.some.inj ha]
      decide
    · refine Regex.first_seq (Regex.first_group (Regex.first_opt_skip ?_)) hrest
      exact Regex.attempts_seq_of_left (attempts_digit (by decide) _)

theorem parse_meters (distance : Fin 10000) (noVariation : Bool)
    (direction : Option { d : QString // d ∈ getCardinalDirections }) :
    visibility.parse (padded 4 distance ++ (if noVariation then "NDV".toList else [])
        ++ direction.elim [] Subtype.val ++ ' ' :: rest) metar
      = some (rest, { metar with m_visibility := CLength.create distance.val .m }) := by
  have htext : ∀ mark sector : QString, padded 4 distance ++ mark ++ sector ++ ' ' :: rest
      = padded 4 distance ++ (mark ++ (sector ++ ' ' :: rest)) := by
    intro mark sector
    simp
  have hhead : ∃ c s, padded 4 distance = c :: s ∧ c.isDigit = true :=
    ⟨_, _, rfl, Numeral.isDigit_digitChar (Nat.mod_lt _ (by omega))⟩
  have hne : padded 4 distance ≠ "////" := by
    intro h
    have hmem : '/' ∈ padded 4 distance.val := by rw [h]; decide
    exact absurd (isDigit_of_mem_padded hmem) (by decide)
  have hset : ∀ captures, captured captures .cavok = [] →
      captured captures .visibility = padded 4 distance →
      visibility.validateAndSet captures metar
        = some { metar with m_visibility := CLength.create distance.val .m } := by
    intro captures hcavok hdistance
    dsimp only [visibility]
    rw [hcavok, hdistance, if_neg (not_not.mpr rfl), if_neg hne, if_pos (padded_ne_nil (by omega)),
      toDouble?_padded (by omega) (by omega)]
  have hcavok : ∀ s, visibilityCavok.attempts (padded 4 distance ++ s) = [] := by
    rcases hhead with ⟨c, tail, hcons, hc⟩
    intro s
    rw [hcons]
    exact attempts_visibilityCavok (not_digit_ne hc (by decide)) _
  have hmark : ∀ s : QString, (¬ "NDV" <+: s) →
      (Regex.opt (.lit "NDV")).first
        ((if noVariation then "NDV".toList else []) ++ s) =
          some (([] : Captures GroupName), s) := by
    intro s hs
    cases noVariation with
    | true => exact Regex.first_opt (Regex.first_lit _ s)
    | false =>
      refine Regex.first_opt_skip ?_
      rw [Regex.attempts_lit]
      exact if_neg (mt List.isPrefixOf_iff_prefix.mp hs)
  have hcodes : ∀ code ∈ getCardinalDirections, code ≠ [] ∧ code.length ≤ 2 ∧ ' ' ∉ code := by
    decide
  have hsector : ¬ "NDV" <+: direction.elim [] Subtype.val ++ ' ' :: rest := by
    -- there is a blank among the first three characters
    have hlength : (direction.elim [] Subtype.val : QString).length ≤ 2 := by
      cases direction with
      | none => decide
      | some direction => exact (hcodes direction.1 direction.2).2.1
    intro hbegins
    have htake : "NDV" = (direction.elim [] Subtype.val ++ ' ' :: rest : QString).take 3 :=
      List.prefix_iff_eq_take.mp hbegins
    have hmem : ' ' ∈ (direction.elim [] Subtype.val ++ ' ' :: rest : QString).take 3 := by
      rw [List.take_append, List.take_cons (by omega)]
      exact List.mem_append_right _ List.mem_cons_self
    rw [← htake] at hmem
    exact nomatch hmem
  have hcardinal : (Regex.opt (.oneOf getCardinalDirections)).firstInto
      (fun rest => rest.head? == some ' ') (direction.elim [] Subtype.val ++ ' ' :: rest)
      = some (([] : Captures GroupName), ' ' :: rest) := by
    cases direction with
    | none =>
      refine Regex.firstInto_opt_skip (Regex.attempts_oneOf_of_not fun code hcode hbegins => ?_) rfl
      rcases hcodes code hcode with ⟨hne, _, hblank⟩
      cases code with
      | nil => exact hne rfl
      | cons c code =>
        rw [(List.cons_prefix_cons.mp hbegins).1] at hblank
        exact hblank List.mem_cons_self
    | some direction =>
      exact Regex.firstInto_opt (Regex.firstInto_oneOf (by decide) direction.2 rest)
  refine MetarDecoderPart.parse_word rfl rfl ?_
    (hset ([(.visibility, padded 4 distance)] ++ [] ++ [] ++ []) rfl rfl)
  have hok : ∀ s : QString, (s.head? == some ' ') = false → blank.attempts s = [] := by
    intro s hs
    cases s with
    | nil => rfl
    | cons c s => exact attempts_blank (fun h => Bool.eq_false_iff.mp hs (by rw [h]; rfl)) s
  refine Regex.first_seq_of_firstInto ?_ hok (first_blank rest)
  rw [htext, Regex.firstInto_alt_right (hcavok _)]
  exact Regex.firstInto_alt_left (Regex.firstInto_seq (Regex.first_seq (Regex.first_group
    (Regex.first_alt_left (first_padded 4 distance _))) (hmark _ hsector)) hcardinal)

/-- After `CAVOK` the weather and the clouds are those of a new report. -/
theorem parse_visibility (group : VisibilityGroup) (hweather : metar.m_presentWeathers = [])
    (hclouds : metar.m_cloudLayers = []) :
    visibility.parse (spaced group.words ++ rest) metar
      = some (rest, { metar with m_visibility := group.value }) := by
  cases group with
  | cavok =>
    -- The source clears weather and clouds, which are empty in a new report.
    have hset : visibility.validateAndSet ([(.cavok, "CAVOK".toList)] ++ []) metar
        = some { metar with m_visibility := CLength.create 10000 .km } := by
      rcases metar with ⟨⟩
      subst hweather hclouds
      rfl
    rw [VisibilityGroup.words, spaced_cons, spaced_nil, List.nil_append]
    exact MetarDecoderPart.parse_word rfl rfl (Regex.first_seq (Regex.first_alt_left
      (Regex.first_group (Regex.first_lit _ _))) (first_blank rest)) hset
  | meters distance noVariation direction =>
    rw [VisibilityGroup.words, spaced_cons]
    exact parse_meters rest metar distance noVariation direction
  | whole distance unit =>
    rw [VisibilityGroup.words, spaced_cons]
    exact parse_whole rest metar distance unit
  | fraction below quotient unit =>
    rw [VisibilityGroup.words, spaced_cons]
    exact parse_fraction rest metar below quotient unit
  | mixed distance quotient unit =>
    rw [VisibilityGroup.words, spaced_cons, spaced_cons]
    have hparse := parse_mixed rest metar distance quotient unit
    rw [List.append_assoc] at hparse
    exact hparse

/-- No visibility has a letter `V` behind three digits. -/
theorem attempts_variations (group : VisibilityGroup) :
    variationsWindDirection.regExp.attempts (spaced group.words ++ rest) = [] := by
  refine Regex.attempts_seq_of_left (Regex.attempts_seq_of_left ?_)
  -- Three digits have to be at the front.
  have hstop : ∀ (taken : QString) {c : Char}, taken.length < 3 → c.isDigit = false → ∀ s,
      (Regex.group GroupName.direction_from (digits 3) ++ .lit ['V']).attempts (taken ++ c :: s)
        = [] := fun taken _ htaken hc s =>
    Regex.attempts_seq_of_left (Regex.attempts_group_of_nil
      (Regex.attempts_chars_of_stop htaken hc s))
  cases group with
  | cavok => exact hstop [] (by decide) (by decide : 'C'.isDigit = false) _
  | meters distance noVariation direction =>
    rw [VisibilityGroup.words, spaced_cons, List.append_assoc, List.append_assoc]
    generalize (if noVariation = true then "NDV".toList else [])
      ++ (direction.elim [] Subtype.val ++ ' ' :: (spaced [] ++ rest)) = s
    -- Four digits: the fourth one is no letter.
    have htext : padded 4 distance.val ++ s
        = padded 3 (distance.val / 10) ++ (distance.val % 10).digitChar :: s := by
      change (padded 3 (distance.val / 10) ++ [(distance.val % 10).digitChar]) ++ s = _
      rw [List.append_assoc, List.singleton_append]
    have hlast : (distance.val % 10).digitChar ≠ 'V' :=
      not_digit_ne (Numeral.isDigit_digitChar (Nat.mod_lt _ (by decide))) (by decide)
    rw [htext, Regex.attempts_seq_of_attempts (Regex.attempts_group (attempts_padded 3 _ _)),
      Regex.attempts_lit_of_ne hlast [] s, List.map_nil]
  | whole distance unit =>
    rcases unitText_eq_cons unit with ⟨u, hunit, hu, _⟩
    rw [VisibilityGroup.words, spaced_cons, hunit, List.append_assoc]
    exact hstop _ (Nat.lt_succ_of_le (length_distanceText distance)) hu _
  | fraction below quotient unit =>
    rcases fractionText_eq_cons quotient with ⟨c, tail, hcons, _⟩
    rw [VisibilityGroup.words, hcons]
    cases below with
    | true => exact hstop [] (by decide) (by decide : 'M'.isDigit = false) _
    | false => exact hstop [c] (show 1 < 3 by omega) (by decide : '/'.isDigit = false) _
  | mixed distance quotient unit =>
    rw [VisibilityGroup.words, spaced_cons]
    exact hstop _ (Nat.lt_succ_of_le (length_distanceText distance)) (by decide) _

end Visibility

/-! ## Runway visual ranges -/

section RunwayRange

variable (rest : QString) (metar : CMetar)

variable (range : RunwayRange)

theorem first_bound (n : ℕ) (s : QString) :
    (Regex.opt (.char fun c => c == 'P' || c == 'M') : Regex GroupName).first
      (range.boundText ++ (padded 4 n ++ s)) = some ([], padded 4 n ++ s) := by
  unfold RunwayRange.boundText
  cases range.bound with
  | none =>
    have hdigit : (Nat.digitChar (n / 10 / 10 / 10 % 10)).isDigit = true :=
      Numeral.isDigit_digitChar (Nat.mod_lt _ (by decide))
    refine Regex.first_opt_skip (Regex.attempts_char_of_not ?_)
    rw [Bool.or_eq_false_iff, beq_eq_false_iff_ne, beq_eq_false_iff_ne]
    exact ⟨not_digit_ne hdigit (by decide), not_digit_ne hdigit (by decide)⟩
  | some more =>
    cases more with
    | true => exact Regex.first_opt (Regex.first_char (by decide))
    | false => exact Regex.first_opt (Regex.first_char (by decide))

/-- The trend is at the end. -/
theorem first_trend : ∃ (c : Captures GroupName) (s : QString),
    (Regex.opt (.lit ['/']) : Regex GroupName).first (range.trendText ++ ' ' :: rest) = some ([], s)
      ∧ (Regex.opt (.group .trend (.char fun c => c == 'D' || c == 'N' || c == 'U'))).first s
        = some (c, ' ' :: rest) := by
  -- The letter is read whether the slash in front of it is there or not.
  have hletter : ∀ trend : RunwayTrend,
      (Regex.group GroupName.trend (.char fun c => c == 'D' || c == 'N' || c == 'U')).first
        ([trend.letter] ++ ' ' :: rest) = some ([(.trend, [trend.letter])], ' ' :: rest) := by
    intro trend
    refine Regex.first_group (Regex.first_char ?_)
    cases trend <;> decide
  unfold RunwayRange.trendText
  cases range.trend with
  | none =>
    refine ⟨[], ' ' :: rest, Regex.first_opt_skip ?_, Regex.first_opt_skip ?_⟩
    · exact Regex.attempts_lit_of_ne (by decide) [] rest
    · exact Regex.attempts_group_of_nil (Regex.attempts_char_of_not (by decide))
  | some trend =>
    rcases trend with ⟨slash, trend⟩
    refine ⟨[(.trend, [trend.letter])], [trend.letter] ++ ' ' :: rest, ?_,
      Regex.first_opt (hletter trend)⟩
    cases slash with
    | true => exact Regex.first_opt (Regex.first_lit ['/'] _)
    | false =>
      refine Regex.first_opt_skip (Regex.attempts_lit_of_ne ?_ [] _)
      cases trend <;> decide

theorem head_trendText : ∀ c ∈ (range.trendText ++ ' ' :: rest).head?,
    c.isDigit = false ∧ c ≠ 'V' ∧ c ≠ 'F' := by
  unfold RunwayRange.trendText
  cases range.trend with
  | none =>
    intro c hc
    rw [← Option.some.inj hc]
    decide
  | some trend =>
    rcases trend with ⟨slash, trend⟩
    cases slash <;> cases trend <;> intro c hc <;> rw [← Option.some.inj hc] <;> decide

theorem first_feet : ∃ c, (Regex.opt (.group .unit (.lit "FT")) : Regex GroupName).first
    (range.feetText ++ (range.trendText ++ ' ' :: rest)) =
      some (c, range.trendText ++ ' ' :: rest) := by
  unfold RunwayRange.feetText
  split
  · exact ⟨[(.unit, "FT")], Regex.first_opt (Regex.first_group (Regex.first_lit _ _))⟩
  · refine ⟨[], Regex.first_opt_skip (Regex.attempts_group_of_nil ?_)⟩
    have hhead := head_trendText rest range
    cases hs : range.trendText ++ ' ' :: rest with
    | nil => rfl
    | cons c s =>
      rw [hs] at hhead
      exact Regex.attempts_lit_of_ne (hhead c rfl).2.2 _ s

theorem head_feetText : ∀ c ∈ (range.feetText ++ (range.trendText ++ ' ' :: rest)).head?,
    c.isDigit = false ∧ c ≠ 'V' := by
  unfold RunwayRange.feetText
  split
  · intro c hc
    rw [← Option.some.inj hc]
    decide
  · intro c hc
    rcases head_trendText rest range c hc with ⟨hdigit, hV, _⟩
    exact ⟨hdigit, hV⟩

theorem first_variability {tail : QString} (htail : ∀ c ∈ tail.head?, c.isDigit = false ∧ c ≠ 'V') :
    ∃ (c : Captures GroupName) (s : QString),
      (Regex.opt (.lit ['V']) : Regex GroupName).first (range.variabilityText ++ tail)
        = some ([], s)
      ∧ (Regex.opt (.group .variability (digits 4))).first s = some (c, tail) := by
  unfold RunwayRange.variabilityText
  cases range.variability with
  | none =>
    refine ⟨[], tail, Regex.first_opt_skip ?_,
      Regex.first_opt_skip (Regex.attempts_group_of_nil ?_)⟩
    · cases tail with
      | nil => rfl
      | cons c s => exact Regex.attempts_lit_of_ne (htail c rfl).2 [] s
    · cases tail with
      | nil => rfl
      | cons c s => exact attempts_digits_of_not (htail c rfl).1 3 s
  | some variability =>
    exact ⟨[(.variability, padded 4 variability)], padded 4 variability ++ tail,
      Regex.first_opt (Regex.first_lit ['V'] _),
      Regex.first_opt (Regex.first_group (first_padded 4 _ tail))⟩

theorem first_runway (designator : ℕ) (sides : RunwaySides) {c : Char}
    (hc : (c == 'L' || c == 'C' || c == 'R') = false) (s : QString) :
    (Regex.group GroupName.runway (digits 2
      ++ Regex.star fun c => c == 'L' || c == 'C' || c == 'R')).first
      ((padded 2 designator ++ sides.1) ++ c :: s)
      = some ([(.runway, padded 2 designator ++ sides.1)], c :: s) := by
  refine Regex.first_group ?_
  refine Regex.first_seq (first_padded 2 designator _) (Regex.first_star ?_ ?_)
  · intro a ha
    rcases sides.2 a ha with rfl | rfl | rfl <;> rfl
  · intro a ha
    rw [← Option.some.inj ha]
    exact hc

/-- A runway visual range is taken, and nothing is set. -/
theorem parse_runwayVisualRange :
    runwayVisualRange.parse (range.text ++ ' ' :: rest) metar = some (rest, metar) := by
  rcases first_trend rest range with ⟨cTrend, s, hslash, htrend⟩
  rcases first_feet rest range with ⟨cFeet, hfeet⟩
  rcases first_variability range (head_feetText rest range) with ⟨cVar, sVar, hV, hvar⟩
  -- The parts of the group in the order of the expression.
  have htext : range.text ++ ' ' :: rest
      = ['R'] ++ ((padded 2 range.runway ++ range.sides.1) ++ (['/'] ++ (range.boundText
        ++ (padded 4 range.range ++ (range.variabilityText ++ (range.feetText
        ++ (range.trendText ++ ' ' :: rest))))))) := by
    simp [RunwayRange.text]
  have hfirst : runwayVisualRange.regExp.first (range.text ++ ' ' :: rest)
      = some ([] ++ [(.runway, padded 2 range.runway ++ range.sides.1)] ++ [] ++ []
        ++ [(.rwy_visibility, padded 4 range.range)] ++ [] ++ cVar ++ cFeet ++ [] ++ cTrend ++ [],
        rest) := by
    rw [htext]
    exact Regex.first_seq (Regex.first_seq (Regex.first_seq (Regex.first_seq (Regex.first_seq
      (Regex.first_seq (Regex.first_seq (Regex.first_seq (Regex.first_seq (Regex.first_seq
      (Regex.first_lit ['R'] _) (first_runway _ range.sides (by decide) _))
        (Regex.first_lit ['/'] _))
      (first_bound range _ _)) (Regex.first_group (first_padded 4 _ _))) hV) hvar) hfeet) hslash)
      htrend) (first_blank rest)
  refine MetarDecoderPart.parse_word rfl rfl hfirst ?_
  -- The distance is only checked to be a number.
  have hset : ∀ captures, captured captures .rwy_visibility = padded 4 range.range →
      runwayVisualRange.validateAndSet captures metar = some metar := by
    intro captures hvisibility
    dsimp only [runwayVisualRange]
    rw [hvisibility, toDouble?_padded (by omega) (by omega)]
  exact hset _ rfl

/-- What does not begin with `R` and a digit is no runway visual range. -/
theorem attempts_runwayVisualRange {a b : Char} (h : a ≠ 'R' ∨ b.isDigit = false) (s : QString) :
    runwayVisualRange.regExp.attempts (a :: b :: s) = [] := by
  have hfront : ((.lit ['R'] : Regex GroupName) ++ .group .runway (digits 2
      ++ Regex.star fun c => c == 'L' || c == 'C' || c == 'R')).attempts (a :: b :: s) = [] := by
    by_cases ha : a = 'R'
    · have hb := h.resolve_left (not_not.mpr ha)
      have hlit : (Regex.lit ['R'] : Regex GroupName).attempts (a :: b :: s) = [([], b :: s)] := by
        rw [ha]
        rfl
      rw [Regex.attempts_seq_of_attempts hlit, Regex.attempts_group_of_nil, List.map_nil]
      exact Regex.attempts_seq_of_left (attempts_digits_of_not hb 1 s)
    · exact Regex.attempts_seq_of_left (Regex.attempts_lit_of_ne ha [] _)
  iterate 9 refine Regex.attempts_seq_of_left ?_
  exact hfront

end RunwayRange

end Weather

end NeoSwift.Misc
