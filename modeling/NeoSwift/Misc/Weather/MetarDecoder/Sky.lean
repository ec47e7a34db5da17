import NeoSwift.Misc.Weather.MetarDecoder.PresentWeather

/-!
# Clouds, Temperature and Pressure

How the decoder takes the cloud layers, the vertical visibility, the temperatures and the
altimeter from the front of a text, and that nothing behind the altimeter is set.

Whether a part takes anything can be told from the two characters a text begins with. None of
the parts from the clouds on takes what begins with `R` and a digit or with a code of the
weather, apart from the expression of the pressure for any place, which sets nothing. So the
altimeter is not set when such a text is left.

## Main definitions

* `Stuck`: The texts at which the decoder is stuck.

## Theorems

* `parse_cloud`, `parse_verticalVisibility`, `parse_temperature`, `parse_pressure`: The parts
  of the decoder and their groups.
* `exists_parse`: The parts that set nothing.
* `altimeter_of_stuck`: The altimeter is not set where the decoder is stuck.
-/

namespace NeoSwift.Misc

namespace Weather

open Pq

/-! ## Clouds -/

section Clouds

variable (rest : QString) (metar : CMetar)

/-- What a group of the clouds begins with. -/
def cloudFronts : List QString :=
  (getClearSkyTokens ++ getCoverage.map Prod.fst).map fun token => token.take 2

/-- Nothing is taken of what begins with no cloud. -/
theorem attempts_cloud_of_not {a b : Char} (h : [a, b] ∉ cloudFronts) (s : QString) :
    cloud.regExp.attempts (a :: b :: s) = [] := by
  have hone : ∀ codes : List QString, (∀ code ∈ codes, 2 ≤ code.length ∧ code.take 2 ∈ cloudFronts)
      → (Regex.oneOf codes : Regex GroupName).attempts (a :: b :: s) = [] := by
    intro codes hcodes
    refine Regex.attempts_oneOf_of_not fun code hcode hbegins => ?_
    rcases hcodes code hcode with ⟨hlength, hmem⟩
    rcases hbegins with ⟨tail, htail⟩
    have htake : code.take 2 = [a, b] := by
      have := congrArg (List.take 2) htail
      rwa [List.take_append_of_le_length hlength] at this
    exact h (htake ▸ hmem)
  refine Regex.attempts_seq_of_left ?_
  rw [Regex.attempts_alt, Regex.attempts_group_of_nil (hone _ (by decide)), List.nil_append]
  exact Regex.attempts_seq_of_left (Regex.attempts_seq_of_left
    (Regex.attempts_group_of_nil (hone _ (by decide))))

theorem first_clear {token : QString} (htoken : token ∈ getClearSkyTokens) :
    cloud.regExp.first (token ++ [' '] ++ rest) = some ([(.clear_sky, token)] ++ [], rest) := by
  have hone : (Regex.oneOf getClearSkyTokens : Regex GroupName).first (token ++ ([' '] ++ rest))
      = some ([], [' '] ++ rest) :=
    Regex.first_of_attempts (Regex.attempts_oneOf_append (by decide) htoken _)
  rw [List.append_assoc]
  exact Regex.first_seq (Regex.first_alt_left (Regex.first_group hone)) (first_blank rest)

theorem amountText_mem (amount : CloudAmount) :
    amount.text ∈ getCoverage.map Prod.fst ∧ amount.text ∉ getClearSkyTokens
      ∧ amount.text.length = 3 ∧ getCoverage.lookup amount.text = some amount.coverage := by
  cases amount <;> decide

/-- What is captured of a layer. -/
def layerCaptures (group : CloudGroup) : Captures GroupName :=
  [(.coverage, group.amount.text)] ++ [(.base, padded 3 group.base)]
    ++ (group.convective.elim [] fun convective => [(.cb_tcu, convective.1)]) ++ []

theorem first_layer (group : CloudGroup) :
    cloud.regExp.first (group.text ++ [' '] ++ rest) = some (layerCaptures group, rest) := by
  rcases amountText_mem group.amount with ⟨hcoverage, hclear, hlength, _⟩
  -- No amount is one of the words for a clear sky.
  have hskip : ∀ s, (Regex.group GroupName.clear_sky (.oneOf getClearSkyTokens)).attempts
      (group.amount.text ++ s) = [] := by
    intro s
    refine Regex.attempts_group_of_nil ?_
    rw [Regex.attempts_oneOf (n := 3) (by decide) (by decide +kernel), ← hlength,
      List.take_left]
    exact if_neg hclear
  have hone : ∀ s, (Regex.oneOf (getCoverage.map Prod.fst) : Regex GroupName).first
      (group.amount.text ++ s) = some ([], s) := fun s =>
    Regex.first_of_attempts (Regex.attempts_oneOf_append (by decide) hcoverage s)
  -- The cloud type is one of the texts of the source, or is left out.
  have hconvective : (Regex.opt (.group GroupName.cb_tcu
      (.oneOf ["CB", "TCU", "///"]))).first
      (group.convective.elim [] Subtype.val ++ ' ' :: rest)
        = some (group.convective.elim [] fun convective => [(.cb_tcu, convective.1)], ' ' :: rest)
      := by
    cases group.convective with
    | none => exact Regex.first_opt_skip rfl
    | some convective =>
      rcases convective with ⟨convective, hmem⟩
      have hkey : convective ∈ ["CB".toList, "TCU".toList, "///".toList] := by
        rcases List.mem_pair.mp hmem with rfl | rfl <;> decide
      exact Regex.first_opt (Regex.first_group (Regex.first_of_attempts
        (Regex.attempts_oneOf_append (by decide) hkey _)))
  have htext : group.text ++ [' '] ++ rest = group.amount.text
      ++ (padded 3 group.base ++ (group.convective.elim [] Subtype.val ++ ' ' :: rest)) := by
    simp [CloudGroup.text]
  rw [htext]
  refine Regex.first_seq ?_ (first_blank rest)
  rw [Regex.first_alt_right (hskip _)]
  exact Regex.first_seq (Regex.first_seq (Regex.first_group (hone _))
    (Regex.first_group (Regex.first_alt_left (first_padded 3 _ _)))) hconvective

theorem validateAndSet_layer (group : CloudGroup) :
    cloud.validateAndSet (layerCaptures group) metar = some (metar.addCloudLayer group.value) := by
  rcases amountText_mem group.amount with ⟨_, _, _, hcoverage⟩
  have hbase_ne : padded 3 group.base ≠ "///" := by
    intro h
    have hmem : '/' ∈ padded 3 group.base.val := by rw [h]; decide
    exact absurd (isDigit_of_mem_padded hmem) (by decide)
  have hclear : captured (layerCaptures group) .clear_sky = [] := by
    unfold layerCaptures
    cases group.convective <;> rfl
  have hamount : captured (layerCaptures group) .coverage = group.amount.text := rfl
  have hbase : captured (layerCaptures group) .base = padded 3 group.base := rfl
  dsimp only [cloud]
  rw [hclear, hbase, if_neg hbase_ne, toInt?_padded (by omega) group.base.isLt (by omega)]
  rw [hamount, hcoverage]
  rfl

theorem foldl_addCloudLayer (groups : List CloudGroup) (metar : CMetar) :
    groups.foldl (fun metar group => metar.addCloudLayer group.value) metar
      = { metar with m_cloudLayers := metar.m_cloudLayers ++ groups.map CloudGroup.value } := by
  induction groups generalizing metar with
  | nil => rw [List.foldl_nil, List.map_nil, List.append_nil]
  | cons group groups ih =>
    rw [List.foldl_cons, ih]
    simp [CMetar.addCloudLayer]

/-- A clear sky, or all layers. -/
theorem parse_cloud (sky : SkyGroup) (hrest : cloud.regExp.attempts rest = [])
    (hclouds : metar.m_cloudLayers = []) :
    cloud.parse (spaced sky.words ++ rest) metar
      = some (rest, { metar with m_cloudLayers := sky.value }) := by
  -- A clear sky is one word, and clears all layers. Otherwise each layer is a word.
  cases sky with
  | clear token =>
    have hne : token.1 ≠ [] := by
      intro h
      have hmem := token.2
      rw [h] at hmem
      exact nomatch hmem
    have hset : ∀ metar, cloud.validateAndSet ([(.clear_sky, token.1)] ++ []) metar
        = some metar.removeAllClouds := fun _ => if_pos hne
    have hparse : cloud.parse ([()].flatMap (fun _ => token.1 ++ [' ']) ++ rest) metar
        = some (rest, [()].foldl (fun metar _ => metar.removeAllClouds) metar) :=
      MetarDecoderPart.parse_groups rfl rfl rfl
        (fun _ => List.append_ne_nil_of_right_ne_nil _ (List.cons_ne_nil ' ' []))
        (fun _ _ rest metar => ⟨_, first_clear rest token.2, hset metar⟩) hrest
    exact hparse
  | layers clouds =>
    have hparse : cloud.parse (clouds.flatMap (fun group => group.text ++ [' ']) ++ rest) metar
        = some (rest, clouds.foldl (fun metar group => metar.addCloudLayer group.value) metar) :=
      MetarDecoderPart.parse_groups rfl rfl rfl
        (fun _ => List.append_ne_nil_of_right_ne_nil _ (List.cons_ne_nil ' ' []))
        (fun group _ rest metar =>
          ⟨_, first_layer rest group, validateAndSet_layer metar group⟩) hrest
    rw [foldl_addCloudLayer, hclouds] at hparse
    have htext : spaced (SkyGroup.layers clouds).words
        = clouds.flatMap fun group => group.text ++ [' '] := List.flatMap_map _ _ _
    rw [htext]
    exact hparse

end Clouds

/-! ## Vertical visibility and temperature -/

section Temperature

variable (rest : QString) (metar : CMetar)

theorem attempts_verticalVisibility_of_not {a b : Char} (h : ¬ (a = 'V' ∧ b = 'V')) (s : QString) :
    verticalVisibility.regExp.attempts (a :: b :: s) = [] := by
  refine Regex.attempts_seq_of_left (Regex.attempts_seq_of_left ?_)
  rw [Regex.attempts_lit]
  refine if_neg fun hbegins => h ?_
  rcases List.cons_prefix_cons.mp (List.isPrefixOf_iff_prefix.mp hbegins) with ⟨ha, hb⟩
  exact ⟨ha.symm, (List.cons_prefix_cons.mp hb).1.symm⟩

theorem parse_verticalVisibility (visibility : Fin 1000) :
    verticalVisibility.parse (verticalVisibilityText visibility ++ ' ' :: rest) metar
      = some (rest, metar) := by
  have hfirst := Regex.first_seq (Regex.first_seq (Regex.first_lit "VV" _)
    (Regex.first_group (x := GroupName.vertical_visibility) (Regex.first_alt_left
      (first_padded 3 visibility (' ' :: rest)) (t := .lit "///")))) (first_blank rest)
  exact MetarDecoderPart.parse_word rfl rfl hfirst rfl

/-- Nothing is taken of what begins with neither a temperature nor slashes. -/
theorem attempts_temperature_of_not {a b : Char} (ha : a.isDigit = false) (hslash : a ≠ '/')
    (hM : ¬ (a = 'M' ∧ b.isDigit = true)) (s : QString) :
    temperature.regExp.attempts (a :: b :: s) = [] := by
  refine Regex.attempts_seq_of_left (Regex.attempts_seq_of_left (Regex.attempts_seq_of_left
    (Regex.attempts_group_of_nil ?_)))
  have hdigits : (Regex.opt (.lit ['M']) ++ digits 2 : Regex GroupName).attempts (a :: b :: s) = []
      := by
    refine Regex.attempts_seq_of_right fun m hm => ?_
    rcases List.mem_append.mp hm with hm | hm
    · -- Behind an `M` there would have to be a digit.
      rw [Regex.attempts_lit] at hm
      split at hm
      case isTrue h =>
        have haM : 'M' = a := (List.cons_prefix_cons.mp (List.isPrefixOf_iff_prefix.mp h)).1
        have hb : b.isDigit = false := Bool.eq_false_iff.mpr fun hb => hM ⟨haM.symm, hb⟩
        rw [List.mem_singleton.mp hm]
        exact attempts_digits_of_not hb 1 s
      case isFalse => cases hm
    · rw [List.mem_singleton.mp hm]
      exact attempts_digits_of_not ha 1 (b :: s)
  have hlit : (Regex.lit "//" : Regex GroupName).attempts (a :: b :: s) = [] :=
    Regex.attempts_lit_of_ne hslash ['/'] _
  rw [temperatureRegExp, Regex.attempts_alt, hdigits, hlit]
  rfl

/-- Two digits begin with one. -/
theorem padded_eq_cons (n : ℕ) : ∃ c d, padded 2 n = [c, d] ∧ c.isDigit = true ∧ d.isDigit = true :=
  ⟨_, _, rfl, Numeral.isDigit_digitChar (Nat.mod_lt _ (by omega)),
    Numeral.isDigit_digitChar (Nat.mod_lt _ (by omega))⟩

theorem first_temperatureText (t : SignedTemperature) (s : QString) :
    temperatureRegExp.first (t.text ++ s) = some ([] ++ [], s) := by
  have hdigits := first_padded 2 t.magnitude s
  refine Regex.first_alt_left ?_
  unfold SignedTemperature.text
  cases t.negative with
  | true =>
    exact Regex.first_seq (Regex.first_opt (Regex.first_lit ['M'] _)) hdigits
  | false =>
    refine Regex.first_seq (Regex.first_opt_skip ?_) hdigits
    rcases padded_eq_cons t.magnitude with ⟨c, d, hcons, hc, _⟩
    rw [hcons]
    exact Regex.attempts_lit_of_ne (not_digit_ne hc (by decide)) [] _

theorem signedTemperature_text (t : SignedTemperature) : signedTemperature t.text = t.value := by
  have hread : toInt? (padded 2 t.magnitude) = some (t.magnitude.val : ℤ) :=
    toInt?_padded (by omega) t.magnitude.isLt (by omega)
  have hM : ∀ c ∈ padded 2 t.magnitude, (c != 'M') = true := by
    intro c hc
    exact bne_iff_ne.mpr (not_digit_ne (isDigit_of_mem_padded hc) (by decide))
  unfold SignedTemperature.text SignedTemperature.value signedTemperature
  cases t.negative with
  -- The `M` is dropped and stands for the sign.
  | true =>
    have hfilter : (['M'] ++ padded 2 t.magnitude.val).filter (fun c => c != 'M')
        = padded 2 t.magnitude := by
      rw [List.singleton_append, List.filter_cons_of_neg (by decide), List.filter_eq_self.mpr hM]
    have hstart : QString.startsWith (['M'] ++ padded 2 t.magnitude) ['M'] = true := rfl
    rw [if_pos rfl, if_pos hstart, hfilter, toInt_of_toInt? hread]
    rfl
  | false =>
    rcases padded_eq_cons t.magnitude with ⟨c, d, hcons, hc, _⟩
    have hstart : QString.startsWith (padded 2 t.magnitude) ['M'] = false := by
      rw [hcons, QString.startsWith, List.isPrefixOf_cons_cons,
        beq_eq_false_iff_ne.mpr (not_digit_ne hc (by decide)).symm, Bool.false_and]
    rw [if_neg Bool.false_ne_true, List.nil_append, hstart, if_neg Bool.false_ne_true,
      toInt_of_toInt? hread]
    rfl

theorem temperatureText_ne (t : SignedTemperature) : t.text ≠ [] ∧ t.text ≠ "//" := by
  rcases padded_eq_cons t.magnitude with ⟨c, d, hcons, hc, _⟩
  unfold SignedTemperature.text
  rw [hcons]
  cases t.negative with
  | true => exact ⟨List.cons_ne_nil _ _, fun h => absurd (List.cons.inj h).1 (by decide)⟩
  | false =>
    refine ⟨List.cons_ne_nil _ _, fun h => ?_⟩
    exact absurd (List.cons.inj h).1 (not_digit_ne hc (by decide))

theorem parse_temperature (t dewPoint : SignedTemperature) :
    temperature.parse (t.text ++ '/' :: dewPoint.text ++ ' ' :: rest) metar
      = some (rest, { metar with m_temperature := t.value, m_dewPoint := dewPoint.value }) := by
  have htext : t.text ++ '/' :: dewPoint.text ++ ' ' :: rest
      = t.text ++ (['/'] ++ (dewPoint.text ++ ([' '] ++ rest))) := by
    simp
  have hfirst : temperature.regExp.first (t.text ++ '/' :: dewPoint.text ++ ' ' :: rest)
      = some ([(.temperature, t.text)] ++ [] ++ [(.dew_point, dewPoint.text)] ++ [], rest) := by
    rw [htext]
    exact Regex.first_seq (Regex.first_seq (Regex.first_seq
      (Regex.first_group (first_temperatureText t _)) (Regex.first_lit ['/'] _))
      (Regex.first_group (first_temperatureText dewPoint _))) (Regex.first_opt (first_blank rest))
  -- Neither text is empty or slashes, so both are set.
  have hset : ∀ captures, captured captures .temperature = t.text →
      captured captures .dew_point = dewPoint.text →
      temperature.validateAndSet captures metar
        = some { metar with m_temperature := t.value, m_dewPoint := dewPoint.value } := by
    intro captures ht hdew
    rcases temperatureText_ne t with ⟨htempty, htslash⟩
    rcases temperatureText_ne dewPoint with ⟨hdempty, hdslash⟩
    dsimp only [temperature]
    rw [ht, hdew, if_neg (not_or.mpr ⟨htempty, hdempty⟩), if_neg (not_or.mpr ⟨htslash, hdslash⟩),
      signedTemperature_text, signedTemperature_text]
  exact MetarDecoderPart.parse_word rfl rfl hfirst (hset _ rfl rfl)

end Temperature

/-! ## Pressure, and what is behind it -/

section Pressure

variable {s s' : QString} {metar metar' : CMetar}

/-- A part whose values are valid goes on, whatever it leaves. -/
theorem exists_parse_of_first {part : MetarDecoderPart} {captures : Captures GroupName}
    {rest : QString} (hrepeatable : part.isRepeatable = false)
    (hfirst : part.regExp.first s = some (captures, rest))
    (hset : part.validateAndSet captures metar = some metar') :
    ∃ s', part.parse s metar = some (s', metar') := by
  refine ⟨part.removeAll true 0 s, ?_⟩
  unfold MetarDecoderPart.parse MetarDecoderPart.parseFrom
  rw [MetarDecoderPart.search_of_first hfirst]
  dsimp only
  rw [hset, hrepeatable]
  rfl

/-- A part that sets nothing goes on too. -/
theorem exists_parse {part : MetarDecoderPart} (hrepeatable : part.isRepeatable = false)
    (hmandatory : part.isMandatory = false)
    (hset : ∀ captures metar, part.validateAndSet captures metar = some metar) (s : QString)
    (metar : CMetar) : ∃ s', part.parse s metar = some (s', metar) := by
  unfold MetarDecoderPart.parse MetarDecoderPart.parseFrom
  cases part.search true s with
  | none =>
    rw [hmandatory]
    exact ⟨s, rfl⟩
  | some captures =>
    dsimp only
    rw [hset, hrepeatable]
    exact ⟨_, rfl⟩

/-- The altimeter is set, whatever is behind it. -/
theorem parse_pressure (altimeter : AltimeterGroup) (tail : QString) (metar : CMetar) :
    ∃ s', pressure.parse (altimeter.text ++ tail) metar
      = some (s', { metar with m_altimeter := altimeter.value }) := by
  -- The two units of the source, with the factor for inches.
  obtain ⟨letter, hletter, hmem, hne, hvalue⟩ : ∃ letter : Char,
      altimeter.text = letter :: padded 4 altimeter.pressure
        ∧ [letter] ∈ getPressureUnits.map Prod.fst ∧ [letter] ≠ [] ∧ altimeter.value
        = ⟨if (getPressureUnits.lookup [letter]).getD .hPa = .inHg
          then (altimeter.pressure.val : ℚ) / 100 else altimeter.pressure.val,
            (getPressureUnits.lookup [letter]).getD .hPa⟩ := by
    unfold AltimeterGroup.text AltimeterGroup.value
    cases altimeter.inches with
    | true => exact ⟨'A', rfl, by decide, by decide, rfl⟩
    | false => exact ⟨'Q', rfl, by decide, by decide, rfl⟩
  have hslashes : padded 4 altimeter.pressure ≠ "////" := by
    intro h
    have hmem : '/' ∈ padded 4 altimeter.pressure.val := by rw [h]; decide
    exact absurd (isDigit_of_mem_padded hmem) (by decide)
  have hset : ∀ captures, captured captures .unit = [letter] →
      captured captures .pressure = padded 4 altimeter.pressure →
      pressure.validateAndSet captures metar
        = some { metar with m_altimeter := altimeter.value } := by
    intro captures hunit hpressure
    have hdigits : padded 4 altimeter.pressure ≠ [] := padded_ne_nil (by decide)
    dsimp only [pressure]
    rw [hunit, hpressure, if_neg (fun h => h.1.elim hne hdigits), if_neg hslashes,
      if_pos ⟨hne, hdigits⟩, toDouble?_padded (by decide) altimeter.pressure.isLt]
    rw [hvalue]
  -- A blank behind the pressure is taken, if there is one.
  obtain ⟨rest, hblank⟩ : ∃ rest, (Regex.opt blank).first tail = some ([], rest) := by
    cases hattempts : blank.attempts tail with
    | nil => exact ⟨tail, Regex.first_opt_skip hattempts⟩
    | cons m others =>
      rw [blank, Regex.attempts_lit] at hattempts
      split at hattempts
      case isTrue h =>
        rcases List.isPrefixOf_iff_prefix.mp h with ⟨rest, rfl⟩
        exact ⟨rest, Regex.first_opt (first_blank rest)⟩
      case isFalse => cases hattempts
  have hfirst : pressure.regExp.first ([letter] ++ (padded 4 altimeter.pressure ++ tail))
      = some ([(.unit, [letter])] ++ [(.pressure, padded 4 altimeter.pressure)] ++ [], rest) :=
    Regex.first_seq (Regex.first_seq (Regex.first_group
      (Regex.first_of_attempts (Regex.attempts_oneOf_append (by decide) hmem _)))
      (Regex.first_group (Regex.first_alt_left (first_padded 4 altimeter.pressure _)))) hblank
  rw [hletter]
  exact exists_parse_of_first rfl hfirst (hset _ rfl rfl)

/-- Nothing is taken at the beginning of what begins with no unit. -/
theorem attempts_pressure_of_not {a : Char} (hQ : a ≠ 'Q') (hA : a ≠ 'A') (s : QString) :
    pressure.regExp.attempts (a :: s) = [] := by
  refine Regex.attempts_seq_of_left (Regex.attempts_seq_of_left (Regex.attempts_group_of_nil ?_))
  refine Regex.attempts_oneOf_of_not fun code hcode hbegins => ?_
  rcases List.mem_pair.mp hcode with rfl | rfl
  · exact hQ (List.cons_prefix_cons.mp hbegins).1.symm
  · exact hA (List.cons_prefix_cons.mp hbegins).1.symm

/-- What is found elsewhere is a match of the expression for any place. -/
theorem exists_of_search {part : MetarDecoderPart} {atStart : Bool} {captures : Captures GroupName}
    (hnone : atStart = true → part.regExp.attempts s = [])
    (h : part.search atStart s = some captures) :
    ∃ r ∈ part.anywhere, ∃ t rest, (captures, rest) ∈ r.attempts t := by
  -- At the front nothing is found, so it is the expression for any place.
  have hmatch : ∀ {atStart : Bool} {s : QString} {m : Captures GroupName × QString},
      (atStart = true → part.regExp.attempts s = []) → part.matchAt atStart s = some m →
        ∃ r ∈ part.anywhere, ∃ t rest, (m.1, rest) ∈ r.attempts t := by
    intro atStart s m hnone h
    have hstart : (if atStart then part.regExp.first s else none) = none := by
      cases atStart with
      | true => exact Regex.first_eq_none.mpr (hnone rfl)
      | false => rfl
    rw [MetarDecoderPart.matchAt, hstart] at h
    rcases Option.bind_eq_some_iff.mp h with ⟨r, hr, hfirst⟩
    exact ⟨r, hr, s, m.2, List.mem_of_head? hfirst⟩
  -- Each place is tried until one matches.
  induction s generalizing atStart with
  | nil =>
    rcases Option.map_eq_some_iff.mp h with ⟨m, hm, rfl⟩
    exact hmatch hnone hm
  | cons c s ih =>
    unfold MetarDecoderPart.search at h
    split at h
    case h_1 m hm =>
      cases h
      exact hmatch hnone hm
    case h_2 => exact ih (fun hstart => absurd hstart Bool.false_ne_true) h

/-- Without an altimeter at the front the pressure is not set. -/
theorem pressure_of_stuck (hnone : pressure.regExp.attempts s = [])
    (h : pressure.parse s metar = some (s', metar')) : metar' = metar := by
  unfold MetarDecoderPart.parse MetarDecoderPart.parseFrom at h
  cases hsearch : pressure.search true s with
  | none =>
    rw [hsearch] at h
    exact (Prod.mk.inj (Option.some.inj h)).2.symm
  | some captures =>
    -- Elsewhere the expression has no groups for unit and pressure, so both are empty.
    rcases exists_of_search (fun _ => hnone) hsearch with ⟨r, hr, t, rest, hmem⟩
    have hnames := Regex.mem_names_of_mem hmem
    rcases Option.some.inj hr with rfl
    have hunit : captured captures .unit = [] := captured_of_not_mem fun p hp heq => by
      have hp := hnames p hp
      rw [heq] at hp
      exact absurd hp (by decide)
    have hpressure : captured captures .pressure = [] := captured_of_not_mem fun p hp heq => by
      have hp := hnames p hp
      rw [heq] at hp
      exact absurd hp (by decide)
    have hset : ∀ metar₁, pressure.validateAndSet captures metar = some metar₁ →
      metar₁ = metar := by
      intro metar₁ h
      dsimp only [pressure] at h
      rw [hunit, hpressure] at h
      by_cases hqfe : captured captures .qfe = []
      · rw [if_pos ⟨.inl rfl, hqfe⟩] at h
        cases h
      · rw [if_neg (fun h => hqfe h.2)] at h
        exact (Option.some.inj h).symm
    rw [hsearch] at h
    dsimp only at h
    split at h
    case h_1 => cases h
    case h_2 metar₁ hmetar₁ =>
      rw [← hset metar₁ hmetar₁]
      exact (Prod.mk.inj (Option.some.inj h)).2.symm

/-- None of the parts from the clouds on takes what a text begins with. -/
def Stuck (s : QString) : Prop :=
  ∃ a b t, s = a :: b :: t ∧ [a, b] ∉ cloudFronts ∧ ¬ (a = 'V' ∧ b = 'V') ∧ a.isDigit = false
    ∧ a ≠ '/' ∧ ¬ (a = 'M' ∧ b.isDigit = true) ∧ a ≠ 'Q' ∧ a ≠ 'A'

/-- So the altimeter stays what it is. -/
theorem altimeter_of_stuck (hstuck : Stuck s)
    (h : decodeParts [cloud, verticalVisibility, temperature, pressure, recentWeather, windShear] s
      metar = some metar') : metar'.m_altimeter = metar.m_altimeter := by
  rcases hstuck with ⟨a, b, t, rfl, hcloud, hvertical, hdigit, hslash, hM, hQ, hA⟩
  rw [decodeParts_cons (MetarDecoderPart.parse_of_nil rfl rfl (attempts_cloud_of_not hcloud t)),
    decodeParts_cons (MetarDecoderPart.parse_of_nil rfl rfl
    (attempts_verticalVisibility_of_not hvertical t)),
    decodeParts_cons (MetarDecoderPart.parse_of_nil rfl rfl
    (attempts_temperature_of_not hdigit hslash hM t))] at h
  cases hparse : pressure.parse (a :: b :: t) metar with
  | none =>
    rw [decodeParts, hparse] at h
    cases h
  | some result =>
    rcases result with ⟨s', metar₁⟩
    rw [decodeParts_cons hparse] at h
    have hsame := pressure_of_stuck (attempts_pressure_of_not hQ hA _) hparse
    -- The parts behind the pressure do not set it.
    have hkept : ∀ part ∈ [recentWeather, windShear], ∀ captures metar metar',
        part.validateAndSet captures metar = some metar' → metar'.m_altimeter =
          metar.m_altimeter := by
      intro part hpart captures metar metar' h
      rcases List.mem_pair.mp hpart with rfl | rfl
      · rw [Option.some.inj h]
      · rw [Option.some.inj h]
    rw [decodeParts_preserves hkept h, hsame]

end Pressure

end Weather

end NeoSwift.Misc
