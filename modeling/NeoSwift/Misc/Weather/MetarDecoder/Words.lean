import NeoSwift.Misc.Weather.MetarDecoder.PresentWeather
import NeoSwift.Qt.Words

/-!
# The Words of a Report

The words of a report have no white space, so that `simplified` leaves its text alone, and the
text is that of the words up to the altimeter, each with a blank behind it, the altimeter and
what comes behind it.

## Main definitions

* `Printable`: The words.
* `MetarReport.tail`: What comes behind the altimeter.

## Theorems

* `printable_words`: A report has no other words.
* `text_eq_spaced`, `simplified_text`: The text.
-/

namespace NeoSwift.Misc

namespace Weather

/-! ## Texts without blanks -/

section Printable

/-- There is no white space between these two characters. -/
def Plain (s : QString) : Prop := ∀ c ∈ s, 40 ≤ c.toNat ∧ c.toNat ≤ 90

def Printable (word : QString) : Prop := word ≠ [] ∧ Plain word

theorem plain_append {s t : QString} : Plain (s ++ t) ↔ Plain s ∧ Plain t := List.forall_mem_append

theorem plain_cons {c : Char} {s : QString} :
    Plain (c :: s) ↔ (40 ≤ c.toNat ∧ c.toNat ≤ 90) ∧ Plain s := List.forall_mem_cons

theorem plain_nil : Plain [] := nofun

theorem plain_of_all {s : QString}
    (h : s.all (fun c => decide (40 ≤ c.toNat ∧ c.toNat ≤ 90)) = true) : Plain s :=
  fun c hc => of_decide_eq_true (List.all_eq_true.mp h c hc)

theorem plain_of_mem {codes : List QString} {s : QString}
    (h : codes.all (fun s => s.all fun c => decide (40 ≤ c.toNat ∧ c.toNat ≤ 90)) = true)
    (hs : s ∈ codes) : Plain s := plain_of_all (List.all_eq_true.mp h s hs)

theorem plain_padded (width n : ℕ) : Plain (padded width n) := by
  intro c hc
  have hdigit := isDigit_iff.mp (isDigit_of_mem_padded hc)
  omega

theorem plain_elim {α : Type} {text : α → QString} (h : ∀ x, Plain (text x)) (x? : Option α) :
    Plain (x?.elim [] text) := by
  cases x? with
  | none => exact plain_nil
  | some x => exact h x

theorem plain_upper {s : QString} (h : ∀ c ∈ s, c.isUpper = true ∨ c.isDigit = true) : Plain s := by
  intro c hc
  have hchar := h c hc
  rw [isUpper_iff, isDigit_iff] at hchar
  omega

theorem plain_sides (sides : RunwaySides) : Plain sides.1 := by
  refine plain_upper fun c hc => ?_
  rcases sides.2 c hc with rfl | rfl | rfl <;> decide

theorem printable_time (time : ReportTime) : Printable time.text := by
  refine ⟨List.append_ne_nil_of_right_ne_nil _ (List.cons_ne_nil _ _), ?_⟩
  unfold ReportTime.text
  simp only [plain_append, plain_padded, true_and]
  exact plain_of_all (by decide)

theorem plain_speedText (n : ℕ) : Plain (speedText n) := by
  unfold speedText
  split
  · exact plain_padded 2 n
  · exact plain_padded 3 n

theorem printable_wind (wind : WindGroup) : Printable wind.text := by
  have hunit : wind.unit.text ≠ [] ∧ Plain wind.unit.text := by
    cases wind.unit <;> exact ⟨by decide, plain_of_all (by decide)⟩
  refine ⟨List.append_ne_nil_of_right_ne_nil _ hunit.1, ?_⟩
  have hdirection : Plain wind.directionText := by
    unfold WindGroup.directionText
    split
    · exact plain_of_all (by decide)
    · exact plain_padded _ _
  have hgust : Plain wind.gustText := by
    unfold WindGroup.gustText
    split
    · exact plain_nil
    · exact plain_cons.mpr ⟨by decide, plain_speedText _⟩
  unfold WindGroup.text
  simp only [plain_append]
  exact ⟨⟨⟨hdirection, plain_speedText _⟩, hgust⟩, hunit.2⟩

theorem plain_fraction (quotient : Fraction) : Plain quotient.text := by
  unfold Fraction.text
  simp only [plain_append, plain_cons, plain_padded]
  decide

theorem printable_visibility (group : VisibilityGroup) : ∀ word ∈ group.words, Printable word := by
  have hdistance : ∀ n, Printable (distanceText n) := by
    intro n
    unfold distanceText
    split
    · exact ⟨padded_ne_nil (by decide), plain_padded _ _⟩
    · exact ⟨padded_ne_nil (by decide), plain_padded _ _⟩
  have hunit : ∀ unit : DistanceUnit, unit.text ≠ [] ∧ Plain unit.text := by
    intro unit
    cases unit <;> exact ⟨by decide, plain_of_all (by decide)⟩
  -- Every form is made of digits, units and marks, none of which is a blank.
  cases group with
  | cavok => exact List.forall_mem_singleton.mpr ⟨by decide, plain_of_all (by decide)⟩
  | meters visibility noVariation direction =>
    refine List.forall_mem_singleton.mpr ⟨?_, ?_⟩
    · exact List.append_ne_nil_of_left_ne_nil
        (List.append_ne_nil_of_left_ne_nil (padded_ne_nil (by decide)) _) _
    · have hdirection : Plain (direction.elim [] Subtype.val) :=
        plain_elim (fun d => plain_of_mem (by decide) d.2) direction
      simp only [plain_append, plain_padded, true_and]
      cases noVariation with
      | true => exact ⟨plain_of_all (by decide), hdirection⟩
      | false => exact ⟨plain_nil, hdirection⟩
  | whole distance unit =>
    exact List.forall_mem_singleton.mpr ⟨List.append_ne_nil_of_right_ne_nil _ (hunit unit).1,
      plain_append.mpr ⟨(hdistance distance).2, (hunit unit).2⟩⟩
  | fraction below quotient unit =>
    refine List.forall_mem_singleton.mpr ⟨List.append_ne_nil_of_right_ne_nil _ (hunit unit).1, ?_⟩
    simp only [plain_append]
    refine ⟨⟨?_, plain_fraction quotient⟩, (hunit unit).2⟩
    cases below with
    | true => exact plain_of_all (by decide)
    | false => exact plain_nil
  | mixed distance quotient unit =>
    refine List.forall_mem_cons.mpr ⟨hdistance distance, List.forall_mem_singleton.mpr ⟨?_, ?_⟩⟩
    · exact List.append_ne_nil_of_right_ne_nil _ (hunit unit).1
    · exact plain_append.mpr ⟨plain_fraction quotient, (hunit unit).2⟩

theorem printable_range (range : RunwayRange) : Printable range.text := by
  have htrend : Plain range.trendText := by
    refine plain_elim (fun trend => ?_) range.trend
    rcases trend with ⟨slash, trend⟩
    cases slash <;> cases trend <;> exact plain_of_all (by decide)
  have hvariability : Plain range.variabilityText :=
    plain_elim (fun _ => plain_cons.mpr ⟨by decide, plain_padded _ _⟩) range.variability
  have hbound : Plain range.boundText := by
    refine plain_elim (fun more => ?_) range.bound
    cases more <;> exact plain_of_all (by decide)
  have hfeet : Plain range.feetText := by
    unfold RunwayRange.feetText
    cases range.feet with
    | true => exact plain_of_all (by decide)
    | false => exact plain_nil
  refine ⟨List.cons_ne_nil _ _, ?_⟩
  unfold RunwayRange.text
  simp only [plain_append, plain_cons, plain_padded, plain_sides, hbound, hvariability, hfeet,
    htrend]
  decide

theorem plain_weather (group : WeatherGroup) : Plain group.text := by
  have hintensity : Plain group.intensity.text := by
    cases group.intensity <;> exact plain_of_all (by decide)
  have hcodes : ∀ code ∈ group.codes, Plain code := by
    intro code hcode
    rcases List.mem_append.mp hcode with hcode | hcode
    · have hdescriptor := Option.mem_toList.mp hcode
      cases hd : group.descriptor with
      | none =>
        rw [hd] at hdescriptor
        cases hdescriptor
      | _ =>
        rw [hd] at hdescriptor
        cases hdescriptor
        exact plain_of_all (by decide)
    · rcases List.mem_map.mp hcode with ⟨p, _, rfl⟩
      cases p <;> exact plain_of_all (by decide)
  refine plain_append.mpr ⟨hintensity, fun c hc => ?_⟩
  rcases List.mem_flatten.mp hc with ⟨code, hcode, hmem⟩
  exact hcodes code hcode c hmem

theorem printable_weather (group : WeatherGroup) : Printable group.text := by
  refine ⟨fun h => ?_, plain_weather group⟩
  have hlength := congrArg List.length (List.append_eq_nil_iff.mp h).2
  rcases List.exists_cons_of_ne_nil (codes_ne_nil group) with ⟨code, others, hcodes⟩
  rw [hcodes, List.flatten_cons, List.length_append,
    (codes_spec (hcodes ▸ List.mem_cons_self)).1] at hlength
  exact absurd hlength (by rw [List.length_nil]; omega)

theorem printable_sky (sky : SkyGroup) : ∀ word ∈ sky.words, Printable word := by
  cases sky with
  | clear token =>
    refine List.forall_mem_singleton.mpr ⟨?_, plain_of_mem (by decide) token.2⟩
    intro h
    have hmem := token.2
    rw [h] at hmem
    exact nomatch hmem
  | layers clouds =>
    intro word hword
    rcases List.mem_map.mp hword with ⟨cloud, _, rfl⟩
    have hamount : Plain cloud.amount.text := by
      cases cloud.amount <;> exact plain_of_all (by decide)
    refine ⟨List.append_ne_nil_of_left_ne_nil (List.append_ne_nil_of_right_ne_nil _
      (padded_ne_nil (by decide))) _, ?_⟩
    unfold CloudGroup.text
    simp only [plain_append, plain_padded, and_true]
    exact ⟨hamount, plain_elim (fun c => plain_of_mem (by decide) c.2) cloud.convective⟩

theorem plain_temperature (t : SignedTemperature) : Plain t.text := by
  refine plain_append.mpr ⟨?_, plain_padded _ _⟩
  cases t.negative with
  | true => exact plain_of_all (by decide)
  | false => exact plain_nil

theorem printable_shear (shear : WindShearGroup) : ∀ word ∈ shear.words, Printable word := by
  have hword : ∀ {s : QString}, s ≠ [] →
    s.all (fun c => decide (40 ≤ c.toNat ∧ c.toNat ≤ 90)) = true →
      Printable s := fun hne hall => ⟨hne, plain_of_all hall⟩
  cases shear with
  | allRunways =>
    refine List.forall_mem_cons.mpr ⟨hword (by decide) (by decide), List.forall_mem_cons.mpr
      ⟨hword (by decide) (by decide), List.forall_mem_singleton.mpr
        (hword (by decide) (by decide))⟩⟩
  | runway designator sides =>
    refine List.forall_mem_cons.mpr ⟨hword (by decide) (by decide), List.forall_mem_singleton.mpr
      ⟨List.append_ne_nil_of_left_ne_nil (List.append_ne_nil_of_left_ne_nil (by decide) _) _, ?_⟩⟩
    simp only [plain_append, plain_padded, and_true]
    exact ⟨plain_of_all (by decide), plain_sides sides⟩

end Printable

namespace MetarReport

variable (report : MetarReport)

theorem printable_words : ∀ word ∈ report.words, Printable word := by
  -- Each kind of word is printable, and so are all words.
  have htype : ∀ type : ReportType, Printable type.text := by
    intro type
    cases type <;> exact ⟨by decide, plain_of_all (by decide)⟩
  have hairport : Printable report.airport.1 :=
    ⟨List.ne_nil_of_length_pos (by rw [report.airport.2.1]; decide), plain_upper report.airport.2.2⟩
  have hstatus : ∀ status : StatusGroup, Printable status.text := by
    intro status
    cases status with
    | auto => exact ⟨by decide, plain_of_all (by decide)⟩
    | correction indicator =>
      exact ⟨List.ne_nil_of_length_pos (by
          rw [StatusGroup.text, indicator.2.1]
          decide),
        plain_upper fun c hc => .inl (indicator.2.2 c hc)⟩
  have hvariation : ∀ variation : Fin 1000 × Fin 1000, Printable (variationText variation) :=
    fun _ => ⟨List.append_ne_nil_of_right_ne_nil _ (List.cons_ne_nil _ _),
      plain_append.mpr ⟨plain_padded _ _, plain_cons.mpr ⟨by decide, plain_padded _ _⟩⟩⟩
  have hvertical : ∀ visibility : Fin 1000, Printable (verticalVisibilityText visibility) :=
    fun _ => ⟨List.cons_ne_nil _ _,
      plain_cons.mpr ⟨by decide, plain_cons.mpr ⟨by decide, plain_padded _ _⟩⟩⟩
  have htemperatures : Printable (report.temperature.text ++ '/' :: report.dewPoint.text) :=
    ⟨List.append_ne_nil_of_right_ne_nil _ (List.cons_ne_nil _ _), plain_append.mpr
      ⟨plain_temperature _, plain_cons.mpr ⟨by decide, plain_temperature _⟩⟩⟩
  have haltimeter : Printable report.altimeter.text := by
    unfold AltimeterGroup.text
    cases report.altimeter.inches <;>
      exact ⟨List.cons_ne_nil _ _, plain_cons.mpr ⟨by decide, plain_padded _ _⟩⟩
  have hrecent : ∀ group : WeatherGroup, Printable ('R' :: 'E' :: group.text) := fun group =>
    ⟨List.cons_ne_nil _ _, plain_cons.mpr
      ⟨by decide, plain_cons.mpr ⟨by decide, plain_weather group⟩⟩⟩
  have hshears : ∀ word ∈ report.windShears.flatMap WindShearGroup.words, Printable word := by
    intro word hword
    rcases List.mem_flatMap.mp hword with ⟨shear, _, hmem⟩
    exact printable_shear shear word hmem
  have hoption : ∀ {α : Type} {text : α → QString} (x? : Option α), (∀ x, Printable (text x)) →
      ∀ word ∈ x?.toList.map text, Printable word :=
    fun _ h => List.forall_mem_map.mpr fun x _ => h x
  -- The words up to the altimeter, and those behind it.
  have hfront : ∀ word ∈ report.front, Printable word := by
    unfold front
    simp only [List.forall_mem_append, List.forall_mem_singleton]
    exact ⟨hoption _ htype, hairport, printable_time _, hoption _ hstatus, printable_wind _,
      hoption _ hvariation, printable_visibility _,
      List.forall_mem_map.mpr fun range _ => printable_range range,
      List.forall_mem_map.mpr fun group _ => printable_weather group, printable_sky _,
      hoption _ hvertical, htemperatures⟩
  have hsupplement : ∀ word ∈ report.supplement, Printable word :=
    List.forall_mem_append.mpr ⟨List.forall_mem_map.mpr fun group _ => hrecent group, hshears⟩
  exact List.forall_mem_append.mpr ⟨hfront, List.forall_mem_cons.mpr ⟨haltimeter, hsupplement⟩⟩

/-- What comes behind the altimeter. -/
def tail : QString :=
  match report.supplement with
  | [] => []
  | word :: words => ' ' :: QString.join (word :: words) [' ']

theorem join_append_cons (words : List QString) (word : QString) (others : List QString) :
    QString.join (words ++ word :: others) [' ']
      = spaced words ++ QString.join (word :: others) [' '] := by
  induction words with
  | nil => rfl
  | cons w words ih =>
    have hne : words ++ word :: others ≠ [] :=
      List.append_ne_nil_of_right_ne_nil _ (List.cons_ne_nil _ _)
    rw [spaced_cons, ← ih]
    exact (List.intercalate_cons_of_ne_nil hne).trans (List.append_assoc _ _ _)

theorem text_eq_spaced :
    report.text = spaced report.front ++ (report.altimeter.text ++ report.tail) := by
  have hend : QString.join (report.altimeter.text :: report.supplement) [' ']
      = report.altimeter.text ++ report.tail := by
    unfold tail
    cases report.supplement with
    | nil => exact (List.intercalate_singleton ..).trans (List.append_nil _).symm
    | cons word words => exact List.intercalate_cons_cons
  unfold text words
  rw [join_append_cons, hend]

theorem simplified_text : report.text.simplified = report.text :=
  QString.simplified_join (fun word hword => (printable_words report word hword).1)
    fun word hword c hc => isSpace_of_range ((printable_words report word hword).2 c hc)

end MetarReport

end Weather

end NeoSwift.Misc
