import NeoSwift.Misc.Weather.MetarDecoder.Header

/-!
# Present Weather

How the decoder takes groups of present weather from the front of a text. The codes have two
letters each. Two of them are not those of the decoder, freezing and ice pellets; it gets
stuck at a group with one of them, however much it takes before.

Of the phenomena of a group the first two are read, and a tornado is read as a funnel cloud.

## Main definitions

* `WeatherGroup.Readable`: All codes of a group are those of the decoder.
* `WeatherGroup.decoded`: What the decoder makes of a group.

## Theorems

* `parse_presentWeather`: The groups up to the first one that is not readable.
* `decoded_eq_value`: What the decoder makes of a group is what is meant.
-/

namespace NeoSwift.Misc

namespace Weather

open Pq

/-! ## What is read of a group -/

/-- One code stands for both. -/
def WeatherPhenomenon.seen : WeatherPhenomenon → WeatherPhenomenon
  | .tornadoOrWaterspout => .funnelCloud
  | p => p

namespace WeatherGroup

variable (group : WeatherGroup)

def Readable : Prop := group.descriptor ≠ .freezing ∧ WeatherPhenomenon.icePellets ∉ group.phenomena

instance : DecidablePred Readable := fun group =>
  inferInstanceAs (Decidable (group.descriptor ≠ .freezing ∧ _ ∉ group.phenomena))

def decoded : CPresentWeather :=
  ⟨group.intensity, group.descriptor, flags ((group.phenomena.take 2).map WeatherPhenomenon.seen)⟩

end WeatherGroup

/-- A group is read as it is meant where it has no tornado, and all of its phenomena are among
the first two. -/
theorem decoded_eq_value (group : WeatherGroup) :
    group.decoded = group.value ↔ WeatherPhenomenon.tornadoOrWaterspout ∉ group.phenomena
      ∧ group.phenomena ⊆ group.phenomena.take 2 := by
  -- A tornado is read as something else, and all others as what they are.
  have hseen : ∀ p, WeatherPhenomenon.seen p ≠ .tornadoOrWaterspout := by
    intro p
    cases p <;> exact WeatherPhenomenon.noConfusion
  have hsame : ∀ p, p ≠ WeatherPhenomenon.tornadoOrWaterspout → p.seen = p := by
    intro p hp
    cases p <;> first | rfl | exact absurd rfl hp
  -- Only the phenomena can differ, and they are compared as flags.
  have hflags : group.decoded = group.value ↔ ∀ p,
      p ∈ (group.phenomena.take 2).map WeatherPhenomenon.seen ↔ p ∈ group.phenomena := by
    rw [← flags_eq_iff]
    rw [CPresentWeather.mk.injEq]
    exact ⟨fun h => h.2.2, fun h => ⟨rfl, rfl, h⟩⟩
  rw [hflags]
  constructor
  · intro h
    have htornado : WeatherPhenomenon.tornadoOrWaterspout ∉ group.phenomena := by
      intro hmem
      rcases List.mem_map.mp ((h _).mpr hmem) with ⟨p, _, hp⟩
      exact hseen p hp
    refine ⟨htornado, fun p hp => ?_⟩
    rcases List.mem_map.mp ((h p).mpr hp) with ⟨q, hq, rfl⟩
    have hq_ne : q ≠ .tornadoOrWaterspout := by
      rintro rfl
      exact htornado (List.mem_of_mem_take hq)
    rw [hsame q hq_ne]
    exact hq
  · rintro ⟨htornado, hsubset⟩ p
    have hmap : (group.phenomena.take 2).map WeatherPhenomenon.seen = group.phenomena.take 2 := by
      refine (List.map_congr_left fun q hq => hsame q ?_).trans (List.map_id _)
      rintro rfl
      exact htornado (List.mem_of_mem_take hq)
    rw [hmap]
    exact ⟨List.mem_of_mem_take, fun hp => hsubset hp⟩

/-! ## Codes -/

section Codes

/-- The codes of the decoder. -/
def weatherKeys : List QString := getDescriptorHash.map Prod.fst ++ weatherPhenomenaKeys

theorem length_weatherKeys : ∀ code ∈ weatherKeys, code.length = 2 := by decide

/-- What a code begins with is no intensity. -/
def Unqualified (s : QString) : Prop :=
  ∃ a b rest, s = a :: b :: rest ∧ a ≠ '-' ∧ a ≠ '+' ∧ a ≠ ' ' ∧ ¬ (a = 'V' ∧ b = 'C')

theorem code_descriptor {d : Descriptor} {code : QString} (h : d.code = some code) :
    code.length = 2 ∧ (∀ rest, Unqualified (code ++ rest))
      ∧ (code ∈ getDescriptorHash.map Prod.fst ↔ d ≠ .freezing) ∧ code ∉ weatherPhenomenaKeys := by
  cases d with
  | none => cases h
  | freezing =>
    cases h
    exact ⟨rfl, fun rest => ⟨_, _, rest, rfl, by decide⟩, by decide⟩
  | _ =>
    cases h
    exact ⟨rfl, fun rest => ⟨_, _, rest, rfl, by decide⟩, by decide⟩

theorem code_phenomenon (p : WeatherPhenomenon) :
    p.code.length = 2 ∧ (∀ rest, Unqualified (p.code ++ rest))
      ∧ (p.code ∈ weatherPhenomenaKeys ↔ p ≠ .icePellets)
      ∧ p.code ∉ getDescriptorHash.map Prod.fst := by
  cases p <;> exact ⟨rfl, fun rest => ⟨_, _, rest, rfl, by decide⟩, by decide⟩

end Codes

/-! ## Groups that are not readable -/

section Stuck

theorem Unqualified.not_blank {s : QString} (hs : Unqualified s) : [' '].isPrefixOf s = false := by
  rcases hs with ⟨a, b, rest, rfl, _, _, hblank, _⟩
  rw [List.isPrefixOf_cons_cons, beq_eq_false_iff_ne.mpr hblank.symm, Bool.false_and]

theorem Unqualified.attempts {s : QString} (hs : Unqualified s) :
    (Regex.group GroupName.intensity
      (.alt (.char fun c => c == '-' || c == '+') (.lit "VC"))).attempts s = [] := by
  rcases hs with ⟨a, b, rest, rfl, hminus, hplus, _, hVC⟩
  refine Regex.attempts_group_of_nil ?_
  rw [Regex.attempts_alt, Regex.attempts_char_of_not, Regex.attempts_lit]
  · refine if_neg fun hbegins => hVC ?_
    rcases List.isPrefixOf_iff_prefix.mp hbegins with ⟨tail, htail⟩
    have hcons := List.cons.inj htail
    exact ⟨hcons.1.symm, (List.cons.inj hcons.2).1.symm⟩
  · rw [Bool.or_eq_false_iff, beq_eq_false_iff_ne, beq_eq_false_iff_ne]
    exact ⟨hminus, hplus⟩

/-- The intensity is taken, or left. -/
theorem rest_intensity {intensity : Intensity} {s : QString} (hs : Unqualified s)
    {m : Captures GroupName × QString}
    (hm : m ∈ qualifierIntensity.attempts (intensity.text ++ s)) :
    m.2 = s ∨ m.2 = intensity.text ++ s := by
  rcases List.mem_append.mp hm with hm | hm
  · left
    cases intensity with
    | moderate =>
      rw [Intensity.text, List.nil_append, hs.attempts] at hm
      cases hm
    | light | heavy | inVincinity =>
      rcases List.mem_map.mp hm with ⟨m₁, hm₁, rfl⟩
      exact congrArg Prod.snd (List.mem_singleton.mp hm₁)
  · right
    rw [List.mem_singleton.mp hm]

theorem attempts_weatherGroups {taken : List QString} {bad : QString}
    (htaken : ∀ code ∈ taken, code.length = 2 ∧ ∀ rest, Unqualified (code ++ rest))
    (hbad : bad.take 2 ∉ weatherKeys) (hblank : [' '].isPrefixOf bad = false) :
    (Regex.optionals [' '] weatherGroups).attempts (taken.flatten ++ bad) = [] := by
  have hkeys : ∀ group ∈ weatherGroups, ∀ code ∈ group.2, code ∈ weatherKeys := by decide
  have hnodup : ∀ group ∈ weatherGroups, group.2.Nodup := by decide
  refine Regex.attempts_optionals_of_stuck
    (fun group hgroup code hcode => length_weatherKeys code (hkeys group hgroup code hcode)) hnodup
    (fun code hcode => ⟨(htaken code hcode).1, fun rest => ?_⟩)
    (fun group hgroup hcode => hbad (hkeys group hgroup _ hcode)) hblank
  exact ((htaken code hcode).2 rest).not_blank

theorem attempts_weatherGroups_of_not {bad : QString} (hbad : bad.take 2 ∉ weatherKeys)
    (hblank : [' '].isPrefixOf bad = false) :
    (Regex.optionals [' '] weatherGroups).attempts bad = [] :=
  @attempts_weatherGroups [] bad nofun hbad hblank

/-- A code the decoder does not know cannot be got past. -/
theorem attempts_presentWeather_of_stuck (intensity : Intensity) {taken : List QString}
    {bad : QString} (hs : Unqualified (taken.flatten ++ bad))
    (htaken : ∀ code ∈ taken, code.length = 2 ∧ ∀ rest, Unqualified (code ++ rest))
    (hbad : bad.take 2 ∉ weatherKeys) (hblank : [' '].isPrefixOf bad = false) :
    presentWeather.regExp.attempts (intensity.text ++ (taken.flatten ++ bad)) = [] := by
  have hsigns : ∀ code ∈ weatherKeys, '-' ∉ code ∧ '+' ∉ code ∧ code ≠ ['V', 'C'] := by
    decide
  refine Regex.attempts_seq_of_right fun m hm => ?_
  rcases rest_intensity hs hm with hrest | hrest
  · rw [hrest]
    exact attempts_weatherGroups htaken hbad hblank
  · rw [hrest]
    -- an intensity is no code
    cases intensity with
    | moderate => exact attempts_weatherGroups htaken hbad hblank
    | light =>
      exact attempts_weatherGroups_of_not (fun h => (hsigns _ h).1 List.mem_cons_self) rfl
    | heavy =>
      exact attempts_weatherGroups_of_not (fun h => (hsigns _ h).2.1 List.mem_cons_self) rfl
    | inVincinity =>
      exact attempts_weatherGroups_of_not (fun h => (hsigns _ h).2.2 rfl) rfl

theorem codes_spec {group : WeatherGroup} {code : QString} (hcode : code ∈ group.codes) :
    code.length = 2 ∧ ∀ rest, Unqualified (code ++ rest) := by
  rcases List.mem_append.mp hcode with hcode | hcode
  · have hspec := code_descriptor (Option.mem_toList.mp hcode)
    exact ⟨hspec.1, hspec.2.1⟩
  · rcases List.mem_map.mp hcode with ⟨p, _, rfl⟩
    exact ⟨(code_phenomenon p).1, (code_phenomenon p).2.1⟩

theorem codes_ne_nil (group : WeatherGroup) : group.codes ≠ [] := by
  rcases group with ⟨_, descriptor, phenomena, _, hsomething⟩
  intro h
  rcases List.append_eq_nil_iff.mp h with ⟨hdescriptor, hphenomena⟩
  rcases hsomething with hsomething | hsomething
  · cases descriptor
    case none => exact hsomething rfl
    all_goals cases hdescriptor
  · exact hsomething (List.map_eq_nil_iff.mp hphenomena)

theorem unqualified_codes (group : WeatherGroup) (rest : QString) :
    Unqualified (group.codes.flatten ++ rest) := by
  cases hcodes : group.codes with
  | nil => exact absurd hcodes (codes_ne_nil group)
  | cons code codes =>
    have hcode : code ∈ group.codes := by rw [hcodes]; exact List.mem_cons_self
    rw [List.flatten_cons, List.append_assoc]
    exact (codes_spec hcode).2 _

/-- Of a group with such a code nothing is taken. -/
theorem attempts_of_not_readable {group : WeatherGroup} (h : ¬ group.Readable) (rest : QString) :
    presentWeather.regExp.attempts (group.text ++ ' ' :: rest) = [] := by
  -- One of the codes is in none of the tables.
  have hbad : ∃ code ∈ group.codes, code ∉ weatherKeys := by
    rcases not_and_or.mp h with h | h
    · have hcode : group.descriptor.code = some ['F', 'Z'] := by rw [not_not.mp h]; rfl
      refine ⟨['F', 'Z'], List.mem_append_left _ (Option.mem_toList.mpr hcode), ?_⟩
      decide
    · refine ⟨WeatherPhenomenon.icePellets.code,
        List.mem_append_right _ (List.mem_map_of_mem (not_not.mp h)), ?_⟩
      decide
  rcases hbad with ⟨code, hcode, hkey⟩
  -- The expression takes what is in front of the code, and then is stuck.
  rcases List.append_of_mem hcode with ⟨taken, others, hcodes⟩
  have hspec : ∀ code ∈ taken, code.length = 2 ∧ ∀ rest, Unqualified (code ++ rest) := by
    intro c hc
    exact codes_spec (hcodes ▸ List.mem_append_left _ hc)
  have htext : group.text ++ ' ' :: rest = group.intensity.text
      ++ (taken.flatten ++ (code ++ (others.flatten ++ ' ' :: rest))) := by
    rw [WeatherGroup.text, hcodes]
    simp
  have hunqualified := unqualified_codes group (' ' :: rest)
  rw [hcodes, List.flatten_append, List.flatten_cons, List.append_assoc, List.append_assoc]
    at hunqualified
  rw [htext]
  refine attempts_presentWeather_of_stuck group.intensity hunqualified hspec ?_
    ((codes_spec hcode).2 _).not_blank
  rw [← (codes_spec hcode).1, List.take_left]
  exact hkey

/-- Neither is anything taken of what begins with no code. -/
theorem attempts_presentWeather_of_not {s : QString} (hs : Unqualified s)
    (hkey : s.take 2 ∉ weatherKeys) : presentWeather.regExp.attempts s = [] :=
  @attempts_presentWeather_of_stuck .moderate [] s hs nofun hkey
    hs.not_blank

end Stuck

/-! ## Groups that are readable -/

section Readable

variable {group : WeatherGroup}

def intensityCaptures : Intensity → Captures GroupName
  | .moderate => []
  | intensity => [(.intensity, intensity.text)]

theorem first_intensity (intensity : Intensity) {s : QString} (hs : Unqualified s) :
    qualifierIntensity.first (intensity.text ++ s) = some (intensityCaptures intensity, s) := by
  cases intensity with
  | moderate => exact Regex.first_opt_skip hs.attempts
  | light => exact Regex.first_opt (Regex.first_group (Regex.first_alt_left (Regex.first_char rfl)))
  | heavy => exact Regex.first_opt (Regex.first_group (Regex.first_alt_left (Regex.first_char rfl)))
  | inVincinity =>
    have hsign : (Regex.char fun c => c == '-' || c == '+' : Regex GroupName).attempts
        ('V' :: 'C' :: s) = [] := Regex.attempts_char_of_not (by decide)
    exact Regex.first_opt (Regex.first_group
      ((Regex.first_alt_right hsign).trans (Regex.first_lit "VC" s)))

/-- The captures of a group, in the order of the expression. -/
def weatherCaptures (group : WeatherGroup) : Captures GroupName :=
  intensityCaptures group.intensity
    ++ ((group.descriptor.code.elim [] fun code => [(.descriptor, code)])
      ++ [GroupName.wp1, .wp2, .wp3, .wp4].zip (group.phenomena.map WeatherPhenomenon.code))

theorem first_presentWeather (h : group.Readable) (rest : QString) :
    presentWeather.regExp.first (group.text ++ ' ' :: rest)
      = some (weatherCaptures group, rest) := by
  have hdkeys : ∀ code ∈ getDescriptorHash.map Prod.fst, code.length = 2 := by decide
  have hpkeys : ∀ code ∈ weatherPhenomenaKeys, code.length = 2 := by decide
  have hpnodup : weatherPhenomenaKeys.Nodup := by decide
  -- A blank ends the codes, as none has one.
  have hblank : ([' '] ++ rest).take 2 ∉ weatherPhenomenaKeys := by
    have hcodes : ∀ code ∈ weatherPhenomenaKeys, ' ' ∉ code := by decide
    exact fun hmem => hcodes _ hmem List.mem_cons_self
  -- A readable group has only phenomena of the table.
  have hknown : ∀ code ∈ group.phenomena.map WeatherPhenomenon.code,
      code ∈ weatherPhenomenaKeys := by
    intro code hcode
    rcases List.mem_map.mp hcode with ⟨p, hp, rfl⟩
    refine (code_phenomenon p).2.2.1.mpr ?_
    rintro rfl
    exact h.2 hp
  have hphenomena := Regex.first_optionals_zip hpkeys hpnodup [GroupName.wp1, .wp2, .wp3, .wp4]
    (group.phenomena.map WeatherPhenomenon.code)
    (by rw [List.length_map]; exact group.phenomena_le) hknown hblank
  have hgroups : (Regex.optionals [' '] weatherGroups).first
    (group.codes.flatten ++ ([' '] ++ rest))
      = some ((group.descriptor.code.elim [] fun code => [(.descriptor, code)])
        ++ [GroupName.wp1, .wp2, .wp3, .wp4].zip (group.phenomena.map WeatherPhenomenon.code),
        rest) := by
    unfold WeatherGroup.codes
    cases hcode : group.descriptor.code with
    | none =>
      have hskip : ((group.phenomena.map WeatherPhenomenon.code).flatten ++ ([' '] ++ rest)).take 2
          ∉ getDescriptorHash.map Prod.fst := by
        -- Without a descriptor there is a phenomenon, and its code is no descriptor.
        have hsomething : group.phenomena ≠ [] := by
          refine group.something.resolve_left fun hnone => hnone ?_
          cases hdescriptor : group.descriptor <;> rw [hdescriptor] at hcode <;>
            first | rfl | cases hcode
        cases hphenomena : group.phenomena with
        | nil => exact absurd hphenomena hsomething
        | cons p phenomena =>
          rw [List.map_cons, List.flatten_cons, List.append_assoc, ← (code_phenomenon p).1,
            List.take_left]
          exact (code_phenomenon p).2.2.2
      exact (Regex.first_optionals_skip hdkeys (by decide) hskip).trans hphenomena
    | some code =>
      have hcode_mem : code ∈ getDescriptorHash.map Prod.fst :=
        (code_descriptor hcode).2.2.1.mpr h.1
      rw [Option.toList_some, List.singleton_append, List.flatten_cons, List.append_assoc]
      exact Regex.first_optionals_cons hdkeys (by decide) hcode_mem hphenomena
  rw [WeatherGroup.text, List.append_assoc]
  exact Regex.first_seq (first_intensity group.intensity (unqualified_codes group _)) hgroups

/-- What has not captured a group is passed over. -/
theorem captured_append {captures : Captures GroupName} {x : GroupName}
    (h : ∀ p ∈ captures, p.1 ≠ x) (captures' : Captures GroupName) :
    captured (captures ++ captures') x = captured captures' x := by
  have hnone : captures.lookup x = none := by
    rw [List.lookup_eq_none_iff]
    intro p hp
    exact bne_iff_ne.mpr (h p hp).symm
  unfold captured Captures.captured
  rw [List.lookup_append, hnone, Option.none_or]

theorem captured_of_not_mem {captures : Captures GroupName} {x : GroupName}
    (h : ∀ p ∈ captures, p.1 ≠ x) : captured captures x = [] := by
  have hnil := captured_append h []
  rw [List.append_nil] at hnil
  exact hnil

theorem mem_intensityCaptures {intensity : Intensity} :
    ∀ p ∈ intensityCaptures intensity, p.1 = .intensity := by
  cases intensity <;> intro p hp
  case moderate => cases hp
  all_goals rw [List.mem_singleton.mp hp]

theorem mem_descriptorCaptures {code? : Option QString} :
    ∀ p ∈ (code?.elim [] fun code => [(GroupName.descriptor, code)] : Captures GroupName),
      p.1 = .descriptor := by
  cases code? <;> intro p hp
  case none => cases hp
  case some => rw [List.mem_singleton.mp hp]

/-- The phenomena are captured in their order, as far as they are read. -/
theorem captured_phenomena (group : WeatherGroup) (x : GroupName) (hx : x = .wp1 ∨ x = .wp2) :
    captured (weatherCaptures group) x
      = captured ([GroupName.wp1, .wp2, .wp3, .wp4].zip
        (group.phenomena.map WeatherPhenomenon.code)) x := by
  unfold weatherCaptures
  rw [captured_append, captured_append]
  · intro p hp
    rw [mem_descriptorCaptures p hp]
    rcases hx with rfl | rfl <;> exact GroupName.noConfusion
  · intro p hp
    rw [mem_intensityCaptures p hp]
    rcases hx with rfl | rfl <;> exact GroupName.noConfusion

theorem captured_intensity (group : WeatherGroup) :
    (getIntensityHash.lookup (captured (weatherCaptures group) .intensity)).getD .moderate
      = group.intensity := by
  unfold weatherCaptures
  cases group.intensity with
  | moderate =>
    rw [intensityCaptures, List.nil_append, captured_append, captured_of_not_mem]
    · rfl
    · intro p hp
      have hmem := (List.of_mem_zip hp).1
      rintro h
      rw [h] at hmem
      exact nomatch hmem
    · intro p hp
      rw [mem_descriptorCaptures p hp]
      exact GroupName.noConfusion
  | light | heavy | inVincinity => rfl

theorem captured_descriptor (h : group.descriptor ≠ .freezing) :
    (getDescriptorHash.lookup (captured (weatherCaptures group) .descriptor)).getD .none
      = group.descriptor := by
  unfold weatherCaptures
  rw [captured_append]
  · cases hdescriptor : group.descriptor with
    | none =>
      rw [captured_of_not_mem]
      · rfl
      · intro p hp
        have hmem := (List.of_mem_zip hp).1
        rintro h
        rw [h] at hmem
        exact nomatch hmem
    | freezing => exact absurd hdescriptor h
    | _ => rfl
  · intro p hp
    rw [mem_intensityCaptures p hp]
    exact GroupName.noConfusion

theorem lookup_phenomenon {p : WeatherPhenomenon} (h : p ≠ .icePellets) :
    (getWeatherPhenomenaHash.lookup p.code).getD 0 = p.seen.flag := by
  cases p
  case icePellets => exact absurd rfl h
  all_goals rfl

/-- Of a group that is readable the intensity, the descriptor and two phenomena are set. -/
theorem validateAndSet_presentWeather (h : group.Readable) (metar : CMetar) :
    presentWeather.validateAndSet (weatherCaptures group) metar
      = some (metar.addPresentWeather group.decoded) := by
  -- Only two of the four groups are read, and joined as flags.
  have hwp : 0 ||| (getWeatherPhenomenaHash.lookup (captured (weatherCaptures group) .wp1)).getD 0
      ||| (getWeatherPhenomenaHash.lookup (captured (weatherCaptures group) .wp2)).getD 0
      = flags ((group.phenomena.take 2).map WeatherPhenomenon.seen) := by
    rw [captured_phenomena group .wp1 (Or.inl rfl), captured_phenomena group .wp2 (Or.inr rfl),
      Nat.zero_or]
    have hreadable : ∀ p ∈ group.phenomena, p ≠ .icePellets := by
      rintro p hp rfl
      exact h.2 hp
    cases hphenomena : group.phenomena with
    | nil => rfl
    | cons p phenomena =>
      rw [hphenomena] at hreadable
      have hp := lookup_phenomenon (hreadable p List.mem_cons_self)
      cases phenomena with
      | nil =>
        change (getWeatherPhenomenaHash.lookup p.code).getD 0 ||| 0 = p.seen.flag ||| 0
        rw [hp]
      | cons q phenomena =>
        have hq := lookup_phenomenon (hreadable q (List.mem_cons_of_mem p List.mem_cons_self))
        change (getWeatherPhenomenaHash.lookup p.code).getD 0
          ||| (getWeatherPhenomenaHash.lookup q.code).getD 0 = p.seen.flag ||| (q.seen.flag ||| 0)
        rw [hp, hq, Nat.or_zero]
  unfold presentWeather
  dsimp only
  rw [captured_intensity, captured_descriptor h.1, hwp]
  rfl

theorem foldl_addPresentWeather (groups : List WeatherGroup) (metar : CMetar) :
    groups.foldl (fun metar g => metar.addPresentWeather g.decoded) metar
      = { metar with
        m_presentWeathers := metar.m_presentWeathers ++ groups.map WeatherGroup.decoded } := by
  induction groups generalizing metar with
  | nil => rw [List.map_nil, List.append_nil, List.foldl_nil]
  | cons g groups ih =>
    rw [List.foldl_cons, ih]
    simp [CMetar.addPresentWeather]

/-- The groups are taken up to the first one that is not readable. -/
theorem parse_presentWeather (groups : List WeatherGroup) {rest : QString}
    (hrest : presentWeather.regExp.attempts rest = []) (metar : CMetar) :
    presentWeather.parse (spaced (groups.map WeatherGroup.text) ++ rest) metar
      = some (spaced ((groups.dropWhile fun g => decide g.Readable).map WeatherGroup.text) ++ rest,
        { metar with
          m_presentWeathers := metar.m_presentWeathers
            ++ (groups.takeWhile fun g => decide g.Readable).map WeatherGroup.decoded }) := by
  -- what is behind the groups that are readable is not taken
  have hstop : presentWeather.regExp.attempts (spaced ((groups.dropWhile fun g =>
      decide g.Readable).map WeatherGroup.text) ++ rest) = [] := by
    cases hdrop : groups.dropWhile fun g => decide g.Readable with
    | nil => exact hrest
    | cons g others =>
      have hg : ¬ g.Readable := by
        have hhead := List.head?_dropWhile_not (fun g => decide (WeatherGroup.Readable g)) groups
        rw [hdrop] at hhead
        simpa only [List.head?_cons, decide_eq_false_iff_not] using hhead
      rw [List.map_cons, spaced_cons]
      exact attempts_of_not_readable hg _
  have htake : ∀ g ∈ groups.takeWhile fun g => decide g.Readable, ∀ (rest : QString) metar,
      ∃ captures, presentWeather.regExp.first (g.text ++ [' '] ++ rest) = some (captures, rest)
        ∧ presentWeather.validateAndSet captures metar =
          some (metar.addPresentWeather g.decoded) := by
    intro g hg rest metar
    have hdecide : decide g.Readable = true := by
      exact List.mem_takeWhile_imp (p := fun g => decide (WeatherGroup.Readable g)) hg
    have hreadable : g.Readable := of_decide_eq_true hdecide
    refine ⟨weatherCaptures g, ?_, validateAndSet_presentWeather hreadable metar⟩
    rw [List.append_assoc]
    exact first_presentWeather hreadable rest
  have hparse : presentWeather.parse _ metar = some _ := MetarDecoderPart.parse_groups rfl rfl rfl
    (fun g => List.append_ne_nil_of_right_ne_nil _ (List.cons_ne_nil ' ' [])) htake hstop
  rw [foldl_addPresentWeather] at hparse
  have hspaced : ∀ groups : List WeatherGroup, spaced (groups.map WeatherGroup.text)
      = groups.flatMap fun g => g.text ++ [' '] := fun groups => List.flatMap_map _ _ _
  have htext : spaced (groups.map WeatherGroup.text)
      = (groups.takeWhile fun g => decide g.Readable).flatMap (fun g => g.text ++ [' '])
        ++ spaced ((groups.dropWhile fun g => decide g.Readable).map WeatherGroup.text) := by
    rw [hspaced, hspaced, ← List.flatMap_append, List.takeWhile_append_dropWhile]
  rw [htext, List.append_assoc]
  exact hparse

end Readable

end Weather

end NeoSwift.Misc
