import QueryGate.Proofs.Geo.Resolution

set_option relaxedAutoImplicit false
set_option autoImplicit false

/-!
# Names of places in two letter cases

Letter case and white space around a name make no difference to the level of its resolution, nor to
whether that is confident, with one exception: a name that is spelled just like the place it stands
for is not taken to stand for it. The one name that can be is that of New York City, and it makes a
difference where no spelling of it is stored.

## Main definitions

* `QueryGate.Resolution.Agree` — two resolutions are of one level, and both confident or neither.

## Main results

* `QueryGate.Resolver.agree_iff_of_standsFor` — names that stand for a place.
* `QueryGate.Resolver.agree_of_not` — names that stand for none.
* `QueryGate.Resolver.resolve_agree_iff` — when the resolutions of a name in two letter cases agree.
* `QueryGate.Resolver.not_agree_newYorkCity` — they do not always.
-/

namespace QueryGate

/-- Two resolutions are of one level, and both are confident or neither is. -/
structure Resolution.Agree (x y : Resolution) : Prop where
  /-- The level is the same. -/
  level : x.level = y.level
  /-- Both are confident or neither is. -/
  confident : x.isConfident = y.isConfident

namespace Resolver

variable {r : Resolver} {c : Coverage} {a b name place : String} {level : Option Level}
  {implied : Level}

/-- What comes of a name that stands for a place. -/
lemma outcome_of_standsFor (h : StandsFor name place implied)
    (hlevel : level = none ∨ level = some implied) :
    Outcome c name level place (some implied) (r.resolve c name level) := by
  have houtcome := resolve_outcome r c name level
  rw [candidate_of_standsFor h hlevel] at houtcome
  rcases hlevel with rfl | rfl <;> exact houtcome

/-- What comes of a name that stands for no place. -/
lemma outcome_of_not
    (h : ∀ place implied, StandsFor name place implied → level ≠ none ∧ level ≠ some implied) :
    Outcome c name level (Text.trim name) level (r.resolve c name level) := by
  have houtcome := resolve_outcome r c name level
  rwa [candidate_of_not h, Option.or_none] at houtcome

/-- A name that stands for a place is resolved with confidence when the place is stored, or when it
is not spelled like the place. -/
lemma isConfident_of_standsFor (h : StandsFor name place implied)
    (hlevel : level = none ∨ level = some implied) :
    (r.resolve c name level).isConfident = true ↔
      c.Stores implied place ∨ place ≠ Text.trim name := by
  rw [(outcome_of_standsFor h hlevel).isConfident_iff, Coverage.isSome_find_iff]

/-- Resolutions of names that stand for one place agree when both are confident or neither is. -/
lemma agree_iff_confident (ha : StandsFor a place implied) (hb : StandsFor b place implied)
    (hlevel : level = none ∨ level = some implied) :
    (r.resolve c a level).Agree (r.resolve c b level) ↔
      (r.resolve c a level).isConfident = (r.resolve c b level).isConfident := by
  refine ⟨fun h => h.confident, fun h => ⟨?_, h⟩⟩
  have houtcome := outcome_of_standsFor (r := r) (c := c) ha hlevel
  have houtcome' := outcome_of_standsFor (r := r) (c := c) hb hlevel
  cases hconfident : (r.resolve c a level).isConfident with
  | true =>
    rw [houtcome.level_of_confident hconfident, houtcome'.level_of_confident (h ▸ hconfident)]
  | false =>
    rw [(houtcome.eq_of_unsure hconfident).2, (houtcome'.eq_of_unsure (h ▸ hconfident)).2]

/-- They do unless the place is not stored and one of the names is spelled like it. -/
lemma agree_iff_of_standsFor (ha : StandsFor a place implied) (hb : StandsFor b place implied)
    (hlevel : level = none ∨ level = some implied) :
    (r.resolve c a level).Agree (r.resolve c b level) ↔
      (c.Stores implied place ∨ (Text.trim a = place ↔ Text.trim b = place)) := by
  rw [agree_iff_confident ha hb hlevel, Bool.eq_iff_iff, isConfident_of_standsFor ha hlevel,
    isConfident_of_standsFor hb hlevel, Ne, Ne, eq_comm, @eq_comm _ place]
  by_cases hstored : c.Stores implied place
  · simp only [hstored, true_or]
  · simp only [hstored, false_or, not_iff_not]

/-- Resolutions of a name in two letter cases agree when it stands for no place. -/
lemma agree_of_not (hlower : Text.lower (Text.trim a) = Text.lower (Text.trim b))
    (h : ∀ place implied, StandsFor a place implied → level ≠ none ∧ level ≠ some implied) :
    (r.resolve c a level).Agree (r.resolve c b level) := by
  have hstands : standsFor? a = standsFor? b := standsFor?_eq_of_lower_eq hlower
  have houtcome := outcome_of_not (r := r) (c := c) h
  have houtcome' : Outcome c b level (Text.trim b) level (r.resolve c b level) :=
    outcome_of_not fun place implied hb => h place implied (hstands.trans hb)
  have hfind := Coverage.map_level_find_eq (c := c) hlower level
  refine ⟨by rw [houtcome.level_of_self, houtcome'.level_of_self, hfind], ?_⟩
  have hfound := congrArg Option.isSome hfind
  rw [Option.isSome_map, Option.isSome_map] at hfound
  rw [Bool.eq_iff_iff, houtcome.isConfident_iff, houtcome'.isConfident_iff, hfound]
  simp

/-! ## New York City -/

lemma standsFor_newYorkCity (h : Text.lower (Text.trim name) = "new york city") :
    StandsFor name "New York City" .city := by
  rw [StandsFor, standsFor?, h]
  decide +kernel

/-- **The resolutions of a name in two letter cases agree, unless just one of the two is spelled
"New York City",** the level asked for is that of cities or none, and no spelling of the name is
stored there.

**Proof sketch.** Other names are looked up in lower case, so that both spellings stand for the same
place if they stand for one (`standsFor?_eq_of_lower_eq`). If they stand for none at the level, what
is stored is found in any letter case (`agree_of_not`). If they stand for one that is stored, it is
found from both; if it is not stored, a spelling counts as resolved just if it differs from the
place's own (`agree_iff_of_standsFor`). Of all names that stand for a place only one is spelled like
it. -/
theorem resolve_agree_iff (r : Resolver) (c : Coverage) (level : Option Level)
    (hlower : Text.lower (Text.trim a) = Text.lower (Text.trim b)) :
    (r.resolve c a level).Agree (r.resolve c b level) ↔
      ¬ (Text.lower (Text.trim a) = "new york city" ∧ (level = none ∨ level = some .city) ∧
        ¬ c.Stores .city "New York City" ∧
        ¬ (Text.trim a = "New York City" ↔ Text.trim b = "New York City")) := by
  have hstands : standsFor? a = standsFor? b := standsFor?_eq_of_lower_eq hlower
  by_cases hplace : ∃ place implied, StandsFor a place implied ∧
      (level = none ∨ level = some implied)
  · obtain ⟨place, implied, ha, hlevel⟩ := hplace
    rw [agree_iff_of_standsFor ha (hstands.symm.trans ha) hlevel]
    by_cases hname : Text.lower (Text.trim a) = "new york city"
    · obtain ⟨rfl, rfl⟩ : place = "New York City" ∧ implied = .city :=
        Prod.mk.inj (Option.some.inj (ha.symm.trans (standsFor_newYorkCity hname)))
      simp only [hname, hlevel, true_and, not_and, not_not, or_iff_not_imp_left]
    · -- No other name that stands for a place is spelled like it.
      have hspelled : ∀ x, Text.lower (Text.trim x) = Text.lower (Text.trim a) →
          Text.trim x ≠ place := by
        rintro x hx rfl
        exact hname (ha.eq_of_lower_eq hx).1
      simp only [hname, hspelled a rfl, hspelled b hlower.symm, or_true, false_and, not_false_iff]
  · refine iff_of_true (agree_of_not hlower fun place implied ha => ?_) ?_
    · exact not_or.mp fun hlevel => hplace ⟨place, implied, ha, hlevel⟩
    · rintro ⟨hname, hlevel, -⟩
      exact hplace ⟨_, _, standsFor_newYorkCity hname, hlevel⟩

/-- White space around a name and its letter case make no difference where neither is spelled like
the place. -/
theorem resolve_agree_york :
    Text.lower (Text.trim " new york city") = Text.lower (Text.trim "NEW YORK CITY") ∧
      (resolve {} {} " new york city" none).Agree (resolve {} {} "NEW YORK CITY" none) := by
  have hlower :
      Text.lower (Text.trim " new york city") = Text.lower (Text.trim "NEW YORK CITY") := by
    decide +kernel
  refine ⟨hlower, (resolve_agree_iff {} {} none hlower).mpr ?_⟩
  rintro ⟨-, -, -, hspelled⟩
  exact hspelled (by decide +kernel)

/-- Where the name of the city is not stored, it is taken for that of a city in small letters, and
for that of an unknown country when it is spelled like the place. -/
theorem not_agree_newYorkCity :
    let small := resolve {} {} "new york city" none
    let spelled := resolve {} {} "New York City" none
    Text.lower (Text.trim "new york city") = Text.lower (Text.trim "New York City") ∧
      small.isConfident = true ∧ small.level = .city ∧
      spelled.isConfident = false ∧ spelled.level = .country ∧ ¬ small.Agree spelled := by
  intro small spelled
  have hsmall : StandsFor "new york city" "New York City" .city :=
    standsFor_newYorkCity (by decide +kernel)
  have hspelled : StandsFor "New York City" "New York City" .city :=
    standsFor_newYorkCity (by decide +kernel)
  have habsent : ¬ Coverage.Stores {} .city "New York City" := fun ⟨_, hn, _⟩ => nomatch hn
  have hconfident : small.isConfident = true :=
    (isConfident_of_standsFor hsmall (.inl rfl)).mpr (.inr (by decide +kernel))
  have hunsure : spelled.isConfident = false := by
    rw [← Bool.not_eq_true, isConfident_of_standsFor hspelled (.inl rfl)]
    exact not_or.mpr ⟨habsent, not_not.mpr (by decide +kernel)⟩
  refine ⟨by decide +kernel, hconfident,
    (outcome_of_standsFor hsmall (.inl rfl)).level_of_confident hconfident, hunsure,
    ((outcome_of_standsFor hspelled (.inl rfl)).eq_of_unsure hunsure).2, fun h => ?_⟩
  exact absurd (hconfident.symm.trans (h.confident.trans hunsure)) nofun

end Resolver

end QueryGate
