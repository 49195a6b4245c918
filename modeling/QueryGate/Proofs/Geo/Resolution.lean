import QueryGate.Proofs.Geo.Lookup

set_option relaxedAutoImplicit false
set_option autoImplicit false

/-!
# What a resolution says of a name

A name is looked up as the place that it stands for, or else as itself. Four things can come of it:
it is found, the name is found in place of the place, neither is stored and the place is taken for
granted, or nothing is found and names like it are suggested. At a level that is asked for, every
resolution says truly what the level stores.

## Main definitions

* `QueryGate.Resolver.subject` — what a name is looked up as at a level.
* `QueryGate.Resolver.Outcome` — what comes of looking a name up.
* `QueryGate.Resolution.Justified` — a resolution says truly what a level stores.

## Main results

* `QueryGate.Resolver.candidate_of_standsFor`, `QueryGate.Resolver.candidate_of_not` — when a name
  is looked up as the place that it stands for.
* `QueryGate.Resolver.resolve_outcome` — the outcome of a resolution.
* `QueryGate.Resolver.canonical_resolve` — the name that a name is taken for at a level.
* `QueryGate.Resolver.resolve_justified` — every resolution at a level is justified.
-/

namespace QueryGate

namespace Resolver

variable {c : Coverage} {name place k : String} {level search : Option Level} {l implied : Level}
  {res : Resolution}

/-! ## What a name is looked up as -/

/-- A name is looked up as the place that it stands for, where the level is that of the place. -/
lemma candidate_of_standsFor (h : StandsFor name place implied)
    (hlevel : level = none ∨ level = some implied) :
    candidate (Text.trim name) level = (place, some implied) := by
  rw [candidate, standsFor?_trim, h]
  rcases hlevel with rfl | rfl <;> simp

/-- Where it stands for no place of the level, a name is looked up as it is. -/
lemma candidate_of_not
    (h : ∀ place implied, StandsFor name place implied → level ≠ none ∧ level ≠ some implied) :
    candidate (Text.trim name) level = (Text.trim name, none) := by
  rw [candidate, standsFor?_trim]
  cases hstands : standsFor? name with
  | none => rfl
  | some e =>
    obtain ⟨hnone, hother⟩ := h e.1 e.2 hstands
    simp [hnone, hother]

/-- What a name is looked up as at a level. -/
def subject (l : Level) (name : String) : String := (candidate (Text.trim name) (some l)).1

lemma subject_of_standsFor (h : StandsFor name place l) : subject l name = place := by
  rw [subject, candidate_of_standsFor h (.inr rfl)]

lemma subject_of_not (h : ∀ place, ¬ StandsFor name place l) :
    subject l name = Text.trim name := by
  rw [subject, candidate_of_not]
  rintro place implied hstands
  refine ⟨nofun, fun hlevel => ?_⟩
  obtain rfl := Option.some.inj hlevel
  exact h place hstands

@[simp]
lemma subject_trim (l : Level) (name : String) : subject l (Text.trim name) = subject l name := by
  rw [subject, subject, Text.trim_trim]

/-- What is not looked up as itself stands for a place of the level. -/
lemma standsFor_of_subject_ne (h : subject l name ≠ Text.trim name) :
    StandsFor name (subject l name) l := by
  by_contra hnot
  refine h (subject_of_not fun place hplace => hnot ?_)
  rwa [subject_of_standsFor hplace]

/-- What a name is looked up as is trimmed. -/
lemma trim_subject : Text.trim (subject l name) = subject l name := by
  by_cases h : subject l name = Text.trim name
  · rw [h, Text.trim_trim]
  · exact (standsFor_of_subject_ne h).trim_place

/-! ## What comes of it -/

/-- What comes of looking a name up as `k`. -/
inductive Outcome (c : Coverage) (name : String) (level : Option Level) (k : String)
    (search : Option Level) : Resolution → Prop
  /-- A spelling is found. -/
  | found {n : String} {l : Level} (h : c.find k search = some (n, l)) :
    Outcome c name level k search
      ⟨name, n, l, if k = Text.trim name then .exact else .otherName, []⟩
  /-- The place that the name stands for is not found, but the name itself is. -/
  | raw {n : String} {l : Level} (hother : k ≠ Text.trim name) (hplace : c.find k search = none)
    (h : c.find (Text.trim name) search = some (n, l)) :
    Outcome c name level k search ⟨name, n, l, .exact, []⟩
  /-- Neither the place that the name stands for is found, nor the name itself. -/
  | absent (hother : k ≠ Text.trim name) (hplace : c.find k search = none)
    (h : c.find (Text.trim name) search = none) :
    Outcome c name level k search ⟨name, k, search.getD .country, .otherName, []⟩
  /-- The name is not found. -/
  | unsure {suggestions : List Suggestion} (hself : k = Text.trim name)
    (h : c.find k search = none) :
    Outcome c name level k search ⟨name, name, level.getD .country,
      if suggestions.isEmpty then .none else .fuzzy, suggestions⟩

/-- **Every resolution has one of the four outcomes.** -/
theorem resolve_outcome (r : Resolver) (c : Coverage) (name : String) (level : Option Level) :
    Outcome c name level (candidate (Text.trim name) level).1
      (level.or (candidate (Text.trim name) level).2) (r.resolve c name level) := by
  unfold resolve
  dsimp only
  generalize candidate (Text.trim name) level = e
  obtain ⟨k, implied⟩ := e
  dsimp only
  by_cases hself : k = Text.trim name
  · have haliased : (k != Text.trim name) = false := by simpa using hself
    rw [haliased]
    cases hfind : c.find k (level.or implied) with
    | some hit => simpa [hself] using @Outcome.found c name level k _ hit.1 hit.2 hfind
    | none => exact .unsure hself hfind
  · have haliased : (k != Text.trim name) = true := by simpa using hself
    rw [haliased]
    cases hfind : c.find k (level.or implied) with
    | some hit => simpa [hself] using @Outcome.found c name level k _ hit.1 hit.2 hfind
    | none =>
      cases hraw : c.find (Text.trim name) (level.or implied) with
      | some hit => exact .raw hself hfind hraw
      | none => exact .absent hself hfind hraw

namespace Outcome

/-- A resolution is confident where something is found or a place is taken for granted. -/
lemma isConfident_iff (h : Outcome c name level k search res) :
    res.isConfident = true ↔ (c.find k search).isSome = true ∨ k ≠ Text.trim name := by
  cases h with
  | found h =>
    refine iff_of_true ?_ (.inl (by rw [h, Option.isSome_some]))
    unfold Resolution.isConfident
    by_cases hself : k = Text.trim name <;> simp [hself]
  | raw hother _ _ => exact iff_of_true rfl (.inr hother)
  | absent hother _ _ => exact iff_of_true rfl (.inr hother)
  | unsure hself h =>
    refine iff_of_false ?_ (by rw [h]; simp [hself])
    unfold Resolution.isConfident
    dsimp only
    split_ifs <;> simp

lemma fuzzy_iff (h : Outcome c name level k search res) :
    res.matched = .fuzzy ↔ res.suggestions ≠ [] := by
  cases h with
  | found _ => by_cases hself : k = Text.trim name <;> simp [hself]
  | raw _ _ _ => simp
  | absent _ _ _ => simp
  | @unsure suggestions _ _ => cases suggestions <;> simp

lemma suggestions_eq_nil (h : Outcome c name level k search res)
    (hconfident : res.isConfident = true) : res.suggestions = [] := by
  by_contra hne
  rw [Resolution.isConfident, h.fuzzy_iff.mpr hne] at hconfident
  exact absurd hconfident nofun

/-- A resolution that is not confident leaves the name as it is, at the level asked for or else at
that of countries. -/
lemma eq_of_unsure (h : Outcome c name level k search res) (hunsure : res.isConfident = false) :
    res.canonical = name ∧ res.level = level.getD .country := by
  have hnot := h.isConfident_iff.not.mp (by simp [hunsure])
  cases h with
  | found h => simp [h] at hnot
  | raw hother _ _ => exact absurd (.inr hother) hnot
  | absent hother _ _ => exact absurd (.inr hother) hnot
  | unsure _ _ => exact ⟨rfl, rfl⟩

/-- A confident resolution is of the level at which the name is looked up, if there is one. -/
lemma level_of_confident (h : Outcome c name level k (some l) res)
    (hconfident : res.isConfident = true) : res.level = l := by
  have hfound := h.isConfident_iff.mp hconfident
  cases h with
  | found h => exact (Coverage.find_eq_some_iff.mp h).2
  | raw _ _ h => exact (Coverage.find_eq_some_iff.mp h).2
  | absent _ _ _ => rfl
  | unsure hself h =>
    rw [h] at hfound
    exact absurd hself (by simpa using hfound)

/-- At a level that is asked for, a resolution is of that level. -/
lemma level_eq (h : Outcome c name (some l) k (some l) res) : res.level = l := by
  cases hconfident : res.isConfident with
  | true => exact h.level_of_confident hconfident
  | false => exact (h.eq_of_unsure hconfident).2

/-- The level of a name that is looked up as itself is the one at which it is found. -/
lemma level_of_self (h : Outcome c name level (Text.trim name) level res) :
    res.level = ((c.find (Text.trim name) level).map (·.2)).getD (level.getD .country) := by
  cases h with
  | found h => rw [h, Option.map_some, Option.getD_some]
  | raw hother _ _ => exact absurd rfl hother
  | absent hother _ _ => exact absurd rfl hother
  | unsure _ h => rw [h, Option.map_none, Option.getD_none]

end Outcome

/-- What comes of a name at a level. -/
lemma resolve_outcome_at (r : Resolver) (c : Coverage) (name : String) (l : Level) :
    Outcome c name (some l) (subject l name) (some l) (r.resolve c name (some l)) :=
  resolve_outcome r c name (some l)

/-- At a level, a resolution is confident unless the name is looked up as itself and not stored. -/
lemma isConfident_resolve (r : Resolver) (c : Coverage) (name : String) (l : Level) :
    (r.resolve c name (some l)).isConfident = true ↔
      c.Stores l (Text.trim name) ∨ subject l name ≠ Text.trim name := by
  rw [(resolve_outcome_at r c name l).isConfident_iff, Coverage.isSome_find_iff]
  by_cases hself : subject l name = Text.trim name <;> simp [hself]

/-- At a level, a name is taken for a stored spelling of what it is looked up as, else for one of
itself, else for what it is looked up as; unless that is itself. -/
lemma canonical_resolve (r : Resolver) (c : Coverage) (name : String) (l : Level) :
    (r.resolve c name (some l)).canonical =
      ((c.lookup l (subject l name)).or (c.lookup l (Text.trim name))).getD
        (if subject l name = Text.trim name then name else subject l name) := by
  have houtcome := resolve_outcome_at r c name l
  generalize r.resolve c name (some l) = res at houtcome ⊢
  cases houtcome with
  | found h => rw [(Coverage.find_eq_some_iff.mp h).1, Option.some_or, Option.getD_some]
  | raw hother hplace h =>
    rw [Coverage.lookup_of_find_eq_none hplace, (Coverage.find_eq_some_iff.mp h).1,
      Option.none_or, Option.getD_some]
  | absent hother hplace h =>
    rw [Coverage.lookup_of_find_eq_none hplace, Coverage.lookup_of_find_eq_none h,
      if_neg hother, Option.none_or, Option.getD_none]
  | unsure hself h =>
    rw [if_pos hself, ← hself, Coverage.lookup_of_find_eq_none h, Option.none_or, Option.getD_none]

end Resolver

/-! ## Resolutions at a level -/

/-- A resolution at a level says truly what the level stores. -/
structure Resolution.Justified (c : Coverage) (l : Level) (name : String) (res : Resolution) :
    Prop where
  /-- It is of the level asked for. -/
  level_eq : res.level = l
  /-- When it is confident, it suggests nothing. -/
  suggestions_eq_nil : res.isConfident = true → res.suggestions = []
  /-- It takes the name for a stored spelling of itself or of the place that it stands for, or for
  that place when neither is stored. -/
  canonical_of_confident : res.isConfident = true →
    (res.canonical ∈ c.names l ∧
      (Text.lower res.canonical = Text.lower (Text.trim name) ∨
        ∃ place, StandsFor name place l ∧ Text.lower res.canonical = Text.lower place)) ∨
    (StandsFor name res.canonical l ∧ ¬ c.Stores l res.canonical ∧ ¬ c.Stores l (Text.trim name))
  /-- When it is not confident, it leaves the name as it is. -/
  canonical_of_unsure : res.isConfident = false → res.canonical = name
  /-- The name is stored in no letter case then. -/
  not_stores : res.isConfident = false → ¬ c.Stores l (Text.trim name)
  /-- It is fuzzy when there are suggestions. -/
  fuzzy_iff : res.matched = .fuzzy ↔ res.suggestions ≠ []
  /-- A place that the name stands for comes before a stored spelling of the name. -/
  place_first : ∀ place, StandsFor name place l → c.Stores l place →
    res.isConfident = true ∧ res.canonical ∈ c.names l ∧
      Text.lower res.canonical = Text.lower place ∧ (place ∈ c.names l → res.canonical = place)

namespace Resolver

variable {r : Resolver} {c : Coverage} {name place n : String} {l : Level}

/-- What a name is looked up as is taken in a stored spelling, if there is one. -/
lemma canonical_of_lookup (h : c.lookup l (subject l name) = some n) :
    (r.resolve c name (some l)).canonical = n := by
  rw [canonical_resolve, h, Option.some_or, Option.getD_some]

/-- A stored spelling of the name is the next to be taken. -/
lemma canonical_of_raw (hsubject : c.lookup l (subject l name) = none)
    (hraw : c.lookup l (Text.trim name) = some n) :
    (r.resolve c name (some l)).canonical = n := by
  rw [canonical_resolve, hsubject, hraw, Option.none_or, Option.getD_some]

/-- Where neither is stored, a name is taken for the place that it stands for, or left as it is. -/
lemma canonical_of_missed (hsubject : c.lookup l (subject l name) = none)
    (hraw : c.lookup l (Text.trim name) = none) :
    (r.resolve c name (some l)).canonical =
      if subject l name = Text.trim name then name else subject l name := by
  rw [canonical_resolve, hsubject, hraw, Option.none_or, Option.getD_none]

lemma canonical_of_confident (h : (r.resolve c name (some l)).isConfident = true) :
    ((r.resolve c name (some l)).canonical ∈ c.names l ∧
      (Text.lower (r.resolve c name (some l)).canonical = Text.lower (Text.trim name) ∨
        ∃ place, StandsFor name place l ∧
          Text.lower (r.resolve c name (some l)).canonical = Text.lower place)) ∨
    (StandsFor name (r.resolve c name (some l)).canonical l ∧
      ¬ c.Stores l (r.resolve c name (some l)).canonical ∧ ¬ c.Stores l (Text.trim name)) := by
  cases hsubject : c.lookup l (subject l name) with
  | some n =>
    obtain ⟨hmem, hlower⟩ := Coverage.lookup_eq_some hsubject
    rw [canonical_of_lookup hsubject]
    by_cases hself : subject l name = Text.trim name
    · exact .inl ⟨hmem, .inl (hself ▸ hlower)⟩
    · exact .inl ⟨hmem, .inr ⟨_, standsFor_of_subject_ne hself, hlower⟩⟩
  | none =>
    cases hraw : c.lookup l (Text.trim name) with
    | some n =>
      obtain ⟨hmem, hlower⟩ := Coverage.lookup_eq_some hraw
      rw [canonical_of_raw hsubject hraw]
      exact .inl ⟨hmem, .inl hlower⟩
    | none =>
      have hmissed : ¬ c.Stores l (Text.trim name) := Coverage.lookup_eq_none_iff.mp hraw
      have hother : subject l name ≠ Text.trim name :=
        ((isConfident_resolve r c name l).mp h).resolve_left hmissed
      rw [canonical_of_missed hsubject hraw, if_neg hother]
      exact .inr
        ⟨standsFor_of_subject_ne hother, Coverage.lookup_eq_none_iff.mp hsubject, hmissed⟩

lemma canonical_of_place (h : StandsFor name place l) (hplace : c.Stores l place) :
    (r.resolve c name (some l)).canonical ∈ c.names l ∧
      Text.lower (r.resolve c name (some l)).canonical = Text.lower place ∧
      (place ∈ c.names l → (r.resolve c name (some l)).canonical = place) := by
  obtain ⟨n, hn⟩ := Coverage.exists_lookup_iff.mpr hplace
  have hcanonical : (r.resolve c name (some l)).canonical = n :=
    canonical_of_lookup (by rwa [subject_of_standsFor h])
  obtain ⟨hmem, hlower⟩ := Coverage.lookup_eq_some hn
  rw [hcanonical]
  refine ⟨hmem, hlower, fun hstored => ?_⟩
  exact Option.some.inj (hn.symm.trans (Coverage.lookup_of_mem hstored))

/-- **A resolution at a level says truly what the level stores,** whatever the scorer.

**Proof sketch.** A name is looked up as the place that it stands for and then as it is
(`resolve_outcome_at`). Each part follows from which of the two lookups finds something: the first
alone gives a place, the second a stored spelling, and if neither does the resolution is sure only
if the name stands for a place (`canonical_of_confident`, `canonical_of_place`). The scorer is asked
only where it is not. -/
theorem resolve_justified (r : Resolver) (c : Coverage) (name : String) (l : Level) :
    (r.resolve c name (some l)).Justified c l name where
  level_eq := (resolve_outcome_at r c name l).level_eq
  suggestions_eq_nil := (resolve_outcome_at r c name l).suggestions_eq_nil
  canonical_of_confident := canonical_of_confident
  canonical_of_unsure := fun hunsure => ((resolve_outcome_at r c name l).eq_of_unsure hunsure).1
  not_stores := fun hunsure hstores => by
    rw [(isConfident_resolve r c name l).mpr (.inl hstores)] at hunsure
    exact absurd hunsure nofun
  fuzzy_iff := (resolve_outcome_at r c name l).fuzzy_iff
  place_first := fun place hplace hstores => by
    refine ⟨?_, canonical_of_place hplace hstores⟩
    rw [(resolve_outcome_at r c name l).isConfident_iff, subject_of_standsFor hplace]
    exact .inl (Coverage.isSome_find_iff.mpr hstores)

end Resolver

end QueryGate
