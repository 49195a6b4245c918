import Mathlib.Data.List.Forall2
import QueryGate.Proofs.Geo.Resolution

set_option relaxedAutoImplicit false
set_option autoImplicit false

/-!
# Names of places in filters

The texts in filters on places are replaced by the names that they are taken for. A name that was
put in this way is not replaced once more. A stored name that stands for no other is left alone when
it is trimmed; a stored name with white space around it gives way to a stored spelling of the
trimmed name, if there is one.

## Main definitions

* `QueryGate.ColumnFilter.literals` — the literals in a filter.
* `QueryGate.Resolver.Keeps` — a text in filters on a level's column is left as it is.

## Main results

* `QueryGate.Resolver.replacement_eq_canonical` — what a text is replaced by.
* `QueryGate.Resolver.canonical_of_mem` — stored names are taken for themselves.
* `QueryGate.Resolver.substitute_idempotent` — names are replaced once.
* `QueryGate.Resolver.keeps_stored_iff` — which stored names are left alone.
* `QueryGate.Resolver.not_keeps_padded` — not all of them are.
-/

namespace QueryGate

/-! ## Replacing texts -/

/-- The literals in a filter, in order. -/
def ColumnFilter.literals (f : ColumnFilter) : List Literal :=
  f.conditions.flatMap Condition.literals

section

variable {g : String → String}

lemma Literal.mapText_idempotent (h : ∀ s, g (g s) = g s) (x : Literal) :
    (x.mapText g).mapText g = x.mapText g := by
  cases x with
  | text s => rw [mapText, mapText, h]
  | _ => rfl

lemma Condition.mapTexts_idempotent (h : ∀ s, g (g s) = g s) (x : Condition) :
    (x.mapTexts g).mapTexts g = x.mapTexts g := by
  cases x with
  | scalar value => rw [mapTexts, mapTexts, Literal.mapText_idempotent h]
  | inSet values =>
    rw [mapTexts, mapTexts, List.map_map]
    exact congrArg inSet (List.map_congr_left fun value _ => Literal.mapText_idempotent h value)
  | _ => rfl

/-- Texts that are replaced by what is replaced by itself are replaced once. -/
lemma ColumnFilter.mapTexts_idempotent (h : ∀ s, g (g s) = g s) (f : ColumnFilter) :
    (f.mapTexts g).mapTexts g = f.mapTexts g := by
  rw [mapTexts, mapTexts, List.map_map]
  have hconditions : f.conditions.map (Condition.mapTexts g ∘ Condition.mapTexts g) =
      f.conditions.map (Condition.mapTexts g) :=
    List.map_congr_left fun x _ => Condition.mapTexts_idempotent h x
  rw [hconditions]

/-- Replacing texts leaves what stands in a condition where it is. -/
lemma Condition.literals_mapTexts {R : Literal → Literal → Prop} (hrefl : ∀ x, R x x)
    (hmap : ∀ x, R x (x.mapText g)) (x : Condition) :
    List.Forall₂ R x.literals (x.mapTexts g).literals := by
  cases x with
  | scalar value => exact .cons (hmap value) .nil
  | inSet values =>
    rw [mapTexts, literals, literals, List.forall₂_map_right_iff]
    exact List.forall₂_same.mpr fun value _ => hmap value
  | _ => exact List.forall₂_same.mpr fun value _ => hrefl value

lemma ColumnFilter.literals_mapTexts {R : Literal → Literal → Prop} (hrefl : ∀ x, R x x)
    (hmap : ∀ x, R x (x.mapText g)) (f : ColumnFilter) :
    List.Forall₂ R f.literals (f.mapTexts g).literals := by
  rw [literals, literals, mapTexts, List.flatMap_map]
  exact List.rel_flatMap (List.forall₂_same.mpr fun _ _ => rfl) fun x y hxy =>
    hxy ▸ Condition.literals_mapTexts hrefl hmap x

end

namespace Resolver

variable {r : Resolver} {c : Coverage} {name n : String} {l : Level}

lemma ofColumn?_column (l : Level) : Level.ofColumn? l.column = some l := by
  cases l <;> rfl

/-- A text is replaced by the name that it is taken for, which is the text itself where the
resolution is not confident. -/
lemma replacement_eq_canonical (r : Resolver) (c : Coverage) (l : Level) (text : String) :
    r.replacement c l text = (r.resolve c text (some l)).canonical := by
  unfold replacement
  dsimp only
  split_ifs with hconfident
  · rfl
  · exact ((resolve_outcome_at r c text l).eq_of_unsure (by simpa using hconfident)).1.symm

/-! ## Names that are replaced once -/

/-- What a name is looked up as is looked up as itself. -/
lemma subject_subject (l : Level) (name : String) :
    subject l (subject l name) = subject l name := by
  by_cases hself : subject l name = Text.trim name
  · rw [hself, subject_trim, hself]
  · have hplace := standsFor_of_subject_ne hself
    rcases hplace.standsFor?_place with hnone | hstands
    · rw [subject_of_not, trim_subject]
      intro place h
      exact absurd (hnone.symm.trans h) nofun
    · exact subject_of_standsFor hstands

/-- A trimmed spelling of a name is looked up as itself, or as the name is. -/
lemma subject_of_lower_eq (hn : Text.trim n = n)
    (hlower : Text.lower n = Text.lower (Text.trim name)) :
    subject l n = n ∨ subject l n = subject l name := by
  have hstands : standsFor? n = standsFor? name := standsFor?_eq_of_lower_eq (by rw [hn, hlower])
  by_cases hplace : ∃ place, StandsFor name place l
  · obtain ⟨place, h⟩ := hplace
    have hn' : StandsFor n place l := hstands.trans h
    exact .inr ((subject_of_standsFor hn').trans (subject_of_standsFor h).symm)
  · refine .inl ((subject_of_not fun place h => hplace ⟨place, ?_⟩).trans hn)
    exact hstands.symm.trans h

/-- A stored name that is trimmed is taken for itself, unless it stands for a place that is stored
otherwise. -/
lemma canonical_of_mem (hmem : n ∈ c.names l) (htrim : Text.trim n = n)
    (hsubject : c.lookup l (subject l n) = some n ∨ c.lookup l (subject l n) = none) :
    (r.resolve c n (some l)).canonical = n := by
  rw [canonical_resolve, htrim, Coverage.lookup_of_mem hmem]
  rcases hsubject with h | h <;> rw [h] <;> rfl

/-- **The name that a name is taken for at a level is taken for itself there.** -/
lemma canonical_canonical (r : Resolver) (c : Coverage) (l : Level) (name : String) :
    (r.resolve c (r.resolve c name (some l)).canonical (some l)).canonical =
      (r.resolve c name (some l)).canonical := by
  cases hsubject : c.lookup l (subject l name) with
  | some n =>
    obtain ⟨hmem, hlower⟩ := Coverage.lookup_eq_some hsubject
    have htrim := Coverage.trim_of_lookup hsubject trim_subject
    rw [canonical_of_lookup hsubject]
    refine canonical_of_mem hmem htrim (.inl ?_)
    -- A stored spelling of the subject is looked up as itself or as the subject.
    rcases subject_of_lower_eq htrim (by rw [hlower, trim_subject]) with h | h
    · rw [h, Coverage.lookup_of_mem hmem]
    · rw [h, subject_subject, hsubject]
  | none =>
    cases hraw : c.lookup l (Text.trim name) with
    | some n =>
      obtain ⟨hmem, hlower⟩ := Coverage.lookup_eq_some hraw
      have htrim := Coverage.trim_of_lookup hraw (Text.trim_trim name)
      rw [canonical_of_raw hsubject hraw]
      refine canonical_of_mem hmem htrim ?_
      rcases subject_of_lower_eq htrim hlower with h | h
      · exact .inl (by rw [h, Coverage.lookup_of_mem hmem])
      · exact .inr (by rw [h, hsubject])
    | none =>
      have hcanonical := canonical_of_missed (r := r) hsubject hraw
      by_cases hself : subject l name = Text.trim name
      · rw [if_pos hself] at hcanonical
        rw [hcanonical, hcanonical]
      · rw [if_neg hself] at hcanonical
        have hsubject' : c.lookup l (subject l (subject l name)) = none := by
          rw [subject_subject, hsubject]
        rw [hcanonical, canonical_of_missed hsubject' (by rw [trim_subject, hsubject]),
          subject_subject, trim_subject, if_pos rfl]

lemma substituteFilter_of_level {f : ColumnFilter} (h : Level.ofColumn? f.column.text = some l) :
    r.substituteFilter c f = f.mapTexts (r.replacement c l) := by
  rw [substituteFilter, h]

lemma substituteFilter_idempotent (r : Resolver) (c : Coverage) (f : ColumnFilter) :
    r.substituteFilter c (r.substituteFilter c f) = r.substituteFilter c f := by
  cases hlevel : Level.ofColumn? f.column.text with
  | none =>
    have hkept : r.substituteFilter c f = f := by rw [substituteFilter, hlevel]
    rw [hkept, hkept]
  | some l =>
    have hagain : Level.ofColumn? (f.mapTexts (r.replacement c l)).column.text = some l := hlevel
    rw [substituteFilter_of_level hlevel, substituteFilter_of_level hagain]
    refine ColumnFilter.mapTexts_idempotent (fun text => ?_) f
    simp only [replacement_eq_canonical, canonical_canonical]

/-- **Names are replaced once.** At a level, the name that a name is taken for is taken for itself,
and filters with the names of places in them resolved stay as they are.

**Proof sketch.** What a name is taken for is a stored spelling that is trimmed, the place that the
name stands for, or the name as it is. A stored spelling is found again as itself; a place stands
for itself, as no place that something stands for stands for another one (`subject_subject`); and a
name for which nothing was found finds nothing again (`canonical_canonical`). Filters are replaced
text by text (`substituteFilter_idempotent`). -/
theorem substitute_idempotent (r : Resolver) (c : Coverage) :
    (∀ (l : Level) (name : String),
      (r.resolve c (r.resolve c name (some l)).canonical (some l)).canonical =
        (r.resolve c name (some l)).canonical) ∧
    ∀ filters, (r.substitute c (r.substitute c filters).1).1 = (r.substitute c filters).1 := by
  refine ⟨canonical_canonical r c, fun filters => ?_⟩
  rw [substitute, substitute, List.map_map]
  exact List.map_congr_left fun f _ => substituteFilter_idempotent r c f

/-! ## Stored names -/

/-- A text in filters on the column of a level is left as it is, wherever it stands. -/
def Keeps (r : Resolver) (c : Coverage) (l : Level) (text : String) : Prop :=
  ∀ filters, List.Forall₂
    (fun f f' => f.column.text = l.column →
      List.Forall₂ (fun x x' => x = .text text → x' = .text text) f.literals f'.literals)
    filters (r.substitute c filters).1

/-- A text in filters is left as it is when it is taken for itself. -/
lemma keeps_iff_replacement : r.Keeps c l n ↔ r.replacement c l n = n := by
  constructor
  · intro h
    have hcolumn : nameFault? identLimit l.column = none := by cases l <;> rfl
    let f : ColumnFilter := ⟨⟨l.column, hcolumn⟩, [.scalar (.text n)]⟩
    cases h [f] with
    | cons hf _ =>
      have hliterals := hf rfl
      rw [substituteFilter_of_level (ofColumn?_column l)] at hliterals
      cases hliterals with
      | cons htext _ => exact Literal.text.inj (htext rfl)
  · intro h filters
    rw [substitute, List.forall₂_map_right_iff]
    refine List.forall₂_same.mpr fun f _ hcolumn => ?_
    rw [substituteFilter_of_level (hcolumn ▸ ofColumn?_column l)]
    refine ColumnFilter.literals_mapTexts (fun _ => id) (fun x hx => ?_) f
    rw [hx, Literal.mapText, h]

/-- A name that stands for no place is replaced by a stored spelling of it, if there is one. -/
lemma replacement_of_not (r : Resolver) (c : Coverage) (h : ∀ place, ¬ StandsFor n place l) :
    r.replacement c l n = (c.lookup l (Text.trim n)).getD n := by
  rw [replacement_eq_canonical, canonical_resolve, subject_of_not h, Option.or_self, if_pos rfl]

/-- **A stored name that stands for no other is left alone when it is trimmed, or when no spelling
of the trimmed name is stored,** and it is replaced in every other case.

**Proof sketch.** To be left alone in all filters is to be its own replacement
(`keeps_iff_replacement`). A name that stands for no place is replaced by what is found for the
trimmed name, or stays as it is if nothing is found (`replacement_of_not`). What is found for a
trimmed name is trimmed (`Coverage.trim_of_lookup`), and a stored name is found for itself
(`Coverage.lookup_of_mem`). -/
theorem keeps_stored_iff (r : Resolver) (hmem : n ∈ c.names l)
    (hname : Text.lower (Text.trim n) ∉ otherNames.map (·.1)) :
    r.Keeps c l n ↔ Text.trim n = n ∨ ¬ c.Stores l (Text.trim n) := by
  rw [keeps_iff_replacement, replacement_of_not r c fun place h => hname h.mem_keys]
  constructor
  · intro hkept
    rw [or_iff_not_imp_right, not_not]
    intro hstores
    obtain ⟨found, hfound⟩ := Coverage.exists_lookup_iff.mpr hstores
    rw [hfound, Option.getD_some] at hkept
    exact hkept ▸ Coverage.trim_of_lookup hfound (Text.trim_trim n)
  · rintro (htrim | hmissed)
    · rw [htrim, Coverage.lookup_of_mem hmem, Option.getD_some]
    · rw [Coverage.lookup_eq_none_iff.mpr hmissed, Option.getD_none]

/-- Of three stored cities, one is trimmed and one is stored with white space only. -/
theorem keeps_stored_paris :
    let c := Coverage.ofEntries [(.city, "Paris"), (.city, " Paris"), (.city, " Lyon")]
    Keeps {} c .city "Paris" ∧ Keeps {} c .city " Lyon" := by
  intro c
  have hparis : "Paris" ∈ c.names .city := Coverage.mem_names_ofEntries.mpr (by decide)
  have hlyon : " Lyon" ∈ c.names .city := Coverage.mem_names_ofEntries.mpr (by decide)
  refine ⟨(keeps_stored_iff _ hparis (by decide +kernel)).mpr (.inl (by decide +kernel)),
    (keeps_stored_iff _ hlyon (by decide +kernel)).mpr (.inr ?_)⟩
  rintro ⟨n, hn, hlower⟩
  obtain ⟨hentry, -⟩ := Coverage.mem_names_ofEntries.mp hn
  have hall : ∀ e ∈ [(Level.city, "Paris"), (.city, " Paris"), (.city, " Lyon")],
      Text.lower e.2 ≠ Text.lower (Text.trim " Lyon") := by decide +kernel
  exact hall _ hentry hlower

/-- Where a city is stored with white space and without, the one becomes the other. -/
theorem not_keeps_padded :
    let c := Coverage.ofEntries [(.city, "Paris"), (.city, " Paris")]
    " Paris" ∈ c.names .city ∧ Text.lower (Text.trim " Paris") ∉ otherNames.map (·.1) ∧
      ¬ Keeps {} c .city " Paris" := by
  intro c
  have hname : Text.lower (Text.trim " Paris") ∉ otherNames.map (·.1) := by decide +kernel
  have htrim : Text.trim " Paris" = "Paris" := by decide +kernel
  have hstored : "Paris" ∈ c.names .city := Coverage.mem_names_ofEntries.mpr (by decide)
  refine ⟨Coverage.mem_names_ofEntries.mpr (by decide), hname, ?_⟩
  rw [keeps_iff_replacement, replacement_of_not _ _ fun place h => hname h.mem_keys, htrim,
    Coverage.lookup_of_mem hstored, Option.getD_some]
  decide

end Resolver

end QueryGate
