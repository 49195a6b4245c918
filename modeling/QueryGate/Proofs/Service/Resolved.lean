import QueryGate.Proofs.Geo.Substitution
import QueryGate.Proofs.Service.Answers
import QueryGate.Proofs.Service.Refusals
import QueryGate.Proofs.Sql.Blind

set_option relaxedAutoImplicit false
set_option autoImplicit false

/-!
# What resolving places in filters changes

Before a request is answered, the names of places in its filters are resolved. Filters on the
columns of places are gone through once, literal by literal. Texts compared for equality may give
way to the names they are taken for, and nothing else changes, so that the text of the conditions
stays as it is.

## Main definitions

* `QueryGate.Passed` — a list is gone through member by member, with reports on the way.
* `QueryGate.Literal.Resolved`, `QueryGate.Condition.Resolved`, `QueryGate.ColumnFilter.Resolved` —
  what becomes of literals, conditions and filters.
* `QueryGate.Resolver.Substitution` — what becomes of all the filters of a request.

## Main results

* `QueryGate.Resolver.substitution_substitute` — filters are gone through once.
* `QueryGate.Service.substitute_resolves` — so they are whenever a request has a coverage.

## Implementation notes

The filters and the reports are made in two passes, one over the literals and one over the texts
among them. The relations here make a single pass, so that a report stands where the text stood
that it is about.
-/

namespace QueryGate

/-! ## Going through a list -/

section

variable {α ρ : Type}

/-- A list is gone through member by member, and what is reported on the way is joined. -/
inductive Passed (R : α → α → List ρ → Prop) : List α → List α → List ρ → Prop
  | nil : Passed R [] [] []
  | cons {a b : α} {as bs : List α} {found more : List ρ} (head : R a b found)
    (tail : Passed R as bs more) : Passed R (a :: as) (b :: bs) (found ++ more)

variable {R : α → α → List ρ → Prop}

/-- A list whose members are replaced by one function and reported on by another. -/
lemma passed_map {f : α → α} {report : α → List ρ} (h : ∀ a, R a (f a) (report a)) :
    ∀ as : List α, Passed R as (as.map f) (as.flatMap report)
  | [] => .nil
  | a :: as => by
    rw [List.map_cons, List.flatMap_cons]
    exact .cons (h a) (passed_map h as)

/-- Lists that are gone through are tied member by member. -/
lemma Passed.forall₂ {S : α → α → Prop} (hmember : ∀ a b found, R a b found → S a b)
    {as bs : List α} {found : List ρ} (h : Passed R as bs found) : List.Forall₂ S as bs := by
  induction h with
  | nil => exact .nil
  | cons head _ ih => exact .cons (hmember _ _ _ head) ih

end

/-! ## Literals, conditions and filters -/

section

variable (r : Resolver) (c : Coverage) (l : Level)

/-- What becomes of a literal compared for equality with the places of a level, and what is
reported. -/
inductive Literal.Resolved : Literal → Literal → List Resolution → Prop
  /-- A text that is resolved with confidence gives way to the name it is taken for. -/
  | sure (s : String) (h : (r.resolve c s (some l)).isConfident = true) :
    Resolved (.text s) (.text (r.resolve c s (some l)).canonical) []
  /-- A text that finds nothing but suggestions stays and is reported. -/
  | suggested (s : String) (h : (r.resolve c s (some l)).isConfident = false)
    (hsome : (r.resolve c s (some l)).suggestions ≠ []) :
    Resolved (.text s) (.text s) [r.resolve c s (some l)]
  /-- A text that finds nothing stays. -/
  | unknown (s : String) (h : (r.resolve c s (some l)).isConfident = false)
    (hnone : (r.resolve c s (some l)).suggestions = []) : Resolved (.text s) (.text s) []
  /-- A literal that is no text stays. -/
  | other (x : Literal) (h : x.text? = none) : Resolved x x []

/-- What becomes of a condition on the places of a level. -/
inductive Condition.Resolved : Condition → Condition → List Resolution → Prop
  | scalar {v w : Literal} {found : List Resolution} (h : Literal.Resolved r c l v w found) :
    Resolved (.scalar v) (.scalar w) found
  | inSet {vs ws : List Literal} {found : List Resolution}
    (h : Passed (Literal.Resolved r c l) vs ws found) : Resolved (.inSet vs) (.inSet ws) found
  | isNull : Resolved .isNull .isNull []
  | between (low high : Literal) : Resolved (.between low high) (.between low high) []
  | compare (op : Comparator) (v : Literal) : Resolved (.compare op v) (.compare op v) []
  | contains (part : String) : Resolved (.contains part) (.contains part) []

end

/-- What becomes of a filter. -/
inductive ColumnFilter.Resolved (r : Resolver) (c : Coverage) :
    ColumnFilter → ColumnFilter → List Resolution → Prop
  /-- A filter on the places of a level is gone through. -/
  | place {f : ColumnFilter} {conditions : List Condition} {found : List Resolution} (l : Level)
    (hcolumn : f.column.text = l.column)
    (h : Passed (Condition.Resolved r c l) f.conditions conditions found) :
    Resolved r c f ⟨f.column, conditions⟩ found
  /-- A filter on another column stays. -/
  | other (f : ColumnFilter) (h : ∀ l : Level, f.column.text ≠ l.column) : Resolved r c f f []

/-- What becomes of the filters of a request. -/
structure Resolver.Substitution (r : Resolver) (c : Coverage) (filters resolved : List ColumnFilter)
    (found : List Resolution) : Prop where
  /-- They are gone through once, and what found nothing but suggestions is reported in order. -/
  passed : Passed (ColumnFilter.Resolved r c) filters resolved found
  /-- They have the columns that they had, with as many conditions of the same kinds on as many
  literals. -/
  alike : List.Forall₂ ColumnFilter.Alike filters resolved
  /-- The text of the conditions on rows is what it was. -/
  sql : (Sql.rowConditions resolved).sql = (Sql.rowConditions filters).sql

/-! ## What stays -/

section

variable {r : Resolver} {c : Coverage} {l : Level} {found : List Resolution}

/-- A condition stays of its kind, with as many literals. -/
lemma Condition.Resolved.alike {x y : Condition} (h : Condition.Resolved r c l x y found) :
    x.Alike y := by
  cases h with
  | scalar _ => exact .scalar _ _
  | inSet hpassed => exact .inSet (hpassed.forall₂ fun _ _ _ _ => trivial).length_eq
  | isNull => exact .isNull
  | between low high => exact .between _ _ _ _
  | compare op v => exact .compare op _ _
  | contains part => exact .contains _ _

/-- A condition of some kind is alike to itself. -/
lemma Condition.Alike.refl (x : Condition) : x.Alike x := by
  cases x with
  | inSet values => exact .inSet rfl
  | _ => constructor

/-- A filter keeps its column, and its conditions stay of their kinds. -/
lemma ColumnFilter.Resolved.alike {f g : ColumnFilter} (h : ColumnFilter.Resolved r c f g found) :
    f.Alike g := by
  cases h with
  | place l _ hpassed => exact ⟨rfl, hpassed.forall₂ fun _ _ _ h => h.alike⟩
  | other _ => exact ⟨rfl, List.forall₂_same.mpr fun x _ => Condition.Alike.refl x⟩

/-- Filters that are gone through keep the text of their conditions. -/
lemma Resolver.substitution_of_passed {filters resolved : List ColumnFilter}
    (h : Passed (ColumnFilter.Resolved r c) filters resolved found) :
    r.Substitution c filters resolved found := by
  have halike := h.forall₂ fun _ _ _ h => h.alike
  exact ⟨h, halike, (conditions_alike Sql.column halike).sql.symm⟩

end

/-! ## What the resolver does -/

namespace Resolver

variable (r : Resolver) (c : Coverage) (l : Level)

/-- The resolutions of texts that found nothing but suggestions. -/
def unsettled (texts : List String) : List Resolution :=
  (texts.map fun text => r.resolve c text (some l)).filter fun resolution =>
    !resolution.isConfident && !resolution.suggestions.isEmpty

lemma unsettled_flatMap {α : Type} (texts : α → List String) (xs : List α) :
    r.unsettled c l (xs.flatMap texts) = xs.flatMap fun x => r.unsettled c l (texts x) := by
  rw [unsettled, List.map_flatMap, List.filter_flatMap]
  rfl

/-- A literal is replaced and reported on. -/
lemma resolved_literal (x : Literal) :
    Literal.Resolved r c l x (x.mapText (r.replacement c l))
      (r.unsettled c l x.text?.toList) := by
  cases x with
  | text s =>
    rw [Literal.mapText, Literal.text?, Option.toList_some, unsettled, List.map_singleton,
      List.filter_singleton]
    cases hsure : (r.resolve c s (some l)).isConfident with
    | true =>
      rw [replacement_eq_canonical]
      exact .sure s hsure
    | false =>
      rw [replacement, hsure]
      by_cases hsome : (r.resolve c s (some l)).suggestions = []
      · rw [hsome]
        exact .unknown s hsure hsome
      · rw [List.isEmpty_eq_false_iff.mpr hsome]
        exact .suggested s hsure hsome
  | _ => exact .other _ rfl

/-- A condition is replaced and reported on. -/
lemma resolved_condition (x : Condition) :
    Condition.Resolved r c l x (x.mapTexts (r.replacement c l)) (r.unsettled c l x.texts) := by
  cases x with
  | scalar value => exact .scalar (r.resolved_literal c l value)
  | inSet values =>
    rw [Condition.texts, List.filterMap_eq_flatMap_toList, unsettled_flatMap]
    exact .inSet (passed_map (r.resolved_literal c l) values)
  | isNull => exact .isNull
  | between low high => exact .between low high
  | compare op value => exact .compare op value
  | contains part => exact .contains part

lemma column_of_ofColumn? {name : String} {l : Level} (h : Level.ofColumn? name = some l) :
    name = l.column := by
  have hfound := List.find?_some h
  exact (eq_of_beq hfound).symm

/-- A filter is replaced and reported on. -/
lemma resolved_filter (f : ColumnFilter) :
    ColumnFilter.Resolved r c f (r.substituteFilter c f) (r.unresolvedIn c f) := by
  cases hlevel : Level.ofColumn? f.column.text with
  | none =>
    rw [substituteFilter, unresolvedIn, hlevel]
    refine .other f fun l hcolumn => ?_
    rw [hcolumn, ofColumn?_column] at hlevel
    exact Option.some_ne_none l hlevel
  | some l =>
    have hreport : r.unresolvedIn c f = r.unsettled c l f.texts := by rw [unresolvedIn, hlevel]; rfl
    rw [substituteFilter_of_level hlevel, hreport, ColumnFilter.texts, unsettled_flatMap]
    exact .place l (column_of_ofColumn? hlevel) (passed_map (r.resolved_condition c l) _)

/-- **Filters are gone through once.** -/
theorem substitution_substitute (filters : List ColumnFilter) :
    r.Substitution c filters (r.substitute c filters).1 (r.substitute c filters).2 :=
  substitution_of_passed (passed_map (r.resolved_filter c) filters)

end Resolver

/-! ## Requests -/

namespace Service

open Session

/-- **The places in the filters of a request are resolved by the coverage that the request has,**
and nothing else in the filters changes. The coverage is asked for only where a filter names a
place.

**Proof sketch.** The filters are gone through once, text by text, and what is resolved on the way
is noted (`Resolver.substitution_substitute`). The service asks for its coverage before, if a filter
names a place (`ends_substitute`); if none does, going through the filters changes nothing, whatever
the coverage (`ends_substitute_of_not`). -/
theorem substitute_resolves (svc : Service) (s : State) (filters : List ColumnFilter) :
    (∀ c t, svc.coverage.ends s = (.ok c, t) →
      ∃ resolved found, svc.resolver.Substitution c filters resolved found ∧
        (svc.substitute filters).ends s =
          (.ok (resolved, found), if filters.any ColumnFilter.namesPlaces then t else s)) ∧
    ∀ halt t, svc.coverage.ends s = (.error halt, t) →
      (svc.substitute filters).ends s =
        if filters.any ColumnFilter.namesPlaces then (.error halt, t)
        else (.ok (filters, []), s) := by
  cases hplaces : filters.any ColumnFilter.namesPlaces with
  | false =>
    rw [ends_substitute_of_not hplaces]
    refine ⟨fun c t _ => ⟨filters, [], ?_, rfl⟩, fun _ _ _ => rfl⟩
    have hpassed := svc.resolver.substitution_substitute c filters
    rwa [substitute_of_not svc.resolver c hplaces] at hpassed
  | true =>
    rw [ends_substitute hplaces]
    constructor
    · intro c t hcoverage
      rw [hcoverage]
      exact ⟨_, _, svc.resolver.substitution_substitute c filters, rfl⟩
    · intro halt t hcoverage
      rw [hcoverage]
      rfl

/-- Two countries, one of them known, and a year. -/
theorem substitute_resolves_germany :
    let c := Coverage.ofEntries [(.country, "Germany")]
    let s : State := { coverage := some c }
    let filters : List ColumnFilter := [
      ⟨⟨"country_name", by decide⟩, [.inSet [.text "germany", .text "Germani", .integer 7]]⟩,
      ⟨⟨"year", by decide⟩, [.scalar (.text "2020")]⟩]
    filters.any ColumnFilter.namesPlaces = true ∧ powerService.coverage.ends s = (.ok c, s) ∧
      ∃ resolved found, powerService.resolver.Substitution c filters resolved found ∧
        (powerService.substitute filters).ends s = (.ok (resolved, found), s) := by
  intro c s filters
  have hcoverage : powerService.coverage.ends s = (.ok c, s) := ends_coverage_of_some rfl
  obtain ⟨resolved, found, hresolved, hends⟩ :=
    (substitute_resolves powerService s filters).1 c s hcoverage
  rw [ite_self] at hends
  exact ⟨rfl, hcoverage, resolved, found, hresolved, hends⟩

end Service

end QueryGate
