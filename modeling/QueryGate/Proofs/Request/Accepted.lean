import QueryGate.Proofs.Sql.Shown

set_option relaxedAutoImplicit false
set_option autoImplicit false

/-!
# Which queries have a statement

A query is refused a statement for its conditions on groups, its selected columns or the names that
its values would get. Which ones it is refused for does not depend on the order in which they are
written.

## Main definitions

* `QueryGate.Query.Showable` — a query with nothing to be refused for.

## Main results

* `QueryGate.Plan.build_eq_ok_iff` — the plan of some aggregations, if there is one.
* `QueryGate.Query.shown_isOk_iff` — a query shows something exactly when it is showable.
-/

namespace QueryGate

open Outcome

/-! ## Plans -/

/-- A value has the column, the function and the name that it was made of. -/
lemma Aggregate.make_eq_ok {c : Ident} {func : Aggregator} {a : Aggregate}
    (h : Aggregate.make c func = .ok a) : a.source = c ∧ a.func = func := by
  unfold make at h
  cases hlabel : c.withSuffix func.suffix with
  | error r =>
    rw [hlabel] at h
    exact absurd h nofun
  | ok label =>
    rw [hlabel] at h
    obtain rfl := Except.ok.inj h
    exact ⟨rfl, rfl⟩

namespace Plan

variable {aggregations : List (Ident × Aggregator)} {select groupBy : List Ident}

/-- A column is aggregated when it stands in an aggregation. -/
lemma isSource_iff {c : Ident} :
    isSource aggregations c = true ↔ ∃ a ∈ aggregations, a.1 = c := by
  simp [isSource]

/-- The plan of some aggregations, if there is one. -/
lemma build_eq_ok_iff {p : Plan} :
    build aggregations select groupBy = .ok p ↔
      ∃ aggregates, aggregations.mapM (fun a => Aggregate.make a.1 a.2) = .ok aggregates ∧
        (∀ c ∈ select, isSource aggregations c = true ∨ c ∈ groupBy) ∧
        p = ⟨(select.filter (fun c => !isSource aggregations c) ++ groupBy).eraseDups, aggregates,
          groupBy⟩ := by
  unfold build
  rw [bind_eq_ok_iff]
  refine exists_congr fun aggregates => and_congr_right fun _ => ?_
  have hgrouped : ((select.filter fun c => !isSource aggregations c).filter
      fun c => !groupBy.contains c).isEmpty = true ↔
      ∀ c ∈ select, isSource aggregations c = true ∨ c ∈ groupBy := by
    rw [List.isEmpty_iff, List.filter_eq_nil_iff]
    constructor
    · intro h c hc
      by_cases hsource : isSource aggregations c = true
      · exact Or.inl hsource
      · have hmem := h c (List.mem_filter.mpr ⟨hc, by simpa using hsource⟩)
        exact Or.inr (by simpa using hmem)
    · intro h c hc
      obtain ⟨hc, hsource⟩ := List.mem_filter.mp hc
      have hgroup := (h c hc).resolve_left (by simpa using hsource)
      simpa using hgroup
  rw [← hgrouped]
  dsimp only
  split_ifs with hempty
  · exact ⟨nofun, fun h => absurd h.1 (by simpa using hempty)⟩
  · exact ⟨fun h => ⟨by simpa using hempty, (Except.ok.inj h).symm⟩, fun h => h.2 ▸ rfl⟩

/-- A condition on groups is accepted when it is about a grouped column, an aggregated column or
the name of a value. -/
lemma remapFilter_isOk_iff (p : Plan) (f : ColumnFilter) :
    (∃ g, p.remapFilter f = .ok g) ↔
      f.column ∈ p.groupBy ∨ ∃ a ∈ p.aggregates, a.source = f.column ∨ a.label = f.column := by
  have hok : (∃ g, p.remapFilter f = .ok g) ↔
      p.remap f.column ∈ p.groupBy ∨ p.remap f.column ∈ p.aggregates.map (·.label) := by
    unfold remapFilter
    dsimp only
    split_ifs with hknown
    · exact ⟨fun _ => by simpa using hknown, fun _ => ⟨_, rfl⟩⟩
    · exact ⟨fun h => absurd h.choose_spec nofun, fun h => absurd (by simpa using h) hknown⟩
  rw [hok]
  unfold remap
  split_ifs with hgroup
  · have hgroup : f.column ∈ p.groupBy := by simpa using hgroup
    exact ⟨fun _ => Or.inl hgroup, fun _ => Or.inl hgroup⟩
  · have hgroup : f.column ∉ p.groupBy := by simpa using hgroup
    cases hfind : p.aggregates.find? fun a => decide (a.source = f.column) with
    | some a =>
      have hmem := List.mem_of_find?_eq_some hfind
      have hsource : a.source = f.column := by simpa using List.find?_some hfind
      exact ⟨fun _ => Or.inr ⟨a, hmem, Or.inl hsource⟩,
        fun _ => Or.inr (List.mem_map_of_mem hmem)⟩
    | none =>
      have hnone : ∀ a ∈ p.aggregates, a.source ≠ f.column := by simpa using hfind
      constructor
      · rintro (h | h)
        · exact Or.inl h
        · obtain ⟨a, ha, hlabel⟩ := List.mem_map.mp h
          exact Or.inr ⟨a, ha, Or.inr hlabel⟩
      · rintro (h | ⟨a, ha, hsource | hlabel⟩)
        · exact Or.inl h
        · exact absurd hsource (hnone a ha)
        · exact Or.inr (List.mem_map.mpr ⟨a, ha, hlabel⟩)

end Plan

/-! ## Queries -/

namespace Query

/-- A query with nothing to be refused for. -/
structure Showable (q : Query) : Prop where
  /-- Every value gets a good name. -/
  named : ∀ a ∈ q.aggregations, ∃ value, Aggregate.make a.1 a.2 = .ok value
  /-- Next to values, every selected column is aggregated or grouped by. -/
  grouped : q.aggregations ≠ [] → ∀ c ∈ q.select, (∃ a ∈ q.aggregations, a.1 = c) ∨ c ∈ q.groupBy
  /-- Conditions on groups are about grouped columns and values, and there are values. -/
  known : ∀ f ∈ q.having, q.aggregations ≠ [] ∧
    (f.column ∈ q.groupBy ∨ ∃ a ∈ q.aggregations, ∃ value, Aggregate.make a.1 a.2 = .ok value ∧
      (a.1 = f.column ∨ value.label = f.column))

/-- Without aggregation a query shows something when it has no conditions on groups. -/
lemma shownPlain_isOk_iff (q : Query) : (∃ s, q.shownPlain = .ok s) ↔ q.having = [] := by
  unfold shownPlain
  split_ifs with hempty
  · exact ⟨fun h => absurd h.choose_spec nofun, fun h => absurd hempty (by simp [h])⟩
  all_goals exact ⟨fun _ => by simpa using hempty, fun _ => ⟨_, rfl⟩⟩

/-- With aggregation a query shows something when it has a plan that knows its conditions. -/
lemma shownGrouped_isOk_iff (q : Query) :
    (∃ s, q.shownGrouped = .ok s) ↔
      ∃ p, Plan.build q.aggregations q.select q.groupBy = .ok p ∧
        ∀ f ∈ q.having, ∃ g, p.remapFilter f = .ok g := by
  constructor
  · rintro ⟨s, h⟩
    obtain ⟨p, hp, h⟩ := bind_eq_ok_iff.mp h
    obtain ⟨having, hhaving, -⟩ := bind_eq_ok_iff.mp h
    exact ⟨p, hp, mapM_isOk_iff.mp ⟨having, hhaving⟩⟩
  · rintro ⟨p, hp, h⟩
    obtain ⟨having, hhaving⟩ := mapM_isOk_iff.mpr h
    exact ⟨_, bind_eq_ok_iff.mpr ⟨p, hp, bind_eq_ok_iff.mpr ⟨having, hhaving, rfl⟩⟩⟩

/-- **A query shows something exactly when it is showable.** -/
theorem shown_isOk_iff (q : Query) : (∃ s, q.shown = .ok s) ↔ q.Showable := by
  unfold shown
  by_cases hnone : q.aggregations = []
  · rw [if_pos (by simp [hnone]), shownPlain_isOk_iff]
    constructor
    · intro hhaving
      exact ⟨by simp [hnone], fun h => absurd hnone h, by simp [hhaving]⟩
    · intro h
      exact List.eq_nil_iff_forall_not_mem.mpr fun f hf => (h.known f hf).1 hnone
  · rw [if_neg (by simpa using hnone), shownGrouped_isOk_iff]
    constructor
    · rintro ⟨p, hp, hknown⟩
      obtain ⟨aggregates, hmade, hgrouped, rfl⟩ := Plan.build_eq_ok_iff.mp hp
      refine ⟨mapM_isOk_iff.mp ⟨aggregates, hmade⟩, fun _ c hc => ?_, fun f hf => ⟨hnone, ?_⟩⟩
      · rw [← Plan.isSource_iff]
        exact hgrouped c hc
      · rcases (Plan.remapFilter_isOk_iff _ f).mp (hknown f hf) with hgroup | ⟨value, hvalue, h⟩
        · exact Or.inl hgroup
        · obtain ⟨a, ha, hmake⟩ := (mem_of_mapM_eq_ok hmade).mp hvalue
          rw [(Aggregate.make_eq_ok hmake).1] at h
          exact Or.inr ⟨a, ha, value, hmake, h⟩
    · intro h
      obtain ⟨aggregates, hmade⟩ := mapM_isOk_iff.mpr h.named
      refine ⟨_, Plan.build_eq_ok_iff.mpr ⟨aggregates, hmade, fun c hc => ?_, rfl⟩, fun f hf => ?_⟩
      · rw [Plan.isSource_iff]
        exact h.grouped hnone c hc
      · rw [Plan.remapFilter_isOk_iff]
        rcases (h.known f hf).2 with hgroup | ⟨a, ha, value, hmake, hcolumn⟩
        · exact Or.inl hgroup
        · rw [← (Aggregate.make_eq_ok hmake).1] at hcolumn
          exact Or.inr ⟨value, (mem_of_mapM_eq_ok hmade).mpr ⟨a, ha, hmake⟩, hcolumn⟩

end Query

end QueryGate
