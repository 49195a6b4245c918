import QueryGate.Proofs.Sql.Projection

set_option relaxedAutoImplicit false
set_option autoImplicit false

/-!
# References to what a query with aggregation shows

Conditions on groups and the sort order refer to columns by name. A name may at once be that of an
aggregated column, of the value of another one and of a grouped column. It is looked for among the
aggregated columns first and then, under what was found there, among the names of values. The two
searches come to one and the same value, since no two values have one name.

## Main definitions

* `QueryGate.IsReference` — the names that may be referred to.
* `QueryGate.Means` — a name means the value of an aggregation.
* `QueryGate.Plan.subject` — what conditions on groups are held against.
* `QueryGate.Plan.Resolves` — references are resolved to what they mean.

## Main results

* `QueryGate.Plan.remap_of_means` — a name is taken for the value that it means.
* `QueryGate.Plan.remap_mem_outputs` — a reference becomes the name of an item shown.
* `QueryGate.Plan.build_resolves` — every plan resolves references to what they mean.
-/

namespace QueryGate

open Sql Outcome

/-- The names that may be referred to: grouped columns, aggregated columns and values. -/
def IsReference (aggregations : List (Ident × Aggregator)) (groupBy : List Ident) (c : Ident) :
    Prop :=
  c ∈ groupBy ∨ ∃ a ∈ aggregations, c = a.1 ∨ c.text = Aggregate.labelText a

/-- A name means the value of an aggregation: the one of the column of that name or, where there is
none, the one that gets the name. -/
def Means (aggregations : List (Ident × Aggregator)) (c : Ident) (a : Ident × Aggregator) : Prop :=
  a ∈ aggregations ∧ (a.1 = c ∨ c ∉ aggregations.map (·.1) ∧ c.text = Aggregate.labelText a)

/-- The first member with a key is the only one. -/
lemma find?_eq_some_of_nodup {α β : Type} [DecidableEq β] {key : α → β} {xs : List α} {a : α}
    (hnodup : (xs.map key).Nodup) (ha : a ∈ xs) :
    xs.find? (fun b => decide (key b = key a)) = some a := by
  cases hfind : xs.find? fun b => decide (key b = key a) with
  | none => exact absurd (List.find?_eq_none.mp hfind a ha) (by simp)
  | some b =>
    have hkey : key b = key a := by simpa using List.find?_some hfind
    rw [List.inj_on_of_nodup_map hnodup (List.mem_of_find?_eq_some hfind) ha hkey]

namespace Plan

/-- What a reference stands for in conditions on groups. -/
def subject (p : Plan) (c : Ident) : Sql := p.expression (p.remap c)

variable {aggregations : List (Ident × Aggregator)} {select groupBy : List Ident} {p : Plan}
  {c : Ident} {a : Ident × Aggregator}

lemma remap_of_mem_groupBy (hc : c ∈ p.groupBy) : p.remap c = c := by
  have hmem : p.groupBy.contains c = true := by simpa using hc
  rw [remap, if_pos hmem]

/-- Outside of the grouped columns, an aggregated column means its value. -/
lemma remap_source {value : Aggregate} (hsources : (p.aggregates.map (·.source)).Nodup)
    (hvalue : value ∈ p.aggregates) (hc : value.source ∉ p.groupBy) :
    p.remap value.source = value.label := by
  have hmem : ¬ p.groupBy.contains value.source = true := by simpa using hc
  rw [remap, if_neg hmem, find?_eq_some_of_nodup hsources hvalue]

/-- A name that no aggregated column has is kept. -/
lemma remap_of_not_source (hsource : ∀ value ∈ p.aggregates, value.source ≠ c) :
    p.remap c = c := by
  have hfind : p.aggregates.find? (fun value => decide (value.source = c)) = none := by
    simpa using hsource
  rw [remap, hfind]
  split_ifs <;> rfl

/-- The name of a value stands for it. -/
lemma expression_label {value : Aggregate} (hlabels : (p.aggregates.map (·.label)).Nodup)
    (hvalue : value ∈ p.aggregates) : p.expression value.label = value.expression := by
  rw [expression, find?_eq_some_of_nodup hlabels hvalue]

/-- A name that means a value becomes the name of the value, and stands for the value there. -/
lemma remap_of_means (hnodup : (aggregations.map (·.1)).Nodup)
    (h : build aggregations select groupBy = .ok p) (hc : c ∉ groupBy)
    (hmeans : Means aggregations c a) :
    (p.remap c).text = Aggregate.labelText a ∧ p.subject c = a.2.apply a.1 := by
  obtain ⟨ha, hname⟩ := hmeans
  obtain ⟨value, hvalue, hsource, hfunc, hlabel⟩ := exists_value_of_mem h ha
  have hremap : p.remap c = value.label := by
    rcases hname with rfl | ⟨hnone, hname⟩
    · rw [← hsource]
      refine remap_source (by rwa [sources_of_build h]) hvalue ?_
      rwa [groupBy_of_build h, hsource]
    · -- The first search finds nothing, and the name is the value's already.
      rw [← sources_of_build h] at hnone
      rw [remap_of_not_source fun b hb hbc => hnone (List.mem_map.mpr ⟨b, hb, hbc⟩)]
      exact Ident.eq_of_text (hname.trans hlabel.symm)
  refine ⟨hremap ▸ hlabel, ?_⟩
  rw [subject, hremap, expression_label (nodup_labels hnodup h) hvalue, Aggregate.expression,
    hsource, hfunc]

lemma exists_means_of_isReference (hc : c ∉ groupBy) (h : IsReference aggregations groupBy c) :
    ∃ a, Means aggregations c a := by
  obtain ⟨a, ha, hname⟩ := h.resolve_left hc
  by_cases hsource : c ∈ aggregations.map (·.1)
  · obtain ⟨b, hb, rfl⟩ := List.mem_map.mp hsource
    exact ⟨b, hb, Or.inl rfl⟩
  · rcases hname with rfl | hname
    · exact absurd (List.mem_map_of_mem ha) hsource
    · exact ⟨a, ha, Or.inr ⟨hsource, hname⟩⟩

/-- The names that a plan knows are the references. -/
lemma known_iff_isReference (h : build aggregations select groupBy = .ok p) :
    (c ∈ p.groupBy ∨ ∃ value ∈ p.aggregates, value.source = c ∨ value.label = c) ↔
      IsReference aggregations groupBy c := by
  have hvalues : (∃ value ∈ p.aggregates, value.source = c ∨ value.label = c) ↔
      ∃ a ∈ aggregations, c = a.1 ∨ c.text = Aggregate.labelText a := by
    constructor
    · rintro ⟨value, hvalue, hname⟩
      obtain ⟨a, ha, hmake⟩ := (exists_make_of_mem h).mp hvalue
      refine ⟨a, ha, hname.imp (fun hsource => ?_) (fun hlabel => ?_)⟩
      · rw [← hsource, (Aggregate.make_eq_ok hmake).1]
      · rw [← hlabel, Aggregate.label_of_make hmake, Aggregate.labelText]
    · rintro ⟨a, ha, hname⟩
      obtain ⟨value, hvalue, hsource, -, hlabel⟩ := exists_value_of_mem h ha
      refine ⟨value, hvalue, hname.imp (fun hc => ?_) (fun hc => ?_)⟩
      · rw [hsource, hc]
      · exact Ident.eq_of_text (hlabel.trans hc.symm)
  rw [groupBy_of_build h, hvalues, IsReference]

/-- A reference becomes the name of an item shown. -/
lemma remap_mem_outputs (hnodup : (aggregations.map (·.1)).Nodup)
    (h : build aggregations select groupBy = .ok p) (hc : IsReference aggregations groupBy c) :
    p.remap c ∈ p.outputs := by
  rw [outputs, List.mem_append]
  by_cases hgrouped : c ∈ groupBy
  · left
    rwa [remap_of_mem_groupBy (by rwa [groupBy_of_build h]), mem_plain_iff h]
  · right
    obtain ⟨a, hmeans⟩ := exists_means_of_isReference hgrouped hc
    obtain ⟨value, hvalue, -, -, hlabel⟩ := exists_value_of_mem h hmeans.1
    have hremap := (remap_of_means hnodup h hgrouped hmeans).1
    rw [Ident.eq_of_text (hremap.trans hlabel.symm)]
    exact List.mem_map_of_mem hvalue

/-- What becomes of references: a grouped column stays what it is, and any other name is taken for
the value that it means. -/
structure Resolves (aggregations : List (Ident × Aggregator)) (groupBy : List Ident) (p : Plan) :
    Prop where
  /-- Conditions on groups are accepted when they are on references. -/
  having_isOk : ∀ having, (∃ resolved, p.remapHaving having = .ok resolved) ↔
    ∀ f ∈ having, IsReference aggregations groupBy f.column
  /-- One by one, they are moved to what becomes of their column and ask the same of it. -/
  having_each : ∀ having resolved, p.remapHaving having = .ok resolved →
    List.Forall₂ (fun f g => g.column = p.remap f.column ∧ g.conditions = f.conditions)
      having resolved
  /-- They are written for what their columns stand for. -/
  having_subject : ∀ having resolved, p.remapHaving having = .ok resolved →
    p.groupConditions resolved = conditions p.subject having
  grouped : ∀ c ∈ groupBy, p.remap c = c
  /-- Outside of the grouped columns there is a value that a reference means. The name becomes that
  of the value, and it stands for the value. -/
  value : ∀ c, c ∉ groupBy → IsReference aggregations groupBy c →
    (∃ a, Means aggregations c a) ∧
      ∀ a, Means aggregations c a →
        (p.remap c).text = Aggregate.labelText a ∧ p.subject c = a.2.apply a.1
  /-- One by one, sort keys are moved to what becomes of their column, which is shown, and keep
  their direction. -/
  keys_each : ∀ keys, (∀ k ∈ keys, IsReference aggregations groupBy k.column) →
    List.Forall₂ (fun k k' => k'.column = p.remap k.column ∧ k'.column ∈ p.outputs ∧
      k'.descending = k.descending) keys (p.remapKeys keys)

lemma remapHaving_isOk_iff (h : build aggregations select groupBy = .ok p)
    (having : List ColumnFilter) : (∃ resolved, p.remapHaving having = .ok resolved) ↔
      ∀ f ∈ having, IsReference aggregations groupBy f.column := by
  rw [remapHaving, mapM_isOk_iff]
  simp only [remapFilter_isOk_iff, known_iff_isReference h]

lemma groupConditions_map_resolved (p : Plan) (having : List ColumnFilter) :
    p.groupConditions (having.map p.resolved) = conditions p.subject having := by
  rw [groupConditions, conditions, conditions, List.flatMap_map, List.flatMap_map]
  rfl

/-- **A plan resolves references to what they mean.** Conditions on groups are accepted exactly when
they are on grouped columns, aggregated columns or values.

**Proof sketch.** Both kinds of references are looked up in the same way: a grouped column stands
for itself, an aggregated column for its value, and the name of a value for that value. As the
names of values differ, the search by name finds the value meant (`remap_of_means`), and every name
that is let through means a column or a value (`exists_means_of_isReference`). -/
theorem build_resolves (hnodup : (aggregations.map (·.1)).Nodup)
    (h : build aggregations select groupBy = .ok p) : p.Resolves aggregations groupBy where
  having_isOk := remapHaving_isOk_iff h
  having_each := by
    intro having resolved hresolved
    rw [remapHaving_eq_ok hresolved, List.forall₂_map_right_iff]
    exact List.forall₂_same.mpr fun f _ => ⟨rfl, rfl⟩
  having_subject := by
    intro having resolved hresolved
    rw [remapHaving_eq_ok hresolved, groupConditions_map_resolved]
  grouped := fun c hc => remap_of_mem_groupBy (by rwa [groupBy_of_build h])
  value := fun c hc hreference =>
    ⟨exists_means_of_isReference hc hreference, fun a => remap_of_means hnodup h hc⟩
  keys_each := by
    intro keys hkeys
    rw [remapKeys, List.forall₂_map_right_iff]
    exact List.forall₂_same.mpr fun k hk => ⟨rfl, remap_mem_outputs hnodup h (hkeys k hk), rfl⟩

/-- The name of a sum is that of a column with a mean of its own: it means the mean, and only the
column that is summed up means the sum. -/
theorem build_resolves_tonnes :
    let aggregations := [(tonnesColumn, Aggregator.sum), (tonnesSumColumn, .avg)]
    let above := fun c => ColumnFilter.mk c [.compare .above (.integer 5)]
    (aggregations.map (·.1)).Nodup ∧
      ∃ p, build aggregations [] [yearColumn] = .ok p ∧ p.Resolves aggregations [yearColumn] ∧
        p.remapHaving ([tonnesSumColumn, tonnesColumn, yearColumn].map above) =
          .ok ((p.outputs.map above).reverse) ∧
        (p.groupConditions ((p.outputs.map above).reverse)).sql.render =
          "AVG(\"tonnes_sum\") > ? AND SUM(\"tonnes\") > ? AND \"year\" > ?" := by
  intro aggregations above
  have hnodup : (aggregations.map (·.1)).Nodup := by decide
  obtain ⟨p, hp⟩ : ∃ p, build aggregations [] [yearColumn] = .ok p := ⟨_, rfl⟩
  refine ⟨hnodup, p, hp, build_resolves hnodup hp, ?_⟩
  obtain rfl := Except.ok.inj hp
  exact ⟨rfl, rfl⟩

end Plan

end QueryGate
