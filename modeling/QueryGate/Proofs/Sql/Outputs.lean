import Mathlib.Tactic.TFAE
import QueryGate.Engine.RowSet
import QueryGate.Proofs.Json.Members
import QueryGate.Proofs.Mention
import QueryGate.Proofs.Sql.Label
import QueryGate.Proofs.Sql.Places

set_option relaxedAutoImplicit false
set_option autoImplicit false

/-!
# The items that a query with aggregation shows

Such a query shows its grouped columns and its values side by side, each value under its generated
name. Two values never get one name. A value and a grouped column do where the column is called
like the value, and then a row has one field for the two, and a condition on the column is held
against the value.

## Main definitions

* `QueryGate.NamesApart` — no grouped column is called like a value.
* `QueryGate.Plan.KeepsFields` — every item shown has a field of its own in every row.
* `QueryGate.Plan.MeansColumns` — conditions on grouped columns are about these columns.

## Main results

* `QueryGate.Plan.outputs_nodup_tfae` — these three, and that all items have different names, hold
  at the same time.
* `QueryGate.Plan.not_outputs_nodup_tonnes` — they do not always hold.
-/

namespace QueryGate

open Sql Outcome

/-! ## Rows -/

/-- A row has a field for each column exactly when no two columns have one name. -/
lemma RowSet.record_eq_zip_iff {columns : List String} {row : List Json}
    (h : row.length = columns.length) : record columns row = columns.zip row ↔ columns.Nodup := by
  have hkeys : (columns.zip row).map (·.1) = columns := List.map_fst_zip (Nat.le_of_eq h.symm)
  constructor
  · intro hrecord
    have hnodup := Json.nodup_keys_ofList (columns.zip row)
    rw [← record, hrecord, hkeys] at hnodup
    exact hnodup
  · intro hnodup
    exact Json.ofList_eq_self (by rwa [hkeys])

/-! ## Plans -/

/-- No grouped column is called like a value. -/
def NamesApart (aggregations : List (Ident × Aggregator)) (groupBy : List Ident) : Prop :=
  ∀ c ∈ groupBy, ∀ a ∈ aggregations, c.text ≠ a.1.text ++ "_" ++ a.2.suffix

instance (aggregations : List (Ident × Aggregator)) (groupBy : List Ident) :
    Decidable (NamesApart aggregations groupBy) :=
  inferInstanceAs
    (Decidable (∀ c ∈ groupBy, ∀ a ∈ aggregations, c.text ≠ a.1.text ++ "_" ++ a.2.suffix))

namespace Plan

/-- Every item shown has a field of its own in every row. -/
def KeepsFields (p : Plan) : Prop :=
  ∀ row : List Json, row.length = p.outputs.length →
    RowSet.record (p.outputs.map Ident.text) row = (p.outputs.map Ident.text).zip row

/-- Conditions on grouped columns are accepted as they are and are about these columns. -/
def MeansColumns (p : Plan) : Prop :=
  ∀ filters : List ColumnFilter, (∀ f ∈ filters, f.column ∈ p.groupBy) →
    p.remapHaving filters = .ok filters ∧ p.groupConditions filters = rowConditions filters

variable {aggregations : List (Ident × Aggregator)} {select groupBy : List Ident} {p : Plan}

/-- The columns grouped by are those that were asked for. -/
lemma groupBy_of_build (h : build aggregations select groupBy = .ok p) : p.groupBy = groupBy := by
  obtain ⟨aggregates, -, -, rfl⟩ := build_eq_ok_iff.mp h
  rfl

/-- The columns shown as they are are the grouped ones. -/
lemma mem_plain_iff (h : build aggregations select groupBy = .ok p) {c : Ident} :
    c ∈ p.plain ↔ c ∈ groupBy := by
  obtain ⟨aggregates, -, hgrouped, rfl⟩ := build_eq_ok_iff.mp h
  rw [List.mem_eraseDups, List.mem_append, List.mem_filter]
  constructor
  · rintro (⟨hselect, hsource⟩ | hc)
    · exact (hgrouped c hselect).resolve_left (by simpa using hsource)
    · exact hc
  · exact Or.inr

/-- They are shown once. -/
lemma nodup_plain (h : build aggregations select groupBy = .ok p) : p.plain.Nodup := by
  obtain ⟨aggregates, -, -, rfl⟩ := build_eq_ok_iff.mp h
  exact (firstMentions_eraseDups _).nodup

/-- A value is one of those that were asked for. -/
lemma exists_make_of_mem (h : build aggregations select groupBy = .ok p) {value : Aggregate} :
    value ∈ p.aggregates ↔ ∃ a ∈ aggregations, Aggregate.make a.1 a.2 = .ok value := by
  obtain ⟨aggregates, hmade, -, rfl⟩ := build_eq_ok_iff.mp h
  exact mem_of_mapM_eq_ok hmade

/-- Every aggregation has its value, under the generated name. -/
lemma exists_value_of_mem (h : build aggregations select groupBy = .ok p)
    {a : Ident × Aggregator} (ha : a ∈ aggregations) :
    ∃ value ∈ p.aggregates, value.source = a.1 ∧ value.func = a.2 ∧
      value.label.text = a.1.text ++ "_" ++ a.2.suffix := by
  obtain ⟨aggregates, hmade, -⟩ := build_eq_ok_iff.mp h
  obtain ⟨value, hmake⟩ := mapM_isOk_iff.mp ⟨aggregates, hmade⟩ a ha
  obtain ⟨hsource, hfunc⟩ := Aggregate.make_eq_ok hmake
  exact ⟨value, (exists_make_of_mem h).mpr ⟨a, ha, hmake⟩, hsource, hfunc,
    Aggregate.label_of_make hmake⟩

/-- The values are of the columns that were asked for, in order. -/
lemma sources_of_build (h : build aggregations select groupBy = .ok p) :
    p.aggregates.map (·.source) = aggregations.map (·.1) := by
  obtain ⟨aggregates, hmade, -, rfl⟩ := build_eq_ok_iff.mp h
  refine (map_eq_of_forall₂ (fun a value hmake => ?_) (mapM_eq_ok_iff.mp hmade)).symm
  exact (Aggregate.make_eq_ok hmake).1.symm

/-- Values of different columns have different names. -/
lemma nodup_labels (hnodup : (aggregations.map (·.1)).Nodup)
    (h : build aggregations select groupBy = .ok p) : (p.aggregates.map (·.label)).Nodup := by
  have hvalues : p.aggregates.Nodup := .of_map (·.source) (by rwa [sources_of_build h])
  refine hvalues.map_on fun x hx y hy hlabel => ?_
  obtain ⟨a, -, hmakeX⟩ := (exists_make_of_mem h).mp hx
  obtain ⟨b, -, hmakeY⟩ := (exists_make_of_mem h).mp hy
  obtain rfl := Aggregate.eq_of_label hmakeX hmakeY hlabel
  exact Except.ok.inj (hmakeX.symm.trans hmakeY)

/-- No grouped column is called like a value when none has the name of one of the plan. -/
lemma namesApart_iff (h : build aggregations select groupBy = .ok p) :
    NamesApart aggregations groupBy ↔ ∀ c ∈ groupBy, ∀ value ∈ p.aggregates, value.label ≠ c := by
  refine forall₂_congr fun c _ => ⟨fun hapart value hvalue heq => ?_, fun hapart a ha htext => ?_⟩
  · obtain ⟨a, ha, hmake⟩ := (exists_make_of_mem h).mp hvalue
    exact hapart a ha (heq ▸ Aggregate.label_of_make hmake)
  · obtain ⟨value, hvalue, -, -, hlabel⟩ := exists_value_of_mem h ha
    exact hapart value hvalue (Ident.eq_of_text (hlabel.trans htext.symm))

/-- Columns and values have different names throughout when no column is called like a value. -/
lemma nodup_outputs_iff (hnodup : (aggregations.map (·.1)).Nodup)
    (h : build aggregations select groupBy = .ok p) :
    p.outputs.Nodup ↔ NamesApart aggregations groupBy := by
  rw [outputs, List.nodup_append, namesApart_iff h]
  constructor
  · rintro ⟨-, -, hapart⟩ c hc value hvalue heq
    exact hapart c ((mem_plain_iff h).mpr hc) _ (List.mem_map_of_mem hvalue) heq.symm
  · refine fun hapart => ⟨nodup_plain h, nodup_labels hnodup h, fun c hc d hd heq => ?_⟩
    obtain ⟨value, hvalue, rfl⟩ := List.mem_map.mp hd
    exact hapart c ((mem_plain_iff h).mp hc) value hvalue heq.symm

/-- A name stands for the column itself when no value has it. -/
lemma expression_eq_column_iff (p : Plan) (c : Ident) :
    p.expression c = column c ↔ ∀ value ∈ p.aggregates, value.label ≠ c := by
  unfold expression
  cases hfind : p.aggregates.find? fun a => decide (a.label = c) with
  | none => exact ⟨fun _ => by simpa using hfind, fun _ => rfl⟩
  | some a =>
    have hlabel : a.label = c := by simpa using List.find?_some hfind
    refine ⟨fun heq => ?_, fun hapart => absurd hlabel (hapart a (List.mem_of_find?_eq_some hfind))⟩
    -- A value is longer than a column: the words of the function stand around it.
    exact absurd (congrArg List.length heq)
      (by simp [Aggregate.expression, Aggregator.apply, word, column])

/-- Conditions on grouped columns are about these columns when no column is called like a value. -/
lemma meansColumns_iff (h : build aggregations select groupBy = .ok p) :
    p.MeansColumns ↔ NamesApart aggregations groupBy := by
  rw [namesApart_iff h]
  simp only [← expression_eq_column_iff, ← groupBy_of_build h]
  constructor
  · intro hmeans c hc
    have hnull := congrArg Fragment.sql (hmeans [⟨c, [.isNull]⟩] (by simpa using hc)).2
    simpa [groupConditions, rowConditions, conditions, Condition.sql] using hnull
  · refine fun hcolumns filters hgrouped => ⟨?_, ?_⟩
    · refine mapM_eq_ok_iff.mpr (List.forall₂_same.mpr fun f hf => ?_)
      have hmem : p.groupBy.contains f.column = true := by simpa using hgrouped f hf
      have hremap : p.remap f.column = f.column := if_pos hmem
      unfold remapFilter
      dsimp only
      rw [hremap, hmem, Bool.true_or, if_pos rfl]
    · have htexts :
          (filters.flatMap fun f => f.conditions.map (Condition.sql (p.expression f.column))) =
            filters.flatMap fun f => f.conditions.map (Condition.sql (column f.column)) :=
        List.flatMap_congr fun f hf => by rw [hcolumns f.column (hgrouped f hf)]
      rw [groupConditions, rowConditions, conditions, conditions, htexts]

/-- **Columns and values are told apart exactly when no grouped column is called like a value.** In
a plan of different columns no two values have one name, and no column is shown twice. That no value
has the name of a column either, that no row loses a field, and that conditions on grouped columns
are about these columns, comes to one and the same: no grouped column has a name made of an
aggregated column, an underscore and the end of its function.

**Proof sketch.** The columns shown are the grouped ones, each once, and the names of values differ
since the columns do. So a name is shown twice just if a grouped column is called like a value
(`nodup_outputs_iff`). A row is a record by the names of its columns, and loses a field just if two
of them are equal (`RowSet.record_eq_zip_iff`). What a condition is about is looked up among the
names of values first, which misses a grouped column just if it is called like one
(`meansColumns_iff`). -/
theorem outputs_nodup_tfae (hnodup : (aggregations.map (·.1)).Nodup)
    (h : build aggregations select groupBy = .ok p) :
    p.plain.Nodup ∧ (p.aggregates.map (·.label)).Nodup ∧
      [NamesApart aggregations groupBy, p.outputs.Nodup, p.KeepsFields, p.MeansColumns].TFAE := by
  refine ⟨nodup_plain h, nodup_labels hnodup h, ?_⟩
  have htexts : (p.outputs.map Ident.text).Nodup ↔ p.outputs.Nodup :=
    List.nodup_map_iff fun _ _ => Ident.eq_of_text
  tfae_have 2 ↔ 1 := nodup_outputs_iff hnodup h
  tfae_have 4 ↔ 1 := meansColumns_iff h
  tfae_have 2 → 3 := fun houtputs row hrow =>
    (RowSet.record_eq_zip_iff (by rwa [List.length_map])).mpr (htexts.mpr houtputs)
  tfae_have 3 → 2 := fun hkeeps => by
    have hlength : (List.replicate p.outputs.length Json.null).length = p.outputs.length :=
      List.length_replicate
    exact htexts.mp ((RowSet.record_eq_zip_iff (by rwa [List.length_map])).mp (hkeeps _ hlength))
  tfae_finish

/-- The sums of a column and the number of its rows, grouped by two columns, one of them the column
itself. -/
theorem outputs_nodup_tonnes :
    let aggregations := [(tonnesColumn, Aggregator.sum), (yearColumn, .count)]
    let groupBy := [sectorColumn, tonnesColumn]
    (aggregations.map (·.1)).Nodup ∧
      ∃ p, build aggregations [sectorColumn, yearColumn] groupBy = .ok p ∧
        NamesApart aggregations groupBy ∧ p.outputs.Nodup ∧ p.KeepsFields ∧ p.MeansColumns := by
  intro aggregations groupBy
  have hnodup : (aggregations.map (·.1)).Nodup := by decide
  obtain ⟨p, hp⟩ : ∃ p, build aggregations [sectorColumn, yearColumn] groupBy = .ok p := ⟨_, rfl⟩
  obtain ⟨-, -, htfae⟩ := outputs_nodup_tfae hnodup hp
  have hapart : NamesApart aggregations groupBy := by decide
  exact ⟨hnodup, p, hp, hapart, (htfae.out 0 1).mp hapart, (htfae.out 0 2).mp hapart,
    (htfae.out 0 3).mp hapart⟩

/-- A column that is called like a value. -/
def tonnesSumColumn : Ident := ⟨"tonnes_sum", by decide⟩

/-- Next to a sum that gets its name, the column is lost from every row, and a condition on it is
held against the sum. -/
theorem not_outputs_nodup_tonnes :
    ([(tonnesColumn, Aggregator.sum)].map (·.1)).Nodup ∧
      ∃ p, build [(tonnesColumn, .sum)] [] [tonnesSumColumn] = .ok p ∧
        p.outputs = [tonnesSumColumn, tonnesSumColumn] ∧ ¬p.outputs.Nodup ∧
        RowSet.record (p.outputs.map Ident.text) [.int 5, .int 120] = [("tonnes_sum", .int 120)] ∧
        p.remapHaving [⟨tonnesSumColumn, [.compare .above (.integer 5)]⟩] =
          .ok [⟨tonnesSumColumn, [.compare .above (.integer 5)]⟩] ∧
        (p.groupConditions [⟨tonnesSumColumn, [.compare .above (.integer 5)]⟩]).sql.render =
          "SUM(\"tonnes\") > ?" :=
  ⟨by decide, _, rfl, rfl, by decide, rfl, rfl, rfl⟩

end Plan

end QueryGate
