import QueryGate.Proofs.Sql.Outputs

set_option relaxedAutoImplicit false
set_option autoImplicit false

/-!
# Plans as projections

A plan is refused for a selected column that is neither aggregated nor grouped by, and for a name
that would get too long; nothing else about a generated name can be wrong. What a plan shows are the
grouped columns, each once, and behind them one value per aggregation.

## Main definitions

* `QueryGate.Aggregate.labelText` — the name that a value gets.
* `QueryGate.Plan.IsProjection` — what is shown for some aggregations, selected and grouped columns.

## Main results

* `QueryGate.Aggregate.make_isOk_iff` — a generated name is good when it is short.
* `QueryGate.Plan.build_isOk_iff` — what a plan is refused for.
* `QueryGate.Plan.plain_eq_append` — selected columns stand before the remaining grouped ones.
* `QueryGate.Plan.build_isProjection` — which plans there are, and what they show.
-/

namespace QueryGate

open Sql Outcome

/-! ## Generated names -/

/-- The name that the value of an aggregation gets. -/
def Aggregate.labelText (a : Ident × Aggregator) : String := a.1.text ++ "_" ++ a.2.suffix

lemma Aggregator.isAlphanum_of_mem_suffix (f : Aggregator) :
    ∀ c ∈ f.suffix.toList, c.isAlphanum = true := by
  rw [← List.all_eq_true]
  cases f <;> rfl

/-- Two characters in a row that are not behind a separator stand before it. -/
lemma pair_infix_of_append {d : Char} {as bs : List Char} (hd : d ∉ bs)
    (h : [d, d] <:+: as ++ bs) : [d, d] <:+: as := by
  obtain ⟨before, after, h⟩ := h
  rcases List.append_eq_append_iff.mp h with ⟨rest, rfl, -⟩ | ⟨rest, hrest, hbs⟩
  · exact ⟨before, rest, rfl⟩
  · -- The part of the pair behind the border is empty: its last character would be the pair's.
    rcases List.eq_nil_or_concat rest with rfl | ⟨rest, c, rfl⟩
    · exact ⟨before, [], by simpa using hrest⟩
    · have hlast : d = c := by simpa using congrArg List.getLast? hrest
      exact absurd (by simp [hbs, hlast]) hd

lemma mem_toList_lowerName {name : String} (h : '_' ∈ name.toList) :
    '_' ∈ (lowerName name).toList := by
  rw [lowerName, String.toList_ofList]
  exact List.mem_map.mpr ⟨'_', h, by decide⟩

/-- A name behind which an underscore and a suffix are written is a name again, if it is short. -/
lemma isColumnName_labelText {a : Ident × Aggregator}
    (hshort : (Aggregate.labelText a).utf8ByteSize ≤ 100) :
    IsColumnName (Aggregate.labelText a) := by
  have hchars : (Aggregate.labelText a).toList = a.1.text.toList ++ '_' :: a.2.suffix.toList := by
    simp [Aggregate.labelText]
  have hunderscore : '_' ∈ (Aggregate.labelText a).toList := by simp [hchars]
  refine ⟨?_, hshort, ?_, ?_, ?_⟩
  · rintro hempty
    simp [hempty] at hunderscore
  · intro c hc
    rw [hchars, List.mem_append, List.mem_cons] at hc
    rcases hc with hc | rfl | hc
    · exact a.1.isColumnName.alphabet c hc
    · exact Or.inr (Or.inl rfl)
    · exact Or.inl (a.2.isAlphanum_of_mem_suffix c hc)
  · intro hdots
    rw [hchars] at hdots
    refine a.1.isColumnName.apart (pair_infix_of_append (fun hdot => ?_) hdots)
    rcases List.mem_cons.mp hdot with h | hdot
    · exact absurd h (by decide)
    · exact absurd (a.2.isAlphanum_of_mem_suffix _ hdot) (by decide)
  · -- No keyword holds an underscore.
    intro hreserved
    have hnone : ∀ w ∈ reservedWords, '_' ∉ w.toList := by decide
    exact hnone _ hreserved (mem_toList_lowerName hunderscore)

/-- **A generated name is good exactly when it is short.** -/
theorem Aggregate.make_isOk_iff {a : Ident × Aggregator} :
    (∃ value, Aggregate.make a.1 a.2 = .ok value) ↔ (labelText a).utf8ByteSize ≤ 100 := by
  have hlabel : (∃ value, make a.1 a.2 = .ok value) ↔ ∃ c, Ident.column (labelText a) = .ok c := by
    simp only [make, map_eq_ok_iff, Ident.withSuffix, labelText]
    exact ⟨fun ⟨_, c, hc, _⟩ => ⟨c, hc⟩, fun ⟨c, hc⟩ => ⟨_, c, hc, rfl⟩⟩
  rw [hlabel, Ident.exists_column_iff]
  exact ⟨fun h => h.short, isColumnName_labelText⟩

/-! ## What is shown -/

/-- The text of an aggregation under the name of its value. -/
def Aggregate.itemText (a : Ident × Aggregator) : String :=
  (a.2.apply a.1).render ++ " AS " ++ "\"" ++ labelText a ++ "\""

lemma Aggregate.render_projection {a : Ident × Aggregator} {value : Aggregate}
    (h : Aggregate.make a.1 a.2 = .ok value) : value.projection.render = itemText a := by
  obtain ⟨hsource, hfunc⟩ := make_eq_ok h
  have hlabel : value.label.text = labelText a := label_of_make h
  rw [projection, expression, hsource, hfunc, render_append, render_append, render_word,
    render_column, hlabel, itemText]
  simp only [String.append_assoc]

namespace Plan

/-- What is shown for some aggregations, selected and grouped columns. -/
structure IsProjection (aggregations : List (Ident × Aggregator)) (select groupBy : List Ident)
    (p : Plan) : Prop where
  /-- No column is shown twice. -/
  nodup : p.plain.Nodup
  /-- The columns shown are the grouped ones. -/
  mem_plain : ∀ c, c ∈ p.plain ↔ c ∈ groupBy
  /-- First come the selected columns that are not aggregated, in the order of first mention, and
  then the remaining grouped ones in theirs. -/
  order : ∃ selected rest, p.plain = selected ++ rest ∧
    FirstMentions (select.filter fun c => c ∉ aggregations.map (·.1)) selected ∧
    FirstMentions (groupBy.filter fun c => c ∉ selected) rest
  /-- Behind the columns stands each aggregation under its name, in the order asked for. -/
  items : p.projection.map render =
    p.plain.map (fun c => "\"" ++ c.text ++ "\"") ++ aggregations.map Aggregate.itemText
  /-- So do their names. -/
  names : p.outputs.map Ident.text =
    p.plain.map Ident.text ++ aggregations.map Aggregate.labelText

variable {aggregations : List (Ident × Aggregator)} {select groupBy : List Ident} {p : Plan}

lemma isSource_eq_decide (c : Ident) :
    isSource aggregations c = decide (c ∈ aggregations.map (·.1)) := by
  rw [Bool.eq_iff_iff, isSource_iff, decide_eq_true_iff, List.mem_map]

/-- The columns selected as they are stand before the grouped columns that are not among them. -/
lemma plain_eq_append (h : build aggregations select groupBy = .ok p) :
    ∃ selected rest, p.plain = selected ++ rest ∧
      FirstMentions (select.filter fun c => c ∉ aggregations.map (·.1)) selected ∧
      FirstMentions (groupBy.filter fun c => c ∉ selected) rest := by
  obtain ⟨aggregates, -, -, rfl⟩ := build_eq_ok_iff.mp h
  have hselected : (select.filter fun c => !isSource aggregations c) =
      select.filter fun c => c ∉ aggregations.map (·.1) :=
    List.filter_congr fun c _ => by rw [isSource_eq_decide, decide_not]
  dsimp only
  rw [hselected, List.eraseDups_append]
  generalize (select.filter fun c => c ∉ aggregations.map (·.1)) = selected
  refine ⟨selected.eraseDups, _, rfl, firstMentions_eraseDups _, ?_⟩
  have hrest : groupBy.removeAll selected = groupBy.filter fun c => c ∉ selected.eraseDups :=
    List.filter_congr fun c _ => by simp
  rw [← hrest]
  exact firstMentions_eraseDups _

lemma projection_of_build (h : build aggregations select groupBy = .ok p) :
    p.projection.map render =
      p.plain.map (fun c => "\"" ++ c.text ++ "\"") ++ aggregations.map Aggregate.itemText := by
  obtain ⟨aggregates, hmade, -, rfl⟩ := build_eq_ok_iff.mp h
  have hitems : aggregations.map Aggregate.itemText =
      aggregates.map fun value => value.projection.render := by
    refine map_eq_of_forall₂ (fun a value hmake => ?_) (mapM_eq_ok_iff.mp hmade)
    exact (Aggregate.render_projection hmake).symm
  rw [projection, List.map_append, List.map_map, List.map_map, hitems]
  simp only [Function.comp_def, render_column]

lemma outputs_of_build (h : build aggregations select groupBy = .ok p) :
    p.outputs.map Ident.text = p.plain.map Ident.text ++ aggregations.map Aggregate.labelText := by
  obtain ⟨aggregates, hmade, -, rfl⟩ := build_eq_ok_iff.mp h
  have hlabels : aggregations.map Aggregate.labelText =
      aggregates.map fun value => value.label.text := by
    refine map_eq_of_forall₂ (fun a value hmake => ?_) (mapM_eq_ok_iff.mp hmade)
    exact (Aggregate.label_of_make hmake).symm
  rw [outputs, List.map_append, List.map_map, hlabels]
  rfl

/-- A plan is refused for a selected column with no place in it, and for a name that is long. -/
lemma build_isOk_iff : (∃ p, build aggregations select groupBy = .ok p) ↔
    (∀ c ∈ select, c ∈ aggregations.map (·.1) ∨ c ∈ groupBy) ∧
      ∀ a ∈ aggregations, (Aggregate.labelText a).utf8ByteSize ≤ 100 := by
  have hnames : (∀ a ∈ aggregations, (Aggregate.labelText a).utf8ByteSize ≤ 100) ↔
      ∃ aggregates, aggregations.mapM (fun a => Aggregate.make a.1 a.2) = .ok aggregates := by
    simp only [mapM_isOk_iff, Aggregate.make_isOk_iff]
  have hsources : (∀ c ∈ select, c ∈ aggregations.map (·.1) ∨ c ∈ groupBy) ↔
      ∀ c ∈ select, isSource aggregations c = true ∨ c ∈ groupBy := by
    simp only [isSource_eq_decide, decide_eq_true_iff]
  rw [hsources, hnames]
  constructor
  · rintro ⟨p, h⟩
    obtain ⟨aggregates, hmade, hgrouped, -⟩ := build_eq_ok_iff.mp h
    exact ⟨hgrouped, aggregates, hmade⟩
  · rintro ⟨hgrouped, aggregates, hmade⟩
    exact ⟨_, build_eq_ok_iff.mpr ⟨aggregates, hmade, hgrouped, rfl⟩⟩

/-- **A plan is a projection of the grouped columns and of one value per aggregation.** There is one
exactly when every selected column is aggregated or grouped by, and no name gets longer than 100
bytes.

**Proof sketch.** A plan is refused in two places alone, for a selected column and for the name of a
value (`build_isOk_iff`). Otherwise its plain columns are those selected and those grouped by,
without repeats and in this order (`plain_eq_append`), and its values are those asked for, one by
one (`projection_of_build`). -/
theorem build_isProjection (aggregations : List (Ident × Aggregator))
    (select groupBy : List Ident) :
    ((∃ p, build aggregations select groupBy = .ok p) ↔
      (∀ c ∈ select, c ∈ aggregations.map (·.1) ∨ c ∈ groupBy) ∧
        ∀ a ∈ aggregations, (a.1.text ++ "_" ++ a.2.suffix).utf8ByteSize ≤ 100) ∧
    ∀ p, build aggregations select groupBy = .ok p →
      p.IsProjection aggregations select groupBy := by
  refine ⟨build_isOk_iff, fun p h => ?_⟩
  exact ⟨nodup_plain h, fun c => mem_plain_iff h, plain_eq_append h, projection_of_build h,
    outputs_of_build h⟩

/-- Columns that are selected twice, grouped by twice, or selected and aggregated. -/
theorem build_isProjection_repeats :
    let aggregations := [(tonnesColumn, Aggregator.sum), (yearColumn, .count)]
    let select := [sectorColumn, tonnesColumn, sectorColumn]
    let groupBy := [yearColumn, sectorColumn, yearColumn]
    ∃ p, build aggregations select groupBy = .ok p ∧ p.IsProjection aggregations select groupBy ∧
      p.projection.map render = ["\"sector\"", "\"year\"", "SUM(\"tonnes\") AS \"tonnes_sum\"",
        "COUNT(\"year\") AS \"year_count\""] := by
  intro aggregations select groupBy
  obtain ⟨haccepted, hprojects⟩ := build_isProjection aggregations select groupBy
  obtain ⟨p, hp⟩ := haccepted.mpr (by decide)
  refine ⟨p, hp, hprojects p hp, ?_⟩
  obtain rfl := Except.ok.inj (hp.symm.trans rfl)
  rfl

end Plan

end QueryGate
