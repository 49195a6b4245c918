import QueryGate.Proofs.Filter.Grammar
import QueryGate.Request.Query

set_option relaxedAutoImplicit false
set_option autoImplicit false

/-!
# What a checked request is made of

A request is checked part by part, and each part of the query is read from one part of the request.

## Main definitions

* `QueryGate.QueryRequest.Reads` — a query is read part by part from a request.
* `QueryGate.QueryRequest.Fits` — a request keeps the ceilings on its size.

## Main results

* `QueryGate.Ceilings.check_isOk_iff` — which sizes and names pass.
* `QueryGate.QueryRequest.reads_of_check` — the query of a request is so read.
* `QueryGate.QueryRequest.fits_of_check` — a request that has a query keeps the ceilings.
* `QueryGate.exists_filter_iff` — which columns are filtered.
-/

namespace QueryGate

open Outcome

/-! ## Sizes and names -/

namespace Ceilings

/-- A list within its ceiling is no problem. -/
lemma excess_eq_nil_iff {what : String} {length ceiling : Nat} :
    excess what length ceiling = [] ↔ length ≤ ceiling := by
  simp [excess]

/-- Sizes and names pass when none of them is a problem. -/
lemma check_isOk_iff (c : Ceilings) {select keys groupBy others : List String} :
    (∃ u, c.check select keys groupBy others = .ok u) ↔
      select.length ≤ c.select ∧ groupBy.length ≤ c.groupBy ∧ keys.length ≤ c.filters ∧
        ∀ name ∈ select ++ keys ++ groupBy ++ others, nameProblem name = none := by
  have hproblems : (∃ u, c.check select keys groupBy others = .ok u) ↔
      c.problems select keys groupBy others = [] := by
    rw [check]
    rcases c.problems select keys groupBy others with _ | ⟨p, _ | ⟨p', ps⟩⟩ <;> simp
  rw [hproblems]
  simp [problems, List.filterMap_eq_nil_iff, excess_eq_nil_iff]

end Ceilings

/-! ## Checked requests -/

/-- The ceilings on the size of a request are kept. -/
structure QueryRequest.Fits (limits : Limits) (r : QueryRequest) : Prop where
  /-- The columns to show. -/
  select : r.select.length ≤ limits.ceilings.select
  /-- The columns to group by. -/
  groupBy : r.groupBy.length ≤ limits.ceilings.groupBy
  /-- The columns that rows are filtered by. -/
  filters : r.filters.length ≤ limits.ceilings.filters
  /-- The number of rows to pass over. -/
  offset : r.offset.getD 0 ≤ maxOffset

/-- The parts of a query, each read from its part of a request. -/
structure QueryRequest.Reads (limits : Limits) (r : QueryRequest) (q : Query) : Prop where
  /-- The columns to show. -/
  select : uniqueColumns r.select = .ok q.select
  /-- The columns to group by. -/
  groupBy : uniqueColumns r.groupBy = .ok q.groupBy
  /-- The conditions on rows. -/
  filters : readFilters r.filters = .ok q.filters
  /-- The conditions on groups. -/
  having : readFilters r.having = .ok q.having
  /-- The aggregations. -/
  aggregations : r.aggregations.mapM readAggregation = .ok q.aggregations
  /-- The sort order. -/
  orderBy : ∃ order, r.orderBy.parse = .ok order ∧ order.mapM SortTerm.check = .ok q.orderBy
  /-- The most rows. -/
  limit : q.limit = limits.rows r.limit
  /-- The number of rows to pass over. -/
  offset : q.offset = r.offset.getD 0

/-- A request that has a query keeps the ceilings, and its query is read part by part. -/
lemma QueryRequest.fits_and_reads_of_check {limits : Limits} {r : QueryRequest} {q : Query}
    (h : r.check limits = .ok q) : r.Fits limits ∧ r.Reads limits q := by
  unfold check at h
  obtain ⟨order, horder, h⟩ := bind_eq_ok_iff.mp h
  dsimp only at h
  split_ifs at h with hoffset
  · exact absurd h nofun
  obtain ⟨u, hsizes, h⟩ := bind_eq_ok_iff.mp h
  obtain ⟨select, hselect, h⟩ := bind_eq_ok_iff.mp h
  obtain ⟨groupBy, hgroupBy, h⟩ := bind_eq_ok_iff.mp h
  obtain ⟨filters, hfilters, h⟩ := bind_eq_ok_iff.mp h
  obtain ⟨having, hhaving, h⟩ := bind_eq_ok_iff.mp h
  obtain ⟨aggregations, haggregations, h⟩ := bind_eq_ok_iff.mp h
  obtain ⟨orderBy, horderBy, h⟩ := bind_eq_ok_iff.mp h
  obtain rfl := Except.ok.inj h
  obtain ⟨hselects, hgroups, hkeys, -⟩ := (limits.ceilings.check_isOk_iff).mp ⟨u, hsizes⟩
  rw [List.length_map] at hkeys
  exact ⟨⟨hselects, hgroups, hkeys, Nat.le_of_not_lt hoffset⟩,
    hselect, hgroupBy, hfilters, hhaving, haggregations, ⟨order, horder, horderBy⟩, rfl, rfl⟩

/-- A request that has a query keeps the ceilings. -/
lemma QueryRequest.fits_of_check {limits : Limits} {r : QueryRequest} {q : Query}
    (h : r.check limits = .ok q) : r.Fits limits := (fits_and_reads_of_check h).1

/-- The query of a request is read part by part. -/
theorem QueryRequest.reads_of_check {limits : Limits} {r : QueryRequest} {q : Query}
    (h : r.check limits = .ok q) : r.Reads limits q := (fits_and_reads_of_check h).2

/-- Names are told apart by their texts. -/
lemma Ident.eq_of_text : ∀ {c d : Ident}, c.text = d.text → c = d
  | ⟨_, _⟩, ⟨_, _⟩, rfl => rfl

/-- A filter is on the column that it stands under. -/
lemma ColumnFilter.text_of_ofJson {name : String} {value : Json} {f : ColumnFilter}
    (h : ColumnFilter.ofJson name value = .ok f) : f.column.text = name :=
  (ColumnFilter.ofJson_eq_ok_iff.mp h).column

/-- The columns filtered are those that stand in the object of filters. -/
lemma exists_filter_iff {members : List (String × Json)} {filters : List ColumnFilter}
    (h : readFilters members = .ok filters) (name : String) :
    (∃ f ∈ filters, f.column.text = name) ↔ name ∈ members.map (·.1) := by
  constructor
  · rintro ⟨f, hf, rfl⟩
    obtain ⟨m, hm, hread⟩ := (mem_of_mapM_eq_ok h).mp hf
    exact List.mem_map.mpr ⟨m, hm, (ColumnFilter.text_of_ofJson hread).symm⟩
  · intro hname
    obtain ⟨m, hm, rfl⟩ := List.mem_map.mp hname
    obtain ⟨f, hread⟩ := mapM_isOk_iff.mp ⟨filters, h⟩ m hm
    exact ⟨f, (mem_of_mapM_eq_ok h).mpr ⟨m, hm, hread⟩, ColumnFilter.text_of_ofJson hread⟩

/-- An aggregation is read from a column with the name of a function. -/
lemma readAggregation_eq_ok {m : String × Json} {a : Ident × Aggregator}
    (h : readAggregation m = .ok a) : ∃ func, m.2 = .str func := by
  unfold readAggregation at h
  split at h
  case h_1 func hfunc => exact ⟨func, hfunc⟩
  case h_2 => exact absurd h nofun

end QueryGate
