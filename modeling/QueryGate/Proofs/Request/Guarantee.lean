import QueryGate.Proofs.Filter.Guarantee
import QueryGate.Proofs.Mention
import QueryGate.Proofs.Request.Check

set_option relaxedAutoImplicit false
set_option autoImplicit false

/-!
# What a checked request guarantees

Each part of a request is checked in a place of its own. Together the checks leave no way around
any of them: a request is refused, or the query that it stands for keeps every ceiling in every
part.

## Main definitions

* `QueryGate.Query.namedColumns` — every column that a query names.
* `QueryGate.QueryRequest.Guarantees` — what a query keeps to, against the request that it is of.

## Main results

* `QueryGate.QueryRequest.check_guarantees` — a request is refused, or its query keeps to all of it.
-/

namespace QueryGate

open Outcome

/-- Every column that a query names. -/
def Query.namedColumns (q : Query) : List Ident :=
  q.select ++ q.groupBy ++ q.filters.map (·.column) ++ q.orderBy.map (·.column) ++
    q.aggregations.map (·.1) ++ q.having.map (·.column)

/-- What a query keeps to, against the request that it is of. -/
structure QueryRequest.Guarantees (limits : Limits) (r : QueryRequest) (q : Query) : Prop where
  /-- Every column has a name that may stand as one. -/
  names : ∀ c ∈ q.namedColumns, IsColumnName c.text
  /-- The columns to show are those wanted, each once, in the order of first mention. -/
  select : FirstMentions r.select (q.select.map Ident.text)
  /-- No more columns are wanted than may be shown. -/
  selectCount : r.select.length ≤ limits.ceilings.select
  /-- The columns to group by are those wanted, each once, in the order of first mention. -/
  groupBy : FirstMentions r.groupBy (q.groupBy.map Ident.text)
  /-- No more columns are wanted than may be grouped by. -/
  groupByCount : r.groupBy.length ≤ limits.ceilings.groupBy
  /-- Rows are filtered by no more columns than may be. -/
  filterCount : q.filters.length ≤ limits.ceilings.filters
  /-- No column has two filters on rows. -/
  filterColumns : (q.filters.map (·.column)).Nodup
  /-- Every filter has a condition, and its conditions keep the ceilings on values. -/
  filters : ∀ f ∈ q.filters ++ q.having, f.Sound
  /-- No more rows are asked for than an answer may have. -/
  limit : q.limit ≤ limits.maxRows
  /-- The engine can count the rows to pass over. -/
  offset : q.offset ≤ 2 ^ 63 - 1

/-- Columns that are read are those named, each once, in the order of first mention. -/
lemma firstMentions_of_uniqueColumns {names : List String} {columns : List Ident}
    (h : uniqueColumns names = .ok columns) :
    FirstMentions names (columns.map Ident.text) := by
  have hname : ∀ name c, Ident.column name = .ok c → id name = c.text :=
    fun _ _ hread => (Ident.column_eq_ok_iff.mp hread).symm
  have htexts : names.eraseDups.map id = columns.map Ident.text :=
    map_eq_of_forall₂ hname (mapM_eq_ok_iff.mp h)
  rw [← htexts, List.map_id]
  exact firstMentions_eraseDups names

/-- There is one filter for each member of an object of filters, on the column of its name. -/
lemma map_text_of_readFilters {members : List (String × Json)} {filters : List ColumnFilter}
    (h : readFilters members = .ok filters) :
    filters.map (fun f => f.column.text) = members.map (·.1) := by
  have hname : ∀ (m : String × Json) f, ColumnFilter.ofJson m.1 m.2 = .ok f →
      m.1 = f.column.text := fun _ _ hread => (ColumnFilter.text_of_ofJson hread).symm
  exact (map_eq_of_forall₂ hname (mapM_eq_ok_iff.mp h)).symm

/-- Every filter of an object of filters is sound. -/
lemma sound_of_readFilters {members : List (String × Json)} {filters : List ColumnFilter}
    (h : readFilters members = .ok filters) : ∀ f ∈ filters, f.Sound := by
  intro f hf
  obtain ⟨m, -, hread⟩ := (mem_of_mapM_eq_ok h).mp hf
  exact ColumnFilter.sound_of_ofJson hread

namespace QueryRequest

/-- **A request is refused as invalid, or it has a query that keeps to everything**, where no
column stands twice among the filters on rows.

**Proof sketch.** A request that passes has kept the ceilings and is read part by part
(`fits_of_check`, `reads_of_check`). Each guarantee is a property of one part: lists of columns keep
their first mentions, every literal in a filter has passed its own check (`sound_of_readFilters`),
and limit and offset are capped where they are read. -/
theorem check_guarantees (limits : Limits) (r : QueryRequest)
    (hkeys : (r.filters.map (·.1)).Nodup) :
    (∃ refusal, r.check limits = .error refusal ∧ refusal.failure.code = .validation) ∨
      ∃ q, r.check limits = .ok q ∧ r.Guarantees limits q := by
  cases hcheck : r.check limits with
  | error refusal => exact Or.inl ⟨refusal, rfl, rfl⟩
  | ok q =>
    refine Or.inr ⟨q, rfl, ?_⟩
    have hreads := reads_of_check hcheck
    have hfits := fits_of_check hcheck
    have hfilters := map_text_of_readFilters hreads.filters
    exact {
      names := fun c _ => c.isColumnName
      select := firstMentions_of_uniqueColumns hreads.select
      selectCount := hfits.select
      groupBy := firstMentions_of_uniqueColumns hreads.groupBy
      groupByCount := hfits.groupBy
      filterCount := by
        have hlength := congrArg List.length hfilters
        simp only [List.length_map] at hlength
        exact hlength ▸ hfits.filters
      filterColumns := by
        rw [← hfilters] at hkeys
        exact List.Nodup.of_map Ident.text (by rwa [List.map_map])
      filters := fun f hf => (List.mem_append.mp hf).elim
        (sound_of_readFilters hreads.filters f) (sound_of_readFilters hreads.having f)
      limit := by
        rw [hreads.limit]
        exact Nat.min_le_right _ _
      offset := by
        rw [hreads.offset]
        exact hfits.offset }

/-- A request for the totals of some countries, with a column named twice. -/
def countryTotals : QueryRequest where
  fileId := "power-country-year"
  select := ["country", "tonnes", "country"]
  filters := [("year", .obj [("gte", .int 2015), ("contains", .int 20)]),
    ("country", .arr [.str "France", .str "Poland"])]
  groupBy := ["country"]
  orderBy := .one "tonnes desc"
  limit := some 20000
  aggregations := [("tonnes", .str "sum")]
  having := [("tonnes", .obj [("gt", .int 5)])]

/-- Such a request is not refused. -/
theorem check_countryTotals_guarantees :
    (countryTotals.filters.map (·.1)).Nodup ∧
      ∃ q, countryTotals.check {} = .ok q ∧ countryTotals.Guarantees {} q := by
  have hkeys : (countryTotals.filters.map (·.1)).Nodup := by decide
  have hok : ∃ q, countryTotals.check {} = .ok q := ⟨_, rfl⟩
  refine ⟨hkeys, ?_⟩
  rcases check_guarantees {} countryTotals hkeys with ⟨refusal, hrefusal, -⟩ | h
  · obtain ⟨q, hq⟩ := hok
    rw [hq] at hrefusal
    exact absurd hrefusal nofun
  · exact h

end QueryRequest

end QueryGate
