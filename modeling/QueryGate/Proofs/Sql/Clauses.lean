import QueryGate.Proofs.Sql.Pieces

set_option relaxedAutoImplicit false
set_option autoImplicit false

/-!
# The clauses of a statement

A statement is put together from the items it shows, the conditions it holds rows and groups to,
each with its own literals, and a few clauses more. Here these are gathered before any text is
made of them.

## Main definitions

* `QueryGate.Sql.conjuncts` — the conditions of some filters, each with its literals.
* `QueryGate.Sql.Clauses` — the clauses of a query, and the statement that they make.
* `QueryGate.Query.clauses` — the clauses of a checked request.
* `QueryGate.Comparison.assembled` — a comparison with given conditions on rows.

## Main results

* `QueryGate.Query.statement_eq_clauses` — the statement of a query is that of its clauses.
* `QueryGate.Comparison.fragment_eq_assembled` — a comparison holds rows to its own conditions.
-/

namespace QueryGate

open Sql Outcome

namespace Sql

/-- The conditions of some filters, each with its literals. `target` is what the column of a filter
stands for. -/
def conjuncts (target : Ident → Sql) (filters : List ColumnFilter) : List Fragment :=
  filters.flatMap fun f => f.conditions.map fun c => ⟨c.sql (target f.column), c.literals⟩

/-- Conditions that all have to hold, with their literals. -/
def allOf (conditions : List Fragment) : Fragment where
  sql := sepBy " AND " (conditions.map (·.sql))
  params := conditions.flatMap (·.params)

/-- The conditions of some filters, joined, are their conditions one by one. -/
lemma conditions_eq_allOf (target : Ident → Sql) (filters : List ColumnFilter) :
    conditions target filters = allOf (conjuncts target filters) := by
  simp only [conditions, allOf, conjuncts, List.map_flatMap, List.map_map, List.flatMap_assoc,
    List.flatMap_map, Function.comp_def]

/-- The clauses of a query. -/
structure Clauses where
  /-- The items shown. -/
  items : List Sql
  /-- The table. -/
  table : Ident
  /-- The conditions on rows, each with its literals. -/
  rows : List Fragment
  /-- The columns grouped by. -/
  groupBy : List Ident
  /-- The conditions on groups, each with its literals. -/
  groups : List Fragment
  /-- The sort order. -/
  orderBy : List SortKey
  /-- The most rows. -/
  limit : Nat
  /-- The number of rows to pass over. -/
  offset : Nat

/-- The statement that clauses make. -/
def Clauses.statement (cl : Clauses) : Statement where
  sql :=
    word "SELECT " ++ sepBy ", " cl.items ++ word " FROM " ++ tableRef cl.table.text ++
    clause " WHERE " (allOf cl.rows).sql ++
    clause " GROUP BY " (columns cl.groupBy) ++
    clause " HAVING " (allOf cl.groups).sql ++
    clause " ORDER BY " (sortKeys cl.orderBy) ++
    word " LIMIT " ++ [.number cl.limit] ++
    (if cl.offset = 0 then [] else word " OFFSET " ++ [.number cl.offset])
  params := (allOf cl.rows).params ++ (allOf cl.groups).params

/-- Two queries with the same clauses, but for the order of the items that they show and of the
conditions that they hold rows and groups to. -/
structure Clauses.Reordered (a b : Clauses) : Prop where
  /-- The items shown. -/
  items : a.items.Perm b.items
  /-- The tables. -/
  table : a.table = b.table
  /-- The conditions on rows, each with its literals. -/
  rows : a.rows.Perm b.rows
  /-- The columns grouped by. -/
  groupBy : a.groupBy = b.groupBy
  /-- The conditions on groups, each with its literals. -/
  groups : a.groups.Perm b.groups
  /-- The sort orders. -/
  orderBy : a.orderBy = b.orderBy
  /-- The most rows. -/
  limit : a.limit = b.limit
  /-- The numbers of rows to pass over. -/
  offset : a.offset = b.offset

end Sql

/-! ## Queries -/

namespace Query

/-- The clauses of a query, given the items that it shows, its conditions on groups, and its sort
order with references resolved. -/
def withClauses (table : Ident) (q : Query) (items : List Sql) (groups : List Fragment)
    (orderBy : List SortKey) : Clauses where
  items := items
  table := table
  rows := conjuncts column q.filters
  groupBy := q.groupBy
  groups := groups
  orderBy := orderBy
  limit := q.limit
  offset := q.offset

/-- The clauses of a query without aggregation. -/
def clausesPlain (table : Ident) (q : Query) : Except Refusal Clauses :=
  if !q.having.isEmpty then .error .havingAlone
  else
    .ok (q.withClauses table (if q.select.isEmpty then [word "*"] else q.select.map column) []
      q.orderBy)

/-- The clauses of a query with aggregation. -/
def clausesGrouped (table : Ident) (q : Query) : Except Refusal Clauses := do
  let plan ← Plan.build q.aggregations q.select q.groupBy
  let having ← plan.remapHaving q.having
  return q.withClauses table plan.projection (conjuncts plan.expression having)
    (plan.remapKeys q.orderBy)

/-- The clauses of a query. -/
def clauses (table : Ident) (q : Query) : Except Refusal Clauses :=
  if q.aggregations.isEmpty then q.clausesPlain table else q.clausesGrouped table

/-- What clauses show, and the statement that they make, are what a query shows and its text. -/
structure Told (table : Ident) (q : Query) (s : Shown) (cl : Clauses) : Prop where
  /-- The text. -/
  sql : (q.fragment table s).sql = cl.statement.sql
  /-- The literals. -/
  params : (q.fragment table s).params = cl.statement.params

/-- The clauses with given items and conditions on groups make the text that shows them. -/
lemma told_withClauses (table : Ident) (q : Query) (items : List Sql) (groups : List Fragment)
    (orderBy : List SortKey) :
    q.Told table ⟨sepBy ", " items, allOf groups, orderBy⟩
      (q.withClauses table items groups orderBy) := by
  constructor
  · simp only [fragment, rowConditions, conditions_eq_allOf]
    rfl
  · simp only [fragment, rowConditions, conditions_eq_allOf]
    rfl

/-- A query has clauses exactly when it shows something, and these make its text. -/
lemma shown_alike_clauses (table : Ident) (q : Query) :
    Outcome.Alike (q.Told table) q.shown (q.clauses table) := by
  unfold shown clauses
  split_ifs
  · unfold shownPlain clausesPlain
    split_ifs
    · exact .error _
    · rw [← sepBy_singleton ", " (word "*")]
      exact .ok (q.told_withClauses table _ [] _)
    · exact .ok (q.told_withClauses table _ [] _)
  · unfold shownGrouped clausesGrouped
    cases Plan.build q.aggregations q.select q.groupBy with
    | error e => exact .error e
    | ok plan =>
      rw [ok_bind, ok_bind]
      cases plan.remapHaving q.having with
      | error e => exact .error e
      | ok having =>
        rw [ok_bind, ok_bind, Plan.groupConditions, conditions_eq_allOf]
        exact .ok (q.told_withClauses table _ _ _)

/-- **The statement of a query is that of its clauses.** -/
theorem statement_eq_clauses (table : Ident) (q : Query) (reader : Reader) :
    q.statement table reader = (do
      let cl ← (q.clauses table).mapError Refusal.failure
      (Statement.verified reader cl.statement.sql cl.statement.params).mapError
        StatementFault.failure) := by
  have h := q.shown_alike_clauses table
  unfold statement
  generalize q.shown = x at h
  generalize q.clauses table = y at h
  cases h with
  | ok htold =>
    rw [Except.mapError, Except.mapError, ok_bind, ok_bind]
    dsimp only
    rw [htold.sql, htold.params]
  | error e => rfl

end Query

/-! ## Comparisons -/

namespace Comparison

/-- A comparison with given conditions on rows. -/
def assembled (table : Ident) (c : Comparison) (rows : List Fragment) : Statement where
  sql :=
    c.opening table ++
      (if (allOf rows).sql.isEmpty then [] else (allOf rows).sql ++ word " AND ") ++
      (column c.yearColumn ++ word " IN (") ++ slots 2 ++ c.pairing ++ [.slot] ++
      word " AND c.period = " ++ [.slot] ++ c.ranking
  params :=
    (allOf rows).params ++ [.integer c.baseYear, .integer c.compareYear, .integer c.baseYear,
      .integer c.compareYear]

/-- The conditions on rows of a comparison, each with its literals. -/
def rows (c : Comparison) : List Fragment := conjuncts column c.filters

/-- **A comparison holds rows to its own conditions.** -/
theorem fragment_eq_assembled (table : Ident) (c : Comparison) :
    (c.fragment table).sql = (c.assembled table c.rows).sql ∧
      (c.fragment table).params = (c.assembled table c.rows).params := by
  rw [assembled, rows, ← conditions_eq_allOf]
  exact ⟨c.fragment_sql table, rfl⟩

end Comparison

end QueryGate
